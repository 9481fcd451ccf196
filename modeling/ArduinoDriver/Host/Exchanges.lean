import ArduinoDriver.Host.StreamCalls

namespace ArduinoDriver

open Lib (Program)

/-- A request as the driver hands it to its transport: a pin or another byte for its index. -/
def SetupPacket.Plain (s : SetupPacket) : Prop :=
  (s.bmRequestType = 0x40 ∨ s.bmRequestType = 0xC0) ∧ s.wIndex ≤ 0xFF

/-- The operations that touch nothing the threads share. -/
def PlainExchanges : DriverOp → Prop
  | .transfer s => s.Plain
  | .access .. => True
  | _ => False

namespace Driver

variable {α : Type} {p : Driver α} {s : SetupPacket}

theorem exchanges_of_accesses (h : p.Uses Accesses) : p.Uses PlainExchanges :=
  h.mono (fun op accesses => by cases op <;> trivial)

theorem exchanges_refuseIf (bad : Prop) [Decidable bad] (e : Error) : (refuseIf bad e).Uses PlainExchanges :=
  exchanges_of_accesses (accesses_refuseIf bad e)

theorem exchanges_transfer (plain : s.Plain) : (transfer s).Uses PlainExchanges := by
  refine .bind (.perform plain) (fun outcome => ?_)
  cases outcome with
  | ok reply => trivial
  | error e => trivial

theorem exchanges_rawIn (req : Request) {index : UInt16} (byte : index ≤ 0xFF) (len : UInt16) :
    (rawIn req index len).Uses PlainExchanges :=
  .bind (exchanges_transfer ⟨.inr rfl, byte⟩) (fun _ => .ite trivial trivial)

theorem exchanges_sendOut (req : Request) (value : UInt16) {index : UInt16} (byte : index ≤ 0xFF) :
    (sendOut req value index).Uses PlainExchanges := by
  refine .tryCatch (.bind (exchanges_transfer ⟨.inl rfl, byte⟩) (fun _ => trivial)) (fun e => .ite trivial ?_)
  refine .bind (exchanges_rawIn .getStatus (Nat.zero_le _) _) (fun reply => .ite trivial ?_)
  exact .bind (exchanges_of_accesses (accesses_byteAt ..)) (fun _ => .ite trivial trivial)

theorem exchanges_stop : (sendOut .streamStop 0 0).Uses PlainExchanges :=
  exchanges_sendOut .streamStop 0 (Nat.zero_le _)

theorem exchanges_readIn (d : Device) (req : Request) {index : UInt16} (byte : index ≤ 0xFF) (len : UInt16)
    (minLen : Nat) : (readIn d req index len minLen).Uses PlainExchanges := by
  have once : ∀ again : Driver (List UInt8), again.Uses PlainExchanges →
      (readInOnce req index len minLen again).Uses PlainExchanges := by
    intro again more
    refine .bind (exchanges_rawIn req byte len) (fun reply => .ite trivial ?_)
    refine .bind (exchanges_of_accesses (accesses_byteAt ..)) (fun _ => .ite more ?_)
    exact .ite trivial (.ite trivial trivial)
  unfold readIn
  induction d.attempts - 1 with
  | zero => exact once _ trivial
  | succ left ih => exact once _ ih

theorem pin_byte (pin : UInt8) : pin.toUInt16 ≤ 0xFF := by
  have small := pin.toNat_lt
  apply UInt16.le_iff_toNat_le.mpr
  rw [UInt8.toNat_toUInt16]
  exact Nat.le_of_lt_succ small

theorem exchanges_readStreamStatus : readStreamStatus.Uses PlainExchanges :=
  .bind (exchanges_rawIn .streamStatus (Nat.zero_le _) _) (fun reply => .bind (exchanges_refuseIf _ _)
    (fun _ => exchanges_of_accesses (accesses_decodeStreamStatus reply)))

theorem exchanges_deselect (pin : UInt8) : (deselect pin).Uses PlainExchanges :=
  .tryCatch (exchanges_sendOut .streamSelect _ (pin_byte pin)) (fun _ => trivial)

theorem exchanges_deselectOther (config : StreamConfig) (pin : UInt8) :
    (deselectOther config pin).Uses PlainExchanges :=
  .ite trivial (exchanges_deselect pin)

theorem exchanges_selectPins (added pins : List UInt8) : (selectPins added pins).Uses PlainExchanges := by
  induction pins generalizing added with
  | nil => trivial
  | cons pin pins ih =>
    have one := exchanges_sendOut .streamSelect 1 (pin_byte pin)
    refine .bind (.tryCatch (.bind one (fun _ => trivial)) (fun _ => trivial)) (fun failed => ?_)
    cases failed with
    | none => exact ih _
    | some e => trivial

theorem exchanges_launchOrRollBack (d : Device) (config : StreamConfig) (added : List UInt8)
    (failed : Option Error) : (launchOrRollBack d config added failed).Uses PlainExchanges := by
  have back : ∀ e, (rollBack added e).Uses PlainExchanges :=
    fun e => .bind (.forM exchanges_deselect) (fun _ => trivial)
  have stale : (clearStale d config).Uses PlainExchanges :=
    .bind (.forM (fun _ => exchanges_deselectOther ..)) (fun _ =>
      .bind exchanges_readStreamStatus (fun _ => exchanges_refuseIf _ _))
  cases failed with
  | some e => exact back e
  | none =>
    refine .tryCatch (.bind exchanges_readStreamStatus (fun status => .bind (.ite stale trivial) (fun _ => ?_))) back
    refine .bind (exchanges_readIn d .getTime (Nat.zero_le _) _ _) (fun reply => ?_)
    refine .bind (exchanges_of_accesses (accesses_decodeTimeReply reply)) (fun _ => ?_)
    exact .bind (exchanges_sendOut .streamStart _ (pin_byte config.flags)) (fun _ => trivial)

end Driver

end ArduinoDriver
