import ArduinoDriver.Firmware.Machine
import ArduinoDriver.Firmware.Served

namespace ArduinoDriver

variable {b : Board} {env : Env} {d d' : UsbIoDevice} {s : SetupPacket}

theorem Served.stalled (served : Served b env d d' .stalled) :
    d' = { d with lastError := d'.lastError } := by
  cases served with
  | refused reason => rfl

/-- A refusal with a reason other than OK. -/
def Reasoned (r : UsbIoDevice × Bool) : Prop := r.2 = false → r.1.lastError ≠ .ok

theorem Reasoned.stall {reason : Status} (other : reason ≠ .ok) : Reasoned (stall d reason) := fun _ => other

theorem Reasoned.accepted : Reasoned (d, true) := fun refused => absurd refused Bool.noConfusion

theorem Reasoned.ite {c : Prop} [Decidable c] {r r' : UsbIoDevice × Bool} (then_ : Reasoned r)
    (else_ : Reasoned r') : Reasoned (if c then r else r') := by
  split
  · exact then_
  · exact else_

theorem handlePinMode_reasoned (pin : Nat) (value : UInt16) : Reasoned (handlePinMode b d pin value) := by
  unfold handlePinMode
  cases PinMode.ofCode? value with
  | none => exact .stall (by simp)
  | some mode =>
    refine .ite (.stall (by simp)) ?_
    cases enqueue d .pinMode pin value with
    | none => exact .stall (by simp)
    | some d₁ => exact .accepted

theorem handleWrite_reasoned (cmd : Request) (mode : PinMode) (limit pin : Nat) (value : UInt16) :
    Reasoned (handleWrite d cmd mode limit pin value) := by
  refine .ite (.stall (by simp)) (.ite (.stall (by simp)) ?_)
  cases enqueue d cmd pin value with
  | none => exact .stall (by simp)
  | some d₁ => exact .accepted

theorem handleEventConfig_reasoned (pin : Nat) (value : UInt16) : Reasoned (handleEventConfig d pin value) := by
  unfold handleEventConfig
  dsimp only
  cases d.event.watchIndex pin with
  | none =>
    refine .ite .accepted (.ite (.stall (by simp)) ?_)
    cases EdgeMode.ofCode? value.toUInt8 with
    | none => exact .stall (by simp)
    | some edge => exact .ite (.stall (by simp)) .accepted
  | some i =>
    refine .ite .accepted (.ite (.stall (by simp)) ?_)
    cases EdgeMode.ofCode? value.toUInt8 with
    | none => exact .stall (by simp)
    | some edge => exact .accepted

theorem handleStreamSelect_reasoned (value index : UInt16) : Reasoned (handleStreamSelect d value index) := by
  unfold handleStreamSelect
  dsimp only
  refine .ite (.stall (by simp)) (.ite (.stall (by simp)) (.ite (.stall (by simp))
    (.ite (.stall (by simp)) (.ite (.stall (by simp)) (.ite ?_ ?_)))))
  · exact .ite .accepted (.ite (.stall (by simp)) .accepted)
  · cases d.stream.channelIndex index.toNat <;> exact .accepted

theorem handleStreamStart_reasoned (value index : UInt16) : Reasoned (handleStreamStart d value index) :=
  .ite (.stall (by simp)) (.ite (.stall (by simp)) (.ite (.stall (by simp))
    (.ite (.stall (by simp)) (.ite (.stall (by simp)) .accepted))))

/-- A STALL of handle_out() always has a reason. -/
theorem handleOut_reasoned (b : Board) (d : UsbIoDevice) (bRequest : UInt8) (value index wLength : UInt16) :
    Reasoned (handleOut b d bRequest value index wLength) := by
  refine .ite (.stall (by simp)) ?_
  cases Request.ofCode? bRequest with
  | none => exact .stall (by simp)
  | some req =>
    cases req with
    | reset => exact .accepted
    | streamSelect => exact .ite (handleStreamSelect_reasoned value index) (.stall (by simp))
    | streamStart => exact .ite (handleStreamStart_reasoned value index) (.stall (by simp))
    | streamStop => exact .ite (.ite (.stall (by simp)) .accepted) (.stall (by simp))
    | pinMode => exact .ite (.stall (by simp)) (handlePinMode_reasoned index.toNat value)
    | dioWrite | pwmWrite | dacWrite => exact .ite (.stall (by simp)) (handleWrite_reasoned _ _ _ _ _)
    | eventConfig => exact .ite (.stall (by simp)) (handleEventConfig_reasoned index.toNat value)
    | _ => exact .stall (by simp)

theorem handleSetup_foreign (foreign : s.isVendor = false) : handleSetup b env d s = (d, none) := by
  unfold handleSetup
  rw [foreign]
  rfl

/-- A STALL records its reason and does nothing else; a packet that is not a vendor
request does not even that. -/
theorem stall_changes_nothing (b : Board) (env : Env) (d : UsbIoDevice) (s : SetupPacket)
    (refused : (handleSetup b env d s).2 = none) :
    (handleSetup b env d s).1 = { d with lastError := (handleSetup b env d s).1.lastError } ∧
    (s.isVendor = false → (handleSetup b env d s).1 = d) := by
  have served := handleSetup_served b env d s
  rw [refused] at served
  refine ⟨Served.stalled served, fun foreign => ?_⟩
  rw [handleSetup_foreign foreign]

/-- A DIO_WRITE for a pin that is not an OUTPUT. -/
theorem stall_changes_nothing_dioWrite :
    let d := (boot onePinBoard).dev
    let s := SetupPacket.out .dioWrite 1 0
    (handleSetup onePinBoard (stillEnv .busy) d s).1 =
      { d with lastError := (handleSetup onePinBoard (stillEnv .busy) d s).1.lastError } ∧
    (s.isVendor = false → (handleSetup onePinBoard (stillEnv .busy) d s).1 = d) :=
  stall_changes_nothing onePinBoard (stillEnv .busy) (boot onePinBoard).dev
    (SetupPacket.out .dioWrite 1 0) (by decide +kernel)

end ArduinoDriver
