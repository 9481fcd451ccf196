import ArduinoDriver.Firmware.Validation
import ArduinoDriver.Host.Construct
import ArduinoDriver.Host.PinCalls

namespace ArduinoDriver

variable {α β : Type} {b : Board} {env : Env} {d : UsbIoDevice} {m : Machine} {options : DeviceOptions}
  {pin : UInt8} {streaming : Bool} {p : Nat}

/-- How a call begins when it finds the busy flag at `streaming`: the packet of its first
transfer, or what it throws before there is one. -/
def Driver.opening (streaming : Bool) : Driver α → Except Error (Option SetupPacket)
  | .pure _ => .ok none
  | .throw e => .error e
  | .call (.transfer s) _ => .ok (some s)
  | .call .loadStreaming next => opening streaming (next streaming)
  | .call .loadSelected next => opening streaming (next [])
  | .call (.access _ _) next => opening streaming (next ())
  | .call (.storeStreaming _) next => opening streaming (next ())
  | .call .lock next => opening streaming (next ())
  | .call .unlock next => opening streaming (next ())
  | .call (.storeSelected _) next => opening streaming (next ())

/-- Why the device refuses a request: the reason it records for a STALL, or the status
byte of an error reply. -/
def refusedWith (b : Board) (env : Env) (d : UsbIoDevice) (s : SetupPacket) : Option UInt8 :=
  let r := handleSetup b env d s
  match r.2 with
  | none => some r.1.lastError.code
  | some reply =>
    if s.isIn ∧ readU8 reply 0 ≠ Status.ok.code then some (readU8 reply 0) else none

/-- The request a call stands for. -/
def PinCall.packet : PinCall → SetupPacket
  | .pinMode pin code => .out .pinMode code.toUInt16 pin.toUInt16
  | .digitalWrite pin high => .out .dioWrite (if high then 1 else 0) pin.toUInt16
  | .digitalRead pin => .inp .dioRead pin.toUInt16 (UInt16.ofNat dioReplyLen)
  | .analogRead pin => .inp .aiRead pin.toUInt16 (UInt16.ofNat aiReplyLen)
  | .pwmWrite pin duty => .out .pwmWrite duty pin.toUInt16
  | .dacWrite pin value => .out .dacWrite value pin.toUInt16

/-- The reasons left to the device: the pin's mode, and for the time being a full queue
or a busy shadow. -/
def PinCall.leftToDevice : PinCall → List Status
  | .digitalRead _ | .analogRead _ => [.badMode, .busy]
  | .pinMode .. | .digitalWrite .. | .pwmWrite .. | .dacWrite .. => [.badMode, .queueFull]

/-- What host and device make of a call, as it begins, agrees: a call refused by the host
is one the device refuses too, and not for a full queue or a busy shadow; the device
refuses a call let through for what is left to it only. -/
def PinCall.Agrees (call : PinCall) (reason : Option UInt8) :
    Except Error (Option SetupPacket) → Prop
  | .error _ => ∃ status : Status, reason = some status.code ∧ status ≠ .queueFull ∧ status ≠ .busy
  | .ok s => s = some call.packet ∧ ∀ code, reason = some code → code ∈ call.leftToDevice.map Status.code

attribute [local simp] PinCall.perform PinCall.packet PinCall.leftToDevice

@[simp] theorem opening_checkNotStreaming (what : String) (next : Unit → Driver α) :
    (Driver.checkNotStreaming what >>= next).opening false = (next ()).opening false := rfl

@[simp] theorem opening_refuseIf (bad : Prop) [Decidable bad] (e : Error) (next : Unit → Driver α) :
    (Driver.refuseIf bad e >>= next).opening streaming =
      if bad then .error e else (next ()).opening streaming := by
  unfold Driver.refuseIf
  split <;> rfl

@[simp] theorem opening_byteAt (bytes : List UInt8) (offset : Nat) (next : UInt8 → Driver α) :
    (Driver.byteAt bytes offset >>= next).opening streaming =
      (next (readU8 bytes offset)).opening streaming := rfl

@[simp] theorem opening_sendOut (req : Request) (value index : UInt16) :
    (Driver.sendOut req value index).opening streaming = .ok (some (.out req value index)) := rfl

@[simp] theorem opening_readIn (device : Device) (req : Request) (index len : UInt16) (minLen : Nat)
    (next : List UInt8 → Driver α) :
    (Driver.readIn device req index len minLen >>= next).opening streaming =
      .ok (some (.inp req index len)) := by
  unfold Driver.readIn
  cases device.attempts - 1 <;> rfl

theorem requiredCaps_eq (mode : PinMode) : requiredCaps mode = mode.capability := by
  cases mode <;> rfl

/-- A capability is one bit. -/
theorem pinHas_bit (caps : UInt8) (mode : PinMode) :
    pinHas caps mode.capability = hasCap caps mode.capability := by
  have each : ∀ n < 256, pinHas (UInt8.ofNat n) capDio = hasCap (UInt8.ofNat n) capDio ∧
      pinHas (UInt8.ofNat n) capAin = hasCap (UInt8.ofNat n) capAin ∧
      pinHas (UInt8.ofNat n) capPwm = hasCap (UInt8.ofNat n) capPwm ∧
      pinHas (UInt8.ofNat n) capDac = hasCap (UInt8.ofNat n) capDac := by
    decide +kernel
  have same := each caps.toNat caps.toNat_lt
  rw [UInt8.ofNat_toNat] at same
  obtain ⟨dio, ain, pwm, dac⟩ := same
  cases mode with
  | analogIn => exact ain
  | pwm => exact pwm
  | dac => exact dac
  | _ => exact dio

/-- Info::supports_pulldown() is the board's HasPulldown. -/
theorem device_supportsPulldown : (b.device options).info.supportsPulldown = b.hasPulldown :=
  (boot_begun b).pulldown

/-- max_value() of an advertised resolution is full_scale(). -/
theorem maxValue_bits {bits : Nat} (byte : bits < 256) :
    (maxValue (UInt8.ofNat bits)).toNat = fullScale bits := by
  have narrow : ∀ n < 16, (maxValue (UInt8.ofNat n)).toNat = fullScale n := by decide
  by_cases few : bits < 16
  · exact narrow bits few
  · have wide : ∀ n < 256, 16 ≤ n → maxValue (UInt8.ofNat n) = 0xFFFF := by decide +kernel
    rw [wide bits byte (by omega), fullScale, if_pos (by omega)]
    rfl

/-- The two range checks of a value agree. -/
theorem limit_check {bits : Nat} (byte : bits < 256) (value : UInt16) :
    maxValue (UInt8.ofNat bits) < value ↔ decide (value.toNat ≤ 2 ^ bits - 1) = false := by
  rw [UInt16.lt_iff_toNat_lt, maxValue_bits byte]
  exact limit_row (fullScale_iff bits value)

/-- Only a board with a DAC has pins for it. -/
theorem boot_dac (able : hasCap ((boot b).dev.caps p) capDac = true) : b.dacBits ≠ 0 := by
  have bits : ∀ dio ain pwm dac : Bool, hasCap
      ((if dio then capDio else 0) ||| (if ain then capAin else 0) |||
        (if pwm then capPwm else 0) ||| (if dac then capDac else 0)) capDac = dac := by
    rintro (_ | _) (_ | _) (_ | _) (_ | _) <;> rfl
  have loop : ∀ (pins : List Nat) (d : UsbIoDevice),
      (∀ p, hasCap (d.caps p) capDac = true → b.dacBits ≠ 0) →
      ∀ p, hasCap ((pins.foldl (beginPin b) d).caps p) capDac = true → b.dacBits ≠ 0 := by
    intro pins
    induction pins with
    | nil => exact fun _ start => start
    | cons pin pins ih =>
      refine fun d start => ih (beginPin b d pin) (fun p able => ?_)
      by_cases own : p = pin
      · subst own
        simp only [beginPin, Function.update_self, beginCaps, bits] at able
        simp only [Bool.and_eq_true, decide_eq_true_eq] at able
        exact able.1
      · simp only [beginPin, Function.update_of_ne own] at able
        exact start p able
  exact loop _ _ (fun _ none_yet => by simp [UsbIoDevice.init, hasCap] at none_yet) p able

/-- The pins of the Device. -/
theorem device_pins (b : Board) (options : DeviceOptions) : (b.device options).caps.length = b.pinCount := by
  simp [Board.device, (boot_begun b).nPins]

theorem device_caps (below : p < b.pinCount) :
    readU8 (b.device options).caps p = (boot b).dev.caps p :=
  readU8_table (boot b).dev.caps (by rwa [(boot_begun b).nPins])

@[simp] theorem opening_pinCaps (device : Device) (pin : UInt8) (next : UInt8 → Driver α) :
    (Driver.pinCaps device pin >>= next).opening streaming =
      if device.caps.length ≤ pin.toNat then .error (Driver.outOfRange device pin)
      else (next (readU8 device.caps pin.toNat)).opening streaming := by
  simp [Driver.pinCaps]

/-- The reason of a STALL is that of the validation table. -/
theorem refusedWith_out (reached : Reachable b m) (req : Request) (value index : UInt16) :
    refusedWith b env m.dev (.out req value index) =
      (firstFailure ((m.dev.contract b).rows req index value)).map Status.code := by
  have inv : Invariant b m.dev := (reach_ok reached).dev
  have outcome := handleOut_outcome inv (reach_begun reached) req.code value index 0
  unfold refusedWith
  rw [handleSetup_out]
  simp only [Contract.refusal, ne_eq, not_true_eq_false, if_false, Request.ofCode_code] at outcome
  cases verdict : firstFailure ((m.dev.contract b).rows req index value) with
  | some reason =>
    rw [verdict] at outcome
    dsimp only at outcome
    rw [outcome]
    rfl
  | none =>
    rw [verdict] at outcome
    have silent : (SetupPacket.out req value index).isIn = false :=
      congrArg (· != 0) (show (0x40 : UInt8) &&& 0x80 = 0 from rfl)
    simp [outcome.1, silent]

theorem contract_pins (reached : Reachable b m) : (m.dev.contract b).nPins = b.pinCount :=
  (reachable_identity reached).nPins.trans (boot_begun b).nPins

theorem contract_caps (reached : Reachable b m) : (m.dev.contract b).caps = (boot b).dev.caps :=
  (reachable_identity reached).caps

/-- A pin is in a mode it is able to only. -/
theorem intended_capable (reached : Reachable b m) {mode : PinMode} (intended : m.dev.mode p = some mode) :
    hasCap ((boot b).dev.caps p) mode.capability = true := by
  have inv : Invariant b m.dev := (reach_ok reached).dev
  have allowed := inv.modes p mode intended
  rw [← @capable_iff b m.dev p mode, Contract.capable, Bool.and_eq_true, contract_caps reached] at allowed
  exact allowed.1

section Rows

variable {call : PinCall} {rows : List (Bool × Status)} {rest : Except Error (Option SetupPacket)}
  {holds : Bool} {status : Status} {bad : Prop} [Decidable bad] {e : Error}

/-- A check that host and device both make. -/
theorem PinCall.Agrees.row (same : bad ↔ holds = false) (lasting : status ≠ .queueFull ∧ status ≠ .busy)
    (next : ¬ bad → call.Agrees ((firstFailure rows).map Status.code) rest) :
    call.Agrees ((firstFailure ((holds, status) :: rows)).map Status.code)
      (if bad then .error e else rest) := by
  by_cases fails : bad
  · obtain rfl := same.mp fails
    rw [if_pos fails]
    exact ⟨status, rfl, lasting⟩
  · have passes : holds = true := by simpa using fun failed => fails (same.mpr failed)
    rw [if_neg fails, passes]
    exact next fails

/-- A check of the device's that fails wherever the host's does. -/
theorem PinCall.Agrees.guarded (implied : bad → holds = false)
    (lasting : status ≠ .queueFull ∧ status ≠ .busy) (left : status ∈ call.leftToDevice)
    (honest : ∀ s, rest = .ok s → s = some call.packet)
    (next : ¬ bad → call.Agrees ((firstFailure rows).map Status.code) rest) :
    call.Agrees ((firstFailure ((holds, status) :: rows)).map Status.code)
      (if bad then .error e else rest) := by
  by_cases fails : bad
  · obtain rfl := implied fails
    rw [if_pos fails]
    exact ⟨status, rfl, lasting⟩
  · rw [if_neg fails]
    cases holds with
    | true => exact next fails
    | false =>
      cases rest with
      | error e => exact ⟨status, rfl, lasting⟩
      | ok s =>
        refine ⟨honest s rfl, fun code refused => ?_⟩
        obtain rfl := Option.some.inj refused
        exact List.mem_map_of_mem left

/-- The last row of every request is left to the device. -/
theorem PinCall.Agrees.sent (left : status ∈ call.leftToDevice) :
    call.Agrees ((firstFailure [(holds, status)]).map Status.code) (.ok (some call.packet)) := by
  refine ⟨rfl, fun code refused => ?_⟩
  cases holds with
  | true => simp [firstFailure] at refused
  | false =>
    obtain rfl := Option.some.inj refused
    exact List.mem_map_of_mem left

end Rows

theorem honest_ite {bad : Prop} [Decidable bad] {e : Error} {rest : Except Error (Option SetupPacket)}
    {packet : SetupPacket} (honest : ∀ s, rest = .ok s → s = some packet) :
    ∀ s, (if bad then .error e else rest) = Except.ok s → s = some packet := by
  split
  · simp
  · exact honest

theorem honest_ok {packet : SetupPacket} :
    ∀ s, Except.ok (some packet) = (Except.ok s : Except Error _) → s = some packet := by
  intro s same
  exact (Except.ok.inj same).symm

theorem pin_row {n : Nat} : n ≤ p ↔ decide (p < n) = false := by simp

/-- Two checks in a row are one. -/
theorem refuse_twice {bad bad' : Prop} [Decidable bad] [Decidable bad'] {e e' : Error}
    {rest : Except Error (Option SetupPacket)} :
    (if bad then .error e else if bad' then .error e' else rest) =
      if bad ∨ bad' then .error (if bad then e else e') else rest := by
  by_cases first : bad <;> by_cases second : bad' <;> simp [first, second]

section Calls

attribute [local simp] Driver.requireCaps Contract.rows

theorem pinMode_agrees (reached : Reachable b m) (pin code : UInt8) :
    (PinCall.pinMode pin code).Agrees (refusedWith b env m.dev (PinCall.pinMode pin code).packet)
      (((PinCall.pinMode pin code).perform (b.device options)).opening false) := by
  simp only [PinCall.perform, Driver.pinMode, PinCall.packet, opening_checkNotStreaming,
    opening_pinCaps, device_pins, refusedWith_out reached, Contract.rows, UInt8.toNat_toUInt16,
    contract_pins reached]
  refine .row pin_row (by simp) (fun known => ?_)
  rw [device_caps (Nat.lt_of_not_le known)]
  cases named : PinMode.ofCode? code.toUInt16 with
  | none =>
    have large := PinMode.ofCode_eq_none.mp named
    rw [UInt8.toNat_toUInt16] at large
    rw [decide_eq_false (Nat.not_lt.mpr large)]
    exact ⟨.badValue, rfl, by simp⟩
  | some mode =>
    have small : code.toNat < 7 := by
      by_contra large
      rw [PinMode.ofCode_eq_none.mpr (by rw [UInt8.toNat_toUInt16]; omega)] at named
      contradiction
    have capable : (m.dev.contract b).capable pin.toNat mode =
        (hasCap ((boot b).dev.caps pin.toNat) mode.capability &&
          (mode != .inputPulldown || b.hasPulldown)) := by
      rw [Contract.capable, contract_caps reached]
      rfl
    simp only [opening_refuseIf, opening_sendOut, requiredCaps_eq, pinHas_bit, decide_eq_true small, firstFailure,
      if_true, Option.all_some, refuse_twice, device_supportsPulldown]
    refine @PinCall.Agrees.row _ [_] _ _ _ _ _ _ ?_ (by simp) (fun _ => .sent (by simp [PinCall.leftToDevice]))
    rw [capable]
    cases hasCap ((boot b).dev.caps pin.toNat) mode.capability <;> simp

/-- A pin without the capability is not in the mode. -/
theorem capable_row (reached : Reachable b m) (mode : PinMode) (pin : Nat)
    (lacks : pinHas ((boot b).dev.caps pin) mode.capability = false) :
    ((m.dev.contract b).intent.mode pin == some mode) = false := by
  by_contra intended
  have able := intended_capable reached (eq_of_beq (Bool.of_not_eq_false intended))
  rw [← pinHas_bit, lacks] at able
  contradiction

theorem digitalWrite_agrees (reached : Reachable b m) (pin : UInt8) (high : Bool) :
    (PinCall.digitalWrite pin high).Agrees
      (refusedWith b env m.dev (PinCall.digitalWrite pin high).packet)
      (((PinCall.digitalWrite pin high).perform (b.device options)).opening false) := by
  simp only [PinCall.perform, Driver.digitalWrite, Driver.requireCaps, PinCall.packet,
    opening_checkNotStreaming, Lib.Program.bind_assoc, Lib.Program.pure_bind, opening_pinCaps,
    opening_refuseIf, opening_sendOut, device_pins, refusedWith_out reached, Contract.rows,
    UInt8.toNat_toUInt16, contract_pins reached]
  refine .row pin_row (by simp) (fun known => ?_)
  rw [device_caps (Nat.lt_of_not_le known)]
  exact .guarded (capable_row reached .output pin.toNat) (by simp)
    (by simp [PinCall.leftToDevice]) honest_ok (fun _ => .sent (by simp [PinCall.leftToDevice]))

theorem pwmWrite_agrees (reached : Reachable b m) (pin : UInt8) (duty : UInt16) :
    (PinCall.pwmWrite pin duty).Agrees
      (refusedWith b env m.dev (PinCall.pwmWrite pin duty).packet)
      (((PinCall.pwmWrite pin duty).perform (b.device options)).opening false) := by
  simp only [PinCall.perform, Driver.pwmWrite, Driver.requireCaps, PinCall.packet,
    opening_checkNotStreaming, Lib.Program.bind_assoc, Lib.Program.pure_bind, opening_pinCaps,
    opening_refuseIf, opening_sendOut, device_pins, refusedWith_out reached, Contract.rows,
    UInt8.toNat_toUInt16, contract_pins reached]
  refine .row pin_row (by simp) (fun known => ?_)
  rw [device_caps (Nat.lt_of_not_le known)]
  refine .guarded (capable_row reached .pwm pin.toNat) (by simp)
    (by simp [PinCall.leftToDevice]) (honest_ite honest_ok) (fun _ => ?_)
  exact .row (limit_check b.pwmBits_lt duty) (by simp)
    (fun _ => .sent (by simp [PinCall.leftToDevice]))

theorem dacWrite_agrees (reached : Reachable b m) (pin : UInt8) (value : UInt16) :
    (PinCall.dacWrite pin value).Agrees
      (refusedWith b env m.dev (PinCall.dacWrite pin value).packet)
      (((PinCall.dacWrite pin value).perform (b.device options)).opening false) := by
  have byte : b.dacBits < 256 := Nat.lt_of_le_of_lt b.dacBits_le b.pwmBits_lt
  simp only [PinCall.perform, Driver.dacWrite, Driver.requireCaps, PinCall.packet,
    opening_checkNotStreaming, Lib.Program.bind_assoc, Lib.Program.pure_bind, opening_pinCaps,
    opening_refuseIf, opening_sendOut, device_pins, refusedWith_out reached, Contract.rows,
    UInt8.toNat_toUInt16, contract_pins reached]
  refine .row pin_row (by simp) (fun known => ?_)
  rw [device_caps (Nat.lt_of_not_le known)]
  refine .guarded (capable_row reached .dac pin.toNat) (by simp)
    (by simp [PinCall.leftToDevice]) (honest_ite (honest_ite honest_ok)) (fun able => ?_)
  -- a board that has such a pin has a resolution to report
  have resolution : ¬ (b.device options).info.hasDac = false := by
    have some_bits := boot_dac ((pinHas_bit _ .dac).symm.trans (Bool.of_not_eq_false able))
    intro none_reported
    have zero : UInt8.ofNat b.dacBits = 0 := by
      simpa [Info.hasDac, Board.device, Board.info] using none_reported
    have := congrArg UInt8.toNat zero
    rw [UInt8.toNat_ofNat_of_lt' byte] at this
    exact some_bits this
  rw [if_neg resolution]
  exact .row (limit_check byte value) (by simp) (fun _ => .sent (by simp [PinCall.leftToDevice]))

/-- The status of a single read is that of its first failing check. -/
theorem readStatus_rows (d : UsbIoDevice) (fits : Option PinMode → Bool) (index : UInt16) :
    (if (readStatus d fits index).code ≠ Status.ok.code then some (readStatus d fits index).code
      else none) =
    (firstFailure [(decide (index.toNat < d.nPins), .badPin), (fits (d.mode index.toNat), .badMode),
      (!d.busy, .busy)]).map Status.code := by
  unfold readStatus
  by_cases known : d.nPins ≤ index.toNat
  · have far : ¬ index.toNat < d.nPins := Nat.not_lt.mpr known
    simp [known, far, firstFailure, Status.code]
  · have near : index.toNat < d.nPins := Nat.lt_of_not_le known
    cases fit : fits (d.mode index.toNat) <;> cases busy : d.busy <;>
      simp [known, near, firstFailure, Status.code]

theorem inp_isIn (req : Request) (index len : UInt16) : (SetupPacket.inp req index len).isIn = true :=
  congrArg (· != 0) (show (0xC0 : UInt8) &&& 0x80 = 0x80 from rfl)

/-- A reply is an error when its status byte is. -/
theorem refusedWith_read {req : Request} {index len : UInt16} {code : UInt8} {rest : List UInt8}
    (said : replyBytes b env d req.code index len = (d, some (code :: rest))) (room : 0 < len.toNat) :
    refusedWith b env d (.inp req index len) =
      if code ≠ Status.ok.code then some code else none := by
  unfold refusedWith
  rw [handleSetup_inp, inp_isIn, handleIn, said]
  obtain ⟨more, eq⟩ := Nat.exists_eq_succ_of_ne_zero (Nat.ne_of_gt room)
  simp [eq, readU8]

theorem digitalRead_agrees (reached : Reachable b m) (pin : UInt8) :
    (PinCall.digitalRead pin).Agrees (refusedWith b env m.dev (PinCall.digitalRead pin).packet)
      (((PinCall.digitalRead pin).perform (b.device options)).opening false) := by
  have nPins := contract_pins reached
  simp only [PinCall.perform, Driver.digitalRead, Driver.requireCaps, PinCall.packet,
    opening_checkNotStreaming, Lib.Program.bind_assoc, Lib.Program.pure_bind, opening_pinCaps,
    opening_refuseIf, opening_readIn, device_pins]
  rw [refusedWith_read rfl (by simp [dioReplyLen]), readStatus_rows]
  simp only [UInt8.toNat_toUInt16, show m.dev.nPins = b.pinCount from nPins]
  refine .row pin_row (by simp) (fun known => ?_)
  rw [device_caps (Nat.lt_of_not_le known)]
  refine .guarded (fun lacks => ?_) (by simp) (by simp [PinCall.leftToDevice]) honest_ok
    (fun _ => .sent (by simp [PinCall.leftToDevice]))
  by_contra digital
  have able : ∀ mode : PinMode, mode.capability = capDio → m.dev.mode pin.toNat ≠ some mode := by
    intro mode same intended
    rw [← same, pinHas_bit, intended_capable reached intended] at lacks
    contradiction
  cases intended : m.dev.mode pin.toNat with
  | none => simp [intended, modeIsDigital, modeIsInput] at digital
  | some mode =>
    cases mode <;> first
      | exact able _ rfl intended
      | simp [intended, modeIsDigital, modeIsInput] at digital

theorem analogRead_agrees (reached : Reachable b m) (pin : UInt8) :
    (PinCall.analogRead pin).Agrees (refusedWith b env m.dev (PinCall.analogRead pin).packet)
      (((PinCall.analogRead pin).perform (b.device options)).opening false) := by
  have nPins := contract_pins reached
  simp only [PinCall.perform, Driver.analogRead, Driver.requireCaps, PinCall.packet,
    opening_checkNotStreaming, Lib.Program.bind_assoc, Lib.Program.pure_bind, opening_pinCaps,
    opening_refuseIf, opening_readIn, device_pins]
  rw [refusedWith_read rfl (by simp [aiReplyLen]), readStatus_rows]
  simp only [UInt8.toNat_toUInt16, show m.dev.nPins = b.pinCount from nPins]
  refine .row pin_row (by simp) (fun known => ?_)
  rw [device_caps (Nat.lt_of_not_le known)]
  exact .guarded (capable_row reached .analogIn pin.toNat) (by simp)
    (by simp [PinCall.leftToDevice]) honest_ok (fun _ => .sent (by simp [PinCall.leftToDevice]))

end Calls

theorem call_agrees (reached : Reachable b m) (call : PinCall) :
    call.Agrees (refusedWith b env m.dev call.packet) ((call.perform (b.device options)).opening false) := by
  cases call with
  | pinMode pin code => exact pinMode_agrees reached pin code
  | digitalWrite pin high => exact digitalWrite_agrees reached pin high
  | digitalRead pin => exact digitalRead_agrees reached pin
  | analogRead pin => exact analogRead_agrees reached pin
  | pwmWrite pin duty => exact pwmWrite_agrees reached pin duty
  | dacWrite pin value => exact dacWrite_agrees reached pin value

/-- Whatever the host refuses of a call before any transfer the device would refuse too, and
what the host lets through the device refuses for the pin's mode, a full queue or a busy
shadow only; while a Stream runs on the Device the host refuses every call. -/
theorem host_and_device_agree (b : Board) (options : DeviceOptions) (st st' : HostState) (d : Device)
    (begun : st.link.From b (boot b)) (built : Device.construct options st = .ok d st')
    (call : PinCall) (env : Env) (m : Machine) (reached : Reachable b m) :
    call.Agrees (refusedWith b env m.dev call.packet) ((call.perform d).opening false) ∧
    ∃ what, (call.perform d).opening true = .error ⟨.deviceBusy, what⟩ := by
  obtain rfl := construct_device.returns begun built
  refine ⟨call_agrees reached call, ?_⟩
  cases call <;> exact ⟨_, rfl⟩

/-- A host on a device that has just begun. -/
def onePinHost : HostState :=
  ⟨⟨onePinBoard, boot onePinBoard, [], fun _ => ⟨[], stillEnv .sent, none, ""⟩⟩, [], false⟩

/-- The pin is an OUTPUT. -/
def onePinOutput : Machine := run onePinBoard (boot onePinBoard) [request .pinMode 1 0]

theorem onePinOutput_reachable : Reachable onePinBoard onePinOutput :=
  Lib.Reach.refl.foldl (fun _ _ => trivial) [request .pinMode 1 0]

theorem onePinHost_constructs : ∃ d st', Device.construct ⟨1, 1, 0⟩ onePinHost = .ok d st' := by
  have returns : (match Device.construct ⟨1, 1, 0⟩ onePinHost with
      | .ok _ _ => true
      | .error _ _ => false) = true := by decide +kernel
  cases run : Device.construct ⟨1, 1, 0⟩ onePinHost with
  | ok d st' => exact ⟨d, st', rfl⟩
  | error _ _ =>
    rw [run] at returns
    contradiction

theorem host_and_device_agree_digitalWrite :
    ∃ d st', Device.construct ⟨1, 1, 0⟩ onePinHost = .ok d st' ∧
      (PinCall.digitalWrite 0 true).Agrees
        (refusedWith onePinBoard (stillEnv .sent) onePinOutput.dev (PinCall.digitalWrite 0 true).packet)
        (((PinCall.digitalWrite 0 true).perform d).opening false) := by
  obtain ⟨d, st', built⟩ := onePinHost_constructs
  exact ⟨d, st', built, (host_and_device_agree onePinBoard ⟨1, 1, 0⟩ onePinHost st' d ⟨rfl, rfl⟩ built
    (.digitalWrite 0 true) (stillEnv .sent) onePinOutput onePinOutput_reachable).1⟩

/-- A Device with a Stream running refuses a DIO_WRITE the device would carry out. -/
theorem busy_device_refuses_more :
    ¬ ∀ (b : Board) (options : DeviceOptions) (st st' : HostState) (d : Device),
      st.link.From b (boot b) → Device.construct options st = .ok d st' →
      ∀ (call : PinCall) (streaming : Bool) (env : Env) (m : Machine), Reachable b m →
        call.Agrees (refusedWith b env m.dev call.packet) ((call.perform d).opening streaming) := by
  intro claim
  obtain ⟨d, st', built⟩ := onePinHost_constructs
  have agrees := claim onePinBoard ⟨1, 1, 0⟩ onePinHost st' d ⟨rfl, rfl⟩ built (.digitalWrite 0 true) true
    (stillEnv .sent) onePinOutput onePinOutput_reachable
  obtain ⟨status, refused, _⟩ := agrees
  have accepted : refusedWith onePinBoard (stillEnv .sent) onePinOutput.dev
      (PinCall.digitalWrite 0 true).packet = none := by decide +kernel
  rw [accepted] at refused
  contradiction

end ArduinoDriver
