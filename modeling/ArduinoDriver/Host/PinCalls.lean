import ArduinoDriver.Host.Driver

namespace ArduinoDriver

open Lib (Program)

/-- to_string(PinMode). -/
def PinMode.name : PinMode → String
  | .input => "INPUT"
  | .output => "OUTPUT"
  | .inputPullup => "INPUT_PULLUP"
  | .inputPulldown => "INPUT_PULLDOWN"
  | .analogIn => "ANALOG_IN"
  | .pwm => "PWM"
  | .dac => "DAC"

/-- required_caps(), of a mode that has a name. -/
def requiredCaps : PinMode → UInt8
  | .input | .output | .inputPullup | .inputPulldown => capDio
  | .analogIn => capAin
  | .pwm => capPwm
  | .dac => capDac

def modeSupported (mode : PinMode) (caps : UInt8) (pulldownSupported : Bool) : Bool :=
  if !pinHas caps (requiredCaps mode) then false else mode != .inputPulldown || pulldownSupported

/-- max_value(). -/
def maxValue (bits : UInt8) : UInt16 :=
  if bits = 0 then 0
  else if 16 ≤ bits then 0xFFFF
  else UInt16.ofNat (2 ^ bits.toNat - 1)

def Info.supportsPulldown (info : Info) : Bool := hasFlag info.flags flagPulldown

def Info.hasDac (info : Info) : Bool := info.dacBits != 0

def Info.events (info : Info) : Bool := hasFlag info.flags flagEvents

abbrev dioReplyLen : Nat := 2
abbrev aiReplyLen : Nat := 4

/-- USBIO_MAX_DEBOUNCE_MS. -/
def maxDebounceMs : Int := 255

/-- encode_event_config_value(). -/
def encodeEventConfigValue (debounceMs edge : UInt8) : UInt16 :=
  (debounceMs.toUInt16 <<< 8) ||| edge.toUInt16

namespace Driver

def outOfRange (d : Device) (pin : UInt8) : Error :=
  ⟨.invalidPin, s!"pin {pin} is out of range: the {boardName d.info.boardId} has " ++
    s!"{d.caps.length} pins (0..{d.caps.length - 1})"⟩

/-- pin_caps(). -/
def pinCaps (d : Device) (pin : UInt8) : Driver UInt8 := do
  refuseIf (d.caps.length ≤ pin.toNat) (outOfRange d pin)
  byteAt d.caps pin.toNat

/-- require_caps(). -/
def requireCaps (d : Device) (pin mask : UInt8) (feature : String) : Driver UInt8 := do
  let caps ← pinCaps d pin
  refuseIf (pinHas caps mask = false)
    ⟨.notSupported, s!"pin {pin} of the {boardName d.info.boardId} has no {feature} capability"⟩
  return caps

/-- pin_mode(), with the code of the mode. -/
def pinMode (d : Device) (pin code : UInt8) : Driver Unit := do
  checkNotStreaming "pin_mode"
  let caps ← pinCaps d pin
  match PinMode.ofCode? code.toUInt16 with
  | none => throw ⟨.invalidMode, s!"unknown pin mode {code}"⟩
  | some mode =>
    refuseIf (pinHas caps (requiredCaps mode) = false)
      ⟨.notSupported, s!"pin {pin} of the {boardName d.info.boardId} does not support mode {mode.name}"⟩
    refuseIf (mode = .inputPulldown ∧ d.info.supportsPulldown = false)
      ⟨.notSupported, s!"the {boardName d.info.boardId} does not support INPUT_PULLDOWN"⟩
    sendOut .pinMode code.toUInt16 pin.toUInt16

def digitalWrite (d : Device) (pin : UInt8) (high : Bool) : Driver Unit := do
  checkNotStreaming "digital_write"
  let _ ← requireCaps d pin capDio "digital I/O"
  sendOut .dioWrite (if high then 1 else 0) pin.toUInt16

def digitalRead (d : Device) (pin : UInt8) : Driver Bool := do
  checkNotStreaming "digital_read"
  let _ ← requireCaps d pin capDio "digital I/O"
  let reply ← readIn d .dioRead pin.toUInt16 (UInt16.ofNat dioReplyLen) dioReplyLen
  return (← byteAt reply 1) != 0

/-- read_u16le() of what a transfer delivered. -/
def wordAt (bytes : List UInt8) (offset : Nat) : Driver UInt16 := do
  let low ← byteAt bytes offset
  let high ← byteAt bytes (offset + 1)
  return low.toUInt16 ||| (high.toUInt16 <<< 8)

def analogRead (d : Device) (pin : UInt8) : Driver UInt16 := do
  checkNotStreaming "analog_read"
  let _ ← requireCaps d pin capAin "analog input"
  let reply ← readIn d .aiRead pin.toUInt16 (UInt16.ofNat aiReplyLen) aiReplyLen
  wordAt reply 2

def pwmWrite (d : Device) (pin : UInt8) (duty : UInt16) : Driver Unit := do
  checkNotStreaming "pwm_write"
  let _ ← requireCaps d pin capPwm "PWM"
  let fullScale := maxValue d.info.pwmBits
  refuseIf (fullScale < duty)
    ⟨.invalidValue, s!"PWM duty {duty} exceeds the {d.info.pwmBits}-bit range 0..{fullScale}"⟩
  sendOut .pwmWrite duty pin.toUInt16

def dacWrite (d : Device) (pin : UInt8) (value : UInt16) : Driver Unit := do
  checkNotStreaming "dac_write"
  let _ ← requireCaps d pin capDac "DAC"
  refuseIf (d.info.hasDac = false)
    ⟨.notSupported, s!"the {boardName d.info.boardId} reports no DAC resolution"⟩
  let fullScale := maxValue d.info.dacBits
  refuseIf (fullScale < value)
    ⟨.invalidValue, s!"DAC value {value} exceeds the {d.info.dacBits}-bit range 0..{fullScale}"⟩
  sendOut .dacWrite value pin.toUInt16

def requireEvents (d : Device) (what : String) : Driver Unit :=
  refuseIf (d.info.events = false)
    ⟨.notSupported, s!"{what}: the {boardName d.info.boardId} firmware does not report " ++
      "USBIO_FLAG_EVENTS"⟩

/-- configure_event(), with the code of the edge mode. -/
def configureEvent (d : Device) (pin edge : UInt8) (debounce : Int) : Driver Unit := do
  checkNotStreaming "configure_event"
  requireEvents d "configure_event"
  let _ ← pinCaps d pin
  refuseIf (EdgeMode.ofCode? edge = none)
    ⟨.invalidValue, s!"configure_event: unknown edge mode {edge}"⟩
  refuseIf (debounce < 0 ∨ maxDebounceMs < debounce)
    ⟨.invalidValue, s!"configure_event: debounce {debounce} ms is outside 0..{maxDebounceMs}"⟩
  sendOut .eventConfig (encodeEventConfigValue (UInt8.ofNat debounce.toNat) edge) pin.toUInt16

end Driver

/-- A call that works on one pin. -/
inductive PinCall where
  | pinMode (pin code : UInt8)
  | digitalWrite (pin : UInt8) (high : Bool)
  | digitalRead (pin : UInt8)
  | analogRead (pin : UInt8)
  | pwmWrite (pin : UInt8) (duty : UInt16)
  | dacWrite (pin : UInt8) (value : UInt16)
  deriving DecidableEq, Repr

/-- The call, what it returns left out. -/
def PinCall.perform (d : Device) : PinCall → Driver Unit
  | .pinMode pin code => Driver.pinMode d pin code
  | .digitalWrite pin high => Driver.digitalWrite d pin high
  | .digitalRead pin => do let _ ← Driver.digitalRead d pin
  | .analogRead pin => do let _ ← Driver.analogRead d pin
  | .pwmWrite pin duty => Driver.pwmWrite d pin duty
  | .dacWrite pin value => Driver.dacWrite d pin value

end ArduinoDriver
