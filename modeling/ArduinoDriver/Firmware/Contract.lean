import ArduinoDriver.Firmware.Channels
import ArduinoDriver.Firmware.Machine

namespace ArduinoDriver

/-- The state the validation table of usbio_protocol.h speaks of: the intended modes,
the watched pins with edge mode and debounce, the ordered selection. -/
structure Intent where
  mode : Nat → Option PinMode
  watch : Nat → Option (EdgeMode × UInt8)
  selection : List Nat
  running : Bool

/-- What the table's checks look at. -/
structure Contract where
  intent : Intent
  nPins : Nat
  caps : Nat → UInt8
  pwmBits : Nat
  dacBits : Nat
  pulldown : Bool
  streaming : Bool
  events : Bool
  /-- Commands in the queue. -/
  pending : Nat

/-- The capability a mode needs. -/
def PinMode.capability : PinMode → UInt8
  | .input | .output | .inputPullup | .inputPulldown => capDio
  | .analogIn => capAin
  | .pwm => capPwm
  | .dac => capDac

/-- The reason of the first row that does not hold. -/
def firstFailure : List (Bool × Status) → Option Status
  | [] => none
  | (holds, reason) :: rows => if holds then firstFailure rows else some reason

namespace Contract

variable (k : Contract)

def isInput (pin : Nat) : Bool :=
  [some PinMode.input, some .inputPullup, some .inputPulldown].contains (k.intent.mode pin)

def capable (pin : Nat) (mode : PinMode) : Bool :=
  hasCap (k.caps pin) mode.capability && (mode != .inputPulldown || k.pulldown)

def watched : Nat := (List.range k.nPins).countP fun pin => (k.intent.watch pin).isSome

/-- The rows of the table for one request, in the order listed. -/
def rows (req : Request) (index value : UInt16) : List (Bool × Status) :=
  let pin := index.toNat
  let known := (decide (pin < k.nPins), Status.badPin)
  let room := (decide (k.pending < queueDepth), Status.queueFull)
  let streams := (k.streaming, Status.unsupported)
  let stopped := (!k.intent.running, Status.busy)
  match req with
  | .pinMode =>
    [known, (decide (value.toNat < 7), .badValue),
      ((PinMode.ofCode? value).all (k.capable pin), .unsupported), room]
  | .dioWrite => [known, (k.intent.mode pin == some .output, .badMode), room]
  | .pwmWrite =>
    [known, (k.intent.mode pin == some .pwm, .badMode),
      (decide (value.toNat ≤ 2 ^ k.pwmBits - 1), .badValue), room]
  | .dacWrite =>
    [known, (k.intent.mode pin == some .dac, .badMode),
      (decide (value.toNat ≤ 2 ^ k.dacBits - 1), .badValue), room]
  | .reset => []
  | .streamSelect =>
    [streams, stopped, known,
      (k.intent.mode pin == some .analogIn || k.isInput pin, .badMode),
      (decide (value.toNat ≤ 1), .badValue),
      (value == 0 || k.intent.selection.contains pin ||
        decide (k.intent.selection.length < maxStreamChannels), .badValue)]
  | .streamStart =>
    [streams, stopped, (!k.intent.selection.isEmpty, .badValue),
      (value == 0 || decide (streamMinPeriodUs ≤ value), .badValue),
      (decide (index.toNat < 4), .badValue)]
  | .streamStop => [streams]
  | .eventConfig =>
    (k.events, .unsupported) :: known ::
      if EdgeMode.ofCode? value.toUInt8 = some .off then []
      else
        [(hasCap (k.caps pin) capDio && k.isInput pin, .badMode),
          (decide (value.toUInt8.toNat < 4), .badValue),
          ((k.intent.watch pin).isSome || decide (k.watched < maxEventPins), .badValue)]
  | _ => [(false, .badCmd)]

/-- The whole table: wLength and bRequest come first. -/
def refusal (bRequest : UInt8) (value index wLength : UInt16) : Option Status :=
  if wLength ≠ 0 then some .badCmd
  else match Request.ofCode? bRequest with
    | some req => firstFailure (k.rows req index value)
    | none => some .badCmd

/-- What an accepted request does at once. -/
def effect (req : Request) (index value : UInt16) : Intent :=
  let i := k.intent
  let pin := index.toNat
  match req with
  | .pinMode =>
    let mode := PinMode.ofCode? value
    { i with
      mode := Function.update i.mode pin mode
      running := i.running && !i.selection.contains pin
      watch := if [some PinMode.input, some .inputPullup, some .inputPulldown].contains mode
        then i.watch else Function.update i.watch pin none }
  | .reset =>
    { mode := fun p =>
        if p < k.nPins then (if hasCap (k.caps p) capDio then some .input else none) else i.mode p
      watch := fun _ => none
      selection := []
      running := false }
  | .streamSelect =>
    { i with selection :=
        if value = 0 then i.selection.filter (· ≠ pin)
        else if i.selection.contains pin then i.selection else i.selection ++ [pin] }
  | .streamStart => { i with running := true }
  | .streamStop => { i with running := false }
  | .eventConfig =>
    match EdgeMode.ofCode? value.toUInt8 with
    | some .off => { i with watch := Function.update i.watch pin none }
    | some edge =>
      { i with watch := Function.update i.watch pin (some (edge, (value >>> 8).toUInt8)) }
    | none => i
  | _ => i

end Contract

/-- What the device's fields say of its intent. -/
def UsbIoDevice.intent (d : UsbIoDevice) : Intent where
  mode := d.mode
  watch pin := (d.event.watchIndex pin).map fun i =>
    ((d.event.watch i).edgeMode, (d.event.watch i).debounceMs)
  selection := d.stream.selection
  running := d.stream.running

/-- The table's view of the device. Only a build with a streaming transport sets
USBIO_FLAG_STREAMING. -/
def UsbIoDevice.contract (b : Board) (d : UsbIoDevice) : Contract where
  intent := d.intent
  nPins := d.nPins
  caps := d.caps
  pwmBits := b.pwmBits
  dacBits := b.dacBits
  pulldown := b.hasPulldown
  streaming := b.hasStreamTransport && hasFlag d.flags flagStreaming
  events := hasFlag d.flags flagEvents
  pending := d.queuePending.toNat

end ArduinoDriver
