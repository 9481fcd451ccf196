import ArduinoDriver.Firmware.Board
import ArduinoDriver.Lib.Ring
import ArduinoDriver.Lib.Table

namespace ArduinoDriver

/-- One queued OUT request; `epoch` is `_epoch` when it was accepted. -/
structure Command where
  cmd : Request
  pin : Nat
  epoch : UInt8
  value : UInt16
  deriving DecidableEq, Repr

/-- One slot of the watch table. The interrupt side owns the first five fields,
poll() the other four. -/
structure EventWatch where
  pin : Nat
  active : Bool
  edgeMode : EdgeMode
  debounceMs : UInt8
  armSeq : UInt8
  seenSeq : UInt8
  prevLevel : Bool
  debounceUntil : UInt32
  count : UInt16
  deriving DecidableEq, Repr

/-- usbio_event_t, as stored in the ring and sent on the wire. -/
structure UsbioEvent where
  pin : Nat
  edge : EdgeMode
  seq : UInt16
  tMs : UInt32
  deriving DecidableEq, Repr

/-- Pin of a ring slot discarded by EVENT_CONFIG's OFF. -/
abbrev eventTombstone : Nat := 0xFF

/-- The `_event_*` fields. -/
structure EventState where
  watch : Nat → EventWatch
  nWatched : UInt8
  armSeq : UInt8
  ring : Nat → UsbioEvent
  head : UInt8
  tail : UInt8
  dropped : UInt8

/-- The `_stream_*` fields. A record and the packet being assembled are their
bytes; the source keeps a length beside a fixed buffer. -/
structure StreamState where
  channels : Nat → Nat
  nChannels : UInt8
  running : Bool
  flags : UInt8
  periodUs : UInt16
  seq : UInt32
  overruns : UInt32
  startRequests : UInt8
  startDone : UInt8
  deadlineUs : UInt32
  ring : Nat → List UInt8
  head : UInt8
  tail : UInt8
  txFailures : Nat
  packet : List UInt8
  packetRecords : UInt8
  recordLen : Nat
  packetSinceUs : UInt32

/-- class UsbIoDevice, its prefixed fields grouped. A mode is `none` for
ModeNone; the arrays are total functions of the index. Without a streaming
transport the `stream` fields do not exist, here they keep their first value. -/
structure UsbIoDevice where
  nPins : Nat
  nAin : Nat
  flags : UInt16
  caps : Nat → UInt8
  mode : Nat → Option PinMode
  dio : Nat → Bool
  ain : Nat → UInt16
  queue : Nat → Command
  head : UInt8
  tail : UInt8
  epoch : UInt8
  resetRequests : UInt8
  resetDone : UInt8
  lastError : Status
  ainCursor : Nat
  event : EventState
  stream : StreamState

/-- `index & (depth - 1)`, the depths being powers of two. -/
abbrev ringSlot (depth : Nat) (index : UInt8) : Nat := Lib.Ring.slot depth index

def EventState.init : EventState where
  watch := fun _ => ⟨0, false, .off, 0, 0, 0, false, 0, 0⟩
  nWatched := 0
  armSeq := 0
  ring := fun _ => ⟨0, .off, 0, 0⟩
  head := 0
  tail := 0
  dropped := 0

def StreamState.init : StreamState where
  channels := fun _ => 0
  nChannels := 0
  running := false
  flags := 0
  periodUs := 0
  seq := 0
  overruns := 0
  startRequests := 0
  startDone := 0
  deadlineUs := 0
  ring := fun _ => []
  head := 0
  tail := 0
  txFailures := 0
  packet := []
  packetRecords := 0
  recordLen := 0
  packetSinceUs := 0

/-- The constructor. -/
def UsbIoDevice.init : UsbIoDevice where
  nPins := 0
  nAin := 0
  flags := 0
  caps := fun _ => 0
  mode := fun _ => none
  dio := fun _ => false
  ain := fun _ => 0
  queue := fun _ => ⟨.getInfo, 0, 0, 0⟩
  head := 0
  tail := 0
  epoch := 0
  resetRequests := 0
  resetDone := 0
  lastError := .ok
  ainCursor := 0
  event := .init
  stream := .init

/-- Capabilities begin() gives pin `p` after `nAin` analog pins: the 33rd analog
pin and later ones are not advertised as such. -/
def beginCaps (b : Board) (nAin p : Nat) : UInt8 :=
  (if b.pinHasDio p then capDio else 0) |||
  (if b.pinHasAin p && decide (nAin < maxAin) then capAin else 0) |||
  (if b.pinHasPwm p then capPwm else 0) |||
  (if b.dacBits ≠ 0 && b.pinHasDac p then capDac else 0)

/-- One iteration of begin()'s loop. -/
def beginPin (b : Board) (d : UsbIoDevice) (p : Nat) : UsbIoDevice :=
  { d with
    caps := Function.update d.caps p (beginCaps b d.nAin p)
    nAin := if b.pinHasAin p && decide (d.nAin < maxAin) then d.nAin + 1 else d.nAin
    mode := Function.update d.mode p none
    dio := Function.update d.dio p false
    ain := Function.update d.ain p 0 }

/-- begin(), up to the core's resolution calls. -/
def begin (b : Board) (d : UsbIoDevice) : UsbIoDevice :=
  let d₁ := (List.range b.pinCount).foldl (beginPin b) { d with nPins := b.pinCount, nAin := 0 }
  { d₁ with flags := (if b.hasPulldown then flagPulldown else 0) ||| flagEvents ||| b.transportFlags }

def modeIsInput : Option PinMode → Bool
  | some .input | some .inputPullup | some .inputPulldown => true
  | _ => false

def modeIsDigital (mode : Option PinMode) : Bool := modeIsInput mode || mode == some .output

def modeAllowed (b : Board) (caps : UInt8) : PinMode → Bool
  | .input | .output | .inputPullup => hasCap caps capDio
  | .inputPulldown => hasCap caps capDio && b.hasPulldown
  | .analogIn => hasCap caps capAin
  | .pwm => hasCap caps capPwm
  | .dac => hasCap caps capDac

/-- queue_pending(). -/
def UsbIoDevice.queuePending (d : UsbIoDevice) : UInt8 := d.head - d.tail

/-- busy(). -/
def UsbIoDevice.busy (d : UsbIoDevice) : Bool :=
  d.queuePending != 0 || d.resetDone != d.resetRequests

/-- Index in the watch table of `pin`'s slot. -/
def EventState.watchIndex (e : EventState) (pin : Nat) : Option Nat :=
  Lib.Table.find maxEventPins (fun i => (e.watch i).active && (e.watch i).pin == pin)

/-- find_free_event_slot(), its fallback included. -/
def EventState.freeSlot (e : EventState) : Nat :=
  (Lib.Table.find maxEventPins (fun i => !(e.watch i).active)).getD 0

/-- Index of `pin` in _stream_channels[0.._stream_n_channels). -/
def StreamState.channelIndex (s : StreamState) (pin : Nat) : Option Nat :=
  Lib.Table.find s.nChannels.toNat (fun i => s.channels i == pin)

end ArduinoDriver
