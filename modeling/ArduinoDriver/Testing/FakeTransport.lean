import ArduinoDriver.Firmware.Events
import ArduinoDriver.Host.PinCalls

namespace ArduinoDriver

/-- What a fake board reports; its name is left out. -/
structure FakeBoard where
  boardId : UInt16
  /-- One capability byte per pin. -/
  caps : List UInt8
  adcBits : UInt8
  pwmBits : UInt8
  dacBits : UInt8
  queueDepth : UInt8
  vrefMv : UInt16
  ioMv : UInt16
  flags : UInt16
  nAinOverride : Option UInt8
  streamMaxChannels : UInt8
  eventMaxPins : UInt8
  streamMinPeriodUs : UInt16

/-- n_pins(), a uint8_t. -/
def FakeBoard.nPins (board : FakeBoard) : Nat := (UInt8.ofNat board.caps.length).toNat

/-- The capability byte of a pin. -/
def FakeBoard.pinCaps (board : FakeBoard) (pin : Nat) : UInt8 := board.caps.getD pin 0

def FakeBoard.analogPins (board : FakeBoard) : List Nat :=
  (List.range board.caps.length).filter (fun pin => pinHas (board.pinCaps pin) capAin)

def FakeBoard.nAin (board : FakeBoard) : UInt8 :=
  board.nAinOverride.getD (UInt8.ofNat board.analogPins.length)

/-- FakeBoard::supports_pulldown(). -/
def FakeBoard.supportsPulldown (board : FakeBoard) : Bool := hasFlag board.flags flagPulldown

/-- One watched pin, as the fake tracks it. -/
structure FakeWatch where
  pin : Nat
  edge : EdgeMode
  debounceMs : UInt8
  count : UInt16
  lastAcceptMs : Option UInt32
  deriving DecidableEq, Repr

/-- What the tests inject. -/
structure Faults where
  /-- GET_STATUS reports so many commands, one less at each poll. -/
  queuePending : UInt8
  busyReads : Nat
  notReady : Nat
  queueFull : Bool
  forcedStall : Option Status
  truncate : Option (Request × Nat)
  protocolVersion : UInt16
  magic : List UInt8
  deriving DecidableEq, Repr

/-- Nothing injected. -/
def Faults.inert : Faults := ⟨0, 0, 0, false, none, none, ArduinoDriver.protocolVersion, usbioMagic⟩

/-- class FakeTransport, without its wire log and its bulk queue. A queued event is
the firmware's usbio_event_t; the per-pin vectors are total functions of the index. -/
structure FakeTransport where
  board : FakeBoard
  mode : Nat → Option PinMode
  dio : Nat → Bool
  ain : Nat → UInt16
  pwm : Nat → UInt16
  dac : Nat → UInt16
  lastError : Status
  faults : Faults
  streamRunning : Bool
  streamSelected : List Nat
  streamFlags : UInt8
  streamPeriodUs : UInt16
  streamSeq : UInt32
  streamOverruns : UInt32
  millis : UInt32
  micros : UInt32
  eventWatch : List FakeWatch
  eventQueue : List UsbioEvent
  eventDropped : UInt8

def FakeTransport.init (board : FakeBoard) : FakeTransport where
  board := board
  mode := fun _ => none
  dio := fun _ => false
  ain := fun _ => 0
  pwm := fun _ => 0
  dac := fun _ => 0
  lastError := .ok
  faults := .inert
  streamRunning := false
  streamSelected := []
  streamFlags := 0
  streamPeriodUs := 0
  streamSeq := 0
  streamOverruns := 0
  millis := 0
  micros := 0
  eventWatch := []
  eventQueue := []
  eventDropped := 0

/-- The constructor; `none` when it throws. -/
def FakeTransport.construct (board : FakeBoard) : Option FakeTransport :=
  if maxPins < board.caps.length then none else some (.init board)

/-- is_input_mode(). -/
def isInputMode (mode : Option PinMode) : Bool :=
  mode == some .input || mode == some .inputPullup || mode == some .inputPulldown

/-- is_digital_mode(). -/
def isDigitalMode (mode : Option PinMode) : Bool :=
  mode == some .input || mode == some .output || mode == some .inputPullup ||
    mode == some .inputPulldown

namespace FakeTransport

/-- stall(): record the reason, throw StallError. -/
def stall (f : FakeTransport) (reason : Status) : FakeTransport × Bool :=
  ({ f with lastError := reason }, false)

def setFaults (f : FakeTransport) (faults : Faults) : FakeTransport := { f with faults := faults }

/-- take_busy(). -/
def takeBusy (f : FakeTransport) : FakeTransport × Bool :=
  if f.faults.busyReads = 0 then (f, false)
  else (f.setFaults { f.faults with busyReads := f.faults.busyReads - 1 }, true)

/-- encode_info(). -/
def encodeInfo (f : FakeTransport) : FakeTransport × List UInt8 :=
  let ready := decide (f.faults.notReady = 0)
  let f' := if ready then f else f.setFaults { f.faults with notReady := f.faults.notReady - 1 }
  (f', f.faults.magic ++ putU16 f.faults.protocolVersion ++ putU16 f.board.boardId ++
    [if ready then UInt8.ofNat f.board.nPins else 0, if ready then f.board.nAin else 0,
     f.board.adcBits, f.board.pwmBits, f.board.dacBits, f.board.queueDepth] ++
    putU16 f.board.vrefMv ++ putU16 f.board.ioMv ++ putU16 f.board.flags ++
    [f.board.streamMaxChannels, f.board.eventMaxPins] ++ putU16 f.board.streamMinPeriodUs)

/-- control_in(), case DioRead: pin, mode, then BUSY. -/
def dioRead (f : FakeTransport) (pin : Nat) : FakeTransport × List UInt8 :=
  if f.board.nPins ≤ pin then (f, [Status.badPin.code, 0])
  else if !isDigitalMode (f.mode pin) then (f, [Status.badMode.code, 0])
  else
    let busy := f.takeBusy
    (busy.1, if busy.2 then [Status.busy.code, 0] else [Status.ok.code, if f.dio pin then 1 else 0])

/-- control_in(), case AiRead. -/
def aiRead (f : FakeTransport) (pin : Nat) : FakeTransport × List UInt8 :=
  if f.board.nPins ≤ pin then (f, [Status.badPin.code, 0] ++ putU16 0)
  else if f.mode pin ≠ some .analogIn then (f, [Status.badMode.code, 0] ++ putU16 0)
  else
    let busy := f.takeBusy
    (busy.1, if busy.2 then [Status.busy.code, 0] ++ putU16 0
      else [Status.ok.code, 0] ++ putU16 (f.ain pin))

/-- The header of the two *_READ_ALL replies. -/
def allHeader (f : FakeTransport) : FakeTransport × List UInt8 :=
  let busy := f.takeBusy
  (busy.1, [(if busy.2 then Status.busy else Status.ok).code, 0])

def levelBits (f : FakeTransport) : List UInt8 :=
  (List.range f.board.nPins).foldl
    (fun bytes pin => if isDigitalMode (f.mode pin) && f.dio pin then setBit bytes pin else bytes)
    (List.replicate (bitmapLen f.board.nPins) 0)

def analogSamples (f : FakeTransport) : List UInt8 :=
  f.board.analogPins.flatMap (fun pin =>
    putU16 (if f.mode pin = some .analogIn then f.ain pin else 0))

/-- control_in(), case GetStatus: the error is cleared by the read. -/
def getStatus (f : FakeTransport) : FakeTransport × List UInt8 :=
  let pending := f.faults.queuePending
  ({ f with
      lastError := .ok
      faults := { f.faults with queuePending := if 0 < pending then pending - 1 else pending } },
    [Status.ok.code, pending, f.lastError.code, 0])

/-- control_in(), case StreamStatus. -/
def streamStatus (f : FakeTransport) : List UInt8 :=
  [Status.ok.code, if f.streamRunning then 1 else 0, UInt8.ofNat f.streamSelected.length,
   f.streamFlags] ++
  putU16 f.streamPeriodUs ++ putU16 0 ++ putU32 f.streamSeq ++ putU32 f.streamOverruns

/-- control_in(), case EventPop. -/
def eventPop (f : FakeTransport) (index : UInt16) : FakeTransport × List UInt8 :=
  let requested := if index = 0 then maxEventsPerPop else min index.toNat maxEventsPerPop
  let n := min requested f.eventQueue.length
  let left := f.eventQueue.drop n
  ({ f with eventQueue := left, eventDropped := 0 },
    eventHeader (UInt8.ofNat n) f.eventDropped (UInt8.ofNat (min left.length 255)) ++
      (f.eventQueue.take n).flatMap UsbioEvent.bytes)


/-- usbio_event_count_t of a watched pin. -/
def watchBytes (w : FakeWatch) : List UInt8 := [UInt8.ofNat w.pin, w.edge.code] ++ putU16 w.count

/-- control_in(), case EventCounts. -/
def eventCounts (f : FakeTransport) : List UInt8 :=
  eventHeader (UInt8.ofNat f.eventWatch.length) 0 0 ++ f.eventWatch.flatMap watchBytes

/-- The switch of control_in(); `none` when it STALLs. -/
def reply (f : FakeTransport) (request : UInt8) (index : UInt16) :
    FakeTransport × Option (List UInt8) :=
  match Request.ofCode? request with
  | some .getInfo => (f.encodeInfo.1, some f.encodeInfo.2)
  | some .getPinCaps => (f, some (f.board.caps.drop index.toNat))
  | some .dioRead => ((f.dioRead index.toNat).1, some (f.dioRead index.toNat).2)
  | some .aiRead => ((f.aiRead index.toNat).1, some (f.aiRead index.toNat).2)
  | some .dioReadAll => (f.allHeader.1, some (f.allHeader.2 ++ f.levelBits))
  | some .aiReadAll => (f.allHeader.1, some (f.allHeader.2 ++ f.analogSamples))
  | some .getStatus => (f.getStatus.1, some f.getStatus.2)
  | some .streamStatus =>
    if hasFlag f.board.flags flagStreaming then (f, some f.streamStatus)
    else ((f.stall .unsupported).1, none)
  | some .getTime =>
    (f, some ([Status.ok.code, 0] ++ putU16 0 ++ putU32 f.millis ++ putU32 f.micros))
  | some .eventPop =>
    if hasFlag f.board.flags flagEvents then ((f.eventPop index).1, some (f.eventPop index).2)
    else ((f.stall .unsupported).1, none)
  | some .eventCounts =>
    if hasFlag f.board.flags flagEvents then (f, some f.eventCounts)
    else ((f.stall .unsupported).1, none)
  | _ => ((f.stall .badCmd).1, none)

/-- An injected truncation of the reply to `request`, once. -/
def truncated (f : FakeTransport) (request : UInt8) (bytes : List UInt8) :
    FakeTransport × List UInt8 :=
  match f.faults.truncate with
  | none => (f, bytes)
  | some (cut, maxLen) =>
    if cut.code = request then (f.setFaults { f.faults with truncate := none }, bytes.take maxLen)
    else (f, bytes)

/-- control_in() with room for `wLength` bytes. -/
def controlIn (f : FakeTransport) (request : UInt8) (index wLength : UInt16) :
    FakeTransport × Option (List UInt8) :=
  match f.reply request index with
  | (f, none) => (f, none)
  | (f, some bytes) =>
    ((f.truncated request bytes).1, some ((f.truncated request bytes).2.take wLength.toNat))

/-- `it->...` where `it` is the first watch of `pin`. -/
def updateWatch (f : FakeTransport) (pin : Nat) (g : FakeWatch → FakeWatch) : FakeTransport :=
  { f with eventWatch := f.eventWatch.modify (f.eventWatch.findIdx (fun w => w.pin == pin)) g }

def findWatch (f : FakeTransport) (pin : Nat) : Option FakeWatch :=
  f.eventWatch.find? (fun w => w.pin == pin)

/-- unwatch_event_locked(). -/
def unwatchEvent (f : FakeTransport) (pin : Nat) (purgeQueue : Bool) : FakeTransport :=
  if (f.findWatch pin).isNone then f
  else { f with
    eventWatch := f.eventWatch.eraseP (fun w => w.pin == pin)
    eventQueue :=
      if purgeQueue then f.eventQueue.filter (fun ev => ev.pin != pin) else f.eventQueue }

/-- The end of handle_event_config(): a watched pin keeps its place. -/
def armWatch (f : FakeTransport) (pin : Nat) (edge : EdgeMode) (debounceMs : UInt8) : FakeTransport :=
  if (f.findWatch pin).isSome then
    f.updateWatch pin (fun w =>
      { w with edge := edge, debounceMs := debounceMs, count := 0, lastAcceptMs := none })
  else { f with eventWatch := f.eventWatch ++ [⟨pin, edge, debounceMs, 0, none⟩] }

/-- handle_event_config(). -/
def handleEventConfig (f : FakeTransport) (value index : UInt16) : FakeTransport × Bool :=
  let pin := index.toNat
  if f.board.nPins ≤ pin then f.stall .badPin
  else
    let edge := EdgeMode.ofCode? value.toUInt8
    if edge = some .off then (f.unwatchEvent pin true, true)
    else if !(pinHas (f.board.pinCaps pin) capDio && isInputMode (f.mode pin)) then f.stall .badMode
    else match edge with
      | none => f.stall .badValue
      | some edge =>
        let debounceMs := (value >>> 8).toUInt8
        if (f.findWatch pin).isNone && f.board.eventMaxPins.toNat ≤ f.eventWatch.length then
          f.stall .badValue
        else (f.armWatch pin edge debounceMs, true)

/-- handle_stream_select(). -/
def handleStreamSelect (f : FakeTransport) (value index : UInt16) : FakeTransport × Bool :=
  let pin := index.toNat
  if f.streamRunning then f.stall .busy
  else if f.board.nPins ≤ pin then f.stall .badPin
  else if !(isInputMode (f.mode pin) || f.mode pin == some .analogIn) then f.stall .badMode
  else if 1 < value then f.stall .badValue
  else if value ≠ 0 then
    if f.streamSelected.contains pin then (f, true)
    else if f.board.streamMaxChannels.toNat ≤ f.streamSelected.length then f.stall .badValue
    else ({ f with streamSelected := f.streamSelected ++ [pin] }, true)
  else ({ f with streamSelected := f.streamSelected.erase pin }, true)

/-- handle_stream_start(). -/
def handleStreamStart (f : FakeTransport) (value index : UInt16) : FakeTransport × Bool :=
  let minPeriod :=
    if f.board.streamMinPeriodUs ≠ 0 then f.board.streamMinPeriodUs else streamLegacyMinPeriodUs
  if f.streamRunning then f.stall .busy
  else if f.streamSelected = [] then f.stall .badValue
  else if value ≠ 0 ∧ value < minPeriod then f.stall .badValue
  else if index &&& ~~~(streamFlagDigital ||| streamFlagStopOnOverrun).toUInt16 ≠ 0 then
    f.stall .badValue
  else
    ({ f with
      streamFlags := index.toUInt8
      streamPeriodUs := value
      streamSeq := 0
      streamOverruns := 0
      streamRunning := true }, true)

/-- control_out(), case Reset. -/
def reset (f : FakeTransport) : FakeTransport :=
  { f with
    mode := fun p =>
      if p < f.board.nPins then
        (if pinHas (f.board.pinCaps p) capDio then some .input else none)
      else f.mode p
    ain := fun p => if p < f.board.nPins then 0 else f.ain p
    faults := { f.faults with queuePending := 0, queueFull := false }
    streamRunning := false
    streamSelected := []
    eventWatch := []
    eventQueue := []
    eventDropped := 0 }

/-- control_out(), case PinMode. -/
def handlePinMode (f : FakeTransport) (value : UInt16) (pin : Nat) : FakeTransport × Bool :=
  match PinMode.ofCode? value with
  | none => f.stall .badValue
  | some mode =>
    if !modeSupported mode (f.board.pinCaps pin) f.board.supportsPulldown then f.stall .unsupported
    else if f.faults.queueFull then f.stall .queueFull
    else
      let f := { f with mode := Function.update f.mode pin (some mode) }
      (if isInputMode (some mode) then f else f.unwatchEvent pin false, true)

/-- control_out(), case DioWrite. -/
def handleDioWrite (f : FakeTransport) (value : UInt16) (pin : Nat) : FakeTransport × Bool :=
  if f.mode pin ≠ some .output then f.stall .badMode
  else if f.faults.queueFull then f.stall .queueFull
  else ({ f with dio := Function.update f.dio pin (decide (value ≠ 0)) }, true)

/-- control_out(), case PwmWrite. -/
def handlePwmWrite (f : FakeTransport) (value : UInt16) (pin : Nat) : FakeTransport × Bool :=
  if f.mode pin ≠ some .pwm then f.stall .badMode
  else if maxValue f.board.pwmBits < value then f.stall .badValue
  else if f.faults.queueFull then f.stall .queueFull
  else ({ f with pwm := Function.update f.pwm pin value }, true)

/-- control_out(), case DacWrite. -/
def handleDacWrite (f : FakeTransport) (value : UInt16) (pin : Nat) : FakeTransport × Bool :=
  if f.mode pin ≠ some .dac then f.stall .badMode
  else if maxValue f.board.dacBits < value then f.stall .badValue
  else if f.faults.queueFull then f.stall .queueFull
  else ({ f with dac := Function.update f.dac pin value }, true)

/-- The switches of control_out(): the pin requests share the range check. -/
def handleOut (f : FakeTransport) (request : UInt8) (value index : UInt16) : FakeTransport × Bool :=
  let pin := index.toNat
  match Request.ofCode? request with
  | some .reset => (f.reset, true)
  | some .eventConfig =>
    if hasFlag f.board.flags flagEvents then f.handleEventConfig value index
    else f.stall .unsupported
  | some .streamSelect =>
    if hasFlag f.board.flags flagStreaming then f.handleStreamSelect value index
    else f.stall .unsupported
  | some .streamStart =>
    if hasFlag f.board.flags flagStreaming then f.handleStreamStart value index
    else f.stall .unsupported
  | some .streamStop =>
    if hasFlag f.board.flags flagStreaming then ({ f with streamRunning := false }, true)
    else f.stall .unsupported
  | some .pinMode =>
    if f.board.nPins ≤ pin then f.stall .badPin else f.handlePinMode value pin
  | some .dioWrite =>
    if f.board.nPins ≤ pin then f.stall .badPin else f.handleDioWrite value pin
  | some .pwmWrite =>
    if f.board.nPins ≤ pin then f.stall .badPin else f.handlePwmWrite value pin
  | some .dacWrite =>
    if f.board.nPins ≤ pin then f.stall .badPin else f.handleDacWrite value pin
  | _ => f.stall .badCmd

/-- control_out(). -/
def controlOut (f : FakeTransport) (request : UInt8) (value index : UInt16) :
    FakeTransport × Bool :=
  match f.faults.forcedStall with
  | some reason => (f.setFaults { f.faults with forcedStall := none }).stall reason
  | none => f.handleOut request value index

end FakeTransport

/-- Whether a watch still ignores edges at `now`. -/
def FakeWatch.ignores (w : FakeWatch) (now : UInt32) : Bool :=
  match w.lastAcceptMs with
  | some t => w.debounceMs != 0 && decide (now - t < w.debounceMs.toUInt32)
  | none => false

/-- handle_edge_locked(). -/
def FakeTransport.handleEdge (f : FakeTransport) (pin : Nat) (newLevel : Bool) : FakeTransport :=
  match f.findWatch pin with
  | none => f
  | some w =>
    if w.edge ≠ .change ∧ w.edge ≠ edgeOf newLevel then f
    else if w.ignores f.millis then f
    else
      let f := f.updateWatch pin (fun w =>
        { w with lastAcceptMs := some f.millis, count := w.count + 1 })
      if eventQueueDepth ≤ f.eventQueue.length then
        { f with eventDropped := if f.eventDropped < 255 then f.eventDropped + 1 else f.eventDropped }
      else
        { f with eventQueue := f.eventQueue ++ [⟨pin, edgeOf newLevel, w.count + 1, f.millis⟩] }

/-- set_digital(), of a pin that exists: only a change is an edge. -/
def FakeTransport.setDigital (f : FakeTransport) (pin : Nat) (high : Bool) : FakeTransport :=
  let f' := if f.dio pin ≠ high then f.handleEdge pin high else f
  { f' with dio := Function.update f'.dio pin high }

def FakeTransport.setMillis (f : FakeTransport) (ms : UInt32) : FakeTransport :=
  { f with millis := ms }

end ArduinoDriver
