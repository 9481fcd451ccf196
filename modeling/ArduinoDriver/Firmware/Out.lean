import ArduinoDriver.Firmware.Device

namespace ArduinoDriver

/-- stall(): record the reason, refuse. -/
def stall (d : UsbIoDevice) (reason : Status) : UsbIoDevice × Bool :=
  ({ d with lastError := reason }, false)

/-- enqueue(); `none` when the queue is full. -/
def enqueue (d : UsbIoDevice) (cmd : Request) (pin : Nat) (value : UInt16) : Option UsbIoDevice :=
  if queueDepth ≤ d.queuePending.toNat then none
  else some { d with
    queue := Function.update d.queue (ringSlot queueDepth d.head) ⟨cmd, pin, d.epoch, value⟩
    head := d.head + 1 }

/-- request_reset(). The event ring is emptied by moving the index this side
owns, so `tail` can never overtake poll()'s `head`. -/
def requestReset (d : UsbIoDevice) : UsbIoDevice :=
  { d with
    epoch := d.epoch + 1
    mode := fun p =>
      if p < d.nPins then (if hasCap (d.caps p) capDio then some .input else none) else d.mode p
    stream := { d.stream with running := false, nChannels := 0 }
    event := { d.event with
      watch := fun i =>
        if i < maxEventPins then { d.event.watch i with active := false } else d.event.watch i
      nWatched := 0
      tail := d.event.head
      dropped := 0 }
    resetRequests := d.resetRequests + 1 }

def EventState.setWatch (e : EventState) (i : Nat) (w : EventWatch) : EventState :=
  { e with watch := Function.update e.watch i w }

/-- Clears `active` of a slot and uncounts it. -/
def EventState.unwatch (e : EventState) (i : Nat) : EventState :=
  { e.setWatch i { e.watch i with active := false } with nWatched := e.nWatched - 1 }

/-- The loop of discard_events_for_pin(): `n` slots from index `i` on. -/
def discardFrom (pin : Nat) (ring : Nat → UsbioEvent) (i : UInt8) : Nat → Nat → UsbioEvent
  | 0 => ring
  | n + 1 =>
    let slot := ringSlot eventQueueDepth i
    discardFrom pin
      (if (ring slot).pin = pin then
        Function.update ring slot { ring slot with pin := eventTombstone }
       else ring) (i + 1) n

/-- discard_events_for_pin(). -/
def EventState.discard (e : EventState) (pin : Nat) : EventState :=
  { e with ring := discardFrom pin e.ring e.tail (e.head - e.tail).toNat }

/-- Watch slot `i` armed for `pin`, stamped with the next arm_seq. -/
def EventState.arm (e : EventState) (i pin : Nat) (edge : EdgeMode) (debounceMs : UInt8) :
    EventState :=
  { e.setWatch i { e.watch i with
      pin := pin, edgeMode := edge, debounceMs := debounceMs, armSeq := e.armSeq + 1
      active := true } with
    armSeq := e.armSeq + 1 }

/-- handle_event_config(). OFF comes first and is never refused. -/
def handleEventConfig (d : UsbIoDevice) (pin : Nat) (wValue : UInt16) : UsbIoDevice × Bool :=
  let edge := EdgeMode.ofCode? wValue.toUInt8
  let idx := d.event.watchIndex pin
  if edge = some .off then
    match idx with
    | some i => ({ d with event := (d.event.unwatch i).discard pin }, true)
    | none => (d, true)
  else if !hasCap (d.caps pin) capDio || !modeIsInput (d.mode pin) then stall d .badMode
  else match edge with
    | none => stall d .badValue
    | some edge =>
      let debounceMs := (wValue >>> 8).toUInt8
      match idx with
      | some i => ({ d with event := d.event.arm i pin edge debounceMs }, true)
      | none =>
        if maxEventPins ≤ d.event.nWatched.toNat then stall d .badValue
        else
          let i := d.event.freeSlot
          ({ d with event :=
              { d.event.arm i pin edge debounceMs with nWatched := d.event.nWatched + 1 } }, true)

/-- The shift of handle_stream_select()'s remove: entry `i` takes its successor
as long as there is one below `n`. -/
def shiftDown (channels : Nat → Nat) (i n : Nat) : Nat → Nat :=
  fun j => if i ≤ j ∧ j + 1 < n then channels (j + 1) else channels j

def StreamState.addChannel (s : StreamState) (pin : Nat) : StreamState :=
  { s with
    channels := Function.update s.channels s.nChannels.toNat pin
    nChannels := s.nChannels + 1 }

def StreamState.removeChannel (s : StreamState) (i : Nat) : StreamState :=
  { s with channels := shiftDown s.channels i s.nChannels.toNat, nChannels := s.nChannels - 1 }

/-- handle_stream_select(). -/
def handleStreamSelect (d : UsbIoDevice) (wValue wIndex : UInt16) : UsbIoDevice × Bool :=
  let pin := wIndex.toNat
  if !hasFlag d.flags flagStreaming then stall d .unsupported
  else if d.stream.running then stall d .busy
  else if d.nPins ≤ pin then stall d .badPin
  else if d.mode pin ≠ some .analogIn ∧ !modeIsInput (d.mode pin) then stall d .badMode
  else if 1 < wValue then stall d .badValue
  else
    let idx := d.stream.channelIndex pin
    if wValue ≠ 0 then
      -- adding a selected pin is a no-op
      if idx.isSome then (d, true)
      else if maxStreamChannels ≤ d.stream.nChannels.toNat then stall d .badValue
      else ({ d with stream := d.stream.addChannel pin }, true)
    else match idx with
      | none => (d, true)
      | some i => ({ d with stream := d.stream.removeChannel i }, true)

/-- handle_stream_start(). The ring and the counters are reset by stream_poll(),
which sees `startRequests` move. -/
def handleStreamStart (d : UsbIoDevice) (wValue wIndex : UInt16) : UsbIoDevice × Bool :=
  if !hasFlag d.flags flagStreaming then stall d .unsupported
  else if d.stream.running then stall d .busy
  else if d.stream.nChannels = 0 then stall d .badValue
  else if wValue ≠ 0 ∧ wValue < streamMinPeriodUs then stall d .badValue
  else if wIndex &&& ~~~(streamFlagDigital ||| streamFlagStopOnOverrun).toUInt16 ≠ 0 then
    stall d .badValue
  else
    ({ d with stream := { d.stream with
        periodUs := wValue
        flags := wIndex.toUInt8
        running := true
        startRequests := d.stream.startRequests + 1 } }, true)

/-- handle_stream_stop(): the selection and the queued records are kept. -/
def handleStreamStop (d : UsbIoDevice) : UsbIoDevice × Bool :=
  if !hasFlag d.flags flagStreaming then stall d .unsupported
  else ({ d with stream := { d.stream with running := false } }, true)

/-- What an accepted PIN_MODE does at once: the intended mode, the running
stream of a selected pin, the watch of a pin leaving INPUT*. -/
def recordMode (d : UsbIoDevice) (pin : Nat) (mode : PinMode) : UsbIoDevice :=
  { d with
    mode := Function.update d.mode pin (some mode)
    stream :=
      if d.stream.running && (d.stream.channelIndex pin).isSome then
        { d.stream with running := false }
      else d.stream
    event :=
      if modeIsInput (some mode) then d.event
      else match d.event.watchIndex pin with
        | some i => d.event.unwatch i
        | none => d.event }

/-- handle_out(), case USBIO_REQ_PIN_MODE. -/
def handlePinMode (b : Board) (d : UsbIoDevice) (pin : Nat) (wValue : UInt16) :
    UsbIoDevice × Bool :=
  match PinMode.ofCode? wValue with
  | none => stall d .badValue
  | some mode =>
    if !modeAllowed b (d.caps pin) mode then stall d .unsupported
    else match enqueue d .pinMode pin wValue with
      | none => stall d .queueFull
      | some d₁ => (recordMode d₁ pin mode, true)

/-- The three writes of handle_out(): the pin's intended mode must be `mode`,
the value at most `limit`, and the queue must take the command. -/
def handleWrite (d : UsbIoDevice) (cmd : Request) (mode : PinMode) (limit : Nat) (pin : Nat)
    (value : UInt16) : UsbIoDevice × Bool :=
  if d.mode pin ≠ some mode then stall d .badMode
  else if limit < value.toNat then stall d .badValue
  else match enqueue d cmd pin value with
    | none => stall d .queueFull
    | some d₁ => (d₁, true)

/-- handle_out(), case USBIO_REQ_DIO_WRITE: any non-zero wValue is HIGH. -/
def handleDioWrite (d : UsbIoDevice) (pin : Nat) (wValue : UInt16) : UsbIoDevice × Bool :=
  handleWrite d .dioWrite .output 1 pin (if wValue ≠ 0 then 1 else 0)

/-- handle_out(), case USBIO_REQ_PWM_WRITE. -/
def handlePwmWrite (b : Board) (d : UsbIoDevice) (pin : Nat) (wValue : UInt16) :
    UsbIoDevice × Bool :=
  handleWrite d .pwmWrite .pwm (fullScale b.pwmBits) pin wValue

/-- handle_out(), case USBIO_REQ_DAC_WRITE. -/
def handleDacWrite (b : Board) (d : UsbIoDevice) (pin : Nat) (wValue : UInt16) :
    UsbIoDevice × Bool :=
  handleWrite d .dacWrite .dac (fullScale b.dacBits) pin wValue

/-- handle_out(). The pin requests share the range check of their index. -/
def handleOut (b : Board) (d : UsbIoDevice) (bRequest : UInt8) (wValue wIndex wLength : UInt16) :
    UsbIoDevice × Bool :=
  let pin := wIndex.toNat
  if wLength ≠ 0 then stall d .badCmd
  else match Request.ofCode? bRequest with
    | some .reset => (requestReset d, true)
    | some .streamSelect =>
      if b.hasStreamTransport then handleStreamSelect d wValue wIndex else stall d .unsupported
    | some .streamStart =>
      if b.hasStreamTransport then handleStreamStart d wValue wIndex else stall d .unsupported
    | some .streamStop =>
      if b.hasStreamTransport then handleStreamStop d else stall d .unsupported
    | some .pinMode =>
      if d.nPins ≤ pin then stall d .badPin else handlePinMode b d pin wValue
    | some .dioWrite =>
      if d.nPins ≤ pin then stall d .badPin else handleDioWrite d pin wValue
    | some .pwmWrite =>
      if d.nPins ≤ pin then stall d .badPin else handlePwmWrite b d pin wValue
    | some .dacWrite =>
      if d.nPins ≤ pin then stall d .badPin else handleDacWrite b d pin wValue
    | some .eventConfig =>
      if d.nPins ≤ pin then stall d .badPin else handleEventConfig d pin wValue
    | _ => stall d .badCmd

end ArduinoDriver
