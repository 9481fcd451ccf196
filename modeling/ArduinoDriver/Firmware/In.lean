import ArduinoDriver.Firmware.Out
import Mathlib.Data.List.Basic

namespace ArduinoDriver

/-- Sets bit `p % 8` of byte `p / 8`. -/
def setBit (bytes : List UInt8) (p : Nat) : List UInt8 :=
  bytes.modify (p / 8) (· ||| (1 <<< UInt8.ofNat (p % 8)))

/-- One pin of the digital bitmap: set when it is in a digital mode and its
shadow is HIGH. -/
def bitmapPin (d : UsbIoDevice) (bytes : List UInt8) (p : Nat) : List UInt8 :=
  if modeIsDigital (d.mode p) && d.dio p then setBit bytes p else bytes

def bitmapLen (nPins : Nat) : Nat := (nPins + 7) / 8

def digitalBitmap (d : UsbIoDevice) : List UInt8 :=
  (List.range d.nPins).foldl (bitmapPin d) (List.replicate (bitmapLen d.nPins) 0)

/-- usbio_info_t. -/
def infoBytes (b : Board) (d : UsbIoDevice) : List UInt8 :=
  let streaming := hasFlag d.flags flagStreaming
  usbioMagic ++ putU16 protocolVersion ++ putU16 b.boardId ++
  [UInt8.ofNat d.nPins, UInt8.ofNat d.nAin, UInt8.ofNat b.adcBits, UInt8.ofNat b.pwmBits,
   UInt8.ofNat b.dacBits, UInt8.ofNat queueDepth] ++
  putU16 b.vrefMv ++ putU16 b.ioMv ++ putU16 d.flags ++
  [if streaming then UInt8.ofNat maxStreamChannels else 0,
   if hasFlag d.flags flagEvents then UInt8.ofNat maxEventPins else 0] ++
  putU16 (if streaming then streamMinPeriodUs else 0)

/-- The capability bytes from pin `first` on, at most wLength of them. -/
def pinCapsBytes (d : UsbIoDevice) (first wLength : Nat) : List UInt8 :=
  (List.range (min (d.nPins - first) wLength)).map (fun k => d.caps (first + k))

/-- usbio_status_reply_t. -/
def statusBytes (d : UsbIoDevice) : List UInt8 :=
  [Status.ok.code, d.queuePending, d.lastError.code, 0]

/-- usbio_time_reply_t. -/
def timeBytes (env : Env) : List UInt8 :=
  [Status.ok.code, 0] ++ putU16 0 ++ putU32 env.millis ++ putU32 env.micros

/-- Status of the three reads that need a pin in mode `fits` and an idle queue. -/
def readStatus (d : UsbIoDevice) (fits : Option PinMode → Bool) (index : UInt16) : Status :=
  if d.nPins ≤ index.toNat then .badPin
  else if !fits (d.mode index.toNat) then .badMode
  else if d.busy then .busy
  else .ok

/-- usbio_dio_reply_t. -/
def dioBytes (d : UsbIoDevice) (index : UInt16) : List UInt8 :=
  let status := readStatus d modeIsDigital index
  [status.code, if status = .ok ∧ d.dio index.toNat then 1 else 0]

/-- usbio_ai_reply_t. -/
def aiBytes (d : UsbIoDevice) (index : UInt16) : List UInt8 :=
  let status := readStatus d (· == some .analogIn) index
  [status.code, 0] ++ putU16 (if status = .ok then d.ain index.toNat else 0)

/-- usbio_all_header_t. -/
def allHeader (d : UsbIoDevice) : List UInt8 :=
  [(if d.busy then Status.busy else Status.ok).code, 0]

def aiAllSamples (d : UsbIoDevice) : List UInt8 :=
  (List.range d.nPins).flatMap (fun p =>
    if hasCap (d.caps p) capAin then
      putU16 (if d.mode p = some .analogIn then d.ain p else 0)
    else [])

/-- usbio_stream_status_t: `seq` is that of the last record produced. -/
def streamStatusBytes (s : StreamState) : List UInt8 :=
  [Status.ok.code, if s.running then 1 else 0, s.nChannels, s.flags] ++
  putU16 s.periodUs ++ putU16 0 ++ putU32 (if s.seq = 0 then 0 else s.seq - 1) ++
  putU32 s.overruns

/-- usbio_event_header_t. -/
def eventHeader (count dropped pending : UInt8) : List UInt8 :=
  [Status.ok.code, count, dropped, pending]

/-- usbio_event_t. -/
def UsbioEvent.bytes (ev : UsbioEvent) : List UInt8 :=
  [UInt8.ofNat ev.pin, ev.edge.code] ++ putU16 ev.seq ++ putU32 ev.tMs

/-- The loop of EVENT_POP over the `n` slots from `tail` on, with room for `room`
more events: where the tail ends and the events taken, tombstones skipped. -/
def popEvents (ring : Nat → UsbioEvent) (tail : UInt8) (room : Nat) :
    Nat → UInt8 × List UsbioEvent
  | 0 => (tail, [])
  | n + 1 =>
    if room = 0 then (tail, [])
    else
      let slot := ring (ringSlot eventQueueDepth tail)
      if slot.pin = eventTombstone then popEvents ring (tail + 1) room n
      else
        let rest := popEvents ring (tail + 1) (room - 1) n
        (rest.1, slot :: rest.2)

/-- The loop of count_queued_events(). -/
def countFrom (ring : Nat → UsbioEvent) (i : UInt8) : Nat → UInt8
  | 0 => 0
  | n + 1 =>
    (if (ring (ringSlot eventQueueDepth i)).pin = eventTombstone then 0 else 1) +
      countFrom ring (i + 1) n

/-- count_queued_events(). -/
def EventState.countQueued (e : EventState) : UInt8 :=
  countFrom e.ring e.tail (e.head - e.tail).toNat

/-- wIndex of EVENT_POP as a number of events: 0 or too many ask for a full reply. -/
def popCap (index : UInt16) : Nat :=
  if index = 0 ∨ maxEventsPerPop < index.toNat then maxEventsPerPop else index.toNat

/-- handle_in(), case USBIO_REQ_EVENT_POP. -/
def EventState.pop (e : EventState) (index : UInt16) : EventState × List UInt8 :=
  let taken := popEvents e.ring e.tail (popCap index) (e.head - e.tail).toNat
  let e' := { e with tail := taken.1, dropped := 0 }
  (e', eventHeader (UInt8.ofNat taken.2.length) e.dropped e'.countQueued ++
    taken.2.flatMap UsbioEvent.bytes)

/-- (int8_t)(arm_seq of slot i - arm_seq of slot j) > 0. -/
def EventState.armedAfter (e : EventState) (i j : Nat) : Bool :=
  let x := (e.watch i).armSeq - (e.watch j).armSeq
  x != 0 && x < 0x80

/-- One step of EVENT_COUNTS' insertion sort. `sorted` is the prefix of `order`
already in place, last slot first, the way the inner loop walks it. -/
def EventState.insertArmed (e : EventState) (key : Nat) : List Nat → List Nat
  | [] => [key]
  | j :: sorted => if e.armedAfter j key then j :: e.insertArmed key sorted else key :: j :: sorted

def EventState.armOrder (e : EventState) : List Nat :=
  (((List.range maxEventPins).filter (fun i => (e.watch i).active)).foldl
    (fun sorted key => e.insertArmed key sorted) []).reverse

/-- usbio_event_count_t. -/
def EventWatch.countBytes (w : EventWatch) : List UInt8 :=
  [UInt8.ofNat w.pin, w.edgeMode.code] ++ putU16 w.count

/-- handle_in(), case USBIO_REQ_EVENT_COUNTS. -/
def EventState.countsBytes (e : EventState) : List UInt8 :=
  let order := e.armOrder
  eventHeader (UInt8.ofNat order.length) 0 0 ++ order.flatMap (fun i => (e.watch i).countBytes)

/-- What handle_in() writes to _reply, before the clamp to wLength; `none` when
it STALLs. -/
def replyBytes (b : Board) (env : Env) (d : UsbIoDevice) (bRequest : UInt8)
    (index wLength : UInt16) : UsbIoDevice × Option (List UInt8) :=
  match Request.ofCode? bRequest with
  | some .getInfo => (d, some (infoBytes b d))
  | some .getPinCaps => (d, some (pinCapsBytes d index.toNat wLength.toNat))
  | some .getStatus => ({ d with lastError := .ok }, some (statusBytes d))
  | some .getTime => (d, some (timeBytes env))
  | some .dioRead => (d, some (dioBytes d index))
  | some .aiRead => (d, some (aiBytes d index))
  | some .dioReadAll => (d, some (allHeader d ++ digitalBitmap d))
  | some .aiReadAll => (d, some (allHeader d ++ aiAllSamples d))
  | some .streamStatus =>
    if b.hasStreamTransport && hasFlag d.flags flagStreaming then
      (d, some (streamStatusBytes d.stream))
    else ((stall d .unsupported).1, none)
  | some .eventPop =>
    ({ d with event := (d.event.pop index).1 }, some (d.event.pop index).2)
  | some .eventCounts => (d, some d.event.countsBytes)
  | _ => ((stall d .badCmd).1, none)

/-- handle_in(). -/
def handleIn (b : Board) (env : Env) (d : UsbIoDevice) (bRequest : UInt8)
    (index wLength : UInt16) : UsbIoDevice × Option (List UInt8) :=
  let r := replyBytes b env d bRequest index wLength
  (r.1, r.2.map (List.take wLength.toNat))

end ArduinoDriver
