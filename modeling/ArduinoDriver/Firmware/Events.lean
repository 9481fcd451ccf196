import ArduinoDriver.Firmware.Trace

namespace ArduinoDriver

/-- Whether a watch armed for `mode` reports a change to level `rising`. -/
def edgeMatches (mode : EdgeMode) (rising : Bool) : Bool :=
  mode == .change || (if rising then mode == .rising else mode == .falling)

def edgeOf (rising : Bool) : EdgeMode := if rising then .rising else .falling

/-- The first scan after an arm: the counter restarts and the level is the
baseline, with the debounce window over. -/
def EventWatch.baseline (w : EventWatch) (level : Bool) (now : UInt32) : EventWatch :=
  { w with seenSeq := w.armSeq, count := 0, prevLevel := level, debounceUntil := now }

/-- Full ring: the newest edge is lost. -/
def EventState.full (e : EventState) : Bool := eventQueueDepth ≤ (e.head - e.tail).toNat

/-- The slot at `head` filled, not yet published. -/
def EventState.fill (e : EventState) (ev : UsbioEvent) : EventState :=
  { e with ring := Function.update e.ring (ringSlot eventQueueDepth e.head) ev }

/-- push_event() with no request in between. -/
def EventState.push (e : EventState) (ev : UsbioEvent) : EventState :=
  if e.full then { e with dropped := if e.dropped < 0xFF then e.dropped + 1 else e.dropped }
  else { e.fill ev with head := e.head + 1 }

/-- One slot of event_poll() with no request in between; `dio` is the shadow. -/
def scanWatch (dio : Nat → Bool) (now : UInt32) (e : EventState) (i : Nat) : EventState :=
  let w := e.watch i
  let level := dio w.pin
  if !w.active then e
  else if w.seenSeq ≠ w.armSeq then e.setWatch i (w.baseline level now)
  else if level = w.prevLevel then e
  else if !edgeMatches w.edgeMode level || before now w.debounceUntil then
    e.setWatch i { w with prevLevel := level }
  else
    let w' := { w with
      prevLevel := level
      count := w.count + 1
      debounceUntil := now + w.debounceMs.toUInt32 }
    (e.setWatch i w').push ⟨w.pin, edgeOf level, w'.count, now⟩

/-- event_poll() with no request in between. -/
def eventPoll (d : UsbIoDevice) (now : UInt32) : EventState :=
  if d.nPins = 0 then d.event
  else (List.range maxEventPins).foldl (scanWatch d.dio now) d.event

/-- Where poll() stands in event_poll() and push_event(); `i` is the slot. -/
inductive EventPc where
  | readClock
  | readActive (now : UInt32) (i : Nat)
  | readPin (now : UInt32) (i : Nat)
  | seqTest (now : UInt32) (i pin : Nat)
  | takeSeq (now : UInt32) (i pin : Nat)
  | takeBaseline (now : UInt32) (i pin : Nat)
  | compareLevel (now : UInt32) (i pin : Nat)
  | changeTest (now : UInt32) (i pin : Nat) (rising : Bool)
  | directionTest (now : UInt32) (i pin : Nat) (rising : Bool)
  | debounceTest (now : UInt32) (i pin : Nat) (rising : Bool)
  | bumpCount (now : UInt32) (i pin : Nat) (rising : Bool)
  | openWindow (now : UInt32) (i pin : Nat) (rising : Bool)
  | roomTest (now : UInt32) (i : Nat) (ev : UsbioEvent)
  | dropTest (now : UInt32) (i : Nat)
  | dropLoad (now : UInt32) (i : Nat)
  | dropStore (now : UInt32) (i : Nat) (dropped : UInt8)
  | fillSlot (now : UInt32) (i : Nat) (ev : UsbioEvent)
  | bumpHead (now : UInt32) (i : Nat) (ev : UsbioEvent)
  deriving DecidableEq, Repr

/-- One step of event_poll() or push_event(); `none` once event_poll() returns. -/
def eventStep (env : Env) (d : UsbIoDevice) : EventPc → EventState × Option EventPc × Log
  | .readClock => (d.event, if d.nPins = 0 then none else some (.readActive env.millis 0), [])
  | .readActive now i =>
    if i < maxEventPins then
      (d.event, some (if (d.event.watch i).active then .readPin now i
        else .readActive now (i + 1)), [])
    else (d.event, none, [])
  | .readPin now i => (d.event, some (.seqTest now i (d.event.watch i).pin), [])
  | .seqTest now i pin =>
    let w := d.event.watch i
    (d.event, some (if w.seenSeq ≠ w.armSeq then .takeSeq now i pin
      else .compareLevel now i pin), [])
  | .takeSeq now i pin =>
    let w := d.event.watch i
    (d.event.setWatch i { w with seenSeq := w.armSeq }, some (.takeBaseline now i pin), [])
  | .takeBaseline now i pin =>
    let w := d.event.watch i
    (d.event.setWatch i { w with count := 0, prevLevel := d.dio pin, debounceUntil := now },
      some (.readActive now (i + 1)), [])
  | .compareLevel now i pin =>
    let w := d.event.watch i
    let level := d.dio pin
    if level = w.prevLevel then (d.event, some (.readActive now (i + 1)), [])
    else (d.event.setWatch i { w with prevLevel := level }, some (.changeTest now i pin level), [])
  | .changeTest now i pin rising =>
    (d.event, some (if (d.event.watch i).edgeMode = .change then .debounceTest now i pin rising
      else .directionTest now i pin rising), [])
  | .directionTest now i pin rising =>
    (d.event, some (if (d.event.watch i).edgeMode = edgeOf rising then .debounceTest now i pin rising
      else .readActive now (i + 1)), [])
  | .debounceTest now i pin rising =>
    (d.event, some (if before now (d.event.watch i).debounceUntil then .readActive now (i + 1)
      else .bumpCount now i pin rising), [])
  | .bumpCount now i pin rising =>
    let w := d.event.watch i
    (d.event.setWatch i { w with count := w.count + 1 }, some (.openWindow now i pin rising), [])
  | .openWindow now i pin rising =>
    let w := d.event.watch i
    (d.event.setWatch i { w with debounceUntil := now + w.debounceMs.toUInt32 },
      some (.roomTest now i ⟨pin, edgeOf rising, w.count, now⟩), [])
  | .roomTest now i ev =>
    if d.event.full then (d.event, some (.dropTest now i), [.edge ev false])
    else (d.event, some (.fillSlot now i ev), [])
  | .dropTest now i =>
    (d.event, some (if d.event.dropped < 0xFF then .dropLoad now i else .readActive now (i + 1)), [])
  | .dropLoad now i => (d.event, some (.dropStore now i d.event.dropped), [])
  | .dropStore now i dropped =>
    ({ d.event with dropped := dropped + 1 }, some (.readActive now (i + 1)), [])
  | .fillSlot now i ev => (d.event.fill ev, some (.bumpHead now i ev), [])
  | .bumpHead now i ev =>
    ({ d.event with head := d.event.head + 1 }, some (.readActive now (i + 1)), [.edge ev true])

end ArduinoDriver
