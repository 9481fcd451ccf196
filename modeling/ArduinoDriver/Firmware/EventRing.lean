import ArduinoDriver.Firmware.Identity

namespace ArduinoDriver

/-- A ring slot that no OFF has discarded. -/
def UsbioEvent.live (ev : UsbioEvent) : Bool := ev.pin ≠ eventTombstone

/-- The slots between `tail` and `head` that are still of use, oldest first. -/
def liveFrom (ring : Nat → UsbioEvent) (tail head : UInt8) : List UsbioEvent :=
  (Lib.Ring.contents eventQueueDepth ring tail head).filter UsbioEvent.live

/-- The queued events. -/
def EventState.queued (e : EventState) : List UsbioEvent := liveFrom e.ring e.tail e.head

/-- What discard_events_for_pin() makes of one slot. -/
def UsbioEvent.discardedFor (ev : UsbioEvent) (pin : Nat) : UsbioEvent :=
  if ev.pin = pin then { ev with pin := eventTombstone } else ev

variable {ring : Nat → UsbioEvent} {tail head : UInt8} {pin i n room : Nat} {e : EventState}
  {ev : UsbioEvent}

@[simp] theorem liveFrom_self : liveFrom ring head head = [] := by
  unfold liveFrom
  rw [Lib.Ring.contents_self]
  rfl

theorem liveFrom_pop (more : tail ≠ head) :
    liveFrom ring tail head =
      if (ring (ringSlot eventQueueDepth tail)).pin = eventTombstone then
        liveFrom ring (tail + 1) head
      else ring (ringSlot eventQueueDepth tail) :: liveFrom ring (tail + 1) head := by
  unfold liveFrom
  rw [Lib.Ring.contents_pop more, List.filter_cons]
  unfold UsbioEvent.live
  split <;> rename_i dead <;> simp at dead <;> simp [dead]

theorem liveFrom_length : (liveFrom ring tail head).length ≤ (head - tail).toNat := by
  have := List.length_filter_le UsbioEvent.live (Lib.Ring.contents eventQueueDepth ring tail head)
  rwa [Lib.Ring.contents_length] at this

/-- EVENT_POP takes the oldest queued events and leaves the others. -/
theorem popEvents_queue (counted : (head - tail).toNat = n) :
    (popEvents ring tail room n).2 = (liveFrom ring tail head).take room ∧
    liveFrom ring (popEvents ring tail room n).1 head = (liveFrom ring tail head).drop room := by
  induction n generalizing tail room with
  | zero =>
    obtain rfl : tail = head := by
      by_contra more
      have := Lib.Ring.count_pos more
      omega
    rw [popEvents, liveFrom_self]
    exact ⟨List.take_nil.symm, List.drop_nil.symm⟩
  | succ n ih =>
    have more : tail ≠ head := by
      rintro rfl
      simp at counted
    have counted' : (head - (tail + 1)).toNat = n := by
      have := Lib.Ring.count_tail more
      omega
    unfold popEvents
    cases room with
    | zero =>
      rw [if_pos rfl]
      exact ⟨List.take_zero.symm, List.drop_zero.symm⟩
    | succ room =>
      rw [if_neg (Nat.succ_ne_zero room), liveFrom_pop more]
      dsimp only
      split
      · exact ih counted'
      · obtain ⟨taken, left⟩ := @ih (tail + 1) room counted'
        exact ⟨congrArg _ taken, left⟩

theorem countFrom_queue (counted : (head - tail).toNat = n) :
    countFrom ring tail n = UInt8.ofNat (liveFrom ring tail head).length := by
  induction n generalizing tail with
  | zero =>
    obtain rfl : tail = head := by
      by_contra more
      have := Lib.Ring.count_pos more
      omega
    rw [countFrom, liveFrom_self]
    rfl
  | succ n ih =>
    have more : tail ≠ head := by
      rintro rfl
      simp at counted
    have counted' : (head - (tail + 1)).toNat = n := by
      have := Lib.Ring.count_tail more
      omega
    unfold countFrom
    rw [ih counted', liveFrom_pop more]
    split
    · exact UInt8.zero_add _
    · rw [List.length_cons, UInt8.ofNat_add, UInt8.add_comm]
      rfl

/-- A reply of EVENT_POP: the oldest events, as many as fit and were asked for, behind
the number of events dropped and of those left. -/
theorem EventState.pop_reply (e : EventState) (index : UInt16) :
    (e.pop index).2 =
      eventHeader (UInt8.ofNat (e.queued.take (popCap index)).length) e.dropped
        (UInt8.ofNat (e.queued.drop (popCap index)).length) ++
      (e.queued.take (popCap index)).flatMap UsbioEvent.bytes := by
  obtain ⟨taken, left⟩ := @popEvents_queue e.ring e.tail e.head _ (popCap index) rfl
  unfold EventState.pop EventState.countQueued
  dsimp only
  rw [countFrom_queue rfl, left, taken]
  rfl

theorem EventState.pop_queued (e : EventState) (index : UInt16) :
    (e.pop index).1.queued = e.queued.drop (popCap index) :=
  (popEvents_queue rfl).2

/-- discard_events_for_pin() slot by slot. -/
theorem discardFrom_slot (ring : Nat → UsbioEvent) (i : UInt8) (n slot : Nat) :
    discardFrom pin ring i n slot =
      if ∃ k < n, ringSlot eventQueueDepth (i + UInt8.ofNat k) = slot then
        (ring slot).discardedFor pin
      else ring slot := by
  induction n generalizing ring i with
  | zero =>
    rw [discardFrom, if_neg]
    rintro ⟨k, below, _⟩
    exact absurd below (Nat.not_lt_zero k)
  | succ n ih =>
    have first : (if (ring (ringSlot eventQueueDepth i)).pin = pin then
        Function.update ring (ringSlot eventQueueDepth i)
          { ring (ringSlot eventQueueDepth i) with pin := eventTombstone } else ring) =
        Function.update ring (ringSlot eventQueueDepth i)
          ((ring (ringSlot eventQueueDepth i)).discardedFor pin) := by
      unfold UsbioEvent.discardedFor
      split
      · rfl
      · exact (Function.update_eq_self ..).symm
    have next : ∀ k, i + 1 + UInt8.ofNat k = i + UInt8.ofNat (k + 1) := by
      intro k
      rw [UInt8.ofNat_add, UInt8.add_assoc, UInt8.add_comm 1]
      rfl
    unfold discardFrom
    dsimp only
    rw [first, ih]
    by_cases here : ringSlot eventQueueDepth i = slot
    · subst here
      have twice : ∀ ev : UsbioEvent, (ev.discardedFor pin).discardedFor pin = ev.discardedFor pin := by
        intro ev
        unfold UsbioEvent.discardedFor
        split <;> simp_all
      rw [Function.update_self, twice, ite_self, if_pos]
      exact ⟨0, Nat.succ_pos n, by simp⟩
    · rw [Function.update_of_ne (Ne.symm here)]
      congr 1
      apply propext
      constructor
      · rintro ⟨k, below, at_slot⟩
        exact ⟨k + 1, Nat.succ_lt_succ below, next k ▸ at_slot⟩
      · rintro ⟨k, below, at_slot⟩
        cases k with
        | zero => simp [here] at at_slot
        | succ k => exact ⟨k, Nat.lt_of_succ_lt_succ below, (next k).symm ▸ at_slot⟩

theorem UsbioEvent.live_discardedFor (ev : UsbioEvent) (pin : Nat) :
    (ev.discardedFor pin).live = (decide (ev.pin ≠ pin) && ev.live) := by
  unfold UsbioEvent.discardedFor UsbioEvent.live
  split
  · rename_i own
    simp [own]
  · rename_i other
    simp [other]

/-- discard_events_for_pin() takes the pin's events and no others. -/
theorem EventState.discard_queued (e : EventState) (pin : Nat) :
    (e.discard pin).queued = e.queued.filter (·.pin ≠ pin) := by
  have marked : Lib.Ring.contents eventQueueDepth (e.discard pin).ring e.tail e.head =
      (Lib.Ring.contents eventQueueDepth e.ring e.tail e.head).map (·.discardedFor pin) := by
    unfold Lib.Ring.contents
    rw [List.map_map]
    refine List.map_congr_left (fun k inside => ?_)
    have visited : ∃ j < (e.head - e.tail).toNat, ringSlot eventQueueDepth (e.tail + UInt8.ofNat j) =
        ringSlot eventQueueDepth (e.tail + UInt8.ofNat k) := ⟨k, List.mem_range.mp inside, rfl⟩
    exact (discardFrom_slot e.ring e.tail _ _).trans (if_pos visited)
  change (Lib.Ring.contents eventQueueDepth (e.discard pin).ring e.tail e.head).filter _ = _
  rw [marked]
  unfold EventState.queued liveFrom
  induction Lib.Ring.contents eventQueueDepth e.ring e.tail e.head with
  | nil => rfl
  | cons ev rest ih =>
    rw [List.map_cons, List.filter_cons, ev.live_discardedFor, ih, List.filter_cons]
    by_cases own : ev.pin = pin
    · rw [if_neg (by simp [own])]
      split
      · exact (List.filter_cons_of_neg (by simp [own])).symm
      · rfl
    · have kept : ev.discardedFor pin = ev := if_neg own
      cases dead : ev.live with
      | false => simp
      | true => simp [own, kept]

/-- A slot filled is queued once the head moves, and not before. -/
theorem EventState.fill_queued (room : (e.head - e.tail).toNat < eventQueueDepth) (ev : UsbioEvent) :
    (e.fill ev).queued = e.queued := by
  unfold EventState.queued liveFrom
  exact congrArg _ (Lib.Ring.contents_fill (by decide) room ev)

theorem EventState.publish_queued (room : (e.head - e.tail).toNat < eventQueueDepth)
    (filled : e.ring (ringSlot eventQueueDepth e.head) = ev) (live : ev.live = true) :
    EventState.queued { e with head := e.head + 1 } = e.queued ++ [ev] := by
  have same : Function.update e.ring (Lib.Ring.slot eventQueueDepth e.head) ev = e.ring := by
    rw [← filled]
    exact Function.update_eq_self ..
  have pushed : Lib.Ring.contents eventQueueDepth
      (Function.update e.ring (Lib.Ring.slot eventQueueDepth e.head) ev) e.tail (e.head + 1) =
      Lib.Ring.contents eventQueueDepth e.ring e.tail e.head ++ [ev] :=
    Lib.Ring.contents_push (by decide) (by decide) room ev
  rw [same] at pushed
  unfold EventState.queued liveFrom
  dsimp only
  rw [pushed, List.filter_append, List.filter_cons, live]
  rfl

/-- A request as the event fields see it. -/
inductive EventRequest where
  | pop (index : UInt16)
  /-- RESET. -/
  | clear
  | off (pin : Nat)
  /-- PIN_MODE with a mode that is not INPUT*. -/
  | leave (pin : Nat)
  | arm (pin : Nat) (edge : EdgeMode) (debounceMs : UInt8)
  deriving DecidableEq, Repr

/-- The pin a request arms. -/
def EventRequest.arms : EventRequest → Option Nat
  | .arm pin _ _ => some pin
  | _ => none

/-- What an ACKed or answered request asks of the event fields. -/
def Obs.eventRequest : Obs → Option EventRequest
  | .answered .eventPop index _ => some (.pop index)
  | .accepted .reset _ _ => some .clear
  | .accepted .eventConfig index value => (EdgeMode.ofCode? value.toUInt8).map fun edge =>
      if edge = .off then .off index.toNat else .arm index.toNat edge (value >>> 8).toUInt8
  | .accepted .pinMode index value => (PinMode.ofCode? value).bind fun mode =>
      if modeIsInput (some mode) then none else some (.leave index.toNat)
  | _ => none

/-- request_reset() on the event fields. -/
def EventState.clear (e : EventState) : EventState :=
  { e with
    watch := fun i => if i < maxEventPins then { e.watch i with active := false } else e.watch i
    nWatched := 0
    tail := e.head
    dropped := 0 }

def EventState.perform (e : EventState) : EventRequest → EventState
  | .pop index => (e.pop index).1
  | .clear => e.clear
  | .off pin => match e.watchIndex pin with
    | some i => (e.unwatch i).discard pin
    | none => e
  | .leave pin => match e.watchIndex pin with
    | some i => e.unwatch i
    | none => e
  | .arm pin edge debounceMs => match e.watchIndex pin with
    | some i => e.arm i pin edge debounceMs
    | none => { e.arm e.freeSlot pin edge debounceMs with nWatched := e.nWatched + 1 }

theorem perform_queued (e : EventState) (req : EventRequest) :
    (e.perform req).queued = match req with
      | .pop index => e.queued.drop (popCap index)
      | .clear => []
      | .off pin => if (e.watchIndex pin).isSome then e.queued.filter (·.pin ≠ pin) else e.queued
      | .leave _ | .arm .. => e.queued := by
  cases req with
  | pop index => exact e.pop_queued index
  | clear => exact liveFrom_self
  | off pin =>
    simp only [EventState.perform]
    cases e.watchIndex pin with
    | none => rfl
    | some i => exact (e.unwatch i).discard_queued pin
  | leave pin | arm pin edge debounceMs =>
    simp only [EventState.perform]
    cases e.watchIndex pin <;> rfl

variable {b : Board} {env : Env} {d d' : UsbIoDevice} {o : Obs} {m : Machine} {nPins : Nat}
  {w : EventWatch}

/-- A request changes the event fields as its observation says. -/
theorem Served.event (served : Served b env d d' o) :
    d'.event = o.eventRequest.elim d.event d.event.perform := by
  cases served with
  | read req index wLength reply said =>
    cases req with
    | eventPop =>
      have popped : replyBytes b env d Request.eventPop.code index wLength =
          ({ d with event := (d.event.pop index).1 }, some (d.event.pop index).2) := rfl
      rw [popped] at said
      exact (congrArg UsbIoDevice.event (congrArg Prod.fst said)).symm
    | _ => rfl
  | unchanged req index value settled silent =>
    rcases settled with rfl | rfl
    · rfl
    · obtain ⟨off, unwatched⟩ := silent rfl
      simp [Obs.eventRequest, off, EventState.perform, unwatched]
  | unwatched index value i found off =>
    simp [Obs.eventRequest, off, EventState.perform, found]
  | moded index value mode named =>
    simp only [Obs.eventRequest, named, Option.bind_some, recordMode]
    split
    · rfl
    · rfl
  | written req mode index value writes =>
    cases req <;> first | rfl | contradiction
  | rearmed index value i edge _ _ _ found named on =>
    simp [Obs.eventRequest, named, on, EventState.perform, found]
  | armed index value edge _ _ _ fresh _ named on =>
    simp [Obs.eventRequest, named, on, EventState.perform, fresh]
  | _ => rfl

/-- Only pins of the board are armed. -/
theorem Served.arms_known (served : Served b env d d' o) {req : EventRequest}
    (asked : o.eventRequest = some req) : ∀ pin ∈ req.arms, pin < d.nPins := by
  cases served with
  | rearmed index value i edge known _ _ _ named on =>
    simp only [Obs.eventRequest, named, Option.map_some, if_neg on, Option.some.injEq] at asked
    subst asked
    rintro pin ⟨⟩
    exact known
  | armed index value edge known _ _ _ _ named on =>
    simp only [Obs.eventRequest, named, Option.map_some, if_neg on, Option.some.injEq] at asked
    subst asked
    rintro pin ⟨⟩
    exact known
  | unwatched index value i found off =>
    simp only [Obs.eventRequest, off, Option.map_some, if_true, Option.some.injEq] at asked
    subst asked
    simp [EventRequest.arms]
  | unchanged req' index value settled silent =>
    rcases settled with rfl | rfl
    · contradiction
    · simp only [Obs.eventRequest, (silent rfl).1, Option.map_some, if_true, Option.some.injEq] at asked
      subst asked
      simp [EventRequest.arms]
  | moded index value mode named =>
    simp only [Obs.eventRequest, named, Option.bind_some] at asked
    split at asked
    · contradiction
    · obtain rfl := Option.some.inj asked
      simp [EventRequest.arms]
  | written req' mode index value writes =>
    cases req' <;> contradiction
  | read req' =>
    cases req' with
    | eventPop =>
      obtain rfl := Option.some.inj asked
      simp [EventRequest.arms]
    | _ => contradiction
  | popped | reset =>
    obtain rfl := Option.some.inj asked
    simp [EventRequest.arms]
  | _ => contradiction

/-- Watch slots and ring slots hold pins of the board, or the tombstone. -/
structure EventState.Known (nPins : Nat) (e : EventState) : Prop where
  watched : ∀ i, (e.watch i).pin < nPins
  reported : ∀ slot, (e.ring slot).pin < nPins ∨ (e.ring slot).pin = eventTombstone

/-- A queued event is not a tombstone. -/
theorem EventState.Known.queued (h : e.Known nPins) (inside : ev ∈ e.queued) : ev.pin < nPins := by
  obtain ⟨held, live⟩ := List.mem_filter.mp inside
  obtain ⟨k, _, rfl⟩ := List.mem_map.mp held
  rcases h.reported (Lib.Ring.slot eventQueueDepth (e.tail + UInt8.ofNat k)) with known | dead
  · exact known
  · simp [UsbioEvent.live, dead] at live

/-- So does what poll() has read. -/
def EventPc.Known (nPins : Nat) : EventPc → Prop
  | .readClock | .readActive .. | .readPin .. | .dropTest .. | .dropLoad .. | .dropStore .. => True
  | .seqTest _ _ pin | .takeSeq _ _ pin | .takeBaseline _ _ pin | .compareLevel _ _ pin
  | .changeTest _ _ pin _ | .directionTest _ _ pin _ | .debounceTest _ _ pin _
  | .bumpCount _ _ pin _ | .openWindow _ _ pin _ => pin < nPins
  | .roomTest _ _ ev | .fillSlot _ _ ev | .bumpHead _ _ ev => ev.pin < nPins

def Pc.Known (nPins : Nat) : Pc → Prop
  | .event pc => pc.Known nPins
  | _ => True

/-- What poll() knows of pins in every state. -/
structure Machine.Known (m : Machine) : Prop where
  state : m.dev.event.Known m.dev.nPins
  poll : m.pc.Known m.dev.nPins

theorem setWatch_setWatch (e : EventState) (i : Nat) (w w' : EventWatch) :
    (e.setWatch i w).setWatch i w' = e.setWatch i w' := by
  unfold EventState.setWatch
  simp only [Function.update_idem]

theorem setWatch_watch (e : EventState) (i : Nat) (w : EventWatch) : (e.setWatch i w).watch i = w :=
  Function.update_self ..

theorem EventState.Known.setWatch (h : e.Known nPins) (i : Nat) (known : w.pin < nPins) :
    (e.setWatch i w).Known nPins := by
  refine ⟨fun j => ?_, h.reported⟩
  unfold EventState.setWatch
  dsimp only
  by_cases same : j = i
  · rw [same, Function.update_self]
    exact known
  · rw [Function.update_of_ne same]
    exact h.watched j

theorem EventState.Known.fill (h : e.Known nPins) (known : ev.pin < nPins) :
    (e.fill ev).Known nPins := by
  refine ⟨h.watched, fun slot => ?_⟩
  unfold EventState.fill
  dsimp only
  by_cases same : slot = ringSlot eventQueueDepth e.head
  · rw [same, Function.update_self]
    exact .inl known
  · rw [Function.update_of_ne same]
    exact h.reported slot

theorem EventState.Known.discard (h : e.Known nPins) (pin : Nat) : (e.discard pin).Known nPins := by
  refine ⟨h.watched, fun slot => ?_⟩
  unfold EventState.discard
  dsimp only
  rw [discardFrom_slot]
  split
  · unfold UsbioEvent.discardedFor
    split
    · exact .inr rfl
    · exact h.reported slot
  · exact h.reported slot

theorem EventState.Known.perform (h : e.Known nPins) {req : EventRequest}
    (known : ∀ pin ∈ req.arms, pin < nPins) : (e.perform req).Known nPins := by
  cases req with
  | pop => exact ⟨h.watched, h.reported⟩
  | clear =>
    refine ⟨fun i => ?_, h.reported⟩
    simp only [EventState.perform, EventState.clear]
    split <;> exact h.watched i
  | off pin =>
    simp only [EventState.perform]
    split
    · rename_i i _
      have cleared := h.setWatch (w := { e.watch i with active := false }) i (h.watched i)
      have unwatched : (e.unwatch i).Known nPins := ⟨cleared.watched, h.reported⟩
      exact unwatched.discard pin
    · exact h
  | leave pin =>
    simp only [EventState.perform]
    split
    · rename_i i _
      have cleared := h.setWatch (w := { e.watch i with active := false }) i (h.watched i)
      exact ⟨cleared.watched, h.reported⟩
    · exact h
  | arm pin edge debounceMs =>
    have armed : ∀ i, (e.arm i pin edge debounceMs).Known nPins := by
      intro i
      have written := h.setWatch (w := { e.watch i with
        pin := pin, edgeMode := edge, debounceMs := debounceMs
        armSeq := e.armSeq + 1, active := true }) i (known pin rfl)
      exact ⟨written.watched, h.reported⟩
    simp only [EventState.perform]
    split
    · exact armed _
    · exact ⟨(armed _).watched, h.reported⟩

theorem Served.known (served : Served b env d d' o) (h : d.event.Known d.nPins) :
    d'.event.Known d'.nPins := by
  have same := served.identity.nPins
  rw [served.event, same]
  cases asked : o.eventRequest with
  | none => exact h
  | some req => exact h.perform (served.arms_known asked)

theorem eventStep_known (env : Env) {pc : EventPc} (h : d.event.Known d.nPins)
    (poll : pc.Known d.nPins) :
    (eventStep env d pc).1.Known d.nPins ∧
      ∀ next ∈ (eventStep env d pc).2.1, next.Known d.nPins := by
  cases pc with
  | readClock =>
    refine ⟨h, ?_⟩
    simp only [eventStep]
    split <;> rintro next ⟨⟩
    trivial
  | readActive now i =>
    simp only [eventStep]
    split
    · refine ⟨h, ?_⟩
      split <;> rintro next ⟨⟩ <;> trivial
    · exact ⟨h, by simp⟩
  | readPin now i =>
    refine ⟨h, ?_⟩
    rintro next ⟨⟩
    exact h.watched i
  | takeSeq now i pin | bumpCount now i pin rising =>
    refine ⟨h.setWatch i (h.watched i), ?_⟩
    rintro next ⟨⟩
    exact poll
  | takeBaseline now i pin =>
    refine ⟨h.setWatch i (h.watched i), ?_⟩
    rintro next ⟨⟩
    trivial
  | compareLevel now i pin =>
    simp only [eventStep]
    split
    · refine ⟨h, ?_⟩
      rintro next ⟨⟩
      trivial
    · refine ⟨h.setWatch i (h.watched i), ?_⟩
      rintro next ⟨⟩
      exact poll
  | openWindow now i pin rising =>
    refine ⟨h.setWatch i (h.watched i), ?_⟩
    rintro next ⟨⟩
    exact poll
  | seqTest | changeTest =>
    refine ⟨h, ?_⟩
    simp only [eventStep]
    split <;> rintro next ⟨⟩ <;> exact poll
  | directionTest | debounceTest =>
    refine ⟨h, ?_⟩
    simp only [eventStep]
    split <;> rintro next ⟨⟩
    all_goals first | exact poll | trivial
  | dropTest =>
    refine ⟨h, ?_⟩
    simp only [eventStep]
    split <;> rintro next ⟨⟩ <;> trivial
  | roomTest now i ev =>
    simp only [eventStep]
    split
    · refine ⟨h, ?_⟩
      rintro next ⟨⟩
      trivial
    · refine ⟨h, ?_⟩
      rintro next ⟨⟩
      exact poll
  | dropLoad now i =>
    refine ⟨h, ?_⟩
    rintro next ⟨⟩
    trivial
  | dropStore now i dropped =>
    refine ⟨⟨h.watched, h.reported⟩, ?_⟩
    rintro next ⟨⟩
    trivial
  | fillSlot now i ev =>
    refine ⟨h.fill poll, ?_⟩
    rintro next ⟨⟩
    exact poll
  | bumpHead now i ev =>
    refine ⟨⟨h.watched, h.reported⟩, ?_⟩
    rintro next ⟨⟩
    trivial

/-- Steps of poll() outside event_poll() leave the event fields alone. -/
theorem loopStep_event_frame (b : Board) (env : Env) (m : Machine) (other : ∀ pc, m.pc ≠ .event pc) :
    (loopStep b env m).dev.event = m.dev.event := by
  obtain ⟨d, pc, log⟩ := m
  cases pc with
  | idle | stream pc => rfl
  | drain pc =>
    cases pc with
    | epochTest c | outerTest =>
      simp only [loopStep, drainStep]
      split <;> rfl
    | execute c =>
      obtain ⟨dio, ain, eq⟩ := execute_frame b env d c
      simp only [loopStep, drainStep, eq]
    | _ => rfl
  | shadow pc =>
    cases pc with
    | enter => rfl
    | pin | analog =>
      simp only [loopStep, shadowStep]
      split
      · split <;> rfl
      · rfl
  | event pc => exact absurd rfl (other pc)

theorem loopStep_known (h : m.Known) : (loopStep b env m).Known := by
  obtain ⟨d, pc, log⟩ := m
  have same : (loopStep b env ⟨d, pc, log⟩).dev.nPins = d.nPins :=
    (step_identity b ⟨d, pc, log⟩ (.loop env)).nPins
  by_cases inside : ∃ at_pc, pc = .event at_pc
  · obtain ⟨at_pc, rfl⟩ := inside
    obtain ⟨state, poll⟩ := eventStep_known env h.state h.poll
    refine ⟨state, ?_⟩
    simp only [loopStep]
    cases next : (eventStep env d at_pc).2.1 with
    | none =>
      simp only [Option.map_none, Option.getD_none, afterEvent]
      cases b.hasStreamTransport <;> trivial
    | some next_pc => exact poll next_pc (by rw [next]; rfl)
  · have frame := loopStep_event_frame b env ⟨d, pc, log⟩ (fun at_pc eq => inside ⟨at_pc, eq⟩)
    refine ⟨?_, ?_⟩
    · rw [frame, same]
      exact h.state
    · rw [same]
      cases pc with
      | idle => trivial
      | drain pc =>
        simp only [loopStep]
        cases (drainStep b env d pc).2.1 <;> trivial
      | shadow pc =>
        simp only [loopStep]
        cases (shadowStep env d pc).2 <;> trivial
      | event pc => exact absurd ⟨pc, rfl⟩ inside
      | stream pc =>
        simp only [loopStep]
        cases (streamStep b env d pc).2.1 <;> trivial

theorem step_known (h : m.Known) (act : Act) : (step b m act).Known := by
  have same := (step_identity b m act).nPins
  cases act with
  | setup env s =>
    refine ⟨(handleSetup_served b env m.dev s).known h.state, ?_⟩
    rw [same]
    exact h.poll
  | disconnect => exact ⟨h.state, h.poll⟩
  | loop env => exact loopStep_known h

theorem boot_known (b : Board) : (boot b).Known := by
  obtain ⟨caps, nAin, eq, _⟩ := boot_dev b
  refine ⟨?_, trivial⟩
  rw [eq]
  exact ⟨fun _ => b.pinCount_pos, fun _ => .inl b.pinCount_pos⟩

theorem reach_known {guard : Machine → Act → Prop}
    (reached : Lib.Reach (step b) guard (boot b) m) : m.Known :=
  reached.invariant (boot_known b) (fun _ act h _ => step_known h act)

end ArduinoDriver
