import ArduinoDriver.Testing.Twins

namespace ArduinoDriver

variable {d : UsbIoDevice} {e e' : EventState} {f f' : FakeTransport} {pads dio : Nat → Bool} {now : UInt32}
  {b : Board} {twins : List (Nat × FakeWatch)} {i j pin : Nat} {v : FakeWatch} {edge : EdgeMode} {debounceMs : UInt8}

theorem eventPoll_rests (rests : ∀ i < maxEventPins, d.event.Rests d.dio i) : eventPoll d now = d.event := by
  unfold eventPoll
  split
  · rfl
  · exact foldl_rests _ (fun i inside => rests i (List.mem_range.mp inside))

/-- A scan in which one slot has something to do. -/
theorem eventPoll_one (pins : d.nPins ≠ 0) (inside : i < maxEventPins)
    (others : ∀ j < maxEventPins, j ≠ i → d.event.Rests d.dio j) :
    eventPoll d now = scanWatch d.dio now d.event i := by
  obtain ⟨before_, after, parts⟩ := List.append_of_mem (List.mem_range.mpr inside)
  have distinct := @List.nodup_range maxEventPins
  rw [parts] at distinct
  obtain ⟨_, tail, apart⟩ := List.nodup_append.mp distinct
  have member : ∀ j, j ∈ before_ ++ i :: after → j < maxEventPins := by
    intro j listed
    rw [← parts] at listed
    exact List.mem_range.mp listed
  have first : before_.foldl (scanWatch d.dio now) d.event = d.event := by
    refine foldl_rests _ (fun j listed => others j (member j (List.mem_append_left _ listed)) ?_)
    exact apart j listed i List.mem_cons_self
  unfold eventPoll
  rw [if_neg pins, parts, List.foldl_append, List.foldl_cons, first]
  refine foldl_rests _ (fun j listed => ?_)
  have other : j ≠ i := by
    rintro rfl
    exact (List.nodup_cons.mp tail).1 listed
  unfold EventState.Rests
  rw [scanWatch_elsewhere other]
  exact others j (member j (List.mem_append_right _ (List.mem_cons_of_mem _ listed))) other

/-- The slots that the fake's watches stand for rest as long as their levels stay. -/
theorem SameEvents.rests (h : SameEvents e f pads twins) (inside : i < maxEventPins)
    (same : (e.watch i).active = true → dio (e.watch i).pin = pads (e.watch i).pin) : e.Rests dio i := by
  intro on
  obtain ⟨x, member, rfl⟩ := List.mem_map.mp ((h.slots i).mpr ⟨inside, on⟩)
  have twin := h.alike x member
  exact ⟨twin.seen, (same on).trans twin.level.symm⟩

theorem refreshed_input (known : pin < d.nPins) (input : modeIsInput (d.mode pin) = true) :
    d.refreshed pads d.nPins pin = pads pin := if_pos ⟨known, input⟩

/-- poll() finds nothing when the pads are as they were. -/
theorem SameEvents.polled (h : SameEvents d.event f pads twins)
    (table : WatchTable d.nPins d.caps d.mode d.event.watch d.event.nWatched) :
    eventPoll { d with dio := d.refreshed pads d.nPins } now = d.event := by
  refine eventPoll_rests (fun i inside => h.rests inside (fun on => ?_))
  exact refreshed_input (table.known i inside on) (table.input i inside on)

/-- What an arm leaves out: the other slots, last armed not long before. -/
structure SameEvents.Others (e : EventState) (pads : Nat → Bool) (i : Nat)
    (rest : List (Nat × FakeWatch)) : Prop where
  slots : ∀ j, j ∈ rest.map Prod.fst ↔ j < maxEventPins ∧ j ≠ i ∧ (e.watch j).active = true
  order : rest.Pairwise fun x y => e.armedAfter y.1 x.1 = true
  alike : ∀ x ∈ rest, (e.watch x.1).Twin pads x.2
  recent : ∀ x ∈ rest, e.recent x.1 = true

/-- The armed slot, once it has been scanned, comes last. -/
theorem SameEvents.Others.armed {rest : List (Nat × FakeWatch)} (h : SameEvents.Others e pads i rest)
    (inside : i < maxEventPins) (elsewhere : ∀ j, j ≠ i → e'.watch j = e.watch j)
    (stamp : (e'.watch i).armSeq = e.armSeq + 1) (on : (e'.watch i).active = true)
    (twin : (e'.watch i).Twin pads v) (queue : f'.eventQueue = e'.queued)
    (dropped : f'.eventDropped = e'.dropped) (watches : f'.eventWatch = rest.map Prod.snd ++ [v]) :
    SameEvents e' f' pads (rest ++ [(i, v)]) := by
  have apart : ∀ x ∈ rest, x.1 ≠ i := fun x member =>
    ((h.slots x.1).mp (List.mem_map_of_mem member)).2.1
  refine ⟨queue, dropped, ?_, fun j => ?_, ?_, fun x member => ?_⟩
  · rw [watches, List.map_append]
    rfl
  · rw [List.map_append, List.mem_append, h.slots]
    by_cases here : j = i
    · subst here
      exact iff_of_true (.inr List.mem_cons_self) ⟨inside, on⟩
    · rw [elsewhere j here]
      simp [here]
  · refine List.pairwise_append.mpr ⟨?_, List.pairwise_singleton .., fun x left y right => ?_⟩
    · refine h.order.imp_of_mem (fun x_in y_in later => ?_)
      unfold EventState.armedAfter
      rw [elsewhere _ (apart _ x_in), elsewhere _ (apart _ y_in)]
      exact later
    · obtain rfl := List.mem_singleton.mp right
      unfold EventState.armedAfter
      rw [stamp, elsewhere _ (apart x left)]
      exact h.recent x left
  · rcases List.mem_append.mp member with left | right
    · rw [elsewhere _ (apart x left)]
      exact h.alike x left
    · obtain rfl := List.mem_singleton.mp right
      exact twin

/-- Its watch comes last in both orders. -/
theorem SameEvents.others (h : SameEvents e f pads twins) {nPins : Nat} {caps : Nat → UInt8}
    {mode : Nat → Option PinMode} (table : WatchTable nPins caps mode e.watch e.nWatched)
    (room : e.watchIndex pin = none → e.nWatched.toNat < maxEventPins) (clearly : e.armsClearly pin = true) :
    ∃ rest, SameEvents.Others e pads (e.armSlot pin) rest ∧
      (f.armWatch pin edge debounceMs).eventWatch = rest.map Prod.snd ++ [⟨pin, edge, debounceMs, 0, none⟩] := by
  obtain ⟨_, told⟩ := Bool.and_eq_true_iff.mp clearly
  have tells : ∀ j < maxEventPins, j ≠ e.armSlot pin → (e.watch j).active = true →
      e.recent j = true ∧ (e.watchIndex pin ≠ none → e.armedAfter (e.armSlot pin) j = true) := by
    intro j inside other on
    have both := List.all_eq_true.mp told j (List.mem_range.mpr inside)
    simp only [Bool.or_eq_true, Bool.and_eq_true, Bool.not_eq_true', beq_iff_eq, other, on,
      Bool.true_eq_false, false_or, Option.isNone_iff_eq_none] at both
    exact ⟨both.1, fun watched => both.2.resolve_left watched⟩
  cases index : e.watchIndex pin with
  | none =>
    have slot : e.armSlot pin = e.freeSlot := by
      unfold EventState.armSlot
      rw [index]
      rfl
    obtain ⟨_, _, free⟩ := table.freeSlot (room index)
    rw [slot] at tells ⊢
    refine ⟨twins, ⟨fun j => ?_, h.order, h.alike, fun x member => ?_⟩, ?_⟩
    · rw [h.slots j]
      refine and_congr_right (fun _ => (and_iff_right_of_imp (fun on => ?_)).symm)
      rintro rfl
      exact absurd (free.symm.trans on) Bool.false_ne_true
    · obtain ⟨inside, on⟩ := h.active member
      refine (tells x.1 inside ?_ on).1
      intro same
      rw [same] at on
      exact absurd (free.symm.trans on) Bool.false_ne_true
    · unfold FakeTransport.armWatch
      rw [h.findWatch_missing (h.missing index), ← h.watches]
      rfl
  | some i =>
    have slot : e.armSlot pin = i := by
      unfold EventState.armSlot
      rw [index]
      rfl
    obtain ⟨v, before_, after, rfl, at_pin, others⟩ := h.found table index
    rw [slot, index] at tells
    rw [slot]
    obtain ⟨first, last, _⟩ := List.pairwise_append.mp h.order
    -- nothing was armed after a watch that is armed again
    have none_ : after = [] := by
      refine List.eq_nil_iff_forall_not_mem.mpr (fun x member => ?_)
      have listed : x ∈ before_ ++ (i, v) :: after :=
        List.mem_append_right _ (List.mem_cons_of_mem _ member)
      obtain ⟨inside, on⟩ := h.active listed
      have later := (tells x.1 inside (others x (List.mem_append_right _ member)).1 on).2 (by simp)
      exact armedAfter_asymm later ((List.pairwise_cons.mp last).1 x member)
    subst none_
    have apart := fun x member => (others x member).2
    rw [List.append_nil] at others
    refine ⟨before_, ⟨fun j => ?_, first, fun x member => h.alike x (List.mem_append_left _ member),
      fun x member => ?_⟩, ?_⟩
    · have listed := h.slots j
      rw [List.map_append, List.mem_append] at listed
      constructor
      · intro member
        obtain ⟨inside, on⟩ := listed.mp (.inl member)
        obtain ⟨x, x_in, rfl⟩ := List.mem_map.mp member
        exact ⟨inside, (others x x_in).1, on⟩
      · rintro ⟨inside, other, on⟩
        refine (listed.mpr ⟨inside, on⟩).resolve_right (fun same => ?_)
        exact other (List.mem_singleton.mp same)
    · obtain ⟨inside, on⟩ := h.active (List.mem_append_left _ member)
      exact (tells x.1 inside (others x member).1 on).1
    · obtain ⟨found, updated, _⟩ := h.findWatch_found at_pin apart
        (fun w => { w with edge := edge, debounceMs := debounceMs, count := 0, lastAcceptMs := none })
      unfold FakeTransport.armWatch
      rw [found, if_pos Option.isSome_some, updated, at_pin]
      rfl

theorem armWatch_queue (f : FakeTransport) :
    (f.armWatch pin edge debounceMs).eventQueue = f.eventQueue ∧
      (f.armWatch pin edge debounceMs).eventDropped = f.eventDropped := by
  unfold FakeTransport.armWatch
  split <;> exact ⟨rfl, rfl⟩

/-- EVENT_CONFIG of a pin to watch, and the scan after it. -/
theorem SameEvents.arm (h : SameEvents d.event f pads twins) (pins : d.nPins ≠ 0)
    (table : WatchTable d.nPins d.caps d.mode d.event.watch d.event.nWatched) (known : pin < d.nPins)
    (input : modeIsInput (d.mode pin) = true)
    (room : d.event.watchIndex pin = none → d.event.nWatched.toNat < maxEventPins)
    (clearly : d.event.armsClearly pin = true) :
    ∃ twins', SameEvents (eventPoll { d with
      event := d.event.perform (.arm pin edge debounceMs)
      dio := d.refreshed pads d.nPins } now) (f.armWatch pin edge debounceMs) pads twins' := by
  obtain ⟨rest, others, watches⟩ := @others d.event f pads twins pin edge debounceMs h _ _ _ table room clearly
  obtain ⟨watch, serial, head, ring⟩ := perform_arm d.event pin edge debounceMs
  have placed : d.event.watchIndex pin ≠ none ∨ d.event.nWatched.toNat < maxEventPins := by
    by_cases index : d.event.watchIndex pin = none
    · exact .inr (room index)
    · exact .inl index
  have inside := (table.arms placed).inside
  have fresh : (d.event.watch (d.event.armSlot pin)).seenSeq ≠ d.event.armSeq + 1 :=
    bne_iff_ne.mp (Bool.and_eq_true_iff.mp clearly).1
  generalize slot : d.event.armSlot pin = i at others watch inside fresh
  generalize performed : d.event.perform (.arm pin edge debounceMs) = e at watch serial head ring
  have tail : e.tail = d.event.tail ∧ e.dropped = d.event.dropped := by
    rw [← performed]
    simp only [EventState.perform]
    cases d.event.watchIndex pin <;> exact ⟨rfl, rfl⟩
  have elsewhere : ∀ j, j ≠ i → e.watch j = d.event.watch j := by
    intro j other
    rw [watch, Function.update_of_ne other]
  have here : e.watch i = { d.event.watch i with
      pin := pin, edgeMode := edge, debounceMs := debounceMs, armSeq := d.event.armSeq + 1
      active := true } := by
    rw [watch, Function.update_self]
  have scanned : eventPoll { d with event := e, dio := d.refreshed pads d.nPins } now =
      e.setWatch i ((e.watch i).baseline (pads pin) now) := by
    rw [@eventPoll_one { d with event := e, dio := d.refreshed pads d.nPins } now i pins inside]
    · have unseen : (e.watch i).seenSeq ≠ (e.watch i).armSeq := by
        rw [here]
        exact fresh
      have on : ¬ (!(e.watch i).active) = true := by
        rw [here]
        exact Bool.false_ne_true
      have level : d.refreshed pads d.nPins (e.watch i).pin = pads pin := by
        rw [here]
        exact refreshed_input known input
      unfold scanWatch
      dsimp only
      rw [if_neg on, if_pos unseen, level]
    · intro j below other
      change EventState.Rests e _ j
      unfold EventState.Rests
      rw [elsewhere j other]
      exact h.rests below (fun on => refreshed_input (table.known j below on) (table.input j below on))
  rw [scanned]
  have queue : (e.setWatch i ((e.watch i).baseline (pads pin) now)).queued = d.event.queued := by
    unfold EventState.queued
    change liveFrom e.ring e.tail e.head = _
    rw [ring, tail.1, head]
  have armed : (e.setWatch i ((e.watch i).baseline (pads pin) now)).watch i =
      (e.watch i).baseline (pads pin) now := Function.update_self ..
  have keeps : ∀ j, j ≠ i → (e.setWatch i ((e.watch i).baseline (pads pin) now)).watch j =
      d.event.watch j := fun j other => (Function.update_of_ne other ..).trans (elsewhere j other)
  refine ⟨_, others.armed inside keeps ?_ ?_ ?_ ?_ ?_ watches⟩
  · rw [armed, here]
    rfl
  · rw [armed, here]
    rfl
  · rw [armed, here]
    refine ⟨rfl, rfl, rfl, rfl, rfl, rfl, fun last none_ => ?_⟩
    cases none_
  · rw [queue, (armWatch_queue f).1]
    exact h.queue
  · exact (armWatch_queue f).2.trans (h.dropped.trans tail.2.symm)

/-- push_event() on the queued events. -/
theorem EventState.push_queued (ev : UsbioEvent) (live : ev.live = true) :
    (e.push ev).queued = if e.full then e.queued else e.queued ++ [ev] := by
  unfold EventState.push
  by_cases full : e.full = true
  · rw [if_pos full, if_pos full]
    rfl
  · rw [if_neg full, if_neg full]
    have room : (e.head - e.tail).toNat < eventQueueDepth := by
      rw [EventState.full, decide_eq_true_eq] at full
      exact Nat.not_le.mp full
    have filled : (e.fill ev).ring (ringSlot eventQueueDepth (e.fill ev).head) = ev :=
      Function.update_self ..
    rw [← e.fill_queued room ev]
    exact (e.fill ev).publish_queued room filled live

/-- The debounce window of a slot and of the fake's watch. -/
theorem before_ignores {w : EventWatch} {t : Bench} (twin : w.Twin pads v)
    (slot : t.machine.dev.event.watch i = w) (near : t.inReach i v = true) :
    before t.millis w.debounceUntil = v.ignores t.millis := by
  unfold Bench.inReach at near
  unfold FakeWatch.ignores
  rw [Bool.eq_iff_iff, before_iff]
  cases accepted : v.lastAcceptMs with
  | none =>
    simp only [accepted, slot, decide_eq_true_eq] at near
    refine iff_of_false ?_ Bool.false_ne_true
    omega
  | some last =>
    simp only [accepted, decide_eq_true_eq] at near
    have debounce : v.debounceMs.toUInt32.toNat = v.debounceMs.toNat := rfl
    have short := v.debounceMs.toNat_lt
    rw [twin.window last accepted, ← twin.debounce]
    dsimp only
    rw [Bool.and_eq_true, bne_iff_ne, decide_eq_true_eq, UInt32.lt_iff_toNat_lt, ne_eq, ← UInt8.toNat_inj]
    rw [UInt32.toNat_sub] at near
    simp only [UInt32.toNat_sub, UInt32.toNat_add, debounce, UInt8.toNat_zero]
    have := t.millis.toNat_lt
    have := last.toNat_lt
    omega

/-- Pads that no watch is about may change. -/
theorem SameEvents.repad {pads' : Nat → Bool} (h : SameEvents e f pads twins)
    (same : ∀ x ∈ twins, pads' (e.watch x.1).pin = pads (e.watch x.1).pin) : SameEvents e f pads' twins := by
  refine ⟨h.queue, h.dropped, h.watches, h.slots, h.order, fun x member => ?_⟩
  have twin := h.alike x member
  exact ⟨twin.pin, twin.edge, twin.debounce, twin.count, twin.seen, twin.level.trans (same x member).symm,
    twin.window⟩

/-- One slot and its watch change, neither their pin nor their place. -/
theorem SameEvents.replace {pads' : Nat → Bool} {v' : FakeWatch} {after : List (Nat × FakeWatch)}
    (h : SameEvents e f pads (twins ++ (i, v) :: after)) (apart : ∀ x ∈ twins ++ after, x.1 ≠ i)
    (elsewhere : ∀ j, j ≠ i → e'.watch j = e.watch j) (stamp : (e'.watch i).armSeq = (e.watch i).armSeq)
    (on : (e'.watch i).active = (e.watch i).active) (twin : (e'.watch i).Twin pads' v')
    (same : ∀ x ∈ twins ++ after, pads' (e.watch x.1).pin = pads (e.watch x.1).pin)
    (queue : f'.eventQueue = e'.queued) (dropped : f'.eventDropped = e'.dropped)
    (watches : f'.eventWatch = twins.map Prod.snd ++ v' :: after.map Prod.snd) :
    SameEvents e' f' pads' (twins ++ (i, v') :: after) := by
  have stamps : ∀ j, (e'.watch j).armSeq = (e.watch j).armSeq ∧ (e'.watch j).active = (e.watch j).active := by
    intro j
    by_cases here : j = i
    · subst here
      exact ⟨stamp, on⟩
    · rw [elsewhere j here]
      exact ⟨rfl, rfl⟩
  have slots : (twins ++ (i, v') :: after).map Prod.fst = (twins ++ (i, v) :: after).map Prod.fst := by
    rw [List.map_append, List.map_append]
    rfl
  refine ⟨queue, dropped, ?_, fun j => ?_, ?_, fun x member => ?_⟩
  · rw [watches, List.map_append]
    rfl
  · rw [slots, (stamps j).2]
    exact h.slots j
  · have order := (@List.pairwise_map _ _ Prod.fst (fun i j => e.armedAfter j i = true) _).mpr h.order
    rw [← slots] at order
    refine (List.pairwise_map.mp order).imp (fun later => ?_)
    unfold EventState.armedAfter
    rw [(stamps _).1, (stamps _).1]
    exact later
  · have other : x ∈ twins ++ after → (e'.watch x.1).Twin pads' x.2 := by
      intro listed
      have old := h.alike x (by
        rcases List.mem_append.mp listed with left | right
        · exact List.mem_append_left _ left
        · exact List.mem_append_right _ (List.mem_cons_of_mem _ right))
      rw [elsewhere _ (apart x listed)]
      exact ⟨old.pin, old.edge, old.debounce, old.count, old.seen, old.level.trans (same x listed).symm,
        old.window⟩
    rcases List.mem_append.mp member with left | right
    · exact other (List.mem_append_left _ left)
    · rcases List.mem_cons.mp right with rfl | right
      · exact twin
      · exact other (List.mem_append_right _ right)

/-- handle_edge_locked() of a pin with the watch `v`. -/
theorem handleEdge_found {level : Bool} (watched : f.findWatch pin = some v) :
    f.handleEdge pin level =
      if (!edgeMatches v.edge level || v.ignores f.millis) = true then f
      else
        let f' := f.updateWatch pin (fun w =>
          { w with lastAcceptMs := some f.millis, count := w.count + 1 })
        if eventQueueDepth ≤ f.eventQueue.length then
          { f' with eventDropped :=
              if f.eventDropped < 255 then f.eventDropped + 1 else f.eventDropped }
        else
          { f' with eventQueue := f.eventQueue ++ [⟨pin, edgeOf level, v.count + 1, f.millis⟩] } := by
  have wanted : v.edge ≠ .change ∧ v.edge ≠ edgeOf level ↔ ¬ edgeMatches v.edge level = true := by
    rw [edgeMatches_iff, not_or]
  unfold FakeTransport.handleEdge
  rw [watched]
  dsimp only
  by_cases fits : edgeMatches v.edge level = true
  · rw [if_neg (fun other => wanted.mp other fits), fits, Bool.not_true, Bool.false_or]
    rfl
  · rw [if_pos (wanted.mpr fits), if_pos (by rw [Bool.eq_false_iff.mpr fits]; rfl)]

/-- A level change, and the scan after it. -/
theorem SameEvents.level {t : Bench} {high : Bool}
    (h : SameEvents t.machine.dev.event t.fake t.fed twins) (ok : Invariant b t.machine.dev)
    (known : pin < t.machine.dev.nPins) (levels : t.fake.dio pin = t.fed pin)
    (clock : t.fake.millis = t.millis) (tells : t.edgeTells pin high = true) :
    ∃ twins', SameEvents (eventPoll { t.machine.dev with
        dio := t.machine.dev.refreshed (Function.update t.fed pin high) t.machine.dev.nPins } t.millis)
      (t.fake.setDigital pin high) (Function.update t.fed pin high) twins' := by
  have table := ok.watches
  obtain ⟨⟨d, pc, log⟩, f, pads, fed, now⟩ := t
  dsimp only at *
  subst clock
  have reads : ∀ j < maxEventPins, (d.event.watch j).active = true →
      d.refreshed (Function.update fed pin high) d.nPins (d.event.watch j).pin =
        Function.update fed pin high (d.event.watch j).pin := fun j inside on =>
    refreshed_input (table.known j inside on) (table.input j inside on)
  have elsewhere : ∀ q, q ≠ pin → Function.update fed pin high q = fed q := fun q other =>
    Function.update_of_ne other ..
  -- the level of the pin stays, or nobody watches it
  have unmoved : (∀ x ∈ twins, Function.update fed pin high (d.event.watch x.1).pin =
      fed (d.event.watch x.1).pin) → f.handleEdge pin high = f ∨ f.dio pin = high →
      ∃ twins', SameEvents (eventPoll { d with
        dio := d.refreshed (Function.update fed pin high) d.nPins } f.millis)
        (f.setDigital pin high) (Function.update fed pin high) twins' := by
    intro same still
    have repadded := h.repad same
    have kept : f.setDigital pin high = { f with dio := Function.update f.dio pin high } := by
      unfold FakeTransport.setDigital
      rcases still with still | still
      · rw [still, ite_self]
      · rw [if_neg (not_not.mpr still)]
    rw [kept, repadded.polled table]
    exact ⟨twins, repadded.queue, repadded.dropped, repadded.watches, repadded.slots, repadded.order,
      repadded.alike⟩
  by_cases same : fed pin = high
  · refine unmoved (fun x _ => ?_) (.inr (levels.trans same))
    rw [← same, Function.update_eq_self]
  cases index : d.event.watchIndex pin with
  | none =>
    refine unmoved (fun x member => elsewhere _ (fun own => ?_)) (.inl ?_)
    · exact h.missing index x member ((h.alike x member).pin.trans own)
    · unfold FakeTransport.handleEdge
      rw [h.findWatch_missing (h.missing index)]
  | some i =>
    obtain ⟨inside, on, at_pin⟩ := EventState.watchIndex_eq_some index
    obtain ⟨v, before_, after, rfl, own, others⟩ := h.found table index
    have twin := h.alike (i, v) (List.mem_append_right _ List.mem_cons_self)
    have watches : f.eventWatch = before_.map Prod.snd ++ v :: after.map Prod.snd := by
      rw [h.watches, List.map_append]
      rfl
    obtain ⟨watched, updated, _⟩ := h.findWatch_found own (fun x member => (others x member).2)
      (fun w => { w with lastAcceptMs := some f.millis, count := w.count + 1 })
    have apart : ∀ x ∈ before_ ++ after, x.1 ≠ i := fun x member => (others x member).1
    have repads : ∀ x ∈ before_ ++ after, Function.update fed pin high (d.event.watch x.1).pin =
        fed (d.event.watch x.1).pin := by
      intro x member
      refine elsewhere _ (fun same' => (others x member).2 ?_)
      refine (h.alike x ?_).pin.trans same'
      rcases List.mem_append.mp member with left | right
      · exact List.mem_append_left _ left
      · exact List.mem_append_right _ (List.mem_cons_of_mem _ right)
    have pins : d.nPins ≠ 0 := Nat.ne_of_gt (Nat.zero_lt_of_lt known)
    have scanned : eventPoll { d with dio := d.refreshed (Function.update fed pin high) d.nPins } f.millis =
        scanWatch (d.refreshed (Function.update fed pin high) d.nPins) f.millis d.event i := by
      refine eventPoll_one pins inside (fun j below other => h.rests below (fun onj => ?_))
      refine (reads j below onj).trans (elsewhere _ (fun same' => other ?_))
      exact table.distinct j below i inside onj on (same'.trans at_pin.symm)
    have level : d.refreshed (Function.update fed pin high) d.nPins (d.event.watch i).pin = high := by
      rw [reads i inside on, at_pin, Function.update_self]
    have changed : high ≠ (d.event.watch i).prevLevel := by
      rw [twin.level, at_pin]
      exact Ne.symm same
    have moved : f.dio pin ≠ high := by
      rw [levels]
      exact same
    unfold Bench.edgeTells at tells
    dsimp only at tells
    rw [index, watched] at tells
    simp only [beq_eq_false_iff_ne.mpr same, Bool.false_or, Bool.or_eq_true, Bool.not_eq_true',
      Bool.and_eq_true] at tells
    have decision : (!edgeMatches (d.event.watch i).edgeMode high ||
        before f.millis (d.event.watch i).debounceUntil) =
        (!edgeMatches v.edge high || v.ignores f.millis) := by
      rw [← twin.edge]
      rcases tells with none_ | ⟨near, _⟩
      · rw [none_]
        rfl
      · exact congrArg _ (@before_ignores fed i v _ ⟨⟨d, pc, log⟩, f, pads, fed, f.millis⟩ twin rfl near)
    rw [scanned]
    unfold FakeTransport.setDigital
    rw [if_pos moved, handleEdge_found watched, ← decision]
    by_cases absorbed : (!edgeMatches (d.event.watch i).edgeMode high ||
        before f.millis (d.event.watch i).debounceUntil) = true
    · have quiet : scanWatch (d.refreshed (Function.update fed pin high) d.nPins) f.millis d.event i =
          d.event.setWatch i { d.event.watch i with prevLevel := high } := by
        unfold scanWatch
        simp only [level, on, Bool.not_true, Bool.false_eq_true, if_false, twin.seen, ne_eq,
          not_true_eq_false, changed, absorbed, if_true]
      have armed : (d.event.setWatch i { d.event.watch i with prevLevel := high }).watch i =
          { d.event.watch i with prevLevel := high } := Function.update_self ..
      rw [if_pos absorbed, quiet]
      refine ⟨_, h.replace apart (fun j other => Function.update_of_ne other ..) ?_ ?_ ?_ repads
        h.queue h.dropped watches⟩
      · rw [armed]
      · rw [armed]
      · rw [armed]
        refine ⟨twin.pin, twin.edge, twin.debounce, twin.count, twin.seen, ?_, twin.window⟩
        dsimp only
        rw [at_pin, Function.update_self]
    · obtain ⟨fits, due⟩ : edgeMatches (d.event.watch i).edgeMode high = true ∧
          before f.millis (d.event.watch i).debounceUntil = false := by
        simpa using absorbed
      have roomy : d.event.full = true → d.event.hasTombstone = false := by
        intro full
        rcases tells with none_ | ⟨_, late | whole⟩
        · rw [twin.edge, fits] at none_
          contradiction
        · rw [due] at late
          contradiction
        · rw [full, Bool.true_and] at whole
          exact whole
      have fullness : eventQueueDepth ≤ f.eventQueue.length ↔ d.event.full = true := by
        have counted := EventState.queued_full ok.events
        have below : d.event.queued.length ≤ (d.event.head - d.event.tail).toNat := liveFrom_length
        rw [h.queue]
        constructor
        · intro most
          exact (counted.mp (Nat.le_antisymm (below.trans ok.events) most)).1
        · intro full
          exact (counted.mpr ⟨full, roomy full⟩).ge
      let w : EventWatch := { d.event.watch i with
        prevLevel := high
        count := (d.event.watch i).count + 1
        debounceUntil := f.millis + (d.event.watch i).debounceMs.toUInt32 }
      let ev : UsbioEvent := ⟨pin, edgeOf high, (d.event.watch i).count + 1, f.millis⟩
      have accepts : scanWatch (d.refreshed (Function.update fed pin high) d.nPins) f.millis d.event i =
          (d.event.setWatch i w).push ev := by
        have pushed := @scanWatch_edge d.event f.millis
          (d.refreshed (Function.update fed pin high) d.nPins) i on twin.seen (by rw [level]; exact changed)
          (by rw [level]; exact Bool.eq_false_iff.mpr absorbed)
        rw [level, at_pin] at pushed
        exact pushed
      have live : ev.live = true := by
        have few : b.pinCount ≤ 128 := b.pinCount_le
        have inPins : pin < b.pinCount := ok.pins ▸ known
        refine decide_eq_true (fun dead => ?_)
        change pin = 255 at dead
        omega
      have armed : ((d.event.setWatch i w).push ev).watch i = w := by
        rw [push_watch]
        exact Function.update_self ..
      have queued : ((d.event.setWatch i w).push ev).queued =
          if d.event.full then d.event.queued else d.event.queued ++ [ev] :=
        EventState.push_queued ev live
      have dropped : ((d.event.setWatch i w).push ev).dropped =
          if d.event.full then (if d.event.dropped < 0xFF then d.event.dropped + 1 else d.event.dropped)
          else d.event.dropped := by
        unfold EventState.push
        change (if d.event.full = true then _ else _ : EventState).dropped = _
        split <;> rfl
      have result : ∀ f' : FakeTransport, f'.eventQueue = ((d.event.setWatch i w).push ev).queued →
          f'.eventDropped = ((d.event.setWatch i w).push ev).dropped →
          f'.eventWatch = (f.updateWatch pin (fun w =>
            { w with lastAcceptMs := some f.millis, count := w.count + 1 })).eventWatch →
          ∃ twins', SameEvents ((d.event.setWatch i w).push ev) f' (Function.update fed pin high) twins' := by
        intro f' queue drops kept
        refine ⟨_, h.replace apart (fun j other => ?_) ?_ ?_ ?_ repads queue drops (kept.trans updated)⟩
        · rw [push_watch]
          exact Function.update_of_ne other ..
        · rw [armed]
        · rw [armed]
        · rw [armed]
          refine ⟨twin.pin, twin.edge, twin.debounce, congrArg (· + 1) twin.count, twin.seen, ?_, ?_⟩
          · change high = Function.update fed pin high (d.event.watch i).pin
            rw [at_pin, Function.update_self]
          · intro last accepted
            obtain rfl := Option.some.inj accepted
            rfl
      rw [if_neg absorbed, accepts]
      refine result _ ?_ ?_ ?_
      · rw [queued]
        change (ite _ _ _ : FakeTransport).eventQueue = _
        by_cases full : d.event.full = true
        · rw [if_pos (fullness.mpr full), if_pos full]
          exact h.queue
        · rw [if_neg (fun most => full (fullness.mp most)), if_neg full, ← h.queue, twin.count]
      · rw [dropped]
        change (ite _ _ _ : FakeTransport).eventDropped = _
        by_cases full : d.event.full = true
        · rw [if_pos (fullness.mpr full), if_pos full, ← h.dropped]
        · rw [if_neg (fun most => full (fullness.mp most)), if_neg full]
          exact h.dropped
      · change (ite _ _ _ : FakeTransport).eventWatch = _
        split <;> rfl

end ArduinoDriver
