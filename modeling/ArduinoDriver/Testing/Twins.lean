import ArduinoDriver.Firmware.ArmOrder
import ArduinoDriver.Firmware.Debounce
import ArduinoDriver.Firmware.Toggling
import ArduinoDriver.Testing.Polling

namespace ArduinoDriver

/-- A watch of the fake beside the slot it stands for, once event_poll() has scanned that. -/
structure EventWatch.Twin (pads : Nat → Bool) (w : EventWatch) (v : FakeWatch) : Prop where
  pin : v.pin = w.pin
  edge : v.edge = w.edgeMode
  debounce : v.debounceMs = w.debounceMs
  count : v.count = w.count
  seen : w.seenSeq = w.armSeq
  level : w.prevLevel = pads w.pin
  window : ∀ last, v.lastAcceptMs = some last → w.debounceUntil = last + w.debounceMs.toUInt32

/-- The event fields of the firmware and of the fake: `twins` has the slots in arm order. -/
structure SameEvents (e : EventState) (f : FakeTransport) (pads : Nat → Bool)
    (twins : List (Nat × FakeWatch)) : Prop where
  queue : f.eventQueue = e.queued
  dropped : f.eventDropped = e.dropped
  watches : f.eventWatch = twins.map Prod.snd
  slots : ∀ i, i ∈ twins.map Prod.fst ↔ i < maxEventPins ∧ (e.watch i).active = true
  order : twins.Pairwise fun x y => e.armedAfter y.1 x.1 = true
  alike : ∀ x ∈ twins, (e.watch x.1).Twin pads x.2

variable {e : EventState} {f : FakeTransport} {pads : Nat → Bool} {twins : List (Nat × FakeWatch)}
  {i j pin : Nat} {v : FakeWatch} {nPins : Nat} {caps : Nat → UInt8} {mode : Nat → Option PinMode}

theorem armedAfter_asymm (later : e.armedAfter i j = true) : ¬ e.armedAfter j i = true := by
  rw [armedAfter_toNat] at later ⊢
  rw [UInt8.toNat_sub] at later ⊢
  have := (e.watch i).armSeq.toNat_lt
  have := (e.watch j).armSeq.toNat_lt
  omega

/-- A list in which every slot was armed after those before it is EVENT_COUNTS' order. -/
theorem armOrder_of_pairwise {slots : List Nat}
    (active : ∀ i, i ∈ slots ↔ i < maxEventPins ∧ (e.watch i).active = true)
    (order : slots.Pairwise fun i j => e.armedAfter j i = true) : e.armOrder = slots := by
  have nodup : slots.Nodup := by
    refine order.imp ?_
    rintro i j later rfl
    exact armedAfter_asymm later later
  have listed : ∀ i, i ∈ ((List.range maxEventPins).filter fun i => (e.watch i).active) ↔ i ∈ slots := by
    intro i
    rw [List.mem_filter, List.mem_range, active]
  -- the position in the list stands for the time of the arm
  have earlier : ∀ i ∈ slots, ∀ j ∈ slots, slots.idxOf i < slots.idxOf j → e.armedAfter j i = true := by
    intro i hi j hj before_
    have at_i := List.idxOf_lt_length_of_mem hi
    have at_j := List.idxOf_lt_length_of_mem hj
    have apart := List.pairwise_iff_getElem.mp order _ _ at_i at_j before_
    rwa [List.getElem_idxOf, List.getElem_idxOf] at apart
  have sorted : e.armOrder.Pairwise fun i j => slots.idxOf i < slots.idxOf j := by
    rw [armOrder_eq, List.pairwise_reverse]
    have apart : ((List.range maxEventPins).filter fun i => (e.watch i).active).reverse.Pairwise
        fun i j => slots.idxOf j ≠ slots.idxOf i := by
      refine List.Pairwise.imp_of_mem ?_ (List.nodup_reverse.mpr (List.nodup_range.filter _))
      intro i j hi hj other same
      have member := (listed j).mp (List.mem_reverse.mp hj)
      exact other ((List.idxOf_inj member).mp same).symm
    refine (Lib.insertionSort_newest_iff apart).mpr (fun i others suffix => ?_)
    have inside : ∀ j ∈ i :: others, j ∈ slots := fun j member =>
      (listed j).mp (List.mem_reverse.mp (suffix.subset member))
    have at_i := inside i List.mem_cons_self
    refine ⟨fun j member later => not_not.mpr ?_, fun j member before_ _ => armedAfter_asymm ?_⟩
    · exact earlier i at_i j (inside j (List.mem_cons_of_mem _ member)) later
    · exact earlier j (inside j (List.mem_cons_of_mem _ member)) i at_i before_
  have perm : e.armOrder.Perm slots := (armOrder_perm e).trans
    ((List.perm_ext_iff_of_nodup (List.nodup_range.filter _) nodup).mpr listed)
  have positions : slots.Pairwise fun i j => slots.idxOf i < slots.idxOf j := by
    refine List.pairwise_iff_getElem.mpr (fun m n at_m at_n before_ => ?_)
    rwa [nodup.idxOf_getElem, nodup.idxOf_getElem]
  exact perm.eq_of_pairwise (fun i j _ _ lt gt => absurd (lt.trans gt) (lt_irrefl _)) sorted positions

namespace SameEvents

theorem active (h : SameEvents e f pads twins) (inside : (i, v) ∈ twins) :
    i < maxEventPins ∧ (e.watch i).active = true :=
  (h.slots i).mp (List.mem_map_of_mem (f := Prod.fst) inside)

/-- The replies to EVENT_COUNTS. -/
theorem countsBytes (h : SameEvents e f pads twins) : f.eventCounts = e.countsBytes := by
  have order : e.armOrder = twins.map Prod.fst :=
    armOrder_of_pairwise h.slots (List.pairwise_map.mpr h.order)
  have entries : twins.flatMap (fun x => FakeTransport.watchBytes x.2) =
      twins.flatMap (fun x => (e.watch x.1).countBytes) := by
    refine List.flatMap_congr (fun x inside => ?_)
    have twin := h.alike x inside
    rw [FakeTransport.watchBytes, EventWatch.countBytes, twin.pin, twin.edge, twin.count]
  unfold FakeTransport.eventCounts EventState.countsBytes
  dsimp only
  rw [order, h.watches, List.length_map, List.length_map, List.flatMap_map, List.flatMap_map]
  exact congrArg _ entries

/-- The slot of a watched pin. -/
theorem found (h : SameEvents e f pads twins) (table : WatchTable nPins caps mode e.watch e.nWatched)
    (index : e.watchIndex pin = some i) :
    ∃ v before_ after, twins = before_ ++ (i, v) :: after ∧ v.pin = pin ∧
      ∀ x ∈ before_ ++ after, x.1 ≠ i ∧ x.2.pin ≠ pin := by
  obtain ⟨inside, on, at_pin⟩ := EventState.watchIndex_eq_some index
  obtain ⟨⟨j, v⟩, member, same⟩ := List.mem_map.mp ((h.slots i).mpr ⟨inside, on⟩)
  obtain rfl : j = i := same
  obtain ⟨before_, after, rfl⟩ := List.append_of_mem member
  refine ⟨v, before_, after, rfl, (h.alike _ member).pin.trans at_pin, fun x other => ?_⟩
  have listed : x ∈ before_ ++ (j, v) :: after := by
    rcases List.mem_append.mp other with left | right
    · exact List.mem_append_left _ left
    · exact List.mem_append_right _ (List.mem_cons_of_mem _ right)
  obtain ⟨_, first, rest⟩ := List.pairwise_append.mp h.order
  have apart : x.1 ≠ j := by
    intro same
    rcases List.mem_append.mp other with left | right
    · have later := rest x left (j, v) List.mem_cons_self
      rw [same] at later
      exact armedAfter_asymm later later
    · have later := (List.pairwise_cons.mp first).1 x right
      rw [same] at later
      exact armedAfter_asymm later later
  refine ⟨apart, fun own => apart ?_⟩
  obtain ⟨below, onx⟩ := h.active listed
  exact table.distinct x.1 below j inside onx on (((h.alike x listed).pin.symm.trans own).trans at_pin.symm)

/-- A pin that no slot watches has no watch. -/
theorem missing (h : SameEvents e f pads twins) (index : e.watchIndex pin = none) :
    ∀ x ∈ twins, x.2.pin ≠ pin := by
  intro x listed own
  obtain ⟨inside, on⟩ := h.active listed
  exact EventState.watchIndex_eq_none.mp index x.1 inside on ((h.alike x listed).pin.symm.trans own)

end SameEvents

variable {before_ after : List FakeWatch} {g : FakeWatch → FakeWatch}

/-- Where find_if() finds the only watch of a pin. -/
theorem findWatch_split (watches : f.eventWatch = before_ ++ v :: after) (at_pin : v.pin = pin)
    (others : ∀ u ∈ before_, u.pin ≠ pin) :
    f.findWatch pin = some v ∧ (f.updateWatch pin g).eventWatch = before_ ++ g v :: after ∧
      f.eventWatch.eraseP (fun w => w.pin == pin) = before_ ++ after := by
  have passes : ∀ u ∈ before_, ¬ (u.pin == pin) = true := fun u inside =>
    fun same => others u inside (beq_iff_eq.mp same)
  have stops : (v.pin == pin) = true := beq_iff_eq.mpr at_pin
  have index : (before_ ++ v :: after).findIdx (fun w => w.pin == pin) = before_.length := by
    rw [List.findIdx_append, if_neg, List.findIdx_cons, stops]
    · exact Nat.zero_add _
    · intro short
      obtain ⟨u, inside, same⟩ := List.findIdx_lt_length.mp short
      exact passes u inside same
  have at_length : ∀ l : List FakeWatch, (l ++ v :: after).modify l.length g = l ++ g v :: after := by
    intro l
    induction l with
    | nil => rfl
    | cons u l ih => exact congrArg (u :: ·) ih
  refine ⟨?_, ?_, ?_⟩
  · unfold FakeTransport.findWatch
    rw [watches, List.find?_append, List.find?_eq_none.mpr passes, Option.none_or,
      List.find?_cons, stops]
  · change f.eventWatch.modify _ g = _
    rw [watches, index]
    exact at_length before_
  · rw [watches, List.eraseP_append_right _ passes, List.eraseP_cons, stops]
    rfl

theorem findWatch_none (others : ∀ u ∈ f.eventWatch, u.pin ≠ pin) : f.findWatch pin = none :=
  List.find?_eq_none.mpr (fun u inside same => others u inside (beq_iff_eq.mp same))

namespace SameEvents

variable {pairs : List (Nat × FakeWatch)} {e' : EventState} {f' : FakeTransport}

/-- EVENT_POP. -/
theorem pop (h : SameEvents e f pads twins) (few : e.queued.length ≤ eventQueueDepth) (index : UInt16) :
    (f.eventPop index).2 = (e.pop index).2 ∧ SameEvents (e.pop index).1 (f.eventPop index).1 pads twins := by
  have requested : (if index = 0 then maxEventsPerPop else min index.toNat maxEventsPerPop) =
      popCap index := by
    unfold popCap
    by_cases all : index = 0
    · rw [if_pos all, if_pos (.inl all)]
    · rw [if_neg all]
      by_cases many : maxEventsPerPop < index.toNat
      · rw [if_pos (.inr many), Nat.min_eq_right many.le]
      · rw [if_neg (not_or.mpr ⟨all, many⟩), Nat.min_eq_left (Nat.not_lt.mp many)]
  have taken : e.queued.take (min (popCap index) e.queued.length) = e.queued.take (popCap index) := by
    rw [← List.take_take, List.take_length]
  have left : e.queued.drop (min (popCap index) e.queued.length) = e.queued.drop (popCap index) := by
    rcases Nat.le_total (popCap index) e.queued.length with part | whole
    · rw [Nat.min_eq_left part]
    · rw [Nat.min_eq_right whole, List.drop_length, List.drop_eq_nil_of_le whole]
  have bounded : min (e.queued.drop (popCap index)).length 255 = (e.queued.drop (popCap index)).length := by
    rw [List.length_drop]
    change e.queued.length ≤ 32 at few
    omega
  constructor
  · rw [e.pop_reply]
    unfold FakeTransport.eventPop
    dsimp only
    rw [requested, h.queue, h.dropped, taken, left, bounded, List.length_take]
  · refine ⟨?_, rfl, h.watches, h.slots, h.order, h.alike⟩
    rw [e.pop_queued, ← left, ← h.queue, ← requested]
    rfl

/-- The watches but one. -/
theorem without (h : SameEvents e f pads (twins ++ (i, v) :: pairs))
    (apart : ∀ x ∈ twins ++ pairs, x.1 ≠ i)
    (watch : e'.watch = Function.update e.watch i { e.watch i with active := false })
    (queue : f'.eventQueue = e'.queued) (dropped : f'.eventDropped = e'.dropped)
    (watches : f'.eventWatch = (twins ++ pairs).map Prod.snd) : SameEvents e' f' pads (twins ++ pairs) := by
  have elsewhere : ∀ j, j ≠ i → e'.watch j = e.watch j := by
    intro j other
    rw [watch, Function.update_of_ne other]
  have stamps : ∀ j, (e'.watch j).armSeq = (e.watch j).armSeq := by
    intro j
    by_cases here : j = i
    · subst here
      rw [watch, Function.update_self]
    · rw [elsewhere j here]
  have fewer : (twins ++ pairs).Sublist (twins ++ (i, v) :: pairs) :=
    List.Sublist.append_left (List.sublist_cons_self ..) twins
  refine ⟨queue, dropped, watches, fun j => ?_, ?_, fun x inside => ?_⟩
  · by_cases here : j = i
    · subst here
      rw [watch, Function.update_self]
      refine iff_of_false (fun inside => ?_) (fun both => absurd both.2 Bool.false_ne_true)
      obtain ⟨x, member, same⟩ := List.mem_map.mp inside
      exact apart x member same
    · rw [elsewhere j here, ← h.slots j]
      simp [here]
  · refine (h.order.sublist fewer).imp (fun later => ?_)
    simpa only [EventState.armedAfter, stamps] using later
  · rw [elsewhere x.1 (apart x inside)]
    exact h.alike x (fewer.subset inside)

/-- find_if() on the watch of the pin. -/
theorem findWatch_found (h : SameEvents e f pads (twins ++ (i, v) :: pairs)) (at_pin : v.pin = pin)
    (others : ∀ x ∈ twins ++ pairs, x.2.pin ≠ pin) (g : FakeWatch → FakeWatch) :
    f.findWatch pin = some v ∧
      (f.updateWatch pin g).eventWatch = twins.map Prod.snd ++ g v :: pairs.map Prod.snd ∧
      f.eventWatch.eraseP (fun w => w.pin == pin) = twins.map Prod.snd ++ pairs.map Prod.snd := by
  refine findWatch_split ?_ at_pin (fun u inside => ?_)
  · rw [h.watches, List.map_append, List.map_cons]
  · obtain ⟨x, member, rfl⟩ := List.mem_map.mp inside
    exact others x (List.mem_append_left _ member)

theorem findWatch_missing (h : SameEvents e f pads twins) (others : ∀ x ∈ twins, x.2.pin ≠ pin) :
    f.findWatch pin = none := by
  refine findWatch_none (fun u inside => ?_)
  rw [h.watches] at inside
  obtain ⟨x, member, rfl⟩ := List.mem_map.mp inside
  exact others x member

/-- unwatch_event_locked(), its queue purge apart. -/
theorem unwatchEvent_found (h : SameEvents e f pads (twins ++ (i, v) :: pairs)) (at_pin : v.pin = pin)
    (others : ∀ x ∈ twins ++ pairs, x.2.pin ≠ pin) (purgeQueue : Bool) :
    f.unwatchEvent pin purgeQueue = { f with
      eventWatch := (twins ++ pairs).map Prod.snd
      eventQueue := if purgeQueue then f.eventQueue.filter (fun ev => ev.pin != pin) else f.eventQueue } := by
  obtain ⟨found, _, erased⟩ := h.findWatch_found at_pin others id
  unfold FakeTransport.unwatchEvent
  rw [found, erased, List.map_append]
  rfl

theorem unwatchEvent_missing (h : SameEvents e f pads twins) (others : ∀ x ∈ twins, x.2.pin ≠ pin)
    (purgeQueue : Bool) : f.unwatchEvent pin purgeQueue = f := by
  unfold FakeTransport.unwatchEvent
  rw [h.findWatch_missing others]
  rfl

/-- A PIN_MODE that leaves INPUT*. -/
theorem leave (h : SameEvents e f pads twins) (table : WatchTable nPins caps mode e.watch e.nWatched) :
    ∃ left, SameEvents (e.perform (.leave pin)) (f.unwatchEvent pin false) pads left := by
  cases index : e.watchIndex pin with
  | none =>
    refine ⟨twins, ?_⟩
    rw [h.unwatchEvent_missing (h.missing index)]
    simp only [EventState.perform, index]
    exact h
  | some i =>
    obtain ⟨v, before_, after, rfl, at_pin, others⟩ := h.found table index
    refine ⟨before_ ++ after, ?_⟩
    rw [h.unwatchEvent_found at_pin (fun x inside => (others x inside).2)]
    simp only [EventState.perform, index]
    exact h.without (fun x inside => (others x inside).1) rfl h.queue h.dropped rfl

/-- EVENT_CONFIG with OFF. -/
theorem off (h : SameEvents e f pads twins) (table : WatchTable nPins caps mode e.watch e.nWatched) :
    ∃ left, SameEvents (e.perform (.off pin)) (f.unwatchEvent pin true) pads left := by
  cases index : e.watchIndex pin with
  | none =>
    refine ⟨twins, ?_⟩
    rw [h.unwatchEvent_missing (h.missing index)]
    simp only [EventState.perform, index]
    exact h
  | some i =>
    obtain ⟨v, before_, after, rfl, at_pin, others⟩ := h.found table index
    refine ⟨before_ ++ after, ?_⟩
    rw [h.unwatchEvent_found at_pin (fun x inside => (others x inside).2)]
    have performed : e.perform (.off pin) = (e.unwatch i).discard pin := by
      simp only [EventState.perform, index]
    refine h.without (fun x inside => (others x inside).1) (by rw [performed]; rfl) ?_
      (by rw [performed]; exact h.dropped) rfl
    rw [performed]
    refine Eq.trans ?_ ((e.unwatch i).discard_queued pin).symm
    change f.eventQueue.filter (fun ev => ev.pin != pin) = e.queued.filter (·.pin ≠ pin)
    rw [h.queue]
    refine List.filter_congr (fun ev _ => ?_)
    rw [Bool.eq_iff_iff, bne_iff_ne, decide_eq_true_iff]

theorem clear : SameEvents e.clear f.reset pads [] := by
  refine ⟨liveFrom_self.symm, rfl, rfl, fun i => ?_, List.Pairwise.nil, fun x inside => ?_⟩
  · refine iff_of_false (fun inside => absurd inside List.not_mem_nil) ?_
    rintro ⟨below, on⟩
    simp [EventState.clear, below] at on
  · exact absurd inside List.not_mem_nil

end SameEvents

end ArduinoDriver
