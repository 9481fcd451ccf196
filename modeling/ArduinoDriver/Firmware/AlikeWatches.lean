import ArduinoDriver.Firmware.ArmOrder
import ArduinoDriver.Firmware.FreshArms
import ArduinoDriver.Firmware.TwoRuns

namespace ArduinoDriver

/-- How far the scan of a slot has come. -/
inductive ScanStage where
  /-- The fields of its watch are still to be read. -/
  | reading
  /-- The arm is noted, and the level not taken yet. -/
  | rebasing
  /-- The level is compared, and the debounce window is looked at or opened. -/
  | comparing
  deriving DecidableEq, Repr

/-- The slot that is being scanned, up to the call of push_event(). -/
def EventPc.scan : EventPc → Option (Nat × ScanStage)
  | .readPin _ i | .seqTest _ i _ | .takeSeq _ i _ => some (i, .reading)
  | .takeBaseline _ i _ => some (i, .rebasing)
  | .compareLevel _ i _ | .changeTest _ i _ _ | .directionTest _ i _ _ | .debounceTest _ i _ _
  | .bumpCount _ i _ _ | .openWindow _ i _ _ => some (i, .comparing)
  | _ => none

/-- The slot is being scanned. -/
def Scans (scan : Option (Nat × ScanStage)) (i : Nat) : Prop := ∃ stage, scan = some (i, stage)

/-- The position less that inside push_event(), which returns to the loop over the slots. -/
def EventPc.settled : EventPc → EventPc
  | .roomTest now i _ | .dropTest now i | .dropLoad now i | .dropStore now i _ | .fillSlot now i _
  | .bumpHead now i _ => .readActive now (i + 1)
  | pc => pc

/-- The stamps are `δ` apart, and seen or unseen both. -/
structure EventWatch.Alike (δ : UInt8) (w w' : EventWatch) : Prop where
  pin : w'.pin = w.pin
  edgeMode : w'.edgeMode = w.edgeMode
  debounceMs : w'.debounceMs = w.debounceMs
  stamp : w'.armSeq = w.armSeq + δ
  seen : w'.seenSeq = w'.armSeq ↔ w.seenSeq = w.armSeq

structure EventWatch.Level (w w' : EventWatch) : Prop where
  prevLevel : w'.prevLevel = w.prevLevel
  debounceUntil : w'.debounceUntil = w.debounceUntil

/-- Two watch tables that a host cannot tell apart from now on. A slot that is neither watched nor
being scanned may hold anything but another count: an arm leaves that where it is. -/
structure WatchesAlike (δ : UInt8) (scan : Option (Nat × ScanStage)) (e e' : EventState) : Prop where
  serial : e'.armSeq = e.armSeq + δ
  nWatched : e'.nWatched = e.nWatched
  active : ∀ i < maxEventPins, (e'.watch i).active = (e.watch i).active
  count : ∀ i < maxEventPins, (e'.watch i).count = (e.watch i).count
  scanned : ∀ i stage, scan = some (i, stage) → i < maxEventPins
  slots : ∀ i < maxEventPins, (e.watch i).active = true ∨ Scans scan i →
    (e.watch i).Alike δ (e'.watch i)
  levels : ∀ i < maxEventPins, (e.watch i).active = true ∨ Scans scan i →
    (e.watch i).seenSeq = (e.watch i).armSeq → scan ≠ some (i, .rebasing) →
    (e.watch i).Level (e'.watch i)
  compared : ∀ i < maxEventPins, scan = some (i, .comparing) → (e.watch i).Level (e'.watch i)

variable {b : Board} {env : Env} {d : UsbIoDevice} {e e' f f' : EventState} {st : StreamState} {l : Status}
  {δ : UInt8} {scan : Option (Nat × ScanStage)} {i pin : Nat} {w w' : EventWatch} {stage : ScanStage}
  {req : EventRequest}

theorem WatchesAlike.congr (h : WatchesAlike δ scan e e') (watch : f.watch = e.watch)
    (serial : f.armSeq = e.armSeq) (many : f.nWatched = e.nWatched) (watch' : f'.watch = e'.watch)
    (serial' : f'.armSeq = e'.armSeq) (many' : f'.nWatched = e'.nWatched) :
    WatchesAlike δ scan f f' := by
  constructor
  · rw [serial, serial']
    exact h.serial
  · rw [many, many']
    exact h.nWatched
  · rw [watch, watch']
    exact h.active
  · rw [watch, watch']
    exact h.count
  · exact h.scanned
  · rw [watch, watch']
    exact h.slots
  · rw [watch, watch']
    exact h.levels
  · rw [watch, watch']
    exact h.compared

/-- The scan leaves a slot whose level it has taken, or was in none. -/
theorem WatchesAlike.leave (h : WatchesAlike δ scan e e') (taken : ∀ i, scan ≠ some (i, .rebasing)) :
    WatchesAlike δ none e e' := by
  have only : ∀ i, (e.watch i).active = true ∨ Scans none i →
      (e.watch i).active = true := by
    intro i here
    rcases here with on | ⟨stage, inside⟩
    · exact on
    · contradiction
  refine ⟨h.serial, h.nWatched, h.active, h.count, ?_, ?_, ?_, ?_⟩
  · intro i stage inside
    contradiction
  · intro i inside here
    exact h.slots i inside (.inl (only i here))
  · intro i inside here seen _
    exact h.levels i inside (.inl (only i here)) seen (taken i)
  · intro i inside comparing
    contradiction

/-- The scan enters a slot that is watched. -/
theorem WatchesAlike.enter (h : WatchesAlike δ none e e') (inside : i < maxEventPins)
    (on : (e.watch i).active = true) : WatchesAlike δ (some (i, .reading)) e e' := by
  have only : ∀ j, (e.watch j).active = true ∨ Scans (some (i, .reading)) j →
      (e.watch j).active = true := by
    intro j here
    rcases here with active | ⟨stage, same⟩
    · exact active
    · cases same
      exact on
  refine ⟨h.serial, h.nWatched, h.active, h.count, ?_, ?_, ?_, ?_⟩
  · intro j stage same
    cases same
    exact inside
  · intro j below here
    exact h.slots j below (.inl (only j here))
  · intro j below here seen _
    exact h.levels j below (.inl (only j here)) seen (by simp)
  · intro j below comparing
    cases comparing

/-- A slot whose arm has been seen comes to be compared. -/
theorem WatchesAlike.compare (h : WatchesAlike δ (some (i, .reading)) e e')
    (seen : (e.watch i).seenSeq = (e.watch i).armSeq) : WatchesAlike δ (some (i, .comparing)) e e' := by
  have same : ∀ j, Scans (some (i, .comparing)) j → Scans (some (i, .reading)) j := by
    rintro j ⟨stage, same⟩
    cases same
    exact ⟨_, rfl⟩
  refine ⟨h.serial, h.nWatched, h.active, h.count, ?_, ?_, ?_, ?_⟩
  · intro j stage same
    cases same
    exact h.scanned i _ rfl
  · intro j below here
    exact h.slots j below (here.imp_right (same j))
  · intro j below here seen _
    exact h.levels j below (here.imp_right (same j)) seen (by simp)
  · intro j below comparing
    cases comparing
    exact h.levels i below (.inr ⟨_, rfl⟩) seen (by simp)

/-- The scan writes the slot it is at. -/
theorem WatchesAlike.write (h : WatchesAlike δ (some (i, stage)) e e') (next : Option (Nat × ScanStage))
    (stays : ∀ j stage, next = some (j, stage) → j = i)
    (active : w.active = (e.watch i).active) (active' : w'.active = (e'.watch i).active)
    (count : w'.count = w.count) (alike : w.Alike δ w')
    (left : next ≠ some (i, .rebasing) → w.seenSeq = w.armSeq → w.Level w')
    (compared : next = some (i, .comparing) → w.Level w') :
    WatchesAlike δ next (e.setWatch i w) (e'.setWatch i w') := by
  have inside : i < maxEventPins := h.scanned i stage rfl
  have elsewhere : ∀ j, j ≠ i → Scans next j → Scans (some (i, stage)) j := by
    rintro j other ⟨stage, here⟩
    exact absurd (stays j stage here) other
  refine ⟨h.serial, h.nWatched, ?_, ?_, ?_, ?_, ?_, ?_⟩
  · intro j below
    by_cases here : j = i
    · subst here
      rw [setWatch_watch, setWatch_watch, active, active']
      exact h.active j below
    · rw [setWatch_other here, setWatch_other here]
      exact h.active j below
  · intro j below
    by_cases here : j = i
    · subst here
      rw [setWatch_watch, setWatch_watch]
      exact count
    · rw [setWatch_other here, setWatch_other here]
      exact h.count j below
  · intro j stage here
    rw [stays j stage here]
    exact inside
  · intro j below on
    by_cases here : j = i
    · subst here
      rw [setWatch_watch, setWatch_watch]
      exact alike
    · rw [setWatch_other here] at on ⊢
      rw [setWatch_other here]
      exact h.slots j below (on.imp_right (elsewhere j here))
  · intro j below on seen rebasing
    by_cases here : j = i
    · subst here
      rw [setWatch_watch] at seen ⊢
      rw [setWatch_watch]
      exact left rebasing seen
    · rw [setWatch_other here] at on seen ⊢
      rw [setWatch_other here]
      refine h.levels j below (on.imp_right (elsewhere j here)) seen ?_
      intro same
      cases same
      exact here rfl
  · intro j below comparing
    obtain rfl := stays j _ comparing
    rw [setWatch_watch, setWatch_watch]
    exact compared comparing

/-- push_event() writes no watch. -/
theorem eventStep_pushing {pc : EventPc} (pushing : pc.settled ≠ pc) :
    (eventStep env d pc).1.watch = d.event.watch ∧ (eventStep env d pc).1.armSeq = d.event.armSeq ∧
      (eventStep env d pc).1.nWatched = d.event.nWatched ∧ pc.scan = none ∧
      ∃ next, (eventStep env d pc).2.1 = some next ∧ next.settled = pc.settled ∧ next.scan = none := by
  cases pc with
  | roomTest now i ev =>
    unfold eventStep
    dsimp only
    split <;> exact ⟨rfl, rfl, rfl, rfl, _, rfl, rfl, rfl⟩
  | dropTest now i =>
    unfold eventStep
    dsimp only
    split <;> exact ⟨rfl, rfl, rfl, rfl, _, rfl, rfl, rfl⟩
  | dropLoad | dropStore | fillSlot | bumpHead => exact ⟨rfl, rfl, rfl, rfl, _, rfl, rfl, rfl⟩
  | _ => exact absurd rfl pushing

theorem settled_scan {pc pc' : EventPc} (same : pc'.settled = pc.settled) : pc'.scan = pc.scan := by
  have own : ∀ pc : EventPc, pc.settled.scan = pc.scan := by
    intro pc
    cases pc <;> rfl
  rw [← own, ← own pc, same]

/-- A step of event_poll() at the same point. -/
theorem eventStep_alike {pc : EventPc} (h : WatchesAlike δ pc.scan d.event e) :
    let r := eventStep env d pc
    let r' := eventStep env (d.reseat e st l) pc
    WatchesAlike δ (r.2.1.bind EventPc.scan) r.1 r'.1 ∧
      r'.2.1.map EventPc.settled = r.2.1.map EventPc.settled := by
  intro r r'
  by_cases pushing : pc.settled ≠ pc
  · obtain ⟨watch, serial, many, outside, next, leads, settled, scan⟩ :=
      @eventStep_pushing env d pc pushing
    obtain ⟨watch', serial', many', _, next', leads', settled', _⟩ :=
      @eventStep_pushing env (d.reseat e st l) pc pushing
    rw [outside] at h
    constructor
    · change WatchesAlike δ ((eventStep env d pc).2.1.bind EventPc.scan) _ _
      rw [leads, Option.bind_some, scan]
      exact h.congr watch serial many watch' serial' many'
    · change (eventStep env (d.reseat e st l) pc).2.1.map _ = (eventStep env d pc).2.1.map _
      rw [leads, leads', Option.map_some, Option.map_some, settled, settled']
  · cases pc with
    | readClock =>
      by_cases bare : d.nPins = 0
      · have also : (d.reseat e st l).nPins = 0 := bare
        simp only [r, r', eventStep, if_pos bare, if_pos also]
        exact ⟨h, trivial⟩
      · have also : ¬ (d.reseat e st l).nPins = 0 := bare
        simp only [r, r', eventStep, if_neg bare, if_neg also]
        exact ⟨h, trivial⟩
    | readActive now i =>
      by_cases inside : i < maxEventPins
      · have same : (e.watch i).active = (d.event.watch i).active := h.active i inside
        simp only [r, r', eventStep, if_pos inside]
        cases on : (d.event.watch i).active with
        | true =>
          rw [on] at same
          have also : ((d.reseat e st l).event.watch i).active = true := same
          rw [also]
          exact ⟨h.enter inside on, rfl⟩
        | false =>
          rw [on] at same
          have also : ((d.reseat e st l).event.watch i).active = false := same
          rw [also]
          exact ⟨h, rfl⟩
      · simp only [r, r', eventStep, if_neg inside]
        exact ⟨h, trivial⟩
    | readPin now i =>
      have inside : i < maxEventPins := h.scanned i _ rfl
      have pin : (e.watch i).pin = (d.event.watch i).pin := (h.slots i inside (.inr ⟨_, rfl⟩)).pin
      refine ⟨h, ?_⟩
      change some (EventPc.seqTest now i (e.watch i).pin) = some (EventPc.seqTest now i (d.event.watch i).pin)
      rw [pin]
    | seqTest now i pin =>
      have inside : i < maxEventPins := h.scanned i _ rfl
      have same : (e.watch i).seenSeq = (e.watch i).armSeq ↔
          (d.event.watch i).seenSeq = (d.event.watch i).armSeq := (h.slots i inside (.inr ⟨_, rfl⟩)).seen
      by_cases seen : (d.event.watch i).seenSeq = (d.event.watch i).armSeq
      · have also : ¬ ((d.reseat e st l).event.watch i).seenSeq ≠ ((d.reseat e st l).event.watch i).armSeq :=
          not_not.mpr (same.mpr seen)
        simp only [r, r', eventStep, if_neg (not_not.mpr seen), if_neg also]
        exact ⟨h.compare seen, trivial⟩
      · have also : ((d.reseat e st l).event.watch i).seenSeq ≠ ((d.reseat e st l).event.watch i).armSeq :=
          fun there => seen (same.mp there)
        simp only [r, r', eventStep, if_pos seen, if_pos also]
        exact ⟨h, trivial⟩
    | takeSeq now i pin =>
      have inside : i < maxEventPins := h.scanned i _ rfl
      have alike := h.slots i inside (.inr ⟨_, rfl⟩)
      refine ⟨h.write _ ?_ rfl rfl (h.count i inside) ?_ ?_ ?_, rfl⟩
      · rintro j stage ⟨⟩
        rfl
      · exact ⟨alike.pin, alike.edgeMode, alike.debounceMs, alike.stamp, iff_of_true rfl rfl⟩
      · intro rebasing
        exact absurd rfl rebasing
      · rintro ⟨⟩
    | takeBaseline now i pin =>
      have inside : i < maxEventPins := h.scanned i _ rfl
      have alike := h.slots i inside (.inr ⟨_, rfl⟩)
      refine ⟨h.write _ ?_ rfl rfl rfl ?_ (fun _ _ => ⟨rfl, rfl⟩) ?_, rfl⟩
      · rintro j stage ⟨⟩
      · exact ⟨alike.pin, alike.edgeMode, alike.debounceMs, alike.stamp, alike.seen⟩
      · rintro ⟨⟩
    | compareLevel now i pin =>
      have inside : i < maxEventPins := h.scanned i _ rfl
      have alike := h.slots i inside (.inr ⟨_, rfl⟩)
      have level := h.compared i inside rfl
      have held : (e.watch i).prevLevel = (d.event.watch i).prevLevel := level.prevLevel
      by_cases same : d.dio pin = (d.event.watch i).prevLevel
      · have also : (d.reseat e st l).dio pin = ((d.reseat e st l).event.watch i).prevLevel :=
          same.trans held.symm
        simp only [r, r', eventStep, if_pos same, if_pos also]
        exact ⟨h.leave (by simp [EventPc.scan]), trivial⟩
      · have also : ¬ (d.reseat e st l).dio pin = ((d.reseat e st l).event.watch i).prevLevel :=
          fun there => same (there.trans held)
        simp only [r, r', eventStep, if_neg same, if_neg also]
        refine ⟨h.write _ ?_ rfl rfl (h.count i inside) ?_ ?_ ?_, rfl⟩
        · rintro j stage ⟨⟩
          rfl
        · exact ⟨alike.pin, alike.edgeMode, alike.debounceMs, alike.stamp, alike.seen⟩
        · exact fun _ _ => ⟨rfl, level.debounceUntil⟩
        · exact fun _ => ⟨rfl, level.debounceUntil⟩
    | changeTest now i pin rising =>
      have inside : i < maxEventPins := h.scanned i _ rfl
      have same : (e.watch i).edgeMode = (d.event.watch i).edgeMode :=
        (h.slots i inside (.inr ⟨_, rfl⟩)).edgeMode
      by_cases change : (d.event.watch i).edgeMode = .change
      · have also : ((d.reseat e st l).event.watch i).edgeMode = .change := same.trans change
        simp only [r, r', eventStep, if_pos change, if_pos also]
        exact ⟨h, trivial⟩
      · have also : ¬ ((d.reseat e st l).event.watch i).edgeMode = .change :=
          fun there => change (same.symm.trans there)
        simp only [r, r', eventStep, if_neg change, if_neg also]
        exact ⟨h, trivial⟩
    | directionTest now i pin rising =>
      have inside : i < maxEventPins := h.scanned i _ rfl
      have same : (e.watch i).edgeMode = (d.event.watch i).edgeMode :=
        (h.slots i inside (.inr ⟨_, rfl⟩)).edgeMode
      by_cases right : (d.event.watch i).edgeMode = edgeOf rising
      · have also : ((d.reseat e st l).event.watch i).edgeMode = edgeOf rising := same.trans right
        simp only [r, r', eventStep, if_pos right, if_pos also]
        exact ⟨h, trivial⟩
      · have also : ¬ ((d.reseat e st l).event.watch i).edgeMode = edgeOf rising :=
          fun there => right (same.symm.trans there)
        simp only [r, r', eventStep, if_neg right, if_neg also]
        exact ⟨h.leave (by simp [EventPc.scan]), trivial⟩
    | debounceTest now i pin rising =>
      have inside : i < maxEventPins := h.scanned i _ rfl
      have same : (e.watch i).debounceUntil = (d.event.watch i).debounceUntil :=
        (h.compared i inside rfl).debounceUntil
      by_cases early : before now (d.event.watch i).debounceUntil = true
      · have also : before now ((d.reseat e st l).event.watch i).debounceUntil = true := by
          change before now (e.watch i).debounceUntil = true
          rw [same]
          exact early
        simp only [r, r', eventStep, if_pos early, if_pos also]
        exact ⟨h.leave (by simp [EventPc.scan]), trivial⟩
      · have also : ¬ before now ((d.reseat e st l).event.watch i).debounceUntil = true := by
          change ¬ before now (e.watch i).debounceUntil = true
          rw [same]
          exact early
        simp only [r, r', eventStep, if_neg early, if_neg also]
        exact ⟨h, trivial⟩
    | bumpCount now i pin rising =>
      have inside : i < maxEventPins := h.scanned i _ rfl
      have alike := h.slots i inside (.inr ⟨_, rfl⟩)
      have level := h.compared i inside rfl
      refine ⟨h.write _ ?_ rfl rfl (congrArg (· + 1) (h.count i inside)) ?_ ?_ ?_, rfl⟩
      · rintro j stage ⟨⟩
        rfl
      · exact ⟨alike.pin, alike.edgeMode, alike.debounceMs, alike.stamp, alike.seen⟩
      · exact fun _ _ => ⟨level.prevLevel, level.debounceUntil⟩
      · exact fun _ => ⟨level.prevLevel, level.debounceUntil⟩
    | openWindow now i pin rising =>
      have inside : i < maxEventPins := h.scanned i _ rfl
      have alike := h.slots i inside (.inr ⟨_, rfl⟩)
      have level := h.compared i inside rfl
      have due : now + (e.watch i).debounceMs.toUInt32 = now + (d.event.watch i).debounceMs.toUInt32 := by
        rw [alike.debounceMs]
      refine ⟨h.write _ ?_ rfl rfl (h.count i inside) ?_ ?_ ?_, rfl⟩
      · rintro j stage ⟨⟩
      · exact ⟨alike.pin, alike.edgeMode, alike.debounceMs, alike.stamp, alike.seen⟩
      · exact fun _ _ => ⟨level.prevLevel, due⟩
      · rintro ⟨⟩
    | _ => exact absurd (by simp [EventPc.settled]) pushing

/-- Alike watches are found in the same slots. -/
theorem WatchesAlike.watchIndex (h : WatchesAlike δ scan e e') (pin : Nat) :
    e'.watchIndex pin = e.watchIndex pin := by
  apply EventState.watchIndex_congr
  intro j inside
  rw [h.active j inside]
  cases on : (e.watch j).active with
  | true => rw [(h.slots j inside (.inl on)).pin]
  | false => rfl

theorem WatchesAlike.freeSlot (h : WatchesAlike δ scan e e') : e'.freeSlot = e.freeSlot := by
  unfold EventState.freeSlot
  rw [Lib.Table.find_congr (fun j inside => congrArg (!·) (h.active j inside))]

/-- Slots switched off alike. -/
theorem WatchesAlike.off (h : WatchesAlike δ scan e e') (off : Nat → Bool)
    (watch : ∀ i < maxEventPins, f.watch i = { e.watch i with active := (e.watch i).active && !off i })
    (watch' : ∀ i < maxEventPins, f'.watch i = { e'.watch i with active := (e'.watch i).active && !off i })
    (serial : f.armSeq = e.armSeq) (serial' : f'.armSeq = e'.armSeq) (many : f'.nWatched = f.nWatched) :
    WatchesAlike δ scan f f' := by
  have was : ∀ i < maxEventPins, (f.watch i).active = true → (e.watch i).active = true := by
    intro i inside on
    rw [watch i inside] at on
    exact (Bool.and_eq_true_iff.mp on).1
  refine ⟨?_, many, ?_, ?_, h.scanned, ?_, ?_, ?_⟩
  · rw [serial, serial']
    exact h.serial
  · intro i inside
    rw [watch i inside, watch' i inside, h.active i inside]
  · intro i inside
    rw [watch i inside, watch' i inside]
    exact h.count i inside
  · intro i inside here
    have alike := h.slots i inside (here.imp_left (was i inside))
    rw [watch i inside, watch' i inside]
    exact ⟨alike.pin, alike.edgeMode, alike.debounceMs, alike.stamp, alike.seen⟩
  · intro i inside here seen rebasing
    rw [watch i inside] at seen
    have level := h.levels i inside (here.imp_left (was i inside)) seen rebasing
    rw [watch i inside, watch' i inside]
    exact ⟨level.prevLevel, level.debounceUntil⟩
  · intro i inside comparing
    have level := h.compared i inside comparing
    rw [watch i inside, watch' i inside]
    exact ⟨level.prevLevel, level.debounceUntil⟩

theorem unwatch_off (e : EventState) (i j : Nat) :
    (e.unwatch i).watch j = { e.watch j with active := (e.watch j).active && !(j == i) } := by
  by_cases here : j = i
  · subst here
    simp [EventState.unwatch, EventState.setWatch]
  · have same : (e.unwatch i).watch j = e.watch j := Function.update_of_ne here ..
    have on : ((e.watch j).active && !(j == i)) = (e.watch j).active := by simp [here]
    rw [same, on]

/-- The arm gives its slot a number that it has not seen. -/
def EventState.FreshArm (e : EventState) (pin : Nat) : Prop :=
  (e.watch (e.armSlot pin)).seenSeq ≠ e.armSeq + 1

instance (e : EventState) (pin : Nat) : Decidable (e.FreshArm pin) := inferInstanceAs (Decidable (_ ≠ _))

/-- Both arms do, or both slots take their number for one they have seen and go on from the same level. -/
structure ArmsAlike (e e' : EventState) (pin : Nat) : Prop where
  fresh : e'.FreshArm pin ↔ e.FreshArm pin
  level : ¬ e.FreshArm pin → (e.watch (e.armSlot pin)).Level (e'.watch (e'.armSlot pin))

instance (w w' : EventWatch) : Decidable (w.Level w') :=
  decidable_of_iff (w'.prevLevel = w.prevLevel ∧ w'.debounceUntil = w.debounceUntil)
    ⟨fun h => ⟨h.1, h.2⟩, fun h => ⟨h.prevLevel, h.debounceUntil⟩⟩

instance (e e' : EventState) (pin : Nat) : Decidable (ArmsAlike e e' pin) :=
  decidable_of_iff ((e'.FreshArm pin ↔ e.FreshArm pin) ∧
      (¬ e.FreshArm pin → (e.watch (e.armSlot pin)).Level (e'.watch (e'.armSlot pin))))
    ⟨fun h => ⟨h.1, h.2⟩, fun h => ⟨h.fresh, h.level⟩⟩

theorem WatchesAlike.arm (h : WatchesAlike δ scan e e') (edge : EdgeMode) (debounceMs : UInt8)
    (arms : ArmsAlike e e' pin) :
    WatchesAlike δ scan (e.perform (.arm pin edge debounceMs)) (e'.perform (.arm pin edge debounceMs)) := by
  have slot : e'.armSlot pin = e.armSlot pin := by
    unfold EventState.armSlot
    rw [h.watchIndex, h.freeSlot]
  obtain ⟨watch, serial, _⟩ := perform_arm e pin edge debounceMs
  obtain ⟨watch', serial', _⟩ := perform_arm e' pin edge debounceMs
  have next : e'.armSeq + 1 = e.armSeq + 1 + δ := by
    rw [h.serial, UInt8.add_assoc, UInt8.add_assoc, UInt8.add_comm δ]
  have fresh := arms.fresh
  have kept := arms.level
  unfold EventState.FreshArm at fresh kept
  rw [slot] at watch' fresh kept
  generalize at_slot : e.armSlot pin = i at watch watch' fresh kept
  have many : (e'.perform (.arm pin edge debounceMs)).nWatched =
      (e.perform (.arm pin edge debounceMs)).nWatched := by
    simp only [EventState.perform, h.watchIndex]
    cases e.watchIndex pin with
    | some j => exact h.nWatched
    | none => exact congrArg (· + 1) h.nWatched
  refine ⟨?_, many, ?_, ?_, h.scanned, ?_, ?_, ?_⟩
  · rw [serial, serial', next]
  · intro j inside
    rw [watch, watch']
    by_cases here : j = i
    · subst here
      rw [Function.update_self, Function.update_self]
    · rw [Function.update_of_ne here, Function.update_of_ne here]
      exact h.active j inside
  · intro j inside
    rw [watch, watch']
    by_cases here : j = i
    · subst here
      rw [Function.update_self, Function.update_self]
      exact h.count j inside
    · rw [Function.update_of_ne here, Function.update_of_ne here]
      exact h.count j inside
  · intro j inside on
    rw [watch] at on ⊢
    rw [watch']
    by_cases here : j = i
    · subst here
      rw [Function.update_self, Function.update_self]
      exact ⟨rfl, rfl, rfl, next, not_iff_not.mp fresh⟩
    · rw [Function.update_of_ne here] at on ⊢
      rw [Function.update_of_ne here]
      exact h.slots j inside on
  · intro j inside on seen rebasing
    rw [watch] at on seen ⊢
    rw [watch']
    by_cases here : j = i
    · subst here
      rw [Function.update_self] at seen ⊢
      rw [Function.update_self]
      have same := kept (not_not.mpr seen)
      exact ⟨same.prevLevel, same.debounceUntil⟩
    · rw [Function.update_of_ne here] at on seen ⊢
      rw [Function.update_of_ne here]
      exact h.levels j inside on seen rebasing
  · intro j inside comparing
    have level := h.compared j inside comparing
    rw [watch, watch']
    by_cases here : j = i
    · subst here
      rw [Function.update_self, Function.update_self]
      exact ⟨level.prevLevel, level.debounceUntil⟩
    · rw [Function.update_of_ne here, Function.update_of_ne here]
      exact level

/-- A request served by both. -/
theorem WatchesAlike.perform (h : WatchesAlike δ scan e e')
    (arms : ∀ pin ∈ req.arms, ArmsAlike e e' pin) :
    WatchesAlike δ scan (e.perform req) (e'.perform req) := by
  have unwatched : ∀ i, WatchesAlike δ scan (e.unwatch i) (e'.unwatch i) := by
    intro i
    refine h.off (· == i) (fun j _ => unwatch_off e i j) (fun j _ => unwatch_off e' i j) rfl rfl ?_
    exact congrArg (· - 1) h.nWatched
  cases req with
  | pop index => exact h.congr rfl rfl rfl rfl rfl rfl
  | clear =>
    refine h.off (fun _ => true) ?_ ?_ rfl rfl rfl
    · intro i inside
      simp [EventState.perform, EventState.clear, inside]
    · intro i inside
      simp [EventState.perform, EventState.clear, inside]
  | off pin =>
    simp only [EventState.perform, h.watchIndex]
    cases e.watchIndex pin with
    | none => exact h
    | some i => exact (unwatched i).congr rfl rfl rfl rfl rfl rfl
  | leave pin =>
    simp only [EventState.perform, h.watchIndex]
    cases e.watchIndex pin with
    | none => exact h
    | some i => exact unwatched i
  | arm pin edge debounceMs => exact h.arm edge debounceMs (arms pin rfl)

/-- EVENT_COUNTS tells the two the same. -/
theorem WatchesAlike.counts (h : WatchesAlike δ scan e e') : e'.countsBytes = e.countsBytes := by
  have listed : (List.range maxEventPins).filter (fun i => (e'.watch i).active) =
      (List.range maxEventPins).filter (fun i => (e.watch i).active) := by
    apply List.filter_congr
    intro i inside
    exact h.active i (List.mem_range.mp inside)
  have alike : ∀ i ∈ (List.range maxEventPins).filter (fun i => (e.watch i).active),
      i < maxEventPins ∧ (e.watch i).Alike δ (e'.watch i) := by
    intro i member
    obtain ⟨inside, on⟩ := List.mem_filter.mp member
    exact ⟨List.mem_range.mp inside, h.slots i (List.mem_range.mp inside) (.inl on)⟩
  have order : e'.armOrder = e.armOrder := by
    have compares : ∀ i ∈ (List.range maxEventPins).filter (fun i => (e.watch i).active),
        ∀ j ∈ (List.range maxEventPins).filter (fun i => (e.watch i).active),
        e'.armedAfter i j = e.armedAfter i j := by
      intro i hi j hj
      have apart : (e'.watch i).armSeq - (e'.watch j).armSeq = (e.watch i).armSeq - (e.watch j).armSeq := by
        rw [(alike i hi).2.stamp, (alike j hj).2.stamp]
        apply UInt8.toNat_inj.mp
        have := (e.watch i).armSeq.toNat_lt
        have := (e.watch j).armSeq.toNat_lt
        have := δ.toNat_lt
        simp only [UInt8.toNat_sub, UInt8.toNat_add]
        omega
      unfold EventState.armedAfter
      rw [apart]
    have sorted := List.map_insertionSort (r := fun i j => ¬ e'.armedAfter j i = true)
      (s := fun i j => ¬ e.armedAfter j i = true) id
      ((List.range maxEventPins).filter fun i => (e.watch i).active).reverse (by
        intro i hi j hj
        rw [compares j (List.mem_reverse.mp hj) i (List.mem_reverse.mp hi)]
        rfl)
    rw [List.map_id, List.map_id] at sorted
    rw [armOrder_eq, armOrder_eq, listed, sorted]
  unfold EventState.countsBytes
  rw [order]
  refine congrArg (eventHeader (UInt8.ofNat e.armOrder.length) 0 0 ++ ·) ?_
  apply List.flatMap_congr
  intro i member
  have here := (armOrder_perm e).mem_iff.mp member
  have count := h.count i (alike i here).1
  unfold EventWatch.countBytes
  rw [(alike i here).2.pin, (alike i here).2.edgeMode, count]

end ArduinoDriver
