import ArduinoDriver.Firmware.Watchlog

namespace ArduinoDriver

/-- The slot whose arm stamp the next step tests. -/
def Machine.testing (m : Machine) : Act → Option Nat
  | .loop _ => match m.pc with
    | .event (.seqTest _ i _) => some i
    | _ => none
  | _ => none

/-- Requests arrive between polls, and a slot is never scanned when its latest arm differs
from the one it was last rebased for by a multiple of 256 arms. -/
def stampTells (r : Machine × Watchlog) (act : Act) : Prop :=
  betweenPolls r.1 act ∧ ∀ i ∈ r.1.testing act,
    r.2.armedAt i % 256 = r.2.takenAt i % 256 → r.2.armedAt i = r.2.takenAt i

instance (r : Machine × Watchlog) (act : Act) : Decidable (stampTells r act) :=
  inferInstanceAs (Decidable (_ ∧ _))

/-- A slot's stamps against the numbers of its arms. -/
structure EventWatch.Stamped (w : EventWatch) (armedAt takenAt arms : Nat)
    (levels : Nat → List Bool) : Prop where
  armed : w.armSeq = UInt8.ofNat armedAt
  taken : w.seenSeq = UInt8.ofNat takenAt
  ordered : takenAt ≤ armedAt
  past : armedAt ≤ arms
  fresh : w.active = true → takenAt ≠ armedAt → levels w.pin = []

/-- What poll() has found out about the slot it is scanning. -/
def EventPc.Stamped (g : Watchlog) : EventPc → Prop
  | .takeSeq _ i _ => g.takenAt i ≠ g.armedAt i
  | .takeBaseline _ i pin => g.takenAt i = g.armedAt i ∧ g.levels pin = []
  | .compareLevel _ i _ => g.takenAt i = g.armedAt i
  | .changeTest _ _ pin rising | .directionTest _ _ pin rising | .debounceTest _ _ pin rising
  | .bumpCount _ _ pin rising => ∃ older, g.levels pin = rising :: (!rising) :: older
  | _ => True

/-- A slot that has seen its arm holds the level of the pin's last scan, unless it is just
being rebased. -/
structure Stamped (e : EventState) (g : Watchlog) (at_pc : Option EventPc) : Prop where
  serial : e.armSeq = UInt8.ofNat g.arms
  slots : ∀ i < maxEventPins, (e.watch i).Stamped (g.armedAt i) (g.takenAt i) g.arms g.levels
  mirrored : ∀ i < maxEventPins, (e.watch i).active = true → g.takenAt i = g.armedAt i →
    (∀ now pin, at_pc ≠ some (.takeBaseline now i pin)) →
    (g.levels (e.watch i).pin).head? = some (e.watch i).prevLevel
  poll : ∀ pc ∈ at_pc, pc.Stamped g

variable {b : Board} {env : Env} {d : UsbIoDevice} {e e' : EventState} {g g' : Watchlog} {i pin : Nat}
  {m : Machine} {req : EventRequest} {pc : EventPc} {w w' : EventWatch} {levels : Nat → List Bool}
  {armedAt takenAt arms : Nat} {next : Option EventPc}

theorem EventWatch.Stamped.congr (h : w.Stamped armedAt takenAt arms levels)
    (arm : w'.armSeq = w.armSeq) (seen : w'.seenSeq = w.seenSeq)
    (active : w'.active = true → w.active = true) (pin : w'.pin = w.pin) :
    w'.Stamped armedAt takenAt arms levels :=
  ⟨arm.trans h.armed, seen.trans h.taken, h.ordered, h.past,
    fun on differs => pin ▸ h.fresh (active on) differs⟩

/-- The levels of other pins do not matter. -/
theorem EventWatch.Stamped.elsewhere (h : w.Stamped armedAt takenAt arms levels) (seen : List Bool)
    (other : w.active = true → w.pin ≠ pin) :
    w.Stamped armedAt takenAt arms (Function.update levels pin seen) := by
  refine ⟨h.armed, h.taken, h.ordered, h.past, fun on differs => ?_⟩
  rw [Function.update_of_ne (other on)]
  exact h.fresh on differs

/-- Steps that leave stamps, levels and watches alone. -/
theorem Stamped.quiet (h : Stamped e g (some pc)) (serial : e'.armSeq = e.armSeq)
    (slots : ∀ i, ∃ due count, e'.watch i =
      { e.watch i with debounceUntil := due, count := count })
    (rebasing : ∀ now i pin, pc ≠ .takeBaseline now i pin)
    (same : g'.arms = g.arms ∧ g'.armedAt = g.armedAt ∧ g'.takenAt = g.takenAt ∧
      g'.levels = g.levels)
    (poll : ∀ pc' ∈ next, pc'.Stamped g') : Stamped e' g' next := by
  obtain ⟨arms, armedAt, takenAt, levels⟩ := same
  refine ⟨serial.trans (arms ▸ h.serial), fun i inside => ?_, fun i inside on seen _ => ?_, poll⟩
  · obtain ⟨due, count, eq⟩ := slots i
    rw [arms, armedAt, takenAt, levels, eq]
    exact (h.slots i inside).congr rfl rfl id rfl
  · obtain ⟨due, count, eq⟩ := slots i
    rw [armedAt, takenAt] at seen
    rw [eq] at on ⊢
    rw [levels]
    exact h.mirrored i inside on seen (fun now pin here => rebasing now i pin (Option.some.inj here))

/-- A scan of a slot that has seen its arm. -/
theorem Stamped.compare (inv : Invariant b d) (watches : d.event.Watches i pin) {now : UInt32}
    (h : Stamped d.event g (some (.compareLevel now i pin))) :
    Stamped (eventStep env d (.compareLevel now i pin)).1 (g.see pin (d.dio pin))
      (eventStep env d (.compareLevel now i pin)).2.1 := by
  have seen : g.takenAt i = g.armedAt i := h.poll _ rfl
  have head := h.mirrored i watches.inside watches.on seen (by simp)
  rw [watches.at_pin] at head
  have others := watches.alone inv
  -- whether or not the level is written back, the slot now holds it
  have kept : ∀ next : Option EventPc, (∀ pc ∈ next, pc.Stamped (g.see pin (d.dio pin))) →
      Stamped (d.event.setWatch i { d.event.watch i with prevLevel := d.dio pin })
        (g.see pin (d.dio pin)) next := by
    intro next poll
    refine ⟨h.serial, fun j inside => ?_, fun j inside => ?_, poll⟩
    · by_cases here : j = i
      · subst j
        rw [setWatch_watch]
        refine ⟨(h.slots i inside).armed, (h.slots i inside).taken, (h.slots i inside).ordered,
          (h.slots i inside).past, fun _ differs => absurd seen differs⟩
      · rw [setWatch_other here]
        exact (h.slots j inside).elsewhere _ (others j inside here)
    · by_cases here : j = i
      · subst j
        rw [setWatch_watch]
        intro _ _ _
        simp only [Watchlog.see, watches.at_pin, Function.update_self, List.head?_cons]
      · rw [setWatch_other here]
        intro on seen_j _
        simp only [Watchlog.see, Function.update_of_ne (others j inside here on)]
        refine h.mirrored j inside on seen_j ?_
        simp
  simp only [eventStep]
  split
  · rename_i same
    have written := kept (some (.readActive now (i + 1))) (by rintro pc ⟨⟩; trivial)
    have unchanged : d.event.setWatch i { d.event.watch i with prevLevel := d.dio pin } = d.event := by
      rw [same]
      simp only [EventState.setWatch, Function.update_eq_self]
    rw [unchanged] at written
    exact written
  · rename_i changed
    refine kept _ ?_
    rintro pc ⟨⟩
    exact Watchlog.see_turned head changed

theorem eventStep_stamped (inv : Invariant b d) (aligned : pc.Aligned d.event) {log : Log}
    (tells : stampTells (⟨d, .event pc, log⟩, g) (.loop env)) (h : Stamped d.event g (some pc)) :
    Stamped (eventStep env d pc).1 (pc.noted d g) (eventStep env d pc).2.1 := by
  have here : pc.Stamped g := h.poll pc rfl
  have still : ∀ i, ∃ due count, d.event.watch i =
      { d.event.watch i with debounceUntil := due, count := count } := fun i => ⟨_, _, rfl⟩
  cases pc with
  | readClock =>
    refine h.quiet rfl still (by simp) ⟨rfl, rfl, rfl, rfl⟩ ?_
    simp only [eventStep]
    split <;> rintro next ⟨⟩
    trivial
  | readActive now i =>
    simp only [eventStep]
    split
    · refine h.quiet rfl still (by simp) ⟨rfl, rfl, rfl, rfl⟩ ?_
      split <;> rintro next ⟨⟩ <;> trivial
    · exact h.quiet rfl still (by simp) ⟨rfl, rfl, rfl, rfl⟩ (by simp)
  | readPin now i =>
    refine h.quiet rfl still (by simp) ⟨rfl, rfl, rfl, rfl⟩ ?_
    rintro next ⟨⟩
    trivial
  | seqTest now i pin =>
    refine h.quiet rfl still (by simp) ⟨rfl, rfl, rfl, rfl⟩ ?_
    have watches : d.event.Watches i pin := aligned
    obtain ⟨armed, taken, _⟩ := h.slots i watches.inside
    simp only [eventStep]
    split
    · rename_i differs
      rintro next ⟨⟩
      intro (same : g.takenAt i = g.armedAt i)
      rw [armed, taken, same] at differs
      exact differs rfl
    · rename_i same
      rintro next ⟨⟩
      rw [armed, taken, not_not, ← UInt8.toNat_inj, UInt8.toNat_ofNat', UInt8.toNat_ofNat'] at same
      exact (tells.2 i rfl same.symm).symm
  | takeSeq now i pin =>
    have watches : d.event.Watches i pin := aligned
    have unseen : g.takenAt i ≠ g.armedAt i := here
    obtain ⟨armed, _, _, past, fresh⟩ := h.slots i watches.inside
    refine ⟨h.serial, fun j inside => ?_, fun j inside => ?_, ?_⟩
    · by_cases same : j = i
      · subst j
        simp only [eventStep, setWatch_watch, EventPc.noted, Function.update_self]
        exact ⟨armed, armed, Nat.le_refl _, past, fun _ differs => absurd rfl differs⟩
      · simp only [eventStep, setWatch_other same, EventPc.noted, Function.update_of_ne same]
        exact h.slots j inside
    · by_cases same : j = i
      · subst j
        intro _ _ rebasing
        exact absurd rfl (rebasing now pin)
      · simp only [eventStep, setWatch_other same, EventPc.noted, Function.update_of_ne same]
        intro on seen _
        refine h.mirrored j inside on seen ?_
        simp
    · rintro next ⟨⟩
      have none_yet := fresh watches.on unseen
      rw [watches.at_pin] at none_yet
      exact ⟨Function.update_self .., none_yet⟩
  | takeBaseline now i pin =>
    have watches : d.event.Watches i pin := aligned
    obtain ⟨seen, none_yet⟩ := here
    have others := watches.alone inv
    refine ⟨h.serial, fun j inside => ?_, fun j inside => ?_, by rintro next ⟨⟩; trivial⟩
    · by_cases same : j = i
      · subst j
        simp only [eventStep, setWatch_watch, EventPc.noted, Watchlog.see]
        exact ⟨(h.slots i inside).armed, (h.slots i inside).taken, (h.slots i inside).ordered,
          (h.slots i inside).past, fun _ differs => absurd seen differs⟩
      · simp only [eventStep, setWatch_other same, EventPc.noted, Watchlog.see]
        exact (h.slots j inside).elsewhere _ (others j inside same)
    · by_cases same : j = i
      · subst j
        simp only [eventStep, setWatch_watch, EventPc.noted, Watchlog.see, watches.at_pin,
          Function.update_self, List.head?_cons]
        exact fun _ _ _ => trivial
      · simp only [eventStep, setWatch_other same, EventPc.noted, Watchlog.see]
        intro on seen_j _
        rw [Function.update_of_ne (others j inside same on)]
        refine h.mirrored j inside on seen_j (fun now' pin' rebasing => same ?_)
        injection rebasing with rebasing
        injection rebasing with _ at_slot
        exact at_slot.symm
  | compareLevel now i pin => exact h.compare inv aligned
  | changeTest | directionTest | debounceTest =>
    refine h.quiet rfl still (by simp) ⟨rfl, rfl, rfl, rfl⟩ ?_
    simp only [eventStep]
    split <;> rintro next ⟨⟩
    all_goals first | exact here | trivial
  | bumpCount now i pin rising =>
    refine h.quiet rfl (setWatch_due d.event i _ _) (by simp) ⟨rfl, rfl, rfl, rfl⟩ ?_
    rintro next ⟨⟩
    trivial
  | openWindow now i pin rising =>
    refine h.quiet rfl (setWatch_due d.event i _ _) (by simp) ⟨rfl, rfl, rfl, rfl⟩ ?_
    rintro next ⟨⟩
    trivial
  | roomTest | dropTest =>
    simp only [eventStep]
    split <;> refine h.quiet rfl still (by simp) ⟨rfl, rfl, rfl, rfl⟩ ?_ <;> rintro next ⟨⟩ <;> trivial
  | dropLoad | dropStore | fillSlot | bumpHead =>
    refine h.quiet rfl still (by simp) ⟨rfl, rfl, rfl, rfl⟩ ?_
    rintro next ⟨⟩
    trivial

/-- An arm gives its slot the next number, which the slot has not seen. -/
theorem perform_stamped (arms : ∀ pin edge debounceMs, req = .arm pin edge debounceMs → e.Arms pin)
    (h : Stamped e g none) : Stamped (e.perform req) (req.noted e g) none := by
  cases unarmed : req.arms with
  | none =>
    obtain ⟨serial, _, slots⟩ := perform_unarmed e unarmed
    obtain ⟨off, offs, noted⟩ := noted_unarmed e g unarmed
    rw [noted]
    refine ⟨serial.trans h.serial, fun j inside => ?_, fun j inside on seen _ => ?_, by simp⟩
    · obtain ⟨on, kept, eq⟩ := slots j
      rw [eq]
      exact (h.slots j inside).congr rfl rfl kept rfl
    · obtain ⟨on', kept, eq⟩ := slots j
      rw [eq] at on ⊢
      exact h.mirrored j inside (kept on) seen (by simp)
  | some p =>
    cases req with
    | arm pin edge debounceMs =>
      obtain ⟨slot_inside, alone⟩ := arms pin edge debounceMs rfl
      obtain ⟨watch, serial, _⟩ := perform_arm e pin edge debounceMs
      have next : e.armSeq + 1 = UInt8.ofNat (g.arms + 1) := by
        rw [h.serial, UInt8.ofNat_add]
        rfl
      have mine := h.slots (e.armSlot pin) slot_inside
      refine ⟨serial.trans next, fun j inside => ?_, fun j inside => ?_, by simp⟩
      · rw [watch]
        by_cases same : j = e.armSlot pin
        · subst j
          simp only [Function.update_self, EventRequest.noted, Watchlog.arm]
          refine ⟨next, mine.taken, ?_, Nat.le_refl _, fun _ _ => Function.update_self ..⟩
          have := mine.ordered
          have := mine.past
          omega
        · simp only [Function.update_of_ne same, EventRequest.noted, Watchlog.arm]
          obtain ⟨armed, taken, ordered, past, fresh⟩ :=
            (h.slots j inside).elsewhere [] (alone j inside same)
          exact ⟨armed, taken, ordered, Nat.le_succ_of_le past, fresh⟩
      · rw [watch]
        by_cases same : j = e.armSlot pin
        · subst j
          simp only [Function.update_self, EventRequest.noted, Watchlog.arm]
          intro _ seen
          have := mine.ordered
          have := mine.past
          omega
        · simp only [Function.update_of_ne same, EventRequest.noted, Watchlog.arm]
          intro on seen _
          rw [Function.update_of_ne (alone j inside same on)]
          exact h.mirrored j inside on seen (by simp)
    | _ => contradiction

theorem Watching.stamped {r : Machine × Watchlog} (reached : Watching b stampTells r) :
    Stamped r.1.dev.event r.2 r.1.pc.event? ∧
      (∀ pc ∈ r.1.pc.event?, pc.Aligned r.1.dev.event) ∧ r.1.Ok b :=
  Watching.between_rule (b := b) (I := Stamped) (fun _ _ tells => tells.1)
    ⟨rfl, fun i _ => ⟨rfl, rfl, Nat.le_refl _, Nat.le_refl _, by simp [EventState.init]⟩,
      fun _ _ on => (by contradiction), by simp⟩
    (fun h => ⟨h.serial, h.slots, fun i inside on seen _ => h.mirrored i inside on seen (by simp),
      by rintro pc ⟨⟩; trivial⟩)
    (fun inv aligned tells h => eventStep_stamped inv aligned tells h)
    (fun arms h => perform_stamped arms h) reached

theorem baseline_steps (now : UInt32) (i pin : Nat) (at_pc : m.pc = .event (.seqTest now i pin))
    (at_pin : (m.dev.event.watch i).pin = pin)
    (fresh : (m.dev.event.watch i).seenSeq ≠ (m.dev.event.watch i).armSeq) (env₁ env₂ env₃ : Env) :
    run b m [.loop env₁, .loop env₂, .loop env₃] =
      ⟨{ m.dev with
          event := m.dev.event.setWatch i ((m.dev.event.watch i).baseline (m.dev.dio pin) now) },
        .event (.readActive now (i + 1)), m.log⟩ := by
  obtain ⟨d, pc, log⟩ := m
  obtain rfl : pc = .event (.seqTest now i pin) := at_pc
  have first : loopStep b env₁ ⟨d, .event (.seqTest now i pin), log⟩ =
      ⟨d, .event (.takeSeq now i pin), log⟩ := by
    simp only [loopStep, eventStep, if_pos fresh]
    rfl
  have second : loopStep b env₂ ⟨d, .event (.takeSeq now i pin), log⟩ =
      ⟨{ d with
          event := d.event.setWatch i { d.event.watch i with seenSeq := (d.event.watch i).armSeq } },
        .event (.takeBaseline now i pin), log⟩ := rfl
  have three : run b ⟨d, .event (.seqTest now i pin), log⟩ [.loop env₁, .loop env₂, .loop env₃] =
      loopStep b env₃ (loopStep b env₂ (loopStep b env₁ ⟨d, .event (.seqTest now i pin), log⟩)) := rfl
  rw [three, first, second]
  simp only [loopStep, eventStep, setWatch_watch, setWatch_setWatch]
  rfl

/-- In every run whose scans can tell the arms by their stamps: the first scan of a watch
after its arm takes the shadow as baseline, with the counter at 0, and reports nothing; and
every edge accepted later is a change between the two latest scans since the arm. -/
theorem fresh_arm_starts_clean (b : Board) (m : Machine) (g : Watchlog)
    (reached : Watching b stampTells (m, g)) :
    (∀ now i pin env₁ env₂ env₃, m.pc = .event (.seqTest now i pin) → g.levels pin = [] →
      stampTells (m, g) (.loop env₁) →
      m.dev.event.Watches i pin ∧
      run b m [.loop env₁, .loop env₂, .loop env₃] =
        ⟨{ m.dev with
            event := m.dev.event.setWatch i ((m.dev.event.watch i).baseline (m.dev.dio pin) now) },
          .event (.readActive now (i + 1)), m.log⟩) ∧
    ∀ now i pin rising, m.pc = .event (.bumpCount now i pin rising) →
      m.dev.event.Watches i pin ∧ ∃ older, g.levels pin = rising :: (!rising) :: older := by
  obtain ⟨h, aligned, _⟩ : Stamped m.dev.event g m.pc.event? ∧
      (∀ pc ∈ m.pc.event?, pc.Aligned m.dev.event) ∧ m.Ok b := Watching.stamped reached
  constructor
  · intro now i pin env₁ env₂ env₃ at_pc unscanned tells
    have watches : m.dev.event.Watches i pin := aligned (.seqTest now i pin) (by rw [at_pc]; rfl)
    obtain ⟨armed, taken, _⟩ := h.slots i watches.inside
    refine ⟨watches, baseline_steps now i pin at_pc watches.at_pin ?_ env₁ env₂ env₃⟩
    intro same
    rw [armed, taken, ← UInt8.toNat_inj, UInt8.toNat_ofNat', UInt8.toNat_ofNat'] at same
    have testing : i ∈ m.testing (.loop env₁) := by
      simp only [Machine.testing, at_pc]
      rfl
    have seen := (tells.2 i testing same.symm).symm
    -- a slot that has seen its arm has scanned its pin since
    have scanned := h.mirrored i watches.inside watches.on seen (by simp [at_pc, Pc.event?])
    rw [watches.at_pin, unscanned] at scanned
    contradiction
  · intro now i pin rising at_pc
    have place : EventPc.bumpCount now i pin rising ∈ m.pc.event? := by
      rw [at_pc]
      rfl
    exact ⟨aligned _ place, h.poll _ place⟩

/-- The first poll after an arm, up to the test of the arm stamp. -/
def firstScan : Machine × Watchlog :=
  ([request .pinMode 0 0, request .eventConfig 3 0] ++
    List.replicate 17 (Act.loop highEnv)).foldl
    (Lib.recording (step onePinBoard) (watchlog onePinBoard)) (boot onePinBoard, .empty)

theorem fresh_arm_starts_clean_first_scan :
    ∃ now, firstScan.1.pc = .event (.seqTest now 0 0) ∧
      run onePinBoard firstScan.1 [.loop highEnv, .loop highEnv, .loop highEnv] =
        ⟨{ firstScan.1.dev with
            event := firstScan.1.dev.event.setWatch 0
              ((firstScan.1.dev.event.watch 0).baseline (firstScan.1.dev.dio 0) now) },
          .event (.readActive now 1), firstScan.1.log⟩ := by
  have reached : Watching onePinBoard stampTells firstScan := Lib.Follows.reach (by decide +kernel)
  have at_pc : firstScan.1.pc = .event (.seqTest 5 0 0) := by decide +kernel
  have unscanned : firstScan.2.levels 0 = [] := by decide +kernel
  have tells : stampTells firstScan (.loop highEnv) := by decide +kernel
  generalize firstScan = r at reached at_pc unscanned tells ⊢
  exact ⟨5, at_pc, ((fresh_arm_starts_clean onePinBoard r.1 r.2 reached).1 5 0 0 highEnv highEnv
    highEnv at_pc unscanned tells).2⟩

/-- Pin 0 is armed 256 times before the first poll, which finds it high. -/
def wrappedArms : List Act :=
  request .pinMode 0 0 :: List.replicate 256 (request .eventConfig 3 0) ++
    List.replicate 38 (.loop highEnv)

def wrappedScan : Machine × Watchlog :=
  wrappedArms.foldl (Lib.recording (step onePinBoard) (watchlog onePinBoard))
    (boot onePinBoard, .empty)

/-- The first scan after the latest arm accepts an edge and reports it. -/
theorem wrapped_arms_report_at_first_scan :
    Lib.Follows (step onePinBoard) betweenPolls (boot onePinBoard) wrappedArms ∧
    wrappedScan.2.reports = [⟨⟨0, .rising, 1, 5⟩, [true], .change⟩] ∧
    wrappedScan.1.dev.event.queued = [⟨0, .rising, 1, 5⟩] ∧
    (wrappedScan.1.dev.event.watch 0).count = 1 := by
  refine ⟨?_, ?_, ?_, ?_⟩ <;> decide +kernel

end ArduinoDriver
