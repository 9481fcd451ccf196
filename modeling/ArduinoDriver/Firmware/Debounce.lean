import ArduinoDriver.Firmware.Scanning

namespace ArduinoDriver

/-- A scan of event_poll(): the true time, of which millis() shows the low 32 bits, and
the device it finds. -/
structure Scan where
  time : Nat
  device : UsbIoDevice

def Scan.now (s : Scan) : UInt32 := UInt32.ofNat s.time

/-- The level slot `i` sees. -/
def Scan.level (s : Scan) (i : Nat) : Bool := s.device.dio (s.device.event.watch i).pin

/-- What the scan makes of the event fields by the time it comes to slot `i`. -/
def Scan.upTo (s : Scan) (i : Nat) : EventState :=
  (List.range i).foldl (scanWatch s.device.dio s.now) s.device.event

def Scan.after (s : Scan) : EventState := eventPoll s.device s.now

/-- Slot `i` accepts an edge: its count is bumped and the edge goes to push_event(). -/
structure Scan.Accepted (s : Scan) (i : Nat) : Prop where
  counted : (s.after.watch i).count = (s.device.event.watch i).count + 1
  pushed : ∃ w, s.upTo (i + 1) = ((s.upTo i).setWatch i w).push
    ⟨(s.device.event.watch i).pin, edgeOf (s.level i), (s.device.event.watch i).count + 1, s.now⟩

/-- Scans later and later, between which slot `i` is left alone. -/
def Scanned (i : Nat) : EventWatch → Nat → List Scan → Prop
  | _, _, [] => True
  | w, time, s :: rest => s.device.nPins ≠ 0 ∧ s.device.event.watch i = w ∧ time < s.time ∧
      Scanned i (s.after.watch i) s.time rest

/-- The contract: a change in a wanted direction counts once the window of the last
accepted edge has passed, and always before the first. -/
def Due (mode : EdgeMode) (debounce : Nat) (last : Option Nat) (prev level : Bool) (time : Nat) :
    Prop :=
  level ≠ prev ∧ edgeMatches mode level = true ∧ ∀ t ∈ last, t + debounce ≤ time

instance (mode : EdgeMode) (debounce : Nat) (last : Option Nat) (prev level : Bool) (time : Nat) :
    Decidable (Due mode debounce last prev level time) :=
  inferInstanceAs (Decidable (_ ∧ _ ∧ _))

/-- Every scan decides as the contract says; `last` is when an edge was last accepted. -/
inductive Lawful (mode : EdgeMode) (debounce i : Nat) : Option Nat → Bool → List Scan → Prop
  | nil (last : Option Nat) (prev : Bool) : Lawful mode debounce i last prev []
  | edge {last : Option Nat} {prev : Bool} {s : Scan} {rest : List Scan} (accepted : s.Accepted i)
      (due : Due mode debounce last prev (s.level i) s.time)
      (further : Lawful mode debounce i (some s.time) (s.level i) rest) :
      Lawful mode debounce i last prev (s :: rest)
  | quiet {last : Option Nat} {prev : Bool} {s : Scan} {rest : List Scan}
      (absorbed : ¬ s.Accepted i) (early : ¬ Due mode debounce last prev (s.level i) s.time)
      (further : Lawful mode debounce i last (s.level i) rest) :
      Lawful mode debounce i last prev (s :: rest)

/-- Where the window ends that the slot was left with. -/
def windowEnd (debounce base : Nat) (last : Option Nat) : Nat := last.elim base (· + debounce)

/-- Every edge due comes within 2^31 ms of the end of the window, modulo 2^32. -/
def InReach (mode : EdgeMode) (debounce base i : Nat) : Option Nat → Bool → List Scan → Prop
  | _, _, [] => True
  | last, prev, s :: rest =>
    if Due mode debounce last prev (s.level i) s.time then
      (s.time - windowEnd debounce base last) % 2 ^ 32 < 2 ^ 31 ∧
        InReach mode debounce base i (some s.time) (s.level i) rest
    else InReach mode debounce base i last (s.level i) rest

instance InReach.decidable (mode : EdgeMode) (debounce base i : Nat) : (last : Option Nat) →
    (prev : Bool) → (scans : List Scan) → Decidable (InReach mode debounce base i last prev scans)
  | _, _, [] => .isTrue trivial
  | last, prev, s :: rest =>
    have := InReach.decidable mode debounce base i (some s.time) (s.level i) rest
    have := InReach.decidable mode debounce base i last (s.level i) rest
    inferInstanceAs (Decidable (if Due mode debounce last prev (s.level i) s.time then
      (s.time - windowEnd debounce base last) % 2 ^ 32 < 2 ^ 31 ∧
        InReach mode debounce base i (some s.time) (s.level i) rest
      else InReach mode debounce base i last (s.level i) rest))

variable {e : EventState} {dio : Nat → Bool} {now : UInt32} {i j : Nat} {w : EventWatch} {s : Scan}
  {mode : EdgeMode} {debounce base : Nat} {last : Option Nat} {prev level : Bool}

theorem push_watch (e : EventState) (ev : UsbioEvent) : (e.push ev).watch = e.watch := by
  unfold EventState.push
  split <;> rfl

/-- A slot's scan leaves the other slots as they are. -/
theorem scanWatch_elsewhere (other : i ≠ j) : (scanWatch dio now e j).watch i = e.watch i := by
  have set_elsewhere : ∀ w, (e.setWatch j w).watch i = e.watch i :=
    fun w => Function.update_of_ne other ..
  unfold scanWatch
  dsimp only
  split
  · rfl
  · split
    · exact set_elsewhere _
    · split
      · rfl
      · split
        · exact set_elsewhere _
        · rw [push_watch]
          exact set_elsewhere _

theorem scan_elsewhere (slots : List Nat) (unscanned : i ∉ slots) (e : EventState) :
    (slots.foldl (scanWatch dio now) e).watch i = e.watch i := by
  induction slots generalizing e with
  | nil => rfl
  | cons j slots ih =>
    rw [List.mem_cons, not_or] at unscanned
    rw [List.foldl_cons, ih unscanned.2, scanWatch_elsewhere unscanned.1]

theorem Scan.upTo_watch (s : Scan) (i : Nat) : (s.upTo i).watch i = s.device.event.watch i :=
  scan_elsewhere _ (by simp) _

theorem Scan.upTo_succ (s : Scan) (i : Nat) :
    s.upTo (i + 1) = scanWatch s.device.dio s.now (s.upTo i) i := by
  rw [upTo, List.range_succ, List.foldl_append]
  rfl

/-- After the scan a slot is as the scan of that slot left it. -/
theorem Scan.after_watch (inside : i < maxEventPins) (pins : s.device.nPins ≠ 0) :
    s.after.watch i = (s.upTo (i + 1)).watch i := by
  obtain ⟨more, rest⟩ := Nat.exists_eq_add_of_lt inside
  rw [after, eventPoll, if_neg pins, rest, Nat.add_right_comm, List.range_add, List.foldl_append]
  refine scan_elsewhere _ ?_ _
  simp only [List.mem_map, not_exists, not_and]
  intro k _
  omega

/-- The slot baselined with counter, level and window of later scans. -/
def EventWatch.since (w : EventWatch) (count : UInt16) (level : Bool) (deadline : Nat) : EventWatch :=
  { w.baseline level (UInt32.ofNat deadline) with count := count }

/-- What makes the scan of a slot that is not fresh accept an edge. -/
def EventWatch.accepts (w : EventWatch) (level : Bool) (now : UInt32) : Prop :=
  level ≠ w.prevLevel ∧ edgeMatches w.edgeMode level = true ∧ before now w.debounceUntil = false

theorem scan_accepted (slot : e.watch i = w) (on : w.active = true) (seen : w.seenSeq = w.armSeq)
    (accepts : w.accepts (dio w.pin) now) :
    scanWatch dio now e i = (e.setWatch i { w with
      prevLevel := dio w.pin
      count := w.count + 1
      debounceUntil := now + w.debounceMs.toUInt32 }).push
        ⟨w.pin, edgeOf (dio w.pin), w.count + 1, now⟩ := by
  obtain ⟨changed, fits, late⟩ := accepts
  unfold scanWatch
  rw [slot]
  dsimp only
  rw [if_neg (by rw [on]; decide), if_neg (not_not.mpr seen), if_neg changed,
    if_neg (by rw [fits, late]; decide)]

theorem scan_absorbed (slot : e.watch i = w) (on : w.active = true) (seen : w.seenSeq = w.armSeq)
    (absorbs : ¬ w.accepts (dio w.pin) now) :
    scanWatch dio now e i = e.setWatch i { w with prevLevel := dio w.pin } := by
  unfold scanWatch
  rw [slot]
  dsimp only
  rw [if_neg (by rw [on]; decide), if_neg (not_not.mpr seen)]
  by_cases same : dio w.pin = w.prevLevel
  · rw [if_pos same, same, ← slot]
    simp only [EventState.setWatch, Function.update_eq_self]
  · rw [if_neg same, if_pos]
    by_contra accepts
    simp only [Bool.or_eq_true, Bool.not_eq_true', not_or, Bool.not_eq_false,
      Bool.not_eq_true] at accepts
    exact absorbs ⟨same, accepts.1, accepts.2⟩

/-- The signed difference against a deadline that has passed. -/
theorem before_past {time deadline : Nat} (past : deadline ≤ time) :
    before (UInt32.ofNat time) (UInt32.ofNat deadline) = false ↔
      (time - deadline) % 2 ^ 32 < 2 ^ 31 := by
  rw [← Bool.not_eq_true, before_iff, UInt32.toNat_sub, UInt32.toNat_ofNat', UInt32.toNat_ofNat']
  omega

theorem windowEnd_add (time : Nat) (debounceMs : UInt8) :
    UInt32.ofNat time + debounceMs.toUInt32 = UInt32.ofNat (time + debounceMs.toNat) := by
  apply UInt32.toNat_inj.mp
  simp only [UInt32.toNat_add, UInt32.toNat_ofNat', UInt8.toNat_toUInt32]
  omega

/-- The contract by the end of the window. -/
theorem due_iff {time : Nat} (later : base < time) :
    Due mode debounce last prev level time ↔
      level ≠ prev ∧ edgeMatches mode level = true ∧ windowEnd debounce base last ≤ time := by
  unfold Due
  cases last with
  | none =>
    have open_yet : windowEnd debounce base none ≤ time := Nat.le_of_lt later
    simp [open_yet]
  | some t => simp [windowEnd]

/-- The slot as scans have left it: `last` and `prev` as the contract has them. -/
def EventWatch.Tracks (w : EventWatch) (base : Nat) (last : Option Nat) (prev : Bool)
    (slot : EventWatch) : Prop :=
  ∃ count, slot = w.since count prev (windowEnd w.debounceMs.toNat base last)

/-- The scan of a slot in that state: it accepts an edge that is due and in reach. -/
theorem scan_accepts_iff {slot : EventWatch} (tracks : w.Tracks base last prev slot) {time : Nat}
    (later : base < time) (after : ∀ t ∈ last, t < time) :
    slot.accepts level (UInt32.ofNat time) ↔
      Due w.edgeMode w.debounceMs.toNat last prev level time ∧
        (time - windowEnd w.debounceMs.toNat base last) % 2 ^ 32 < 2 ^ 31 := by
  obtain ⟨count, rfl⟩ := tracks
  rw [due_iff later]
  change level ≠ prev ∧ edgeMatches w.edgeMode level = true ∧ before (UInt32.ofNat time)
    (UInt32.ofNat (windowEnd w.debounceMs.toNat base last)) = false ↔ _
  by_cases past : windowEnd w.debounceMs.toNat base last ≤ time
  · rw [before_past past]
    simp only [past, and_true, and_assoc]
  · have near : windowEnd w.debounceMs.toNat base last ≤ time + 255 := by
      have := w.debounceMs.toNat_lt
      cases last with
      | none => exact absurd (Nat.le_of_lt later) past
      | some t =>
        have := after t rfl
        simp only [windowEnd, Option.elim_some]
        omega
    rw [(before_ofNat (by omega) (by omega)).mpr (Nat.lt_of_not_le past)]
    simp [past]

/-- One scan: what the slot decides, and the state it is left in. -/
theorem Scan.decides (inside : i < maxEventPins) (pins : s.device.nPins ≠ 0) (on : w.active = true)
    (later : base < s.time) (after : ∀ t ∈ last, t < s.time)
    (tracks : w.Tracks base last prev (s.device.event.watch i)) :
    let due := Due w.edgeMode w.debounceMs.toNat last prev (s.level i) s.time ∧
      (s.time - windowEnd w.debounceMs.toNat base last) % 2 ^ 32 < 2 ^ 31
    (s.Accepted i ↔ due) ∧
    w.Tracks base (if due then some s.time else last) (s.level i) (s.after.watch i) := by
  intro due
  generalize slot_eq : s.device.event.watch i = slot at tracks
  have level_eq : s.level i = s.device.dio slot.pin := by rw [level, slot_eq]
  have accepts : slot.accepts (s.level i) s.now ↔ due := scan_accepts_iff tracks later after
  obtain ⟨count, rfl⟩ := tracks
  have at_slot : (s.upTo i).watch i = _ := (s.upTo_watch i).trans slot_eq
  rw [level_eq] at accepts
  by_cases due_now : due
  · have scanned := scan_accepted at_slot on rfl (accepts.mpr due_now)
    have left := s.after_watch inside pins
    rw [s.upTo_succ, scanned, push_watch, setWatch_watch] at left
    refine ⟨⟨fun _ => due_now, fun _ => ⟨?_, ?_⟩⟩, ?_⟩
    · rw [left, slot_eq]
    · rw [s.upTo_succ, scanned, slot_eq, level_eq]
      exact ⟨_, rfl⟩
    · rw [if_pos due_now, left, level_eq]
      refine ⟨count + 1, ?_⟩
      have window := windowEnd_add s.time w.debounceMs
      simp only [EventWatch.since, EventWatch.baseline, now, windowEnd, Option.elim_some, window]
  · have scanned := scan_absorbed at_slot on rfl (fun accepted => due_now (accepts.mp accepted))
    have left := s.after_watch inside pins
    rw [s.upTo_succ, scanned, setWatch_watch] at left
    refine ⟨⟨fun accepted => ?_, fun now_due => absurd now_due due_now⟩, ?_⟩
    · have counted := accepted.counted
      rw [left, slot_eq] at counted
      simp [EventWatch.since] at counted
    · rw [if_neg due_now, left, level_eq]
      exact ⟨count, rfl⟩

theorem scans_follow_contract (inside : i < maxEventPins) (on : w.active = true) {time : Nat}
    {slot : EventWatch} {scans : List Scan} (scanned : Scanned i slot time scans)
    (tracks : w.Tracks base last prev slot) (later : base ≤ time) (after : ∀ t ∈ last, t ≤ time) :
    Lawful w.edgeMode w.debounceMs.toNat i last prev scans ↔
      InReach w.edgeMode w.debounceMs.toNat base i last prev scans := by
  induction scans generalizing slot time last prev with
  | nil => exact ⟨fun _ => trivial, fun _ => .nil last prev⟩
  | cons s rest ih =>
    obtain ⟨pins, rfl, increasing, scanned⟩ := scanned
    obtain ⟨decision, left⟩ := Scan.decides inside pins on (Nat.lt_of_le_of_lt later increasing)
      (fun t mem => Nat.lt_of_le_of_lt (after t mem) increasing) tracks
    by_cases due : Due w.edgeMode w.debounceMs.toNat last prev (s.level i) s.time
    · by_cases reach : (s.time - windowEnd w.debounceMs.toNat base last) % 2 ^ 32 < 2 ^ 31
      · rw [if_pos ⟨due, reach⟩] at left
        have further := ih scanned left (by omega) (fun t mem => by
          rw [Option.mem_some_iff] at mem
          omega)
        rw [InReach, if_pos due, ← further]
        constructor
        · intro lawful
          cases lawful with
          | edge _ _ lawful => exact ⟨reach, lawful⟩
          | quiet _ early => exact absurd due early
        · rintro ⟨_, lawful⟩
          exact .edge (decision.mpr ⟨due, reach⟩) due lawful
      · -- an edge due out of reach is where the two part
        rw [InReach, if_pos due]
        constructor
        · intro lawful
          cases lawful with
          | edge accepted => exact absurd (decision.mp accepted).2 reach
          | quiet _ early => exact absurd due early
        · intro within
          exact absurd within.1 reach
    · rw [if_neg (fun now_due => due now_due.1)] at left
      have further := ih scanned left (by omega) (fun t mem => (after t mem).trans (by omega))
      rw [InReach, if_neg due, ← further]
      constructor
      · intro lawful
        cases lawful with
        | edge _ now_due => exact absurd now_due due
        | quiet _ _ lawful => exact lawful
      · intro lawful
        exact .quiet (fun accepted => due (decision.mp accepted).1) due lawful

/-- Every scan decides as the contract says exactly when every edge due comes in reach. -/
theorem debounce_follows_contract (i : Nat) (inside : i < maxEventPins) (w : EventWatch)
    (on : w.active = true) (level : Bool) (base : Nat) (scans : List Scan)
    (scanned : Scanned i (w.baseline level (UInt32.ofNat base)) base scans) :
    Lawful w.edgeMode w.debounceMs.toNat i none level scans ↔
      InReach w.edgeMode w.debounceMs.toNat base i none level scans :=
  scans_follow_contract inside on scanned ⟨0, rfl⟩ (Nat.le_refl base) (by simp)

/-- A watch of pin 0 for any change, with 20 ms of debounce. -/
def changeWatch : EventWatch := ⟨0, true, .change, 20, 1, 0, false, 0, 0⟩

/-- The pin's first change since it was armed, `time` ms after the baseline. -/
def lateScan (time : Nat) : Scan :=
  ⟨time, { begin onePinBoard .init with
    dio := fun _ => true
    event := EventState.init.setWatch 0 (changeWatch.baseline false 0) }⟩

theorem debounce_follows_contract_first_edge : Lawful .change 20 0 none false [lateScan 1000] := by
  refine (debounce_follows_contract 0 (by simp) changeWatch rfl false 0 [lateScan 1000] ?_).mpr ?_
  · exact ⟨by decide, rfl, by decide, trivial⟩
  · decide +kernel

/-- 2^31 ms after the baseline the first edge is absorbed. -/
theorem first_edge_absorbed :
    Scanned 0 (changeWatch.baseline false 0) 0 [lateScan (2 ^ 31)] ∧
      ¬ Lawful .change 20 0 none false [lateScan (2 ^ 31)] := by
  refine ⟨⟨by decide, rfl, by decide, trivial⟩, fun lawful => ?_⟩
  cases lawful with
  | edge accepted =>
    have counted := accepted.counted
    revert counted
    decide +kernel
  | quiet _ early =>
    revert early
    decide +kernel

end ArduinoDriver
