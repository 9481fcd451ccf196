import ArduinoDriver.Firmware.Watchlog

namespace ArduinoDriver

/-- An EVENT_CONFIG has overtaken the scan of a slot: `pin` was read before the slot was armed
for another pin, the edge of a slot or a pin armed anew is accepted all the same, or the edge
of a pin switched off is published. -/
def EventPc.overtaken (e : EventState) (g : Watchlog) : EventPc → Bool
  | .takeSeq _ i pin => (e.watch i).pin != pin
  | .bumpCount _ i pin _ => g.recent.any fun armed => armed.1 == i || armed.2 == pin
  | .bumpHead _ _ ev => g.off ev.pin && g.offs.contains ev.pin
  | _ => false

/-- The next step of poll() is one that an EVENT_CONFIG has overtaken. -/
def overtaken (r : Machine × Watchlog) : Act → Bool
  | .loop _ => match r.1.pc with
    | .event pc => pc.overtaken r.1.dev.event r.2
    | _ => false
  | _ => false

/-- The edge is a change between the two latest scans since the latest arm of its pin, in a
direction the mode of that arm wants. -/
def Report.Genuine (r : Report) : Prop :=
  ∃ rising older, r.levels = rising :: (!rising) :: older ∧ r.event.edge = edgeOf rising ∧
    edgeMatches r.mode rising = true

/-- Neither the slot nor the pin has been armed since the scan of the slot began. -/
def Watchlog.Untouched (g : Watchlog) (i pin : Nat) : Prop :=
  ∀ armed ∈ g.recent, armed.1 ≠ i ∧ armed.2 ≠ pin

/-- The latest scan found a change to `rising`. -/
def Watchlog.Turned (g : Watchlog) (pin : Nat) (rising : Bool) : Prop :=
  ∃ older, g.levels pin = rising :: (!rising) :: older

/-- While slot `i` is scanned for `pin`, a slot that has come to watch the pin has not been
scanned yet. -/
def EventState.Alone (e : EventState) (i pin : Nat) : Prop :=
  ∀ j < maxEventPins, j ≠ i → (e.watch j).active = true → (e.watch j).pin = pin →
    (e.watch j).seenSeq ≠ (e.watch j).armSeq

/-- A slot armed for another pin meanwhile is fresh. -/
def EventState.Kept (e : EventState) (i pin : Nat) : Prop :=
  (e.watch i).seenSeq = (e.watch i).armSeq → (e.watch i).pin = pin

/-- Slot `i` is still as its latest arm for `pin` left it. -/
structure Current (e : EventState) (g : Watchlog) (i pin : Nat) : Prop where
  at_pin : (e.watch i).pin = pin
  mode : g.mode pin = (e.watch i).edgeMode
  level : (e.watch i).seenSeq = (e.watch i).armSeq →
    (g.levels pin).head? = some (e.watch i).prevLevel

/-- Slot `i` is being scanned for `pin`. -/
structure Approached (e : EventState) (g : Watchlog) (i pin : Nat) : Prop where
  inside : i < maxEventPins
  alone : e.Alone i pin
  kept : e.Kept i pin
  current : g.Untouched i pin → Current e g i pin

/-- What poll() can rely on while requests interrupt it. -/
def EventPc.Facts (e : EventState) (g : Watchlog) : EventPc → Prop
  | .readPin _ i => Approached e g i (e.watch i).pin
  | .seqTest _ i pin | .takeSeq _ i pin => Approached e g i pin
  | .takeBaseline _ i pin => i < maxEventPins ∧ e.Alone i pin ∧ e.Kept i pin
  | .compareLevel _ i pin => Approached e g i pin ∧
      (g.Untouched i pin → (e.watch i).seenSeq = (e.watch i).armSeq)
  | .changeTest _ i pin rising | .directionTest _ i pin rising =>
    g.Untouched i pin → g.mode pin = (e.watch i).edgeMode ∧ g.Turned pin rising
  | .debounceTest _ i pin rising | .bumpCount _ i pin rising =>
    g.Untouched i pin → edgeMatches (g.mode pin) rising = true ∧ g.Turned pin rising
  | _ => True

/-- Stamps in the order of the arms, and slots that hold mode and level of their pin. -/
structure Mirrored (e : EventState) (g : Watchlog) (at_pc : Option EventPc) : Prop where
  serial : e.armSeq = UInt8.ofNat g.arms
  armed : ∀ i < maxEventPins, (e.watch i).armSeq.toNat ≤ g.arms
  taken : ∀ i < maxEventPins, (e.watch i).seenSeq.toNat ≤ g.arms
  modes : ∀ i < maxEventPins, (e.watch i).active = true →
    g.mode (e.watch i).pin = (e.watch i).edgeMode
  levels : ∀ i < maxEventPins, (∀ now pin, at_pc ≠ some (.takeBaseline now i pin)) →
    (e.watch i).active = true → (e.watch i).seenSeq = (e.watch i).armSeq →
    (g.levels (e.watch i).pin).head? = some (e.watch i).prevLevel
  genuine : ∀ r ∈ g.reports, r.Genuine
  poll : ∀ pc ∈ at_pc, pc.Facts e g

variable {b : Board} {env : Env} {d : UsbIoDevice} {e e' : EventState} {g g' : Watchlog} {i pin k p : Nat}
  {req : EventRequest} {pc : EventPc} {w : EventWatch} {next at_pc : Option EventPc} {rising : Bool}


/-- Requests that arm nothing switch slots off at most. -/
def OnlyOff (e e' : EventState) : Prop :=
  ∀ i, ∃ on, (on = true → (e.watch i).active = true) ∧ e'.watch i = { e.watch i with active := on }

theorem OnlyOff.alone (off : OnlyOff e e') (h : e.Alone i pin) : e'.Alone i pin := by
  intro j inside other on at_pin
  obtain ⟨active, kept, eq⟩ := off j
  rw [eq] at on at_pin ⊢
  exact h j inside other (kept on) at_pin

theorem OnlyOff.kept (off : OnlyOff e e') (h : e.Kept i pin) : e'.Kept i pin := by
  unfold EventState.Kept
  obtain ⟨active, kept, eq⟩ := off i
  rw [eq]
  exact h

theorem OnlyOff.approached (off : OnlyOff e e') (recent : g'.recent = g.recent)
    (mode : g'.mode = g.mode) (levels : g'.levels = g.levels) (h : Approached e g i pin) :
    Approached e' g' i pin := by
  refine ⟨h.inside, off.alone h.alone, off.kept h.kept, fun untouched => ?_⟩
  obtain ⟨active, kept, eq⟩ := off i
  have current := h.current (by
    unfold Watchlog.Untouched at untouched ⊢
    rwa [recent] at untouched)
  refine ⟨?_, ?_, ?_⟩
  · rw [eq]
    exact current.at_pin
  · rw [eq, mode]
    exact current.mode
  · rw [eq, levels]
    exact current.level

/-- A request that arms nothing, at any point of event_poll(). -/
theorem Mirrored.unarmed (h : Mirrored e g at_pc) (unarmed : req.arms = none) :
    Mirrored (e.perform req) (req.noted e g) at_pc := by
  obtain ⟨serial, _, slots⟩ := perform_unarmed e unarmed
  obtain ⟨off, offs, noted⟩ := noted_unarmed e g unarmed
  have only_off : OnlyOff e (e.perform req) := slots
  rw [noted]
  refine ⟨serial.trans h.serial, fun i inside => ?_, fun i inside => ?_, fun i inside on => ?_,
    fun i inside rebasing on seen => ?_, h.genuine, fun pc here => ?_⟩
  · obtain ⟨active, _, eq⟩ := slots i
    rw [eq]
    exact h.armed i inside
  · obtain ⟨active, _, eq⟩ := slots i
    rw [eq]
    exact h.taken i inside
  · obtain ⟨active, kept, eq⟩ := slots i
    rw [eq] at on ⊢
    exact h.modes i inside (kept on)
  · obtain ⟨active, kept, eq⟩ := slots i
    rw [eq] at on seen ⊢
    exact h.levels i inside rebasing (kept on) seen
  · have facts := h.poll pc here
    cases pc with
    | readPin now i =>
      obtain ⟨active, _, eq⟩ := slots i
      have same_pin : ((e.perform req).watch i).pin = (e.watch i).pin := by rw [eq]
      change Approached _ _ i ((e.perform req).watch i).pin
      rw [same_pin]
      exact only_off.approached (g := g) rfl rfl rfl facts
    | seqTest now i pin | takeSeq now i pin =>
      exact only_off.approached (g := g) rfl rfl rfl facts
    | takeBaseline now i pin => exact ⟨facts.1, only_off.alone facts.2.1, only_off.kept facts.2.2⟩
    | compareLevel now i pin =>
      refine ⟨only_off.approached (g := g) rfl rfl rfl facts.1, fun untouched => ?_⟩
      obtain ⟨active, _, eq⟩ := slots i
      rw [eq]
      exact facts.2 untouched
    | changeTest now i pin rising | directionTest now i pin rising =>
      intro untouched
      obtain ⟨active, _, eq⟩ := slots i
      rw [eq]
      exact facts untouched
    | debounceTest | bumpCount => exact facts
    | _ => trivial

/-- An arm of `p` puts a stamp into its slot that the slot has not seen. -/
structure Armed (e e' : EventState) (g g' : Watchlog) (p : Nat) (edge : EdgeMode) : Prop where
  arms : e.Arms p
  slot : ∃ w, e'.watch = Function.update e.watch (e.armSlot p) w ∧ w.pin = p ∧ w.edgeMode = edge ∧
    w.seenSeq = (e.watch (e.armSlot p)).seenSeq ∧ w.seenSeq ≠ w.armSeq
  noted : g' = g.arm (e.armSlot p) p edge

variable {edge : EdgeMode}

theorem Armed.other (h : Armed e e' g g' p edge) (other : i ≠ e.armSlot p) :
    e'.watch i = e.watch i := by
  obtain ⟨w, eq, _⟩ := h.slot
  rw [eq, Function.update_of_ne other]

theorem Armed.fresh (h : Armed e e' g g' p edge) :
    (e'.watch (e.armSlot p)).seenSeq ≠ (e'.watch (e.armSlot p)).armSeq := by
  obtain ⟨w, eq, _, _, _, fresh⟩ := h.slot
  rw [eq, Function.update_self]
  exact fresh

theorem Armed.at_pin (h : Armed e e' g g' p edge) : (e'.watch (e.armSlot p)).pin = p := by
  obtain ⟨w, eq, at_pin, _⟩ := h.slot
  rw [eq, Function.update_self]
  exact at_pin

theorem Armed.alone (armed : Armed e e' g g' p edge) (h : e.Alone i pin) : e'.Alone i pin := by
  intro j inside other on at_pin
  by_cases here : j = e.armSlot p
  · subst j
    exact armed.fresh
  · rw [armed.other here] at on at_pin ⊢
    exact h j inside other on at_pin

theorem Armed.kept (armed : Armed e e' g g' p edge) (h : e.Kept i pin) : e'.Kept i pin := by
  intro seen
  by_cases here : i = e.armSlot p
  · subst i
    exact absurd seen armed.fresh
  · rw [armed.other here] at seen ⊢
    exact h seen

/-- A slot and a pin that an arm leaves untouched. -/
theorem Armed.untouched (armed : Armed e e' g g' p edge) (h : g'.Untouched i pin) :
    i ≠ e.armSlot p ∧ pin ≠ p ∧ g.Untouched i pin := by
  rw [armed.noted] at h
  obtain ⟨other_slot, other_pin⟩ := h (e.armSlot p, p) (List.mem_cons_self ..)
  exact ⟨Ne.symm other_slot, Ne.symm other_pin, fun a inside => h a (List.mem_cons_of_mem _ inside)⟩

theorem Armed.approached (armed : Armed e e' g g' p edge) (h : Approached e g i pin) :
    Approached e' g' i pin := by
  refine ⟨h.inside, armed.alone h.alone, armed.kept h.kept, fun untouched => ?_⟩
  obtain ⟨other_slot, other_pin, before⟩ := armed.untouched untouched
  obtain ⟨at_pin, mode, level⟩ := h.current before
  refine ⟨?_, ?_, ?_⟩
  · rw [armed.other other_slot]
    exact at_pin
  · rw [armed.other other_slot, armed.noted]
    exact (Function.update_of_ne other_pin ..).trans mode
  · rw [armed.other other_slot, armed.noted]
    intro seen
    exact (congrArg List.head? (Function.update_of_ne other_pin ..)).trans (level seen)

theorem Armed.facts (armed : Armed e e' g g' p edge) (h : pc.Facts e g) : pc.Facts e' g' := by
  cases pc with
  | readPin now i =>
    by_cases here : i = e.armSlot p
    · subst i
      change Approached e' g' _ (e'.watch (e.armSlot p)).pin
      rw [armed.at_pin]
      refine ⟨armed.arms.inside, ?_, fun _ => armed.at_pin, fun untouched => ?_⟩
      · intro j inside other on at_pin
        rw [armed.other other] at on at_pin
        exact absurd at_pin (armed.arms.alone j inside other on)
      · exact absurd rfl (armed.untouched untouched).1
    · change Approached e' g' i (e'.watch i).pin
      rw [armed.other here]
      exact armed.approached h
  | seqTest now i pin | takeSeq now i pin => exact armed.approached h
  | takeBaseline now i pin => exact ⟨h.1, armed.alone h.2.1, armed.kept h.2.2⟩
  | compareLevel now i pin =>
    refine ⟨armed.approached h.1, fun untouched => ?_⟩
    obtain ⟨other_slot, _, before⟩ := armed.untouched untouched
    rw [armed.other other_slot]
    exact h.2 before
  | changeTest now i pin rising | directionTest now i pin rising =>
    intro untouched
    obtain ⟨other_slot, other_pin, before⟩ := armed.untouched untouched
    obtain ⟨mode, older, turned⟩ := h before
    rw [armed.other other_slot, armed.noted]
    exact ⟨(Function.update_of_ne other_pin ..).trans mode, older,
      (Function.update_of_ne other_pin ..).trans turned⟩
  | debounceTest now i pin rising | bumpCount now i pin rising =>
    intro untouched
    obtain ⟨_, other_pin, before⟩ := armed.untouched untouched
    obtain ⟨fits, older, turned⟩ := h before
    rw [armed.noted]
    refine ⟨?_, older, (Function.update_of_ne other_pin ..).trans turned⟩
    exact (congrArg (edgeMatches · rising) (Function.update_of_ne other_pin ..)).trans fits
  | _ => trivial

/-- An arm, at any point of event_poll(). -/
theorem Mirrored.arm {debounceMs : UInt8} (h : Mirrored e g at_pc) (few : g.arms + 1 < 256)
    (arms : e.Arms p) :
    Mirrored (e.perform (.arm p edge debounceMs))
      (EventRequest.noted e g (.arm p edge debounceMs)) at_pc := by
  obtain ⟨watch, serial, _⟩ := perform_arm e p edge debounceMs
  have next : e.armSeq + 1 = UInt8.ofNat (g.arms + 1) := by
    rw [h.serial, UInt8.ofNat_add]
    rfl
  have number : (e.armSeq + 1).toNat = g.arms + 1 := by
    rw [next, UInt8.toNat_ofNat']
    omega
  have taken := h.taken _ arms.inside
  have armed : Armed e (e.perform (.arm p edge debounceMs)) g
      (EventRequest.noted e g (.arm p edge debounceMs)) p edge := by
    refine ⟨arms, ⟨_, watch, rfl, rfl, rfl, fun seen => ?_⟩, rfl⟩
    have := congrArg UInt8.toNat seen
    dsimp only at this
    omega
  refine ⟨serial.trans next, fun i inside => ?_, fun i inside => ?_, fun i inside on => ?_,
    fun i inside rebasing on seen => ?_, h.genuine, fun pc here => armed.facts (h.poll pc here)⟩
  · by_cases here : i = e.armSlot p
    · subst i
      rw [watch, Function.update_self]
      exact Nat.le_of_eq number
    · rw [armed.other here]
      exact Nat.le_succ_of_le (h.armed i inside)
  · by_cases here : i = e.armSlot p
    · subst i
      rw [watch, Function.update_self]
      exact Nat.le_succ_of_le taken
    · rw [armed.other here]
      exact Nat.le_succ_of_le (h.taken i inside)
  · by_cases here : i = e.armSlot p
    · subst i
      rw [watch, Function.update_self]
      exact Function.update_self ..
    · rw [armed.other here] at on ⊢
      exact (Function.update_of_ne (arms.alone i inside here on) ..).trans (h.modes i inside on)
  · by_cases here : i = e.armSlot p
    · subst i
      exact absurd seen armed.fresh
    · rw [armed.other here] at on seen ⊢
      exact (congrArg List.head? (Function.update_of_ne (arms.alone i inside here on) ..)).trans
        (h.levels i inside rebasing on seen)

/-- Steps that leave stamps, levels and watches alone. -/
theorem Mirrored.quiet (h : Mirrored e g (some pc)) (serial : e'.armSeq = e.armSeq)
    (slots : ∀ i, ∃ due count, e'.watch i =
      { e.watch i with debounceUntil := due, count := count })
    (rebasing : ∀ now i pin, pc ≠ .takeBaseline now i pin)
    (same : g'.arms = g.arms ∧ g'.mode = g.mode ∧ g'.levels = g.levels)
    (genuine : ∀ r ∈ g'.reports, r.Genuine) (poll : ∀ pc' ∈ next, pc'.Facts e' g') :
    Mirrored e' g' next := by
  obtain ⟨arms, mode, levels⟩ := same
  refine ⟨by rw [serial, arms, h.serial], fun i inside => ?_, fun i inside => ?_,
    fun i inside on => ?_, fun i inside _ on seen => ?_, genuine, poll⟩
  · obtain ⟨due, count, eq⟩ := slots i
    rw [eq, arms]
    exact h.armed i inside
  · obtain ⟨due, count, eq⟩ := slots i
    rw [eq, arms]
    exact h.taken i inside
  · obtain ⟨due, count, eq⟩ := slots i
    rw [eq] at on ⊢
    rw [mode]
    exact h.modes i inside on
  · obtain ⟨due, count, eq⟩ := slots i
    rw [eq] at on seen ⊢
    rw [levels]
    exact h.levels i inside (fun now pin here => rebasing now i pin (Option.some.inj here)) on seen

/-- A scan of slot `i` for `pin` leaves the level in the slot. -/
theorem Mirrored.scanned (h : Mirrored e g (some pc)) {level : Bool} (inside : i < maxEventPins)
    (alone : e.Alone i pin) (kept : e.Kept i pin)
    (rebasing : ∀ now j pin', pc = .takeBaseline now j pin' → j = i) {due : UInt32} {count : UInt16}
    (same : g'.arms = g.arms ∧ g'.mode = g.mode ∧ g'.reports = g.reports)
    (levels : g'.levels = (g.see pin level).levels)
    (poll : ∀ pc' ∈ next, pc'.Facts (e.setWatch i { e.watch i with
      prevLevel := level, debounceUntil := due, count := count }) g') :
    Mirrored (e.setWatch i { e.watch i with
      prevLevel := level, debounceUntil := due, count := count }) g' next := by
  obtain ⟨arms, mode, reports⟩ := same
  refine ⟨arms ▸ h.serial, fun j below => ?_, fun j below => ?_, fun j below => ?_,
    fun j below _ => ?_, reports ▸ h.genuine, poll⟩
  · rw [arms]
    by_cases here : j = i
    · subst j
      rw [setWatch_watch]
      exact h.armed i inside
    · rw [setWatch_other here]
      exact h.armed j below
  · rw [arms]
    by_cases here : j = i
    · subst j
      rw [setWatch_watch]
      exact h.taken i inside
    · rw [setWatch_other here]
      exact h.taken j below
  · rw [mode]
    by_cases here : j = i
    · subst j
      rw [setWatch_watch]
      exact h.modes i inside
    · rw [setWatch_other here]
      exact h.modes j below
  · rw [levels]
    by_cases here : j = i
    · subst j
      rw [setWatch_watch]
      intro _ seen
      dsimp only at seen ⊢
      rw [kept seen]
      simp only [Watchlog.see, Function.update_self, List.head?_cons]
    · rw [setWatch_other here]
      intro on seen
      have elsewhere : (e.watch j).pin ≠ pin := fun at_pin => alone j below here on at_pin seen
      simp only [Watchlog.see, Function.update_of_ne elsewhere]
      refine h.levels j below (fun now pin' at_pc => here ?_) on seen
      exact rebasing now j pin' (Option.some.inj at_pc)

theorem Approached.start (inv : Invariant b d) (h : Mirrored d.event g at_pc)
    (inside : i < maxEventPins) (on : (d.event.watch i).active = true)
    (rebasing : ∀ now pin, at_pc ≠ some (.takeBaseline now i pin)) :
    Approached d.event { g with recent := [], offs := [] } i (d.event.watch i).pin := by
  refine ⟨inside, fun j below other onj at_pin => ?_, fun _ => rfl, fun _ => ⟨rfl, ?_, ?_⟩⟩
  · exact absurd (inv.watches.distinct j below i inside onj on at_pin) other
  · exact h.modes i inside on
  · exact h.levels i inside rebasing on

/-- The level of a slot against the one just read. -/
theorem Mirrored.compare {now : UInt32} (h : Mirrored d.event g (some (.compareLevel now i pin))) :
    Mirrored (eventStep env d (.compareLevel now i pin)).1 (g.see pin (d.dio pin))
      (eventStep env d (.compareLevel now i pin)).2.1 := by
  obtain ⟨approached, seen⟩ : Approached d.event g i pin ∧
    (g.Untouched i pin → (d.event.watch i).seenSeq = (d.event.watch i).armSeq) := h.poll _ rfl
  simp only [eventStep]
  split
  · rename_i same
    have written : Mirrored (d.event.setWatch i { d.event.watch i with prevLevel := d.dio pin })
        (g.see pin (d.dio pin)) (some (.readActive now (i + 1))) :=
      h.scanned approached.inside approached.alone approached.kept (by simp) ⟨rfl, rfl, rfl⟩ rfl
        (by rintro pc ⟨⟩; trivial)
    rw [same] at written ⊢
    simp only [EventState.setWatch, Function.update_eq_self] at written
    exact written
  · rename_i changed
    refine h.scanned approached.inside approached.alone approached.kept (by simp) ⟨rfl, rfl, rfl⟩ rfl ?_
    rintro pc ⟨⟩
    intro untouched
    obtain ⟨_, mode, level⟩ := approached.current untouched
    have head := level (seen untouched)
    rw [setWatch_watch]
    exact ⟨mode, Watchlog.see_turned head changed⟩

theorem edgeMatches_change (rising : Bool) : edgeMatches .change rising = true := by
  unfold edgeMatches
  rfl

theorem edgeMatches_edgeOf (rising : Bool) : edgeMatches (edgeOf rising) rising = true := by
  cases rising <;> rfl

theorem Watchlog.untouched_of_calm {now : UInt32}
    (calm : (EventPc.bumpCount now i pin rising).overtaken e g = false) :
    g.Untouched i pin := by
  intro a inside
  have off := List.any_eq_false.mp calm a inside
  simpa using off

theorem eventStep_mirrored (env : Env) (inv : Invariant b d) (calm : pc.overtaken d.event g = false)
    (h : Mirrored d.event g (some pc)) :
    Mirrored (eventStep env d pc).1 (pc.noted d g) (eventStep env d pc).2.1 := by
  have here : pc.Facts d.event g := h.poll pc rfl
  have still : ∀ i, ∃ due count, d.event.watch i =
      { d.event.watch i with debounceUntil := due, count := count } := fun i => ⟨_, _, rfl⟩
  cases pc with
  | readClock =>
    refine h.quiet rfl still (by simp) ⟨rfl, rfl, rfl⟩ h.genuine ?_
    simp only [eventStep]
    split <;> rintro next ⟨⟩
    trivial
  | readActive now i =>
    simp only [eventStep]
    split
    · rename_i inside
      refine h.quiet rfl still (by simp) ⟨rfl, rfl, rfl⟩ h.genuine ?_
      split
      · rename_i on
        rintro next ⟨⟩
        exact Approached.start inv h inside on (by simp)
      · rintro next ⟨⟩
        trivial
    · exact h.quiet rfl still (by simp) ⟨rfl, rfl, rfl⟩ h.genuine (by simp)
  | readPin now i =>
    refine h.quiet rfl still (by simp) ⟨rfl, rfl, rfl⟩ h.genuine ?_
    rintro next ⟨⟩
    exact here
  | seqTest now i pin =>
    have approached : Approached d.event g i pin := here
    refine h.quiet rfl still (by simp) ⟨rfl, rfl, rfl⟩ h.genuine ?_
    simp only [eventStep]
    split
    · rintro next ⟨⟩
      exact approached
    · rename_i seen
      rintro next ⟨⟩
      exact ⟨approached, fun _ => not_not.mp seen⟩
  | takeSeq now i pin =>
    obtain ⟨inside, alone, _, _⟩ := here
    have at_pin : (d.event.watch i).pin = pin := by simpa [EventPc.overtaken] using calm
    refine ⟨h.serial, fun j below => ?_, fun j below => ?_, fun j below => ?_,
      fun j below => ?_, h.genuine, ?_⟩
    · by_cases same : j = i
      · subst j
        simp only [eventStep, setWatch_watch]
        exact h.armed i inside
      · simp only [eventStep, setWatch_other same]
        exact h.armed j below
    · by_cases same : j = i
      · subst j
        simp only [eventStep, setWatch_watch]
        exact h.armed i inside
      · simp only [eventStep, setWatch_other same]
        exact h.taken j below
    · by_cases same : j = i
      · subst j
        simp only [eventStep, setWatch_watch]
        exact h.modes i inside
      · simp only [eventStep, setWatch_other same]
        exact h.modes j below
    · by_cases same : j = i
      · subst j
        intro rebasing
        exact absurd rfl (rebasing now pin)
      · simp only [eventStep, setWatch_other same]
        intro _ on seen
        exact h.levels j below (by simp) on seen
    · rintro next ⟨⟩
      refine ⟨inside, fun j below other => ?_, fun _ => ?_⟩
      · simp only [eventStep, setWatch_other other]
        exact alone j below other
      · simp only [eventStep, setWatch_watch]
        exact at_pin
  | takeBaseline now i pin =>
    obtain ⟨inside, alone, kept⟩ := here
    refine h.scanned inside alone kept ?_ ⟨rfl, rfl, rfl⟩ rfl ?_
    · rintro now' j pin' ⟨⟩
      rfl
    · rintro next ⟨⟩
      trivial
  | compareLevel now i pin => exact h.compare
  | changeTest now i pin rising =>
    refine h.quiet rfl still (by simp) ⟨rfl, rfl, rfl⟩ h.genuine ?_
    simp only [eventStep]
    split
    · rename_i change
      rintro next ⟨⟩
      intro untouched
      obtain ⟨mode, turned⟩ := here untouched
      refine ⟨?_, turned⟩
      rw [change] at mode
      exact mode ▸ edgeMatches_change rising
    · rintro next ⟨⟩
      exact here
  | directionTest now i pin rising =>
    refine h.quiet rfl still (by simp) ⟨rfl, rfl, rfl⟩ h.genuine ?_
    simp only [eventStep]
    split
    · rename_i wanted
      rintro next ⟨⟩
      intro untouched
      obtain ⟨mode, turned⟩ := here untouched
      refine ⟨?_, turned⟩
      rw [wanted] at mode
      exact mode ▸ edgeMatches_edgeOf rising
    · rintro next ⟨⟩
      trivial
  | debounceTest now i pin rising =>
    refine h.quiet rfl still (by simp) ⟨rfl, rfl, rfl⟩ h.genuine ?_
    simp only [eventStep]
    split <;> rintro next ⟨⟩
    · trivial
    · exact here
  | bumpCount now i pin rising =>
    obtain ⟨fits, older, turned⟩ := here (Watchlog.untouched_of_calm calm)
    refine h.quiet rfl (setWatch_due d.event i _ _) (by simp) ⟨rfl, rfl, rfl⟩ ?_
      (by rintro next ⟨⟩; trivial)
    intro r inside
    rcases List.mem_cons.mp inside with rfl | before
    · exact ⟨rising, older, turned, rfl, fits⟩
    · exact h.genuine r before
  | openWindow now i pin rising =>
    refine h.quiet rfl (setWatch_due d.event i _ _) (by simp) ⟨rfl, rfl, rfl⟩ h.genuine ?_
    rintro next ⟨⟩
    trivial
  | roomTest | dropTest =>
    simp only [eventStep]
    split <;> refine h.quiet rfl still (by simp) ⟨rfl, rfl, rfl⟩ h.genuine ?_ <;> rintro next ⟨⟩ <;>
      trivial
  | dropLoad | dropStore | fillSlot | bumpHead =>
    refine h.quiet rfl still (by simp) ⟨rfl, rfl, rfl⟩ h.genuine ?_
    rintro next ⟨⟩
    trivial

/-- No step of event_poll() arms a slot. -/
theorem EventPc.noted_arms (pc : EventPc) (d : UsbIoDevice) (g : Watchlog) :
    (pc.noted d g).arms = g.arms := by
  cases pc <;> rfl

/-- With fewer than 256 arms, whatever interrupts event_poll(). -/
theorem Watching.mirrored {r : Machine × Watchlog}
    (reached : Watching b (fun r act => overtaken r act = false) r) (few : r.2.arms < 256) :
    Mirrored r.1.dev.event r.2 r.1.pc.event? := by
  refine (Watching.rule (b := b) (I := fun e g at_pc => g.arms < 256 → Mirrored e g at_pc)
    ?_ ?_ ?_ ?_ reached).1 few
  · exact fun _ => ⟨rfl, fun _ _ => Nat.le_refl _, fun _ _ => Nat.le_refl _,
      fun _ _ on => (by contradiction), fun _ _ _ on => (by contradiction), by simp [Watchlog.empty], by simp⟩
  · intro e g h few
    have outside := h few
    exact ⟨outside.serial, outside.armed, outside.taken, outside.modes,
      fun i inside _ => outside.levels i inside (by simp), outside.genuine, by rintro pc ⟨⟩; trivial⟩
  · intro d g env log pc inv _ calm h few
    rw [pc.noted_arms d g] at few
    exact eventStep_mirrored env inv calm (h few)
  · intro m g env s req _ _ arms h few
    cases unarmed : req.arms with
    | none =>
      obtain ⟨off, offs, noted⟩ := noted_unarmed m.dev.event g unarmed
      rw [noted] at few
      exact (h few).unarmed unarmed
    | some p =>
      cases req with
      | arm pin edge debounceMs =>
        have before : g.arms + 1 < 256 := few
        exact (h (Nat.lt_of_succ_lt before)).arm before (arms pin edge debounceMs rfl)
      | _ => contradiction

/-- Only an EVENT_CONFIG accepted since poll() read `active` of the slot overtakes its scan. -/
theorem overtaken_interrupted {m : Machine} {act : Act}
    (reached : Watching b (fun r act => overtaken r act = false) (m, g)) (few : g.arms < 256)
    (overtakes : overtaken (m, g) act = true) : g.recent ≠ [] ∨ g.offs ≠ [] := by
  have mirrored : Mirrored m.dev.event g m.pc.event? := Watching.mirrored reached few
  by_contra calm
  obtain ⟨no_arms, no_offs⟩ : g.recent = [] ∧ g.offs = [] := by simpa [not_or] using calm
  obtain ⟨d, pc, log⟩ := m
  cases act with
  | loop env =>
    cases pc with
    | event pc =>
      have facts := mirrored.poll pc rfl
      cases pc with
      | takeSeq now i pin =>
        have untouched : g.Untouched i pin := by
          unfold Watchlog.Untouched
          rw [no_arms]
          simp
        have at_pin := (facts.current untouched).at_pin
        have moved : (d.event.watch i).pin ≠ pin := by
          simpa [overtaken, EventPc.overtaken] using overtakes
        exact moved at_pin
      | bumpCount now i pin rising => simp [overtaken, EventPc.overtaken, no_arms] at overtakes
      | bumpHead now i ev => simp [overtaken, EventPc.overtaken, no_offs] at overtakes
      | _ => contradiction
    | _ => contradiction
  | _ => contradiction

end ArduinoDriver
