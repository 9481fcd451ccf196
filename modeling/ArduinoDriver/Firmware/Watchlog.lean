import ArduinoDriver.Firmware.EventRing
import ArduinoDriver.Firmware.Turns
import ArduinoDriver.Lib.History

namespace ArduinoDriver

/-- An accepted edge: the event made of it, the levels its pin had been scanned at since
the latest arm of the pin, newest first, and the mode of that arm. -/
structure Report where
  event : UsbioEvent
  levels : List Bool
  mode : EdgeMode
  deriving DecidableEq, Repr

/-- What the requests and scans of a run have done to the watches. Arms are numbered from 1
on over the whole device. -/
structure Watchlog where
  arms : Nat
  /-- By slot: its latest arm, and the arm whose stamp event_poll() last took over. -/
  armedAt : Nat → Nat
  takenAt : Nat → Nat
  /-- By slot: edges accepted since its last baseline, and how many of them were there at
  its latest arm. -/
  bumps : Nat → Nat
  stale : Nat → Nat
  /-- By pin: the mode of its latest arm, and since then the levels scanned and the number
  of edges accepted. -/
  mode : Nat → EdgeMode
  levels : Nat → List Bool
  edges : Nat → Nat
  /-- By pin: whether an OFF of the watched pin came after its latest arm. -/
  off : Nat → Bool
  /-- The slots and pins armed, and the pins switched off, since event_poll() last read an
  `active`. -/
  recent : List (Nat × Nat)
  offs : List Nat
  reports : List Report

namespace Watchlog

def empty : Watchlog where
  arms := 0
  armedAt := fun _ => 0
  takenAt := fun _ => 0
  bumps := fun _ => 0
  stale := fun _ => 0
  mode := fun _ => .off
  levels := fun _ => []
  edges := fun _ => 0
  off := fun _ => false
  recent := []
  offs := []
  reports := []

def arm (g : Watchlog) (i pin : Nat) (edge : EdgeMode) : Watchlog :=
  { g with
    arms := g.arms + 1
    armedAt := Function.update g.armedAt i (g.arms + 1)
    stale := Function.update g.stale i (g.bumps i)
    mode := Function.update g.mode pin edge
    levels := Function.update g.levels pin []
    edges := Function.update g.edges pin 0
    off := Function.update g.off pin false
    recent := (i, pin) :: g.recent }

/-- A scan found `pin` at `level`. -/
def see (g : Watchlog) (pin : Nat) (level : Bool) : Watchlog :=
  { g with levels := Function.update g.levels pin (level :: g.levels pin) }

/-- Slot `i` accepted an edge. -/
def accept (g : Watchlog) (i : Nat) (ev : UsbioEvent) : Watchlog :=
  { g with
    bumps := Function.update g.bumps i (g.bumps i + 1)
    edges := Function.update g.edges ev.pin (g.edges ev.pin + 1)
    reports := ⟨ev, g.levels ev.pin, g.mode ev.pin⟩ :: g.reports }

end Watchlog

/-- The slot EVENT_CONFIG arms for a pin. -/
def EventState.armSlot (e : EventState) (pin : Nat) : Nat := (e.watchIndex pin).getD e.freeSlot

/-- What a request adds to the history. -/
def EventRequest.noted (e : EventState) (g : Watchlog) : EventRequest → Watchlog
  | .arm pin edge _ => g.arm (e.armSlot pin) pin edge
  | .off pin =>
    if (e.watchIndex pin).isSome then
      { g with off := Function.update g.off pin true, offs := pin :: g.offs }
    else g
  | .pop _ | .clear | .leave _ => g

/-- What a step of event_poll() adds. -/
def EventPc.noted (d : UsbIoDevice) (g : Watchlog) : EventPc → Watchlog
  | .readActive .. => { g with recent := [], offs := [] }
  | .takeSeq _ i _ => { g with takenAt := Function.update g.takenAt i (g.armedAt i) }
  | .takeBaseline _ i pin =>
    { g.see pin (d.dio pin) with
      bumps := Function.update g.bumps i 0
      stale := Function.update g.stale i 0 }
  | .compareLevel _ _ pin => g.see pin (d.dio pin)
  | .bumpCount now i pin rising =>
    g.accept i ⟨pin, edgeOf rising, (d.event.watch i).count + 1, now⟩
  | _ => g

/-- The history along a run. -/
def watchlog (b : Board) (m : Machine) (act : Act) (g : Watchlog) : Watchlog :=
  match act with
  | .setup env s =>
    ((s.obs (handleSetup b env m.dev s).2).eventRequest.map (·.noted m.dev.event g)).getD g
  | .disconnect => g
  | .loop _ => match m.pc with
    | .event pc => pc.noted m.dev g
    | _ => g

/-- A run with the history of its watches. -/
abbrev Watching (b : Board) (guard : Machine × Watchlog → Act → Prop) :
    Machine × Watchlog → Prop :=
  Lib.Reach (Lib.recording (step b) (watchlog b)) guard (boot b, .empty)

/-- Where poll() stands in event_poll(). -/
def Pc.event? : Pc → Option EventPc
  | .event pc => some pc
  | _ => none

/-- Slot `i` watches `pin`. -/
structure EventState.Watches (e : EventState) (i pin : Nat) : Prop where
  inside : i < maxEventPins
  on : (e.watch i).active = true
  at_pin : (e.watch i).pin = pin

/-- As long as no request comes in between, poll() scans the slot of the pin it has read. -/
def EventPc.Aligned (e : EventState) : EventPc → Prop
  | .readPin _ i => i < maxEventPins ∧ (e.watch i).active = true
  | .seqTest _ i pin | .takeSeq _ i pin | .takeBaseline _ i pin | .compareLevel _ i pin
  | .changeTest _ i pin _ | .directionTest _ i pin _ | .debounceTest _ i pin _
  | .bumpCount _ i pin _ => e.Watches i pin
  | _ => True

/-- The slot of an arm is the pin's own or a free one, and the pin has no other. -/
structure EventState.Arms (e : EventState) (pin : Nat) : Prop where
  inside : e.armSlot pin < maxEventPins
  alone : ∀ j < maxEventPins, j ≠ e.armSlot pin → (e.watch j).active → (e.watch j).pin ≠ pin

variable {b : Board} {env : Env} {d d' : UsbIoDevice} {o : Obs} {m : Machine} {e : EventState}
  {g : Watchlog} {pin i : Nat} {edge : EdgeMode} {debounceMs : UInt8} {req : EventRequest}
  {guard : Machine × Watchlog → Act → Prop}

theorem WatchTable.arms {nPins : Nat} {caps : Nat → UInt8} {mode : Nat → Option PinMode}
    (h : WatchTable nPins caps mode e.watch e.nWatched)
    (placed : e.watchIndex pin ≠ none ∨ e.nWatched.toNat < maxEventPins) : e.Arms pin := by
  cases found : e.watchIndex pin with
  | some i =>
    obtain ⟨inside, on, at_pin⟩ := EventState.watchIndex_eq_some found
    have slot : e.armSlot pin = i := by
      unfold EventState.armSlot
      rw [found]
      rfl
    refine ⟨slot ▸ inside, fun j below other onj at_pinj => ?_⟩
    exact other (slot ▸ h.distinct j below i inside onj on (at_pinj.trans at_pin.symm))
  | none =>
    obtain ⟨_, inside, _⟩ := h.freeSlot (placed.resolve_left (not_not.mpr found))
    have slot : e.armSlot pin = e.freeSlot := by
      unfold EventState.armSlot
      rw [found]
      rfl
    exact ⟨slot ▸ inside, fun j below _ => EventState.watchIndex_eq_none.mp found j below⟩

/-- An accepted arm has a slot. -/
theorem Served.arms (served : Served b env d d' o)
    (table : WatchTable d.nPins d.caps d.mode d.event.watch d.event.nWatched)
    (asked : o.eventRequest = some (.arm pin edge debounceMs)) : d.event.Arms pin := by
  cases served with
  | rearmed index value i edge' known _ _ found named on =>
    simp only [Obs.eventRequest, named, Option.map_some, if_neg on, Option.some.injEq,
      EventRequest.arm.injEq] at asked
    obtain ⟨rfl, _⟩ := asked
    exact table.arms (.inl (by rw [found]; simp))
  | armed index value edge' known _ _ _ room named on =>
    simp only [Obs.eventRequest, named, Option.map_some, if_neg on, Option.some.injEq,
      EventRequest.arm.injEq] at asked
    obtain ⟨rfl, _⟩ := asked
    exact table.arms (.inr room)
  | unwatched index value i found off =>
    simp only [Obs.eventRequest, off, Option.map_some, if_true] at asked
    exact absurd (Option.some.inj asked) (by simp)
  | unchanged req' index value settled silent =>
    rcases settled with rfl | rfl
    · contradiction
    · simp only [Obs.eventRequest, (silent rfl).1, Option.map_some, if_true] at asked
      exact absurd (Option.some.inj asked) (by simp)
  | moded index value mode named =>
    simp only [Obs.eventRequest, named, Option.bind_some] at asked
    split at asked
    · contradiction
    · exact absurd (Option.some.inj asked) (by simp)
  | written req' mode index value writes =>
    cases req' <;> contradiction
  | read req' =>
    cases req' with
    | eventPop => exact absurd (Option.some.inj asked) (by simp)
    | _ => contradiction
  | popped | reset => exact absurd (Option.some.inj asked) (by simp)
  | _ => contradiction

/-- An arm writes one slot and takes the next number. -/
theorem perform_arm (e : EventState) (pin : Nat) (edge : EdgeMode) (debounceMs : UInt8) :
    (e.perform (.arm pin edge debounceMs)).watch =
      Function.update e.watch (e.armSlot pin) { e.watch (e.armSlot pin) with
        pin := pin, edgeMode := edge, debounceMs := debounceMs, armSeq := e.armSeq + 1
        active := true } ∧
    (e.perform (.arm pin edge debounceMs)).armSeq = e.armSeq + 1 ∧
    (e.perform (.arm pin edge debounceMs)).head = e.head ∧
    (e.perform (.arm pin edge debounceMs)).ring = e.ring := by
  unfold EventState.armSlot
  simp only [EventState.perform]
  cases e.watchIndex pin <;> exact ⟨rfl, rfl, rfl, rfl⟩

/-- The other requests switch slots off at most. -/
theorem perform_unarmed (e : EventState) (unarmed : req.arms = none) :
    (e.perform req).armSeq = e.armSeq ∧ (e.perform req).head = e.head ∧
    ∀ i, ∃ on, (on = true → (e.watch i).active = true) ∧
      (e.perform req).watch i = { e.watch i with active := on } := by
  have same : ∀ i, ∃ on, (on = true → (e.watch i).active = true) ∧
      e.watch i = { e.watch i with active := on } := fun i => ⟨_, id, rfl⟩
  have cleared : ∀ i j, ∃ on, (on = true → (e.watch j).active = true) ∧
      (e.unwatch i).watch j = { e.watch j with active := on } := by
    intro i j
    by_cases here : j = i
    · subst j
      exact ⟨false, by simp, Function.update_self ..⟩
    · obtain ⟨on, kept, eq⟩ := same j
      exact ⟨on, kept, (Function.update_of_ne here ..).trans eq⟩
  cases req with
  | pop index => exact ⟨rfl, rfl, same⟩
  | clear =>
    refine ⟨rfl, rfl, fun i => ?_⟩
    simp only [EventState.perform, EventState.clear]
    split
    · exact ⟨false, by simp, rfl⟩
    · exact same i
  | off pin | leave pin =>
    simp only [EventState.perform]
    cases e.watchIndex pin with
    | none => exact ⟨rfl, rfl, same⟩
    | some i => exact ⟨rfl, rfl, cleared i⟩
  | arm pin edge debounceMs => contradiction

/-- A scan that finds another level than the one before. -/
theorem Watchlog.see_turned {prev level : Bool} (head : (g.levels pin).head? = some prev)
    (changed : level ≠ prev) :
    ∃ older, (g.see pin level).levels pin = level :: (!level) :: older := by
  simp only [Watchlog.see, Function.update_self]
  cases scans : g.levels pin with
  | nil =>
    rw [scans] at head
    contradiction
  | cons last older =>
    rw [scans] at head
    obtain rfl := Option.some.inj head
    refine ⟨older, ?_⟩
    cases level <;> cases last <;> first | rfl | exact absurd rfl changed

theorem noted_unarmed (e : EventState) (g : Watchlog) (unarmed : req.arms = none) :
    ∃ off offs, req.noted e g = { g with off := off, offs := offs } := by
  cases req with
  | arm => contradiction
  | off pin =>
    simp only [EventRequest.noted]
    split <;> exact ⟨_, _, rfl⟩
  | _ => exact ⟨_, _, rfl⟩

theorem loopStep_eventPc (b : Board) (env : Env) (m : Machine) (other : m.pc.event? = none) :
    (loopStep b env m).pc.event? = none ∨ (loopStep b env m).pc.event? = some .readClock := by
  obtain ⟨d, pc, log⟩ := m
  cases pc with
  | idle => exact .inl rfl
  | drain pc =>
    simp only [loopStep]
    cases (drainStep b env d pc).2.1 <;> exact .inl rfl
  | shadow pc =>
    simp only [loopStep]
    cases (shadowStep env d pc).2 with
    | none => exact .inr rfl
    | some next => exact .inl rfl
  | event pc => contradiction
  | stream pc =>
    simp only [loopStep]
    cases (streamStep b env d pc).2.1 <;> exact .inl rfl

theorem loopStep_eventStep (b : Board) (env : Env) {pc : EventPc} (at_pc : m.pc = .event pc) :
    (loopStep b env m).dev.event = (eventStep env m.dev pc).1 ∧
    (loopStep b env m).pc.event? = (eventStep env m.dev pc).2.1 := by
  obtain ⟨d, pc', log⟩ := m
  obtain rfl : pc' = .event pc := at_pc
  refine ⟨rfl, ?_⟩
  simp only [loopStep]
  cases (eventStep env d pc).2.1 with
  | none =>
    simp only [Option.map_none, Option.getD_none, afterEvent]
    split <;> rfl
  | some next => rfl

/-- The rule for what holds of the event fields, their history and the place in event_poll()
in every state of a run. -/
theorem Watching.rule {I : EventState → Watchlog → Option EventPc → Prop}
    (start : I .init .empty none) (enter : ∀ {e g}, I e g none → I e g (some .readClock))
    (scan : ∀ {d g env log} {pc : EventPc}, Invariant b d → pc.Ok d.event →
      guard (⟨d, .event pc, log⟩, g) (.loop env) → I d.event g (some pc) →
      I (eventStep env d pc).1 (pc.noted d g) (eventStep env d pc).2.1)
    (serve : ∀ {m g env s req}, m.Ok b → guard (m, g) (.setup env s) →
      (∀ pin edge debounceMs, req = .arm pin edge debounceMs → m.dev.event.Arms pin) →
      I m.dev.event g m.pc.event? →
      I (m.dev.event.perform req) (req.noted m.dev.event g) m.pc.event?)
    {r : Machine × Watchlog} (reached : Watching b guard r) :
    I r.1.dev.event r.2 r.1.pc.event? ∧ r.1.Ok b := by
  refine reached.invariant (I := fun r => I r.1.dev.event r.2 r.1.pc.event? ∧ r.1.Ok b) ?_ ?_
  · obtain ⟨caps, nAin, eq, _⟩ := boot_dev b
    refine ⟨?_, boot_ok b⟩
    dsimp only
    rw [eq]
    exact start
  · rintro ⟨m, g⟩ act ⟨h, ok⟩ allowed
    refine ⟨?_, step_ok act ok⟩
    cases act with
    | disconnect => exact h
    | setup env s =>
      have served := handleSetup_served b env m.dev s
      have event := served.event
      have arms : ∀ pin edge debounceMs,
          (s.obs (handleSetup b env m.dev s).2).eventRequest = some (.arm pin edge debounceMs) →
          m.dev.event.Arms pin := fun _ _ _ asked => served.arms ok.dev.watches asked
      change I (handleSetup b env m.dev s).1.event (watchlog b m (.setup env s) g) m.pc.event?
      unfold watchlog
      dsimp only
      generalize s.obs (handleSetup b env m.dev s).2 = o at event arms
      rw [event]
      cases asked : o.eventRequest with
      | none => exact h
      | some req =>
        refine serve ok allowed ?_ h
        rintro pin edge debounceMs rfl
        exact arms pin edge debounceMs asked
    | loop env =>
      cases at_pc : m.pc.event? with
      | some pc =>
        obtain ⟨d, pc', log⟩ := m
        obtain rfl : pc' = .event pc := by
          cases pc' <;> first | contradiction | exact congrArg _ (Option.some.inj at_pc)
        obtain ⟨fields, place⟩ := @loopStep_eventStep ⟨d, .event pc, log⟩ b env pc rfl
        change I (loopStep b env ⟨d, .event pc, log⟩).dev.event (pc.noted d g)
          (loopStep b env ⟨d, .event pc, log⟩).pc.event?
        rw [fields, place]
        exact scan ok.dev ok.pc allowed h
      | none =>
        have outside : ∀ pc, m.pc ≠ .event pc := by
          intro pc eq
          rw [eq] at at_pc
          contradiction
        have kept : watchlog b m (.loop env) g = g := by
          unfold watchlog
          dsimp only
          split
          · rename_i pc eq
            exact absurd eq (outside pc)
          · rfl
        change I (loopStep b env m).dev.event (watchlog b m (.loop env) g)
          (loopStep b env m).pc.event?
        rw [kept, loopStep_event_frame b env m outside]
        rw [at_pc] at h
        rcases loopStep_eventPc b env m at_pc with idle | enters
        · rw [idle]
          exact h
        · rw [enters]
          exact enter h

theorem setWatch_other {w : EventWatch} {j : Nat} (other : j ≠ i) :
    (e.setWatch i w).watch j = e.watch j := Function.update_of_ne other ..

/-- A slot's counter and window written. -/
theorem setWatch_due (e : EventState) (i : Nat) (due : UInt32) (count : UInt16) (j : Nat) :
    ∃ due' count', (e.setWatch i { e.watch i with debounceUntil := due, count := count }).watch j =
      { e.watch j with debounceUntil := due', count := count' } := by
  by_cases here : j = i
  · subst j
    exact ⟨due, count, setWatch_watch ..⟩
  · exact ⟨_, _, setWatch_other here⟩

/-- No other slot watches the pin of a slot. -/
theorem EventState.Watches.alone (h : d.event.Watches i pin) (inv : Invariant b d) :
    ∀ j < maxEventPins, j ≠ i → (d.event.watch j).active = true → (d.event.watch j).pin ≠ pin := by
  intro j inside other on same
  exact other (inv.watches.distinct j inside i h.inside on h.on (same.trans h.at_pin.symm))

theorem EventState.Watches.setWatch {w : EventWatch} (h : e.Watches i pin)
    (on : w.active = (e.watch i).active) (at_pin : w.pin = (e.watch i).pin) :
    (e.setWatch i w).Watches i pin := by
  refine ⟨h.inside, ?_, ?_⟩
  · rw [setWatch_watch, on, h.on]
  · rw [setWatch_watch, at_pin, h.at_pin]

theorem eventStep_aligned (env : Env) {pc : EventPc} (h : pc.Aligned d.event) :
    ∀ next ∈ (eventStep env d pc).2.1, next.Aligned (eventStep env d pc).1 := by
  cases pc with
  | readClock =>
    simp only [eventStep]
    split <;> rintro next ⟨⟩
    trivial
  | readActive now i =>
    simp only [eventStep]
    split
    · rename_i inside
      split
      · rename_i on
        rintro next ⟨⟩
        exact ⟨inside, on⟩
      · rintro next ⟨⟩
        trivial
    · simp
  | readPin now i =>
    rintro next ⟨⟩
    exact ⟨h.1, h.2, rfl⟩
  | takeSeq now i pin =>
    rintro next ⟨⟩
    exact h.setWatch rfl rfl
  | compareLevel now i pin =>
    simp only [eventStep]
    split
    · rintro next ⟨⟩
      trivial
    · rintro next ⟨⟩
      exact h.setWatch rfl rfl
  | seqTest | changeTest =>
    simp only [eventStep]
    split <;> rintro next ⟨⟩ <;> exact h
  | directionTest | debounceTest =>
    simp only [eventStep]
    split <;> rintro next ⟨⟩
    all_goals first | exact h | trivial
  | roomTest | dropTest =>
    simp only [eventStep]
    split <;> rintro next ⟨⟩ <;> trivial
  | takeBaseline | bumpCount | openWindow | dropLoad | dropStore | fillSlot | bumpHead =>
    rintro next ⟨⟩
    trivial

/-- The rule for runs whose requests arrive between polls. -/
theorem Watching.between_rule {I : EventState → Watchlog → Option EventPc → Prop}
    (between : ∀ r act, guard r act → betweenPolls r.1 act)
    (start : I .init .empty none) (enter : ∀ {e g}, I e g none → I e g (some .readClock))
    (scan : ∀ {d g env log} {pc : EventPc}, Invariant b d → pc.Aligned d.event →
      guard (⟨d, .event pc, log⟩, g) (.loop env) → I d.event g (some pc) →
      I (eventStep env d pc).1 (pc.noted d g) (eventStep env d pc).2.1)
    (serve : ∀ {e g req}, (∀ pin edge debounceMs, req = .arm pin edge debounceMs → e.Arms pin) →
      I e g none → I (e.perform req) (req.noted e g) none)
    {r : Machine × Watchlog} (reached : Watching b guard r) :
    I r.1.dev.event r.2 r.1.pc.event? ∧
      (∀ pc ∈ r.1.pc.event?, pc.Aligned r.1.dev.event) ∧ r.1.Ok b := by
  have both := @Watching.rule b guard (fun e g at_pc => I e g at_pc ∧ ∀ pc ∈ at_pc, pc.Aligned e)
    ⟨start, by simp⟩ (fun h => ⟨enter h.1, by rintro pc ⟨⟩; trivial⟩) ?_ ?_ r reached
  · exact ⟨both.1.1, both.1.2, both.2⟩
  · rintro d g env log pc inv _ allowed ⟨h, aligned⟩
    exact ⟨scan inv (aligned pc rfl) allowed h, eventStep_aligned env (aligned pc rfl)⟩
  · rintro m g env s req _ allowed arms ⟨h, _⟩
    have idle : m.pc = .idle := between (m, g) _ allowed
    have outside : m.pc.event? = none := by
      rw [idle]
      rfl
    rw [outside] at h ⊢
    exact ⟨serve arms h, by simp⟩

end ArduinoDriver
