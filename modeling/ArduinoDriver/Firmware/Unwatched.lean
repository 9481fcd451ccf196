import ArduinoDriver.Firmware.Accounts
import ArduinoDriver.Firmware.EventCounts

namespace ArduinoDriver

/-- The step is no request answered in a way that ends what is told. -/
def refrains (ends : Obs → Bool) (b : Board) (m : Machine) : Act → Prop
  | .setup env s => ends (s.obs (handleSetup b env m.dev s).2) = false
  | .disconnect | .loop _ => True

instance (ends : Obs → Bool) (b : Board) (m : Machine) (act : Act) : Decidable (refrains ends b m act) :=
  match act with
  | .setup env s => inferInstanceAs (Decidable (ends (s.obs (handleSetup b env m.dev s).2) = false))
  | .disconnect | .loop _ => .isTrue trivial

/-- An EVENT_CONFIG that arms a pin. -/
def Obs.armsPin (o : Obs) : Bool := (o.eventRequest.bind (·.arms)).isSome

/-- The scan is between two slots. -/
def EventPc.between : EventPc → Bool
  | .readClock | .readActive .. => true
  | _ => false

/-- No pin is watched, and event_poll() is not inside a slot. -/
structure Unwatched (m : Machine) : Prop where
  off : ∀ i < maxEventPins, (m.dev.event.watch i).active = false
  place : ∀ pc ∈ m.pc.event?, pc.between = true

variable {b : Board} {env : Env} {m : Machine} {e : EventState} {act : Act}

theorem Unwatched.of_idle (off : ∀ i < maxEventPins, (m.dev.event.watch i).active = false)
    (idle : m.pc = .idle) : Unwatched m := by
  refine ⟨off, fun pc here => ?_⟩
  rw [idle] at here
  contradiction

/-- A slot that watches nothing is passed over. -/
theorem eventStep_between {d : UsbIoDevice} {pc : EventPc}
    (off : ∀ i < maxEventPins, (d.event.watch i).active = false) (between : pc.between = true) :
    (eventStep env d pc).1 = d.event ∧ (eventStep env d pc).2.2 = [] ∧
      ∀ next ∈ (eventStep env d pc).2.1, next.between = true := by
  cases pc with
  | readClock =>
    refine ⟨rfl, rfl, fun next leads => ?_⟩
    simp only [eventStep] at leads
    split at leads
    · contradiction
    · obtain rfl := Option.some.inj leads
      rfl
  | readActive now i =>
    simp only [eventStep]
    split
    · rename_i inside
      rw [off i inside, if_neg Bool.false_ne_true]
      refine ⟨rfl, rfl, ?_⟩
      rintro next ⟨⟩
      rfl
    · exact ⟨rfl, rfl, fun next leads => by contradiction⟩
  | _ => contradiction

theorem Unwatched.scan (h : Unwatched m) {pc : EventPc} (at_pc : m.pc = .event pc) :
    Unwatched (loopStep b env m) ∧ (loopStep b env m).log.edges = m.log.edges := by
  have between : pc.between = true := by
    refine h.place pc ?_
    rw [at_pc]
    rfl
  obtain ⟨event, silent, next⟩ := @eventStep_between env m.dev pc h.off between
  obtain ⟨moved, leads⟩ := loopStep_eventStep b env at_pc
  refine ⟨⟨?_, ?_⟩, ?_⟩
  · rw [moved, event]
    exact h.off
  · rw [leads]
    exact next
  · have log : (loopStep b env m).log = returnLog (loopStep b env m).pc ++ (eventStep env m.dev pc).2.2 ++ m.log := by
      simp only [loopStep, at_pc]
    rw [log, silent, List.append_nil]
    exact edges_quiet _ (returnLog_offEvents _)

theorem Unwatched.loop (h : Unwatched m) :
    Unwatched (loopStep b env m) ∧ (loopStep b env m).log.edges = m.log.edges := by
  cases at_pc : m.pc.event? with
  | some pc =>
    refine h.scan (?_ : m.pc = .event pc)
    cases eq : m.pc with
    | event pc' =>
      rw [eq] at at_pc
      rw [Option.some.inj at_pc]
    | _ =>
      rw [eq] at at_pc
      contradiction
  | none =>
    have other : ∀ pc, m.pc ≠ .event pc := by
      intro pc here
      rw [here] at at_pc
      contradiction
    obtain ⟨_, news, quiet⟩ := loopStep_outside b env m other
    refine ⟨⟨?_, fun pc here => ?_⟩, quiet.edges⟩
    · rw [loopStep_event_frame b env m other]
      exact h.off
    · rcases loopStep_eventPc b env m at_pc with away | enters
      · rw [away] at here
        contradiction
      · rw [enters] at here
        obtain rfl := Option.some.inj here
        rfl

/-- Requests that arm no pin leave no pin watched. -/
theorem perform_off {req : EventRequest} (off : ∀ i < maxEventPins, (e.watch i).active = false)
    (unarmed : req.arms = none) : ∀ i < maxEventPins, ((e.perform req).watch i).active = false := by
  intro i inside
  obtain ⟨on, kept, same⟩ := (perform_unarmed e unarmed).2.2 i
  rw [same]
  by_contra active
  have was := kept (Bool.not_eq_false _ |>.mp active)
  rw [off i inside] at was
  contradiction

theorem step_unwatched (h : Unwatched m) (unarmed : refrains Obs.armsPin b m act) :
    Unwatched (step b m act) ∧ (step b m act).log.edges = m.log.edges := by
  cases act with
  | disconnect => exact ⟨⟨h.off, h.place⟩, edges_append [.disconnected] m.log |>.trans (List.append_nil _)⟩
  | loop env => exact h.loop
  | setup env s =>
    have event := (handleSetup_served b env m.dev s).event
    have silent := s.obs_edge (handleSetup b env m.dev s).2
    change Obs.armsPin _ = false at unarmed
    simp only [step, setupStep]
    generalize s.obs (handleSetup b env m.dev s).2 = o at event silent unarmed ⊢
    refine ⟨⟨?_, h.place⟩, ?_⟩
    · change ∀ i < maxEventPins, ((handleSetup b env m.dev s).1.event.watch i).active = false
      rw [event]
      unfold Obs.armsPin at unarmed
      cases asked : o.eventRequest with
      | none => exact h.off
      | some req =>
        rw [asked] at unarmed
        exact perform_off h.off (Option.not_isSome_iff_eq_none.mp (by simpa using unarmed))
    · rw [Log.edges, List.reverse_cons, List.filterMap_append, List.filterMap_cons, silent]
      exact List.append_nil _

/-- EVENT_COUNTS lists no pin. -/
theorem Unwatched.counts (h : Unwatched m) : m.dev.event.countsBytes = eventHeader 0 0 0 := by
  have none_on : (List.range maxEventPins).filter (fun i => (m.dev.event.watch i).active) = [] := by
    refine List.filter_eq_nil_iff.mpr (fun i inside on => ?_)
    rw [h.off i (List.mem_range.mp inside)] at on
    contradiction
  unfold EventState.countsBytes EventState.armOrder
  rw [none_on]
  rfl

/-- A listing of no pin is that of an empty table. -/
theorem EventState.countsBytes_none (listed : e.countsBytes = eventHeader 0 0 0) :
    ∀ i < maxEventPins, (e.watch i).active = false := by
  have length : 4 + e.armOrder.length * 4 = 4 := by
    simpa [EventState.countsBytes] using congrArg List.length listed
  intro i inside
  by_contra active
  have on : i ∈ (List.range maxEventPins).filter (fun i => (e.watch i).active) :=
    List.mem_filter.mpr ⟨List.mem_range.mpr inside, Bool.not_eq_false _ |>.mp active⟩
  have some_ := List.length_pos_of_mem ((armOrder_perm e).mem_iff.mpr on)
  omega

end ArduinoDriver
