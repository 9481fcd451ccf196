import ArduinoDriver.Firmware.FullCapacity
import ArduinoDriver.Firmware.GenuineEvents

namespace ArduinoDriver

/-- How many edges push_event() has found room for. -/
def Log.arrivals (log : Log) : Nat := log.edges.countP (·.2)

/-- A step that no request about the events makes. -/
def edgesOnly (b : Board) (m : Machine) : Act → Prop
  | .setup env s => (s.obs (handleSetup b env m.dev s).2).eventRequest = none
  | .loop _ | .disconnect => True

instance (b : Board) (m : Machine) : (act : Act) → Decidable (edgesOnly b m act)
  | .setup env s =>
    inferInstanceAs (Decidable ((s.obs (handleSetup b env m.dev s).2).eventRequest = none))
  | .loop _ | .disconnect => inferInstanceAs (Decidable True)

/-- What holds of every state a board can be in, as far as the event ring goes. -/
structure Machine.Arriving (b : Board) (m : Machine) : Prop where
  ok : m.Ok b
  known : m.Known
  filled : m.pc.Filled m.dev.event

variable {b : Board} {env : Env} {m : Machine} {log news : Log} {d : UsbIoDevice}

theorem arrivals_append (news log : Log) : Log.arrivals (news ++ log) = log.arrivals + Log.arrivals news := by
  unfold Log.arrivals
  rw [edges_append, List.countP_append]

theorem arrivals_quiet (quiet : ∀ o ∈ news, o.offEvents) : Log.arrivals (news ++ log) = log.arrivals := by
  unfold Log.arrivals
  rw [edges_quiet news quiet]

theorem obs_arrivals (s : SetupPacket) (r : Option (List UInt8)) :
    Log.arrivals (s.obs r :: log) = log.arrivals := by
  have silent : Log.arrivals [s.obs r] = 0 := by
    unfold Log.arrivals Log.edges
    rw [List.reverse_singleton, List.filterMap_cons, s.obs_edge r]
    rfl
  rw [← List.singleton_append, arrivals_append, silent, Nat.add_zero]

/-- One step of push_event() queues the edge it finds room for. -/
theorem push_arrivals {pc : EventPc} (h : Machine.Arriving b ⟨d, .event pc, log⟩)
    (pushes : pc.scanning = false) (env : Env) :
    let m' := loopStep b env ⟨d, .event pc, log⟩
    m'.dev.event.queued.length + log.arrivals = d.event.queued.length + m'.log.arrivals ∧
      m'.pc.Filled m'.dev.event := by
  cases pc with
  | bumpCount | openWindow | dropLoad | dropStore => exact ⟨rfl, trivial⟩
  | roomTest now i ev =>
    by_cases full : d.event.full = true
    · have stepped : loopStep b env ⟨d, .event (.roomTest now i ev), log⟩ =
          ⟨d, .event (.dropTest now i), [.edge ev false] ++ log⟩ := by
        simp only [loopStep, eventStep, if_pos full]
        rfl
      rw [stepped]
      refine ⟨?_, trivial⟩
      dsimp only
      rw [arrivals_append]
      rfl
    · have stepped : loopStep b env ⟨d, .event (.roomTest now i ev), log⟩ =
          ⟨d, .event (.fillSlot now i ev), log⟩ := by
        simp only [loopStep, eventStep, if_neg full]
        rfl
      rw [stepped]
      exact ⟨rfl, trivial⟩
  | dropTest now i =>
    by_cases more : d.event.dropped < 0xFF
    · have stepped : loopStep b env ⟨d, .event (.dropTest now i), log⟩ =
          ⟨d, .event (.dropLoad now i), log⟩ := by
        simp only [loopStep, eventStep, if_pos more]
        rfl
      rw [stepped]
      exact ⟨rfl, trivial⟩
    · have stepped : loopStep b env ⟨d, .event (.dropTest now i), log⟩ =
          ⟨d, .event (.readActive now (i + 1)), log⟩ := by
        simp only [loopStep, eventStep, if_neg more]
        rfl
      rw [stepped]
      exact ⟨rfl, trivial⟩
  | fillSlot now i ev =>
    have queued := d.event.fill_queued h.ok.pc ev
    refine ⟨?_, Function.update_self ..⟩
    change (d.event.fill ev).queued.length + _ = _
    rw [queued]
    rfl
  | bumpHead now i ev =>
    have few : d.nPins ≤ maxPins := h.ok.dev.pins ▸ b.pinCount_le
    have live := UsbioEvent.live_of_known h.known.poll few
    have queued := EventState.publish_queued h.ok.pc h.filled live
    refine ⟨?_, trivial⟩
    change (EventState.queued { d.event with head := d.event.head + 1 }).length + log.arrivals =
      d.event.queued.length + Log.arrivals ([.edge ev true] ++ log)
    have one : Log.arrivals [.edge ev true] = 1 := rfl
    rw [queued, arrivals_append, one, List.length_append, List.length_singleton, Nat.add_right_comm]
    rfl
  | _ => contradiction

theorem loopStep_arrivals (h : m.Arriving b) (env : Env) :
    (loopStep b env m).dev.event.queued.length + m.log.arrivals =
        m.dev.event.queued.length + (loopStep b env m).log.arrivals ∧
      (loopStep b env m).pc.Filled (loopStep b env m).dev.event := by
  by_cases pushes : ∃ pc, m.pc = .event pc ∧ pc.scanning = false
  · obtain ⟨d, pc, log⟩ := m
    obtain ⟨pc, rfl, scans⟩ := pushes
    exact push_arrivals h scans env
  · have away : ∀ pc, m.pc = .event pc → pc.scanning = true := by
      intro pc at_pc
      by_contra scans
      exact pushes ⟨pc, at_pc, Bool.eq_false_iff.mpr scans⟩
    obtain ⟨_, news, quiet⟩ := loopStep_quiet b env m away
    refine ⟨?_, Pc.filled_calm quiet.calm⟩
    rw [quiet.queued, quiet.log, arrivals_quiet quiet.off]

theorem Pc.Filled.served {pc : Pc} {d' : UsbIoDevice} {o : Obs} (filled : pc.Filled d.event)
    (ok : pc.Ok d) (served : Served b env d d' o) : pc.Filled d'.event := by
  rw [served.event]
  cases asked : o.eventRequest with
  | none => exact filled
  | some req =>
    cases pc with
    | event pc =>
      cases pc with
      | bumpHead now i ev => exact (perform_head d.event req ok).trans filled
      | _ => trivial
    | _ => trivial

theorem step_arriving (h : m.Arriving b) (act : Act) : (step b m act).Arriving b where
  ok := step_ok act h.ok
  known := step_known h.known act
  filled := by
    cases act with
    | setup env s => exact h.filled.served h.ok.pc (handleSetup_served b env m.dev s)
    | disconnect =>
      have filled := h.filled
      obtain ⟨d, pc, log⟩ := m
      cases pc with
      | event pc => cases pc <;> exact filled
      | _ => trivial
    | loop env => exact (loopStep_arrivals h env).2

theorem run_arriving (h : m.Arriving b) (acts : List Act) : (run b m acts).Arriving b := by
  induction acts generalizing m with
  | nil => exact h
  | cons act acts ih => exact ih (step_arriving h act)

theorem Reachable.arriving (reached : Reachable b m) : m.Arriving b :=
  reached.invariant ⟨boot_ok b, boot_known b, trivial⟩ (fun _ act h _ => step_arriving h act)

/-- Without requests about the events the queue grows by the edges it has room for. -/
theorem step_arrivals (h : m.Arriving b) {act : Act} (only : edgesOnly b m act) :
    (step b m act).dev.event.queued.length + m.log.arrivals =
      m.dev.event.queued.length + (step b m act).log.arrivals := by
  cases act with
  | setup env s =>
    have event := (handleSetup_served b env m.dev s).event
    have silent : (s.obs (handleSetup b env m.dev s).2).eventRequest = none := only
    rw [silent] at event
    change (handleSetup b env m.dev s).1.event.queued.length + _ =
      _ + Log.arrivals (s.obs (handleSetup b env m.dev s).2 :: m.log)
    rw [event, obs_arrivals]
    rfl
  | disconnect => exact congrArg _ (@arrivals_append [.disconnected] m.log).symm
  | loop env => exact (loopStep_arrivals h env).1

theorem run_arrivals (h : m.Arriving b) {acts : List Act}
    (only : Lib.Follows (step b) (edgesOnly b) m acts) :
    (run b m acts).dev.event.queued.length + m.log.arrivals =
      m.dev.event.queued.length + (run b m acts).log.arrivals := by
  induction acts generalizing m with
  | nil => rfl
  | cons act acts ih =>
    have first := step_arrivals h only.1
    have rest := ih (step_arriving h act) only.2
    change (run b (step b m act) acts).dev.event.queued.length + _ =
      _ + (run b (step b m act) acts).log.arrivals
    omega

end ArduinoDriver
