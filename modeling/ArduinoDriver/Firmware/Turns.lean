import ArduinoDriver.Firmware.Intentions

namespace ArduinoDriver

/-- Requests arrive while poll() is not executing. -/
def betweenPolls (m : Machine) : Act → Prop
  | .setup .. => m.pc = .idle
  | _ => True

instance (m : Machine) (act : Act) : Decidable (betweenPolls m act) :=
  match act with
  | .setup .. => inferInstanceAs (Decidable (m.pc = .idle))
  | .disconnect | .loop _ => .isTrue trivial

/-- What holds at a point of the do-while that no request interrupts. -/
def DrainPc.Staged (d : UsbIoDevice) : DrainPc → Prop
  | .resetTest => True
  | .resetSeen => d.resetPending = true
  | .resetApply seen | .resetDone seen => d.resetPending = true ∧ seen = d.resetRequests
  | .execute c => d.resetPending = false ∧ c.epoch = d.epoch
  | .outerTest => d.resetPending = false ∧ d.commands = []
  | _ => d.resetPending = false

/-- The same for all of poll(): past the do-while there is nothing left to do. -/
def Pc.Staged (d : UsbIoDevice) : Pc → Prop
  | .idle => True
  | .drain pc => pc.Staged d
  | _ => d.resetPending = false ∧ d.commands = []

variable {b : Board} {env : Env} {d d' : UsbIoDevice} {log : Log} {m : Machine} {act : Act}

theorem SameCommands.pending (same : SameCommands d' d) : d'.resetPending = d.resetPending :=
  same.resets.pending

theorem Pc.Staged.congr {pc : Pc} (h : pc.Staged d) (same : SameCommands d' d) : pc.Staged d' := by
  cases pc with
  | idle => trivial
  | drain pc =>
    cases pc with
    | resetTest => trivial
    | resetApply seen | resetDone seen => exact ⟨same.pending.trans h.1, h.2.trans same.requests.symm⟩
    | execute c => exact ⟨same.pending.trans h.1, h.2.trans same.epoch.symm⟩
    | outerTest => exact ⟨same.pending.trans h.1, same.commands.trans h.2⟩
    | _ => exact same.pending.trans h
  | _ => exact ⟨same.pending.trans h.1, same.commands.trans h.2⟩

theorem not_pending : d.resetPending = false ↔ d.resetDone = d.resetRequests := by
  simp [UsbIoDevice.resetPending]

theorem pending_iff : d.resetPending = true ↔ d.resetDone ≠ d.resetRequests := by
  simp [UsbIoDevice.resetPending]

theorem drainStep_staged (env : Env) {pc : DrainPc} (h : pc.Staged d) :
    (loopStep b env ⟨d, .drain pc, log⟩).pc.Staged (loopStep b env ⟨d, .drain pc, log⟩).dev := by
  cases pc with
  | resetTest =>
    simp only [loopStep, drainStep]
    split
    · rename_i pending
      exact pending_iff.mpr pending
    · rename_i served
      exact not_pending.mpr (not_not.mp served)
  | resetSeen => exact ⟨h, rfl⟩
  | resetApply seen => exact h
  | resetDone seen => trivial
  | drainTest =>
    simp only [loopStep, drainStep]
    split
    · exact h
    · rename_i empty
      exact ⟨h, Lib.Ring.contents_eq_nil.mpr (not_not.mp empty)⟩
  | copySlot => exact h
  | bumpTail tail c => exact h
  | epochTest c =>
    simp only [loopStep, drainStep]
    split
    · rename_i current
      exact ⟨h, current⟩
    · exact h
  | execute c =>
    obtain ⟨dio, ain, eq⟩ := execute_frame b env d c
    simp only [loopStep, drainStep, eq]
    exact h.1
  | outerTest =>
    simp only [loopStep, drainStep]
    rw [if_neg (not_not.mpr (not_pending.mp h.1))]
    exact h

/-- Past the do-while poll() does not come back to it. -/
theorem loopStep_pastDrain (other : m.pc.offDrain) (running : m.pc ≠ .idle) :
    (loopStep b env m).pc.offDrain := by
  obtain ⟨d, pc, log⟩ := m
  cases pc with
  | idle => exact absurd rfl running
  | drain pc => contradiction
  | shadow pc =>
    simp only [loopStep]
    cases (shadowStep env d pc).2 <;> rfl
  | event pc =>
    simp only [loopStep, afterEvent]
    cases (eventStep env d pc).2.1 with
    | none => cases b.hasStreamTransport <;> rfl
    | some next => rfl
  | stream pc =>
    simp only [loopStep]
    cases (streamStep b env d pc).2.1 <;> rfl

/-- Past the do-while there is nothing left to execute. -/
theorem Pc.Staged.empty {pc : Pc} (h : pc.Staged d) (other : pc.offDrain) (running : pc ≠ .idle) :
    d.resetPending = false ∧ d.commands = [] := by
  cases pc with
  | idle => exact absurd rfl running
  | drain pc => contradiction
  | _ => exact h

theorem step_staged (h : m.pc.Staged m.dev) (allowed : betweenPolls m act) :
    (step b m act).pc.Staged (step b m act).dev := by
  cases act with
  | setup env s =>
    have idle : m.pc = .idle := allowed
    change m.pc.Staged _
    rw [idle]
    trivial
  | disconnect => exact h.congr ⟨rfl, rfl, rfl, rfl, rfl, rfl, rfl, rfl, rfl⟩
  | loop env =>
    by_cases other : m.pc.offDrain
    · by_cases idle : m.pc = .idle
      · obtain ⟨d, pc, log⟩ := m
        obtain rfl : pc = .idle := idle
        trivial
      · have same := (loopStep_offDrain b env m other).1
        have past := @loopStep_pastDrain b env m other idle
        obtain ⟨calm, empty⟩ := h.empty other idle
        change (loopStep b env m).pc.Staged (loopStep b env m).dev
        cases at_pc : (loopStep b env m).pc with
        | idle => trivial
        | drain pc =>
          rw [at_pc] at past
          contradiction
        | _ => exact ⟨same.pending.trans calm, same.commands.trans empty⟩
    · obtain ⟨d, pc, log⟩ := m
      cases pc with
      | drain pc => exact drainStep_staged env h
      | _ => exact absurd rfl other

theorem Served.lockstep {o : Obs} (served : Served b env d d' o) (h : d.epoch = d.resetRequests) :
    d'.epoch = d'.resetRequests := by
  cases served with
  | reset => exact congrArg (· + 1) h
  | _ => exact h

/-- RESET moves the epoch and the request counter together. -/
theorem step_lockstep (h : m.dev.epoch = m.dev.resetRequests) (act : Act) :
    (step b m act).dev.epoch = (step b m act).dev.resetRequests := by
  cases act with
  | setup env s => exact (handleSetup_served b env m.dev s).lockstep h
  | disconnect => exact h
  | loop env =>
    by_cases other : m.pc.offDrain
    · have same := (loopStep_offDrain b env m other).1
      exact same.epoch.trans (h.trans same.requests.symm)
    · obtain ⟨d, pc, log⟩ := m
      cases pc with
      | drain pc =>
        cases pc with
        | epochTest c | outerTest =>
          simp only [step, loopStep, drainStep]
          split <;> exact h
        | execute c =>
          obtain ⟨dio, ain, eq⟩ := execute_frame b env d c
          simp only [step, loopStep, drainStep, eq]
          exact h
        | _ => exact h
      | _ => exact absurd rfl other

theorem boot_lockstep (b : Board) : (boot b).dev.epoch = (boot b).dev.resetRequests := by
  obtain ⟨caps, nAin, eq, _⟩ := boot_dev b
  rw [eq]
  rfl

/-- What a run without interruptions keeps. -/
structure Turn (b : Board) (m : Machine) : Prop where
  ok : m.Ok b
  queued : Queued m
  lockstep : m.dev.epoch = m.dev.resetRequests
  staged : m.pc.Staged m.dev

theorem boot_turn (b : Board) : Turn b (boot b) := ⟨boot_ok b, boot_queued b, boot_lockstep b, trivial⟩

theorem step_turn (h : Turn b m) (allowed : betweenPolls m act) : Turn b (step b m act) :=
  ⟨step_ok act h.ok, step_queued h.queued h.ok, step_lockstep h.lockstep act,
    step_staged h.staged allowed⟩

theorem reach_turn {guard : Machine → Act → Prop} (between : ∀ m act, guard m act → betweenPolls m act)
    (reached : Lib.Reach (step b) guard (boot b) m) : Turn b m :=
  reached.invariant (boot_turn b) (fun u act turn allowed => step_turn turn (between u act allowed))

end ArduinoDriver
