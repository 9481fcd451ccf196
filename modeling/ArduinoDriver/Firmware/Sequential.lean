import ArduinoDriver.Firmware.WriteModes

namespace ArduinoDriver

/-- A request carried out at once. -/
def Obs.perform (b : Board) (d : UsbIoDevice) (hw : Hardware) : Obs → Hardware
  | .accepted .reset _ _ => .reset d
  | o => (o.commands d.epoch).foldl (Command.act b) hw

/-- The history of a run: what poll() has made of the pins, what the accepted requests
make of them when carried out one by one, and how many RESETs were accepted since
apply_reset() was last called. -/
structure Course where
  hw : Hardware
  meant : Hardware
  unserved : Nat

def Course.start : Course := ⟨.unconfigured, .unconfigured, 0⟩

def isReset : Obs → Bool
  | .accepted .reset _ _ => true
  | _ => false

/-- How one step continues the history. -/
def chart (b : Board) (m : Machine) (act : Act) (h : Course) : Course :=
  match act with
  | .setup env s =>
    let o := s.obs (handleSetup b env m.dev s).2
    { h with
      meant := o.perform b m.dev h.meant
      unserved := if isReset o then h.unserved + 1 else h.unserved }
  | .disconnect => h
  | .loop _ =>
    { h with
      hw := actuate b m act h.hw
      unserved := match m.pc with
        | .drain (.resetApply _) => 0
        | _ => h.unserved }

/-- A poll() about to start can tell that a RESET was accepted since the last one, and
every command accepted before one from those accepted after it: no number of RESETs
in between is a multiple of 256. -/
def Machine.distinguishes (m : Machine) : Prop :=
  (m.log.resets = 0 ∨ m.log.resets % 256 ≠ 0) ∧ ∀ c ∈ m.cancelled, c.epoch ≠ m.dev.epoch

instance (m : Machine) : Decidable m.distinguishes := inferInstanceAs (Decidable (_ ∧ _))

/-- Requests between polls only, and every poll() starts with counters that tell. -/
def keepsCounters (m : Machine) (act : Act) : Prop :=
  betweenPolls m act ∧ match act with
    | .loop _ => m.pc = .idle → m.distinguishes
    | _ => True

instance (m : Machine) (act : Act) : Decidable (keepsCounters m act) :=
  match act with
  | .setup env s => inferInstanceAs (Decidable (betweenPolls m (.setup env s) ∧ True))
  | .disconnect => inferInstanceAs (Decidable (betweenPolls m .disconnect ∧ True))
  | .loop env => inferInstanceAs (Decidable (betweenPolls m (.loop env) ∧ (m.pc = .idle → m.distinguishes)))

/-- Runs with the history at their side. -/
def Charted (b : Board) (guard : Machine → Act → Prop) : Machine × Course → Prop :=
  Lib.Reach (Lib.recording (step b) (chart b)) (fun r act => guard r.1 act) (boot b, .start)

/-- How far the counters are behind at a point of the do-while. -/
def DrainPc.Counted (d : UsbIoDevice) (unserved : Nat) : DrainPc → Prop
  | .resetTest | .resetSeen | .resetApply _ => 0 < unserved ↔ d.resetPending = true
  | _ => unserved = 0

def Pc.Counted (m : Machine) (unserved : Nat) : Pc → Prop
  | .drain pc => pc.Counted m.dev unserved ∧ ∀ c ∈ m.cancelled, c.epoch ≠ m.dev.epoch
  | .idle => m.log.resets = unserved ∧
      (m.dev.resetRequests - m.dev.resetDone).toNat = unserved % 256
  | _ => m.log.resets = 0 ∧ unserved = 0

/-- How the history follows the run: the fresh commands lead from the pins as they are,
or as apply_reset() will leave them, to what is meant. -/
structure Charting (b : Board) (m : Machine) (h : Course) : Prop where
  leads : h.meant = m.fresh.foldl (Command.act b) (if 0 < h.unserved then .reset m.dev else h.hw)
  counted : m.pc.Counted m h.unserved
  returned : m.pc = .idle → m.log.head? = some .pollReturned → m.backlog = [] ∧ h.unserved = 0

variable {b : Board} {env : Env} {d d' : UsbIoDevice} {o : Obs} {hw : Hardware} {log : Log}
  {m m' : Machine} {h : Course} {c : Command}

theorem Obs.perform_offCommands (off : o.offCommands) : o.perform b d hw = hw ∧ isReset o = false := by
  cases o with
  | accepted req index value => cases req <;> first | exact ⟨rfl, rfl⟩ | contradiction
  | _ => exact ⟨rfl, rfl⟩

theorem Obs.perform_queued {req : Request} {index value : UInt16} (queued : req.isQueued)
    (one : (Obs.accepted req index value).commands d.epoch = [c]) :
    (Obs.accepted req index value).perform b d hw = c.act b hw ∧
      isReset (.accepted req index value) = false := by
  have other : req ≠ .reset := by
    rintro rfl
    contradiction
  have performs : (Obs.accepted req index value).perform b d hw =
      ((Obs.accepted req index value).commands d.epoch).foldl (Command.act b) hw := by
    cases req <;> first | rfl | contradiction
  refine ⟨by rw [performs, one]; rfl, ?_⟩
  cases req <;> first | rfl | contradiction

theorem Served.not_returned (served : Served b env d d' o) : o ≠ .pollReturned := by
  cases served <;> simp

theorem Hardware.reset_congr (nPins : d'.nPins = d.nPins) (caps : d'.caps = d.caps) :
    Hardware.reset d' = Hardware.reset d := by
  unfold Hardware.reset
  rw [nPins, caps]

/-- What the interrupt side does between polls. -/
theorem Charting.served (charting : Charting b m h) (turn : Turn b m) (idle : m.pc = .idle)
    (served : Served b env m.dev d' o) :
    Charting b ⟨d', m.pc, o :: m.log⟩
      { h with
        meant := o.perform b m.dev h.meant
        unserved := if isReset o then h.unserved + 1 else h.unserved } := by
  have counted := charting.counted
  rw [idle] at counted
  obtain ⟨resets, behind⟩ : m.log.resets = h.unserved ∧
    (m.dev.resetRequests - m.dev.resetDone).toNat = h.unserved % 256 := counted
  have returned : ∀ u : Nat, m.pc = .idle → (o :: m.log).head? = some .pollReturned →
      Machine.backlog ⟨d', m.pc, o :: m.log⟩ = [] ∧ u = 0 :=
    fun _ _ last => absurd (Option.some.inj last) served.not_returned
  have at_idle : ∀ u : Nat, Log.resets (o :: m.log) = u →
      (d'.resetRequests - d'.resetDone).toNat = u % 256 →
      m.pc.Counted ⟨d', m.pc, o :: m.log⟩ u := by
    intro u resets behind
    rw [idle]
    exact ⟨resets, behind⟩
  rcases served.intake turn.queued turn.ok with ⟨same, _, off⟩ | ⟨index, value, rfl, rfl⟩ |
    ⟨c, enters, _⟩
  · have only : ∀ o' ∈ [o], o'.offCommands := by simpa using off
    obtain ⟨_, fresh⟩ : Queued ⟨d', m.pc, o :: m.log⟩ ∧ Machine.fresh ⟨d', m.pc, o :: m.log⟩ = m.fresh :=
      turn.queued.quiet [o] rfl (pipeline_append only) same.commands same.epoch rfl
        (turn.queued.copied.congr same.queue same.tail)
    obtain ⟨silent, other⟩ : o.perform b m.dev h.meant = h.meant ∧ isReset o = false :=
      Obs.perform_offCommands off
    rw [silent, other, if_neg Bool.false_ne_true]
    refine ⟨?_, at_idle _ ?_ ?_, returned _⟩
    · rw [fresh, Hardware.reset_congr same.nPins same.caps]
      exact charting.leads
    · exact (resets_append only).trans resets
    · rw [same.requests, same.done]
      exact behind
  · obtain ⟨_, fresh⟩ : Queued ⟨requestReset m.dev, m.pc, .accepted .reset index value :: m.log⟩ ∧
        Machine.fresh ⟨requestReset m.dev, m.pc, .accepted .reset index value :: m.log⟩ = [] :=
      turn.queued.reset rfl rfl rfl
    refine ⟨?_, at_idle _ (congrArg (· + 1) resets) ?_, returned _⟩
    · rw [fresh]
      exact (if_pos (Nat.succ_pos _)).symm
    · change (m.dev.resetRequests + 1 - m.dev.resetDone).toNat = (h.unserved + 1) % 256
      simp only [UInt8.toNat_sub, UInt8.toNat_add, UInt8.toNat_one] at behind ⊢
      omega
  · have one : o.commands m.dev.epoch = [c] := by
      have backlog : Machine.backlog ⟨d', m.pc, o :: m.log⟩ = m.backlog ++ o.commands m.dev.epoch := by
        change m.pc.held ++ d'.commands = _
        rw [← served.commands, ← List.append_assoc]
        rfl
      exact List.append_cancel_left (backlog.symm.trans enters.backlog)
    obtain ⟨req, index, value, queued, log_eq⟩ := enters.log
    obtain rfl : o = .accepted req index value := (List.cons.inj log_eq).1
    obtain ⟨performs, other⟩ : (Obs.accepted req index value).perform b m.dev h.meant =
        c.act b h.meant ∧ isReset (.accepted req index value) = false := Obs.perform_queued queued one
    rw [performs, other, if_neg Bool.false_ne_true]
    refine ⟨?_, at_idle _ ?_ ?_, returned _⟩
    · rw [enters.fresh, List.foldl_append, Hardware.reset_congr enters.nPins enters.caps,
        ← charting.leads]
      rfl
    · refine Eq.trans ?_ resets
      cases req <;> first | rfl | contradiction
    · rw [show UsbIoDevice.resetRequests d' = _ from enters.requests, enters.done]
      exact behind

/-- A step of the do-while that keeps the commands and their cancellations. -/
theorem Charting.moves {pc next : DrainPc} (charting : Charting b ⟨d, .drain pc, log⟩ h)
    (held : next.held = pc.held) (counted : next.Counted d h.unserved) :
    Charting b ⟨d, .drain next, log⟩ h := by
  have backlog : Machine.backlog ⟨d, .drain next, log⟩ = Machine.backlog ⟨d, .drain pc, log⟩ :=
    congrArg (· ++ d.commands) held
  have fresh : Machine.fresh ⟨d, .drain next, log⟩ = Machine.fresh ⟨d, .drain pc, log⟩ :=
    congrArg log.pipeline.fresh backlog
  have cancelled : Machine.cancelled ⟨d, .drain next, log⟩ = Machine.cancelled ⟨d, .drain pc, log⟩ :=
    congrArg (List.take log.pipeline.stale) backlog
  have others : ∀ c ∈ Machine.cancelled ⟨d, .drain pc, log⟩, c.epoch ≠ d.epoch := charting.counted.2
  refine ⟨?_, ⟨counted, ?_⟩, by simp⟩
  · rw [fresh]
    exact charting.leads
  · rw [cancelled]
    exact others

/-- A command is cancelled exactly when its epoch has passed. -/
theorem Charting.held_current {pc : DrainPc} (charting : Charting b ⟨d, .drain pc, log⟩ h)
    (holds : pc.held = [c]) (current : c.epoch = d.epoch) : log.pipeline.stale = 0 := by
  by_contra stale
  have others : ∀ c ∈ Machine.cancelled ⟨d, .drain pc, log⟩, c.epoch ≠ d.epoch := charting.counted.2
  refine others c ?_ current
  obtain ⟨n, eq⟩ : ∃ n, log.pipeline.stale = n + 1 := ⟨log.pipeline.stale - 1, by omega⟩
  have backlog : Machine.backlog ⟨d, .drain pc, log⟩ = c :: d.commands :=
    congrArg (· ++ d.commands) holds
  unfold Machine.cancelled
  rw [backlog]
  change c ∈ List.take log.pipeline.stale (c :: d.commands)
  rw [eq, List.take_succ_cons]
  exact List.mem_cons_self

/-- A step of the do-while that no request interrupts. -/
theorem Charting.drainStep (env : Env) {pc : DrainPc} (charting : Charting b ⟨d, .drain pc, log⟩ h)
    (turn : Turn b ⟨d, .drain pc, log⟩) :
    Charting b (loopStep b env ⟨d, .drain pc, log⟩) (chart b ⟨d, .drain pc, log⟩ (.loop env) h) := by
  have staged : pc.Staged d := turn.staged
  have others : ∀ c ∈ Machine.cancelled ⟨d, .drain pc, log⟩, c.epoch ≠ d.epoch := charting.counted.2
  have counted : pc.Counted d h.unserved := charting.counted.1
  cases pc with
  | resetTest =>
    by_cases pending : d.resetDone ≠ d.resetRequests
    · simp only [loopStep, ArduinoDriver.drainStep, if_pos pending]
      exact charting.moves rfl counted
    · simp only [loopStep, ArduinoDriver.drainStep, if_neg pending]
      refine charting.moves rfl (Nat.eq_zero_of_not_pos (fun waiting => ?_))
      exact pending (pending_iff.mp (counted.mp waiting))
  | resetSeen => exact charting.moves rfl counted
  | resetApply seen =>
    have waiting : 0 < h.unserved := counted.mpr staged.1
    have fresh := (turn.queued.drainStep env turn.ok).2 (by simp)
    have cancelled : (loopStep b env ⟨d, .drain (.resetApply seen), log⟩).cancelled =
        Machine.cancelled ⟨d, .drain (.resetApply seen), log⟩ := by
      unfold Machine.cancelled
      change List.take (Log.pipeline (resetLog d ++ log)).stale _ = _
      rw [pipeline_pads (resetLog_pads d)]
      rfl
    have leads := charting.leads
    rw [if_pos waiting] at leads
    refine ⟨?_, ⟨rfl, ?_⟩, by simp [loopStep, ArduinoDriver.drainStep]⟩
    · rw [fresh]
      exact leads
    · rw [cancelled]
      exact others
  | resetDone seen =>
    obtain ⟨_, rfl⟩ := staged
    have fresh := (turn.queued.drainStep env turn.ok).2 (by simp)
    have served : h.unserved = 0 := counted
    have unserved : 0 < h.unserved ↔
        UsbIoDevice.resetPending { d with resetDone := d.resetRequests } = true := by
      simp [UsbIoDevice.resetPending, served]
    refine ⟨?_, ⟨unserved, others⟩, by simp [loopStep, ArduinoDriver.drainStep]⟩
    rw [fresh]
    exact charting.leads
  | drainTest =>
    simp only [loopStep, ArduinoDriver.drainStep]
    split <;> exact charting.moves rfl counted
  | copySlot => exact charting.moves rfl counted
  | bumpTail tail c =>
    obtain ⟨_, backlog, fresh⟩ := turn.queued.bump env turn.ok
    have cancelled : (loopStep b env ⟨d, .drain (.bumpTail tail c), log⟩).cancelled =
        Machine.cancelled ⟨d, .drain (.bumpTail tail c), log⟩ := by
      unfold Machine.cancelled
      rw [backlog]
      rfl
    refine ⟨?_, ⟨counted, ?_⟩, by simp [loopStep, ArduinoDriver.drainStep]⟩
    · rw [fresh]
      exact charting.leads
    · rw [cancelled]
      exact others
  | epochTest c =>
    by_cases current : c.epoch = d.epoch
    · simp only [loopStep, ArduinoDriver.drainStep, if_pos current]
      exact charting.moves rfl counted
    · simp only [loopStep, ArduinoDriver.drainStep, if_neg current]
      refine ⟨?_, ⟨counted, ?_⟩, by simp⟩
      · refine charting.leads.trans ?_
        rw [← (turn.queued.skip current).2]
        rfl
      · intro c' inside
        refine others c' ?_
        have behind : c' ∈ d.commands.take (log.pipeline.stale - 1) := by
          rw [← Lib.Pipeline.stale_finish (a := c.order) false]
          exact inside
        exact cancelled_of_rest behind
  | execute c =>
    have current : log.pipeline.stale = 0 := charting.held_current rfl staged.2
    have served : h.unserved = 0 := counted
    have fresh := (turn.queued.execute b env).2.1 current
    have leads := charting.leads
    rw [fresh, served, if_neg (Nat.lt_irrefl 0), List.foldl_cons] at leads
    refine ⟨?_, ⟨counted, ?_⟩, by simp [loopStep, ArduinoDriver.drainStep]⟩
    · refine leads.trans ?_
      rw [show (chart b ⟨d, .drain (.execute c), log⟩ (.loop env) h).unserved = 0 from served,
        if_neg (Nat.lt_irrefl 0)]
      rfl
    · have none_cancelled : (loopStep b env ⟨d, .drain (.execute c), log⟩).cancelled = [] := by
        unfold Machine.cancelled
        change List.take (Log.pipeline ((.executed c :: (execute b env d c).2) ++ log)).stale _ = []
        rw [executed_pipeline, Lib.Pipeline.stale_finish, current]
        rfl
      rw [none_cancelled]
      simp
  | outerTest =>
    have served : ¬ d.resetDone ≠ d.resetRequests := not_not.mpr (not_pending.mp staged.1)
    have fresh := (turn.queued.drainStep env turn.ok).2 (by simp)
    simp only [loopStep, ArduinoDriver.drainStep, if_neg served] at fresh ⊢
    refine ⟨?_, ⟨rfl, counted⟩, by simp⟩
    exact charting.leads.trans (by rw [← fresh]; rfl)

/-- poll() starts: its counters tell what the requests left. -/
theorem Charting.pollStarted (charting : Charting b m h) (idle : m.pc = .idle)
    (tells : m.distinguishes) : Charting b (loopStep b env m) h := by
  obtain ⟨d, pc, log⟩ := m
  obtain rfl : pc = .idle := idle
  obtain ⟨resets, behind⟩ : log.resets = h.unserved ∧
    (d.resetRequests - d.resetDone).toNat = h.unserved % 256 := charting.counted
  obtain ⟨multiple, others⟩ := tells
  have multiple : h.unserved = 0 ∨ h.unserved % 256 ≠ 0 := resets ▸ multiple
  have waiting : 0 < h.unserved ↔ d.resetPending = true := by
    have := d.resetRequests.toNat_lt
    have := d.resetDone.toNat_lt
    rw [pending_iff, ne_eq, ← UInt8.toNat_inj]
    rw [UInt8.toNat_sub] at behind
    omega
  exact ⟨charting.leads, ⟨waiting, others⟩, by simp [loopStep]⟩

/-- The phases of poll() after the do-while. -/
theorem Charting.offDrain (charting : Charting b m h) (turn : Turn b m) (other : m.pc.offDrain)
    (running : m.pc ≠ .idle) : Charting b (loopStep b env m) h := by
  obtain ⟨same, _, _, news, log_eq, off⟩ := loopStep_offDrain b env m other
  have fresh : (loopStep b env m).fresh = m.fresh := (turn.queued.offDrain other).2
  obtain ⟨calm, empty⟩ := turn.staged.empty other running
  obtain ⟨resets, served⟩ : m.log.resets = 0 ∧ h.unserved = 0 := by
    have counted := charting.counted
    cases at_pc : m.pc with
    | idle => exact absurd at_pc running
    | drain pc =>
      rw [at_pc] at other
      contradiction
    | _ =>
      rw [at_pc] at counted
      exact counted
  have resets' : (loopStep b env m).log.resets = 0 := by
    rw [log_eq, resets_append off]
    exact resets
  have past := @loopStep_pastDrain b env m other running
  refine ⟨?_, ?_, fun idle _ => ⟨?_, served⟩⟩
  · rw [fresh, Hardware.reset_congr same.nPins same.caps]
    exact charting.leads
  · cases at_pc : (loopStep b env m).pc with
    | idle =>
      refine ⟨resets'.trans served.symm, ?_⟩
      rw [same.requests, same.done, not_pending.mp calm, UInt8.sub_self, served]
      rfl
    | drain pc =>
      rw [at_pc] at past
      contradiction
    | _ => exact ⟨resets', served⟩
  · unfold Machine.backlog
    rw [idle, same.commands, empty]
    rfl

/-- The history's effects on the pins are those of actuate(). -/
theorem chart_loop_offDrain (other : m.pc.offDrain) : chart b m (.loop env) h = h := by
  unfold chart
  dsimp only
  rw [actuate_offDrain other]
  cases at_pc : m.pc with
  | drain pc =>
    rw [at_pc] at other
    contradiction
  | _ => rfl

/-- One step of a run whose counters tell. -/
theorem step_charting {act : Act} (charting : Charting b m h) (turn : Turn b m)
    (allowed : keepsCounters m act) : Charting b (step b m act) (chart b m act h) := by
  cases act with
  | setup env s => exact charting.served turn allowed.1 (handleSetup_served b env m.dev s)
  | disconnect =>
    obtain ⟨_, fresh⟩ : Queued (step b m .disconnect) ∧ (step b m .disconnect).fresh = m.fresh :=
      turn.queued.quiet [.disconnected] rfl rfl rfl rfl rfl (turn.queued.copied.congr rfl rfl)
    refine ⟨?_, ?_, by simp [step]⟩
    · rw [fresh]
      exact charting.leads
    · obtain ⟨d, pc, log⟩ := m
      have counted := charting.counted
      cases pc <;> exact counted
  | loop env =>
    by_cases other : m.pc.offDrain
    · rw [chart_loop_offDrain other]
      by_cases idle : m.pc = .idle
      · exact charting.pollStarted idle (allowed.2 idle)
      · exact charting.offDrain turn other idle
    · obtain ⟨d, pc, log⟩ := m
      cases pc with
      | drain pc => exact charting.drainStep env turn
      | _ => exact absurd rfl other

theorem boot_charting (b : Board) : Charting b (boot b) .start := by
  obtain ⟨caps, nAin, eq, _⟩ := boot_dev b
  have fresh : (boot b).fresh = [] := by
    unfold Machine.fresh Machine.backlog
    rw [boot_commands]
    exact Lib.Pipeline.fresh_nil
  refine ⟨?_, ⟨rfl, ?_⟩, by simp [boot]⟩
  · rw [fresh]
    rfl
  · rw [eq]
    simp [UsbIoDevice.init, Course.start]

theorem chart_hw (b : Board) (m : Machine) (act : Act) (h : Course) :
    (chart b m act h).hw = actuate b m act h.hw := by
  cases act <;> rfl

/-- poll() means what the requests received mean one by one: it executes no command a
RESET has cancelled, and nothing before a RESET is served; when it returns the pins are
as the accepted requests make them, and the calls logged show it. -/
theorem poll_has_sequential_meaning (b : Board) {r : Machine × Course}
    (reached : Charted b keepsCounters r) :
    (∀ c, r.1.pc = .drain (.execute c) → r.2.unserved = 0 ∧
      ∃ k, r.1.log.pipeline.accepted[k]? = some c.order ∧ r.1.log.pipeline.outcomes.length = k ∧
        r.1.log.pipeline.cancelled ≤ k) ∧
    (r.1.pc = .idle → r.1.log.head? = some .pollReturned →
      r.2.unserved = 0 ∧ r.2.hw = r.2.meant ∧ r.2.meant.Logged r.1.log) := by
  have turns : ∀ u, Charted b keepsCounters u → Turn b u.1 := fun u before =>
    reach_turn (fun _ _ keeps => keeps.1) (before.forget (fun _ _ keeps => keeps))
  have charting : Charting b r.1 r.2 :=
    reached.invariant_with (I := fun u => Charting b u.1 u.2) turns (boot_charting b)
      (fun _ _ turn charting keeps => step_charting charting turn keeps)
  have logged : r.2.hw.Logged r.1.log :=
    reached.invariant (I := fun u => u.2.hw.Logged u.1.log)
      (by simp [Hardware.Logged, Course.start, Hardware.unconfigured]) (fun u act logged _ => by
      have next : (actuate b u.1 act u.2.hw).Logged (step b u.1 act).log := step_logged logged
      rwa [← chart_hw] at next)
  have turn := turns r reached
  constructor
  · intro c executes
    obtain ⟨⟨d, pc, log⟩, h⟩ := r
    obtain rfl : pc = .drain (.execute c) := executes
    have current : log.pipeline.stale = 0 := charting.held_current rfl turn.staged.2
    obtain ⟨reached, front⟩ := turn.queued.carries.front current
    exact ⟨charting.counted.1, _, front, rfl, reached⟩
  · intro idle returned
    obtain ⟨empty, served⟩ := charting.returned idle returned
    have meant : r.2.hw = r.2.meant := by
      have leads := charting.leads
      unfold Machine.fresh at leads
      rw [empty, Lib.Pipeline.fresh_nil, served, if_neg (Nat.lt_irrefl 0)] at leads
      exact leads.symm
    exact ⟨served, meant, meant ▸ logged⟩

/-- A poll() that finds a PIN_MODE, a RESET and a second PIN_MODE. -/
theorem poll_has_sequential_meaning_one_poll :
    let r := ([request .pinMode 1 0, request .reset 0 0, request .pinMode 2 0] ++
        List.replicate 17 (Act.loop (stillEnv .sent))).foldl
      (Lib.recording (step onePinBoard) (chart onePinBoard)) (boot onePinBoard, .start)
    (∀ c, r.1.pc = .drain (.execute c) → r.2.unserved = 0 ∧
      ∃ k, r.1.log.pipeline.accepted[k]? = some c.order ∧ r.1.log.pipeline.outcomes.length = k ∧
        r.1.log.pipeline.cancelled ≤ k) ∧
    (r.1.pc = .idle → r.1.log.head? = some .pollReturned →
      r.2.unserved = 0 ∧ r.2.hw = r.2.meant ∧ r.2.meant.Logged r.1.log) :=
  poll_has_sequential_meaning onePinBoard (Lib.Follows.reach (by decide +kernel))

/-- A PIN_MODE and 256 RESETs behind it: the 8-bit epoch comes round, and the command
is executed though every one of them cancelled it. -/
theorem stale_epoch_comes_round :
    ¬ ∀ (b : Board) (r : Machine × Course), Charted b betweenPolls r →
      (∀ c, r.1.pc = .drain (.execute c) → r.2.unserved = 0 ∧
        ∃ k, r.1.log.pipeline.accepted[k]? = some c.order ∧ r.1.log.pipeline.outcomes.length = k ∧
          r.1.log.pipeline.cancelled ≤ k) ∧
      (r.1.pc = .idle → r.1.log.head? = some .pollReturned →
        r.2.unserved = 0 ∧ r.2.hw = r.2.meant ∧ r.2.meant.Logged r.1.log) := by
  intro claim
  have executes := (claim onePinBoard
    (([request .pinMode 1 0] ++ List.replicate 256 (request .reset 0 0) ++
        List.replicate 6 (Act.loop (stillEnv .sent))).foldl
      (Lib.recording (step onePinBoard) (chart onePinBoard)) (boot onePinBoard, .start))
    (Lib.Follows.reach (by decide +kernel))).1 ⟨.pinMode, 0, 0, 1⟩ (by decide +kernel)
  exact absurd executes.1 (by decide +kernel)

end ArduinoDriver
