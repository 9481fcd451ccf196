import ArduinoDriver.Firmware.Fifo
import ArduinoDriver.Firmware.Hardware

namespace ArduinoDriver

/-- The largest value a write may carry. -/
def Request.limit (b : Board) : Request → Nat
  | .dioWrite => 1
  | .pwmWrite => fullScale b.pwmBits
  | .dacWrite => fullScale b.dacBits
  | _ => 0

/-- The commands of the backlog with epoch `x`. -/
def Machine.ofEpoch (m : Machine) (x : UInt8) : List Command := m.backlog.filter (·.epoch == x)

variable {b : Board} {env : Env} {d d' : UsbIoDevice} {hw : Hardware} {log : Log} {m m' : Machine}
  {c : Command} {l : List Command} {s : SetupPacket} {req : Request} {mode : PinMode}
  {index value : UInt16} {pin : Nat}

/-- A command the hardware is ready for. -/
def Command.Fits (b : Board) (hw : Hardware) (c : Command) : Prop :=
  ∀ mode, c.cmd.writeMode? = some mode → hw.mode c.pin = some mode ∧ c.value.toNat ≤ c.cmd.limit b

/-- Commands that each find the hardware ready when executed in turn. -/
def Fitting (b : Board) : Hardware → List Command → Prop
  | _, [] => True
  | hw, c :: l => c.Fits b hw ∧ Fitting b (c.act b hw) l

theorem Fitting.append (h : Fitting b hw l) (fits : c.Fits b (l.foldl (Command.act b) hw)) :
    Fitting b hw (l ++ [c]) := by
  induction l generalizing hw with
  | nil => exact ⟨fits, trivial⟩
  | cons first l ih => exact ⟨h.1, ih h.2 fits⟩

/-- The hardware the commands of epoch `x` may start from: what it is now, if no RESET
lies in between, and otherwise any. -/
def Machine.Finds (m : Machine) (hw : Hardware) (x : UInt8) (start : Hardware) : Prop :=
  x = m.dev.resetDone → start = hw

/-- Commands fit whatever epoch the next poll() executes, and those of the current one
lead to the intended modes as far as writes depend on them. -/
structure Orderly (b : Board) (m : Machine) (hw : Hardware) : Prop where
  fitting : ∀ x, m.pc = .idle ∨ x = m.dev.epoch → ∀ start, m.Finds hw x start →
    Fitting b start (m.ofEpoch x)
  intended : ∀ start, m.Finds hw m.dev.epoch start → ∀ p (req : Request) mode, req.writeMode? = some mode →
    m.dev.mode p = some mode →
      ((m.ofEpoch m.dev.epoch).foldl (Command.act b) start).mode p = some mode

theorem handleWrite_limit {limit : Nat}
    (accepts : (handleWrite d req mode limit pin value).2 = true) : value.toNat ≤ limit := by
  unfold handleWrite at accepts
  split at accepts
  · contradiction
  · split at accepts
    · contradiction
    · omega

theorem handleSetup_ackedOut {reply : List UInt8} (answered : (handleSetup b env d s).2 = some reply)
    (out : s.isIn = false) : (handleOut b d s.bRequest s.wValue s.index s.wLength).2 = true := by
  have dispatched : (dispatch b env d s).2 = some reply →
      (handleOut b d s.bRequest s.wValue s.index s.wLength).2 = true := by
    unfold dispatch
    rw [out, if_neg Bool.false_ne_true]
    dsimp only
    intro answered
    by_contra refused
    rw [if_neg refused] at answered
    contradiction
  unfold handleSetup at answered
  split at answered
  · contradiction
  · split at answered
    · exact dispatched answered
    · split at answered
      · split at answered
        · exact dispatched answered
        · contradiction
      · contradiction

/-- An accepted write is within the full scale. -/
theorem accepted_limit (accepted : s.obs (handleSetup b env d s).2 = .accepted req index value)
    (writes : req.writeMode? = some mode) : (storedValue req value).toNat ≤ req.limit b := by
  unfold SetupPacket.obs at accepted
  split at accepted
  · rename_i reply req' answered named
    cases out : s.isIn with
    | true =>
      rw [out, if_pos rfl] at accepted
      contradiction
    | false =>
      rw [out, if_neg Bool.false_ne_true] at accepted
      injection accepted with same_req _ same_value
      subst req' value
      have accepts := handleSetup_ackedOut answered out
      unfold handleOut at accepts
      rw [named] at accepts
      dsimp only at accepts
      split at accepts
      · contradiction
      · cases req with
        | dioWrite =>
          unfold storedValue
          by_cases zero : s.wValue = 0 <;> simp [zero, Request.limit]
        | pwmWrite | dacWrite =>
          dsimp only at accepts
          split at accepts
          · contradiction
          · exact handleWrite_limit accepts
        | _ => contradiction
  · contradiction

/-- A step that leaves commands, modes and counters as they are. -/
theorem Orderly.quiet (h : Orderly b m hw) (backlog : m'.backlog = m.backlog)
    (epoch : m'.dev.epoch = m.dev.epoch) (done : m'.dev.resetDone = m.dev.resetDone)
    (modes : m'.dev.mode = m.dev.mode)
    (idle : m'.pc = .idle → m.pc = .idle ∨ m.backlog = []) : Orderly b m' hw := by
  have same : ∀ x, m'.ofEpoch x = m.ofEpoch x := by
    intro x
    unfold Machine.ofEpoch
    rw [backlog]
  have finds : ∀ x start, m'.Finds hw x start → m.Finds hw x start := by
    intro x start from_here
    unfold Machine.Finds at *
    rwa [done] at from_here
  constructor
  · intro x reached start from_here
    rw [same]
    by_cases current : x = m.dev.epoch
    · exact h.fitting x (.inr current) start (finds x start from_here)
    · have at_idle : m'.pc = .idle := by
        rw [epoch] at reached
        exact reached.resolve_right current
      rcases idle at_idle with before | empty
      · exact h.fitting x (.inl before) start (finds x start from_here)
      · unfold Machine.ofEpoch
        rw [empty]
        trivial
  · intro start from_here
    rw [epoch] at from_here
    rw [same, epoch, modes]
    exact h.intended start (finds _ start from_here)

/-- A step inside poll() that keeps the commands of the current epoch. -/
theorem Orderly.busy (h : Orderly b m hw) (running : m'.pc ≠ .idle)
    (commands : m'.ofEpoch m.dev.epoch = m.ofEpoch m.dev.epoch)
    (epoch : m'.dev.epoch = m.dev.epoch) (done : m'.dev.resetDone = m.dev.resetDone)
    (modes : m'.dev.mode = m.dev.mode) : Orderly b m' hw := by
  have finds : ∀ start, m'.Finds hw m.dev.epoch start → m.Finds hw m.dev.epoch start := by
    intro start from_here
    unfold Machine.Finds at *
    rwa [done] at from_here
  constructor
  · intro x reached start from_here
    obtain rfl : x = m.dev.epoch := (reached.resolve_left running).trans epoch
    rw [commands]
    exact h.fitting m.dev.epoch (.inr rfl) start (finds start from_here)
  · intro start from_here
    rw [epoch] at from_here
    rw [epoch, modes, commands]
    exact h.intended start (finds start from_here)

/-- poll() executes the first command of the current epoch. -/
theorem Orderly.executed (h : Orderly b m hw) (running : m'.pc ≠ .idle)
    (taken : m.ofEpoch m.dev.epoch = c :: m'.ofEpoch m.dev.epoch)
    (same : SameCommands m'.dev m.dev) (served : m.dev.resetDone = m.dev.resetRequests)
    (lockstep : m.dev.epoch = m.dev.resetRequests) : Orderly b m' (c.act b hw) := by
  have fits := h.fitting m.dev.epoch (.inr rfl) hw (fun _ => rfl)
  have intended := h.intended hw (fun _ => rfl)
  have only : ∀ start, m'.Finds (c.act b hw) m.dev.epoch start → start = c.act b hw := by
    intro start from_here
    exact from_here (lockstep.trans (served.symm.trans same.done.symm))
  rw [taken] at fits intended
  constructor
  · intro x reached start from_here
    obtain rfl : x = m.dev.epoch := (reached.resolve_left running).trans same.epoch
    rw [only start from_here]
    exact fits.2
  · intro start from_here
    rw [same.epoch] at from_here ⊢
    rw [only start from_here, same.mode]
    exact intended

/-- RESET leaves no pin in a mode to be written. -/
theorem Orderly.reset (h : Orderly b m hw) (inv : Invariant b m.dev) (pc : m.pc = .idle)
    (log : Log) : Orderly b ⟨requestReset m.dev, m.pc, log⟩ hw := by
  constructor
  · intro x _ start from_here
    exact h.fitting x (.inl pc) start from_here
  · intro start _ p req mode writes intended
    obtain ⟨rfl, _⟩ := requestReset_mode inv intended
    cases req <;> contradiction

/-- One more command at the end, ready for what the commands before it leave. -/
theorem Orderly.accept (h : Orderly b m hw) (current : c.epoch = m.dev.epoch)
    (backlog : m'.backlog = m.backlog ++ [c]) (pc : m'.pc = m.pc)
    (epoch : m'.dev.epoch = m.dev.epoch) (done : m'.dev.resetDone = m.dev.resetDone)
    (fits : ∀ start, m.Finds hw m.dev.epoch start →
      c.Fits b ((m.ofEpoch m.dev.epoch).foldl (Command.act b) start))
    (modes : ∀ start, m.Finds hw m.dev.epoch start → ∀ p (req : Request) mode, req.writeMode? = some mode →
      m'.dev.mode p = some mode →
        (c.act b ((m.ofEpoch m.dev.epoch).foldl (Command.act b) start)).mode p = some mode) :
    Orderly b m' hw := by
  have finds : ∀ x start, m'.Finds hw x start → m.Finds hw x start := by
    intro x start from_here
    unfold Machine.Finds at *
    rwa [done] at from_here
  have added : m'.ofEpoch m.dev.epoch = m.ofEpoch m.dev.epoch ++ [c] := by
    unfold Machine.ofEpoch
    rw [backlog, List.filter_append, List.filter_singleton, beq_iff_eq.mpr current]
    rfl
  have others : ∀ x, x ≠ m.dev.epoch → m'.ofEpoch x = m.ofEpoch x := by
    intro x other
    have apart : (c.epoch == x) = false := by
      rw [current]
      simpa using Ne.symm other
    unfold Machine.ofEpoch
    rw [backlog, List.filter_append, List.filter_singleton, apart]
    exact List.append_nil _
  constructor
  · intro x reached start from_here
    rw [pc, epoch] at reached
    by_cases same : x = m.dev.epoch
    · subst same
      rw [added]
      exact (h.fitting _ reached start (finds _ start from_here)).append
        (fits start (finds _ start from_here))
    · rw [others x same]
      exact h.fitting x reached start (finds x start from_here)
  · intro start from_here p req mode writes intended
    rw [epoch] at from_here ⊢
    rw [added, List.foldl_append]
    exact modes start (finds _ start from_here) p req mode writes intended

/-- A write keeps every mode. -/
theorem Command.act_write (writes : c.cmd.writeMode? = some mode) (p : Nat) :
    (c.act b hw).mode p = hw.mode p := by
  unfold Command.act
  cases cmd : c.cmd with
  | pinMode =>
    rw [cmd] at writes
    contradiction
  | _ => rfl

theorem Command.act_pinMode {epoch : UInt8} (named : PinMode.ofCode? value = some mode) :
    Command.act b hw ⟨.pinMode, pin, epoch, value⟩ = hw.configure pin mode := by
  unfold Command.act
  dsimp only
  rw [PinMode.ofCode_stored named]

/-- What the interrupt side does between polls keeps the commands fitting. -/
theorem Orderly.served {o : Obs} (h : Orderly b m hw) (inv : Invariant b m.dev) (pc : m.pc = .idle)
    (served : Served b env m.dev d' o)
    (limited : ∀ (req : Request) index value mode, o = .accepted req index value →
      req.writeMode? = some mode → (storedValue req value).toNat ≤ req.limit b) :
    Orderly b ⟨d', m.pc, o :: m.log⟩ hw := by
  have backlog : Machine.backlog ⟨d', m.pc, o :: m.log⟩ = m.backlog ++ o.commands m.dev.epoch := by
    change m.pc.held ++ d'.commands = _
    rw [← served.commands, ← List.append_assoc]
    rfl
  cases served with
  | reset => exact h.reset inv pc _
  | moded index value mode named known allowed room =>
    refine h.accept rfl backlog rfl rfl rfl ?_ ?_
    · intro start _ mode' writes
      contradiction
    · intro start from_here p req mode' writes intended
      rw [show storedValue .pinMode value = value from rfl, Command.act_pinMode named]
      change Function.update m.dev.mode index.toNat (some mode) p = some mode' at intended
      unfold Hardware.configure
      dsimp only
      by_cases same : p = index.toNat
      · subst p
        rwa [Function.update_self] at intended ⊢
      · rw [Function.update_of_ne same] at intended ⊢
        exact h.intended start from_here p req mode' writes intended
  | written req mode index value writes known intended room =>
    have queued : req.isQueued := by
      cases req <;> first | rfl | contradiction
    simp only [Obs.commands, queued, if_true] at backlog
    refine h.accept rfl backlog rfl rfl rfl ?_ ?_
    · intro start from_here mode' writes'
      obtain rfl := Option.some.inj (writes.symm.trans writes')
      exact ⟨h.intended start from_here _ req mode writes intended,
        limited req index value mode rfl writes⟩
    · intro start from_here p req' mode' writes' intended'
      rw [Command.act_write writes]
      exact h.intended start from_here p req' mode' writes' intended'
  | unchanged req index value settled =>
    refine h.quiet ?_ rfl rfl rfl .inl
    rcases settled with rfl | rfl <;> rfl
  | _ => exact h.quiet rfl rfl rfl rfl .inl

/-- The commands of the current epoch that follow the one in poll()'s hands. -/
theorem Machine.ofEpoch_held {pc : DrainPc} (next : DrainPc) (log' : Log) (holds : pc.held = [c])
    (free : next.held = []) (same : d'.commands = d.commands) (x : UInt8) :
    Machine.ofEpoch ⟨d, .drain pc, log⟩ x =
      (if c.epoch = x then [c] else []) ++ Machine.ofEpoch ⟨d', .drain next, log'⟩ x := by
  unfold Machine.ofEpoch Machine.backlog Pc.held
  dsimp only
  rw [holds, free, same, List.filter_append, List.nil_append, List.filter_singleton]
  congr 1
  by_cases current : c.epoch = x
  · rw [beq_iff_eq.mpr current, if_pos current, cond_true]
  · rw [beq_eq_false_iff_ne.mpr current, if_neg current, cond_false]

/-- A step of the do-while that no request interrupts. -/
theorem Orderly.drainStep (env : Env) {pc : DrainPc} (h : Orderly b ⟨d, .drain pc, log⟩ hw)
    (turn : Turn b ⟨d, .drain pc, log⟩) :
    Orderly b (loopStep b env ⟨d, .drain pc, log⟩) (actuate b ⟨d, .drain pc, log⟩ (.loop env) hw) := by
  have lockstep : d.epoch = d.resetRequests := turn.lockstep
  have staged : pc.Staged d := turn.staged
  -- a pending RESET leaves the commands free to start from any hardware
  have anything : d.resetPending = true → ∀ hw' start, Machine.Finds ⟨d, .drain pc, log⟩ hw' d.epoch start := by
    intro pending hw' start current
    exact absurd (current.symm.trans lockstep) (pending_iff.mp pending)
  cases pc with
  | resetTest | drainTest =>
    simp only [loopStep, ArduinoDriver.drainStep]
    split <;> exact h.quiet rfl rfl rfl rfl (by simp)
  | resetSeen => exact h.quiet rfl rfl rfl rfl (by simp [loopStep, ArduinoDriver.drainStep])
  | resetApply seen =>
    constructor
    · intro x reached start _
      obtain rfl : x = d.epoch := reached.resolve_left (by simp [loopStep, ArduinoDriver.drainStep])
      exact h.fitting d.epoch (.inr rfl) start (anything staged.1 hw start)
    · intro start _
      exact h.intended start (anything staged.1 hw start)
  | resetDone seen =>
    constructor
    · intro x reached start _
      obtain rfl : x = d.epoch := reached.resolve_left (by simp [loopStep, ArduinoDriver.drainStep])
      exact h.fitting d.epoch (.inr rfl) start (anything staged.1 hw start)
    · intro start _
      exact h.intended start (anything staged.1 hw start)
  | copySlot => exact h.quiet rfl rfl rfl rfl (by simp [loopStep, ArduinoDriver.drainStep])
  | bumpTail tail c =>
    exact h.quiet (turn.queued.bump env turn.ok).2.1 rfl rfl rfl
      (by simp [loopStep, ArduinoDriver.drainStep])
  | epochTest c =>
    by_cases current : c.epoch = d.epoch
    · simp only [loopStep, ArduinoDriver.drainStep, if_pos current]
      exact h.quiet rfl rfl rfl rfl (by simp)
    · simp only [loopStep, ArduinoDriver.drainStep, if_neg current]
      have dropped : Machine.ofEpoch ⟨d, .drain (.epochTest c), log⟩ d.epoch =
          Machine.ofEpoch ⟨d, .drain .drainTest, [.skipped c] ++ log⟩ d.epoch := by
        rw [Machine.ofEpoch_held .drainTest ([.skipped c] ++ log) rfl rfl rfl, if_neg current,
          List.nil_append]
      exact h.busy (by simp) dropped.symm rfl rfl rfl
  | execute c =>
    have current : c.epoch = d.epoch := staged.2
    obtain ⟨dio, ain, eq⟩ := execute_frame b env d c
    simp only [loopStep, ArduinoDriver.drainStep, eq]
    have taken : Machine.ofEpoch ⟨d, .drain (.execute c), log⟩ d.epoch =
        c :: Machine.ofEpoch ⟨{ d with dio := dio, ain := ain }, .drain .drainTest,
          (.executed c :: (execute b env d c).2) ++ log⟩ d.epoch := by
      rw [Machine.ofEpoch_held .drainTest ((.executed c :: (execute b env d c).2) ++ log) rfl rfl rfl,
        if_pos current]
      rfl
    exact h.executed (by simp) taken ⟨rfl, rfl, rfl, rfl, rfl, rfl, rfl, rfl, rfl⟩
      (not_pending.mp staged.1) lockstep
  | outerTest =>
    simp only [loopStep, ArduinoDriver.drainStep]
    split <;> exact h.quiet rfl rfl rfl rfl (by simp)

/-- One step of a run without interruptions. -/
theorem step_orderly {act : Act} (h : Orderly b m hw) (turn : Turn b m)
    (allowed : betweenPolls m act) : Orderly b (step b m act) (actuate b m act hw) := by
  cases act with
  | setup env s =>
    exact h.served turn.ok.dev allowed (handleSetup_served b env m.dev s)
      (fun _ _ _ _ accepted writes => accepted_limit accepted writes)
  | disconnect => exact h.quiet rfl rfl rfl rfl .inl
  | loop env =>
    by_cases other : m.pc.offDrain
    · obtain ⟨same, _, next, _⟩ := loopStep_offDrain b env m other
      have held : (loopStep b env m).pc.held = m.pc.held := by
        rw [Pc.held_offDrain other]
        rcases next with next | next
        · exact Pc.held_offDrain next
        · rw [next]
          rfl
      have kept : (loopStep b env m).backlog = m.backlog := by
        unfold Machine.backlog
        rw [held, same.commands]
      have done : m.pc = .idle ∨ m.backlog = [] := by
        have staged := turn.staged
        unfold Machine.backlog
        rw [Pc.held_offDrain other]
        cases at_pc : m.pc with
        | idle => exact .inl rfl
        | drain pc =>
          rw [at_pc] at other
          contradiction
        | _ =>
          rw [at_pc] at staged
          exact .inr staged.2
      rw [actuate_offDrain other]
      exact h.quiet kept same.epoch same.done same.mode (fun _ => done)
    · obtain ⟨d, pc, log⟩ := m
      cases pc with
      | drain pc => exact h.drainStep env turn
      | _ => exact absurd rfl other

theorem boot_orderly (b : Board) : Orderly b (boot b) .unconfigured := by
  obtain ⟨caps, nAin, eq, _⟩ := boot_dev b
  have empty : ∀ x, (boot b).ofEpoch x = [] := by
    intro x
    unfold Machine.ofEpoch Machine.backlog
    rw [boot_commands]
    rfl
  constructor
  · intro x _ start _
    rw [empty]
    trivial
  · intro start _ p req mode _ intended
    rw [eq] at intended
    contradiction

/-- Runs with requests between polls only, and what poll() makes of the pins. -/
def Actuated (b : Board) (guard : Machine × Hardware → Act → Prop) : Machine × Hardware → Prop :=
  Lib.Reach (Lib.recording (step b) (actuate b)) guard (boot b, .unconfigured)

/-- A write is executed on a pin whose mode, last applied and not undone by a RESET, is
the one it is for, and with a value within the full scale. -/
theorem writes_find_their_mode (b : Board) {r : Machine × Hardware}
    (reached : Actuated b (fun u act => betweenPolls u.1 act) r) (c : Command)
    (executes : r.1.pc = .drain (.execute c)) (mode : PinMode)
    (writes : c.cmd.writeMode? = some mode) :
    r.2.mode c.pin = some mode ∧ r.1.log.applied c.pin = some mode ∧
      c.value.toNat ≤ c.cmd.limit b := by
  have turns : ∀ u, Actuated b (fun u act => betweenPolls u.1 act) u → Turn b u.1 := fun u before =>
    reach_turn (fun _ _ between => between) (before.forget (fun _ _ between => between))
  have orderly : Orderly b r.1 r.2 :=
    reached.invariant_with (I := fun u => Orderly b u.1 u.2) turns (boot_orderly b)
      (fun _ _ turn h between => step_orderly h turn between)
  have logged : r.2.Logged r.1.log :=
    reached.invariant (I := fun u => u.2.Logged u.1.log)
      (by simp [Hardware.Logged, Hardware.unconfigured]) (fun _ _ h _ => step_logged h)
  have turn := turns r reached
  obtain ⟨⟨d, pc, log⟩, hw⟩ := r
  obtain rfl : pc = .drain (.execute c) := executes
  have current : c.epoch = d.epoch := turn.staged.2
  have first : ∃ rest, Machine.ofEpoch ⟨d, .drain (.execute c), log⟩ d.epoch = c :: rest := by
    rw [Machine.ofEpoch_held .drainTest log rfl rfl rfl, if_pos current]
    exact ⟨_, rfl⟩
  obtain ⟨rest, first⟩ := first
  have fitting := orderly.fitting d.epoch (.inr rfl) hw (fun _ => rfl)
  rw [first] at fitting
  obtain ⟨ready, limited⟩ := fitting.1 mode writes
  exact ⟨ready, (logged _ _ ready).1, limited⟩

/-- A DIO_WRITE about to be executed behind its PIN_MODE. -/
theorem writes_find_their_mode_dioWrite :
    let r := ([request .pinMode 1 0, request .dioWrite 1 0] ++
        List.replicate 11 (Act.loop (stillEnv .sent))).foldl
      (Lib.recording (step onePinBoard) (actuate onePinBoard)) (boot onePinBoard, .unconfigured)
    r.2.mode 0 = some .output ∧ r.1.log.applied 0 = some .output ∧ 1 ≤ 1 :=
  writes_find_their_mode onePinBoard (Lib.Follows.reach (by decide +kernel))
    ⟨.dioWrite, 0, 0, 1⟩ (by decide +kernel) .output rfl

end ArduinoDriver
