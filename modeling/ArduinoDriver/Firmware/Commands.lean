import ArduinoDriver.Firmware.Phases
import ArduinoDriver.Lib.Journal
import ArduinoDriver.Lib.Pipeline

namespace ArduinoDriver

/-- A queued request without its epoch. -/
abbrev Order := Request × Nat × UInt16

def Command.order (c : Command) : Order := (c.cmd, c.pin, c.value)

def Request.isQueued : Request → Bool
  | .pinMode | .dioWrite | .pwmWrite | .dacWrite => true
  | _ => false

/-- The commands accepted, cancelled by RESET, executed and skipped. -/
def Obs.pipeline : Obs → Lib.Pipeline Order → Lib.Pipeline Order
  | .accepted .reset _ _, l => l.cancel
  | .accepted req index value, l =>
    if req.isQueued then l.accept (req, index.toNat, storedValue req value) else l
  | .executed c, l => l.finish c.order true
  | .skipped c, l => l.finish c.order false
  | _, l => l

def Log.pipeline (log : Log) : Lib.Pipeline Order := log.foldr Obs.pipeline .empty

/-- The command poll() has taken from the queue and not disposed of. -/
def DrainPc.held : DrainPc → List Command
  | .epochTest c | .execute c => [c]
  | _ => []

def Pc.held : Pc → List Command
  | .drain pc => pc.held
  | _ => []

def UsbIoDevice.commands (d : UsbIoDevice) : List Command :=
  Lib.Ring.contents queueDepth d.queue d.tail d.head

def Machine.backlog (m : Machine) : List Command := m.pc.held ++ m.dev.commands

/-- The commands accepted since the last RESET and still to execute. -/
def Machine.fresh (m : Machine) : List Command := m.log.pipeline.fresh m.backlog

/-- poll() holds a copy of the command at the queue's tail. -/
def Pc.Copied (d : UsbIoDevice) : Pc → Prop
  | .drain (.bumpTail _ c) => d.queue (ringSlot queueDepth d.tail) = c
  | _ => True

/-- How the queue follows the log. -/
structure Queued (m : Machine) : Prop where
  carries : m.log.pipeline.Carries (m.backlog.map Command.order)
  current : ∀ c ∈ m.fresh, c.epoch = m.dev.epoch
  copied : m.pc.Copied m.dev

/-- Log entries about other things than commands and pads. -/
def Obs.offCommands : Obs → Bool
  | .accepted req _ _ => !req.isQueued && req != .reset
  | .executed _ | .skipped _ | .applied .. | .call _ | .drained => false
  | _ => true

/-- The fields that commands and RESET are about. -/
structure SameCommands (d' d : UsbIoDevice) : Prop where
  queue : d'.queue = d.queue
  head : d'.head = d.head
  tail : d'.tail = d.tail
  epoch : d'.epoch = d.epoch
  requests : d'.resetRequests = d.resetRequests
  done : d'.resetDone = d.resetDone
  mode : d'.mode = d.mode
  caps : d'.caps = d.caps
  nPins : d'.nPins = d.nPins

variable {b : Board} {env : Env} {d d' : UsbIoDevice} {o : Obs} {log news : Log}
  {m m' : Machine}

theorem SameCommands.refl (d : UsbIoDevice) : SameCommands d d :=
  ⟨rfl, rfl, rfl, rfl, rfl, rfl, rfl, rfl, rfl⟩

theorem SameCommands.commands (h : SameCommands d' d) : d'.commands = d.commands := by
  unfold UsbIoDevice.commands
  rw [h.queue, h.head, h.tail]

theorem Obs.pipeline_offCommands (off : o.offCommands) (l : Lib.Pipeline Order) :
    o.pipeline l = l := by
  cases o with
  | accepted req => cases req <;> first | rfl | contradiction
  | _ => first | rfl | contradiction

theorem pipeline_append (off : ∀ o ∈ news, o.offCommands) :
    Log.pipeline (news ++ log) = log.pipeline :=
  Lib.Journal.foldr_inert (fun o inside l => Obs.pipeline_offCommands (off o inside) l)

theorem Pc.Copied.congr {pc : Pc} (h : pc.Copied d) (queue : d'.queue = d.queue)
    (tail : d'.tail = d.tail) : pc.Copied d' := by
  cases pc with
  | drain pc =>
    cases pc with
    | bumpTail seen c =>
      change d'.queue (ringSlot queueDepth d'.tail) = c
      rw [queue, tail]
      exact h
    | _ => trivial
  | _ => trivial

/-- A step that is not about commands. -/
theorem Queued.quiet (news : Log) (h : Queued m) (log_eq : m'.log = news ++ m.log)
    (pipeline : Log.pipeline (news ++ m.log) = m.log.pipeline)
    (commands : m'.dev.commands = m.dev.commands) (epoch : m'.dev.epoch = m.dev.epoch)
    (held : m'.pc.held = m.pc.held) (copied : m'.pc.Copied m'.dev) :
    Queued m' ∧ m'.fresh = m.fresh := by
  have backlog : m'.backlog = m.backlog := by
    unfold Machine.backlog
    rw [held, commands]
  have fresh : m'.fresh = m.fresh := by
    unfold Machine.fresh
    rw [log_eq, pipeline, backlog]
  refine ⟨⟨?_, ?_, copied⟩, fresh⟩
  · rw [log_eq, pipeline, backlog]
    exact h.carries
  · rw [fresh, epoch]
    exact h.current

theorem returnLog_offCommands (pc : Pc) : ∀ o ∈ returnLog pc, o.offCommands := by
  unfold returnLog
  split <;> simp [Obs.offCommands]

theorem eventStep_offCommands (env : Env) (d : UsbIoDevice) (pc : EventPc) :
    ∀ o ∈ (eventStep env d pc).2.2, o.offCommands := by
  cases pc with
  | readActive | compareLevel | roomTest =>
    simp only [eventStep]
    split <;> simp [Obs.offCommands]
  | _ => simp [eventStep, Obs.offCommands]

theorem streamStep_offCommands (b : Board) (env : Env) (d : UsbIoDevice) (pc : StreamPc) :
    ∀ o ∈ (streamStep b env d pc).2.2, o.offCommands := by
  cases pc with
  | packRecord =>
    simp only [streamStep]
    split
    · split <;> simp
    · simp
  | flushTest =>
    simp only [streamStep]
    split
    · simp
    · split <;> simp
  | writeResult packet =>
    simp only [streamStep]
    split <;> simp [Obs.offCommands]
  | _ => simp [streamStep, Obs.offCommands]

/-- refresh_shadow() writes the level of input pins only. -/
theorem shadowStep_frame (env : Env) (d : UsbIoDevice) (pc : ShadowPc) :
    SameCommands (shadowStep env d pc).1 d ∧
    ∀ p, modeIsInput (d.mode p) = false → (shadowStep env d pc).1.dio p = d.dio p := by
  cases pc with
  | enter => exact ⟨.refl _, fun _ _ => rfl⟩
  | pin p =>
    simp only [shadowStep]
    split
    · split
      · rename_i input
        refine ⟨⟨rfl, rfl, rfl, rfl, rfl, rfl, rfl, rfl, rfl⟩, ?_⟩
        intro q output
        by_cases same : q = p
        · rw [same, input] at output
          contradiction
        · exact Function.update_of_ne same ..
      · exact ⟨.refl _, fun _ _ => rfl⟩
    · exact ⟨.refl _, fun _ _ => rfl⟩
  | analog i =>
    simp only [shadowStep]
    split
    · split <;> exact ⟨⟨rfl, rfl, rfl, rfl, rfl, rfl, rfl, rfl, rfl⟩, fun _ _ => rfl⟩
    · exact ⟨.refl _, fun _ _ => rfl⟩

def Pc.offDrain : Pc → Bool
  | .drain _ => false
  | _ => true

/-- The phases of poll() after the queue is drained leave commands alone, and the
shadow of the pins that are not inputs. -/
theorem loopStep_offDrain (b : Board) (env : Env) (m : Machine) (other : m.pc.offDrain) :
    SameCommands (loopStep b env m).dev m.dev ∧
    (∀ p, modeIsInput (m.dev.mode p) = false → (loopStep b env m).dev.dio p = m.dev.dio p) ∧
    ((loopStep b env m).pc.offDrain ∨ (loopStep b env m).pc = .drain .resetTest) ∧
    ∃ news, (loopStep b env m).log = news ++ m.log ∧ ∀ o ∈ news, o.offCommands := by
  obtain ⟨d, pc, log⟩ := m
  cases pc with
  | idle =>
    exact ⟨.refl _, fun _ _ => rfl, .inr rfl, [.pollStarted], rfl, by simp [Obs.offCommands]⟩
  | drain pc => contradiction
  | shadow pc =>
    obtain ⟨same, kept⟩ := shadowStep_frame env d pc
    refine ⟨same, kept, .inl ?_, [], rfl, by simp⟩
    simp only [loopStep]
    cases (shadowStep env d pc).2 <;> rfl
  | event pc =>
    refine ⟨⟨rfl, rfl, rfl, rfl, rfl, rfl, rfl, rfl, rfl⟩, fun _ _ => rfl, .inl ?_, _, rfl, ?_⟩
    · simp only [loopStep, afterEvent]
      cases (eventStep env d pc).2.1 with
      | none =>
        simp only [Option.map_none, Option.getD_none]
        split <;> rfl
      | some next => rfl
    · intro o inside
      rcases List.mem_append.mp inside with inside | inside
      · exact returnLog_offCommands _ o inside
      · exact eventStep_offCommands env d pc o inside
  | stream pc =>
    refine ⟨⟨rfl, rfl, rfl, rfl, rfl, rfl, rfl, rfl, rfl⟩, fun _ _ => rfl, .inl ?_, _, rfl, ?_⟩
    · simp only [loopStep]
      cases (streamStep b env d pc).2.1 <;> rfl
    · intro o inside
      rcases List.mem_append.mp inside with inside | inside
      · exact returnLog_offCommands _ o inside
      · exact streamStep_offCommands b env d pc o inside

theorem Pc.held_offDrain {pc : Pc} (other : pc.offDrain) : pc.held = [] := by
  cases pc <;> first | rfl | contradiction

theorem Pc.copied_offDrain {pc : Pc} (other : pc.offDrain) : pc.Copied d := by
  cases pc with
  | drain pc => contradiction
  | _ => trivial

/-- A command joins the queue. -/
theorem Queued.accept {cmd : Request} {pin : Nat} {value : UInt16} (h : Queued m) (ok : m.Ok b)
    (room : m.dev.queuePending.toNat < queueDepth) (pc : m'.pc = m.pc)
    (pipeline : m'.log.pipeline = m.log.pipeline.accept (cmd, pin, value))
    (queue : m'.dev.queue = (m.dev.queued cmd pin value).queue)
    (head : m'.dev.head = m.dev.head + 1) (tail : m'.dev.tail = m.dev.tail)
    (epoch : m'.dev.epoch = m.dev.epoch) :
    Queued m' ∧ m'.backlog = m.backlog ++ [⟨cmd, pin, m.dev.epoch, value⟩] ∧
      m'.fresh = m.fresh ++ [⟨cmd, pin, m.dev.epoch, value⟩] := by
  have commands : m'.dev.commands = m.dev.commands ++ [⟨cmd, pin, m.dev.epoch, value⟩] := by
    unfold UsbIoDevice.commands
    rw [queue, head, tail]
    exact Lib.Ring.contents_push (by decide) (by decide) room _
  have backlog : m'.backlog = m.backlog ++ [⟨cmd, pin, m.dev.epoch, value⟩] := by
    unfold Machine.backlog
    rw [pc, commands, List.append_assoc]
  have fresh : m'.fresh = m.fresh ++ [⟨cmd, pin, m.dev.epoch, value⟩] := by
    have := h.carries.stale_le
    rw [List.length_map] at this
    unfold Machine.fresh Lib.Pipeline.fresh
    rw [pipeline, Lib.Pipeline.stale_accept, backlog, List.drop_append_of_le_length this]
  refine ⟨⟨?_, ?_, ?_⟩, backlog, fresh⟩
  · rw [pipeline, backlog, List.map_append]
    exact h.carries.accept (cmd, pin, value)
  · rw [fresh, epoch]
    intro c inside
    rcases List.mem_append.mp inside with old | new
    · exact h.current c old
    · rw [List.mem_singleton.mp new]
  · have copied := h.copied
    have pc_ok := ok.pc
    rw [pc]
    cases eq : m.pc with
    | drain pc =>
      rw [eq] at copied pc_ok
      cases pc with
      | bumpTail seen c =>
        have count := Lib.Ring.count_pos pc_ok.2
        have apart := Lib.Ring.slot_ne (show queueDepth ∣ 256 by decide) room count
        have zero : UInt8.ofNat 0 = 0 := rfl
        rw [zero, UInt8.add_zero] at apart
        change m'.dev.queue (ringSlot queueDepth m'.dev.tail) = c
        rw [queue, tail]
        exact (Function.update_of_ne apart ..).trans copied
      | _ => trivial
    | _ => trivial

/-- RESET cancels everything that waits. -/
theorem Queued.reset {index value : UInt16} (h : Queued m) (pc : m'.pc = m.pc)
    (log_eq : m'.log = .accepted .reset index value :: m.log)
    (dev : m'.dev = requestReset m.dev) : Queued m' ∧ m'.fresh = [] := by
  have pipeline : m'.log.pipeline = m.log.pipeline.cancel := by
    rw [log_eq]
    rfl
  have backlog : m'.backlog = m.backlog := by
    unfold Machine.backlog
    rw [pc, dev]
    rfl
  have fresh : m'.fresh = [] := by
    have stale := h.carries.stale_cancel
    rw [List.length_map] at stale
    unfold Machine.fresh Lib.Pipeline.fresh
    rw [pipeline, backlog, stale, List.drop_length]
  refine ⟨⟨?_, ?_, ?_⟩, fresh⟩
  · rw [pipeline, backlog]
    exact h.carries.cancel
  · simp [fresh]
  · rw [pc, dev]
    exact h.copied.congr rfl rfl

/-- The command copied leaves the queue. -/
theorem Queued.bump (env : Env) {tail : UInt8} {c : Command} (h : Queued ⟨d, .drain (.bumpTail tail c), log⟩)
    (ok : Machine.Ok b ⟨d, .drain (.bumpTail tail c), log⟩) :
    Queued (loopStep b env ⟨d, .drain (.bumpTail tail c), log⟩) ∧
    (loopStep b env ⟨d, .drain (.bumpTail tail c), log⟩).backlog =
      Machine.backlog ⟨d, .drain (.bumpTail tail c), log⟩ ∧
    (loopStep b env ⟨d, .drain (.bumpTail tail c), log⟩).fresh =
      Machine.fresh ⟨d, .drain (.bumpTail tail c), log⟩ := by
  have ⟨at_tail, more⟩ : tail = d.tail ∧ d.tail ≠ d.head := ok.pc
  have copied : d.queue (ringSlot queueDepth d.tail) = c := h.copied
  have backlog : (loopStep b env ⟨d, .drain (.bumpTail tail c), log⟩).backlog =
      Machine.backlog ⟨d, .drain (.bumpTail tail c), log⟩ := by
    change [c] ++ Lib.Ring.contents queueDepth d.queue (tail + 1) d.head =
      [] ++ Lib.Ring.contents queueDepth d.queue d.tail d.head
    rw [at_tail, Lib.Ring.contents_pop more, copied]
    rfl
  have fresh : (loopStep b env ⟨d, .drain (.bumpTail tail c), log⟩).fresh =
      Machine.fresh ⟨d, .drain (.bumpTail tail c), log⟩ := by
    unfold Machine.fresh
    rw [backlog]
    rfl
  refine ⟨⟨?_, ?_, trivial⟩, backlog, fresh⟩
  · rw [backlog]
    exact h.carries
  · rw [fresh]
    exact h.current

/-- A command whose epoch has passed is a cancelled one. -/
theorem Queued.skipped_stale {c : Command} (h : Queued ⟨d, .drain (.epochTest c), log⟩)
    (old : c.epoch ≠ d.epoch) : 0 < log.pipeline.stale := by
  by_contra current
  apply old
  apply h.current c
  unfold Machine.fresh
  rw [Lib.Pipeline.fresh_of_current (Nat.eq_zero_of_not_pos current)]
  exact List.mem_cons_self ..

/-- A command leaves poll()'s hands, executed or, if it was cancelled, skipped. -/
theorem Queued.finish {pc : DrainPc} {c : Command} {done : Bool}
    (h : Queued ⟨d, .drain pc, log⟩) (holds : pc.held = [c]) (same : SameCommands d' d)
    (pipeline : Log.pipeline (news ++ log) = log.pipeline.finish c.order done)
    (gone : done = false → 0 < log.pipeline.stale) :
    Queued ⟨d', .drain .drainTest, news ++ log⟩ ∧
    (log.pipeline.stale = 0 →
      Machine.fresh ⟨d, .drain pc, log⟩ =
        c :: Machine.fresh ⟨d', .drain .drainTest, news ++ log⟩) ∧
    (0 < log.pipeline.stale →
      Machine.fresh ⟨d', .drain .drainTest, news ++ log⟩ =
        Machine.fresh ⟨d, .drain pc, log⟩) := by
  have before : Machine.backlog ⟨d, .drain pc, log⟩ = c :: d.commands := by
    change pc.held ++ d.commands = c :: d.commands
    rw [holds]
    rfl
  have after : Machine.backlog ⟨d', .drain .drainTest, news ++ log⟩ = d.commands := by
    change [] ++ d'.commands = d.commands
    rw [same.commands, List.nil_append]
  have first : log.pipeline.stale = 0 →
      Machine.fresh ⟨d, .drain pc, log⟩ =
        c :: Machine.fresh ⟨d', .drain .drainTest, news ++ log⟩ := by
    intro current
    unfold Machine.fresh
    rw [before, after, pipeline, Lib.Pipeline.fresh_finish current]
    exact Lib.Pipeline.fresh_of_current current
  have behind : 0 < log.pipeline.stale →
      Machine.fresh ⟨d', .drain .drainTest, news ++ log⟩ = Machine.fresh ⟨d, .drain pc, log⟩ := by
    intro stale
    unfold Machine.fresh
    rw [before, after, pipeline]
    exact Lib.Pipeline.fresh_finish_stale stale
  refine ⟨⟨?_, ?_, trivial⟩, first, behind⟩
  · have carries := h.carries
    rw [before, List.map_cons] at carries
    rw [after, pipeline]
    cases done with
    | true => exact carries.execute
    | false => exact carries.skip (gone rfl)
  · intro c' inside
    change c'.epoch = d'.epoch
    rw [same.epoch]
    rcases Nat.eq_zero_or_pos log.pipeline.stale with current | stale
    · apply h.current
      rw [first current]
      exact List.mem_cons_of_mem _ inside
    · apply h.current
      rw [← behind stale]
      exact inside

/-- Log entries about what apply_mode(), apply_reset() and execute() do to pins. -/
def Obs.isPad : Obs → Bool
  | .applied .. | .call _ => true
  | _ => false

theorem pipeline_pads (pads : ∀ o ∈ news, o.isPad) : Log.pipeline (news ++ log) = log.pipeline := by
  apply Lib.Journal.foldr_inert
  intro o inside l
  have := pads o inside
  cases o <;> first | rfl | contradiction

theorem resetLog_pads (d : UsbIoDevice) : ∀ o ∈ resetLog d, o.isPad := by
  intro o inside
  obtain ⟨q, _, written⟩ := List.mem_flatMap.mp inside
  simp only [List.mem_cons, List.not_mem_nil, or_false] at written
  rcases written with rfl | rfl <;> rfl

theorem applyMode_pads (b : Board) (env : Env) (d : UsbIoDevice) (pin : Nat) (mode : PinMode) :
    ∀ o ∈ (applyMode b env d pin mode).2, o.isPad := by
  unfold applyMode
  split
  · simp [Obs.isPad]
  · split <;> simp [Obs.isPad]

theorem execute_pads (b : Board) (env : Env) (d : UsbIoDevice) (c : Command) :
    ∀ o ∈ (execute b env d c).2, o.isPad := by
  unfold execute
  split
  · split
    · exact applyMode_pads b env d _ _
    · simp
  all_goals simp [Obs.isPad]

theorem executed_pipeline (b : Board) (env : Env) (d : UsbIoDevice) (c : Command) (log : Log) :
    Log.pipeline ((.executed c :: (execute b env d c).2) ++ log) =
      log.pipeline.finish c.order true :=
  congrArg (fun l => Lib.Pipeline.finish l c.order true) (pipeline_pads (execute_pads b env d c))

/-- A command is executed: the fresh commands lose it if it was one. -/
theorem Queued.execute (b : Board) (env : Env) {c : Command} (h : Queued ⟨d, .drain (.execute c), log⟩) :
    Queued (loopStep b env ⟨d, .drain (.execute c), log⟩) ∧
    (log.pipeline.stale = 0 →
      Machine.fresh ⟨d, .drain (.execute c), log⟩ =
        c :: (loopStep b env ⟨d, .drain (.execute c), log⟩).fresh) ∧
    (0 < log.pipeline.stale →
      (loopStep b env ⟨d, .drain (.execute c), log⟩).fresh =
        Machine.fresh ⟨d, .drain (.execute c), log⟩) := by
  have same : SameCommands (ArduinoDriver.execute b env d c).1 d := by
    obtain ⟨dio, ain, eq⟩ := execute_frame b env d c
    rw [eq]
    exact ⟨rfl, rfl, rfl, rfl, rfl, rfl, rfl, rfl, rfl⟩
  exact h.finish (show DrainPc.held (.execute c) = [c] from rfl) same
    (executed_pipeline b env d c log) (by simp)

/-- A cancelled command is skipped. -/
theorem Queued.skip {c : Command} (h : Queued ⟨d, .drain (.epochTest c), log⟩)
    (old : c.epoch ≠ d.epoch) :
    Queued ⟨d, .drain .drainTest, [.skipped c] ++ log⟩ ∧
    Machine.fresh ⟨d, .drain .drainTest, [.skipped c] ++ log⟩ =
      Machine.fresh ⟨d, .drain (.epochTest c), log⟩ := by
  have stale := h.skipped_stale old
  obtain ⟨queued, _, behind⟩ := h.finish (show DrainPc.held (.epochTest c) = [c] from rfl)
    (.refl d) (show Log.pipeline ([.skipped c] ++ log) = log.pipeline.finish c.order false from rfl)
    (fun _ => stale)
  exact ⟨queued, behind stale⟩

/-- A step of the do-while keeps the fresh commands, execute() apart. -/
theorem Queued.drainStep (env : Env) {pc : DrainPc} (h : Queued ⟨d, .drain pc, log⟩)
    (ok : Machine.Ok b ⟨d, .drain pc, log⟩) :
    Queued (loopStep b env ⟨d, .drain pc, log⟩) ∧
    ((∀ c, pc ≠ .execute c) →
      (loopStep b env ⟨d, .drain pc, log⟩).fresh = Machine.fresh ⟨d, .drain pc, log⟩) := by
  have moves : ∀ {next : DrainPc}, next.held = pc.held → (Pc.drain next).Copied d →
      Queued ⟨d, .drain next, log⟩ ∧
      ((∀ c, pc ≠ .execute c) →
        Machine.fresh ⟨d, .drain next, log⟩ = Machine.fresh ⟨d, .drain pc, log⟩) := by
    intro next held copied
    obtain ⟨queued, fresh⟩ : Queued ⟨d, .drain next, log⟩ ∧ _ :=
      h.quiet [] rfl rfl rfl rfl held copied
    exact ⟨queued, fun _ => fresh⟩
  cases pc with
  | resetTest | drainTest =>
    simp only [loopStep, ArduinoDriver.drainStep]
    split <;> exact moves rfl trivial
  | resetSeen => exact moves rfl trivial
  | resetApply seen =>
    obtain ⟨queued, fresh⟩ : Queued (loopStep b env ⟨d, .drain (.resetApply seen), log⟩) ∧ _ :=
      h.quiet (resetLog d) rfl (pipeline_pads (resetLog_pads d)) rfl rfl rfl trivial
    exact ⟨queued, fun _ => fresh⟩
  | resetDone seen =>
    obtain ⟨queued, fresh⟩ : Queued (loopStep b env ⟨d, .drain (.resetDone seen), log⟩) ∧ _ :=
      h.quiet [] rfl rfl rfl rfl rfl trivial
    exact ⟨queued, fun _ => fresh⟩
  | copySlot => exact moves rfl rfl
  | bumpTail tail c =>
    obtain ⟨queued, _, fresh⟩ := h.bump env ok
    exact ⟨queued, fun _ => fresh⟩
  | epochTest c =>
    by_cases current : c.epoch = d.epoch
    · simp only [loopStep, ArduinoDriver.drainStep, if_pos current]
      exact moves rfl trivial
    · simp only [loopStep, ArduinoDriver.drainStep, if_neg current]
      obtain ⟨queued, fresh⟩ := h.skip current
      exact ⟨queued, fun _ => fresh⟩
  | execute c => exact ⟨(h.execute b env).1, fun other => absurd rfl (other c)⟩
  | outerTest =>
    simp only [loopStep, ArduinoDriver.drainStep]
    split
    · exact moves rfl trivial
    · obtain ⟨queued, fresh⟩ : Queued ⟨d, .shadow .enter, .drained :: log⟩ ∧ _ :=
        h.quiet [.drained] rfl rfl rfl rfl rfl trivial
      exact ⟨queued, fun _ => fresh⟩

/-- The phases of poll() after the do-while keep the fresh commands. -/
theorem Queued.offDrain (h : Queued m) (other : m.pc.offDrain) :
    Queued (loopStep b env m) ∧ (loopStep b env m).fresh = m.fresh := by
  obtain ⟨same, _, next, news, log_eq, off⟩ := loopStep_offDrain b env m other
  have held : (loopStep b env m).pc.held = m.pc.held := by
    rw [Pc.held_offDrain other]
    rcases next with next | next
    · exact Pc.held_offDrain next
    · rw [next]
      rfl
  have copied : (loopStep b env m).pc.Copied (loopStep b env m).dev := by
    rcases next with next | next
    · exact Pc.copied_offDrain next
    · rw [next]
      trivial
  exact h.quiet news log_eq (pipeline_append off) same.commands same.epoch held copied

theorem boot_queued (b : Board) : Queued (boot b) := by
  obtain ⟨caps, nAin, eq, _⟩ := boot_dev b
  have backlog : (boot b).backlog = [] := by
    unfold Machine.backlog UsbIoDevice.commands
    rw [eq]
    exact Lib.Ring.contents_self
  refine ⟨?_, ?_, trivial⟩
  · rw [backlog]
    exact Lib.Pipeline.Carries.empty
  · unfold Machine.fresh
    rw [backlog, Lib.Pipeline.fresh_nil]
    simp

/-- An idle queue with nothing in poll()'s hands has nothing fresh left. -/
theorem Machine.fresh_eq_nil (empty : m.dev.queuePending = 0)
    (free : ∀ c ∈ m.pc.held, 0 < m.log.pipeline.stale) : m.fresh = [] := by
  have commands : m.dev.commands = [] := by
    unfold UsbIoDevice.commands
    rw [Lib.Ring.contents_eq_nil]
    by_contra more
    have count := Lib.Ring.count_pos more
    have zero : m.dev.head - m.dev.tail = 0 := empty
    rw [zero] at count
    contradiction
  have few : m.pc.held = [] ∨ ∃ c, m.pc.held = [c] := by
    cases m.pc with
    | drain pc => cases pc <;> first | exact .inl rfl | exact .inr ⟨_, rfl⟩
    | _ => exact .inl rfl
  unfold Machine.fresh Machine.backlog
  rw [commands, List.append_nil]
  rcases few with none_held | ⟨c, holds⟩
  · rw [none_held]
    exact Lib.Pipeline.fresh_nil
  · have stale := free c (by rw [holds]; exact List.mem_singleton_self c)
    rw [holds]
    exact List.drop_eq_nil_of_le stale

end ArduinoDriver
