import ArduinoDriver.Firmware.Intentions

namespace ArduinoDriver

/-- poll() holds a command that no RESET has cancelled. -/
def Machine.holdsFresh (m : Machine) : Bool :=
  !m.pc.held.isEmpty && decide (m.log.pipeline.stale = 0)

/-- The request answers for an idle device, and finds the device idle. -/
def Request.findsIdle (d : UsbIoDevice) (index : UInt16) : Request → Bool
  | .dioRead =>
    decide (index.toNat < d.nPins) && modeIsDigital (d.mode index.toNat) && !d.busy
  | .aiRead =>
    decide (index.toNat < d.nPins) && d.mode index.toNat == some .analogIn && !d.busy
  | .dioReadAll | .aiReadAll => !d.busy
  | .getStatus => d.queuePending == 0
  | _ => false

/-- The step that breaks the read order: such a request after poll() has taken the
last command from the queue and before it has executed it. -/
def readsEarly (m : Machine) : Act → Bool
  | .setup _ s =>
    match Request.ofCode? s.bRequest with
    | some req => m.holdsFresh && req.findsIdle m.dev s.index
    | none => false
  | _ => false

/-- Steps that answer no read early and let no command overtake a RESET. -/
def keepsReadOrder (m : Machine) (act : Act) : Prop :=
  readsEarly m act = false ∧ overtakesReset m act = false

instance (m : Machine) (act : Act) : Decidable (keepsReadOrder m act) :=
  inferInstanceAs (Decidable (_ ∧ _))

/-- A reply that tells the host its commands are done: a read with status OK, a
GET_STATUS with an empty queue. -/
def Request.repliesIdle (reply : List UInt8) : Request → Bool
  | .dioRead | .aiRead | .dioReadAll | .aiReadAll => reply[0]? == some Status.ok.code
  | .getStatus => reply[1]? == some 0
  | _ => false

/-- poll() is on its way through apply_reset(). -/
def Pc.resetting : Pc → Bool
  | .drain .resetSeen | .drain (.resetApply _) | .drain (.resetDone _) => true
  | _ => false

/-- A RESET or a cancelled command may still change the shadow. -/
def Machine.unsettled (m : Machine) : Bool :=
  m.dev.resetPending || decide (0 < m.log.pipeline.stale) || m.pc.resetting

/-- The shadow of pin `p` the fresh commands start from. -/
def Machine.baseDio (m : Machine) (p : Nat) : Option Bool :=
  if m.unsettled then none else some (m.dev.dio p)

/-- How the shadow of the outputs follows the intended levels. -/
structure Shadowed (m : Machine) : Prop where
  harmless : ∀ c, m.pc = .drain (.execute c) → m.log.pipeline.stale = 0 → m.dev.resetPending →
    c.harmless m.dev
  level : ∀ p v, m.dev.mode p = some .output → m.log.wished p = some v →
    m.fresh.foldl (Command.setLevel p) (m.baseDio p) = some v

variable {b : Board} {env : Env} {d d' : UsbIoDevice} {o : Obs} {log news : Log}
  {m m' : Machine} {c : Command}

/-- A step that changes the shadow of no output unless it was unsettled. -/
theorem Shadowed.level_kept (h : Shadowed m) (mode : m'.dev.mode = m.dev.mode)
    (wished : ∀ p, m'.log.wished p = m.log.wished p) (fresh : m'.fresh = m.fresh)
    (base : ∀ p, m.dev.mode p = some .output → m.unsettled = false →
      m'.baseDio p = some (m.dev.dio p)) (p : Nat) (v : Bool)
    (output : m'.dev.mode p = some .output) (wish : m'.log.wished p = some v) :
    m'.fresh.foldl (Command.setLevel p) (m'.baseDio p) = some v := by
  rw [mode] at output
  rw [wished] at wish
  have level := h.level p v output wish
  rw [fresh]
  unfold Machine.baseDio at level
  cases settled : m.unsettled with
  | true =>
    rw [settled, if_pos rfl] at level
    exact (setLevel_overwrites p).replay level _
  | false =>
    rw [settled, if_neg Bool.false_ne_true] at level
    rw [base p output settled]
    exact level

theorem Machine.baseDio_settled {p : Nat} (settled : m.unsettled = false) :
    m.baseDio p = some (m.dev.dio p) := by
  rw [baseDio, settled, if_neg Bool.false_ne_true]

theorem Machine.unsettled_eq_false : m.unsettled = false ↔
    m.dev.resetPending = false ∧ m.log.pipeline.stale = 0 ∧ m.pc.resetting = false := by
  unfold unsettled
  rw [Bool.or_eq_false_iff, Bool.or_eq_false_iff, decide_eq_false_iff_not, Nat.not_lt,
    Nat.le_zero, and_assoc]

theorem Pc.resetting_offDrain {pc : Pc} (other : pc.offDrain) : pc.resetting = false := by
  cases pc with
  | drain pc => contradiction
  | _ => rfl

/-- A step that keeps a settled shadow, and executes nothing. -/
theorem Shadowed.kept (h : Shadowed m) (fresh : m'.fresh = m.fresh)
    (mode : m'.dev.mode = m.dev.mode) (wished : ∀ p, m'.log.wished p = m.log.wished p)
    (settles : m.unsettled = false → m'.dev.dio = m.dev.dio ∧ m'.unsettled = false)
    (calm : ∀ c, m'.pc ≠ .drain (.execute c)) : Shadowed m' := by
  refine ⟨fun c executing => absurd executing (calm c), h.level_kept mode wished fresh ?_⟩
  intro p _ settled
  obtain ⟨dio, settled'⟩ := settles settled
  rw [Machine.baseDio_settled settled', dio]

/-- A step that is not about commands and keeps the shadow of the outputs. -/
theorem Shadowed.quiet (news : Log) (h : Shadowed m)
    (log_eq : m'.log = news ++ m.log) (off : ∀ o ∈ news, o.offCommands)
    (same : SameCommands m'.dev m.dev)
    (dio : ∀ p, modeIsInput (m.dev.mode p) = false → m'.dev.dio p = m.dev.dio p)
    (pc : m'.pc = m.pc ∨ m.pc.offDrain ∧ (m'.pc.offDrain ∨ m'.pc = .drain .resetTest)) :
    Shadowed m' := by
  have pipeline : m'.log.pipeline = m.log.pipeline := by rw [log_eq, pipeline_append off]
  have held : m'.pc.held = m.pc.held := by
    rcases pc with eq | ⟨other, next | next⟩
    · rw [eq]
    · rw [Pc.held_offDrain other, Pc.held_offDrain next]
    · rw [Pc.held_offDrain other, next]
      rfl
  have fresh : m'.fresh = m.fresh := by
    unfold Machine.fresh Machine.backlog
    rw [pipeline, held, same.commands]
  refine ⟨?_, h.level_kept same.mode ?_ fresh ?_⟩
  · intro c executing current pending
    rw [same.resets.pending] at pending
    rw [pipeline] at current
    have before : m.pc = .drain (.execute c) := by
      rcases pc with eq | ⟨_, next | next⟩
      · rw [← eq, executing]
      · rw [executing] at next
        contradiction
      · rw [executing] at next
        injection next with next
        contradiction
    have harmless := h.harmless c before current pending
    unfold Command.harmless at harmless ⊢
    rwa [same.caps]
  · intro p
    rw [log_eq, wished_append off]
  · intro p output settled
    obtain ⟨pending, current, calm⟩ := Machine.unsettled_eq_false.mp settled
    have calm' : m'.pc.resetting = false := by
      rcases pc with eq | ⟨_, next | next⟩
      · rw [eq, calm]
      · exact Pc.resetting_offDrain next
      · rw [next]
        rfl
    rw [Machine.baseDio_settled (Machine.unsettled_eq_false.mpr ⟨?_, ?_, calm'⟩)]
    · rw [dio p (by rw [output]; rfl)]
    · rw [same.resets.pending, pending]
    · rw [pipeline, current]

/-- What execute() leaves in the shadow of pin `p`. -/
theorem execute_dio (b : Board) (env : Env) (d : UsbIoDevice) (c : Command) (p : Nat) :
    c.setLevel p (some (d.dio p)) = none ∨
      c.setLevel p (some (d.dio p)) = some ((execute b env d c).1.dio p) := by
  by_cases same : c.pin = p
  · unfold Command.setLevel
    rw [if_pos same]
    cases cmd : c.cmd with
    | pinMode => exact .inl rfl
    | dioWrite =>
      right
      simp only [execute, cmd]
      rw [same, Function.update_self]
    | _ =>
      right
      simp only [execute, cmd]
  · right
    rw [Command.setLevel_elsewhere same]
    unfold execute
    split
    · split
      · unfold applyMode
        split
        · exact congrArg some (Function.update_of_ne (Ne.symm same) ..).symm
        · split <;> rfl
      · rfl
    · exact congrArg some (Function.update_of_ne (Ne.symm same) ..).symm
    all_goals rfl

/-- An executed command moves the shadow as it moves the intentions. -/
theorem Shadowed.execute (h : Shadowed ⟨d, .drain (.execute c), log⟩)
    (queued : Queued ⟨d, .drain (.execute c), log⟩)
    (ok : Machine.Ok b ⟨d, .drain (.execute c), log⟩) :
    Shadowed (loopStep b env ⟨d, .drain (.execute c), log⟩) := by
  obtain ⟨_, first, behind⟩ := queued.execute b env
  obtain ⟨dio, ain, dev⟩ := execute_frame b env d c
  have pads := execute_pads b env d c
  have shadow := execute_dio b env d c
  have after : loopStep b env ⟨d, .drain (.execute c), log⟩ =
      ⟨{ d with dio := dio, ain := ain }, .drain .drainTest,
        (.executed c :: (ArduinoDriver.execute b env d c).2) ++ log⟩ := by
    simp only [loopStep, drainStep, dev, Option.map_some, Option.getD_some]
  rw [after] at first behind ⊢
  rw [dev] at shadow
  refine ⟨by simp, ?_⟩
  intro p v output wish
  have level := h.level p v output ((wished_pads pads p).symm.trans wish)
  have digital : hasCap (d.caps p) capDio := ok.dev.modes p .output output
  by_cases gone : 0 < log.pipeline.stale
  · have unsettled : Machine.unsettled ⟨d, .drain (.execute c), log⟩ := by
      simp [Machine.unsettled, gone]
    rw [Machine.baseDio, if_pos unsettled] at level
    rw [behind gone]
    exact (setLevel_overwrites p).replay level _
  · have current : log.pipeline.stale = 0 := Nat.eq_zero_of_not_pos gone
    rw [first current, List.foldl_cons] at level
    by_cases pending : d.resetPending
    · have unsettled : Machine.unsettled ⟨d, .drain (.execute c), log⟩ := by
        simp [Machine.unsettled, pending]
      rw [Machine.baseDio, if_pos unsettled,
        (Command.harmless_digital (h.harmless c rfl current pending) digital).2] at level
      exact (setLevel_overwrites p).replay level _
    · have calm : d.resetPending = false := by simpa using pending
      rw [Machine.baseDio_settled (Machine.unsettled_eq_false.mpr ⟨calm, current, rfl⟩)] at level
      rw [Machine.baseDio_settled (Machine.unsettled_eq_false.mpr ⟨calm, ?_, rfl⟩)]
      swap
      · rw [executed_pipeline, Lib.Pipeline.stale_finish, current]
      rcases shadow p with unknown | written
      · rw [unknown] at level
        exact (setLevel_overwrites p).replay level _
      · rw [written] at level
        exact level

/-- What the interrupt side does to commands leaves the shadow true to them. -/
theorem Shadowed.served {m : Machine} (h : Shadowed m) (queued : Queued m) (ok : m.Ok b)
    (served : Served b env m.dev d' o) : Shadowed ⟨d', m.pc, o :: m.log⟩ := by
  rcases served.intake queued ok with ⟨same, dio, off⟩ | ⟨index, value, rfl, rfl⟩ | ⟨c, enters, _⟩
  · have only : ∀ o' ∈ [o], o'.offCommands := by simpa using off
    exact h.quiet [o] rfl only same (fun p _ => congrFun dio p) (.inl rfl)
  · refine ⟨?_, ?_⟩
    · intro c pc current
      have stale := queued.carries.stale_cancel
      rw [List.length_map] at stale
      have waits : m.backlog = c :: m.dev.commands := by
        unfold Machine.backlog
        rw [pc]
        rfl
      rw [waits] at stale
      exact absurd (stale.symm.trans current) (Nat.succ_ne_zero _)
    · intro p v output
      have input := (requestReset_mode ok.dev output).1
      contradiction
  · refine ⟨?_, ?_⟩
    · intro c' pc current pending
      rw [enters.pending] at pending
      rw [enters.stale] at current
      have harmless := h.harmless c' pc current pending
      unfold Command.harmless at harmless ⊢
      rwa [enters.caps]
    · intro p v output wish
      have base : Machine.baseDio ⟨d', m.pc, o :: m.log⟩ p = m.baseDio p := by
        unfold Machine.baseDio Machine.unsettled
        rw [enters.pending, enters.stale, enters.dio]
      rw [enters.fresh, base, List.foldl_append, List.foldl_cons, List.foldl_nil]
      rcases enters.level p v output wish with decides | ⟨before, wish', ignores⟩
      · exact decides _
      · rw [ignores]
        exact h.level p v before wish'

/-- The epoch test lets through what the guard allows, and nothing changes yet. -/
theorem Shadowed.epochTest (h : Shadowed ⟨d, .drain (.epochTest c), log⟩)
    (queued : Queued ⟨d, .drain (.epochTest c), log⟩)
    (keeps : overtakesReset ⟨d, .drain (.epochTest c), log⟩ (.loop env) = false) :
    Shadowed (loopStep b env ⟨d, .drain (.epochTest c), log⟩) := by
  by_cases current : c.epoch = d.epoch
  · simp only [loopStep, drainStep, if_pos current, Option.map_some, Option.getD_some,
      List.nil_append]
    refine ⟨?_, h.level⟩
    rintro _ ⟨rfl⟩ _ pending
    simpa [overtakesReset, current, pending] using keeps
  · simp only [loopStep, drainStep, if_neg current, Option.map_some, Option.getD_some]
    refine h.kept (queued.skip current).2 rfl (fun _ => rfl) ?_ (by simp)
    intro settled
    have stale := queued.skipped_stale current
    exact absurd (Machine.unsettled_eq_false.mp settled).2.1 (Nat.ne_of_gt stale)

/-- A step of the do-while. -/
theorem Shadowed.drainStep {pc : DrainPc} (h : Shadowed ⟨d, .drain pc, log⟩)
    (queued : Queued ⟨d, .drain pc, log⟩) (ok : Machine.Ok b ⟨d, .drain pc, log⟩)
    (keeps : overtakesReset ⟨d, .drain pc, log⟩ (.loop env) = false) :
    Shadowed (loopStep b env ⟨d, .drain pc, log⟩) := by
  have fresh := (queued.drainStep env ok).2
  cases pc with
  | resetTest =>
    specialize fresh (by simp)
    simp only [loopStep, ArduinoDriver.drainStep] at fresh ⊢
    split at fresh
    · rename_i pending
      rw [if_pos pending]
      refine h.kept fresh rfl (fun _ => rfl) ?_ (by simp)
      intro settled
      have calm : d.resetDone = d.resetRequests := by
        simpa [UsbIoDevice.resetPending] using (Machine.unsettled_eq_false.mp settled).1
      exact absurd calm pending
    · rename_i served
      rw [if_neg served]
      exact h.kept fresh rfl (fun _ => rfl) (fun settled => ⟨rfl, settled⟩) (by simp)
  | resetSeen | resetDone seen =>
    refine h.kept (fresh (by simp)) rfl (fun _ => rfl) ?_
      (by simp [loopStep, ArduinoDriver.drainStep])
    intro settled
    have := (Machine.unsettled_eq_false.mp settled).2.2
    contradiction
  | resetApply seen =>
    refine h.kept (fresh (by simp)) rfl (wished_pads (resetLog_pads d)) ?_
      (by simp [loopStep, ArduinoDriver.drainStep])
    intro settled
    have := (Machine.unsettled_eq_false.mp settled).2.2
    contradiction
  | drainTest =>
    specialize fresh (by simp)
    simp only [loopStep, ArduinoDriver.drainStep] at fresh ⊢
    split at fresh
    · rename_i more
      rw [if_pos more]
      exact h.kept fresh rfl (fun _ => rfl) (fun settled => ⟨rfl, settled⟩) (by simp)
    · rename_i empty
      rw [if_neg empty]
      exact h.kept fresh rfl (fun _ => rfl) (fun settled => ⟨rfl, settled⟩) (by simp)
  | copySlot | bumpTail tail c =>
    exact h.kept (fresh (by simp)) rfl (fun _ => rfl) (fun settled => ⟨rfl, settled⟩)
      (by simp [loopStep, ArduinoDriver.drainStep])
  | epochTest c => exact h.epochTest queued keeps
  | execute c => exact h.execute queued ok
  | outerTest =>
    specialize fresh (by simp)
    simp only [loopStep, ArduinoDriver.drainStep] at fresh ⊢
    split at fresh
    · rename_i pending
      rw [if_pos pending]
      exact h.kept fresh rfl (fun _ => rfl) (fun settled => ⟨rfl, settled⟩) (by simp)
    · rename_i served
      rw [if_neg served]
      exact h.kept fresh rfl (fun _ => rfl) (fun settled => ⟨rfl, settled⟩) (by simp)

/-- One step of the machine. -/
theorem step_shadowed {act : Act} (h : Shadowed m) (queued : Queued m) (ok : m.Ok b)
    (keeps : overtakesReset m act = false) : Shadowed (step b m act) := by
  cases act with
  | setup env s => exact h.served queued ok (handleSetup_served b env m.dev s)
  | disconnect =>
    exact h.quiet [.disconnected] rfl (by simp [Obs.offCommands])
      ⟨rfl, rfl, rfl, rfl, rfl, rfl, rfl, rfl, rfl⟩ (fun _ _ => rfl) (.inl rfl)
  | loop env =>
    by_cases other : m.pc.offDrain
    · obtain ⟨same, dio, next, news, log_eq, off⟩ := loopStep_offDrain b env m other
      exact h.quiet news log_eq off same dio (.inr ⟨other, next⟩)
    · obtain ⟨d, pc, log⟩ := m
      cases pc with
      | drain pc => exact h.drainStep queued ok keeps
      | _ => exact absurd rfl other

theorem boot_shadowed (b : Board) : Shadowed (boot b) :=
  ⟨by simp [boot], fun _ _ _ wish => by contradiction⟩

theorem readStatus_ok {fits : Option PinMode → Bool} {index : UInt16}
    (said : (readStatus d fits index).code = Status.ok.code) :
    readStatus d fits index = .ok ∧ index.toNat < d.nPins ∧ fits (d.mode index.toNat) ∧
      d.busy = false := by
  unfold readStatus at said ⊢
  split at said
  · contradiction
  · split at said
    · contradiction
    · split at said
      · contradiction
      · rename_i known fitting free
        rw [if_neg known, if_neg fitting, if_neg free]
        exact ⟨rfl, by omega, by simpa using fitting, by simpa using free⟩

theorem allHeader_ok (said : (allHeader d)[0]? = some Status.ok.code) : d.busy = false := by
  by_contra busy
  have busy : d.busy := by simpa using busy
  unfold allHeader at said
  rw [if_pos busy] at said
  contradiction

theorem getElem?_of_take {bytes : List UInt8} {n i : Nat} {x : UInt8}
    (found : (bytes.take n)[i]? = some x) : bytes[i]? = some x := by
  rw [List.getElem?_take] at found
  split at found
  · exact found
  · contradiction

/-- A reply that tells of an idle device comes from one. -/
theorem Served.repliesIdle {req : Request} {index : UInt16} {reply : List UInt8}
    (served : Served b env d d' (.answered req index reply)) (idle : req.repliesIdle reply) :
    req.findsIdle d index ∧
    (req = .dioRead → ∀ x, reply[1]? = some x → x = if d.dio index.toNat then 1 else 0) := by
  have status : ∀ n, Request.getStatus.repliesIdle ((statusBytes d).take n) →
      Request.getStatus.findsIdle d index := by
    intro n idle
    have said : (statusBytes d)[1]? = some 0 := getElem?_of_take (beq_iff_eq.mp idle)
    simpa [statusBytes, Request.findsIdle] using said
  cases served with
  | status index wLength => exact ⟨status _ idle, by simp⟩
  | popped index wLength => contradiction
  | read _ index wLength reply said =>
    have said := congrArg Prod.snd said
    cases req with
    | dioRead =>
      obtain rfl : dioBytes d index = reply := Option.some.inj said
      have code := getElem?_of_take (beq_iff_eq.mp idle)
      obtain ⟨ok, known, fitting, free⟩ := readStatus_ok (Option.some.inj code)
      refine ⟨by simp [Request.findsIdle, known, fitting, free], ?_⟩
      intro _ x found
      have value := Option.some.inj (getElem?_of_take found)
      rw [← value, ok]
      simp
    | aiRead =>
      obtain rfl : aiBytes d index = reply := Option.some.inj said
      have code := getElem?_of_take (beq_iff_eq.mp idle)
      obtain ⟨_, known, fitting, free⟩ := readStatus_ok (Option.some.inj code)
      exact ⟨by simp [Request.findsIdle, known, beq_iff_eq.mp fitting, free], by simp⟩
    | dioReadAll =>
      obtain rfl : allHeader d ++ digitalBitmap d = reply := Option.some.inj said
      have code := getElem?_of_take (beq_iff_eq.mp idle)
      have free := allHeader_ok code
      exact ⟨by simp [Request.findsIdle, free], by simp⟩
    | aiReadAll =>
      obtain rfl : allHeader d ++ aiAllSamples d = reply := Option.some.inj said
      have code := getElem?_of_take (beq_iff_eq.mp idle)
      have free := allHeader_ok code
      exact ⟨by simp [Request.findsIdle, free], by simp⟩
    | getStatus =>
      obtain rfl : statusBytes d = reply := Option.some.inj said
      exact ⟨status _ idle, by simp⟩
    | _ => contradiction

/-- A device found idle, with no command in poll()'s hands, has done what it was
told. -/
theorem Queued.settled_of_idle {req : Request} {index : UInt16} (h : Queued m)
    (idle : req.findsIdle m.dev index) (free : m.holdsFresh = false) :
    m.fresh = [] ∧ m.log.pipeline.Settled := by
  have empty : m.dev.queuePending = 0 := by
    have of_free : m.dev.busy = false → m.dev.queuePending = 0 := by
      intro free
      simpa using (Bool.or_eq_false_iff.mp free).1
    cases req with
    | dioRead | aiRead =>
      simp only [Request.findsIdle, Bool.and_eq_true, Bool.not_eq_true'] at idle
      exact of_free idle.2
    | dioReadAll | aiReadAll => exact of_free (by simpa [Request.findsIdle] using idle)
    | getStatus => exact beq_iff_eq.mp idle
    | _ => contradiction
  have fresh : m.fresh = [] := by
    refine Machine.fresh_eq_nil empty ?_
    intro c inside
    by_contra current
    have none_gone : m.log.pipeline.stale = 0 := Nat.eq_zero_of_not_pos current
    simp only [Machine.holdsFresh, none_gone, decide_true, Bool.and_true,
      Bool.not_eq_false', List.isEmpty_iff] at free
    rw [free] at inside
    contradiction
  refine ⟨fresh, h.carries.settled ?_⟩
  change (m.backlog.map Command.order).drop _ = []
  rw [← List.map_drop]
  exact congrArg _ fresh

/-- A reply that tells of an idle device, to a request that is not early. -/
theorem idle_reply_settled {s : SetupPacket} {req : Request} {index : UInt16}
    {reply : List UInt8} (shadowed : Shadowed m) (queued : Queued m)
    (keeps : keepsReadOrder m (.setup env s))
    (answered : s.obs (handleSetup b env m.dev s).2 = .answered req index reply)
    (idle : req.repliesIdle reply) :
    m.log.pipeline.Settled ∧
    (req = .dioRead → ∀ v x, m.dev.mode index.toNat = some .output →
      m.log.wished index.toNat = some v → reply[1]? = some x → x = if v then 1 else 0) := by
  have served := handleSetup_served b env m.dev s
  rw [answered] at served
  obtain ⟨found, value⟩ := served.repliesIdle idle
  obtain ⟨_, _, named, rfl⟩ := SetupPacket.obs_answered answered
  have free : m.holdsFresh = false := by
    by_contra holds
    have early := keeps.1
    simp only [readsEarly, named, found, Bool.and_true] at early
    exact holds early
  obtain ⟨fresh, settled⟩ := queued.settled_of_idle found free
  refine ⟨settled, ?_⟩
  intro isRead v x output wish reads
  have level := shadowed.level _ v output wish
  rw [fresh, List.foldl_nil, Machine.baseDio] at level
  split at level
  · contradiction
  · rw [value isRead x reads, Option.some.inj level]

end ArduinoDriver
