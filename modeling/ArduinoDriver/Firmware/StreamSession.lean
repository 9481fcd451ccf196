import ArduinoDriver.Firmware.StreamAccounting

namespace ArduinoDriver

def Obs.isStart : Obs → Bool
  | .accepted .streamStart _ _ => true
  | _ => false

/-- The log since the last START was accepted. -/
def Log.sinceStart (log : Log) : Log := log.takeWhile (fun o => !o.isStart)

/-- The log since the last reset done for a START. -/
def Log.sinceReset (log : Log) : Log := log.takeWhile (· != .streamReset)

def Obs.countStart : Obs → Nat → Nat
  | .startTested, _ => 0
  | .accepted .streamStart _ _, n => n + 1
  | _, n => n

/-- STARTs accepted since stream_poll() last looked for one. -/
def Log.startsSinceTest (log : Log) : Nat := log.foldr Obs.countStart 0

def Obs.countStrike : Obs → Nat → Nat
  | .streamReset, _ | .wrote _ .sent, _ => 0
  | .wrote _ .failed, n => n + 1
  | _, n => n

/-- FAILED writes since the last reset or SENT write; a BUSY one hands nothing over. -/
def Log.strikes (log : Log) : Nat := log.foldr Obs.countStrike 0

/-- What may end the stream of the last START accepted: STOP, RESET, a disconnect,
a PIN_MODE on a selected pin; and, after the reset done for that START, an overrun
with STOP_ON_OVERRUN or StreamTxFailureLimit FAILED writes. -/
def rightfulStop (b : Board) (m : Machine) : Act → Bool
  | .disconnect => true
  | .setup env s =>
    match s.obs (handleSetup b env m.dev s).2 with
    | .accepted .streamStop _ _ | .accepted .reset _ _ => true
    | .accepted .pinMode index _ => (m.dev.stream.channelIndex index.toNat).isSome
    | _ => false
  | .loop _ =>
    m.log.sinceStart.contains .streamReset &&
    match m.pc with
    | .stream (.stopRunning _) =>
      hasStreamFlag m.dev.stream.flags streamFlagStopOnOverrun && m.log.sinceReset.contains .overrun
    | .stream .failStop => decide (streamTxFailureLimit ≤ m.log.strikes)
    | _ => false

/-- The step that breaks it: stream_poll() stops the stream although a START was
accepted since it looked for one. -/
def predecessorStops (m : Machine) : Act → Bool
  | .loop _ =>
    decide (0 < m.log.startsSinceTest) &&
    match m.pc with
    | .stream .failStop | .stream (.stopRunning _) => true
    | _ => false
  | _ => false

/-- Steps that neither stop a stream for its predecessor nor hide a START from
stream_poll() by letting its 8-bit counter come round. -/
def keepsSessions (b : Board) (m : Machine) (act : Act) : Prop :=
  predecessorStops m act = false ∧ (step b m act).log.startsSinceTest < 256

instance (b : Board) (m : Machine) (act : Act) : Decidable (keepsSessions b m act) :=
  inferInstanceAs (Decidable (_ ∧ _))

/-- What stream_poll() has to show for a stop it is about to make. -/
def StreamPc.Due (s : StreamState) (log : Log) : StreamPc → Prop
  | .stopFlagTest _ => .overrun ∈ log.sinceReset
  | .stopRunning _ => .overrun ∈ log.sinceReset ∧
    (log.startsSinceTest = 0 → hasStreamFlag s.flags streamFlagStopOnOverrun)
  | .failStop => streamTxFailureLimit ≤ log.strikes
  | _ => True

def Pc.Due (s : StreamState) (log : Log) : Pc → Prop
  | .stream pc => pc.Due s log
  | _ => True

/-- How the START counters and the failure counter follow the log. -/
structure Session (m : Machine) : Prop where
  unseen : m.pc ≠ .stream .startDone →
    (m.dev.stream.startRequests - m.dev.stream.startDone).toNat ≤ m.log.startsSinceTest
  handled : m.pc ≠ .stream .startDone → m.pc ≠ .stream .startReset →
    m.dev.stream.startDone = m.dev.stream.startRequests →
    (∀ o ∈ m.log, o.isStart = false) ∨ .streamReset ∈ m.log.sinceStart
  strikes : m.dev.stream.txFailures ≤ m.log.strikes
  due : m.pc.Due m.dev.stream m.log

/-- Log entries the session's counters do not read. -/
def Obs.offSession : Obs → Bool
  | .startTested | .streamReset | .accepted .streamStart _ _ | .wrote _ .sent
  | .wrote _ .failed => false
  | _ => true

variable {b : Board} {env : Env} {d d' : UsbIoDevice} {o : Obs} {log news : Log}
  {m m' : Machine}

theorem Obs.isStart_offSession (off : o.offSession) : o.isStart = false := by
  cases o with
  | accepted req => cases req <;> first | rfl | contradiction
  | _ => rfl

theorem startsSinceTest_append (off : ∀ o ∈ news, o.offSession) :
    Log.startsSinceTest (news ++ log) = log.startsSinceTest := by
  apply Lib.Journal.foldr_inert
  intro o inside n
  have := off o inside
  unfold Obs.countStart
  split <;> first | contradiction | rfl

theorem strikes_append (off : ∀ o ∈ news, o.offSession) :
    Log.strikes (news ++ log) = log.strikes := by
  apply Lib.Journal.foldr_inert
  intro o inside n
  have := off o inside
  unfold Obs.countStrike
  split <;> first | contradiction | rfl

theorem sinceStart_append (off : ∀ o ∈ news, o.offSession) :
    Log.sinceStart (news ++ log) = news ++ log.sinceStart := by
  apply List.takeWhile_append_of_pos
  intro o inside
  simp [Obs.isStart_offSession (off o inside)]

theorem sinceReset_append (off : ∀ o ∈ news, o.offSession) :
    Log.sinceReset (news ++ log) = news ++ log.sinceReset := by
  apply List.takeWhile_append_of_pos
  intro o inside
  have := off o inside
  rw [bne_iff_ne]
  rintro rfl
  contradiction

/-- A step the session's counters do not see. -/
theorem Session.quiet (news : Log) (h : Session m) (log_eq : m'.log = news ++ m.log)
    (off : ∀ o ∈ news, o.offSession)
    (requests : m'.dev.stream.startRequests = m.dev.stream.startRequests)
    (done : m'.dev.stream.startDone = m.dev.stream.startDone)
    (failures : m'.dev.stream.txFailures ≤ m.dev.stream.txFailures)
    (seen : m.pc = .stream .startDone → m'.pc = .stream .startDone)
    (reset : m.pc = .stream .startReset → m'.pc = .stream .startReset)
    (due : m'.pc.Due m'.dev.stream m'.log) : Session m' := by
  refine ⟨?_, ?_, ?_, due⟩
  · intro elsewhere
    rw [requests, done, log_eq, startsSinceTest_append off]
    exact h.unseen (fun at_test => elsewhere (seen at_test))
  · intro elsewhere elsewhere'
    rw [requests, done, log_eq, sinceStart_append off]
    intro none_left
    rcases h.handled (fun at_test => elsewhere (seen at_test))
      (fun at_reset => elsewhere' (reset at_reset)) none_left with never | answered
    · left
      intro o inside
      rcases List.mem_append.mp inside with new | old
      · exact Obs.isStart_offSession (off o new)
      · exact never o old
    · exact .inr (List.mem_append_right _ answered)
  · rw [log_eq, strikes_append off]
    exact failures.trans h.strikes

theorem Obs.offSession_of_offStream (off : o.offStream) : o.offSession := by
  cases o <;> first | rfl | contradiction

/-- A START seen from the interrupt side; any other packet leaves the session alone. -/
theorem Served.session (served : Served b env d d' o) :
    (∃ index value, o = .accepted .streamStart index value ∧ d'.stream = { d.stream with
      periodUs := value
      flags := index.toUInt8
      running := true
      startRequests := d.stream.startRequests + 1 }) ∨
    o.offSession ∧ d'.stream.startRequests = d.stream.startRequests ∧
      d'.stream.startDone = d.stream.startDone ∧ d'.stream.txFailures = d.stream.txFailures ∧
      d'.stream.flags = d.stream.flags := by
  cases served with
  | started index value => exact .inl ⟨index, value, rfl, rfl⟩
  | moded index value mode =>
    refine .inr ⟨rfl, ?_⟩
    unfold recordMode
    dsimp only
    split <;> exact ⟨rfl, rfl, rfl, rfl⟩
  | unchanged req index value settled =>
    rcases settled with rfl | rfl <;> exact .inr ⟨rfl, rfl, rfl, rfl, rfl⟩
  | written req mode index value writes =>
    cases req <;> first | contradiction | exact .inr ⟨rfl, rfl, rfl, rfl, rfl⟩
  | _ => exact .inr ⟨rfl, rfl, rfl, rfl, rfl⟩

theorem Pc.Due.append {pc : Pc} {s s' : StreamState} (h : pc.Due s log)
    (off : ∀ o ∈ news, o.offSession) (flags : s'.flags = s.flags) : pc.Due s' (news ++ log) := by
  cases pc with
  | stream pc =>
    cases pc with
    | stopFlagTest now =>
      change Obs.overrun ∈ Log.sinceReset (news ++ log)
      rw [sinceReset_append off]
      exact List.mem_append_right _ h
    | stopRunning now =>
      obtain ⟨overran, flag⟩ := h
      refine ⟨?_, ?_⟩
      · rw [sinceReset_append off]
        exact List.mem_append_right _ overran
      · rw [startsSinceTest_append off, flags]
        exact flag
    | failStop =>
      change streamTxFailureLimit ≤ Log.strikes (news ++ log)
      rw [strikes_append off]
      exact h
    | _ => trivial
  | _ => trivial

/-- An accepted START is one more to see, and none has been answered since. -/
theorem Session.start {index value : UInt16} (h : Session m)
    (log_eq : m'.log = .accepted .streamStart index value :: m.log) (pc : m'.pc = m.pc)
    (stream : m'.dev.stream = { m.dev.stream with
      periodUs := value, flags := index.toUInt8, running := true
      startRequests := m.dev.stream.startRequests + 1 })
    (few : m'.log.startsSinceTest < 256) : Session m' := by
  have counted : m'.log.startsSinceTest = m.log.startsSinceTest + 1 := by
    rw [log_eq]
    rfl
  have unseen : m.pc ≠ .stream .startDone →
      (m.dev.stream.startRequests + 1 - m.dev.stream.startDone).toNat =
        (m.dev.stream.startRequests - m.dev.stream.startDone).toNat + 1 := by
    intro elsewhere
    have := h.unseen elsewhere
    exact Lib.Ring.count_head (by omega)
  refine ⟨?_, ?_, ?_, ?_⟩
  · rw [pc, stream, counted]
    intro elsewhere
    have := h.unseen elsewhere
    have := unseen elsewhere
    dsimp only
    omega
  · rw [pc, stream]
    intro elsewhere _ none_left
    have := unseen elsewhere
    dsimp only at none_left
    rw [none_left, UInt8.sub_self] at this
    simp at this
  · rw [stream, log_eq]
    exact h.strikes
  · have due := h.due
    rw [pc, stream, log_eq]
    cases eq : m.pc with
    | stream pc =>
      rw [eq] at due
      cases pc with
      | stopFlagTest now => exact List.mem_cons_of_mem _ due
      | stopRunning now =>
        refine ⟨List.mem_cons_of_mem _ due.1, ?_⟩
        intro zero
        change m.log.startsSinceTest + 1 = 0 at zero
        omega
      | failStop => exact due
      | _ => trivial
    | _ => trivial

/-- stream_poll() keeps the session's books. -/
theorem streamStep_session {pc : StreamPc} (h : Session ⟨d, .stream pc, log⟩) :
    Session (loopStep b env ⟨d, .stream pc, log⟩) := by
  cases pc with
  | startTest =>
    by_cases waits : d.stream.startDone ≠ d.stream.startRequests
    · have pc : (loopStep b env ⟨d, .stream .startTest, log⟩).pc = .stream .startDone := by
        simp only [loopStep, streamStep, if_pos waits, Option.map_some, Option.getD_some]
      refine ⟨fun elsewhere => absurd pc elsewhere, fun elsewhere => absurd pc elsewhere,
        h.strikes, ?_⟩
      rw [pc]
      trivial
    · have pc : (loopStep b env ⟨d, .stream .startTest, log⟩).pc = .stream .runTest := by
        simp only [loopStep, streamStep, if_neg waits, Option.map_some, Option.getD_some]
      have none_left : d.stream.startDone = d.stream.startRequests := Decidable.not_not.mp waits
      refine ⟨?_, ?_, h.strikes, ?_⟩
      · intro _
        change (d.stream.startRequests - d.stream.startDone).toNat ≤ 0
        simp [none_left]
      · intro _ _ _
        rcases h.handled (by simp) (by simp) none_left with never | answered
        · left
          intro o inside
          rcases List.mem_cons.mp inside with rfl | old
          · rfl
          · exact never o old
        · exact .inr (List.mem_cons_of_mem _ answered)
      · rw [pc]
        trivial
  | startDone =>
    refine ⟨?_, fun _ elsewhere => absurd rfl elsewhere, h.strikes, trivial⟩
    intro _
    change (d.stream.startRequests - d.stream.startRequests).toNat ≤ _
    simp
  | startReset =>
    refine ⟨?_, ?_, Nat.zero_le _, trivial⟩
    · intro _
      exact h.unseen (by simp)
    · intro _ _ _
      exact .inr (List.mem_cons_self ..)
  | bumpOverruns now =>
    exact h.quiet [.overrun] rfl (by simp [Obs.offSession]) rfl rfl (Nat.le_refl _) (by simp) (by simp)
      (List.mem_cons_self ..)
  | stopFlagTest now =>
    have overran : .overrun ∈ log.sinceReset := h.due
    refine h.quiet [] rfl (by simp) rfl rfl (Nat.le_refl _) (by simp) (by simp) ?_
    by_cases flag : hasStreamFlag d.stream.flags streamFlagStopOnOverrun
    · simp only [loopStep, streamStep, if_pos flag, Option.map_some, Option.getD_some]
      exact ⟨overran, fun _ => flag⟩
    · simp only [loopStep, streamStep, if_neg flag, Option.map_some, Option.getD_some]
      trivial
  | writeResult packet =>
    have strikes : d.stream.txFailures ≤ log.strikes := h.strikes
    simp only [loopStep, streamStep]
    cases env.streamWrite with
    | busy =>
      exact h.quiet [.pollReturned, .wrote _ .busy] rfl (by simp [Obs.offSession]) rfl rfl
        (Nat.le_refl _) (by simp) (by simp) trivial
    | failed =>
      have struck : d.stream.txFailures + 1 ≤ Log.strikes (.wrote packet .failed :: log) :=
        Nat.succ_le_succ strikes
      dsimp only
      split
      · refine ⟨fun _ => h.unseen (by simp), fun _ _ none_left => ?_, struck, trivial⟩
        rcases h.handled (by simp) (by simp) none_left with never | answered
        · refine .inl ?_
          simpa [returnLog, Obs.isStart] using never
        · exact .inr (List.mem_cons_of_mem _ (List.mem_cons_of_mem _ answered))
      · rename_i limit
        refine ⟨fun _ => h.unseen (by simp), fun _ _ none_left => ?_, struck,
          (Nat.not_lt.mp limit).trans struck⟩
        rcases h.handled (by simp) (by simp) none_left with never | answered
        · refine .inl ?_
          simpa [returnLog, Obs.isStart] using never
        · exact .inr (List.mem_cons_of_mem _ answered)
    | sent =>
      refine ⟨fun _ => h.unseen (by simp), fun _ _ none_left => ?_, Nat.zero_le _, trivial⟩
      rcases h.handled (by simp) (by simp) none_left with never | answered
      · refine .inl ?_
        simpa [returnLog, Obs.isStart] using never
      · exact .inr (List.mem_cons_of_mem _ (List.mem_cons_of_mem _ answered))
  | failDrop =>
    exact h.quiet [.pollReturned, .dropped _] rfl (by simp [Obs.offSession]) rfl rfl
      (Nat.zero_le _) (by simp) (by simp) trivial
  | pushRecord now buf =>
    exact h.quiet [.sampled buf] rfl (by simp [Obs.offSession]) rfl rfl (Nat.le_refl _) (by simp) (by simp)
      trivial
  | stopRunning | advance | sampleHeader | channelRead | bumpSeq | writeCall =>
    exact h.quiet [] rfl (by simp) rfl rfl (Nat.le_refl _) (by simp) (by simp) trivial
  | failStop =>
    exact h.quiet [] rfl (by simp) rfl rfl (Nat.le_refl _) (by simp) (by simp) trivial
  | runTest | dueTest | channelTest | digitalTest | bitmapPin | roomTest | periodTest =>
    refine h.quiet [] rfl (by simp) rfl rfl (Nat.le_refl _) (by simp) (by simp) ?_
    simp only [loopStep, streamStep]
    split <;> trivial
  | catchUp now =>
    simp only [loopStep, streamStep]
    split <;> exact h.quiet [] rfl (by simp) rfl rfl (Nat.le_refl _) (by simp) (by simp) trivial
  | packRecord =>
    simp only [loopStep, streamStep]
    split
    · split <;> exact h.quiet [] rfl (by simp) rfl rfl (Nat.le_refl _) (by simp) (by simp) trivial
    · exact h.quiet [] rfl (by simp) rfl rfl (Nat.le_refl _) (by simp) (by simp) trivial
  | flushTest =>
    simp only [loopStep, streamStep]
    split
    · exact h.quiet [.pollReturned] rfl (by simp [Obs.offSession]) rfl rfl (Nat.le_refl _)
        (by simp) (by simp) trivial
    · split
      · exact h.quiet [.pollReturned] rfl (by simp [Obs.offSession]) rfl rfl (Nat.le_refl _)
          (by simp) (by simp) trivial
      · exact h.quiet [] rfl (by simp) rfl rfl (Nat.le_refl _) (by simp) (by simp) trivial

theorem loopStep_session (h : Session m) : Session (loopStep b env m) := by
  by_cases other : m.pc.offStream
  · obtain ⟨stream, pc, news, log_eq, off⟩ := loopStep_offStream b env m other
    refine h.quiet news log_eq (fun o inside => Obs.offSession_of_offStream (off o inside))
      (by rw [stream]) (by rw [stream]) (by rw [stream]) ?_ ?_ ?_
    · intro eq
      rw [eq] at other
      contradiction
    · intro eq
      rw [eq] at other
      contradiction
    · rcases pc with pc | pc
      · cases eq : (loopStep b env m).pc <;> first | trivial | (rw [eq] at pc; contradiction)
      · rw [pc]
        trivial
  · obtain ⟨d, pc, log⟩ := m
    cases pc with
    | stream pc => exact streamStep_session h
    | _ => exact absurd rfl other

theorem step_session {act : Act} (h : Session m) (few : (step b m act).log.startsSinceTest < 256) :
    Session (step b m act) := by
  cases act with
  | setup env s =>
    rcases (handleSetup_served b env m.dev s).session with
      ⟨index, value, obs, stream⟩ | ⟨off, requests, done, failures, flags⟩
    · exact h.start (congrArg (· :: m.log) obs) rfl stream few
    · have only : ∀ o ∈ [s.obs (handleSetup b env m.dev s).2], o.offSession := by
        simpa using off
      exact h.quiet _ rfl only requests done (Nat.le_of_eq failures) id id
        (h.due.append only flags)
  | disconnect =>
    have only : ∀ o ∈ [Obs.disconnected], o.offSession := by simp [Obs.offSession]
    exact h.quiet _ rfl only rfl rfl (Nat.le_refl _) id id (h.due.append only rfl)
  | loop env => exact loopStep_session h

theorem boot_session (b : Board) : Session (boot b) := by
  obtain ⟨caps, nAin, eq, _⟩ := boot_dev b
  have stream : (boot b).dev.stream = StreamState.init := by
    rw [eq]
    rfl
  refine ⟨?_, ?_, ?_, trivial⟩
  · intro _
    simp [stream, StreamState.init]
  · intro _ _ _
    exact .inl (by simp [boot])
  · simp [stream, StreamState.init]

/-- The interrupt side clears `running` for the reasons `rightfulStop` lists only. -/
theorem setup_keeps_running {s : SetupPacket} (running : m.dev.stream.running = true)
    (kept : rightfulStop b m (.setup env s) = false) :
    (step b m (.setup env s)).dev.stream.running = true := by
  have served := handleSetup_served b env m.dev s
  dsimp only [rightfulStop] at kept
  dsimp only [step, setupStep]
  generalize (handleSetup b env m.dev s).1 = d' at *
  generalize s.obs (handleSetup b env m.dev s).2 = o at *
  cases served with
  | started => rfl
  | stopped | reset => contradiction
  | moded index value mode =>
    have unselected : (m.dev.stream.channelIndex index.toNat).isSome = false := kept
    have stream : (recordMode (m.dev.queued .pinMode index.toNat value) index.toNat mode).stream =
        if m.dev.stream.running && (m.dev.stream.channelIndex index.toNat).isSome then
          { m.dev.stream with running := false }
        else m.dev.stream := rfl
    rw [stream, unselected, Bool.and_false, if_neg Bool.false_ne_true]
    exact running
  | _ => exact running

/-- poll() clears `running` in two places. -/
theorem loop_keeps_running (running : m.dev.stream.running = true)
    (elsewhere : m.pc ≠ .stream .failStop ∧ ∀ now, m.pc ≠ .stream (.stopRunning now)) :
    (loopStep b env m).dev.stream.running = true := by
  by_cases other : m.pc.offStream
  · rw [(loopStep_offStream b env m other).1]
    exact running
  · obtain ⟨d, pc, log⟩ := m
    cases pc with
    | stream pc =>
      cases pc with
      | failStop => exact absurd rfl elsewhere.1
      | stopRunning now => exact absurd rfl (elsewhere.2 now)
      | writeResult packet =>
        simp only [loopStep, streamStep]
        split <;> exact running
      | catchUp | flushTest =>
        simp only [loopStep, streamStep]
        split
        · exact running
        · first | exact running | (split <;> exact running)
      | packRecord =>
        simp only [loopStep, streamStep]
        split
        · split <;> exact running
        · exact running
      | _ => exact running
    | _ => exact absurd rfl other

/-- A stop poll() makes with every START seen is the last START's own. -/
theorem Session.stop_rightful (h : Session m) (started : ∃ o ∈ m.log, o.isStart)
    (seen : m.log.startsSinceTest = 0)
    (stops : m.pc = .stream .failStop ∨ ∃ now, m.pc = .stream (.stopRunning now)) :
    rightfulStop b m (.loop env) = true := by
  have elsewhere : m.pc ≠ .stream .startDone ∧ m.pc ≠ .stream .startReset := by
    rcases stops with eq | ⟨now, eq⟩ <;> rw [eq] <;> simp
  have none_left : m.dev.stream.startDone = m.dev.stream.startRequests := by
    have unseen := h.unseen elsewhere.1
    rw [seen] at unseen
    by_contra waits
    have := Lib.Ring.count_pos waits
    omega
  have answered : m.log.sinceStart.contains .streamReset = true := by
    rcases h.handled elsewhere.1 elsewhere.2 none_left with never | answered
    · obtain ⟨o, inside, isStart⟩ := started
      rw [never o inside] at isStart
      contradiction
    · simpa using answered
  have due := h.due
  unfold rightfulStop
  rw [answered]
  rcases stops with eq | ⟨now, eq⟩ <;> rw [eq] at due ⊢
  · have limit : streamTxFailureLimit ≤ m.log.strikes := due
    simpa using limit
  · obtain ⟨overran, flag⟩ := due
    simpa [flag seen] using overran

/-- A machine whose stream runs for a START it has accepted. -/
structure Streaming (m : Machine) : Prop where
  session : Session m
  started : ∃ o ∈ m.log, o.isStart
  running : m.dev.stream.running = true

theorem step_log (b : Board) (m : Machine) (act : Act) :
    ∃ news, (step b m act).log = news ++ m.log := by
  cases act with
  | setup env s => exact ⟨[_], rfl⟩
  | disconnect => exact ⟨[_], rfl⟩
  | loop env =>
    obtain ⟨d, pc, log⟩ := m
    cases pc with
    | idle => exact ⟨[.pollStarted], rfl⟩
    | shadow pc => exact ⟨[], rfl⟩
    | drain pc => exact ⟨_, rfl⟩
    | event pc => exact ⟨_, rfl⟩
    | stream pc => exact ⟨_, rfl⟩

theorem step_streaming {act : Act} (h : Streaming m) (keeps : keepsSessions b m act)
    (stays : rightfulStop b m act = false) : Streaming (step b m act) := by
  have session := step_session h.session keeps.2
  have started : ∃ o ∈ (step b m act).log, o.isStart := by
    obtain ⟨o, inside, isStart⟩ := h.started
    obtain ⟨news, log_eq⟩ := step_log b m act
    exact ⟨o, log_eq ▸ List.mem_append_right news inside, isStart⟩
  refine ⟨session, started, ?_⟩
  cases act with
  | setup env s => exact setup_keeps_running h.running stays
  | disconnect => contradiction
  | loop env =>
    by_cases stops : m.pc = .stream .failStop ∨ ∃ now, m.pc = .stream (.stopRunning now)
    · have seen : m.log.startsSinceTest = 0 := by
        by_contra unseen
        have breaks : predecessorStops m (.loop env) = true := by
          simp only [predecessorStops, Nat.pos_of_ne_zero unseen, decide_true, Bool.true_and]
          rcases stops with eq | ⟨now, eq⟩ <;> rw [eq]
        rw [keeps.1] at breaks
        contradiction
      rw [h.session.stop_rightful h.started seen stops] at stays
      contradiction
    · rw [not_or, not_exists] at stops
      exact loop_keeps_running h.running stops

/-- Once a STREAM_START is accepted the stream runs until something that may end
it happens, in every run that keeps the sessions apart. -/
theorem accepted_stream_keeps_running (b : Board) (env : Env) (s : SetupPacket) (m₀ m : Machine)
    (reached : Lib.Reach (step b) (keepsSessions b) (boot b) m₀)
    (accepted : (s.obs (handleSetup b env m₀.dev s).2).isStart = true)
    (first : keepsSessions b m₀ (.setup env s))
    (later : Lib.Reach (step b)
      (fun u act => keepsSessions b u act ∧ rightfulStop b u act = false)
      (step b m₀ (.setup env s)) m) :
    m.dev.stream.running = true := by
  have session₀ : Session m₀ :=
    reached.invariant (boot_session b) (fun _ _ h keeps => step_session h keeps.2)
  have running : (step b m₀ (.setup env s)).dev.stream.running = true := by
    rcases (handleSetup_served b env m₀.dev s).session with ⟨_, _, _, stream⟩ | ⟨off, _⟩
    · exact congrArg StreamState.running stream
    · rw [Obs.isStart_offSession off] at accepted
      contradiction
  have streaming : Streaming (step b m₀ (.setup env s)) :=
    ⟨step_session session₀ first.2, ⟨_, List.mem_cons_self .., accepted⟩, running⟩
  exact (later.invariant streaming (fun _ _ h keeps => step_streaming h keeps.1 keeps.2)).running

/-- One pin selected, its stream not started yet. -/
def selected : List Act := [request .pinMode 0 0, request .streamSelect 1 0]

theorem accepted_stream_keeps_running_one_poll :
    let m₁ := run onePinBoard (boot onePinBoard) (selected ++ [request .streamStart 0 0])
    (run onePinBoard m₁ (List.replicate 41 (.loop (stillEnv .sent)))).dev.stream.running = true :=
  accepted_stream_keeps_running onePinBoard (stillEnv .busy) (.out .streamStart 0 0)
    (run onePinBoard (boot onePinBoard) selected) _ (Lib.Follows.reach (by decide +kernel))
    (by decide +kernel) (by decide +kernel) (Lib.Follows.reach (by decide +kernel))

/-- A stream whose records nobody reads, up to its third write. -/
def abandoned : List Act :=
  selected ++ [request .streamStart 0 0] ++ List.replicate 37 (.loop (stillEnv .failed)) ++
    [request .streamStop 0 0] ++ List.replicate 55 (.loop (stillEnv .failed))

/-- A START accepted while that write executes is stopped two steps later. -/
theorem predecessor_stops_accepted_stream :
    ¬ ∀ (b : Board) (env : Env) (s : SetupPacket) (m₀ m : Machine), Reachable b m₀ →
      (s.obs (handleSetup b env m₀.dev s).2).isStart = true →
      Lib.Reach (step b) (fun u act => rightfulStop b u act = false)
        (step b m₀ (.setup env s)) m →
      m.dev.stream.running = true := by
  intro claim
  have runs := claim onePinBoard (stillEnv .busy) (.out .streamStart 0 0)
    (run onePinBoard (boot onePinBoard) abandoned) _ (Lib.Follows.reach (by decide +kernel))
    (by decide +kernel)
    (Lib.Follows.reach (show Lib.Follows _ _ _ (List.replicate 2 (.loop (stillEnv .failed))) by
      decide +kernel))
  revert runs
  decide +kernel

end ArduinoDriver
