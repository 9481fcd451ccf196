import ArduinoDriver.Firmware.AlikeRuns
import ArduinoDriver.Host.StreamReport

namespace ArduinoDriver

/-- A SELECT or a START. -/
def Obs.selects : Obs → Bool
  | .accepted .streamSelect _ _ | .accepted .streamStart _ _ => true
  | _ => false

/-- STREAM_STATUS of a device that has neither selected nor sampled anything; the flags and the
period are those of the last START. -/
def blankStatus (flags : UInt8) (periodUs : UInt16) : List UInt8 :=
  streamStatusBytes { StreamState.init with flags := flags, periodUs := periodUs }

/-- The packet asks `req`, and is answered with `reply`. -/
def Machine.Answers (b : Board) (m : Machine) (req : Request) (s : SetupPacket) (reply : List UInt8) : Prop :=
  ∃ env index, s.obs (handleSetup b env m.dev s).2 = .answered req index reply

/-- A step over the transport that calls handle_usb_disconnected(). -/
def Act.returned : Act → Prop
  | .loop env => env.Returned
  | .setup .. | .disconnect => True

/-- The steps from a disconnect at `m` on in which no request is answered that `ends` says. -/
def Since (b : Board) (m : Machine) (ends : Obs → Bool) : Machine → Prop :=
  Lib.Reach (step b) (fun m act => refrains ends b m act ∧ act.returned) (step b m .disconnect)

/-- After the connection is lost at `m` the device tells of no session, whatever happens before
the next SELECT or START, and before the next pin is armed. -/
structure Forgets (b : Board) (m : Machine) : Prop where
  status : ∀ m' s reply, Since b m Obs.selects m' → m'.Answers b .streamStatus s reply →
    ∃ flags periodUs, reply = (blankStatus flags periodUs).take s.wLength.toNat
  counts : ∀ m' s reply, Since b m Obs.armsPin m' → m'.Answers b .eventCounts s reply →
    reply = (eventHeader 0 0 0).take s.wLength.toNat
  edges : ∀ m', Since b m Obs.armsPin m' → m'.log.edges = m.log.edges

/-- Nothing of the session is left. -/
structure UsbIoDevice.LeavesNothing (d : UsbIoDevice) : Prop where
  unwatched : ∀ i < maxEventPins, (d.event.watch i).active = false
  seq : d.stream.seq ≤ 1
  overruns : d.stream.overruns = 0

/-- The fields STREAM_STATUS tells of the session. -/
structure StreamStatus.SameSession (st st' : StreamStatus) : Prop where
  running : st.running = st'.running
  nChannels : st.nChannels = st'.nChannels
  seq : st.seq = st'.seq
  overruns : st.overruns = st'.overruns

/-- What two runs that have both lost the connection go on to together. -/
def Continues (b : Board) (m₁ m₂ : Machine) : Machine × Machine → Prop :=
  Lib.Reach (PairMove.step b) (Together b) (step b m₁ .disconnect, step b m₂ .disconnect)

/-- They get the same replies. -/
structure SameReports (b : Board) (m₁ m₂ : Machine) : Prop where
  counts : ∀ p s r₁ r₂, Continues b m₁ m₂ p →
    p.1.Answers b .eventCounts s r₁ → p.2.Answers b .eventCounts s r₂ → r₁ = r₂
  status : ∀ p s r₁ r₂, Continues b m₁ m₂ p →
    p.1.Answers b .streamStatus s r₁ → p.2.Answers b .streamStatus s r₂ →
    streamStatusLen ≤ s.wLength.toNat → (decodeStreamStatus r₁).SameSession (decodeStreamStatus r₂)

/-- Wherever they are in poll(), both or one of them can take the next step. -/
def GoOn (b : Board) (m₁ m₂ : Machine) : Prop :=
  ∀ p env, Continues b m₁ m₂ p → env.Returned →
    ∃ move ∈ [PairMove.both (.loop env), .first (.loop env), .second (.loop env)], Together b p move

/-- A stream that STREAM_STATUS tells nothing of. -/
structure StreamState.Blank (s : StreamState) : Prop where
  stopped : s.running = false
  none_ : s.nChannels = 0
  seq : s.seq ≤ 1
  overruns : s.overruns = 0

/-- And that stays so. -/
structure Blanked (m : Machine) : Prop where
  pristine : Pristine m.dev.stream m.pc
  stopped : m.dev.stream.running = false
  none_ : m.dev.stream.nChannels = 0

variable {b : Board} {env : Env} {d d' : UsbIoDevice} {m m' : Machine} {o : Obs} {s : StreamState} {act : Act}
  {δ : UInt8}

/-- Nothing else can select a channel or set the stream running. -/
theorem Served.deselected (served : Served b env d d' o) (refrains_ : o.selects = false)
    (stopped : d.stream.running = false) (none_ : d.stream.nChannels = 0) :
    d'.stream.running = false ∧ d'.stream.nChannels = 0 := by
  cases served with
  | added | removed | started => contradiction
  | reset | stopped => exact ⟨rfl, by first | rfl | exact none_⟩
  | moded index value mode =>
    unfold recordMode
    dsimp only
    split
    · exact ⟨rfl, none_⟩
    · exact ⟨stopped, none_⟩
  | _ => exact ⟨stopped, none_⟩

theorem Blanked.blank (h : Blanked m) : m.dev.stream.Blank :=
  ⟨h.stopped, h.none_, h.pristine.seq, h.pristine.overruns⟩

theorem step_blanked (h : Blanked m) (refrains_ : refrains Obs.selects b m act) (returned : act.returned) :
    Blanked (step b m act) := by
  cases act with
  | disconnect => exact ⟨h.pristine.stopped rfl rfl rfl, rfl, rfl⟩
  | setup env s =>
    have served := handleSetup_served b env m.dev s
    obtain ⟨stopped, none_⟩ := served.deselected refrains_ h.stopped h.none_
    have books := served.sameBooks.1
    exact ⟨h.pristine.stopped books.seq books.overruns stopped, stopped, none_⟩
  | loop env =>
    obtain ⟨pristine, set⟩ := loopStep_pristine (b := b) h.pristine (Env.returned_iff.mp returned)
      (fun _ => h.stopped)
    exact ⟨pristine, set.running.trans h.stopped, set.nChannels.trans h.none_⟩

theorem StreamState.Blank.status (h : s.Blank) : streamStatusBytes s = blankStatus s.flags s.periodUs := by
  have seq := (reportedSeq_eq_zero s.seq).mpr h.seq
  unfold blankStatus streamStatusBytes
  rw [h.stopped, h.none_, h.overruns, seq]
  rfl

/-- A status that tells nothing is of a stream without numbers and overruns. -/
theorem blank_of_status {flags : UInt8} {periodUs : UInt16} (same : streamStatusBytes s = blankStatus flags periodUs) :
    s.seq ≤ 1 ∧ s.overruns = 0 := by
  have decoded := congrArg decodeStreamStatus same
  rw [blankStatus, decodeStreamStatus_bytes, decodeStreamStatus_bytes] at decoded
  exact ⟨(reportedSeq_eq_zero s.seq).mp (congrArg StreamStatus.seq decoded),
    congrArg StreamStatus.overruns decoded⟩

/-- STREAM_STATUS never stalls there. -/
theorem Reachable.tells (reached : Reachable b m) (transport : b.hasStreamTransport = true) :
    m.Answers b .streamStatus (.inp .streamStatus 0 16) (streamStatusBytes m.dev.stream) := by
  refine ⟨stillEnv .busy, 0, ?_⟩
  have streams := (reach_begun reached).streaming
  rw [handleSetup_inp]
  unfold handleIn replyBytes
  rw [Request.ofCode_code]
  dsimp only
  rw [streams, transport]
  rfl

/-- poll() returns after event_poll() where there is no streaming transport. -/
theorem loopStep_bare (bare : b.hasStreamTransport = false) (off : m.pc.offStream = true) :
    (loopStep b env m).pc.offStream = true := by
  obtain ⟨d, pc, log⟩ := m
  cases pc with
  | idle => rfl
  | drain pc =>
    simp only [loopStep]
    cases (drainStep b env d pc).2.1 <;> rfl
  | shadow pc =>
    simp only [loopStep]
    cases (shadowStep env d pc).2 <;> rfl
  | event pc =>
    simp only [loopStep, afterEvent, bare]
    cases (eventStep env d pc).2.1 <;> rfl
  | stream pc => contradiction

/-- There nothing ever writes the ring and the counters. -/
theorem Reachable.bare (bare : b.hasStreamTransport = false) (reached : Reachable b m) :
    m.pc.offStream = true ∧ SameBooks m.dev.stream .init := by
  refine reached.invariant (I := fun m => m.pc.offStream = true ∧ SameBooks m.dev.stream .init) ?_ ?_
  · obtain ⟨caps, nAin, booted, _⟩ := boot_dev b
    rw [booted]
    exact ⟨rfl, .refl _⟩
  · rintro m act ⟨off, books⟩ _
    cases act with
    | disconnect =>
      exact ⟨off, books.ring, books.head, books.tail, books.packet, books.counted, books.seq, books.overruns⟩
    | setup env s =>
      have same := (handleSetup_served b env m.dev s).sameBooks.1
      exact ⟨off, same.ring.trans books.ring, same.head.trans books.head, same.tail.trans books.tail,
        same.packet.trans books.packet, same.counted.trans books.counted, same.seq.trans books.seq,
        same.overruns.trans books.overruns⟩
    | loop env =>
      have stream := (loopStep_offStream b env m off).1
      exact ⟨loopStep_bare bare off, stream ▸ books⟩

theorem UsbIoDevice.LeavesNothing.pristine (h : m.dev.LeavesNothing) (idle : m.pc = .idle) :
    Pristine (step b m .disconnect).dev.stream (step b m .disconnect).pc := by
  refine ⟨h.seq, h.overruns, ?_⟩
  change m.pc.Untouched _
  rw [idle]
  intro runs
  contradiction

theorem UsbIoDevice.LeavesNothing.forgets (h : m.dev.LeavesNothing) (idle : m.pc = .idle) : Forgets b m := by
  have unwatched : Unwatched (step b m .disconnect) := .of_idle h.unwatched idle
  have kept : ∀ m', Since b m Obs.armsPin m' → Unwatched m' ∧ m'.log.edges = m.log.edges := by
    intro m' since
    refine since.invariant (I := fun m' => Unwatched m' ∧ m'.log.edges = m.log.edges) ⟨unwatched, ?_⟩ ?_
    · exact edges_quiet [.disconnected] (List.forall_mem_singleton.mpr ⟨rfl, rfl⟩)
    · rintro n act ⟨unwatched, edges⟩ ⟨allowed, _⟩
      obtain ⟨still, same⟩ := step_unwatched unwatched allowed
      exact ⟨still, same.trans edges⟩
  refine ⟨?_, ?_, fun m' since => (kept m' since).2⟩
  · rintro m' s reply since ⟨env, index, said⟩
    have blanked : Blanked m' := since.invariant ⟨h.pristine idle, rfl, rfl⟩
      (fun _ _ h allowed => step_blanked h allowed.1 allowed.2)
    exact ⟨_, _, (handleSetup_streamStatus said).trans (by rw [blanked.blank.status])⟩
  · rintro m' s reply since ⟨env, index, said⟩
    rw [handleSetup_counts said, (kept m' since).1.counts]

theorem Forgets.leavesNothing (h : Forgets b m) (reached : Reachable b m) : m.dev.LeavesNothing := by
  have unwatched : ∀ i < maxEventPins, (m.dev.event.watch i).active = false := by
    have listed := h.counts _ countsPacket _ .refl ⟨stillEnv .busy, 0, by rw [countsPacket_answered]; rfl⟩
    have whole : (step b m .disconnect).dev.event.countsBytes.length ≤ 36 := EventState.countsBytes_length _
    rw [List.take_of_length_le whole] at listed
    exact EventState.countsBytes_none listed
  cases transport : b.hasStreamTransport with
  | false =>
    obtain ⟨_, books⟩ := reached.bare transport
    exact ⟨unwatched, by rw [books.seq]; exact UInt32.zero_le, books.overruns⟩
  | true =>
    have lost : Reachable b (step b m .disconnect) := .tail _ reached trivial
    obtain ⟨flags, periodUs, same⟩ := h.status _ _ _ .refl (lost.tells transport)
    obtain ⟨seq, overruns⟩ := blank_of_status same
    exact ⟨unwatched, seq, overruns⟩

/-- Two devices that have nothing left are alike from the disconnect on. -/
theorem alike_disconnected (differ : Differ b (m, m')) (idle : m.pc = .idle) (idle' : m'.pc = .idle)
    (h : m.dev.LeavesNothing) (h' : m'.dev.LeavesNothing)
    (counts : ∀ i < maxEventPins, (m'.dev.event.watch i).count = (m.dev.event.watch i).count) :
    Alike (m'.dev.event.armSeq - m.dev.event.armSeq) (step b m .disconnect) (step b m' .disconnect) := by
  obtain ⟨reached, reached'⟩ := differ.reachable
  have none_on : ∀ {m : Machine}, Reachable b m → m.dev.LeavesNothing → m.dev.event.nWatched = 0 := by
    intro m reached h
    have counted := (reach_ok reached).dev.watches.counted
    rw [activeCount, Lib.Table.count_eq_zero.mpr h.unwatched] at counted
    exact UInt8.toNat_inj.mp counted
  refine ⟨differ.sameRest.disconnected, ?_, ?_⟩
  · have nowhere : (step b m .disconnect).pc.scan = none := by
      change m.pc.scan = none
      rw [idle]
      rfl
    rw [nowhere]
    have off : ∀ i < maxEventPins, (m.dev.event.watch i).active = true ∨ Scans none i → False := by
      rintro i inside (on | ⟨stage, here⟩)
      · rw [h.unwatched i inside] at on
        contradiction
      · contradiction
    refine ⟨?_, ?_, ?_, counts, ?_, ?_, ?_, ?_⟩
    · change m'.dev.event.armSeq = m.dev.event.armSeq + (m'.dev.event.armSeq - m.dev.event.armSeq)
      rw [UInt8.add_comm, UInt8.sub_add_cancel]
    · exact (none_on reached' h').trans (none_on reached h).symm
    · exact fun i inside => (h'.unwatched i inside).trans (h.unwatched i inside).symm
    · intro i stage here
      contradiction
    · exact fun i inside here => absurd (off i inside here) id
    · exact fun i inside here => absurd (off i inside here) id
    · intro i inside here
      contradiction
  · refine .pristine (h.pristine idle) (h'.pristine idle') ⟨rfl, rfl, ?_⟩ (fun runs => by contradiction) ?_
    · intro i inside
      exact absurd inside (Nat.not_lt_zero i)
    · change m'.pc.settled _ = m.pc.settled _
      rw [idle, idle']

/-- STREAM_STATUS tells the same of alike streams. -/
theorem StreamsAlike.sameSession (h : StreamsAlike m m') :
    (decodeStreamStatus (streamStatusBytes m.dev.stream)).SameSession
      (decodeStreamStatus (streamStatusBytes m'.dev.stream)) := by
  rw [decodeStreamStatus_bytes, decodeStreamStatus_bytes]
  cases h with
  | pristine here there settings _ _ =>
    refine ⟨settings.running.symm, settings.nChannels.symm, ?_, here.overruns.trans there.overruns.symm⟩
    exact ((reportedSeq_eq_zero _).mpr here.seq).trans ((reportedSeq_eq_zero _).mpr there.seq).symm
  | live same =>
    obtain ⟨_, _, _, _, _, copy, _⟩ := same.1
    rw [copy]
    exact ⟨rfl, rfl, rfl, rfl⟩

theorem Alike.sameReports {m₁ m₂ : Machine} (h : Alike δ (step b m₁ .disconnect) (step b m₂ .disconnect)) :
    SameReports b m₁ m₂ ∧ GoOn b m₁ m₂ := by
  have alike : ∀ p, Continues b m₁ m₂ p → Alike δ p.1 p.2 := by
    intro p continues_
    exact continues_.invariant (I := fun p => Alike δ p.1 p.2) h (fun _ _ h allowed => h.move allowed)
  refine ⟨⟨?_, ?_⟩, ?_⟩
  · rintro p s r₁ r₂ continues_ ⟨env₁, index₁, said₁⟩ ⟨env₂, index₂, said₂⟩
    rw [handleSetup_counts said₁, handleSetup_counts said₂, (alike p continues_).watches.counts]
  · rintro p s r₁ r₂ continues_ ⟨env₁, index₁, said₁⟩ ⟨env₂, index₂, said₂⟩ whole
    have full : ∀ s' : StreamState, (streamStatusBytes s').take s.wLength.toNat = streamStatusBytes s' :=
      fun _ => List.take_of_length_le whole
    rw [handleSetup_streamStatus said₁, handleSetup_streamStatus said₂, full, full]
    exact (alike p continues_).streams.sameSession
  · intro p env continues_ returned
    obtain ⟨move, listed, polls⟩ := (alike p continues_).goes_on returned
    exact ⟨move, listed, polls.together⟩

/-- When the connection is lost between two polls the device forgets the session exactly when
nothing is left of it. Two runs that differ in their requests for events and the stream, leave
nothing and have counted the same in each slot then get the same reports, and can always
go on. -/
theorem nothing_survives_reenumeration_iff (b : Board) (m : Machine) (reached : Reachable b m)
    (idle : m.pc = .idle) :
    (Forgets b m ↔ m.dev.LeavesNothing) ∧
      ∀ m', Differ b (m, m') → m'.pc = .idle → m.dev.LeavesNothing → m'.dev.LeavesNothing →
        (∀ i < maxEventPins, (m'.dev.event.watch i).count = (m.dev.event.watch i).count) →
        SameReports b m m' ∧ GoOn b m m' := by
  refine ⟨⟨fun h => h.leavesNothing reached, fun h => h.forgets idle⟩, ?_⟩
  intro m' differ idle' h h' counts
  exact (alike_disconnected differ idle idle' h h' counts).sameReports

def sideBySide (moves : List PairMove) : Machine × Machine :=
  moves.foldl (PairMove.step onePinBoard) (boot onePinBoard, boot onePinBoard)

/-- Pin 0 is an input in both runs, and the first one watches it. -/
def watchedFirst : List PairMove := [.both (request .pinMode 0 0), .first (request .eventConfig 3 0)]

/-- A poll() of both, with steps in its middle that the first run takes alone. -/
def pollBoth (env : Env) (before_ alone after : Nat) : List PairMove :=
  List.replicate before_ (.both (.loop env)) ++ List.replicate alone (.first (.loop env)) ++
    List.replicate after (.both (.loop env))

/-- The first run scans the pin low and then high. -/
def countedFirst : List PairMove :=
  watchedFirst ++ pollBoth (stillEnv .sent) 16 4 12 ++ pollBoth highEnv 11 10 12

/-- The first run watches the pin no longer. -/
def releasedFirst (moves : List PairMove) : List PairMove := moves ++ [.first (request .eventConfig 0 0)]

/-- The runs where neither watches the pin any more, behind the disconnect and a poll(). -/
def polledOff : Machine × Machine :=
  (List.replicate 32 (.both (.loop highEnv))).foldl (PairMove.step onePinBoard)
    (step onePinBoard (sideBySide (releasedFirst countedFirst)).1 .disconnect,
      step onePinBoard (sideBySide (releasedFirst countedFirst)).2 .disconnect)

theorem sideBySide_differ {moves : List PairMove} (fair : Lib.Follows (PairMove.step onePinBoard)
    (fun p move => move.fair p) (boot onePinBoard, boot onePinBoard) moves) :
    Differ onePinBoard (sideBySide moves) := fair.reach

theorem polls_continue {m m' : Machine} {moves : List PairMove} (polls : Lib.Follows (PairMove.step onePinBoard)
    (fun p move => move.polls p) (step onePinBoard m .disconnect, step onePinBoard m' .disconnect) moves) :
    Continues onePinBoard m m' (moves.foldl (PairMove.step onePinBoard)
      (step onePinBoard m .disconnect, step onePinBoard m' .disconnect)) :=
  polls.reach.mono (fun _ _ polls => polls.together)

/-- Both arm the pin. -/
theorem lastArm_anew (m m' : Machine)
    (asks : ((SetupPacket.out .eventConfig 3 0).obs
      (handleSetup onePinBoard (stillEnv .busy) m.dev (.out .eventConfig 3 0)).2).eventRequest =
        some (.arm 0 .change 0))
    (silent : ((SetupPacket.out .eventConfig 3 0).obs
      (handleSetup onePinBoard (stillEnv .busy) m.dev (.out .eventConfig 3 0)).2).streamRequest = none)
    (alike : ArmsAlike m.dev.event m'.dev.event 0) :
    Anew onePinBoard (stillEnv .busy) (.out .eventConfig 3 0) m m' := by
  constructor
  · intro req asked pin arms
    obtain rfl := Option.some.inj (asks.symm.trans asked)
    obtain rfl := Option.some.inj arms
    exact alike
  · intro req asked
    rw [silent] at asked
    contradiction

theorem nothing_survives_reenumeration_iff_released :
    let p := sideBySide (releasedFirst watchedFirst)
    Forgets onePinBoard p.1 ∧ SameReports onePinBoard p.1 p.2 ∧ GoOn onePinBoard p.1 p.2 := by
  intro p
  have differ : Differ onePinBoard p := sideBySide_differ (by decide +kernel)
  have released : p.1.dev.LeavesNothing := by
    constructor <;> decide +kernel
  have input : p.2.dev.LeavesNothing := by
    constructor <;> decide +kernel
  obtain ⟨forgets, same⟩ := nothing_survives_reenumeration_iff onePinBoard p.1 differ.reachable.1
    (by decide +kernel)
  exact ⟨forgets.mpr released, same p.2 differ (by decide +kernel) released input (by decide +kernel)⟩

/-- The watch is there after the disconnect, and after a poll() it still tells the run from one
without it. So does, behind the next arm, the count of a watch that had been switched off. -/
theorem watch_survives_reenumeration :
    ¬ (∀ (b : Board) (m : Machine), Reachable b m → m.pc = .idle → Forgets b m) ∧
      ¬ (∀ p, Differ onePinBoard p → p.1.pc = .idle → p.2.pc = .idle → SameReports onePinBoard p.1 p.2) ∧
      ¬ (∀ p, Differ onePinBoard p → p.1.pc = .idle → p.2.pc = .idle → p.1.dev.LeavesNothing →
        p.2.dev.LeavesNothing → SameReports onePinBoard p.1 p.2) := by
  refine ⟨?_, ?_, ?_⟩
  · intro claim
    have differ : Differ onePinBoard (sideBySide watchedFirst) := sideBySide_differ (by decide +kernel)
    have forgets := claim onePinBoard _ differ.reachable.1 (by decide +kernel)
    have listed := forgets.counts _ countsPacket [0, 1, 0, 0, 0, 3, 0, 0] .refl
      ⟨stillEnv .busy, 0, by decide +kernel⟩
    revert listed
    decide +kernel
  · intro claim
    have same := claim (sideBySide watchedFirst) (sideBySide_differ (by decide +kernel)) (by decide +kernel)
      (by decide +kernel)
    have polled := @polls_continue (sideBySide watchedFirst).1 (sideBySide watchedFirst).2
      (pollBoth (stillEnv .sent) 16 4 12) (by decide +kernel)
    have listed := same.counts _ countsPacket [0, 1, 0, 0, 0, 3, 0, 0] [0, 0, 0, 0] polled
      ⟨stillEnv .busy, 0, by decide +kernel⟩ ⟨stillEnv .busy, 0, by decide +kernel⟩
    revert listed
    decide +kernel
  · intro claim
    have same := claim (sideBySide (releasedFirst countedFirst)) (sideBySide_differ (by decide +kernel))
      (by decide +kernel) (by decide +kernel) (by constructor <;> decide +kernel)
      (by constructor <;> decide +kernel)
    have polled : Continues onePinBoard (sideBySide (releasedFirst countedFirst)).1
        (sideBySide (releasedFirst countedFirst)).2 polledOff := polls_continue (by decide +kernel)
    have anew : Together onePinBoard polledOff (.both (request .eventConfig 3 0)) :=
      lastArm_anew polledOff.1 polledOff.2 (by decide +kernel) (by decide +kernel) (by decide +kernel)
    have listed := same.counts _ countsPacket [0, 1, 0, 0, 0, 3, 1, 0] [0, 1, 0, 0, 0, 3, 0, 0]
      (.tail _ polled anew) ⟨stillEnv .busy, 0, by decide +kernel⟩ ⟨stillEnv .busy, 0, by decide +kernel⟩
    revert listed
    decide +kernel

end ArduinoDriver
