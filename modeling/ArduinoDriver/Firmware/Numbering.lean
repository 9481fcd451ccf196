import ArduinoDriver.Firmware.StreamSession
import ArduinoDriver.Lib.History

namespace ArduinoDriver

/-- A record put in the ring: the STARTs accepted when micros() was read for it, its place among
the records sampled with the last of these, and what micros() was. -/
structure Taken where
  record : List UInt8
  session : Nat
  index : Nat
  tUs : UInt32

/-- The STARTs and the records of a run. -/
structure Numbering where
  starts : Nat
  /-- The START stream_poll() last took note of, and the one it last reset the ring for. -/
  handled : Nat
  reset : Nat
  /-- By START: the seq of the records sampled after it and before the next. -/
  numbers : Nat → List UInt32
  /-- Of the record being sampled. -/
  session : Nat
  tUs : UInt32
  taken : List Taken

def Numbering.empty : Numbering := ⟨0, 0, 0, fun _ => [], 0, 0, []⟩

/-- What a step of stream_poll() or stream_sample() adds. -/
def StreamPc.numbered (s : StreamState) (env : Env) (g : Numbering) : StreamPc → Numbering
  | .startDone => { g with handled := g.starts }
  | .startReset => { g with reset := g.handled }
  | .dueTest => { g with session := g.starts, tUs := env.micros }
  | .sampleHeader _ =>
    { g with numbers := Function.update g.numbers g.session (g.numbers g.session ++ [s.seq]) }
  | .pushRecord _ buf =>
    { g with taken := ⟨buf, g.session, (g.numbers g.session).length - 1, g.tUs⟩ :: g.taken }
  | _ => g

def numbering (b : Board) (m : Machine) (act : Act) (g : Numbering) : Numbering :=
  match act with
  | .setup env s =>
    if (s.obs (handleSetup b env m.dev s).2).isStart then { g with starts := g.starts + 1 } else g
  | .loop env => match m.pc with
    | .stream pc => pc.numbered m.dev.stream env g
    | _ => g
  | .disconnect => g

/-- The step that mixes two sessions: stream_poll() finds a record due while a START waits for
its reset. -/
def samplesUnreset (m : Machine) : Act → Bool
  | .loop env =>
    let s := m.dev.stream
    decide (m.pc = .stream .dueTest) && s.startDone != s.startRequests &&
      (s.periodUs == 0 || !before env.micros s.deadlineUs)
  | _ => false

/-- Fewer than 256 STARTs from one poll to the next. -/
def fewStarts (b : Board) (r : Machine × Numbering) (act : Act) : Prop :=
  (step b r.1 act).log.startsSinceTest < 256

def keepsNumbering (b : Board) (r : Machine × Numbering) (act : Act) : Prop :=
  samplesUnreset r.1 act = false ∧ fewStarts b r act

instance (b : Board) (r : Machine × Numbering) (act : Act) : Decidable (fewStarts b r act) :=
  inferInstanceAs (Decidable (_ < _))

instance (b : Board) (r : Machine × Numbering) (act : Act) : Decidable (keepsNumbering b r act) :=
  inferInstanceAs (Decidable (_ ∧ _))

/-- Every session is numbered from its own START. -/
structure OwnNumbering (m : Machine) (g : Numbering) : Prop where
  /-- The records sampled after a START and before the next are numbered 0, 1, 2, ... -/
  numbers : ∀ k, g.numbers k = (List.range (g.numbers k).length).map UInt32.ofNat
  /-- A START whose reset is still to come has no records that it could discard. -/
  kept : ∀ k, g.reset < k → g.numbers k = []
  /-- What the transport gets are records of these sessions, under their numbers. -/
  handed : ∀ packet result, Obs.wrote packet result ∈ m.log →
    ∃ taken : List Taken, packet = (taken.map (·.record)).flatten ∧ ∀ x ∈ taken, x ∈ g.taken
  headed : ∀ x ∈ g.taken, x.index < (g.numbers x.session).length ∧
    ∃ nSamples rest, x.record = streamHeader nSamples (UInt32.ofNat x.index) x.tUs ++ rest

/-- The records of the session the ring was last reset for. -/
def Numbering.count (g : Numbering) : Nat := (g.numbers g.reset).length

/-- The record being built carries the number of its session's last one. -/
structure Numbering.Building (g : Numbering) (buf : List UInt8) : Prop where
  session : g.session = g.reset
  positive : 0 < g.count
  headed : ∃ nSamples rest, buf = streamHeader nSamples (UInt32.ofNat (g.count - 1)) g.tUs ++ rest

/-- What `_stream_seq` is at a point of stream_poll(). -/
def StreamPc.Tallies (g : Numbering) (seq : UInt32) : StreamPc → Prop
  | .startDone => g.handled < g.starts ∧ seq = UInt32.ofNat g.count
  | .startReset => g.reset < g.handled
  | .sampleHeader now => g.session = g.reset ∧ g.tUs = now ∧ seq = UInt32.ofNat g.count
  | .channelTest _ buf _ | .channelRead _ buf _ | .digitalTest _ buf | .bitmapPin _ buf _ _
  | .bumpSeq _ buf => g.Building buf ∧ seq + 1 = UInt32.ofNat g.count
  | .roomTest _ buf | .pushRecord _ buf => g.Building buf ∧ seq = UInt32.ofNat g.count
  | _ => seq = UInt32.ofNat g.count

def Pc.Tallies (g : Numbering) (seq : UInt32) : Pc → Prop
  | .stream pc => pc.Tallies g seq
  | _ => seq = UInt32.ofNat g.count

/-- The counters of stream_poll() against the run. -/
structure Tallied (m : Machine) (g : Numbering) : Prop where
  handled : g.handled ≤ g.starts
  reset : g.reset ≤ g.handled
  level : m.pc ≠ .stream .startReset → g.reset = g.handled
  requests : m.dev.stream.startRequests = m.dev.stream.startDone + UInt8.ofNat (g.starts - g.handled)
  waiting : m.pc ≠ .stream .startDone → g.starts - g.handled ≤ m.log.startsSinceTest
  few : m.log.startsSinceTest < 256
  place : m.pc.Tallies g m.dev.stream.seq
  numbers : ∀ k, g.numbers k = (List.range (g.numbers k).length).map UInt32.ofNat
  kept : ∀ k, g.reset < k → g.numbers k = []
  headed : ∀ x ∈ g.taken, x.index < (g.numbers x.session).length ∧
    ∃ nSamples rest, x.record = streamHeader nSamples (UInt32.ofNat x.index) x.tUs ++ rest
  logged : ∀ record, Obs.sampled record ∈ m.log → ∃ x ∈ g.taken, x.record = record

variable {b : Board} {env : Env} {d d' : UsbIoDevice} {o : Obs} {m m' : Machine} {g : Numbering}
  {log news : Log} {pc : StreamPc} {buf more : List UInt8} {r : Machine × Numbering}

/-- A step that no START, no reset and no record is about. -/
theorem Tallied.quiet (news : Log) (h : Tallied m g) (log_eq : m'.log = news ++ m.log)
    (tests : Log.startsSinceTest (news ++ m.log) = m.log.startsSinceTest)
    (silent : ∀ record, Obs.sampled record ∉ news)
    (requests : m'.dev.stream.startRequests = m.dev.stream.startRequests)
    (done : m'.dev.stream.startDone = m.dev.stream.startDone)
    (level : m'.pc ≠ .stream .startReset → m.pc ≠ .stream .startReset)
    (waiting : m'.pc ≠ .stream .startDone → m.pc ≠ .stream .startDone)
    (place : m'.pc.Tallies g m'.dev.stream.seq) : Tallied m' g := by
  refine ⟨h.handled, h.reset, fun away => h.level (level away), ?_, fun away => ?_, ?_, place,
    h.numbers, h.kept, h.headed, fun record inside => ?_⟩
  · rw [requests, done]
    exact h.requests
  · rw [log_eq, tests]
    exact h.waiting (waiting away)
  · rw [log_eq, tests]
    exact h.few
  · rw [log_eq] at inside
    rcases List.mem_append.mp inside with new | old
    · exact absurd new (silent record)
    · exact h.logged record old

/-- Without a START waiting the ring has been reset for the last one. -/
theorem Tallied.settled (h : Tallied m g) (seen : m.dev.stream.startDone = m.dev.stream.startRequests)
    (reset : m.pc ≠ .stream .startReset) (done : m.pc ≠ .stream .startDone) : g.reset = g.starts := by
  have waiting := h.waiting done
  have few := h.few
  have requests := h.requests
  rw [← seen, ← UInt8.toNat_inj, UInt8.toNat_add, UInt8.toNat_ofNat'] at requests
  have small := m.dev.stream.startDone.toNat_lt
  have order := h.handled
  rw [h.level reset]
  omega

theorem Numbering.Building.grow (h : g.Building buf) : g.Building (buf ++ more) := by
  obtain ⟨session, positive, nSamples, rest, bytes⟩ := h
  exact ⟨session, positive, nSamples, rest ++ more, by rw [bytes, List.append_assoc]⟩

theorem Numbering.Building.pad {bits : List UInt8} (h : g.Building buf) :
    g.Building (padBitmap buf bits) := by
  unfold padBitmap
  split
  · exact h.grow.grow
  · exact h.grow

/-- A step of stream_poll() past the resets. -/
theorem Tallied.moves {next : Pc} (news : Log) (h : Tallied ⟨d, .stream pc, log⟩ g)
    (reset : pc ≠ .startReset) (done : pc ≠ .startDone) {stream : StreamState}
    (requests : stream.startRequests = d.stream.startRequests)
    (same : stream.startDone = d.stream.startDone) (place : next.Tallies g stream.seq)
    (tests : Log.startsSinceTest (news ++ log) = log.startsSinceTest)
    (silent : ∀ record, Obs.sampled record ∉ news) :
    Tallied ⟨{ d with stream := stream }, next, news ++ log⟩ g := by
  refine h.quiet news rfl tests silent requests same (fun _ at_reset => ?_) (fun _ at_done => ?_) place
  · exact reset (Pc.stream.inj at_reset)
  · exact done (Pc.stream.inj at_done)

/-- One that reports nothing. -/
theorem Tallied.builds {next : StreamPc} (h : Tallied ⟨d, .stream pc, log⟩ g)
    (reset : pc ≠ .startReset) (done : pc ≠ .startDone) {stream : StreamState}
    (requests : stream.startRequests = d.stream.startRequests)
    (same : stream.startDone = d.stream.startDone) (place : next.Tallies g stream.seq) :
    Tallied ⟨{ d with stream := stream }, .stream next, log⟩ g :=
  h.moves [] reset done requests same place rfl (fun _ inside => absurd inside List.not_mem_nil)

theorem startTest_tallied (h : Tallied ⟨d, .stream .startTest, log⟩ g) :
    Tallied (loopStep b env ⟨d, .stream .startTest, log⟩) g := by
  have place : StreamPc.Tallies g d.stream.seq .startTest := h.place
  have logged : ∀ record, Obs.sampled record ∈ Obs.startTested :: log → ∃ x ∈ g.taken, x.record = record :=
    fun record inside => h.logged record (by simpa using inside)
  by_cases waits : d.stream.startDone ≠ d.stream.startRequests
  · have stepped : loopStep b env ⟨d, .stream .startTest, log⟩ =
        ⟨d, .stream .startDone, .startTested :: log⟩ := by
      simp [loopStep, streamStep, waits, returnLog]
    have more : g.handled < g.starts := by
      by_contra none_
      have requests := h.requests
      rw [Nat.sub_eq_zero_of_le (Nat.le_of_not_lt none_)] at requests
      exact waits (requests.trans (UInt8.add_zero _)).symm
    rw [stepped]
    refine ⟨h.handled, h.reset, fun _ => h.level (by simp), h.requests, fun away => absurd rfl away,
      Nat.zero_lt_succ _, ⟨more, place⟩, h.numbers, h.kept, h.headed, logged⟩
  · have seen := not_not.mp waits
    have stepped : loopStep b env ⟨d, .stream .startTest, log⟩ =
        ⟨d, .stream .runTest, .startTested :: log⟩ := by
      simp [loopStep, streamStep, seen, returnLog]
    have level := h.level (by simp)
    have last := h.settled seen (by simp) (by simp)
    rw [stepped]
    refine ⟨h.handled, h.reset, fun _ => level, h.requests, fun _ => ?_,
      Nat.zero_lt_succ _, place, h.numbers, h.kept, h.headed, logged⟩
    change g.starts - g.handled ≤ 0
    rw [← level, last, Nat.sub_self]

theorem startDone_tallied (h : Tallied ⟨d, .stream .startDone, log⟩ g) :
    Tallied (loopStep b env ⟨d, .stream .startDone, log⟩) { g with handled := g.starts } := by
  have place : StreamPc.Tallies g d.stream.seq .startDone := h.place
  have stepped : loopStep b env ⟨d, .stream .startDone, log⟩ =
      ⟨{ d with stream := { d.stream with startDone := d.stream.startRequests } },
        .stream .startReset, log⟩ := rfl
  have level := h.level (by simp)
  rw [stepped]
  refine ⟨Nat.le_refl _, h.reset.trans h.handled, fun away => absurd rfl away, ?_, fun _ => ?_, h.few,
    ?_, h.numbers, h.kept, h.headed, h.logged⟩
  · change d.stream.startRequests = d.stream.startRequests + UInt8.ofNat (g.starts - g.starts)
    rw [Nat.sub_self]
    exact (UInt8.add_zero _).symm
  · change g.starts - g.starts ≤ _
    rw [Nat.sub_self]
    exact Nat.zero_le _
  · change g.reset < g.starts
    rw [level]
    exact place.1

/-- The reset finds no record of a START it is done for. -/
theorem startReset_tallied (h : Tallied ⟨d, .stream .startReset, log⟩ g) :
    Tallied (loopStep b env ⟨d, .stream .startReset, log⟩) { g with reset := g.handled } := by
  have before_ : g.reset < g.handled := h.place
  have stepped : loopStep b env ⟨d, .stream .startReset, log⟩ =
      ⟨{ d with stream := d.stream.restart env.micros }, .stream .runTest, .streamReset :: log⟩ := rfl
  rw [stepped]
  refine ⟨h.handled, Nat.le_refl _, fun _ => rfl, h.requests, fun _ => h.waiting (by simp), h.few, ?_,
    h.numbers, fun k later => h.kept k (before_.trans later), h.headed,
    fun record inside => h.logged record (by simpa using inside)⟩
  have fresh : g.numbers g.handled = [] := h.kept _ before_
  change (0 : UInt32) = UInt32.ofNat (g.numbers g.handled).length
  rw [fresh]
  rfl

theorem dueTest_tallied (h : Tallied ⟨d, .stream .dueTest, log⟩ g)
    (settled : samplesUnreset ⟨d, .stream .dueTest, log⟩ (.loop env) = false) :
    Tallied (loopStep b env ⟨d, .stream .dueTest, log⟩) { g with session := g.starts, tUs := env.micros } := by
  have place : StreamPc.Tallies g d.stream.seq .dueTest := h.place
  by_cases due : d.stream.periodUs = 0 ∨ !before env.micros d.stream.deadlineUs
  · have seen : d.stream.startDone = d.stream.startRequests := by
      unfold samplesUnreset at settled
      by_contra waits
      rcases due with unpaced | passed
      · simp [unpaced, waits] at settled
      · simp [(Bool.not_eq_true' _).mp passed, waits] at settled
    have stepped : loopStep b env ⟨d, .stream .dueTest, log⟩ =
        ⟨d, .stream (.sampleHeader env.micros), log⟩ := by
      simp only [loopStep, streamStep, Option.map_some, Option.getD_some, if_pos due]
      rfl
    rw [stepped]
    exact ⟨h.handled, h.reset, fun _ => h.level (by simp), h.requests, fun _ => h.waiting (by simp),
      h.few, ⟨(h.settled seen (by simp) (by simp)).symm, rfl, place⟩, h.numbers, h.kept, h.headed,
      h.logged⟩
  · have stepped : loopStep b env ⟨d, .stream .dueTest, log⟩ = ⟨d, .stream .packRecord, log⟩ := by
      simp only [loopStep, streamStep, Option.map_some, Option.getD_some, if_neg due]
      rfl
    rw [stepped]
    exact ⟨h.handled, h.reset, fun _ => h.level (by simp), h.requests, fun _ => h.waiting (by simp),
      h.few, place, h.numbers, h.kept, h.headed, h.logged⟩

theorem sampleHeader_tallied (h : Tallied ⟨d, .stream (.sampleHeader now), log⟩ g) :
    Tallied (loopStep b env ⟨d, .stream (.sampleHeader now), log⟩)
      { g with numbers := Function.update g.numbers g.session (g.numbers g.session ++ [d.stream.seq]) } := by
  obtain ⟨session, rfl, seq⟩ : g.session = g.reset ∧ g.tUs = now ∧ d.stream.seq = UInt32.ofNat g.count :=
    h.place
  have stepped : loopStep b env ⟨d, .stream (.sampleHeader g.tUs), log⟩ =
      ⟨d, .stream (.channelTest g.tUs (streamHeader d.stream.nChannels.toUInt16 d.stream.seq g.tUs) 0),
        log⟩ := rfl
  have here : Function.update g.numbers g.session (g.numbers g.session ++ [d.stream.seq]) g.reset =
      g.numbers g.reset ++ [d.stream.seq] := by
    rw [session, Function.update_self]
  have other : ∀ k, k ≠ g.reset →
      Function.update g.numbers g.session (g.numbers g.session ++ [d.stream.seq]) k = g.numbers k := by
    intro k away
    rw [session, Function.update_of_ne away]
  have size : (g.numbers g.reset ++ [d.stream.seq]).length = g.count + 1 := by
    rw [List.length_append, List.length_singleton]
    rfl
  rw [stepped]
  refine ⟨h.handled, h.reset, fun _ => h.level (by simp), h.requests, fun _ => h.waiting (by simp),
    h.few, ?_, fun k => ?_, fun k later => ?_, fun x inside => ?_, h.logged⟩
  · refine ⟨⟨session, ?_, d.stream.nChannels.toUInt16, [], ?_⟩, ?_⟩
    · change 0 < (Function.update g.numbers g.session _ g.reset).length
      rw [here, size]
      exact Nat.succ_pos _
    · change _ = streamHeader _ (UInt32.ofNat ((Function.update g.numbers g.session _ g.reset).length - 1))
        g.tUs ++ _
      rw [here, size, Nat.add_sub_cancel, ← seq, List.append_nil]
    · change d.stream.seq + 1 = UInt32.ofNat (Function.update g.numbers g.session _ g.reset).length
      rw [here, size, UInt32.ofNat_add, ← seq]
      rfl
  · change Function.update g.numbers g.session _ k =
      (List.range (Function.update g.numbers g.session _ k).length).map UInt32.ofNat
    by_cases at_k : k = g.reset
    · rw [at_k, here, size, List.range_succ, List.map_append, List.map_singleton, ← seq]
      exact congrArg (· ++ [d.stream.seq]) (h.numbers g.reset)
    · rw [other k at_k]
      exact h.numbers k
  · change Function.update g.numbers g.session _ k = []
    rw [other k (Nat.ne_of_gt later)]
    exact h.kept k later
  · obtain ⟨inside, headed⟩ := h.headed x inside
    refine ⟨?_, headed⟩
    change x.index < (Function.update g.numbers g.session _ x.session).length
    by_cases at_k : x.session = g.reset
    · rw [at_k, here, size]
      rw [at_k] at inside
      exact inside.trans (Nat.lt_succ_self _)
    · rw [other x.session at_k]
      exact inside

theorem pushRecord_tallied (h : Tallied ⟨d, .stream (.pushRecord now buf), log⟩ g) :
    Tallied (loopStep b env ⟨d, .stream (.pushRecord now buf), log⟩)
      { g with taken := ⟨buf, g.session, (g.numbers g.session).length - 1, g.tUs⟩ :: g.taken } := by
  obtain ⟨building, seq⟩ : g.Building buf ∧ d.stream.seq = UInt32.ofNat g.count := h.place
  have stepped : loopStep b env ⟨d, .stream (.pushRecord now buf), log⟩ =
      ⟨{ d with stream := d.stream.push buf }, .stream (.periodTest now), .sampled buf :: log⟩ := rfl
  rw [stepped]
  refine ⟨h.handled, h.reset, fun _ => h.level (by simp), h.requests, fun _ => h.waiting (by simp),
    h.few, seq, h.numbers, h.kept, fun x inside => ?_, fun record inside => ?_⟩
  · rcases List.mem_cons.mp inside with rfl | old
    · obtain ⟨session, positive, headed⟩ := building
      refine ⟨?_, ?_⟩
      · change (g.numbers g.session).length - 1 < (g.numbers g.session).length
        rw [session]
        exact Nat.sub_lt positive Nat.one_pos
      · dsimp only
        rw [session]
        exact headed
    · exact h.headed x old
  · rcases List.mem_cons.mp inside with new | old
    · obtain rfl := Obs.sampled.inj new
      exact ⟨_, List.mem_cons_self, rfl⟩
    · obtain ⟨x, member, same⟩ := h.logged record old
      exact ⟨x, List.mem_cons_of_mem _ member, same⟩

theorem streamStep_tallied (h : Tallied ⟨d, .stream pc, log⟩ g)
    (settled : samplesUnreset ⟨d, .stream pc, log⟩ (.loop env) = false) :
    Tallied (loopStep b env ⟨d, .stream pc, log⟩) (pc.numbered d.stream env g) := by
  have place : pc.Tallies g d.stream.seq := h.place
  cases pc with
  | startTest => exact startTest_tallied h
  | startDone => exact startDone_tallied h
  | startReset => exact startReset_tallied h
  | dueTest => exact dueTest_tallied h settled
  | sampleHeader now => exact sampleHeader_tallied h
  | pushRecord now buf => exact pushRecord_tallied h
  | channelRead now buf i =>
    exact h.builds (by simp) (by simp) rfl rfl ⟨place.1.grow, place.2⟩
  | bumpSeq now buf =>
    exact h.builds (by simp) (by simp) rfl rfl ⟨place.1, place.2⟩
  | bitmapPin now buf bits p =>
    simp only [loopStep, streamStep, Option.map_some, Option.getD_some]
    split
    · exact h.builds (by simp) (by simp) rfl rfl place
    · exact h.builds (by simp) (by simp) rfl rfl ⟨place.1.pad, place.2⟩
  | roomTest now buf =>
    simp only [loopStep, streamStep, Option.map_some, Option.getD_some]
    split
    · exact h.builds (by simp) (by simp) rfl rfl place.2
    · exact h.builds (by simp) (by simp) rfl rfl place
  | runTest | channelTest | digitalTest | stopFlagTest | periodTest | catchUp =>
    simp only [loopStep, streamStep, Option.map_some, Option.getD_some]
    split <;> exact h.builds (by simp) (by simp) rfl rfl place
  | bumpOverruns now =>
    exact h.moves [.overrun] (by simp) (by simp) rfl rfl place rfl (by simp)
  | packRecord =>
    simp only [loopStep, streamStep]
    split
    · split <;> exact h.builds (by simp) (by simp) rfl rfl place
    · exact h.builds (by simp) (by simp) rfl rfl place
  | flushTest =>
    simp only [loopStep, streamStep]
    split
    · exact h.moves [.pollReturned] (by simp) (by simp) rfl rfl place rfl (by simp)
    · split
      · exact h.moves [.pollReturned] (by simp) (by simp) rfl rfl place rfl (by simp)
      · exact h.builds (by simp) (by simp) rfl rfl place
  | writeResult packet =>
    simp only [loopStep, streamStep]
    cases env.streamWrite with
    | busy =>
      exact h.moves [.pollReturned, .wrote packet .busy] (by simp) (by simp) rfl rfl place rfl (by simp)
    | sent =>
      exact h.moves [.pollReturned, .wrote packet .sent] (by simp) (by simp) rfl rfl place rfl (by simp)
    | failed =>
      dsimp only
      split
      · exact h.moves [.pollReturned, .wrote packet .failed] (by simp) (by simp) rfl rfl place rfl
          (by simp)
      · exact h.moves [.wrote packet .failed] (by simp) (by simp) rfl rfl place rfl (by simp)
  | failDrop =>
    exact h.moves [.pollReturned, .dropped _] (by simp) (by simp) rfl rfl place rfl (by simp)
  | stopRunning | advance | writeCall | failStop =>
    exact h.builds (by simp) (by simp) rfl rfl place

theorem Pc.Tallies.start {pc : Pc} {seq : UInt32} (h : pc.Tallies g seq) :
    pc.Tallies { g with starts := g.starts + 1 } seq := by
  cases pc with
  | stream pc =>
    cases pc with
    | startDone => exact ⟨h.1.trans (Nat.lt_succ_self _), h.2⟩
    | channelTest | channelRead | digitalTest | bitmapPin | bumpSeq | roomTest | pushRecord =>
      exact ⟨⟨h.1.session, h.1.positive, h.1.headed⟩, h.2⟩
    | _ => exact h
  | _ => exact h

/-- An accepted START waits. -/
theorem Tallied.start {index value : UInt16} (h : Tallied m g)
    (log_eq : m'.log = .accepted .streamStart index value :: m.log) (pc : m'.pc = m.pc)
    (stream : m'.dev.stream = { m.dev.stream with
      periodUs := value, flags := index.toUInt8, running := true
      startRequests := m.dev.stream.startRequests + 1 })
    (few : m'.log.startsSinceTest < 256) : Tallied m' { g with starts := g.starts + 1 } := by
  have counted : m'.log.startsSinceTest = m.log.startsSinceTest + 1 := by
    rw [log_eq]
    rfl
  have order := h.handled
  refine ⟨Nat.le_succ_of_le order, h.reset, ?_, ?_, ?_, few, ?_, h.numbers, h.kept, h.headed, ?_⟩
  · rw [pc]
    exact h.level
  · rw [stream]
    change m.dev.stream.startRequests + 1 = m.dev.stream.startDone + UInt8.ofNat (g.starts + 1 - g.handled)
    have more : g.starts + 1 - g.handled = g.starts - g.handled + 1 := by omega
    rw [more, UInt8.ofNat_add, h.requests, UInt8.add_assoc]
    rfl
  · rw [pc, counted]
    intro away
    have waiting := h.waiting away
    change g.starts + 1 - g.handled ≤ _
    omega
  · rw [pc, stream]
    exact h.place.start
  · intro record inside
    rw [log_eq] at inside
    exact h.logged record (by simpa using inside)

theorem Pc.tallies_offStream {pc : Pc} {seq : UInt32} (off : pc.offStream) :
    pc.Tallies g seq ↔ seq = UInt32.ofNat g.count := by
  cases pc with
  | stream pc => contradiction
  | _ => exact Iff.rfl

theorem numbering_offStream (off : m.pc.offStream) : numbering b m (.loop env) g = g := by
  obtain ⟨d, pc, log⟩ := m
  cases pc with
  | stream pc => contradiction
  | _ => rfl

theorem step_tallied {act : Act} (h : Tallied m g) (keeps : keepsNumbering b (m, g) act) :
    Tallied (step b m act) (numbering b m act g) := by
  cases act with
  | disconnect =>
    exact h.quiet [.disconnected] rfl rfl (by simp) rfl rfl id id h.place
  | setup env s =>
    have served := handleSetup_served b env m.dev s
    rcases served.session with ⟨index, value, obs, stream⟩ | ⟨off, requests, done, _, _⟩
    · have noted : numbering b m (.setup env s) g = { g with starts := g.starts + 1 } := by
        unfold numbering
        dsimp only
        rw [obs]
        rfl
      rw [noted]
      exact h.start (congrArg (· :: m.log) obs) rfl stream keeps.2
    · have noted : numbering b m (.setup env s) g = g := by
        unfold numbering
        dsimp only
        rw [Obs.isStart_offSession off, if_neg Bool.false_ne_true]
      have books := served.sameBooks
      rw [noted]
      refine h.quiet [s.obs (handleSetup b env m.dev s).2] rfl ?_ (fun record inside => ?_) requests done
        id id ?_
      · exact startsSinceTest_append (by simpa using off)
      · have quiet := books.2
        rw [← List.mem_singleton.mp inside] at quiet
        exact absurd quiet Bool.false_ne_true
      · change m.pc.Tallies g (handleSetup b env m.dev s).1.stream.seq
        rw [books.1.seq]
        exact h.place
  | loop env =>
    by_cases other : m.pc.offStream
    · obtain ⟨stream, _, news, grown, off⟩ := loopStep_offStream b env m other
      have place := (Pc.tallies_offStream other).mp h.place
      have away : ∀ pc, m.pc ≠ .stream pc := by
        intro pc at_pc
        rw [at_pc] at other
        contradiction
      rw [numbering_offStream other]
      refine h.quiet news grown ?_ (fun record inside => ?_) (congrArg _ stream) (congrArg _ stream)
        (fun _ => away _) (fun _ => away _) ?_
      · exact startsSinceTest_append (fun o inside => Obs.offSession_of_offStream (off o inside))
      · exact absurd (off _ inside) Bool.false_ne_true
      · change (loopStep b env m).pc.Tallies g (loopStep b env m).dev.stream.seq
        rw [stream]
        exact loopStep_enters other (fun _ off => (Pc.tallies_offStream off).mpr place) place
    · obtain ⟨d, pc, log⟩ := m
      cases pc with
      | stream pc => exact streamStep_tallied h keeps.1
      | _ => exact absurd rfl other

/-- Records that stream_sample() has reported were put in the ring. -/
theorem Tallied.takenOf (h : Tallied m g) (records : List (List UInt8))
    (sampled : ∀ record ∈ records, Obs.sampled record ∈ m.log) :
    ∃ taken : List Taken, records = taken.map (·.record) ∧ ∀ x ∈ taken, x ∈ g.taken := by
  induction records with
  | nil => exact ⟨[], rfl, fun x inside => absurd inside List.not_mem_nil⟩
  | cons record records ih =>
    obtain ⟨taken, rfl, members⟩ := ih (fun record' inside => sampled record' (List.mem_cons_of_mem _ inside))
    obtain ⟨x, member, rfl⟩ := h.logged record (sampled record List.mem_cons_self)
    refine ⟨x :: taken, rfl, fun y inside => ?_⟩
    rcases List.mem_cons.mp inside with rfl | inside
    · exact member
    · exact members y inside

theorem boot_tallied (b : Board) : Tallied (boot b) .empty := by
  obtain ⟨caps, nAin, booted, _⟩ := boot_dev b
  have stream : (boot b).dev.stream = StreamState.init := by
    rw [booted]
    rfl
  refine ⟨Nat.le_refl _, Nat.le_refl _, fun _ => rfl, ?_, fun _ => Nat.zero_le _, ?_, ?_, fun _ => rfl,
    fun _ _ => rfl, fun x inside => absurd inside List.not_mem_nil,
    fun record inside => absurd inside List.not_mem_nil⟩
  · rw [stream]
    rfl
  · exact Nat.zero_lt_succ _
  · rw [stream]
    exact UInt32.toNat_inj.mp rfl

/-- In every run in which no record is sampled while a START waits for its reset, the sessions
are numbered from their own START. -/
theorem sessions_numbered_from_start (b : Board) (r : Machine × Numbering)
    (reached : Lib.Reach (Lib.recording (step b) (numbering b)) (keepsNumbering b) (boot b, .empty) r) :
    OwnNumbering r.1 r.2 := by
  have tallied : Tallied r.1 r.2 := by
    refine reached.invariant (I := fun r => Tallied r.1 r.2) (boot_tallied b) ?_
    rintro ⟨m, g⟩ act h keeps
    exact step_tallied h keeps
  have plain : Reachable b r.1 := reached.forget (fun _ _ _ => trivial)
  refine ⟨tallied.numbers, tallied.kept, fun packet result wrote => ?_, tallied.headed⟩
  obtain ⟨records, rfl, sampled⟩ := (plain.audited.wrote packet result wrote).whole
  obtain ⟨taken, rfl, members⟩ := tallied.takenOf records sampled
  exact ⟨taken, rfl, members⟩

/-- A START that arrives before poll(), and the poll that samples after it. -/
def startThenPoll : List Act :=
  selected ++ [request .streamStart 0 0] ++ List.replicate 39 (.loop (stillEnv .sent))

/-- One that arrives once stream_poll() has looked for a START. -/
def startAfterTest : List Act :=
  selected ++ List.replicate 25 (.loop (stillEnv .sent)) ++ [request .streamStart 0 0] ++
    List.replicate 39 (.loop (stillEnv .sent))

def numbered (acts : List Act) : Machine × Numbering :=
  acts.foldl (Lib.recording (step onePinBoard) (numbering onePinBoard)) (boot onePinBoard, .empty)

theorem sessions_numbered_from_start_one_poll :
    (numbered startThenPoll).2.numbers 1 = [0] ∧
      OwnNumbering (numbered startThenPoll).1 (numbered startThenPoll).2 :=
  ⟨by decide +kernel, sessions_numbered_from_start onePinBoard _ (Lib.Follows.reach (by decide +kernel))⟩

/-- The records on both sides of the reset carry seq 0. -/
theorem session_numbered_twice :
    ¬ ∀ (b : Board) (r : Machine × Numbering),
      Lib.Reach (Lib.recording (step b) (numbering b)) (fewStarts b) (boot b, .empty) r →
      OwnNumbering r.1 r.2 := by
  intro claim
  have own := claim onePinBoard (numbered startAfterTest) (Lib.Follows.reach (by decide +kernel))
  have session := own.numbers 1
  revert session
  decide +kernel

end ArduinoDriver
