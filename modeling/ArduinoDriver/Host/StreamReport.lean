import ArduinoDriver.Firmware.Numbering
import ArduinoDriver.Firmware.Turns
import ArduinoDriver.Host.ReadBack

namespace ArduinoDriver

/-- The records since the last START accepted. -/
structure SessionCounts where
  /-- _stream_overruns as that START found it; 0 once stream_poll() has reset it. -/
  stale : UInt32
  /-- The seq in the header of the record being sampled. -/
  header : UInt32
  /-- The seq of the record sampled last. -/
  last : Option UInt32
  dropped : Nat

def SessionCounts.empty : SessionCounts := ⟨0, 0, none, 0⟩

/-- What a step of stream_poll() or stream_sample() adds. -/
def StreamPc.counted (s : StreamState) (g : SessionCounts) : StreamPc → SessionCounts
  | .startReset => { g with stale := 0 }
  | .sampleHeader _ => { g with header := s.seq }
  | .bumpSeq _ _ => { g with last := some g.header }
  | .bumpOverruns _ => { g with dropped := g.dropped + 1 }
  | .failDrop => { g with dropped := g.dropped + (s.packetRecords.toNat + (s.head - s.tail).toNat) }
  | _ => g

def counting (b : Board) (m : Machine) (act : Act) (g : SessionCounts) : SessionCounts :=
  match act with
  | .setup env s =>
    if (s.obs (handleSetup b env m.dev s).2).isStart then ⟨m.dev.stream.overruns, g.header, none, 0⟩ else g
  | .loop _ => match m.pc with
    | .stream pc => pc.counted m.dev.stream g
    | _ => g
  | .disconnect => g

/-- What the host decodes is the session's. -/
def StreamStatus.describes (st : StreamStatus) (g : SessionCounts) : Prop :=
  st.overruns = UInt32.ofNat g.dropped ∧ st.seq = g.last.getD 0

/-- The counters tell: _stream_overruns was 0 at the START or has been reset, and _stream_seq, the
number of the next record, is 0 or 1 before the first record, and not 0 after one. -/
def SessionCounts.told (g : SessionCounts) (s : StreamState) : Prop :=
  g.stale = 0 ∧ (g.last = none → s.seq ≤ 1) ∧ (g.last ≠ none → s.seq ≠ 0)

instance (g : SessionCounts) (s : StreamState) : Decidable (g.told s) :=
  inferInstanceAs (Decidable (_ ∧ _))

/-- What is known at a point of stream_poll(); no START arrives in between. -/
def StreamPc.Tells (g : SessionCounts) (s : StreamState) : StreamPc → Prop
  | .startTest => True
  | .startDone => s.startDone ≠ s.startRequests
  | .startReset => s.startDone = s.startRequests ∧ g.last = none ∧ g.dropped = 0
  | .channelTest .. | .channelRead .. | .digitalTest .. | .bitmapPin .. | .bumpSeq .. =>
    s.startDone = s.startRequests ∧ s.seq = g.header
  | _ => s.startDone = s.startRequests

def Pc.Tells (g : SessionCounts) (s : StreamState) : Pc → Prop
  | .stream pc => pc.Tells g s
  | _ => True

/-- The counters against the session. -/
structure Counts (m : Machine) (g : SessionCounts) : Prop where
  place : m.pc.Tells g m.dev.stream
  unseen : m.dev.stream.startDone ≠ m.dev.stream.startRequests → g.last = none ∧ g.dropped = 0
  overruns : m.dev.stream.overruns = g.stale + UInt32.ofNat g.dropped
  last : ∀ x, g.last = some x → m.dev.stream.seq = x + 1

variable {b : Board} {env : Env} {d : UsbIoDevice} {m m' : Machine} {g : SessionCounts} {log log' : Log}
  {pc : StreamPc} {next : Pc} {stream : StreamState}

/-- A step that counts nothing. -/
theorem Counts.quiet (h : Counts m g)
    (requests : m'.dev.stream.startRequests = m.dev.stream.startRequests)
    (done : m'.dev.stream.startDone = m.dev.stream.startDone)
    (seq : m'.dev.stream.seq = m.dev.stream.seq)
    (overruns : m'.dev.stream.overruns = m.dev.stream.overruns)
    (place : m'.pc.Tells g m'.dev.stream) : Counts m' g := by
  refine ⟨place, ?_, overruns.trans h.overruns, fun x at_x => seq.trans (h.last x at_x)⟩
  rw [requests, done]
  exact h.unseen

theorem Counts.moves (h : Counts ⟨d, .stream pc, log⟩ g)
    (requests : stream.startRequests = d.stream.startRequests)
    (done : stream.startDone = d.stream.startDone) (seq : stream.seq = d.stream.seq)
    (overruns : stream.overruns = d.stream.overruns) (place : next.Tells g stream) :
    Counts ⟨{ d with stream := stream }, next, log'⟩ g :=
  h.quiet requests done seq overruns place

theorem streamStep_counts (h : Counts ⟨d, .stream pc, log⟩ g) :
    Counts (loopStep b env ⟨d, .stream pc, log⟩) (pc.counted d.stream g) := by
  have place : pc.Tells g d.stream := h.place
  have overruns : d.stream.overruns = g.stale + UInt32.ofNat g.dropped := h.overruns
  cases pc with
  | startTest =>
    simp only [loopStep, streamStep, Option.map_some, Option.getD_some]
    split
    · rename_i waits
      exact h.moves rfl rfl rfl rfl waits
    · rename_i seen
      exact h.moves rfl rfl rfl rfl (not_not.mp seen)
  | startDone =>
    obtain ⟨none_, zero⟩ := h.unseen place
    exact ⟨⟨rfl, none_, zero⟩, fun differ => absurd rfl differ, overruns, h.last⟩
  | startReset =>
    obtain ⟨seen, none_, zero⟩ := place
    refine ⟨seen, fun differ => absurd seen differ, ?_, fun x at_x => ?_⟩
    · change (0 : UInt32) = 0 + UInt32.ofNat g.dropped
      rw [zero]
      rfl
    · rw [show StreamPc.counted d.stream g .startReset = { g with stale := 0 } from rfl, none_] at at_x
      contradiction
  | sampleHeader now =>
    exact ⟨⟨place, rfl⟩, h.unseen, overruns, h.last⟩
  | bumpSeq now buf =>
    obtain ⟨seen, same⟩ := place
    refine ⟨seen, fun differ => absurd seen differ, overruns, fun x at_x => ?_⟩
    obtain rfl := Option.some.inj at_x
    exact congrArg (· + 1) same
  | bumpOverruns now =>
    refine ⟨place, fun differ => absurd place differ, ?_, h.last⟩
    change d.stream.overruns + 1 = g.stale + UInt32.ofNat (g.dropped + 1)
    rw [overruns, UInt32.ofNat_add, UInt32.add_assoc]
    rfl
  | failDrop =>
    refine ⟨trivial, fun differ => absurd place differ, ?_, h.last⟩
    change d.stream.dropBacklog.overruns = g.stale + UInt32.ofNat (g.dropped + _)
    rw [d.stream.dropBacklog_overruns, overruns, UInt32.add_assoc, ← UInt32.ofNat_add]
  | runTest | dueTest | stopFlagTest | periodTest | roomTest =>
    simp only [loopStep, streamStep, Option.map_some, Option.getD_some]
    split <;> exact h.moves rfl rfl rfl rfl place
  | channelTest | bitmapPin | digitalTest =>
    simp only [loopStep, streamStep, Option.map_some, Option.getD_some]
    split <;> exact h.moves rfl rfl rfl rfl place
  | catchUp now =>
    simp only [loopStep, streamStep, Option.map_some, Option.getD_some]
    split <;> exact h.moves rfl rfl rfl rfl place
  | packRecord =>
    simp only [loopStep, streamStep]
    split
    · split <;> exact h.moves rfl rfl rfl rfl place
    · exact h.moves rfl rfl rfl rfl place
  | flushTest =>
    simp only [loopStep, streamStep]
    split
    · exact h.moves rfl rfl rfl rfl trivial
    · split
      · exact h.moves rfl rfl rfl rfl trivial
      · exact h.moves rfl rfl rfl rfl place
  | writeResult packet =>
    simp only [loopStep, streamStep]
    cases env.streamWrite with
    | failed =>
      dsimp only
      split
      · exact h.moves rfl rfl rfl rfl trivial
      · exact h.moves rfl rfl rfl rfl place
    | _ => exact h.moves rfl rfl rfl rfl trivial
  | _ => exact h.moves rfl rfl rfl rfl place

theorem Pc.tells_offStream {pc : Pc} {s : StreamState} (off : pc.offStream) : pc.Tells g s := by
  cases pc with
  | stream pc => contradiction
  | _ => trivial

theorem step_counts {act : Act} (h : Counts m g) (between : betweenPolls m act) :
    Counts (step b m act) (counting b m act g) := by
  cases act with
  | disconnect =>
    refine h.quiet rfl rfl rfl rfl ?_
    have place := h.place
    change m.pc.Tells g { m.dev.stream with running := false, nChannels := 0 }
    cases at_pc : m.pc with
    | stream pc =>
      rw [at_pc] at place
      cases pc <;> exact place
    | _ => trivial
  | setup env s =>
    have idle : m.pc = .idle := between
    have place : ∀ (g' : SessionCounts) (s' : StreamState), m.pc.Tells g' s' := by
      rw [idle]
      exact fun _ _ => trivial
    have served := handleSetup_served b env m.dev s
    rcases served.session with ⟨index, value, obs, stream⟩ | ⟨off, requests, done, _, _⟩
    · have noted : counting b m (.setup env s) g = ⟨m.dev.stream.overruns, g.header, none, 0⟩ := by
        unfold counting
        dsimp only
        rw [obs]
        rfl
      rw [noted]
      refine ⟨place _ _, fun _ => ⟨rfl, rfl⟩, ?_, fun x at_x => absurd at_x (by simp)⟩
      change (handleSetup b env m.dev s).1.stream.overruns = _
      rw [stream]
      exact (UInt32.add_zero _).symm
    · have noted : counting b m (.setup env s) g = g := by
        unfold counting
        dsimp only
        rw [Obs.isStart_offSession off, if_neg Bool.false_ne_true]
      have books := served.sameBooks.1
      rw [noted]
      exact h.quiet requests done books.seq books.overruns (place _ _)
  | loop env =>
    by_cases other : m.pc.offStream
    · have stream := (loopStep_offStream b env m other).1
      have noted : counting b m (.loop env) g = g := by
        obtain ⟨d, pc, log⟩ := m
        cases pc with
        | stream pc => contradiction
        | _ => rfl
      rw [noted]
      refine h.quiet (by rw [step, stream]) (by rw [step, stream]) (by rw [step, stream])
        (by rw [step, stream]) ?_
      exact loopStep_enters other (fun _ off => Pc.tells_offStream off) trivial
    · obtain ⟨d, pc, log⟩ := m
      cases pc with
      | stream pc => exact streamStep_counts h
      | _ => exact absurd rfl other

theorem boot_counts (b : Board) : Counts (boot b) .empty := by
  obtain ⟨caps, nAin, booted, _⟩ := boot_dev b
  have stream : (boot b).dev.stream = StreamState.init := by
    rw [booted]
    rfl
  refine ⟨trivial, fun _ => ⟨rfl, rfl⟩, ?_, fun x at_x => absurd at_x (by simp [SessionCounts.empty])⟩
  rw [stream]
  rfl

/-- STREAM_STATUS says seq 0 before and after record number 0. -/
theorem reportedSeq_eq_zero (seq : UInt32) : (if seq = 0 then (0 : UInt32) else seq - 1) = 0 ↔ seq ≤ 1 := by
  rw [UInt32.le_iff_toNat_le, UInt32.toNat_one]
  split
  · rename_i zero
    simp [zero]
  · rename_i more
    have positive : seq.toNat ≠ 0 := fun zero => more (UInt32.toNat_inj.mp zero)
    rw [UInt32.sub_eq_iff_eq_add, UInt32.zero_add, ← UInt32.toNat_inj, UInt32.toNat_one]
    omega

/-- The seq reported before the first record is 0 when the next one is number 0 or 1; after a
record it is that record's unless the numbers have come round to 0. -/
theorem Counts.describes_iff (h : Counts m g) :
    (decodeStreamStatus (streamStatusBytes m.dev.stream)).describes g ↔ g.told m.dev.stream := by
  unfold StreamStatus.describes SessionCounts.told
  rw [decodeStreamStatus_bytes]
  dsimp only
  have overruns : m.dev.stream.overruns = UInt32.ofNat g.dropped ↔ g.stale = 0 := by
    rw [h.overruns]
    constructor
    · intro same
      have cancelled := congrArg (· - UInt32.ofNat g.dropped) same
      simpa using cancelled
    · intro zero
      rw [zero, UInt32.zero_add]
  refine and_congr overruns ?_
  cases at_x : g.last with
  | none =>
    simpa using reportedSeq_eq_zero m.dev.stream.seq
  | some x =>
    have seq := h.last x at_x
    have later : (if m.dev.stream.seq = 0 then (0 : UInt32) else m.dev.stream.seq - 1) = x ↔
        m.dev.stream.seq ≠ 0 := by
      split
      · rename_i zero
        rw [zero] at seq
        refine ⟨?_, fun differ => absurd zero differ⟩
        rintro rfl
        contradiction
      · rename_i more
        rw [seq, UInt32.add_sub_cancel]
        exact ⟨fun _ => seq ▸ more, fun _ => rfl⟩
    simpa using later

theorem handleSetup_streamStatus {s : SetupPacket} {index : UInt16} {reply : List UInt8}
    (said : s.obs (handleSetup b env d s).2 = .answered .streamStatus index reply) :
    reply = (streamStatusBytes d.stream).take s.wLength.toNat := by
  obtain ⟨_, named, _, full, written, rfl⟩ := handleSetup_answered said
  unfold replyBytes at written
  rw [named] at written
  dsimp only at written
  split at written
  · rw [Option.some.inj written]
  · contradiction

theorem handleSetup_wholeStatus {s : SetupPacket} {index : UInt16} {reply : List UInt8}
    (said : s.obs (handleSetup b env d s).2 = .answered .streamStatus index reply)
    (whole : streamStatusLen ≤ s.wLength.toNat) : reply = streamStatusBytes d.stream :=
  (handleSetup_streamStatus said).trans (List.take_of_length_le whole)

/-- GET_STREAM_STATUS describes the session of the last START exactly when the counters tell. -/
theorem stream_status_describes_session_iff (b : Board) (r : Machine × SessionCounts)
    (reached : Lib.Reach (Lib.recording (step b) (counting b)) (fun r act => betweenPolls r.1 act)
      (boot b, .empty) r)
    (env : Env) (s : SetupPacket) (index : UInt16) (reply : List UInt8)
    (said : s.obs (handleSetup b env r.1.dev s).2 = .answered .streamStatus index reply)
    (whole : streamStatusLen ≤ s.wLength.toNat) :
    (decodeStreamStatus reply).describes r.2 ↔ r.2.told r.1.dev.stream := by
  have counts : Counts r.1 r.2 := by
    refine reached.invariant (I := fun r => Counts r.1 r.2) (boot_counts b) ?_
    rintro ⟨m, g⟩ act h between
    exact step_counts h between
  rw [handleSetup_wholeStatus said whole]
  exact counts.describes_iff

/-- A stream of one pin, with two records sampled. -/
def twoRecords : List Act :=
  selected ++ [request .streamStart 0 0] ++ List.replicate 75 (.loop (stillEnv .sent))

def counted (acts : List Act) : Machine × SessionCounts :=
  acts.foldl (Lib.recording (step onePinBoard) (counting onePinBoard)) (boot onePinBoard, .empty)

theorem stream_status_describes_session_iff_two_records :
    (counted twoRecords).2.last = some 1 ∧
      (decodeStreamStatus (streamStatusBytes (counted twoRecords).1.dev.stream)).describes
        (counted twoRecords).2 :=
  ⟨by decide +kernel,
    (stream_status_describes_session_iff onePinBoard (counted twoRecords)
      (Lib.Follows.reach (by decide +kernel)) (stillEnv .busy) (.inp .streamStatus 0 16) 0 _
      (by decide +kernel) (by decide)).mpr (by decide +kernel)⟩

/-- The same stream stopped and started again, with no poll() since. -/
def restarted : Machine × SessionCounts :=
  counted (twoRecords ++ [request .streamStop 0 0, request .streamStart 0 0])

/-- It says seq 1 before it has sampled anything. -/
theorem restarted_stream_tells_old_seq :
    ¬ ∀ (b : Board) (r : Machine × SessionCounts),
      Lib.Reach (Lib.recording (step b) (counting b)) (fun r act => betweenPolls r.1 act)
        (boot b, .empty) r →
      ∀ (env : Env) (s : SetupPacket) (index : UInt16) (reply : List UInt8),
        s.obs (handleSetup b env r.1.dev s).2 = .answered .streamStatus index reply →
        streamStatusLen ≤ s.wLength.toNat → (decodeStreamStatus reply).describes r.2 := by
  intro claim
  have describes := claim onePinBoard restarted (Lib.Follows.reach (by decide +kernel)) (stillEnv .busy)
    (.inp .streamStatus 0 16) 0 (streamStatusBytes restarted.1.dev.stream) (by decide +kernel) (by decide)
  have seq := describes.2
  revert seq
  decide +kernel

end ArduinoDriver
