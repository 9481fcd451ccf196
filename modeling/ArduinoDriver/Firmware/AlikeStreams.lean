import ArduinoDriver.Firmware.Phases
import ArduinoDriver.Firmware.TwoRuns

namespace ArduinoDriver

/-- What an ACKed request asks of the stream fields. -/
inductive StreamRequest where
  | select (pin : Nat) (add : Bool)
  | start (periodUs : UInt16) (flags : UInt8)
  | stop
  /-- PIN_MODE. -/
  | leave (pin : Nat)
  /-- RESET, or the connection is lost. -/
  | clear
  deriving DecidableEq, Repr

def Obs.streamRequest : Obs → Option StreamRequest
  | .accepted .streamSelect index value => some (.select index.toNat (decide (value ≠ 0)))
  | .accepted .streamStart index value => some (.start value index.toUInt8)
  | .accepted .streamStop _ _ => some .stop
  | .accepted .pinMode index _ => some (.leave index.toNat)
  | .accepted .reset _ _ | .disconnected => some .clear
  | _ => none

def StreamState.perform (s : StreamState) : StreamRequest → StreamState
  | .select pin true => if (s.channelIndex pin).isSome then s else s.addChannel pin
  | .select pin false => match s.channelIndex pin with
    | some i => s.removeChannel i
    | none => s
  | .start periodUs flags =>
    { s with
      periodUs := periodUs
      flags := flags
      running := true
      startRequests := s.startRequests + 1 }
  | .stop => { s with running := false }
  | .leave pin => if s.running && (s.channelIndex pin).isSome then { s with running := false } else s
  | .clear => { s with running := false, nChannels := 0 }

/-- What requests set has stayed as it was. -/
structure StreamState.SetAs (s s' : StreamState) : Prop where
  running : s.running = s'.running
  nChannels : s.nChannels = s'.nChannels
  channels : s.channels = s'.channels
  flags : s.flags = s'.flags
  periodUs : s.periodUs = s'.periodUs

/-- stream_poll() has nothing to sample but for a START that it has not seen yet, and has not begun
what follows the reset. -/
def StreamPc.Untouched (s : StreamState) : StreamPc → Prop
  | .startTest | .startDone => s.running = true → s.startDone ≠ s.startRequests
  | .startReset => s.running = true → s.startDone = s.startRequests
  | .runTest | .packRecord | .flushTest | .writeCall | .writeResult _ => s.running = false
  | _ => False

def Pc.Untouched (s : StreamState) : Pc → Prop
  | .stream pc => pc.Untouched s
  | _ => s.running = true → s.startDone ≠ s.startRequests

/-- No record has been produced for STREAM_STATUS to tell of, and the next one comes behind the
reset of a START. -/
structure Pristine (s : StreamState) (pc : Pc) : Prop where
  seq : s.seq ≤ 1
  overruns : s.overruns = 0
  place : pc.Untouched s

variable {b : Board} {env : Env} {d d' : UsbIoDevice} {m : Machine} {o : Obs} {s s' : StreamState}
  {req : StreamRequest} {pc : Pc} {log : Log}

/-- A SELECT of what is selected already, or the other way round. -/
theorem perform_select {pin : Nat} {add : Bool} (settled : (s.channelIndex pin).isSome = add) :
    s.perform (.select pin add) = s := by
  cases add with
  | true => exact if_pos settled
  | false =>
    have missing : s.channelIndex pin = none := by
      cases found : s.channelIndex pin with
      | none => rfl
      | some i =>
        rw [found] at settled
        contradiction
    simp only [StreamState.perform, missing]

/-- The stream behind a request is what the request asks of it. -/
theorem Served.stream (served : Served b env d d' o) :
    d'.stream = o.streamRequest.elim d.stream d.stream.perform := by
  cases served with
  | unchanged req index value settled silent chosen =>
    rcases settled with rfl | rfl
    · exact (perform_select (chosen rfl)).symm
    · rfl
  | added index value idle known fits fresh room adds =>
    change _ = d.stream.perform (.select index.toNat (decide (value ≠ 0)))
    have missing : ¬ (d.stream.channelIndex index.toNat).isSome = true := by
      rw [fresh]
      exact Bool.false_ne_true
    rw [decide_eq_true adds]
    exact (if_neg missing).symm
  | removed index value i idle found removes =>
    change _ = d.stream.perform (.select index.toNat (decide (value ≠ 0)))
    rw [decide_eq_false (not_not.mpr removes)]
    simp only [StreamState.perform, found]
  | written req mode index value writes =>
    cases req <;> first | rfl | contradiction
  | _ => rfl

theorem Pristine.stopped (h : Pristine s pc) (seq : s'.seq = s.seq) (overruns : s'.overruns = s.overruns)
    (stopped : s'.running = false) : Pristine s' pc := by
  refine ⟨seq ▸ h.seq, overruns.trans h.overruns, ?_⟩
  have idle : ∀ P : Prop, s'.running = true → P := by
    intro P runs
    rw [stopped] at runs
    contradiction
  have place := h.place
  cases pc with
  | stream pc =>
    cases pc with
    | startTest | startDone | startReset => exact idle _
    | runTest | packRecord | flushTest | writeCall | writeResult => exact stopped
    | _ => exact place
  | _ => exact idle _

theorem Pristine.congr (h : Pristine s pc) (seq : s'.seq = s.seq) (overruns : s'.overruns = s.overruns)
    (running : s'.running = s.running) (requests : s'.startRequests = s.startRequests)
    (done : s'.startDone = s.startDone) : Pristine s' pc := by
  refine ⟨seq ▸ h.seq, overruns.trans h.overruns, ?_⟩
  have place := h.place
  cases pc with
  | stream pc =>
    cases pc with
    | startTest | startDone | startReset | runTest | packRecord | flushTest | writeCall | writeResult =>
      simpa only [Pc.Untouched, StreamPc.Untouched, running, requests, done] using place
    | _ => exact place
  | _ => simpa only [Pc.Untouched, running, requests, done] using place

/-- The START comes outside stream_poll(), and the counts of STARTs then differ. -/
def StreamState.Heeds (s : StreamState) (pc : Pc) : Prop :=
  pc.offStream = true ∧ s.startRequests + 1 ≠ s.startDone

instance (s : StreamState) (pc : Pc) : Decidable (s.Heeds pc) := inferInstanceAs (Decidable (_ ∧ _))

def StreamRequest.starts : StreamRequest → Bool
  | .start .. => true
  | _ => false

theorem Pristine.perform (h : Pristine s pc) (heeded : req.starts = true → s.Heeds pc) :
    Pristine (s.perform req) pc := by
  cases req with
  | select pin add =>
    cases add with
    | true =>
      simp only [StreamState.perform]
      split
      · exact h
      · exact h.congr rfl rfl rfl rfl rfl
    | false =>
      simp only [StreamState.perform]
      split
      · exact h.congr rfl rfl rfl rfl rfl
      · exact h
  | start periodUs flags =>
    obtain ⟨off, differs⟩ := heeded rfl
    refine ⟨h.seq, h.overruns, ?_⟩
    cases pc with
    | stream pc => contradiction
    | _ => exact fun _ same => differs same.symm
  | leave pin =>
    simp only [StreamState.perform]
    split
    · exact h.stopped rfl rfl rfl
    · exact h
  | stop | clear => exact h.stopped rfl rfl rfl

theorem streamStep_pristine {pc : StreamPc} (h : Pristine d.stream (.stream pc))
    (accepted : env.streamWrite ≠ .failed) (held : pc = .startReset → d.stream.running = false) :
    let r := streamStep b env d pc
    Pristine r.1 ((r.2.1.map Pc.stream).getD .idle) ∧ r.1.SetAs d.stream := by
  have idle : ∀ {s : StreamState} {P : Prop}, s.running = false → s.running = true → P := by
    intro s P stopped runs
    rw [stopped] at runs
    contradiction
  have place := h.place
  cases pc with
  | startTest =>
    refine ⟨⟨h.seq, h.overruns, ?_⟩, ⟨rfl, rfl, rfl, rfl, rfl⟩⟩
    simp only [streamStep]
    split
    · rename_i pending
      exact fun _ => pending
    · rename_i seen
      change d.stream.running = false
      cases runs : d.stream.running with
      | false => rfl
      | true => exact absurd (not_not.mp seen) (place runs)
  | startDone => exact ⟨⟨h.seq, h.overruns, fun _ => rfl⟩, ⟨rfl, rfl, rfl, rfl, rfl⟩⟩
  | startReset => exact ⟨⟨UInt32.zero_le, rfl, held rfl⟩, ⟨rfl, rfl, rfl, rfl, rfl⟩⟩
  | runTest =>
    have stopped : d.stream.running = false := place
    refine ⟨⟨h.seq, h.overruns, ?_⟩, ⟨rfl, rfl, rfl, rfl, rfl⟩⟩
    simp only [streamStep, stopped]
    exact stopped
  | packRecord =>
    have stopped : d.stream.running = false := place
    simp only [streamStep]
    split
    · split
      · exact ⟨⟨h.seq, h.overruns, stopped⟩, ⟨rfl, rfl, rfl, rfl, rfl⟩⟩
      · exact ⟨⟨h.seq, h.overruns, stopped⟩, ⟨rfl, rfl, rfl, rfl, rfl⟩⟩
    · exact ⟨⟨h.seq, h.overruns, stopped⟩, ⟨rfl, rfl, rfl, rfl, rfl⟩⟩
  | flushTest =>
    have stopped : d.stream.running = false := place
    simp only [streamStep]
    split
    · exact ⟨⟨h.seq, h.overruns, idle stopped⟩, ⟨rfl, rfl, rfl, rfl, rfl⟩⟩
    · split
      · exact ⟨⟨h.seq, h.overruns, idle stopped⟩, ⟨rfl, rfl, rfl, rfl, rfl⟩⟩
      · exact ⟨⟨h.seq, h.overruns, stopped⟩, ⟨rfl, rfl, rfl, rfl, rfl⟩⟩
  | writeCall => exact ⟨⟨h.seq, h.overruns, place⟩, ⟨rfl, rfl, rfl, rfl, rfl⟩⟩
  | writeResult packet =>
    have stopped : d.stream.running = false := place
    simp only [streamStep]
    cases written : env.streamWrite with
    | busy => exact ⟨⟨h.seq, h.overruns, idle stopped⟩, ⟨rfl, rfl, rfl, rfl, rfl⟩⟩
    | sent => exact ⟨⟨h.seq, h.overruns, idle stopped⟩, ⟨rfl, rfl, rfl, rfl, rfl⟩⟩
    | failed => exact absurd written accepted
  | _ => exact absurd place id

/-- Such a stream stays so in poll(), until it begins behind the reset of a START. -/
theorem loopStep_pristine (h : Pristine m.dev.stream m.pc) (accepted : env.streamWrite ≠ .failed)
    (held : m.pc = .stream .startReset → m.dev.stream.running = false) :
    Pristine (loopStep b env m).dev.stream (loopStep b env m).pc ∧
      (loopStep b env m).dev.stream.SetAs m.dev.stream := by
  by_cases off : m.pc.offStream = true
  · have stream := (loopStep_offStream b env m off).1
    have pending : m.dev.stream.running = true → m.dev.stream.startDone ≠ m.dev.stream.startRequests := by
      have place := h.place
      cases at_pc : m.pc with
      | stream pc =>
        rw [at_pc] at off
        contradiction
      | _ =>
        rw [at_pc] at place
        exact place
    rw [stream]
    refine ⟨⟨h.seq, h.overruns, ?_⟩, ⟨rfl, rfl, rfl, rfl, rfl⟩⟩
    refine loopStep_enters off (P := fun pc => pc.Untouched m.dev.stream) (fun pc away => ?_) pending
    cases pc with
    | stream pc => contradiction
    | _ => exact pending
  · obtain ⟨d, pc, log⟩ := m
    cases pc with
    | stream pc =>
      refine streamStep_pristine h accepted (fun at_reset => held ?_)
      rw [at_reset]
    | _ => exact absurd rfl off

/-- What requests have set up, and the verdicts on the next ones read. -/
structure SameSettings (s s' : StreamState) : Prop where
  running : s'.running = s.running
  nChannels : s'.nChannels = s.nChannels
  channels : ∀ i < s.nChannels.toNat, s'.channels i = s.channels i

theorem SameSettings.channelIndex (h : SameSettings s s') (pin : Nat) :
    s'.channelIndex pin = s.channelIndex pin := by
  unfold StreamState.channelIndex
  rw [h.nChannels]
  apply Lib.Table.find_congr
  intro i inside
  rw [h.channels i inside]

theorem SameSettings.keep {t t' : StreamState} (h : SameSettings s s') (set : t.SetAs s) (set' : t'.SetAs s') :
    SameSettings t t' := by
  refine ⟨?_, ?_, ?_⟩
  · exact set'.running.trans (h.running.trans set.running.symm)
  · exact set'.nChannels.trans (h.nChannels.trans set.nChannels.symm)
  · rw [set.nChannels, set.channels, set'.channels]
    exact h.channels

theorem addChannel_channels (h : SameSettings s s') (pin : Nat) {i : Nat}
    (same : i < s.nChannels.toNat ∨ s'.channels i = s.channels i) :
    (s'.addChannel pin).channels i = (s.addChannel pin).channels i := by
  simp only [StreamState.addChannel, h.nChannels]
  by_cases last : i = s.nChannels.toNat
  · subst last
    rw [Function.update_self, Function.update_self]
  · rw [Function.update_of_ne last, Function.update_of_ne last]
    exact same.elim (h.channels i) id

theorem removeChannel_channels (h : SameSettings s s') (k : Nat) {i : Nat}
    (same : i < s.nChannels.toNat ∨ s'.channels i = s.channels i) :
    (s'.removeChannel k).channels i = (s.removeChannel k).channels i := by
  simp only [StreamState.removeChannel, shiftDown, h.nChannels]
  by_cases moves : k ≤ i ∧ i + 1 < s.nChannels.toNat
  · rw [if_pos moves, if_pos moves]
    exact h.channels (i + 1) moves.2
  · rw [if_neg moves, if_neg moves]
    exact same.elim (h.channels i) id

theorem SameSettings.perform (h : SameSettings s s') (req : StreamRequest) :
    SameSettings (s.perform req) (s'.perform req) := by
  cases req with
  | select pin add =>
    cases add with
    | true =>
      simp only [StreamState.perform, h.channelIndex]
      by_cases found : (s.channelIndex pin).isSome = true
      · rw [if_pos found, if_pos found]
        exact h
      · rw [if_neg found, if_neg found]
        refine ⟨h.running, congrArg (· + 1) h.nChannels, ?_⟩
        intro i inside
        by_cases last : i < s.nChannels.toNat
        · exact addChannel_channels h pin (.inl last)
        · have bound : i < (s.nChannels + 1).toNat := inside
          have one : (s.nChannels + 1).toNat ≤ s.nChannels.toNat + 1 := by
            rw [UInt8.toNat_add]
            exact Nat.mod_le ..
          obtain rfl : i = s.nChannels.toNat := by omega
          simp only [StreamState.addChannel, h.nChannels, Function.update_self]
    | false =>
      simp only [StreamState.perform, h.channelIndex]
      cases found : s.channelIndex pin with
      | none => exact h
      | some k =>
        have below : k < s.nChannels.toNat := (Lib.Table.find_eq_some found).1
        refine ⟨h.running, congrArg (· - 1) h.nChannels, ?_⟩
        intro i inside
        have fewer : i < (s.nChannels - 1).toNat := inside
        have one : (s.nChannels - 1).toNat ≤ s.nChannels.toNat := by
          have := s.nChannels.toNat_lt
          rw [UInt8.toNat_sub, UInt8.toNat_one]
          omega
        exact removeChannel_channels h k (.inl (by omega))
  | start periodUs flags => exact ⟨rfl, h.nChannels, h.channels⟩
  | stop => exact ⟨rfl, h.nChannels, h.channels⟩
  | leave pin =>
    simp only [StreamState.perform, h.channelIndex, h.running]
    by_cases found : (s.running && (s.channelIndex pin).isSome) = true
    · rw [if_pos found, if_pos found]
      exact ⟨rfl, h.nChannels, h.channels⟩
    · rw [if_neg found, if_neg found]
      exact h
  | clear =>
    refine ⟨rfl, rfl, ?_⟩
    intro i inside
    exact absurd inside (Nat.not_lt_zero i)

/-- The channel that stream_sample() has found to be below the count. -/
def Pc.reads : Pc → Option Nat
  | .stream (.channelRead _ _ i) => some i
  | _ => none

/-- The state with other contents where nothing reads them, and other counts of STARTs. -/
def StreamState.recast (s : StreamState) (channels : Nat → Nat) (ring : Nat → List UInt8)
    (since : UInt32) (requests done : UInt8) : StreamState :=
  { s with
    channels := channels, ring := ring, packetSinceUs := since
    startRequests := requests, startDone := done }

/-- A state that goes on like `s`, and tells the same. -/
structure Recast (s : StreamState) (reads : Option Nat) (channels : Nat → Nat) (ring : Nat → List UInt8)
    (since : UInt32) (requests done : UInt8) : Prop where
  channels : ∀ i, i < s.nChannels.toNat ∨ reads = some i → channels i = s.channels i
  ring : ∀ k < (s.head - s.tail).toNat, ring (ringSlot streamRingDepth (s.tail + UInt8.ofNat k)) =
    s.ring (ringSlot streamRingDepth (s.tail + UInt8.ofNat k))
  since : s.packet ≠ [] → since = s.packetSinceUs
  pending : requests - done = s.startRequests - s.startDone

def Copies (reads : Option Nat) (s s' : StreamState) : Prop :=
  ∃ channels ring since requests done, s' = s.recast channels ring since requests done ∧
    Recast s reads channels ring since requests done

variable {reads : Option Nat} {channels : Nat → Nat} {ring : Nat → List UInt8} {since : UInt32}
  {requests done : UInt8}

theorem Recast.settings (h : Recast s reads channels ring since requests done) :
    SameSettings s (s.recast channels ring since requests done) :=
  ⟨rfl, rfl, fun i inside => h.channels i (.inl inside)⟩

theorem Copies.settings (h : Copies reads s s') : SameSettings s s' := by
  obtain ⟨_, _, _, _, _, rfl, recast⟩ := h
  exact recast.settings

theorem Copies.perform (h : Copies reads s s') (req : StreamRequest) :
    Copies reads (s.perform req) (s'.perform req) := by
  obtain ⟨channels, ring, since, requests, done, rfl, recast⟩ := h
  have settings := recast.settings
  have after := settings.perform req
  have read : ∀ i, reads = some i → channels i = s.channels i := fun i here => recast.channels i (.inr here)
  have still : Copies reads s (s.recast channels ring since requests done) :=
    ⟨_, _, _, _, _, rfl, recast⟩
  cases req with
  | select pin add =>
    cases add with
    | true =>
      simp only [StreamState.perform, settings.channelIndex] at after ⊢
      by_cases found : (s.channelIndex pin).isSome = true
      · rw [if_pos found, if_pos found]
        exact still
      · rw [if_neg found, if_neg found] at after ⊢
        refine ⟨_, ring, since, requests, done, rfl, ⟨?_, recast.ring, recast.since, recast.pending⟩⟩
        intro i here
        rcases here with inside | reading
        · exact after.channels i inside
        · exact addChannel_channels settings pin (.inr (read i reading))
    | false =>
      simp only [StreamState.perform, settings.channelIndex] at after ⊢
      cases found : s.channelIndex pin with
      | none => exact still
      | some k =>
        rw [found] at after
        refine ⟨_, ring, since, requests, done, rfl, ⟨?_, recast.ring, recast.since, recast.pending⟩⟩
        intro i here
        rcases here with inside | reading
        · exact after.channels i inside
        · exact removeChannel_channels settings k (.inr (read i reading))
  | start periodUs flags =>
    refine ⟨channels, ring, since, requests + 1, done, rfl, ⟨recast.channels, recast.ring, recast.since, ?_⟩⟩
    have pending := recast.pending
    change requests + 1 - done = s.startRequests + 1 - s.startDone
    apply UInt8.toNat_inj.mp
    have same := congrArg UInt8.toNat pending
    have := requests.toNat_lt
    have := done.toNat_lt
    have := s.startRequests.toNat_lt
    have := s.startDone.toNat_lt
    simp only [UInt8.toNat_sub, UInt8.toNat_add, UInt8.toNat_one] at same ⊢
    omega
  | stop =>
    exact ⟨channels, ring, since, requests, done, rfl,
      ⟨recast.channels, recast.ring, recast.since, recast.pending⟩⟩
  | leave pin =>
    simp only [StreamState.perform, settings.channelIndex, settings.running]
    by_cases found : (s.running && (s.channelIndex pin).isSome) = true
    · rw [if_pos found, if_pos found]
      exact ⟨channels, ring, since, requests, done, rfl,
        ⟨recast.channels, recast.ring, recast.since, recast.pending⟩⟩
    · rw [if_neg found, if_neg found]
      exact still
  | clear =>
    refine ⟨channels, ring, since, requests, done, rfl, ⟨?_, recast.ring, recast.since, recast.pending⟩⟩
    intro i here
    rcases here with inside | reading
    · exact absurd inside (Nat.not_lt_zero i)
    · exact read i reading

/-- A record pushed by both, whatever the rings hold elsewhere. -/
theorem push_ring (same : ∀ k < (s.head - s.tail).toNat,
      ring (ringSlot streamRingDepth (s.tail + UInt8.ofNat k)) =
        s.ring (ringSlot streamRingDepth (s.tail + UInt8.ofNat k))) (record : List UInt8) :
    ∀ k < (s.head + 1 - s.tail).toNat,
      Function.update ring (ringSlot streamRingDepth s.head) record
          (ringSlot streamRingDepth (s.tail + UInt8.ofNat k)) =
        Function.update s.ring (ringSlot streamRingDepth s.head) record
          (ringSlot streamRingDepth (s.tail + UInt8.ofNat k)) := by
  intro k below
  by_cases here : ringSlot streamRingDepth (s.tail + UInt8.ofNat k) = ringSlot streamRingDepth s.head
  · rw [here, Function.update_self, Function.update_self]
  · rw [Function.update_of_ne here, Function.update_of_ne here]
    apply same
    -- the record that was pushed last stands at the head
    by_contra past
    apply here
    have one : (s.head + 1 - s.tail).toNat ≤ (s.head - s.tail).toNat + 1 := by
      have := s.head.toNat_lt
      have := s.tail.toNat_lt
      simp only [UInt8.toNat_sub, UInt8.toNat_add, UInt8.toNat_one]
      omega
    obtain rfl : k = (s.head - s.tail).toNat := by omega
    rw [Lib.Ring.add_count]

theorem Recast.front (h : Recast s reads channels ring since requests done) (filled : s.tail ≠ s.head) :
    (s.recast channels ring since requests done).front = s.front := by
  have first := h.ring 0 (Lib.Ring.count_pos filled)
  rw [show s.tail + UInt8.ofNat 0 = s.tail from UInt8.add_zero s.tail] at first
  exact first

/-- A record moved to the packet by both. -/
theorem Recast.pack (h : Recast s reads channels ring since requests done) (filled : s.tail ≠ s.head)
    (now : UInt32) :
    ∃ since', (s.recast channels ring since requests done).pack now =
        (s.pack now).recast channels ring since' requests done ∧
      Recast (s.pack now) reads channels ring since' requests done := by
  refine ⟨if s.packet = [] then now else since, ?_, ⟨h.channels, ?_, ?_, h.pending⟩⟩
  · have front := h.front filled
    unfold StreamState.pack
    rw [front]
    rfl
  · intro k below
    have left : k < (s.head - (s.tail + 1)).toNat := below
    have count := Lib.Ring.count_tail filled
    have same := h.ring (k + 1) (by omega)
    have next : s.tail + UInt8.ofNat (k + 1) = s.tail + 1 + UInt8.ofNat k := by
      rw [UInt8.ofNat_add, UInt8.add_comm (UInt8.ofNat k), ← UInt8.add_assoc]
      rfl
    rw [next] at same
    exact same
  · intro _
    change (if s.packet = [] then now else since) = if s.packet = [] then now else s.packetSinceUs
    by_cases empty : s.packet = []
    · rw [if_pos empty, if_pos empty]
    · rw [if_neg empty, if_neg empty]
      exact h.since empty

/-- The STARTs are seen in both, or in neither. -/
theorem Recast.pending_iff (h : Recast s reads channels ring since requests done) :
    done = requests ↔ s.startDone = s.startRequests := by
  have apart : ∀ x y : UInt8, x = y ↔ y - x = 0 := by
    intro x y
    rw [← UInt8.toNat_inj, ← UInt8.toNat_inj, UInt8.toNat_sub, UInt8.toNat_zero]
    have := x.toNat_lt
    have := y.toNat_lt
    omega
  rw [apart, apart s.startDone, h.pending]

/-- A step of stream_poll() at the same point. -/
theorem streamStep_copies {pc : StreamPc} {e : EventState} {l : Status}
    (h : Copies (Pc.reads (.stream pc)) d.stream s) :
    let r := streamStep b env d pc
    let r' := streamStep b env (d.reseat e s l) pc
    r'.2.1 = r.2.1 ∧ Copies (Pc.reads ((r.2.1.map Pc.stream).getD .idle)) r.1 r'.1 := by
  obtain ⟨channels, ring, since, requests, done, rfl, recast⟩ := h
  have chosen : ∀ i, i < d.stream.nChannels.toNat → channels i = d.stream.channels i :=
    fun i inside => recast.channels i (.inl inside)
  have still : ∀ reads : Option Nat, (∀ i, reads = some i → channels i = d.stream.channels i) →
      Copies reads d.stream (d.stream.recast channels ring since requests done) := by
    intro reads read
    refine ⟨_, _, _, _, _, rfl, ⟨?_, recast.ring, recast.since, recast.pending⟩⟩
    intro i here
    exact here.elim (chosen i) (read i)
  have outside : ∀ i, none = some i → channels i = d.stream.channels i := by
    intro i here
    contradiction
  have selected : ∀ i, i < d.stream.nChannels.toNat ∨ none = some i → channels i = d.stream.channels i :=
    fun i here => here.elim (chosen i) (outside i)
  intro r r'
  cases pc with
  | startTest =>
    have next : r'.2.1 = r.2.1 := by
      change some (if done ≠ requests then _ else _) =
        some (if d.stream.startDone ≠ d.stream.startRequests then _ else _)
      by_cases seen : d.stream.startDone = d.stream.startRequests
      · rw [if_neg (not_not.mpr seen), if_neg (not_not.mpr (recast.pending_iff.mpr seen))]
      · rw [if_pos seen, if_pos (fun there => seen (recast.pending_iff.mp there))]
    refine ⟨next, still _ ?_⟩
    simp only [r, streamStep]
    split <;> exact outside
  | startDone =>
    refine ⟨rfl, channels, ring, since, requests, requests, rfl, ⟨selected, recast.ring, recast.since, ?_⟩⟩
    change requests - requests = d.stream.startRequests - d.stream.startRequests
    rw [UInt8.sub_self, UInt8.sub_self]
  | startReset =>
    refine ⟨rfl, channels, ring, since, requests, done, rfl, ⟨selected, ?_, ?_, recast.pending⟩⟩
    · intro k below
      have none_ : k < ((0 : UInt8) - 0).toNat := below
      exact absurd none_ (Nat.not_lt_zero k)
    · intro filled
      exact absurd rfl filled
  | runTest | dueTest | digitalTest now buf | bitmapPin now buf bits p | roomTest now buf | stopFlagTest now
  | periodTest now =>
    refine ⟨rfl, still _ ?_⟩
    simp only [r, streamStep]
    split <;> exact outside
  | sampleHeader now => exact ⟨rfl, still _ outside⟩
  | channelTest now buf i =>
    refine ⟨rfl, still _ ?_⟩
    simp only [r, streamStep]
    split
    · rename_i inside
      intro j here
      obtain rfl := Option.some.inj here
      exact chosen i inside
    · exact outside
  | channelRead now buf i =>
    have read : channels i = d.stream.channels i := recast.channels i (.inr rfl)
    refine ⟨?_, still _ outside⟩
    change some (StreamPc.channelTest now (buf ++ putU16 (readChannel env d (channels i))) (i + 1)) =
      some (StreamPc.channelTest now (buf ++ putU16 (readChannel env d (d.stream.channels i))) (i + 1))
    rw [read]
  | bumpSeq now buf | bumpOverruns now | stopRunning now | advance now | writeCall =>
    exact ⟨rfl, channels, ring, since, requests, done, rfl,
      ⟨selected, recast.ring, recast.since, recast.pending⟩⟩
  | pushRecord now buf =>
    exact ⟨rfl, channels, _, since, requests, done, rfl,
      ⟨selected, push_ring recast.ring buf, recast.since, recast.pending⟩⟩
  | catchUp now =>
    refine ⟨rfl, ?_⟩
    by_cases early : before now d.stream.deadlineUs = true
    · have here : r.1 = d.stream := if_pos early
      have there : r'.1 = d.stream.recast channels ring since requests done := if_pos early
      rw [here, there]
      exact still _ outside
    · have here : r.1 = { d.stream with deadlineUs := now + d.stream.periodUs.toUInt32 } := if_neg early
      have there : r'.1 = { d.stream.recast channels ring since requests done with
          deadlineUs := now + d.stream.periodUs.toUInt32 } := if_neg early
      rw [here, there]
      exact ⟨channels, ring, since, requests, done, rfl, ⟨selected, recast.ring, recast.since, recast.pending⟩⟩
  | packRecord =>
    by_cases filled : d.stream.tail ≠ d.stream.head
    · have front := recast.front filled
      by_cases fits : b.packetMax < d.stream.packet.length + d.stream.front.length
      · have also : b.packetMax < (d.stream.recast channels ring since requests done).packet.length +
            (d.stream.recast channels ring since requests done).front.length := by
          rw [front]
          exact fits
        have here : r = (d.stream, some .flushTest, []) := (if_pos filled).trans (if_pos fits)
        have there : r' = (d.stream.recast channels ring since requests done, some .flushTest, []) :=
          (if_pos filled).trans (if_pos also)
        rw [here, there]
        exact ⟨rfl, still _ outside⟩
      · have also : ¬ b.packetMax < (d.stream.recast channels ring since requests done).packet.length +
            (d.stream.recast channels ring since requests done).front.length := by
          rw [front]
          exact fits
        have here : r = (d.stream.pack env.micros, some .packRecord, []) := (if_pos filled).trans (if_neg fits)
        have there : r' = ((d.stream.recast channels ring since requests done).pack env.micros,
            some .packRecord, []) := (if_pos filled).trans (if_neg also)
        rw [here, there]
        obtain ⟨since', packed, after⟩ := recast.pack filled env.micros
        rw [packed]
        exact ⟨rfl, channels, ring, since', requests, done, rfl,
          ⟨selected, after.ring, after.since, after.pending⟩⟩
    · have here : r = (d.stream, some .flushTest, []) := if_neg filled
      have there : r' = (d.stream.recast channels ring since requests done, some .flushTest, []) :=
        if_neg filled
      rw [here, there]
      exact ⟨rfl, still _ outside⟩
  | flushTest =>
    by_cases empty : d.stream.packet = []
    · have here : r = (d.stream, none, []) := if_pos empty
      have there : r' = (d.stream.recast channels ring since requests done, none, []) := if_pos empty
      rw [here, there]
      exact ⟨rfl, still _ outside⟩
    · have opened : since = d.stream.packetSinceUs := recast.since empty
      by_cases waits : (!decide (b.packetMax - d.stream.packet.length < d.stream.recordLen) &&
          d.stream.running && decide (env.micros - d.stream.packetSinceUs < streamFlushUs)) = true
      · have also : (!decide (b.packetMax - d.stream.packet.length < d.stream.recordLen) &&
            d.stream.running && decide (env.micros - since < streamFlushUs)) = true := by
          rw [opened]
          exact waits
        have here : r = (d.stream, none, []) := (if_neg empty).trans (if_pos waits)
        have there : r' = (d.stream.recast channels ring since requests done, none, []) :=
          (if_neg empty).trans (if_pos also)
        rw [here, there]
        exact ⟨rfl, still _ outside⟩
      · have also : ¬ (!decide (b.packetMax - d.stream.packet.length < d.stream.recordLen) &&
            d.stream.running && decide (env.micros - since < streamFlushUs)) = true := by
          rw [opened]
          exact waits
        have here : r = (d.stream, some .writeCall, []) := (if_neg empty).trans (if_neg waits)
        have there : r' = (d.stream.recast channels ring since requests done, some .writeCall, []) :=
          (if_neg empty).trans (if_neg also)
        rw [here, there]
        exact ⟨rfl, still _ outside⟩
  | writeResult packet =>
    cases written : env.streamWrite with
    | busy =>
      have here : r = (d.stream, none, [.wrote packet .busy]) := by simp only [r, streamStep, written]
      have there : r' = (d.stream.recast channels ring since requests done, none, [.wrote packet .busy]) := by
        simp only [r', streamStep, written]
        rfl
      rw [here, there]
      exact ⟨rfl, still _ outside⟩
    | sent =>
      have here : r = (d.stream.sent, none, [.wrote packet .sent]) := by simp only [r, streamStep, written]
      have there : r' = ((d.stream.recast channels ring since requests done).sent, none,
          [.wrote packet .sent]) := by
        simp only [r', streamStep, written]
        rfl
      rw [here, there]
      refine ⟨rfl, channels, ring, since, requests, done, rfl, ⟨selected, recast.ring, ?_, recast.pending⟩⟩
      intro filled
      exact absurd rfl filled
    | failed =>
      have here : r = ({ d.stream with txFailures := d.stream.txFailures + 1 },
          if d.stream.txFailures + 1 < streamTxFailureLimit then none else some .failStop,
          [.wrote packet .failed]) := by simp only [r, streamStep, written]
      have there : r' = ({ d.stream.recast channels ring since requests done with
            txFailures := d.stream.txFailures + 1 },
          if d.stream.txFailures + 1 < streamTxFailureLimit then none else some .failStop,
          [.wrote packet .failed]) := by
        simp only [r', streamStep, written]
        rfl
      rw [here, there]
      refine ⟨rfl, channels, ring, since, requests, done, rfl, ⟨?_, recast.ring, recast.since, recast.pending⟩⟩
      intro i reading
      refine selected i (reading.imp_right ?_)
      intro at_channel
      by_cases more : d.stream.txFailures + 1 < streamTxFailureLimit
      · rw [if_pos more] at at_channel
        exact at_channel
      · rw [if_neg more] at at_channel
        exact at_channel
  | failStop =>
    exact ⟨rfl, channels, ring, since, requests, done, rfl,
      ⟨selected, recast.ring, recast.since, recast.pending⟩⟩
  | failDrop =>
    refine ⟨rfl, channels, ring, since, requests, done, rfl, ⟨selected, ?_, ?_, recast.pending⟩⟩
    · intro k below
      have none_ : k < (d.stream.head - d.stream.head).toNat := below
      rw [UInt8.sub_self] at none_
      exact absurd none_ (Nat.not_lt_zero k)
    · intro filled
      exact absurd rfl filled

end ArduinoDriver
