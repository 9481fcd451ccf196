import ArduinoDriver.Firmware.StreamAccounting
import ArduinoDriver.Firmware.StreamSession
import ArduinoDriver.Host.RoundTrip
import ArduinoDriver.Lib.History

namespace ArduinoDriver

/-- A record that stream_sample() put in the ring, with what it appended to the header:
`samples` readings, and the bitmap or not. `inStep` tells that each of its loop tests found
the index on the same side of _stream_n_channels as of the count in the header. -/
structure Sampled where
  record : List UInt8
  samples : Nat
  bitmap : Bool
  inStep : Bool

/-- The same of the record being built, with the _stream_n_channels its header was made from,
and the records in the order they were put in the ring, the newest first. -/
structure SampleLog where
  channels : Nat
  samples : Nat
  bitmap : Bool
  inStep : Bool
  pushed : List Sampled

def SampleLog.empty : SampleLog := ⟨0, 0, false, true, []⟩

/-- What a step of stream_sample() adds. -/
def StreamPc.noted (s : StreamState) (g : SampleLog) : StreamPc → SampleLog
  | .sampleHeader _ =>
    { g with channels := s.nChannels.toNat, samples := 0, bitmap := false, inStep := true }
  | .channelTest _ _ i =>
    { g with inStep := g.inStep && (decide (i < s.nChannels.toNat) == decide (i < g.channels)) }
  | .channelRead .. => { g with samples := g.samples + 1 }
  | .digitalTest .. => { g with bitmap := hasStreamFlag s.flags streamFlagDigital }
  | .pushRecord _ buf => { g with pushed := ⟨buf, g.samples, g.bitmap, g.inStep⟩ :: g.pushed }
  | _ => g

/-- The records along a run. -/
def samplelog (m : Machine) (act : Act) (g : SampleLog) : SampleLog :=
  match act with
  | .loop _ => match m.pc with
    | .stream pc => pc.noted m.dev.stream g
    | _ => g
  | .setup .. | .disconnect => g

/-- A run with its records. -/
abbrev Recording (b : Board) : Machine × SampleLog → Prop :=
  Lib.Reach (Lib.recording (step b) samplelog) (fun _ _ => True) (boot b, .empty)

/-- The record layout of usbio_protocol.h; a host that goes on by stream_record_len() is at the
next record then. -/
structure Sampled.WellFormed (x : Sampled) (nPins : Nat) : Prop where
  magic : (decodeStreamHeader x.record).magic = streamMagic
  counted : (decodeStreamHeader x.record).nSamples.toNat = x.samples
  aligned : x.record.length =
    streamRecordLen (decodeStreamHeader x.record).nSamples.toNat x.bitmap nPins
  fits : x.record.length ≤ streamRecordMaxLen

/-- The record so far: the header, the readings and `extra` more bytes. -/
structure SampleLog.Built (g : SampleLog) (buf : List UInt8) (extra : Nat) : Prop where
  channels : g.channels ≤ maxStreamChannels
  samples : g.samples ≤ maxStreamChannels
  bytes : ∃ seq tUs body, buf = streamHeader (UInt16.ofNat g.channels) seq tUs ++ body ∧
    body.length = 2 * g.samples + extra

/-- The bytes of the bitmap in the record. -/
def SampleLog.extra (g : SampleLog) (nPins : Nat) : Nat :=
  if g.bitmap then streamDigitalBitmapLen nPins else 0

/-- The readings are as many as the header says exactly when the tests have been in step. -/
def SampleLog.Counted (g : SampleLog) : Prop := g.inStep = true ↔ g.channels = g.samples

/-- The record at a point of stream_sample(). -/
def StreamPc.Shaped (nPins : Nat) (g : SampleLog) : StreamPc → Prop
  | .channelTest _ buf i =>
    g.Built buf 0 ∧ g.samples = i ∧ if g.inStep then i ≤ g.channels else g.channels < i
  | .channelRead _ buf i =>
    g.Built buf 0 ∧ g.samples = i ∧ i < maxStreamChannels ∧
      if g.inStep then i < g.channels else g.channels ≤ i
  | .digitalTest _ buf => g.Built buf 0 ∧ g.Counted
  | .bitmapPin _ buf bits _ =>
    g.Built buf 0 ∧ g.Counted ∧ g.bitmap = true ∧ bits.length = bitmapLen nPins
  | .bumpSeq _ buf | .roomTest _ buf | .pushRecord _ buf => g.Built buf (g.extra nPins) ∧ g.Counted
  | _ => True

def Pc.Shaped (nPins : Nat) (g : SampleLog) : Pc → Prop
  | .stream pc => pc.Shaped nPins g
  | _ => True

variable {b : Board} {env : Env} {d : UsbIoDevice} {m : Machine} {g : SampleLog} {pc : StreamPc}
  {buf bits : List UInt8} {nPins : Nat} {r : Machine × SampleLog} {x : Sampled} {log : Log}

theorem SampleLog.Built.grow {extra : Nat} (h : g.Built buf 0) (more : List UInt8)
    (size : more.length = extra) : g.Built (buf ++ more) extra := by
  obtain ⟨channels, samples, seq, tUs, body, bytes, length⟩ := h
  refine ⟨channels, samples, seq, tUs, body ++ more, ?_, ?_⟩
  · rw [bytes, List.append_assoc]
  · rw [List.length_append, length, size, Nat.add_zero]

/-- The bitmap is padded to an even length. -/
theorem SampleLog.Built.pad (h : g.Built buf 0) (size : bits.length = bitmapLen nPins) :
    g.Built (padBitmap buf bits) (streamDigitalBitmapLen nPins) := by
  obtain ⟨_, _, seq, tUs, body, bytes, length⟩ := id h
  have even : buf.length = 12 + 2 * g.samples := by
    rw [bytes, List.length_append, length]
    rfl
  unfold padBitmap
  split
  · rename_i odd
    rw [List.append_assoc]
    refine h.grow (bits ++ [0]) ?_
    rw [List.length_append, List.length_singleton, size]
    unfold streamDigitalBitmapLen
    omega
  · rename_i whole
    refine h.grow bits ?_
    unfold streamDigitalBitmapLen
    omega

/-- The longest record has eight readings and the bitmap of 128 pins. -/
theorem SampleLog.Built.fits (h : g.Built buf (g.extra nPins)) (few : nPins ≤ maxPins) :
    buf.length ≤ streamRecordMaxLen := by
  obtain ⟨_, samples, seq, tUs, body, bytes, length⟩ := h
  have few : nPins ≤ 128 := few
  have samples : g.samples ≤ 8 := samples
  have padded : g.extra nPins ≤ 16 := by
    unfold SampleLog.extra streamDigitalBitmapLen bitmapLen
    split <;> omega
  change buf.length ≤ 44
  rw [bytes, List.length_append, length]
  change 12 + _ ≤ _
  omega

/-- What is finished is well formed exactly when the header counts the readings. -/
theorem SampleLog.Built.wellFormed_iff (h : g.Built buf (g.extra nPins)) (few : nPins ≤ maxPins)
    (inStep : Bool) :
    (⟨buf, g.samples, g.bitmap, inStep⟩ : Sampled).WellFormed nPins ↔ g.channels = g.samples := by
  have fits := h.fits few
  obtain ⟨channels, samples, seq, tUs, body, bytes, length⟩ := h
  have header : decodeStreamHeader buf = ⟨streamMagic, UInt16.ofNat g.channels, seq, tUs⟩ := by
    rw [bytes, decodeStreamHeader_streamHeader]
  have count : (UInt16.ofNat g.channels).toNat = g.channels :=
    UInt16.toNat_ofNat_of_lt' (Nat.lt_of_le_of_lt channels (by decide))
  have size : buf.length = streamHeaderLen + 2 * g.samples + g.extra nPins := by
    rw [bytes, List.length_append, length, ← Nat.add_assoc]
    rfl
  constructor
  · intro formed
    have counted := formed.counted
    rwa [header, count] at counted
  · intro same
    refine ⟨by rw [header], by rw [header, count, same], ?_, fits⟩
    rw [header, count, same]
    exact size

theorem streamStep_shaped (few : d.stream.nChannels.toNat ≤ maxStreamChannels)
    (h : pc.Shaped d.nPins g) :
    ∀ next ∈ (streamStep b env d pc).2.1, next.Shaped d.nPins (pc.noted d.stream g) := by
  cases pc with
  | sampleHeader now =>
    rintro next ⟨⟩
    refine ⟨⟨few, Nat.zero_le _, d.stream.seq, now, [], ?_, rfl⟩, rfl, Nat.zero_le _⟩
    rw [List.append_nil]
    exact congrArg (streamHeader · _ _) (UInt16.ofNat_uInt8ToNat _).symm
  | channelTest now buf i =>
    obtain ⟨built, here, tests⟩ := h
    simp only [streamStep]
    rintro next ⟨⟩
    by_cases more : i < d.stream.nChannels.toNat
    · rw [if_pos more]
      refine ⟨⟨built.channels, built.samples, built.bytes⟩, here, by omega, ?_⟩
      simp only [StreamPc.noted, more, decide_true]
      cases inStep : g.inStep with
      | true =>
        by_cases below : i < g.channels
        · simp [below]
        · simp [below, Nat.not_lt.mp below]
      | false =>
        rw [inStep] at tests
        have past : g.channels < i := tests
        simp [past.le]
    · rw [if_neg more]
      refine ⟨⟨built.channels, built.samples, built.bytes⟩, ?_⟩
      simp only [SampleLog.Counted, StreamPc.noted, more, decide_false]
      cases inStep : g.inStep with
      | true =>
        rw [inStep] at tests
        have reached : i ≤ g.channels := tests
        by_cases below : i < g.channels
        · refine iff_of_false ?_ (by omega)
          simp [below]
        · refine iff_of_true ?_ (by omega)
          simp [below]
      | false =>
        rw [inStep] at tests
        have past : g.channels < i := tests
        refine iff_of_false ?_ (by omega)
        simp
  | channelRead now buf i =>
    obtain ⟨built, here, inside, tests⟩ := h
    rintro next ⟨⟩
    obtain ⟨channels, samples, seq, tUs, body, bytes, length⟩ := built
    refine ⟨⟨channels, ?_, seq, tUs,
      body ++ putU16 (readChannel env d (d.stream.channels i)), ?_, ?_⟩, ?_, ?_⟩
    · change g.samples + 1 ≤ _
      omega
    · rw [bytes, List.append_assoc]
      rfl
    · rw [List.length_append, length, putU16_length]
      change _ = 2 * (g.samples + 1) + 0
      omega
    · exact congrArg (· + 1) here
    · change if g.inStep then i + 1 ≤ g.channels else g.channels < i + 1
      split at tests <;> rename_i tested <;> simp only [tested] <;> simp <;> omega
  | digitalTest now buf =>
    obtain ⟨built, counted⟩ := h
    have same : SampleLog.Built { g with bitmap := hasStreamFlag d.stream.flags streamFlagDigital } buf 0 :=
      ⟨built.channels, built.samples, built.bytes⟩
    simp only [streamStep]
    rintro next ⟨⟩
    split
    · rename_i digital
      exact ⟨same, counted, digital, List.length_replicate ..⟩
    · rename_i bare
      refine ⟨?_, counted⟩
      have none_ : SampleLog.extra { g with bitmap := hasStreamFlag d.stream.flags streamFlagDigital }
          d.nPins = 0 := if_neg bare
      change SampleLog.Built { g with bitmap := hasStreamFlag d.stream.flags streamFlagDigital } buf
        (SampleLog.extra { g with bitmap := hasStreamFlag d.stream.flags streamFlagDigital } d.nPins)
      rw [none_]
      exact same
  | bitmapPin now buf bits p =>
    obtain ⟨built, counted, digital, size⟩ := h
    simp only [streamStep]
    rintro next ⟨⟩
    split
    · exact ⟨built, counted, digital, (bitmapPin_length ..).trans size⟩
    · refine ⟨?_, counted⟩
      have padded : g.extra d.nPins = streamDigitalBitmapLen d.nPins := if_pos digital
      change g.Built _ (g.extra d.nPins)
      rw [padded]
      exact built.pad size
  | bumpSeq now buf =>
    rintro next ⟨⟩
    exact h
  | roomTest now buf =>
    simp only [streamStep]
    rintro next ⟨⟩
    split
    · trivial
    · exact h
  | startTest | runTest | dueTest | stopFlagTest | periodTest =>
    simp only [streamStep]
    rintro next ⟨⟩
    split <;> trivial
  | packRecord | flushTest | writeResult =>
    simp only [streamStep]
    repeat' split
    all_goals
      intro next leads
      cases leads <;> trivial
  | _ =>
    intro next leads
    cases leads <;> trivial

/-- What holds of the records in every state of a run. -/
structure Recorded (b : Board) (r : Machine × SampleLog) : Prop where
  shape : r.1.pc.Shaped b.pinCount r.2
  formed : ∀ x ∈ r.2.pushed, x.WellFormed b.pinCount ↔ x.inStep = true
  logged : ∀ record, Obs.sampled record ∈ r.1.log → ∃ x ∈ r.2.pushed, x.record = record

theorem streamStep_recorded (ok : Machine.Ok b ⟨d, .stream pc, log⟩)
    (h : Recorded b (⟨d, .stream pc, log⟩, g)) :
    Recorded b (loopStep b env ⟨d, .stream pc, log⟩, pc.noted d.stream g) := by
  have pins : d.nPins = b.pinCount := ok.dev.pins
  have shape : pc.Shaped d.nPins g := pins ▸ h.shape
  have pushed : (∀ now buf, pc ≠ .pushRecord now buf) → (pc.noted d.stream g).pushed = g.pushed := by
    intro other
    cases pc with
    | pushRecord now buf => exact absurd rfl (other now buf)
    | _ => rfl
  refine ⟨?_, ?_, ?_⟩
  · simp only [loopStep]
    cases leads : (streamStep b env d pc).2.1 with
    | none => trivial
    | some next =>
      have next_shape := streamStep_shaped ok.dev.selection.few shape next leads
      rw [pins] at next_shape
      exact next_shape
  · cases pc with
    | pushRecord now buf =>
      intro x inside
      rcases List.mem_cons.mp inside with rfl | old
      · rw [← pins, shape.1.wellFormed_iff (pins ▸ b.pinCount_le) g.inStep]
        exact shape.2.symm
      · exact h.formed x old
    | _ => exact h.formed
  · intro record inside
    simp only [loopStep] at inside
    rcases List.mem_append.mp inside with new | old
    · rcases List.mem_append.mp new with returned | new
      · exact absurd returned returnLog_sampled
      · obtain ⟨now, rfl⟩ := streamStep_sampled new
        exact ⟨_, List.mem_cons_self, rfl⟩
    · obtain ⟨x, member, same⟩ := h.logged record old
      by_cases push : ∃ now buf, pc = .pushRecord now buf
      · obtain ⟨now, buf, rfl⟩ := push
        exact ⟨x, List.mem_cons_of_mem _ member, same⟩
      · rw [pushed (fun now buf here => push ⟨now, buf, here⟩)]
        exact ⟨x, member, same⟩

theorem Pc.shaped_offStream {pc : Pc} (off : pc.offStream) : pc.Shaped nPins g := by
  cases pc with
  | stream pc => contradiction
  | _ => trivial

theorem samplelog_offStream (off : m.pc.offStream) : samplelog m (.loop env) g = g := by
  obtain ⟨d, pc, log⟩ := m
  cases pc with
  | stream pc => contradiction
  | _ => rfl

theorem step_recorded {act : Act} (ok : m.Ok b) (h : Recorded b (m, g)) :
    Recorded b (step b m act, samplelog m act g) := by
  have logged : ∀ news : Log, (∀ record, Obs.sampled record ∉ news) →
      ∀ record, Obs.sampled record ∈ news ++ m.log → ∃ x ∈ g.pushed, x.record = record := by
    intro news silent record inside
    rcases List.mem_append.mp inside with new | old
    · exact absurd new (silent record)
    · exact h.logged record old
  cases act with
  | setup env s =>
    have off := (handleSetup_served b env m.dev s).sameBooks.2
    refine ⟨h.shape, h.formed, logged [s.obs (handleSetup b env m.dev s).2] (fun record inside => ?_)⟩
    rw [← List.mem_singleton.mp inside] at off
    exact absurd off Bool.false_ne_true
  | disconnect =>
    exact ⟨h.shape, h.formed, logged [.disconnected] (fun record inside => by simp at inside)⟩
  | loop env =>
    by_cases other : m.pc.offStream
    · obtain ⟨_, _, news, grown, off⟩ := loopStep_offStream b env m other
      rw [samplelog_offStream other]
      refine ⟨?_, h.formed, ?_⟩
      · exact loopStep_enters other (fun _ off => Pc.shaped_offStream off) trivial
      · change ∀ record, Obs.sampled record ∈ (loopStep b env m).log → _
        rw [grown]
        exact logged news (fun record inside => absurd (off _ inside) Bool.false_ne_true)
    · obtain ⟨d, pc, log⟩ := m
      cases pc with
      | stream pc => exact streamStep_recorded ok h
      | _ => exact absurd rfl other

theorem Recording.recorded (reached : Recording b r) : Recorded b r ∧ r.1.Ok b := by
  refine reached.invariant (I := fun r => Recorded b r ∧ r.1.Ok b) ?_ ?_
  · refine ⟨⟨trivial, fun x inside => absurd inside List.not_mem_nil, fun record inside => ?_⟩, boot_ok b⟩
    exact absurd inside List.not_mem_nil
  · rintro ⟨m, g⟩ act ⟨h, ok⟩ _
    exact ⟨step_recorded ok h, step_ok act ok⟩

/-- What has been put in the ring is never too long. -/
theorem Recording.fits (reached : Recording b r) : ∀ x ∈ r.2.pushed, x.record.length ≤ streamRecordMaxLen := by
  refine reached.invariant_with (K := fun r => Recorded b r) (I := fun r : Machine × SampleLog =>
    ∀ x ∈ r.2.pushed, x.record.length ≤ streamRecordMaxLen) (fun _ reached => (Recording.recorded reached).1)
    (fun x inside => absurd inside List.not_mem_nil) ?_
  rintro ⟨m, g⟩ act recorded fits _ x inside
  cases act with
  | loop env =>
    obtain ⟨d, pc, log⟩ := m
    cases pc with
    | stream pc =>
      cases pc with
      | pushRecord now buf =>
        rcases List.mem_cons.mp inside with rfl | old
        · exact recorded.shape.1.fits b.pinCount_le
        · exact fits x old
      | _ => exact fits x inside
    | _ => exact fits x inside
  | _ => exact fits x inside

/-- What is in the ring has been put there. -/
theorem Recording.ring (reached : Recording b r) :
    ∀ record ∈ r.1.dev.stream.records, ∃ x ∈ r.2.pushed, x.record = record := by
  have plain : Reachable b r.1 := reached.forget (fun _ _ _ => trivial)
  have audited := plain.audited
  intro record inside
  obtain ⟨groups, pending, balanced⟩ := audited.balanced
  refine (Recording.recorded reached).1.logged record (audited.sampled record ?_)
  rw [balanced.kept]
  exact List.mem_append_right _ (List.mem_append_right _ inside)

/-- No record in the ring is longer than its place. -/
theorem Reachable.record_fits (reached : Reachable b m) :
    ∀ record ∈ m.dev.stream.records, record.length ≤ streamRecordMaxLen := by
  intro record inside
  obtain ⟨g, recording⟩ := Lib.Reach.record reached samplelog .empty
  obtain ⟨x, member, rfl⟩ := Recording.ring recording record inside
  exact Recording.fits recording x member

/-- In every run what is in the ring has been put there by stream_sample(), and a record put
there is well formed exactly when the loop tests made for it were in step with its header. -/
theorem records_well_formed_iff (b : Board) (r : Machine × SampleLog) (reached : Recording b r) :
    (∀ record ∈ r.1.dev.stream.records, ∃ x ∈ r.2.pushed, x.record = record) ∧
      ∀ x ∈ r.2.pushed, x.WellFormed b.pinCount ↔ x.inStep = true :=
  ⟨Recording.ring reached, (Recording.recorded reached).1.formed⟩

/-- A stream of one pin, up to the first loop test of its first record. -/
def firstLoopTest : List Act :=
  selected ++ [request .streamStart 0 0] ++ List.replicate 30 (.loop (stillEnv .sent))

/-- The rest of the record, with a disconnect first or not. -/
def restOfRecord (disconnect : Bool) : List Act :=
  (if disconnect then [.disconnect] else []) ++
    List.replicate (if disconnect then 5 else 7) (.loop (stillEnv .sent))

def firstRecord (disconnect : Bool) : Machine × SampleLog :=
  (firstLoopTest ++ restOfRecord disconnect).foldl (Lib.recording (step onePinBoard) samplelog)
    (boot onePinBoard, .empty)

theorem firstRecord_reached (disconnect : Bool) : Recording onePinBoard (firstRecord disconnect) :=
  Lib.Reach.refl.foldl (fun _ _ => trivial) _

theorem records_well_formed_iff_first :
    (∀ record ∈ (firstRecord false).1.dev.stream.records,
        ∃ x ∈ (firstRecord false).2.pushed, x.record = record) ∧
      ∀ x ∈ (firstRecord false).2.pushed, x.WellFormed onePinBoard.pinCount ↔ x.inStep = true :=
  records_well_formed_iff onePinBoard (firstRecord false) (firstRecord_reached false)

/-- A disconnect between the header and the loop leaves a record in the ring without the
reading its header counts. -/
theorem torn_record_is_short :
    ¬ ∀ (b : Board) (m : Machine), Reachable b m → ∀ record ∈ m.dev.stream.records,
      ∃ digital, record.length =
        streamRecordLen (decodeStreamHeader record).nSamples.toNat digital b.pinCount := by
  intro claim
  have whole := claim onePinBoard
    (run onePinBoard (boot onePinBoard) (firstLoopTest ++ restOfRecord true))
    (Lib.Reach.refl.foldl (fun _ _ => trivial) _)
  revert whole
  decide +kernel

end ArduinoDriver
