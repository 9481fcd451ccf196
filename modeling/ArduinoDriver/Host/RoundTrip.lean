import ArduinoDriver.Firmware.Channels
import ArduinoDriver.Firmware.Sampling
import ArduinoDriver.Host.Reassembly
import ArduinoDriver.Host.StartStream
import ArduinoDriver.Lib.Framing

namespace ArduinoDriver

open Lib (Block)

variable {impl : StreamImpl} {w : Worker} {head : List UInt8} {ρ : Type}

/-- One whole record of this stream. -/
structure StreamImpl.Framed (impl : StreamImpl) (bytes : List UInt8) : Prop where
  opens : impl.Opens bytes
  whole : bytes.length = impl.recordLen

namespace StreamImpl

theorem decodeStep_framed {bytes : List UInt8} (framed : impl.Framed bytes) (w : Worker)
    (more : List UInt8) :
    impl.decodeStep w (bytes ++ more) = some (impl.takeRecord w bytes, bytes.length) := by
  have longer : bytes.length ≤ (bytes ++ more).length := by
    rw [List.length_append]
    omega
  have whole : impl.recordLen ≤ bytes.length := framed.whole.ge
  have enough : streamHeaderLen ≤ bytes.length := header_le_recordLen.trans whole
  rw [decodeStep_opens (enough.trans longer) ((Opens.append_iff enough).mpr framed.opens),
    if_neg (Nat.not_lt.mpr (whole.trans longer)), takeRecord_append framed.opens whole,
    framed.whole]

/-- The decode loop reads records written by `encode`, with garbage between them. -/
def framing (impl : StreamImpl) (encode : ρ → List UInt8) (framed : ∀ r, impl.Framed (encode r)) :
    Lib.Framing impl.decoder ρ where
  encode := encode
  accept w r := impl.takeRecord w (encode r)
  lose w := { w with hunting := true }
  opens head := 4 ≤ head.length ∧ impl.Opens head
  need := streamHeaderLen
  accepts w r more := decodeStep_framed (framed r) w more
  waits _ _ short := decodeStep_short short
  skips w head enough closed := by
    have len : streamHeaderLen = 12 := rfl
    exact decodeStep_hunt enough (fun opens => closed ⟨by omega, opens⟩)
  lose_lose _ := rfl

/-- Kept, and not taken for a record of an earlier session. -/
def keeps (impl : StreamImpl) (bytes : List UInt8) : Bool :=
  !impl.isStale (decodeStreamHeader bytes).tUs

/-- What decoding `records` adds to the worker's accounts. -/
structure Decoded (impl : StreamImpl) (records : List (List UInt8)) (w w' : Worker) : Prop where
  handed : w'.handed = w.handed ++ (records.filter impl.keeps).map impl.samples
  received : w'.stats.recordsReceived = w.stats.recordsReceived + records.countP impl.keeps
  stale : w'.stats.staleRecords =
    w.stats.staleRecords + records.countP fun bytes => !impl.keeps bytes

variable {records later : List (List UInt8)} {w' w'' : Worker}

theorem Decoded.append (first : Decoded impl records w w') (second : Decoded impl later w' w'') :
    Decoded impl (records ++ later) w w'' := by
  constructor
  · rw [second.handed, first.handed, List.filter_append, List.map_append, List.append_assoc]
  · rw [second.received, first.received, List.countP_append, Nat.add_assoc]
  · rw [second.stale, first.stale, List.countP_append, Nat.add_assoc]

theorem Decoded.hunt : Decoded impl [] w { w with hunting := true } :=
  ⟨(List.append_nil _).symm, rfl, rfl⟩

theorem Decoded.sync : Decoded impl [] w (sync w) := by
  unfold StreamImpl.sync
  split
  · exact ⟨(List.append_nil _).symm, rfl, rfl⟩
  · exact ⟨(List.append_nil _).symm, rfl, rfl⟩

theorem Decoded.record (w : Worker) (bytes : List UInt8) :
    Decoded impl [bytes] w (impl.takeRecord w bytes) := by
  refine Decoded.append Decoded.sync ?_
  unfold takeRecord
  dsimp only
  by_cases stale : impl.isStale (decodeStreamHeader bytes).tUs
  · rw [if_pos stale]
    constructor <;> simp [keeps, stale]
  · rw [if_neg stale]
    constructor <;> simp [keeps, stale, acceptRecord, deliver]

/-- Records that are all kept. -/
theorem Decoded.all (decoded : Decoded impl records w w')
    (kept : ∀ bytes ∈ records, impl.keeps bytes = true) :
    w'.handed = w.handed ++ records.map impl.samples ∧
    w'.stats.recordsReceived = w.stats.recordsReceived + records.length ∧
    w'.stats.staleRecords = w.stats.staleRecords := by
  have none_stale : records.countP (fun bytes => !impl.keeps bytes) = 0 :=
    List.countP_eq_zero.mpr (fun bytes inside => by simp [kept bytes inside])
  refine ⟨?_, ?_, ?_⟩
  · rw [decoded.handed, List.filter_eq_self.mpr kept]
  · rw [decoded.received, List.countP_eq_length.mpr kept]
  · rw [decoded.stale, none_stale, Nat.add_zero]

theorem takeRecord_resyncs (w : Worker) (bytes : List UInt8) :
    (impl.takeRecord w bytes).stats.resyncs = w.stats.resyncs + (if w.hunting then 1 else 0) ∧
    (impl.takeRecord w bytes).hunting = false := by
  unfold takeRecord StreamImpl.sync
  cases hunts : w.hunting <;> cases impl.isStale (decodeStreamHeader bytes).tUs <;>
    simp [acceptRecord, deliver, hunts]

variable {encode : ρ → List UInt8} {framed : ∀ r, impl.Framed (encode r)}
  {blocks : List (Block ρ UInt8)} {chunks : List (List UInt8)}

theorem foldl_decoded (w : Worker) : Decoded impl ((Block.frames blocks).map encode) w
    (blocks.foldl (impl.framing encode framed).take w) := by
  induction blocks generalizing w with
  | nil => exact ⟨(List.append_nil _).symm, rfl, rfl⟩
  | cons block blocks ih =>
    cases block with
    | frame r => exact Decoded.append (Decoded.record w (encode r)) (ih _)
    | noise l => exact Decoded.append Decoded.hunt (ih _)

/-- A record that comes while the loop hunts is a resync. -/
theorem foldl_resyncs (w : Worker) :
    (blocks.foldl (impl.framing encode framed).take w).stats.resyncs =
      w.stats.resyncs + (if w.hunting && blocks.head?.any Block.isFrame then 1 else 0) +
        Block.returns blocks := by
  induction blocks generalizing w with
  | nil => simp [Block.returns]
  | cons block blocks ih =>
    rw [List.foldl_cons, ih]
    cases block with
    | frame r =>
      obtain ⟨resyncs, found⟩ := @takeRecord_resyncs impl w (encode r)
      have taken : (impl.framing encode framed).take w (.frame r) =
          impl.takeRecord w (encode r) := rfl
      rw [taken, resyncs, found, Block.returns_frame]
      simp [Block.isFrame]
    | noise l =>
      have hunted : (impl.framing encode framed).take w (.noise l) =
          { w with hunting := true } := rfl
      rw [hunted, Block.returns_noise]
      simp [Block.isFrame, Nat.add_assoc]

/-- What passes over records and quiet garbage do to the accounts. -/
theorem passes_blocks (quiet : (impl.framing encode framed).Quiet blocks)
    (arrives : chunks.flatten = (impl.framing encode framed).symbols blocks)
    (insync : w.hunting = false) :
    let w' := (chunks.foldl impl.pass (w, [])).1
    Decoded impl ((Block.frames blocks).map encode) w w' ∧
    w'.stats.resyncs = w.stats.resyncs + Block.returns blocks := by
  let shows : Worker → List (List Sample) × StreamStats := fun w => (w.handed, w.stats)
  have blind : ∀ w, shows ((impl.framing encode framed).lose w) = shows w := fun _ => rfl
  have shown : shows (chunks.foldl impl.pass (w, [])).1 =
      shows (blocks.foldl (impl.framing encode framed).take w) := by
    rw [passes_run, arrives]
    exact Lib.Framing.run_observes blind quiet
  obtain ⟨handed, stats⟩ := Prod.mk.inj shown
  have decoded := @foldl_decoded impl ρ encode framed blocks w
  have resyncs := @foldl_resyncs impl ρ encode framed blocks w
  rw [insync] at resyncs
  rw [← stats] at resyncs
  refine ⟨⟨?_, ?_, ?_⟩, ?_⟩
  · rw [handed, decoded.handed]
  · rw [stats, decoded.received]
  · rw [stats, decoded.stale]
  · simpa using resyncs

end StreamImpl

/-- The host reads the header the firmware wrote. -/
theorem decodeStreamHeader_streamHeader (n : UInt16) (seq tUs : UInt32) (rest : List UInt8) :
    decodeStreamHeader (streamHeader n seq tUs ++ rest) = ⟨streamMagic, n, seq, tUs⟩ := by
  have fields : streamHeader n seq tUs ++ rest =
      putU16 streamMagic ++ (putU16 n ++ (putU32 seq ++ (putU32 tUs ++ rest))) := by
    simp only [streamHeader, List.append_assoc]
  rw [fields]
  have magic_at : readU16 (putU16 streamMagic ++ (putU16 n ++ (putU32 seq ++ (putU32 tUs ++ rest))))
      0 = streamMagic := readU16_putU16 streamMagic
  have n_at : readU16 (putU16 streamMagic ++ (putU16 n ++ (putU32 seq ++ (putU32 tUs ++ rest))))
      2 = n := (readU16_skip (k := 0)).trans (readU16_putU16 n)
  have seq_at : readU32 (putU16 streamMagic ++ (putU16 n ++ (putU32 seq ++ (putU32 tUs ++ rest))))
      4 = seq := (readU32_skip (k := 2)).trans ((readU32_skip (k := 0)).trans (readU32_putU32 seq))
  have tUs_at : readU32 (putU16 streamMagic ++ (putU16 n ++ (putU32 seq ++ (putU32 tUs ++ rest))))
      8 = tUs := (readU32_skip (k := 6)).trans ((readU32_skip (k := 4)).trans
        ((readU32_skip (k := 0)).trans (readU32_putU32 tUs)))
  unfold decodeStreamHeader
  rw [magic_at, n_at, seq_at, tUs_at]

/-- One stream_sample() on a device set up as this Stream expects. -/
structure Sampling (impl : StreamImpl) where
  dev : UsbIoDevice
  reads : Nat → Env
  now : UInt32
  channels : dev.stream.selection = impl.config.channels
  digital : hasStreamFlag dev.stream.flags streamFlagDigital = impl.digital
  pins : dev.nPins = impl.nPins

namespace Sampling

/-- The record it makes. -/
def record (r : Sampling impl) : List UInt8 := sampleRecord r.dev r.reads r.now

def values (r : Sampling impl) : List UInt16 := sampleValues r.dev r.reads

/-- The samples it stands for. -/
def samples (r : Sampling impl) : List Sample :=
  (impl.config.pins.zip r.values).map fun (pin, raw) => ⟨pin, raw, r.now⟩

variable (r : Sampling impl)

theorem values_length : r.values.length = impl.config.pins.length := by
  have channels := congrArg List.length r.channels
  rw [StreamState.selection_length, StreamConfig.channels, List.length_map] at channels
  rw [values, sampleValues, List.length_map, List.length_range, channels]

/-- A stream has at most 255 channels. -/
theorem values_count : r.values.length = impl.nSamplesExpected.toNat := by
  have channels := congrArg List.length r.channels
  have small := r.dev.stream.nChannels.toNat_lt
  rw [StreamState.selection_length, StreamConfig.channels, List.length_map] at channels
  rw [values_length, StreamImpl.nSamplesExpected, UInt16.toNat_ofNat', ← channels]
  omega

/-- Header, readings and, where the flag asks for it, the bitmap padded to an even
length. -/
theorem record_parts : ∃ rest, r.record =
    streamHeader impl.nSamplesExpected r.dev.stream.seq r.now ++
      (r.values.flatMap putU16 ++ rest) ∧
    rest.length = if impl.digital then streamDigitalBitmapLen impl.nPins else 0 := by
  have n : r.dev.stream.nChannels.toUInt16 = impl.nSamplesExpected := by
    apply UInt16.toNat_inj.mp
    rw [UInt8.toNat_toUInt16, ← r.values_count, values, sampleValues, List.length_map,
      List.length_range]
  unfold record sampleRecord
  rw [n, r.digital]
  cases impl.digital with
  | false => exact ⟨[], by simp [values], rfl⟩
  | true =>
    rw [if_pos rfl, if_pos rfl, ← r.pins]
    have even : (streamHeader impl.nSamplesExpected r.dev.stream.seq r.now ++
        (sampleValues r.dev r.reads).flatMap putU16).length % 2 = 0 := by
      rw [List.length_append, flatMap_putU16_length]
      have header : (streamHeader impl.nSamplesExpected r.dev.stream.seq r.now).length = 12 := rfl
      omega
    unfold padBitmap
    split
    · next odd =>
      refine ⟨digitalBitmap r.dev ++ [0], by simp [values], ?_⟩
      rw [digitalBitmap_length] at odd
      rw [List.length_append, digitalBitmap_length, streamDigitalBitmapLen, List.length_singleton]
      omega
    · next fits =>
      refine ⟨digitalBitmap r.dev, by simp [values], ?_⟩
      rw [digitalBitmap_length] at fits
      rw [digitalBitmap_length, streamDigitalBitmapLen]
      omega

/-- Device and driver agree on where a record ends and how it begins. -/
theorem framed : impl.Framed r.record := by
  obtain ⟨rest, parts, tail⟩ := r.record_parts
  constructor
  · unfold StreamImpl.Opens
    rw [parts, decodeStreamHeader_streamHeader]
    exact ⟨rfl, rfl⟩
  · have header : (streamHeader impl.nSamplesExpected r.dev.stream.seq r.now).length =
        streamHeaderLen := rfl
    have n : r.values.length = impl.nSamplesExpected.toNat := r.values_count
    rw [parts, List.length_append, List.length_append, flatMap_putU16_length, tail, header, n,
      StreamImpl.recordLen, streamRecordLen]
    omega

theorem decoded_tUs : (decodeStreamHeader r.record).tUs = r.now := by
  obtain ⟨rest, parts, _⟩ := r.record_parts
  rw [parts, decodeStreamHeader_streamHeader]

/-- The host labels the readings with the pins they are from. -/
theorem decoded_samples : impl.samples r.record = r.samples := by
  obtain ⟨rest, parts, _⟩ := r.record_parts
  unfold StreamImpl.samples
  rw [parts, decodeStreamHeader_streamHeader]
  have pins := r.values_length
  have count := r.values_count
  refine List.ext_getElem ?_ (fun i left right => ?_)
  · simp [samples, count]
    omega
  · have inside : i < r.values.length := by
      simp only [samples, List.length_map, List.length_zip] at right
      omega
    have reads : readU16 (streamHeader impl.nSamplesExpected r.dev.stream.seq r.now ++
        (r.values.flatMap putU16 ++ rest)) (streamHeaderLen + 2 * i) = r.values[i] :=
      (readU16_skip (k := 2 * i)).trans (readU16_flatMap inside)
    have known : i < impl.config.pins.length := by omega
    simp [samples, reads, known]

end Sampling

/-- The decode loop as the reader of what stream_sample() writes. -/
def StreamImpl.sampled (impl : StreamImpl) : Lib.Framing impl.decoder (Sampling impl) :=
  impl.framing Sampling.record Sampling.framed

/-- Records between quiet garbage are delivered as they were sampled, however
bulk_in() cuts the bytes; each run of garbage that a record ends is one resync. -/
theorem decoder_inverts_sampling (impl : StreamImpl) (blocks : List (Block (Sampling impl) UInt8))
    (chunks : List (List UInt8)) (arrives : chunks.flatten = impl.sampled.symbols blocks)
    (quiet : impl.sampled.Quiet blocks)
    (recent : ∀ r ∈ Block.frames blocks, (r.now - impl.startTUs).toNat ≤ 2 ^ 31) :
    let w := (chunks.foldl impl.pass (Worker.init, [])).1
    w.handed = (Block.frames blocks).map Sampling.samples ∧
    w.stats.recordsReceived = (Block.frames blocks).length ∧ w.stats.staleRecords = 0 ∧
    w.stats.resyncs = Block.returns blocks ∧
    ((∀ block ∈ blocks, block.isFrame = true) → w.stats.resyncs = 0) := by
  obtain ⟨decoded, resyncs⟩ := StreamImpl.passes_blocks (w := .init) quiet arrives rfl
  have kept : ∀ bytes ∈ (Block.frames blocks).map Sampling.record, impl.keeps bytes = true := by
    intro bytes inside
    obtain ⟨r, sampled, rfl⟩ := List.mem_map.mp inside
    have fresh : ¬ impl.isStale r.now = true := by
      rw [StreamImpl.isStale_iff]
      exact Nat.not_lt.mpr (recent r sampled)
    rw [StreamImpl.keeps, r.decoded_tUs, Bool.not_eq_true']
    exact Bool.eq_false_iff.mpr fresh
  obtain ⟨handed, received, stale⟩ := decoded.all kept
  rw [List.map_map] at handed
  rw [List.length_map] at received
  have same : impl.samples ∘ Sampling.record = (Sampling.samples : Sampling impl → _) := by
    funext r
    exact r.decoded_samples
  rw [same] at handed
  refine ⟨handed.trans (List.nil_append _), received.trans (Nat.zero_add _), stale, ?_, ?_⟩
  · exact resyncs.trans (Nat.zero_add _)
  · intro frames
    rw [resyncs, Block.returns_frames frames]
    rfl

/-- A stream of both pins with the bitmap. -/
def twoPinStream : StreamImpl := ⟨⟨[0, 1], 0, 1, 8⟩, 2, true, 0⟩

/-- A record of that stream, 9 us after its start. -/
def twoPinSampling : Sampling twoPinStream where
  dev := (run twoPinBoard (boot twoPinBoard)
    (selectedBefore [0, 1] ++ [request .streamStart 0 1])).dev
  reads := fun i => { stillEnv .sent with digitalRead := fun _ => i == 1 }
  now := 9
  channels := by decide +kernel
  digital := by decide +kernel
  pins := by decide +kernel

theorem decoder_inverts_sampling_resync :
    let blocks : List (Block (Sampling twoPinStream) UInt8) :=
      [.noise [1, 0x55], .frame twoPinSampling, .frame twoPinSampling]
    let w := ([twoPinStream.sampled.symbols blocks].foldl twoPinStream.pass (Worker.init, [])).1
    w.handed = (Block.frames blocks).map Sampling.samples ∧
    w.stats.recordsReceived = (Block.frames blocks).length ∧ w.stats.staleRecords = 0 ∧
    w.stats.resyncs = Block.returns blocks ∧
    ((∀ block ∈ blocks, block.isFrame = true) → w.stats.resyncs = 0) := by
  refine decoder_inverts_sampling twoPinStream _ _ (by simp) ⟨by simp, ?_, trivial⟩ ?_
  · change ∀ k < 2, ¬ (4 ≤ (_ : List UInt8).length ∧ twoPinStream.Opens _)
    decide +kernel
  · decide +kernel

end ArduinoDriver
