import ArduinoDriver.Firmware.Machine
import ArduinoDriver.Firmware.Replies

namespace ArduinoDriver

/-- The readings of the channels; `reads i` is what the core answers for channel `i`. -/
def sampleValues (d : UsbIoDevice) (reads : Nat → Env) : List UInt16 :=
  (List.range d.stream.nChannels.toNat).map fun i =>
    readChannel (reads i) d (d.stream.channels i)

/-- The record of stream_sample(), with no request in between. -/
def sampleRecord (d : UsbIoDevice) (reads : Nat → Env) (now : UInt32) : List UInt8 :=
  let buf := streamHeader d.stream.nChannels.toUInt16 d.stream.seq now ++
    (sampleValues d reads).flatMap putU16
  if hasStreamFlag d.stream.flags streamFlagDigital then padBitmap buf (digitalBitmap d) else buf

/-- `count` steps of poll() in a row; `envs` are the answers to them, from `first` on. -/
def polls (envs : Nat → Env) (first count : Nat) : List Act :=
  (List.range' first count).map fun i => .loop (envs i)

variable {b : Board} {d : UsbIoDevice} {log : Log} {envs : Nat → Env} {now : UInt32}
  {buf bits : List UInt8}

theorem run_polls_add (m : Machine) (first count more : Nat) :
    run b m (polls envs first (count + more)) =
      run b (run b m (polls envs first count)) (polls envs (first + count) more) := by
  have split : List.range' first count ++ List.range' (first + count) more =
      List.range' first (count + more) := List.range'_append_1
  simp only [run, polls, ← split, List.map_append, List.foldl_append]

theorem run_polls_succ (m : Machine) (first count : Nat) :
    run b m (polls envs first (count + 1)) =
      run b (loopStep b (envs first) m) (polls envs (first + 1) count) := rfl

/-- Two steps a channel append its reading. -/
theorem channels_steps (left i k : Nat) (rest : i + left = d.stream.nChannels.toNat) :
    run b ⟨d, .stream (.channelTest now buf i), log⟩ (polls envs k (2 * left + 1)) =
      ⟨d, .stream (.digitalTest now (buf ++ (List.range left).flatMap fun j =>
        putU16 (readChannel (envs (k + 2 * j + 1)) d (d.stream.channels (i + j))))), log⟩ := by
  induction left generalizing i k buf with
  | zero =>
    have last : ¬ i < d.stream.nChannels.toNat := by omega
    rw [run_polls_succ]
    simp [loopStep, streamStep, last, returnLog, run, polls]
  | succ left ih =>
    have more : i < d.stream.nChannels.toNat := by omega
    have two : 2 * (left + 1) + 1 = 2 * left + 1 + 1 + 1 := by omega
    rw [two, run_polls_succ, run_polls_succ]
    have read : loopStep b (envs (k + 1)) (loopStep b (envs k)
        ⟨d, .stream (.channelTest now buf i), log⟩) =
        ⟨d, .stream (.channelTest now (buf ++
          putU16 (readChannel (envs (k + 1)) d (d.stream.channels i))) (i + 1)), log⟩ := by
      simp [loopStep, streamStep, more, returnLog]
    rw [read, ih (i + 1) (k + 1 + 1) (by omega), List.range_succ_eq_map, List.flatMap_cons,
      List.flatMap_map, List.append_assoc]
    have clock : ∀ j, k + 1 + 1 + 2 * j + 1 = k + 2 * (j + 1) + 1 := fun j => by omega
    have channel : ∀ j, i + 1 + j = i + (j + 1) := fun j => by omega
    simp only [clock, channel]
    rfl

/-- One step a pin fills in the bitmap. -/
theorem bitmap_steps (left p k : Nat) (rest : p + left = d.nPins) :
    run b ⟨d, .stream (.bitmapPin now buf bits p), log⟩ (polls envs k (left + 1)) =
      ⟨d, .stream (.bumpSeq now
        (padBitmap buf ((List.range' p left).foldl (bitmapPin d) bits))), log⟩ := by
  induction left generalizing p k bits with
  | zero =>
    have last : ¬ p < d.nPins := by omega
    rw [run_polls_succ]
    simp [loopStep, streamStep, last, returnLog, run, polls]
  | succ left ih =>
    have more : p < d.nPins := by omega
    rw [run_polls_succ]
    have one : loopStep b (envs k) ⟨d, .stream (.bitmapPin now buf bits p), log⟩ =
        ⟨d, .stream (.bitmapPin now buf (bitmapPin d bits p) (p + 1)), log⟩ := by
      simp [loopStep, streamStep, more, returnLog]
    rw [one, ih (p + 1) (k + 1) (by omega), List.range'_succ, List.foldl_cons]

/-- The record before the bitmap. -/
theorem header_steps (d : UsbIoDevice) (log : Log) (envs : Nat → Env) (now : UInt32) :
    run b ⟨d, .stream (.sampleHeader now), log⟩
        (polls envs 0 (2 * d.stream.nChannels.toNat + 1 + 1)) =
      ⟨d, .stream (.digitalTest now (streamHeader d.stream.nChannels.toUInt16 d.stream.seq now ++
        (sampleValues d (fun i => envs (2 * i + 2))).flatMap putU16)), log⟩ := by
  have clock : ∀ j, 0 + 1 + 2 * j + 1 = 2 * j + 2 := fun j => by omega
  rw [run_polls_succ]
  have header : loopStep b (envs 0) ⟨d, .stream (.sampleHeader now), log⟩ =
      ⟨d, .stream (.channelTest now
        (streamHeader d.stream.nChannels.toUInt16 d.stream.seq now) 0), log⟩ := rfl
  rw [header, channels_steps _ 0 (0 + 1) (Nat.zero_add _), sampleValues, List.flatMap_map]
  simp only [clock, Nat.zero_add]

/-- The steps of stream_sample(), with no request in between, make its record. -/
theorem sample_steps (d : UsbIoDevice) (log : Log) (envs : Nat → Env) (now : UInt32) :
    ∃ count, run b ⟨d, .stream (.sampleHeader now), log⟩ (polls envs 0 count) =
      ⟨d, .stream (.bumpSeq now (sampleRecord d (fun i => envs (2 * i + 2)) now)), log⟩ := by
  unfold sampleRecord
  by_cases digital : hasStreamFlag d.stream.flags streamFlagDigital
  · refine ⟨2 * d.stream.nChannels.toNat + 1 + 1 + (d.nPins + 1 + 1), ?_⟩
    rw [run_polls_add, header_steps, run_polls_succ, if_pos digital]
    have test : ∀ env buf, loopStep b env ⟨d, .stream (.digitalTest now buf), log⟩ =
        ⟨d, .stream (.bitmapPin now buf (List.replicate (bitmapLen d.nPins) 0) 0), log⟩ := by
      intro env buf
      simp [loopStep, streamStep, digital, returnLog]
    rw [test, bitmap_steps _ 0 _ (Nat.zero_add _), ← List.range_eq_range']
    rfl
  · refine ⟨2 * d.stream.nChannels.toNat + 1 + 1 + (0 + 1), ?_⟩
    rw [run_polls_add, header_steps, run_polls_succ, if_neg digital]
    have test : ∀ env buf, loopStep b env ⟨d, .stream (.digitalTest now buf), log⟩ =
        ⟨d, .stream (.bumpSeq now buf), log⟩ := by
      intro env buf
      simp [loopStep, streamStep, digital, returnLog]
    rw [test]
    rfl

end ArduinoDriver
