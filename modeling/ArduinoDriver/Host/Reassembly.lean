import ArduinoDriver.Host.Stream
import ArduinoDriver.Lib.Incremental

namespace ArduinoDriver

variable {head more : List UInt8} {w w' : Worker}

theorem decodeStreamHeader_append (whole : streamHeaderLen ≤ head.length) :
    decodeStreamHeader (head ++ more) = decodeStreamHeader head := by
  have len : streamHeaderLen = 12 := rfl
  unfold decodeStreamHeader
  rw [readU16_append (by omega), readU16_append (by omega), readU32_append (by omega),
    readU32_append (by omega)]

/-- The front of `head` is a record header of this stream. -/
def StreamImpl.Opens (impl : StreamImpl) (head : List UInt8) : Prop :=
  (decodeStreamHeader head).magic = streamMagic ∧
  (decodeStreamHeader head).nSamples = impl.nSamplesExpected

instance (impl : StreamImpl) (head : List UInt8) : Decidable (impl.Opens head) :=
  inferInstanceAs (Decidable (_ ∧ _))

namespace StreamImpl

variable {impl : StreamImpl}

/-- More than 2^31 us after the anchor looks like before it. -/
theorem isStale_iff {tUs : UInt32} :
    impl.isStale tUs = true ↔ 2 ^ 31 < (tUs - impl.startTUs).toNat := by
  have a := impl.startTUs.toNat_lt
  have t := tUs.toNat_lt
  have age : (impl.startTUs - tUs = 0) ↔ (impl.startTUs - tUs).toNat = 0 := UInt32.toNat_inj.symm
  have half : (0x80000000 : UInt32).toNat = 2147483648 := rfl
  simp only [isStale, bne, Bool.and_eq_true, Bool.not_eq_true', beq_eq_false_iff_ne, ne_eq,
    decide_eq_true_eq, age, UInt32.lt_iff_toNat_lt, half, UInt32.toNat_sub]
  omega

theorem header_le_recordLen : streamHeaderLen ≤ impl.recordLen := by
  unfold recordLen streamRecordLen
  omega

theorem samples_append (opens : impl.Opens head) (whole : impl.recordLen ≤ head.length) :
    impl.samples (head ++ more) = impl.samples head := by
  have header : decodeStreamHeader (head ++ more) = decodeStreamHeader head :=
    decodeStreamHeader_append (header_le_recordLen.trans whole)
  unfold samples
  rw [header]
  refine List.map_congr_left (fun i inside => ?_)
  rw [readU16_append]
  rw [List.mem_range, opens.2] at inside
  unfold recordLen streamRecordLen at whole
  omega

theorem takeRecord_append (opens : impl.Opens head) (whole : impl.recordLen ≤ head.length) :
    impl.takeRecord w (head ++ more) = impl.takeRecord w head := by
  have header : decodeStreamHeader (head ++ more) = decodeStreamHeader head :=
    decodeStreamHeader_append (header_le_recordLen.trans whole)
  unfold takeRecord acceptRecord
  rw [header, samples_append opens whole]

theorem decodeStep_short (short : head.length < streamHeaderLen) :
    impl.decodeStep w head = none := if_pos short

/-- Where no record opens the loop moves on by one byte. -/
theorem decodeStep_hunt (enough : streamHeaderLen ≤ head.length) (closed : ¬ impl.Opens head) :
    impl.decodeStep w head = some ({ w with hunting := true }, 1) := by
  unfold decodeStep
  rw [if_neg (Nat.not_lt.mpr enough), if_pos]
  by_contra both
  exact closed ⟨not_not.mp (fun other => both (.inl other)),
    not_not.mp (fun other => both (.inr other))⟩

/-- A record that is not there yet is waited for, a whole one is taken. -/
theorem decodeStep_opens (enough : streamHeaderLen ≤ head.length) (opens : impl.Opens head) :
    impl.decodeStep w head =
      if head.length < impl.recordLen then none
      else some (impl.takeRecord w head, impl.recordLen) := by
  unfold decodeStep
  have neither : ¬ ((decodeStreamHeader head).magic ≠ streamMagic ∨
      (decodeStreamHeader head).nSamples ≠ impl.nSamplesExpected) := by
    rintro (other | other)
    · exact other opens.1
    · exact other opens.2
  rw [if_neg (Nat.not_lt.mpr enough), if_neg neither, opens.2]
  rfl

/-- The decode loop ends with less than a record. -/
theorem decodeStep_waits (waits : impl.decodeStep w head = none) :
    head.length < impl.recordLen := by
  rcases Nat.lt_or_ge head.length streamHeaderLen with short | enough
  · exact Nat.lt_of_lt_of_le short header_le_recordLen
  · by_cases opens : impl.Opens head
    · rw [decodeStep_opens enough opens] at waits
      by_contra whole
      rw [if_neg whole] at waits
      contradiction
    · rw [decodeStep_hunt enough opens] at waits
      contradiction

/-- What one iteration can do. -/
theorem decodeStep_cases {n : Nat} (steps : impl.decodeStep w head = some (w', n)) :
    streamHeaderLen ≤ head.length ∧
    ((¬ impl.Opens head ∧ w' = { w with hunting := true } ∧ n = 1) ∨
      (impl.Opens head ∧ impl.recordLen ≤ head.length ∧ w' = impl.takeRecord w head ∧
        n = impl.recordLen)) := by
  have enough : streamHeaderLen ≤ head.length := by
    by_contra short
    rw [decodeStep_short (Nat.lt_of_not_le short)] at steps
    contradiction
  refine ⟨enough, ?_⟩
  by_cases opens : impl.Opens head
  · rw [decodeStep_opens enough opens] at steps
    by_cases short : head.length < impl.recordLen
    · rw [if_pos short] at steps
      contradiction
    · rw [if_neg short] at steps
      obtain ⟨rfl, rfl⟩ := Prod.mk.inj (Option.some.inj steps)
      exact .inr ⟨opens, Nat.le_of_not_lt short, rfl, rfl⟩
  · rw [decodeStep_hunt enough opens] at steps
    obtain ⟨rfl, rfl⟩ := Prod.mk.inj (Option.some.inj steps)
    exact .inl ⟨opens, rfl, rfl⟩

theorem Opens.append_iff (enough : streamHeaderLen ≤ head.length) :
    impl.Opens (head ++ more) ↔ impl.Opens head := by
  unfold Opens
  rw [decodeStreamHeader_append enough]

/-- The decode loop as a parser. -/
def decoder (impl : StreamImpl) : Lib.Incremental Worker UInt8 where
  step := impl.decodeStep
  takes := by
    intro w w' head n steps
    have len : streamHeaderLen = 12 := rfl
    have longer := impl.header_le_recordLen
    obtain ⟨enough, ⟨_, _, rfl⟩ | ⟨_, whole, _, rfl⟩⟩ := decodeStep_cases steps
    · omega
    · omega
  settled := by
    rintro w head ⟨w', n⟩ more steps
    have longer : head.length ≤ (head ++ more).length := by
      rw [List.length_append]
      omega
    obtain ⟨enough, ⟨closed, rfl, rfl⟩ | ⟨opens, whole, rfl, rfl⟩⟩ := decodeStep_cases steps
    · exact decodeStep_hunt (enough.trans longer)
        (fun opens => closed ((Opens.append_iff enough).mp opens))
    · have opens' : impl.Opens (head ++ more) := (Opens.append_iff enough).mpr opens
      rw [decodeStep_opens (enough.trans longer) opens',
        if_neg (Nat.not_lt.mpr (whole.trans longer)), takeRecord_append opens whole]

@[simp] theorem decoder_step : impl.decoder.step = impl.decodeStep := rfl

theorem decodeLoop_runFor (fuel : Nat) (buffer : List UInt8) (pos : Nat) :
    impl.decodeLoop fuel w buffer pos = impl.decoder.runFor fuel w (buffer.drop pos) := by
  induction fuel generalizing w pos with
  | zero => rfl
  | succ fuel ih =>
    unfold decodeLoop
    cases steps : impl.decodeStep w (buffer.drop pos) with
    | none => rw [Lib.Incremental.runFor_wait (show impl.decoder.step w _ = none from steps)]
    | some r =>
      have parsed : impl.decoder.step w (buffer.drop pos) = some (r.1, r.2) := by
        rw [decoder_step, steps]
      rw [Lib.Incremental.runFor_step parsed, List.drop_drop]
      exact ih (pos + r.2)

/-- The buffer's length is fuel enough for the decode loop. -/
theorem pass_feed (st : Worker × List UInt8) (chunk : List UInt8) :
    impl.pass st chunk = impl.decoder.feed st chunk := by
  unfold pass
  rw [decodeLoop_runFor, List.drop_zero]
  rfl

/-- Passes over the chunks are one parse of all bytes. -/
theorem passes_run (w : Worker) (chunks : List (List UInt8)) :
    chunks.foldl impl.pass (w, []) = impl.decoder.run w chunks.flatten := by
  have feeds : impl.pass = impl.decoder.feed := by
    funext st chunk
    exact pass_feed st chunk
  rw [feeds]
  have short : ([] : List UInt8).length < streamHeaderLen := Nat.succ_pos _
  have waits : impl.decodeStep w [] = none := decodeStep_short short
  exact Lib.Incremental.feed_all waits chunks

end StreamImpl

/-- Only the bytes matter, not how bulk_in() cut them; what is left is less than a
record, and no iteration of the loop is due on it. -/
theorem passes_ignore_cuts (impl : StreamImpl) (w : Worker) (cut cut' : List (List UInt8))
    (same : cut.flatten = cut'.flatten) :
    let st := cut.foldl impl.pass (w, [])
    st = cut'.foldl impl.pass (w, []) ∧
    impl.decodeStep st.1 st.2 = none ∧ st.2.length < impl.recordLen := by
  have waits : impl.decodeStep (cut.foldl impl.pass (w, [])).1 (cut.foldl impl.pass (w, [])).2 =
      none := by
    rw [StreamImpl.passes_run]
    exact impl.decoder.run_waits w cut.flatten
  refine ⟨?_, waits, StreamImpl.decodeStep_waits waits⟩
  rw [StreamImpl.passes_run, StreamImpl.passes_run, same]

/-- A stream of one pin, free running, without the bitmap. -/
def onePinStream : StreamImpl := ⟨⟨[0], 0, 0, 8⟩, 1, false, 0⟩

/-- A record cut behind its magic, with an empty read. -/
theorem passes_ignore_cuts_straddling :
    let record : List UInt8 := [0x55, 0x53, 1, 0, 0, 0, 0, 0, 5, 0, 0, 0, 7, 0]
    let cut : List (List UInt8) := [record.take 2, [], record.drop 2]
    let st := cut.foldl onePinStream.pass (Worker.init, [])
    st = [record].foldl onePinStream.pass (Worker.init, []) ∧
    onePinStream.decodeStep st.1 st.2 = none ∧ st.2.length < onePinStream.recordLen :=
  passes_ignore_cuts onePinStream .init _ _ rfl

end ArduinoDriver
