import ArduinoDriver.Host.StaleRecords
import Mathlib.Data.List.Chain
import Mathlib.Data.List.Induction

namespace ArduinoDriver

open Lib (Block)

variable {impl : StreamImpl} {w : Worker}

/-- A record of a session, with the number the device gave it; its header carries
that modulo 2^32. -/
structure NumberedRecord (impl : StreamImpl) where
  bytes : List UInt8
  framed : impl.Framed bytes
  number : Nat
  numbered : (decodeStreamHeader bytes).seq = UInt32.ofNat number

/-- `s` comes later than `r`, with less than 2^31 numbers between them. -/
def NumberedRecord.Next (r s : NumberedRecord impl) : Prop :=
  r.number < s.number ∧ s.number - r.number < 2 ^ 31

/-- The decode loop as the reader of a numbered session. -/
def StreamImpl.numbered (impl : StreamImpl) : Lib.Framing impl.decoder (NumberedRecord impl) :=
  impl.framing NumberedRecord.bytes NumberedRecord.framed

/-- The worker after all that `blocks` stand for. -/
def StreamImpl.after (impl : StreamImpl) (blocks : List (Block (NumberedRecord impl) UInt8)) :
    Worker :=
  blocks.foldl impl.numbered.take .init

/-- What the worker has received or counted as a gap. -/
def Worker.accounted (w : Worker) : Nat := w.stats.recordsReceived + w.stats.seqGaps

/-- Whenever some of `blocks` have come in, in whatever chunks, every number up to the
last record is accounted for. -/
def StreamImpl.LossesAddUp (impl : StreamImpl) (blocks : List (Block (NumberedRecord impl) UInt8)) :
    Prop :=
  ∀ (seen : List (Block (NumberedRecord impl) UInt8)) (chunks : List (List UInt8)),
    seen <+: blocks → chunks.flatten = impl.numbered.symbols seen →
    ∀ r ∈ (Block.frames seen).getLast?,
      (chunks.foldl impl.pass (Worker.init, [])).1.accounted = r.number + 1

/-- A gap is counted against the record before. -/
theorem seqGap_next {last seq : Nat} (later : last < seq) (near : seq - last < 2 ^ 31) :
    seqGap (some (UInt32.ofNat last)) (UInt32.ofNat seq) = seq - last - 1 := by
  have gap : (UInt32.ofNat seq - (UInt32.ofNat last + 1)).toNat = seq - last - 1 := by
    have one : (1 : UInt32).toNat = 1 := rfl
    rw [UInt32.toNat_sub, UInt32.toNat_add, UInt32.toNat_ofNat', UInt32.toNat_ofNat', one]
    omega
  have half : (0x80000000 : UInt32).toNat = 2 ^ 31 := rfl
  rw [seqGap, if_pos, gap]
  rw [UInt32.lt_iff_toNat_lt, gap, half]
  omega

namespace StreamImpl

theorem takeRecord_kept {bytes : List UInt8} (kept : impl.keeps bytes = true) :
    (impl.takeRecord w bytes).lastSeq = some (decodeStreamHeader bytes).seq ∧
    (impl.takeRecord w bytes).accounted =
      w.accounted + seqGap w.lastSeq (decodeStreamHeader bytes).seq + 1 := by
  have fresh : impl.isStale (decodeStreamHeader bytes).tUs = false := by
    rwa [keeps, Bool.not_eq_true'] at kept
  unfold takeRecord StreamImpl.sync Worker.accounted
  cases w.hunting <;> simp [fresh, acceptRecord, deliver] <;> omega

/-- A record taken for an older session's leaves no trace in the account. -/
theorem takeRecord_stale {bytes : List UInt8} (stale : impl.keeps bytes = false) :
    (impl.takeRecord w bytes).accounted = w.accounted := by
  have old : impl.isStale (decodeStreamHeader bytes).tUs = true := by
    rwa [keeps, Bool.not_eq_false'] at stale
  unfold takeRecord StreamImpl.sync Worker.accounted
  cases w.hunting <;> simp [old]

variable {blocks later : List (Block (NumberedRecord impl) UInt8)} {r r' : NumberedRecord impl}

theorem after_append :
    impl.after (blocks ++ later) = later.foldl impl.numbered.take (impl.after blocks) :=
  List.foldl_append

theorem after_noise (l : List UInt8) :
    impl.after (blocks ++ [.noise l]) = { impl.after blocks with hunting := true } := after_append

theorem after_frame (r : NumberedRecord impl) :
    impl.after (blocks ++ [.frame r]) = impl.takeRecord (impl.after blocks) r.bytes := after_append

/-- What chunks do to the account is what their records do to it. -/
theorem passes_accounted {chunks : List (List UInt8)} (quiet : impl.numbered.Quiet blocks)
    (arrives : chunks.flatten = impl.numbered.symbols blocks) :
    (chunks.foldl impl.pass (Worker.init, [])).1.accounted = (impl.after blocks).accounted := by
  have blind : ∀ w, (impl.numbered.lose w).accounted = w.accounted := fun _ => rfl
  rw [passes_run, arrives]
  exact Lib.Framing.run_observes blind quiet

/-- The account of records that are all kept: the ones before the first are missing
from it. -/
structure Accounted (w : Worker) (first last : Nat) : Prop where
  lastSeq : w.lastSeq = some (UInt32.ofNat last)
  sum : w.accounted + first = last + 1

theorem Accounted.start (empty : w.lastSeq = none) (nothing : w.accounted = 0)
    (kept : impl.keeps r.bytes = true) :
    Accounted (impl.takeRecord w r.bytes) r.number r.number := by
  obtain ⟨lastSeq, sum⟩ := @takeRecord_kept impl w r.bytes kept
  refine ⟨by rw [lastSeq, r.numbered], ?_⟩
  rw [sum, empty, nothing, seqGap]
  omega

theorem Accounted.next {n : Nat} (h : Accounted w n r'.number) (after : r'.Next r)
    (kept : impl.keeps r.bytes = true) : Accounted (impl.takeRecord w r.bytes) n r.number := by
  obtain ⟨lastSeq, sum⟩ := @takeRecord_kept impl w r.bytes kept
  obtain ⟨later, near⟩ := after
  refine ⟨by rw [lastSeq, r.numbered], ?_⟩
  have before := h.sum
  rw [sum, h.lastSeq, r.numbered, seqGap_next later near]
  omega

/-- Along a session that is kept whole the account holds, from the first record on. -/
theorem after_accounted
    (ordered : (Block.frames blocks).IsChain NumberedRecord.Next)
    (kept : ∀ r ∈ Block.frames blocks, impl.keeps r.bytes = true) :
    match (Block.frames blocks).head?, (Block.frames blocks).getLast? with
    | some first, some last => Accounted (impl.after blocks) first.number last.number
    | _, _ => (impl.after blocks).lastSeq = none ∧ (impl.after blocks).accounted = 0 := by
  induction blocks using List.reverseRecOn with
  | nil => exact ⟨rfl, rfl⟩
  | append_singleton blocks block ih =>
    rw [Block.frames_append] at ordered kept ⊢
    have before := ih (List.isChain_append.mp ordered).1
      (fun r inside => kept r (List.mem_append_left _ inside))
    cases block with
    | noise l =>
      have none_ : Block.frames ([.noise l] : List (Block (NumberedRecord impl) UInt8)) = [] := rfl
      rw [none_, List.append_nil, after_noise]
      cases frames : Block.frames blocks with
      | nil =>
        rw [frames] at before
        exact before
      | cons first rest =>
        rw [frames, List.head?_cons, List.getLast?_cons] at before
        rw [List.head?_cons, List.getLast?_cons]
        exact ⟨before.lastSeq, before.sum⟩
    | frame r =>
      have one : Block.frames [@Block.frame _ UInt8 r] = [r] := rfl
      rw [one] at ordered kept ⊢
      have keeps := kept r (List.mem_append_right _ (List.mem_singleton_self r))
      rw [List.getLast?_concat, after_frame]
      cases frames : Block.frames blocks with
      | nil =>
        rw [frames] at before
        exact Accounted.start before.1 before.2 keeps
      | cons first rest =>
        rw [frames, List.head?_cons, List.getLast?_cons] at before
        rw [frames] at ordered
        have follows := (List.isChain_append.mp ordered).2.2 _
          (by rw [List.getLast?_cons]; rfl) r rfl
        exact before.next follows keeps

theorem opens_append (l more : List UInt8) (opens : impl.numbered.opens l) :
    impl.numbered.opens (l ++ more) := by
  obtain ⟨enough, magic, count⟩ := opens
  have longer : 4 ≤ (l ++ more).length := by
    rw [List.length_append]
    omega
  refine ⟨longer, ?_, ?_⟩
  · rw [← magic]
    exact readU16_append (by omega)
  · rw [← count]
    exact readU16_append (by omega)

variable (quiet : impl.numbered.Quiet blocks)
  (ordered : (Block.frames blocks).IsChain NumberedRecord.Next)

section

include quiet

/-- The law read off the blocks. -/
theorem LossesAddUp.at_blocks (adds : impl.LossesAddUp blocks)
    {seen : List (Block (NumberedRecord impl) UInt8)} (part : seen <+: blocks)
    (last : r ∈ (Block.frames seen).getLast?) : (impl.after seen).accounted = r.number + 1 := by
  have quiet' : impl.numbered.Quiet seen := by
    obtain ⟨rest, rfl⟩ := part
    exact quiet.of_append opens_append
  have arrives : [impl.numbered.symbols seen].flatten = impl.numbered.symbols seen := by simp
  rw [← passes_accounted quiet' arrives]
  exact adds seen _ part arrives r last

end

include ordered

/-- A record that is not kept is the last one at some point, and the account then lacks it. -/
theorem kept_of_addsUp
    (at_blocks : ∀ seen, seen <+: blocks → ∀ r ∈ (Block.frames seen).getLast?,
      (impl.after seen).accounted = r.number + 1) (inside : r ∈ Block.frames blocks) :
    impl.keeps r.bytes = true := by
  obtain ⟨before, later, split⟩ := List.append_of_mem inside
  obtain ⟨seen, rest, rfl, frames⟩ := Block.frames_split split
  have one : Block.frames [@Block.frame _ UInt8 r] = [r] := rfl
  have now : (impl.after (seen ++ [.frame r])).accounted = r.number + 1 := by
    refine at_blocks _ ⟨rest, List.append_assoc ..⟩ r ?_
    rw [Block.frames_append, one]
    exact List.getLast?_concat
  by_contra stale
  rw [after_frame, takeRecord_stale (Bool.eq_false_iff.mpr stale)] at now
  rw [split] at ordered
  cases last : before.getLast? with
  | none =>
    have nothing : Block.frames seen = [] := frames.trans (List.getLast?_eq_none_iff.mp last)
    have empty := @after_accounted impl seen (by rw [nothing]; exact .nil)
      (fun r inside => by rw [nothing] at inside; contradiction)
    rw [nothing] at empty
    have zero := empty.2
    omega
  | some s =>
    have earlier := at_blocks seen (List.prefix_append ..) s (by rw [frames, last]; rfl)
    have less := ((List.isChain_append.mp ordered).2.2 s (by rw [last]; rfl) r rfl).1
    omega

end StreamImpl

/-- Received records and gaps make up the numbers of a session exactly when its record 0 was
the first to come in, and none was taken for stale. -/
theorem losses_add_up_iff (impl : StreamImpl) (blocks : List (Block (NumberedRecord impl) UInt8))
    (quiet : impl.numbered.Quiet blocks)
    (ordered : (Block.frames blocks).IsChain NumberedRecord.Next) :
    impl.LossesAddUp blocks ↔
      (∀ first ∈ (Block.frames blocks).head?, first.number = 0) ∧
      ∀ r ∈ Block.frames blocks, impl.keeps r.bytes = true := by
  constructor
  · intro adds
    have at_blocks : ∀ seen, seen <+: blocks → ∀ r ∈ (Block.frames seen).getLast?,
        (impl.after seen).accounted = r.number + 1 :=
      fun _ part _ last => adds.at_blocks quiet part last
    have kept : ∀ r ∈ Block.frames blocks, impl.keeps r.bytes = true :=
      fun _ inside => StreamImpl.kept_of_addsUp ordered at_blocks inside
    refine ⟨fun first starts => ?_, kept⟩
    obtain ⟨later, split⟩ := List.head?_eq_some_iff.mp starts
    obtain ⟨seen, rest, rfl, nothing⟩ := Block.frames_split (split.trans (List.nil_append _).symm)
    have one : Block.frames (seen ++ [@Block.frame _ UInt8 first]) = [first] := by
      rw [Block.frames_append, nothing]
      rfl
    have now := at_blocks (seen ++ [.frame first]) ⟨rest, List.append_assoc ..⟩ first
      (by rw [one]; rfl)
    have keeps := kept first (by rw [split]; exact List.mem_cons_self ..)
    have account := @StreamImpl.after_accounted impl (seen ++ [.frame first])
      (by rw [one]; exact .singleton _)
      (by rw [one]; exact fun r inside => by rwa [List.mem_singleton.mp inside])
    rw [one] at account
    have sum : (impl.after (seen ++ [.frame first])).accounted + first.number =
        first.number + 1 := account.sum
    omega
  · rintro ⟨zero, kept⟩ seen chunks ⟨rest, rfl⟩ arrives r last
    rw [Block.frames_append] at ordered zero kept
    have account := StreamImpl.after_accounted (List.isChain_append.mp ordered).1
      (fun r inside => kept r (List.mem_append_left _ inside))
    rw [StreamImpl.passes_accounted (quiet.of_append StreamImpl.opens_append) arrives]
    cases frames : Block.frames seen with
    | nil =>
      rw [frames] at last
      contradiction
    | cons first later =>
      rw [frames] at account zero last
      rw [Option.mem_def.mp last] at account
      have sum := account.sum
      have starts := zero first rfl
      omega

/-- A record of one pin, sampled 5 us after the start. -/
def onePinNumbered (number : Nat) : NumberedRecord onePinStream where
  bytes := streamHeader 1 (UInt32.ofNat number) 5 ++ putU16 0
  framed := by
    constructor
    · unfold StreamImpl.Opens
      rw [decodeStreamHeader_streamHeader]
      exact ⟨rfl, rfl⟩
    · rfl
  number := number
  numbered := by rw [decodeStreamHeader_streamHeader]

/-- Record 1 is lost, and counted. -/
theorem losses_add_up_iff_gap :
    let blocks : List (Block (NumberedRecord onePinStream) UInt8) :=
      [.frame (onePinNumbered 0), .frame (onePinNumbered 2)]
    onePinStream.LossesAddUp blocks ↔
      (∀ first ∈ (Block.frames blocks).head?, first.number = 0) ∧
      ∀ r ∈ Block.frames blocks, onePinStream.keeps r.bytes = true := by
  refine losses_add_up_iff onePinStream _ trivial ?_
  exact .cons_cons ⟨by decide, by decide⟩ (.singleton _)

/-- Records 0, 1 and 2 are lost before the first one comes in, and not counted. -/
theorem losses_before_the_first_are_missed :
    ¬ ∀ (impl : StreamImpl) (blocks : List (Block (NumberedRecord impl) UInt8)),
      impl.numbered.Quiet blocks → (Block.frames blocks).IsChain NumberedRecord.Next →
      (∀ first ∈ (Block.frames blocks).head?, first.number < 2 ^ 31) →
      (∀ r ∈ Block.frames blocks, impl.keeps r.bytes = true) → impl.LossesAddUp blocks := by
  intro claim
  have adds := claim onePinStream [.frame (onePinNumbered 3)] trivial (.singleton _)
    (fun first starts => by cases starts; decide)
    (fun r inside => by rw [List.mem_singleton.mp inside]; decide +kernel)
  have now := adds _ [(onePinNumbered 3).bytes] (List.prefix_refl _) rfl (onePinNumbered 3) rfl
  have one : ([(onePinNumbered 3).bytes].foldl onePinStream.pass (Worker.init, [])).1.accounted = 1 := by
    decide +kernel
  rw [one] at now
  contradiction

end ArduinoDriver
