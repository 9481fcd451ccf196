import ArduinoDriver.Host.RoundTrip

namespace ArduinoDriver

open Lib (Block)

variable {impl : StreamImpl} {S : Nat}

/-- A record of a session that started at time `S`: sampled at `time`, which
micros() counts modulo 2^32. -/
structure OwnRecord (impl : StreamImpl) (S : Nat) where
  bytes : List UInt8
  framed : impl.Framed bytes
  time : Nat
  later : S ≤ time
  stamped : (decodeStreamHeader bytes).tUs = UInt32.ofNat time

/-- The record does not look older than its stream. -/
def OwnRecord.inWindow (r : OwnRecord impl S) : Prop := (r.time - S) % 2 ^ 32 ≤ 2 ^ 31

theorem OwnRecord.keeps_iff (r : OwnRecord impl S) (anchor : impl.startTUs = UInt32.ofNat S) :
    impl.keeps r.bytes = true ↔ r.inWindow := by
  have age : (UInt32.ofNat r.time - UInt32.ofNat S).toNat = (r.time - S) % 2 ^ 32 := by
    have later := r.later
    rw [UInt32.toNat_sub, UInt32.toNat_ofNat', UInt32.toNat_ofNat']
    omega
  have stale : impl.isStale (decodeStreamHeader r.bytes).tUs = true ↔
      2 ^ 31 < (r.time - S) % 2 ^ 32 := by
    rw [StreamImpl.isStale_iff, r.stamped, anchor, age]
  rw [StreamImpl.keeps, Bool.not_eq_true', ← Bool.not_eq_true, stale]
  exact Nat.not_lt

/-- The decode loop as the reader of one session. -/
def StreamImpl.session (impl : StreamImpl) (S : Nat) :
    Lib.Framing impl.decoder (OwnRecord impl S) :=
  impl.framing OwnRecord.bytes OwnRecord.framed

/-- A record of this session is delivered and counted, not thrown away as stale. -/
def OwnRecord.Delivered (r : OwnRecord impl S) (w w' : Worker) : Prop :=
  w'.handed = w.handed ++ [impl.samples r.bytes] ∧
  w'.stats.recordsReceived = w.stats.recordsReceived + 1 ∧
  w'.stats.staleRecords = w.stats.staleRecords

theorem OwnRecord.delivered_iff (r : OwnRecord impl S) (anchor : impl.startTUs = UInt32.ofNat S)
    (w : Worker) : r.Delivered w (impl.takeRecord w r.bytes) ↔ r.inWindow := by
  obtain ⟨handed, received, stale⟩ := @StreamImpl.Decoded.record impl w r.bytes
  rw [← r.keeps_iff anchor]
  constructor
  · intro delivered
    by_contra lost
    rw [Delivered, stale] at delivered
    simp [lost] at delivered
  · intro kept
    rw [Delivered, handed, received, stale]
    simp [kept]

/-- A stream keeps its own record exactly while the record is at most 2^31 us older
than the stream, modulo 2^32; over a whole session nothing is thrown away exactly when
that is so for every record. -/
theorem own_records_delivered_iff (impl : StreamImpl) (S : Nat)
    (anchor : impl.startTUs = UInt32.ofNat S) :
    (∀ (w : Worker) (r : OwnRecord impl S) (more : List UInt8),
      ∃ w', impl.decodeStep w (r.bytes ++ more) = some (w', r.bytes.length) ∧
        (r.Delivered w w' ↔ r.inWindow)) ∧
    (∀ (blocks : List (Block (OwnRecord impl S) UInt8)) (chunks : List (List UInt8)),
      chunks.flatten = (impl.session S).symbols blocks → (impl.session S).Quiet blocks →
      let w := (chunks.foldl impl.pass (Worker.init, [])).1
      (w.handed = (Block.frames blocks).map (fun r => impl.samples r.bytes) ∧
        w.stats.recordsReceived = (Block.frames blocks).length ∧ w.stats.staleRecords = 0) ↔
      ∀ r ∈ Block.frames blocks, r.inWindow) := by
  refine ⟨?_, ?_⟩
  · intro w r more
    exact ⟨_, StreamImpl.decodeStep_framed r.framed w more, r.delivered_iff anchor w⟩
  · intro blocks chunks arrives quiet
    obtain ⟨decoded, _⟩ := StreamImpl.passes_blocks (w := .init) quiet arrives rfl
    dsimp only
    constructor
    · rintro ⟨_, _, none_stale⟩ r inside
      have none_lost := decoded.stale.symm.trans none_stale
      rw [Worker.init, Nat.zero_add, List.countP_eq_zero] at none_lost
      have kept := none_lost r.bytes (List.mem_map_of_mem inside)
      exact (r.keeps_iff anchor).mp (by simpa using kept)
    · intro inWindow
      have kept : ∀ bytes ∈ (Block.frames blocks).map OwnRecord.bytes,
          impl.keeps bytes = true := by
        intro bytes inside
        obtain ⟨r, own, rfl⟩ := List.mem_map.mp inside
        exact (r.keeps_iff anchor).mpr (inWindow r own)
      obtain ⟨handed, received, stale⟩ := decoded.all kept
      rw [List.map_map] at handed
      rw [List.length_map] at received
      exact ⟨handed.trans (List.nil_append _), received.trans (Nat.zero_add _), stale⟩

/-- A record of one pin, numbered 0 and sampled at `time`. -/
def onePinRecord (time : Nat) : List UInt8 := streamHeader 1 0 (UInt32.ofNat time) ++ putU16 0

theorem onePinRecord_framed (time : Nat) : onePinStream.Framed (onePinRecord time) := by
  constructor
  · unfold StreamImpl.Opens onePinRecord
    rw [decodeStreamHeader_streamHeader]
    exact ⟨rfl, rfl⟩
  · rfl

/-- It as a record of a session that started when the clock read 0. -/
def onePinOwn (time : Nat) : OwnRecord onePinStream 0 where
  bytes := onePinRecord time
  framed := onePinRecord_framed time
  time := time
  later := Nat.zero_le time
  stamped := by rw [onePinRecord, decodeStreamHeader_streamHeader]

theorem own_records_delivered_iff_at_start :
    (∃ w', onePinStream.decodeStep .init ((onePinOwn 5).bytes ++ []) =
        some (w', (onePinOwn 5).bytes.length) ∧
      ((onePinOwn 5).Delivered .init w' ↔ (onePinOwn 5).inWindow)) ∧
    (let blocks : List (Block (OwnRecord onePinStream 0) UInt8) := [.frame (onePinOwn 5)]
      let w := ([onePinRecord 5].foldl onePinStream.pass (Worker.init, [])).1
      (w.handed = (Block.frames blocks).map (fun r => onePinStream.samples r.bytes) ∧
        w.stats.recordsReceived = (Block.frames blocks).length ∧ w.stats.staleRecords = 0) ↔
      ∀ r ∈ Block.frames blocks, r.inWindow) :=
  ⟨(own_records_delivered_iff onePinStream 0 rfl).1 .init (onePinOwn 5) [],
    (own_records_delivered_iff onePinStream 0 rfl).2 [.frame (onePinOwn 5)] [onePinRecord 5]
      rfl trivial⟩

/-- Some 36 minutes into a stream its records are thrown away as stale. -/
theorem late_record_is_thrown_away :
    ¬ ∀ (impl : StreamImpl) (S : Nat), impl.startTUs = UInt32.ofNat S →
      ∀ (w : Worker) (r : OwnRecord impl S) (more : List UInt8),
        ∃ w', impl.decodeStep w (r.bytes ++ more) = some (w', r.bytes.length) ∧
          r.Delivered w w' := by
  intro claim
  obtain ⟨w', steps, delivered⟩ :=
    claim onePinStream 0 rfl .init (onePinOwn (2 ^ 31 + 1)) []
  have lost : (onePinStream.decodeStep .init (onePinRecord (2 ^ 31 + 1) ++ [])).map
      (fun r => r.1.handed) = some [] := by decide +kernel
  have same : onePinStream.decodeStep .init (onePinRecord (2 ^ 31 + 1) ++ []) = some (w', _) :=
    steps
  rw [same] at lost
  have empty : w'.handed = [] := Option.some.inj lost
  have handed := delivered.1
  rw [empty] at handed
  simp at handed

end ArduinoDriver
