import ArduinoDriver.Host.RoundTrip
import ArduinoDriver.Lib.Reach

namespace ArduinoDriver

variable {impl : StreamImpl} {w : Worker} {room capacity : Nat} {ready : List (List Sample)}

/-- The locked section of worker_main() that counts a record. -/
def StreamImpl.countRecord (w : Worker) (head : List UInt8) : Worker :=
  let seq := (decodeStreamHeader head).seq
  { w with
    lastSeq := some seq
    stats := { w.stats with
      seqGaps := w.stats.seqGaps + seqGap w.lastSeq seq
      recordsReceived := w.stats.recordsReceived + 1 } }

/-- The loop of read(): whole records are copied while they fit in `room` samples; what
it takes and what stays queued. -/
def takeFitting : Nat → List (List Sample) → List (List Sample) × List (List Sample)
  | _, [] => ([], [])
  | room, front :: ready =>
    if room < front.length then ([], front :: ready)
    else
      let rest := takeFitting (room - front.length) ready
      (front :: rest.1, rest.2)

/-- read() of `room` samples, which does not look at the queue for an empty buffer. -/
def readRecords (room : Nat) (ready : List (List Sample)) : List (List Sample) × List (List Sample) :=
  if room = 0 then ([], ready) else takeFitting room ready

/-- One call of read(): the buffer it was given, and the records it took, the first of
which is number `first` of those handed to the queue. -/
structure ReadCall where
  room : Nat
  first : Nat
  records : List (List Sample)
  deriving DecidableEq, Repr

/-- What it copied out. -/
def ReadCall.copied (r : ReadCall) : List Sample := r.records.flatten

def ReadCall.indices (r : ReadCall) : List Nat := List.range' r.first r.records.length

/-- A stream between two locked sections. `gone`, `reads` and `dropped` only keep the
history: how many records have left the queue, to which call, and the numbers of those
that were dropped. -/
structure RecordQueue where
  worker : Worker
  /-- A record that is counted and not yet pushed. -/
  counted : Option (List Sample)
  gone : Nat
  reads : List ReadCall
  dropped : List Nat
  deriving DecidableEq, Repr

def RecordQueue.init : RecordQueue := ⟨.init, none, 0, [], []⟩

/-- The sections of the worker and of the threads that read. -/
inductive QueueAct where
  | hunt
  | resync
  | stale
  | count (head : List UInt8)
  | push
  | read (room : Nat)

namespace RecordQueue

/-- The worker comes to a record only when the one before is pushed. -/
def enabled (q : RecordQueue) : QueueAct → Prop
  | .hunt | .resync | .stale | .count _ => q.counted = none
  | .push => q.counted.isSome = true
  | .read _ => True

instance (q : RecordQueue) : (act : QueueAct) → Decidable (q.enabled act)
  | .hunt | .resync | .stale | .count _ => inferInstanceAs (Decidable (q.counted = none))
  | .push => inferInstanceAs (Decidable (q.counted.isSome = true))
  | .read _ => inferInstanceAs (Decidable True)

def push (impl : StreamImpl) (q : RecordQueue) (samples : List Sample) : RecordQueue :=
  let dropped := (makeRoom impl.config.queueCapacity q.worker.ready).2
  { q with
    worker := impl.deliver q.worker samples
    counted := none
    gone := q.gone + dropped
    dropped := q.dropped ++ List.range' q.gone dropped }

def read (q : RecordQueue) (room : Nat) : RecordQueue :=
  let taken := readRecords room q.worker.ready
  { q with
    worker := { q.worker with ready := taken.2 }
    gone := q.gone + taken.1.length
    reads := q.reads ++ [⟨room, q.gone, taken.1⟩] }

def step (impl : StreamImpl) (q : RecordQueue) : QueueAct → RecordQueue
  | .hunt => { q with worker := { q.worker with hunting := true } }
  | .resync => { q with worker := StreamImpl.sync q.worker }
  | .stale =>
    { q with worker := { q.worker with
        stats := { q.worker.stats with staleRecords := q.worker.stats.staleRecords + 1 } } }
  | .count head =>
    { q with worker := StreamImpl.countRecord q.worker head, counted := some (impl.samples head) }
  | .push => (q.counted.map (q.push impl)).getD q
  | .read room => q.read room

/-- The locked sections of one record, in their order. -/
def sections (impl : StreamImpl) (head : List UInt8) : List QueueAct :=
  .resync :: if impl.isStale (decodeStreamHeader head).tUs then [.stale] else [.count head, .push]

/-- With no read() in between they are what the decode loop does with a record. -/
theorem sections_takeRecord (q : RecordQueue) (head : List UInt8) :
    ((sections impl head).foldl (step impl) q).worker = impl.takeRecord q.worker head := by
  unfold sections StreamImpl.takeRecord
  cases impl.isStale (decodeStreamHeader head).tUs <;> rfl

/-- States reached by any interleaving. -/
def Reachable (impl : StreamImpl) : RecordQueue → Prop := Lib.Reach (step impl) enabled .init

end RecordQueue

/-- Room is made by dropping the oldest. -/
theorem makeRoom_drop (capacity : Nat) (ready : List (List Sample)) :
    (makeRoom capacity ready).1 = ready.drop (makeRoom capacity ready).2 ∧
      (makeRoom capacity ready).2 ≤ ready.length := by
  induction ready with
  | nil => exact ⟨rfl, Nat.le_refl 0⟩
  | cons oldest ready ih =>
    unfold makeRoom
    split
    · exact ⟨ih.1, Nat.succ_le_succ ih.2⟩
    · exact ⟨rfl, Nat.zero_le _⟩

theorem makeRoom_length (some_ : 1 ≤ capacity) :
    (makeRoom capacity ready).1.length < capacity := by
  induction ready with
  | nil => exact some_
  | cons oldest ready ih =>
    unfold makeRoom
    split
    · exact ih
    · next room => exact Nat.lt_of_not_le room

theorem takeFitting_split (room : Nat) (ready : List (List Sample)) :
    (takeFitting room ready).1 ++ (takeFitting room ready).2 = ready ∧
      (takeFitting room ready).1.flatten.length ≤ room := by
  induction ready generalizing room with
  | nil => exact ⟨rfl, Nat.zero_le room⟩
  | cons front ready ih =>
    unfold takeFitting
    split
    · exact ⟨rfl, Nat.zero_le room⟩
    · next fits =>
      obtain ⟨whole, within⟩ := ih (room - front.length)
      refine ⟨congrArg (front :: ·) whole, ?_⟩
      rw [List.flatten_cons, List.length_append]
      omega

theorem readRecords_split (room : Nat) (ready : List (List Sample)) :
    (readRecords room ready).1 ++ (readRecords room ready).2 = ready ∧
      (readRecords room ready).1.flatten.length ≤ room := by
  unfold readRecords
  split
  · exact ⟨rfl, Nat.zero_le room⟩
  · exact takeFitting_split room ready

namespace RecordQueue

/-- The numbers of the records that read() returned, in the order it returned them. -/
def returned (q : RecordQueue) : List Nat := q.reads.flatMap ReadCall.indices

/-- The records handed to the queue went, oldest first, to a read() or to a drop, and the rest
are queued. -/
structure Accounts (impl : StreamImpl) (q : RecordQueue) : Prop where
  within : q.gone ≤ q.worker.handed.length
  window : q.worker.ready = q.worker.handed.drop q.gone
  bounded : q.worker.ready.length ≤ impl.config.queueCapacity
  received : q.worker.stats.recordsReceived =
    q.worker.handed.length + if q.counted.isSome then 1 else 0
  hostDrops : q.worker.stats.hostDrops = q.dropped.length
  went : (q.returned ++ q.dropped).Perm (List.range q.gone)
  ordered : q.returned.Pairwise (· < ·)
  calls : ∀ r ∈ q.reads, r.copied.length ≤ r.room ∧ r.records <+: q.worker.handed.drop r.first

variable {q : RecordQueue}

theorem Accounts.init : Accounts impl .init where
  within := Nat.le_refl 0
  window := rfl
  bounded := Nat.zero_le _
  received := rfl
  hostDrops := rfl
  went := .refl _
  ordered := .nil
  calls := fun _ inside => absurd inside (List.not_mem_nil)

/-- The sections that leave the queue and its counters alone. -/
theorem Accounts.same {w : Worker} (h : Accounts impl q) (ready : w.ready = q.worker.ready)
    (handed : w.handed = q.worker.handed)
    (received : w.stats.recordsReceived = q.worker.stats.recordsReceived)
    (hostDrops : w.stats.hostDrops = q.worker.stats.hostDrops) :
    Accounts impl { q with worker := w } where
  within := by rw [handed]; exact h.within
  window := by rw [ready, handed]; exact h.window
  bounded := by rw [ready]; exact h.bounded
  received := by rw [received, handed]; exact h.received
  hostDrops := by rw [hostDrops]; exact h.hostDrops
  went := h.went
  ordered := h.ordered
  calls := by rw [handed]; exact h.calls

theorem Accounts.resync (h : Accounts impl q) :
    Accounts impl { q with worker := StreamImpl.sync q.worker } := by
  unfold StreamImpl.sync
  split <;> exact h.same rfl rfl rfl rfl

theorem Accounts.count (h : Accounts impl q) (pushed : q.counted = none) (head : List UInt8)
    (samples : List Sample) :
    Accounts impl { q with
      worker := StreamImpl.countRecord q.worker head, counted := some samples } where
  within := h.within
  window := h.window
  bounded := h.bounded
  received := by
    have before := h.received
    rw [pushed] at before
    exact congrArg (· + 1) before
  hostDrops := h.hostDrops
  went := h.went
  ordered := h.ordered
  calls := h.calls

/-- Records that leave the queue take the numbers from `gone` on. -/
theorem went_range {a b c : List Nat} {gone n : Nat} (went : (a ++ b).Perm (List.range gone))
    (more : c.Perm (a ++ b ++ List.range' gone n)) : c.Perm (List.range (gone + n)) := by
  have parts : List.range (gone + n) = List.range gone ++ List.range' gone n := by
    rw [List.range_eq_range', List.range_eq_range', ← List.range'_append_1, Nat.zero_add]
  rw [parts]
  exact more.trans (went.append_right _)

theorem Accounts.push (h : Accounts impl q) (capacity : 1 ≤ impl.config.queueCapacity)
    {samples : List Sample} (counted : q.counted = some samples) :
    Accounts impl (q.push impl samples) := by
  obtain ⟨room, dropped⟩ := makeRoom_drop impl.config.queueCapacity q.worker.ready
  have short := @makeRoom_length _ q.worker.ready capacity
  have queued : q.worker.ready.length = q.worker.handed.length - q.gone := by
    rw [h.window, List.length_drop]
  have within := h.within
  constructor
  · change q.gone + _ ≤ (q.worker.handed ++ [samples]).length
    rw [List.length_append]
    omega
  · change (makeRoom _ _).1 ++ [samples] = (q.worker.handed ++ [samples]).drop (q.gone + _)
    rw [List.drop_append_of_le_length (by omega), room, ← List.drop_drop, ← h.window]
  · change ((makeRoom _ _).1 ++ [samples]).length ≤ _
    rw [List.length_append]
    exact short
  · have before := h.received
    rw [counted] at before
    change q.worker.stats.recordsReceived = (q.worker.handed ++ [samples]).length
    rw [before, List.length_append]
    rfl
  · change q.worker.stats.hostDrops + _ = (q.dropped ++ List.range' _ _).length
    rw [h.hostDrops, List.length_append, List.length_range']
  · refine went_range h.went ?_
    change (q.returned ++ (q.dropped ++ _)).Perm _
    rw [List.append_assoc]
  · exact h.ordered
  · intro r inside
    obtain ⟨fits, run⟩ := h.calls r inside
    refine ⟨fits, run.trans ?_⟩
    by_cases early : r.first ≤ q.worker.handed.length
    · change _ <+: (q.worker.handed ++ [samples]).drop _
      rw [List.drop_append_of_le_length early]
      exact List.prefix_append ..
    · rw [List.drop_of_length_le (Nat.le_of_not_le early)]
      exact List.nil_prefix

theorem Accounts.read (h : Accounts impl q) (room : Nat) : Accounts impl (q.read room) := by
  obtain ⟨whole, fits⟩ := readRecords_split room q.worker.ready
  have queued : q.worker.ready.length = q.worker.handed.length - q.gone := by
    rw [h.window, List.length_drop]
  have parts := congrArg List.length whole
  rw [List.length_append] at parts
  have within := h.within
  have left : (readRecords room q.worker.ready).2 =
      q.worker.ready.drop (readRecords room q.worker.ready).1.length :=
    List.drop_left.symm.trans (congrArg (List.drop _) whole)
  have numbers : (q.read room).returned = q.returned ++
      List.range' q.gone (readRecords room q.worker.ready).1.length := by
    change (q.reads ++ [_]).flatMap ReadCall.indices = _
    rw [List.flatMap_append, List.flatMap_singleton]
    rfl
  constructor
  · change q.gone + (readRecords room q.worker.ready).1.length ≤ q.worker.handed.length
    omega
  · change (readRecords room q.worker.ready).2 = q.worker.handed.drop (q.gone + _)
    rw [left, ← List.drop_drop, ← h.window]
  · change (readRecords room q.worker.ready).2.length ≤ _
    have bounded := h.bounded
    omega
  · exact h.received
  · exact h.hostDrops
  · refine went_range h.went ?_
    rw [numbers]
    change (_ ++ q.dropped).Perm _
    rw [List.append_assoc, List.append_assoc]
    exact (List.perm_append_comm).append_left _
  · rw [numbers, List.pairwise_append]
    refine ⟨h.ordered, List.pairwise_lt_range' _ Nat.one_pos, ?_⟩
    intro i before j after
    have low := h.went.subset (List.mem_append_left _ before)
    have high := (List.mem_range'_1.mp after).1
    exact Nat.lt_of_lt_of_le (List.mem_range.mp low) high
  · intro r inside
    rcases List.mem_append.mp inside with earlier | this
    · exact h.calls r earlier
    · rw [List.mem_singleton.mp this]
      refine ⟨fits, ?_⟩
      change (readRecords room q.worker.ready).1 <+: q.worker.handed.drop q.gone
      rw [← h.window]
      exact ⟨_, whole⟩

theorem Accounts.step (h : Accounts impl q) (capacity : 1 ≤ impl.config.queueCapacity)
    {act : QueueAct} (enabled : q.enabled act) : Accounts impl (q.step impl act) := by
  cases act with
  | hunt => exact h.same rfl rfl rfl rfl
  | resync => exact h.resync
  | stale => exact h.same rfl rfl rfl rfl
  | count head => exact h.count enabled head _
  | push =>
    obtain ⟨samples, counted⟩ := Option.isSome_iff_exists.mp enabled
    rw [RecordQueue.step, counted]
    exact h.push capacity counted
  | read room => exact h.read room

theorem Reachable.accounts (reached : Reachable impl q) (capacity : 1 ≤ impl.config.queueCapacity) :
    Accounts impl q :=
  reached.invariant .init (fun _ _ h enabled => h.step capacity enabled)

theorem returned_length (q : RecordQueue) :
    q.returned.length = (q.reads.map (fun r => r.records.length)).sum := by
  rw [returned, List.length_flatMap]
  congr 1
  exact List.map_congr_left (fun r _ => List.length_range')

end RecordQueue

/-- In every interleaving the queue is bounded; between two records every record received was
returned, is queued or was dropped; each read() returned whole records, a run in the order they
were decoded; no record was returned twice or before an older one; and what was dropped is
older than all that is queued. -/
theorem record_queue_accounts (impl : StreamImpl) (capacity : 1 ≤ impl.config.queueCapacity)
    {q : RecordQueue} (reached : RecordQueue.Reachable impl q) :
    q.worker.ready.length ≤ impl.config.queueCapacity ∧
    (q.counted = none → q.worker.stats.recordsReceived =
      (q.reads.map (fun r => r.records.length)).sum + q.worker.ready.length +
        q.worker.stats.hostDrops) ∧
    (∀ r ∈ q.reads, r.copied.length ≤ r.room ∧ r.records <+: q.worker.handed.drop r.first) ∧
    q.returned.Pairwise (· < ·) ∧
    q.worker.ready = q.worker.handed.drop q.gone ∧
    q.dropped.length = q.worker.stats.hostDrops ∧
    (∀ i ∈ q.dropped, i < q.gone ∧ i ∉ q.returned) := by
  have accounts := reached.accounts capacity
  refine ⟨accounts.bounded, ?_, accounts.calls, accounts.ordered, accounts.window,
    accounts.hostDrops.symm, ?_⟩
  · intro pushed
    have received := accounts.received
    have within := accounts.within
    have gone := accounts.went.length_eq
    rw [pushed] at received
    rw [List.length_append, List.length_range] at gone
    rw [received, ← RecordQueue.returned_length, accounts.hostDrops, accounts.window,
      List.length_drop]
    change q.worker.handed.length = _
    omega
  · intro i inside
    have low := accounts.went.subset (List.mem_append_right _ inside)
    have distinct := accounts.went.nodup_iff.mpr List.nodup_range
    exact ⟨List.mem_range.mp low, fun returned =>
      List.disjoint_of_nodup_append distinct returned inside⟩

/-- A queue of two records. -/
def twoDeep : StreamImpl := { onePinStream with config := ⟨[0], 0, 0, 2⟩ }

/-- The third record drops the first; a read() takes the second while the fourth is counted
and not pushed yet. -/
def crowdedQueue : List QueueAct :=
  let head := streamHeader 1 0 5 ++ putU16 0
  [.count head, .push, .count head, .push, .count head, .push, .count head, .read 1, .push]

theorem record_queue_accounts_crowded :
    let q := crowdedQueue.foldl (RecordQueue.step twoDeep) .init
    q.worker.ready.length ≤ twoDeep.config.queueCapacity ∧
    (q.counted = none → q.worker.stats.recordsReceived =
      (q.reads.map (fun r => r.records.length)).sum + q.worker.ready.length +
        q.worker.stats.hostDrops) ∧
    (∀ r ∈ q.reads, r.copied.length ≤ r.room ∧ r.records <+: q.worker.handed.drop r.first) ∧
    q.returned.Pairwise (· < ·) ∧
    q.worker.ready = q.worker.handed.drop q.gone ∧
    q.dropped.length = q.worker.stats.hostDrops ∧
    (∀ i ∈ q.dropped, i < q.gone ∧ i ∉ q.returned) :=
  record_queue_accounts twoDeep (by decide)
    (@Lib.Follows.reach _ _ _ _ _ crowdedQueue (by decide +kernel))

/-- There the drop and the read() both happened. -/
example : (crowdedQueue.foldl (RecordQueue.step twoDeep) .init).dropped = [0] ∧
    (crowdedQueue.foldl (RecordQueue.step twoDeep) .init).returned = [1] := by decide +kernel

end ArduinoDriver
