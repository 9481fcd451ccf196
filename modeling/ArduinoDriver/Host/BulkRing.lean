import ArduinoDriver.Host.Protocol
import ArduinoDriver.Lib.Reach
import ArduinoDriver.Lib.Table

namespace ArduinoDriver

open Lib.Table

/-- enum libusb_error, less its success. -/
inductive LibusbError where
  | io | invalidParam | access | noDevice | notFound | busy | timeout | overflow | pipe
  | interrupted | noMem | notSupported | other
  deriving DecidableEq, Repr

/-- enum libusb_transfer_status. -/
inductive TransferStatus where
  | completed | error | timedOut | cancelled | stall | noDevice | overflow
  deriving DecidableEq, Repr

/-- transfer_status_error(); `none` stands for LIBUSB_SUCCESS. -/
def transferStatusError : TransferStatus → Option LibusbError
  | .completed => none
  | .error => some .io
  | .timedOut => some .timeout
  | .cancelled => some .interrupted
  | .stall => some .pipe
  | .noDevice => some .noDevice
  | .overflow => some .overflow

/-- RingSize. -/
abbrev ringSize : Nat := 8

/-- What libusb_submit_transfer() answers. -/
abbrev SubmitAnswer : Type := Option LibusbError

/-- The failure of a completed transfer, if it is one: its own, or that of its submission. -/
def completionFailure (status : TransferStatus) (answer : SubmitAnswer) : Option LibusbError :=
  match status with
  | .completed => answer
  | .cancelled => none
  | failed => transferStatusError failed

/-- The transfer is submitted again. -/
def resubmits (stopping : Bool) (status : TransferStatus) (answer : SubmitAnswer) : Bool :=
  !stopping && decide (status = .completed) && answer.isNone

/-- The fields of BulkRing; `submitted` are those of its buffers. -/
structure BulkRing where
  submitted : Nat → Bool
  queue : List UInt8
  outstanding : Int
  stopping : Bool
  fatalError : Option LibusbError

namespace BulkRing

def init : BulkRing := ⟨fun _ => false, [], 0, false, none⟩

/-- `if (!_fatal_error) _fatal_error = code;`. -/
def fail (ring : BulkRing) (code : LibusbError) : BulkRing :=
  { ring with fatalError := some (ring.fatalError.getD code) }

/-- submit(), behind its call of libusb. -/
def submit (ring : BulkRing) (i : Nat) : SubmitAnswer → BulkRing
  | some code => { ring with submitted := Function.update ring.submitted i false }.fail code
  | none =>
    { ring with
      submitted := Function.update ring.submitted i true
      outstanding := ring.outstanding + 1 }

/-- handle_complete(), with what libusb answers when it submits again. -/
def handleComplete (ring : BulkRing) (i : Nat) (status : TransferStatus) (bytes : List UInt8)
    (answer : SubmitAnswer) : BulkRing :=
  let ring := { ring with
    submitted := Function.update ring.submitted i false
    outstanding := ring.outstanding - 1 }
  if ring.stopping then ring
  else match status with
    | .completed => { ring with queue := ring.queue ++ bytes }.submit i answer
    | .cancelled => ring
    | failed => ((transferStatusError failed).map ring.fail).getD ring

/-- The locked section of read(): what it throws or returns, if it has anything to. -/
def read (ring : BulkRing) (size : Nat) : BulkRing × Option (Except LibusbError (List UInt8)) :=
  match ring.fatalError with
  | some code => ({ ring with fatalError := none }, some (.error code))
  | none =>
    if ring.queue.isEmpty then (ring, none)
    else ({ ring with queue := ring.queue.drop size }, some (.ok (ring.queue.take size)))

/-- What a completion notes of a failure. -/
def noticed (stopping : Bool) (status : TransferStatus) (answer : SubmitAnswer) :
    Option LibusbError :=
  if stopping then none else completionFailure status answer

/-- The bytes a completion adds to the queue. -/
def kept (stopping : Bool) (status : TransferStatus) (bytes : List UInt8) : List UInt8 :=
  if stopping then [] else if status = .completed then bytes else []

variable {ring : BulkRing} {i : Nat} {status : TransferStatus} {bytes : List UInt8}
  {answer : SubmitAnswer}

/-- All that a completion does. -/
theorem handleComplete_eq : ring.handleComplete i status bytes answer =
    { ring with
      submitted := Function.update ring.submitted i (resubmits ring.stopping status answer)
      queue := ring.queue ++ kept ring.stopping status bytes
      outstanding := ring.outstanding - 1 + (resubmits ring.stopping status answer).toNat
      fatalError := ring.fatalError.or (noticed ring.stopping status answer) } := by
  cases stopping : ring.stopping with
  | true => simp [handleComplete, resubmits, kept, noticed, stopping]
  | false =>
    cases status with
    | completed =>
      cases answer <;> cases error : ring.fatalError <;>
        simp [handleComplete, resubmits, kept, noticed, stopping, submit, fail, completionFailure, error]
    | _ =>
      cases error : ring.fatalError <;>
        simp [handleComplete, resubmits, kept, noticed, stopping, fail, completionFailure,
          transferStatusError, error]

end BulkRing

/-- Where a ring stands between its constructor and the end of its destructor. -/
inductive RingPhase where
  /-- The constructor comes to buffer `i`. -/
  | making (i : Nat)
  /-- libusb has answered for buffer `i`, and submit() has not taken note yet. -/
  | submitting (i : Nat) (answer : SubmitAnswer)
  | working
  /-- The destructor has cancelled what was submitted, and waits. -/
  | closing
  | freed
  deriving DecidableEq, Repr

def RingPhase.isMaking : RingPhase → Bool
  | .making _ => true
  | _ => false

def RingPhase.isSubmitting : RingPhase → Bool
  | .submitting .. => true
  | _ => false

/-- The destructor has begun. -/
def RingPhase.ends : RingPhase → Bool
  | .closing | .freed => true
  | _ => false

/-- The buffers the constructor has still to submit. -/
def RingPhase.left : RingPhase → Nat
  | .making i => ringSize - i
  | .submitting i _ => ringSize - (i + 1)
  | _ => 0

/-- The buffer the constructor is at. -/
def RingPhase.slot : RingPhase → Option Nat
  | .making i | .submitting i _ => some i
  | _ => none

/-- A submission that submit() has not counted yet. -/
def RingPhase.uncounted : RingPhase → Nat
  | .submitting _ none => 1
  | _ => 0

/-- A refusal that submit() has not recorded yet. -/
def RingPhase.unrecorded : RingPhase → Nat
  | .submitting _ (some _) => 1
  | _ => 0

/-- The thread that handles the event of a completion: the one that makes, reads and frees the
ring, or another of the process. -/
inductive EventThread where
  | own | other
  deriving DecidableEq, Repr

/-- A ring with the transfers that libusb holds, and what has become of them: the bytes of those
that completed before the destructor, the bytes handed over, the codes thrown and all failures,
oldest first, and how many transfers have come back cancelled. `abandoned` are those the
destructor has cancelled, and `leaving` is a completion that has found the ring stopping and is
still inside handle_complete(). -/
structure RingRun where
  ring : BulkRing
  inFlight : Nat → Bool
  phase : RingPhase
  completed : List UInt8
  handed : List UInt8
  thrown : List LibusbError
  failures : List LibusbError
  cancelled : Nat
  abandoned : Nat → Bool
  leaving : Option EventThread

def RingRun.start : RingRun :=
  ⟨.init, fun _ => false, .making 0, [], [], [], [], 0, fun _ => false, none⟩

/-- Steps of the thread that makes, reads and frees the ring, and the completions that libusb
calls back from whichever thread handles events. -/
inductive RingAct where
  | submit (answer : SubmitAnswer)
  | note
  | complete (i : Nat) (status : TransferStatus) (bytes : List UInt8) (answer : SubmitAnswer)
    (thread : EventThread)
  /-- handle_complete() returns, where it has found the ring stopping. -/
  | leave
  | read (size : Nat)
  | close
  | free
  deriving DecidableEq, Repr

namespace RingRun

/-- libusb completes what it holds only, and a ring is used between its constructor and its
destructor. A completion holds the mutex for as long as it is inside; the destructor's wait reads
`_outstanding` without it, on a thread that has left its own completions. -/
def enabled (r : RingRun) : RingAct → Prop
  | .submit _ => r.phase.isMaking = true
  | .note => r.phase.isSubmitting = true
  | .complete i .. => i < ringSize ∧ r.inFlight i = true ∧ r.leaving = none
  | .leave => r.leaving ≠ none
  | .read _ | .close => r.phase = .working
  | .free => r.phase = .closing ∧ r.ring.outstanding ≤ 0 ∧ r.leaving ≠ some .own

instance (r : RingRun) : (act : RingAct) → Decidable (r.enabled act)
  | .submit _ => inferInstanceAs (Decidable (r.phase.isMaking = true))
  | .note => inferInstanceAs (Decidable (r.phase.isSubmitting = true))
  | .complete i .. =>
    inferInstanceAs (Decidable (i < ringSize ∧ r.inFlight i = true ∧ r.leaving = none))
  | .leave => inferInstanceAs (Decidable (r.leaving ≠ none))
  | .read _ | .close => inferInstanceAs (Decidable (r.phase = .working))
  | .free => inferInstanceAs
    (Decidable (r.phase = .closing ∧ r.ring.outstanding ≤ 0 ∧ r.leaving ≠ some .own))

/-- The constructor's libusb_submit_transfer(). -/
def submit (r : RingRun) (answer : SubmitAnswer) : RingRun :=
  match r.phase with
  | .making i =>
    { r with inFlight := Function.update r.inFlight i answer.isNone, phase := .submitting i answer }
  | _ => r

/-- The rest of the constructor's submit(). -/
def note (r : RingRun) : RingRun :=
  match r.phase with
  | .submitting i answer =>
    { r with
      ring := r.ring.submit i answer
      phase := if i + 1 < ringSize then .making (i + 1) else .working
      failures := r.failures ++ answer.toList }
  | _ => r

/-- on_complete(), to where handle_complete() unlocks. While the ring is stopping nothing that
comes is kept, and the destructor, which waits for `_outstanding` alone, can go on before the
completion has unlocked. -/
def complete (r : RingRun) (i : Nat) (status : TransferStatus) (bytes : List UInt8)
    (answer : SubmitAnswer) (thread : EventThread) : RingRun :=
  let r' := { r with
    ring := r.ring.handleComplete i status bytes answer
    inFlight := Function.update r.inFlight i (resubmits r.ring.stopping status answer) }
  if r.ring.stopping then { r' with leaving := some thread }
  else { r' with
    completed := r.completed ++ if status = .completed then bytes else []
    failures := r.failures ++ (completionFailure status answer).toList
    cancelled := r.cancelled + if status = .cancelled then 1 else 0 }

def read (r : RingRun) (size : Nat) : RingRun :=
  let taken := r.ring.read size
  { r with
    ring := taken.1
    handed := r.handed ++ match taken.2 with
      | some (.ok bytes) => bytes
      | _ => []
    thrown := r.thrown ++ match taken.2 with
      | some (.error code) => [code]
      | _ => [] }

/-- The locked section of the destructor. -/
def close (r : RingRun) : RingRun :=
  { r with
    ring := { r.ring with stopping := true }
    phase := .closing
    abandoned := r.ring.submitted }

def step (r : RingRun) : RingAct → RingRun
  | .submit answer => r.submit answer
  | .note => r.note
  | .complete i status bytes answer thread => r.complete i status bytes answer thread
  | .leave => { r with leaving := none }
  | .read size => r.read size
  | .close => r.close
  | .free => { r with phase := .freed }

/-- Rings reached by any interleaving. -/
def Reachable : RingRun → Prop := Lib.Reach step enabled .start

variable {r : RingRun}

/-- What the ring counts and marks of its transfers, against those that libusb holds. -/
structure Held (r : RingRun) : Prop where
  counted : r.ring.outstanding + r.phase.uncounted = count ringSize r.inFlight
  inside : ∀ i, r.phase.slot = some i → i < ringSize
  fresh : ∀ j < ringSize, ringSize ≤ j + r.phase.left → r.inFlight j = false
  refused : ∀ i code, r.phase = .submitting i (some code) → r.inFlight i = false
  stopping : r.ring.stopping = r.phase.ends
  marked : ∀ i < ringSize, r.inFlight i = true →
    r.ring.submitted i = true ∨ r.phase = .submitting i none
  abandoned : r.phase.ends = true → ∀ i < ringSize, r.inFlight i = true → r.abandoned i = true
  freed : r.phase = .freed → ∀ i < ringSize, r.inFlight i = false
  leaving : r.leaving ≠ none → r.phase.ends = true
  left : r.phase = .freed → r.leaving ≠ some .own

theorem held_start : Held .start := by
  have none_held : count ringSize RingRun.start.inFlight = 0 := by
    apply count_eq_zero.mpr
    intro j below
    rfl
  constructor
  · rw [none_held]
    rfl
  · intro i slot
    cases slot
    exact Nat.zero_lt_succ 7
  · intro j below left
    rfl
  · intro i code phase
    contradiction
  · rfl
  · intro i below held
    contradiction
  · intro ends
    contradiction
  · intro freed
    contradiction
  · intro inside
    contradiction
  · intro freed
    contradiction

/-- No completion is inside handle_complete() between the steps of a ring that is not stopping. -/
theorem Held.nobody (held : Held r) (goes : r.phase.ends = false) : r.leaving = none := by
  by_contra inside
  rw [held.leaving inside] at goes
  contradiction

theorem held_submit (held : Held r) (answer : SubmitAnswer) : Held (r.submit answer) := by
  cases phase : r.phase with
  | making i =>
    have below : i < ringSize := held.inside i (by simp [phase, RingPhase.slot])
    have free : r.inFlight i = false := by
      apply held.fresh i below
      simp only [phase, RingPhase.left]
      omega
    have before := held.counted
    have set := @count_update _ i r.inFlight below answer.isNone
    simp only [submit, phase]
    constructor
    · simp only [phase, RingPhase.uncounted] at before
      simp only [free, Bool.toNat_false] at set
      cases answer <;> simp [RingPhase.uncounted] at set ⊢ <;> omega
    · intro j slot
      cases slot
      exact below
    · intro j inside left
      have other : j ≠ i := by
        simp only [RingPhase.left] at left
        omega
      dsimp only
      rw [Function.update_of_ne other]
      apply held.fresh j inside
      simp only [phase, RingPhase.left] at left ⊢
      omega
    · intro j code submitting
      cases submitting
      simp
    · rw [held.stopping, phase]
      rfl
    · intro j inside holds
      by_cases same : j = i
      · subst j
        cases answer with
        | none => exact .inr rfl
        | some code => simp at holds
      · dsimp only at holds
        rw [Function.update_of_ne same] at holds
        rcases held.marked j inside holds with marked | submitting
        · exact .inl marked
        · rw [phase] at submitting
          contradiction
    · intro ends
      contradiction
    · intro freed
      contradiction
    · intro inside
      exact absurd (held.nobody (by rw [phase]; rfl)) inside
    · intro freed
      contradiction
  | _ => simpa [submit, phase] using held

theorem held_note (held : Held r) : Held r.note := by
  cases phase : r.phase with
  | submitting i answer =>
    have below : i < ringSize := held.inside i (by simp [phase, RingPhase.slot])
    have before := held.counted
    simp only [note, phase]
    generalize next : (if i + 1 < ringSize then RingPhase.making (i + 1) else .working) = after
    have slots : ∀ j, after.slot = some j → j < ringSize := by
      intro j slot
      split at next <;> subst next <;> cases slot
      assumption
    have left : after.left = ringSize - (i + 1) := by
      split at next <;> subst next
      · rfl
      · simp only [RingPhase.left]
        omega
    have shape : after.uncounted = 0 ∧ after.ends = false ∧ ∀ j a, after ≠ .submitting j a := by
      split at next <;> subst next <;> simp [RingPhase.uncounted, RingPhase.ends]
    obtain ⟨nothing, goes, noted⟩ := shape
    constructor
    · rw [nothing]
      rw [phase] at before
      cases answer with
      | none =>
        simp only [RingPhase.uncounted, BulkRing.submit] at before ⊢
        omega
      | some code => simpa [RingPhase.uncounted, BulkRing.submit, BulkRing.fail] using before
    · exact slots
    · intro j inside later
      apply held.fresh j inside
      rw [phase]
      rw [left] at later
      exact later
    · intro j code submitting
      exact absurd submitting (noted j _)
    · rw [goes]
      have same : (r.ring.submit i answer).stopping = r.ring.stopping := by cases answer <;> rfl
      rw [same, held.stopping, phase]
      rfl
    · intro j inside holds
      refine .inl ?_
      rcases held.marked j inside holds with marked | submitting
      · by_cases same : j = i
        · subst j
          cases answer with
          | none => simp [BulkRing.submit]
          | some code =>
            rw [held.refused i code phase] at holds
            contradiction
        · cases answer <;> simpa [BulkRing.submit, BulkRing.fail, same] using marked
      · rw [phase] at submitting
        cases submitting
        simp [BulkRing.submit]
    · intro ends
      rw [goes] at ends
      contradiction
    · intro freed
      subst freed
      contradiction
    · intro inside
      exact absurd (held.nobody (by rw [phase]; rfl)) inside
    · intro freed
      subst freed
      contradiction
  | _ => simpa [note, phase] using held

/-- All that a completion changes of what libusb holds and of what the ring counts and marks. -/
theorem complete_held {i : Nat} {status : TransferStatus} {bytes : List UInt8}
    {answer : SubmitAnswer} {thread : EventThread} :
    let after := r.complete i status bytes answer thread
    let again := resubmits r.ring.stopping status answer
    after.inFlight = Function.update r.inFlight i again ∧
      after.ring.submitted = Function.update r.ring.submitted i again ∧
      after.ring.outstanding = r.ring.outstanding - 1 + again.toNat ∧
      after.ring.stopping = r.ring.stopping ∧ after.phase = r.phase ∧
      after.abandoned = r.abandoned ∧
      after.leaving = if r.ring.stopping then some thread else r.leaving := by
  simp only [complete, BulkRing.handleComplete_eq]
  split <;> exact ⟨rfl, rfl, rfl, rfl, rfl, rfl, rfl⟩

theorem held_complete (held : Held r) {i : Nat} {status : TransferStatus} {bytes : List UInt8}
    {answer : SubmitAnswer} {thread : EventThread} (below : i < ringSize)
    (flying : r.inFlight i = true) : Held (r.complete i status bytes answer thread) := by
  obtain ⟨flight, marks, counts, stops, phase, left, leaves⟩ :=
    @complete_held r i status bytes answer thread
  have set := @count_update _ i r.inFlight below (resubmits r.ring.stopping status answer)
  have before := held.counted
  constructor
  · rw [counts, phase, flight]
    simp only [flying, Bool.toNat_true] at set
    omega
  · intro j slot
    rw [phase] at slot
    exact held.inside j slot
  · intro j inside later
    rw [phase] at later
    have empty := held.fresh j inside later
    have other : j ≠ i := by
      intro same
      rw [same, flying] at empty
      contradiction
    rwa [flight, Function.update_of_ne other]
  · intro j code submitting
    rw [phase] at submitting
    have empty := held.refused j code submitting
    have other : j ≠ i := by
      intro same
      rw [same, flying] at empty
      contradiction
    rwa [flight, Function.update_of_ne other]
  · rw [stops, phase]
    exact held.stopping
  · intro j inside holds
    rw [flight] at holds
    rw [marks, phase]
    by_cases same : j = i
    · subst j
      rw [Function.update_self] at holds ⊢
      exact .inl holds
    · rw [Function.update_of_ne same] at holds ⊢
      exact held.marked j inside holds
  · intro ends j inside holds
    rw [phase] at ends
    rw [flight] at holds
    rw [left]
    by_cases same : j = i
    · rw [same]
      exact held.abandoned ends i below flying
    · rw [Function.update_of_ne same] at holds
      exact held.abandoned ends j inside holds
  · intro freed
    rw [phase] at freed
    rw [held.freed freed i below] at flying
    contradiction
  · intro inside
    rw [leaves] at inside
    rw [phase]
    by_cases stopped : r.ring.stopping = true
    · rw [← held.stopping]
      exact stopped
    · rw [if_neg stopped] at inside
      exact held.leaving inside
  · intro freed
    rw [phase] at freed
    rw [held.freed freed i below] at flying
    contradiction

theorem held_leave (held : Held r) : Held { r with leaving := none } := by
  refine { held with leaving := ?_, left := ?_ }
  · intro inside
    exact absurd rfl inside
  · intro freed
    simp

theorem held_read (held : Held r) (size : Nat) : Held (r.read size) := by
  have same : (r.read size).ring.submitted = r.ring.submitted ∧
      (r.read size).ring.outstanding = r.ring.outstanding ∧
      (r.read size).ring.stopping = r.ring.stopping := by
    simp only [read, BulkRing.read]
    split
    · exact ⟨rfl, rfl, rfl⟩
    · split <;> exact ⟨rfl, rfl, rfl⟩
  obtain ⟨marks, counts, stops⟩ := same
  exact {
    counted := counts ▸ held.counted
    inside := held.inside
    fresh := held.fresh
    refused := held.refused
    stopping := stops ▸ held.stopping
    marked := marks ▸ held.marked
    abandoned := held.abandoned
    freed := held.freed
    leaving := held.leaving
    left := held.left }

theorem held_close (held : Held r) (working : r.phase = .working) : Held r.close := by
  have before := held.counted
  rw [working] at before
  constructor
  · exact before
  · intro i slot
    contradiction
  · intro j below later
    exact absurd later (Nat.not_le.mpr below)
  · intro i code submitting
    contradiction
  · rfl
  · intro i below holds
    rcases held.marked i below holds with marked | submitting
    · exact .inl marked
    · rw [working] at submitting
      contradiction
  · intro ends i below holds
    rcases held.marked i below holds with marked | submitting
    · exact marked
    · rw [working] at submitting
      contradiction
  · intro freed
    contradiction
  · intro inside
    rfl
  · intro freed
    contradiction

theorem held_free (held : Held r) (closing : r.phase = .closing) (gone : r.ring.outstanding ≤ 0)
    (away : r.leaving ≠ some .own) : Held { r with phase := .freed } := by
  have before := held.counted
  rw [closing] at before
  have none_held : ∀ i < ringSize, r.inFlight i = false := by
    apply count_eq_zero.mp
    simp only [RingPhase.uncounted] at before
    omega
  constructor
  · exact before
  · intro i slot
    contradiction
  · intro j below later
    exact none_held j below
  · intro i code submitting
    contradiction
  · have stops := held.stopping
    rw [closing] at stops
    exact stops
  · intro i below holds
    rw [none_held i below] at holds
    contradiction
  · intro ends i below holds
    rw [none_held i below] at holds
    contradiction
  · intro freed
    exact none_held
  · intro inside
    rfl
  · intro freed
    exact away

theorem Reachable.held (reached : Reachable r) : Held r := by
  apply Lib.Reach.invariant reached held_start
  intro u act inv allowed
  cases act with
  | submit answer => exact held_submit inv answer
  | note => exact held_note inv
  | complete i status bytes answer thread => exact held_complete inv allowed.1 allowed.2.1
  | leave => exact held_leave inv
  | read size => exact held_read inv size
  | close => exact held_close inv allowed
  | free => exact held_free inv allowed.1 allowed.2.1 allowed.2.2

/-- A step that is a completion of libusb. -/
def completes : RingAct → Bool
  | .complete .. => true
  | _ => false

theorem ends_step (ends : r.phase.ends = true) (act : RingAct) (allowed : r.enabled act) :
    (r.step act).phase.ends = true := by
  cases act with
  | submit answer =>
    cases phase : r.phase <;> simp [enabled, phase, RingPhase.isMaking, RingPhase.ends] at allowed ends
  | note =>
    cases phase : r.phase <;>
      simp [enabled, phase, RingPhase.isSubmitting, RingPhase.ends] at allowed ends
  | complete i status bytes answer thread =>
    obtain ⟨_, _, _, _, same, _⟩ := @complete_held r i status bytes answer thread
    rw [step, same]
    exact ends
  | leave => exact ends
  | read size =>
    rw [allowed] at ends
    contradiction
  | close => rfl
  | free => rfl

/-- Once the destructor has begun, each completion takes away one of what libusb holds, and
nothing else does. -/
theorem closing_step (reached : Reachable r) (ends : r.phase.ends = true) (act : RingAct)
    (allowed : r.enabled act) :
    (completes act).toNat + count ringSize (r.step act).inFlight = count ringSize r.inFlight := by
  cases act with
  | submit answer =>
    cases phase : r.phase <;> simp [enabled, phase, RingPhase.isMaking, RingPhase.ends] at allowed ends
  | note =>
    cases phase : r.phase <;>
      simp [enabled, phase, RingPhase.isSubmitting, RingPhase.ends] at allowed ends
  | complete i status bytes answer thread =>
    obtain ⟨below, flying, _⟩ := allowed
    have set := @count_update _ i r.inFlight below (resubmits r.ring.stopping status answer)
    have stops : r.ring.stopping = true := by
      rw [reached.held.stopping]
      exact ends
    obtain ⟨flight, _⟩ := @complete_held r i status bytes answer thread
    have never : resubmits r.ring.stopping status answer = false := by simp [resubmits, stops]
    simp only [never, flying, Bool.toNat_true, Bool.toNat_false] at set
    rw [step, flight, never, completes, Bool.toNat_true]
    omega
  | leave => exact Nat.zero_add _
  | read size =>
    rw [allowed] at ends
    contradiction
  | close => exact Nat.zero_add _
  | free => exact Nat.zero_add _

theorem closing_run (reached : Reachable r) (ends : r.phase.ends = true) (acts : List RingAct)
    (follows : Lib.Follows step enabled r acts) :
    acts.countP completes + count ringSize (acts.foldl step r).inFlight =
      count ringSize r.inFlight := by
  induction acts generalizing r with
  | nil => exact Nat.zero_add _
  | cons act acts ih =>
    obtain ⟨allowed, rest⟩ := follows
    have one := closing_step reached ends act allowed
    have more := ih (.tail act reached allowed) (ends_step ends act allowed) rest
    rw [List.countP_cons, List.foldl_cons]
    cases comes : completes act with
    | true =>
      rw [comes, Bool.toNat_true] at one
      rw [if_pos rfl]
      omega
    | false =>
      rw [comes, Bool.toNat_false] at one
      rw [if_neg (by simp)]
      omega

/-- No completion comes for a ring that is gone; one that has come before may still have to leave
it, on another thread than the destructor's. -/
theorem freed_ends (reached : Reachable r) (freed : r.phase = .freed) (act : RingAct)
    (allowed : r.enabled act) : act = .leave ∧ r.leaving = some .other := by
  cases act with
  | complete i status bytes answer thread =>
    obtain ⟨below, flying, _⟩ := allowed
    rw [reached.held.freed freed i below] at flying
    contradiction
  | leave =>
    refine ⟨rfl, ?_⟩
    cases leaving : r.leaving with
    | none => exact absurd leaving allowed
    | some thread =>
      cases thread with
      | own => exact absurd leaving (reached.held.left freed)
      | other => rfl
  | free =>
    rw [allowed.1] at freed
    contradiction
  | _ =>
    rw [enabled, freed] at allowed
    contradiction

/-- The wait of the destructor is over when libusb holds nothing, and its own thread is not
inside a completion. -/
theorem free_enabled (reached : Reachable r) (closing : r.phase = .closing) :
    r.enabled .free ↔ (∀ i < ringSize, r.inFlight i = false) ∧ r.leaving ≠ some .own := by
  have counted := reached.held.counted
  simp only [closing, RingPhase.uncounted] at counted
  have drained : r.ring.outstanding ≤ 0 ↔ ∀ i < ringSize, r.inFlight i = false := by
    rw [← count_eq_zero]
    omega
  simp only [enabled, closing, true_and, drained]

/-- What is left until a ring can be freed: the completions, and their ways out. -/
def closingLeft (r : RingRun) : Nat :=
  2 * count ringSize r.inFlight + r.leaving.isSome.toNat

/-- A destructor that waits can free the ring, or something gets closer to that. -/
theorem closing_closer (reached : Reachable r) (closing : r.phase = .closing) :
    ∃ act, r.enabled act ∧ ((r.step act).phase = .freed ∨
      (Reachable (r.step act) ∧ (r.step act).phase = .closing) ∧
        closingLeft (r.step act) < closingLeft r) := by
  have ends : r.phase.ends = true := by rw [closing]; rfl
  cases leaving : r.leaving with
  | some thread =>
    have allowed : r.enabled .leave := by
      rw [enabled, leaving]
      simp
    refine ⟨.leave, allowed, .inr ⟨⟨.tail _ reached allowed, closing⟩, ?_⟩⟩
    simp [closingLeft, step, leaving]
  | none =>
    by_cases gone : ∀ i < ringSize, r.inFlight i = false
    · have allowed : r.enabled .free := by
        apply (free_enabled reached closing).mpr
        exact ⟨gone, by simp [leaving]⟩
      exact ⟨.free, allowed, .inl rfl⟩
    · obtain ⟨i, below, flying⟩ : ∃ i < ringSize, r.inFlight i = true := by simpa using gone
      have allowed : r.enabled (.complete i .cancelled [] none .own) := ⟨below, flying, leaving⟩
      have fewer := closing_step reached ends _ allowed
      obtain ⟨_, _, _, _, same, _⟩ := @complete_held r i .cancelled [] none .own
      refine ⟨_, allowed, .inr ⟨⟨.tail _ reached allowed, ?_⟩, ?_⟩⟩
      · rw [step, same, closing]
      · have one := Bool.toNat_le (r.step (.complete i .cancelled [] none .own)).leaving.isSome
        simp only [completes, Bool.toNat_true] at fewer
        simp only [closingLeft]
        omega

/-- A ring whose third transfer libusb refuses, and whose second stalls later. -/
def ringUsed : List RingAct :=
  (List.range ringSize).flatMap (fun i => [.submit (if i = 2 then some .noMem else none), .note]) ++
    [.complete 0 .completed [1, 2] none .own, .complete 1 .stall [] none .other, .read 1, .read 4]

/-- The destructor frees no transfer that libusb still holds: it has cancelled each of them, and
its wait is over when the last has come back and the destructor's own thread has left it, after
as many completions as there were transfers. A freed ring gets no completion. What may still
touch it is the end of one completion that another thread is inside of: handle_complete() counts
it out before it reads `_stopping` and unlocks the mutex. -/
theorem teardown_safe (reached : Reachable r) :
    (r.phase = .freed →
        (∀ i < ringSize, r.inFlight i = false) ∧
        ∀ act, r.enabled act → act = .leave ∧ r.leaving = some .other) ∧
      (r.phase = .closing →
        (∀ i < ringSize, r.inFlight i = true → r.abandoned i = true) ∧
        (r.enabled .free ↔ (∀ i < ringSize, r.inFlight i = false) ∧ r.leaving ≠ some .own) ∧
        (∀ acts, Lib.Follows step enabled r acts →
          acts.countP completes + count ringSize (acts.foldl step r).inFlight =
            count ringSize r.inFlight) ∧
        ∃ after, Lib.Reach step enabled r after ∧ after.phase = .freed) := by
  constructor
  · intro freed
    exact ⟨reached.held.freed freed, freed_ends reached freed⟩
  · intro closing
    have ends : r.phase.ends = true := by rw [closing]; rfl
    refine ⟨reached.held.abandoned ends, free_enabled reached closing, closing_run reached ends, ?_⟩
    apply @Lib.Reach.eventually _ _ step enabled r
      (fun u => Reachable u ∧ u.phase = .closing) (fun u => u.phase = .freed) closingLeft
    · intro u waiting
      exact closing_closer waiting.1 waiting.2
    · exact ⟨reached, closing⟩

/-- Its destructor waits for the six transfers that are left. -/
theorem teardown_safe_used :
    let closed := (ringUsed ++ [RingAct.close]).foldl step start
    count ringSize closed.inFlight = 6 ∧
      ∃ after, Lib.Reach step enabled closed after ∧ after.phase = .freed :=
  ⟨by decide +kernel,
    ((teardown_safe (@Lib.Follows.reach _ _ _ _ _ (ringUsed ++ [RingAct.close]) (by decide +kernel))).2
      rfl).2.2.2⟩

/-- The six come back on another thread, and the last is inside when the ring is freed. -/
example :
    let back : List RingAct := [0, 3, 4, 5, 6].flatMap fun i =>
      [.complete i .cancelled [] none .other, .leave]
    let acts := ringUsed ++ .close :: back ++ [.complete 7 .cancelled [] none .other, .free]
    Lib.Follows step enabled start acts ∧ (acts.foldl step start).phase = .freed ∧
      (acts.foldl step start).leaving = some .other := by
  decide +kernel

/-- Where the bytes have gone, and what each of the eight transfers has come to. -/
structure Accounted (r : RingRun) : Prop where
  bytes : r.handed ++ r.ring.queue = r.completed
  transfers : r.phase.ends = false →
    count ringSize r.inFlight + r.failures.length + r.cancelled + r.phase.left +
      r.phase.unrecorded = ringSize
  failed : r.failures.length ≤ ringSize
  noticed : (r.thrown ++ r.ring.fatalError.toList).Sublist r.failures
  reported : r.thrown = [] → r.ring.fatalError = none → r.failures = []

theorem accounted_start : Accounted .start := by
  constructor
  · rfl
  · intro goes
    have none_held : count ringSize RingRun.start.inFlight = 0 := by
      apply count_eq_zero.mpr
      intro j below
      rfl
    rw [none_held]
    rfl
  · exact Nat.zero_le _
  · exact List.Sublist.refl _
  · intro threw pending
    rfl

/-- A failure is thrown, is waiting, or comes after one that waits. -/
theorem noticed_more {thrown failures : List LibusbError} {pending more : Option LibusbError}
    (noticed : (thrown ++ pending.toList).Sublist failures) :
    (thrown ++ (pending.or more).toList).Sublist (failures ++ more.toList) := by
  cases pending with
  | none => simpa using noticed.append (List.Sublist.refl more.toList)
  | some code => exact noticed.trans (List.sublist_append_left ..)

theorem reported_more {thrown failures : List LibusbError} {pending more : Option LibusbError}
    (reported : thrown = [] → pending = none → failures = []) (threw : thrown = [])
    (waits : pending.or more = none) : failures ++ more.toList = [] := by
  rw [Option.or_eq_none_iff] at waits
  rw [reported threw waits.1, waits.2]
  rfl

theorem accounted_submit (held : Held r) (acc : Accounted r) (answer : SubmitAnswer) :
    Accounted (r.submit answer) := by
  cases phase : r.phase with
  | making i =>
    have below : i < ringSize := held.inside i (by simp [phase, RingPhase.slot])
    have free : r.inFlight i = false := by
      apply held.fresh i below
      simp only [phase, RingPhase.left]
      omega
    have before := acc.transfers (by rw [phase]; rfl)
    have set := @count_update _ i r.inFlight below answer.isNone
    simp only [submit, phase]
    constructor
    · exact acc.bytes
    · intro goes
      simp only [phase, RingPhase.left, RingPhase.unrecorded] at before
      simp only [free, Bool.toNat_false] at set
      cases answer <;> simp [RingPhase.left, RingPhase.unrecorded] at set ⊢ <;> omega
    · exact acc.failed
    · exact acc.noticed
    · exact acc.reported
  | _ => simpa [submit, phase] using acc

theorem accounted_note (held : Held r) (acc : Accounted r) : Accounted r.note := by
  cases phase : r.phase with
  | submitting i answer =>
    have below : i < ringSize := held.inside i (by simp [phase, RingPhase.slot])
    have before := acc.transfers (by rw [phase]; rfl)
    have queue : (r.ring.submit i answer).queue = r.ring.queue := by cases answer <;> rfl
    have error : (r.ring.submit i answer).fatalError = r.ring.fatalError.or answer := by
      cases answer <;> cases waits : r.ring.fatalError <;>
        simp [BulkRing.submit, BulkRing.fail, waits]
    have total : count ringSize r.inFlight + (r.failures ++ answer.toList).length + r.cancelled +
        (ringSize - (i + 1)) = ringSize := by
      simp only [phase, RingPhase.left] at before
      cases answer <;> simp [RingPhase.unrecorded] at before ⊢ <;> omega
    simp only [note, phase]
    constructor
    · rw [queue]
      exact acc.bytes
    · intro goes
      dsimp only
      by_cases more : i + 1 < ringSize
      · rw [if_pos more]
        exact total
      · rw [if_neg more]
        have last : ringSize - (i + 1) = 0 := by omega
        rw [last] at total
        exact total
    · dsimp only
      omega
    · rw [error]
      exact noticed_more acc.noticed
    · rw [error]
      exact reported_more acc.reported
  | _ => simpa [note, phase] using acc

/-- A completion before the destructor leaves its transfer submitted, failed or cancelled. -/
theorem completion_outcome (status : TransferStatus) (answer : SubmitAnswer) :
    (resubmits false status answer).toNat + (completionFailure status answer).toList.length +
      (if status = .cancelled then 1 else 0) = 1 := by
  cases status <;> cases answer <;> rfl

theorem accounted_complete (held : Held r) (acc : Accounted r) {i : Nat} {status : TransferStatus}
    {bytes : List UInt8} {answer : SubmitAnswer} {thread : EventThread} (below : i < ringSize)
    (flying : r.inFlight i = true) : Accounted (r.complete i status bytes answer thread) := by
  simp only [complete, BulkRing.handleComplete_eq]
  cases stops : r.ring.stopping with
  | true =>
    simp only [if_true]
    constructor
    · simpa [BulkRing.kept] using acc.bytes
    · intro goes
      rw [← held.stopping, stops] at goes
      contradiction
    · exact acc.failed
    · simpa [BulkRing.noticed] using acc.noticed
    · simpa [BulkRing.noticed] using acc.reported
  | false =>
    have before := acc.transfers (held.stopping ▸ stops)
    have set := @count_update _ i r.inFlight below (resubmits false status answer)
    have outcome := completion_outcome status answer
    have total : count ringSize (Function.update r.inFlight i (resubmits false status answer)) +
        (r.failures ++ (completionFailure status answer).toList).length +
        (r.cancelled + if status = .cancelled then 1 else 0) + r.phase.left +
        r.phase.unrecorded = ringSize := by
      simp only [flying, Bool.toNat_true] at set
      rw [List.length_append]
      omega
    simp only [Bool.false_eq_true, if_false]
    constructor
    · dsimp only
      rw [← List.append_assoc, acc.bytes]
      rfl
    · intro goes
      exact total
    · dsimp only
      omega
    · exact noticed_more acc.noticed
    · exact reported_more acc.reported

theorem accounted_read (acc : Accounted r) (size : Nat) : Accounted (r.read size) := by
  simp only [read, BulkRing.read]
  cases waits : r.ring.fatalError with
  | some code =>
    constructor
    · simpa using acc.bytes
    · exact acc.transfers
    · exact acc.failed
    · have noticed := acc.noticed
      rw [waits] at noticed
      simpa using noticed
    · intro threw
      simp at threw
  | none =>
    dsimp only
    by_cases empty : r.ring.queue.isEmpty = true
    · rw [if_pos empty]
      constructor
      · simpa using acc.bytes
      · exact acc.transfers
      · exact acc.failed
      · simpa using acc.noticed
      · intro threw
        apply acc.reported
        simpa using threw
    · rw [if_neg empty]
      constructor
      · simpa using acc.bytes
      · exact acc.transfers
      · exact acc.failed
      · simpa [waits] using acc.noticed
      · intro threw pending
        apply acc.reported ?_ waits
        simpa using threw

theorem Reachable.accounted (reached : Reachable r) : Accounted r := by
  apply Lib.Reach.invariant_with reached (fun u known => Reachable.held known) accounted_start
  intro u act held acc allowed
  cases act with
  | submit answer => exact accounted_submit held acc answer
  | note => exact accounted_note held acc
  | complete i status bytes answer thread => exact accounted_complete held acc allowed.1 allowed.2.1
  | leave => exact ⟨acc.bytes, acc.transfers, acc.failed, acc.noticed, acc.reported⟩
  | read size => exact accounted_read acc size
  | close =>
    constructor
    · exact acc.bytes
    · intro goes
      contradiction
    · exact acc.failed
    · exact acc.noticed
    · exact acc.reported
  | free =>
    constructor
    · exact acc.bytes
    · intro goes
      contradiction
    · exact acc.failed
    · exact acc.noticed
    · exact acc.reported

/-- The ring hands over each byte of a completed transfer once and in order, with what its queue
holds still to come. What it throws are failures of its own transfers, in their order and at most one
for each transfer; it may drop a failure only behind another. So a ring in use that has none to
throw and has thrown none has lost no transfer to a failure. -/
theorem failures_accounted (reached : Reachable r) :
    r.handed ++ r.ring.queue = r.completed ∧
      (r.thrown ++ r.ring.fatalError.toList).Sublist r.failures ∧
      (r.thrown ++ r.ring.fatalError.toList).length ≤ ringSize ∧
      (r.thrown = [] → r.ring.fatalError = none → r.failures = []) ∧
      (r.phase = .working → r.thrown = [] → r.ring.fatalError = none →
        count ringSize r.inFlight + r.cancelled = ringSize) := by
  have acc := reached.accounted
  refine ⟨acc.bytes, acc.noticed, Nat.le_trans acc.noticed.length_le acc.failed, acc.reported, ?_⟩
  intro working threw pending
  have total := acc.transfers (by rw [working]; rfl)
  rw [acc.reported threw pending, working] at total
  simpa [RingPhase.left, RingPhase.unrecorded] using total

theorem read_idle (pending : r.ring.fatalError = none) (drained : r.ring.queue = []) (size : Nat) :
    r.read size = r := by
  simp [read, BulkRing.read, pending, drained]

theorem failures_accounted_refused :
    let used := ringUsed.foldl step start
    used.thrown = [.noMem] ∧ (used.thrown ++ used.ring.fatalError.toList).Sublist used.failures :=
  ⟨rfl, (failures_accounted (@Lib.Follows.reach _ _ _ _ _ ringUsed (by decide +kernel))).2.1⟩

/-- A ring that has lost its eight transfers, and has thrown what it had to throw and handed over
its queue, is like one whose device sends nothing: until its destructor, whatever is called on it
changes nothing, throws nothing and reads nothing. -/
theorem spent_ring_silent (reached : Reachable r) (working : r.phase = .working)
    (spent : r.failures.length + r.cancelled = ringSize) (pending : r.ring.fatalError = none)
    (drained : r.ring.queue = []) {after : RingRun} (later : Lib.Reach step enabled r after) :
    after = r ∨ after.phase.ends = true := by
  have total := reached.accounted.transfers (by rw [working]; rfl)
  have idle : ∀ i < ringSize, r.inFlight i = false := by
    apply count_eq_zero.mp
    omega
  apply Lib.Reach.invariant later (.inl rfl)
  intro u act so_far allowed
  rcases so_far with same | ends
  · subst same
    cases act with
    | complete i status bytes answer thread =>
      obtain ⟨below, flying, _⟩ := allowed
      rw [idle i below] at flying
      contradiction
    | read size => exact .inl (read_idle pending drained size)
    | close => exact .inr rfl
    | leave => exact absurd (reached.held.nobody (by rw [working]; rfl)) allowed
    | _ => simp [enabled, working, RingPhase.isMaking, RingPhase.isSubmitting] at allowed
  · exact .inr (ends_step ends act allowed)

/-- A ring whose device is unplugged. -/
def ringLost : List RingAct :=
  (List.range ringSize).flatMap (fun _ => [RingAct.submit none, .note]) ++
    (List.range ringSize).map (fun i => .complete i .noDevice [] none .own) ++ [.read 1]

theorem spent_ring_silent_lost :
    let lost := ringLost.foldl step start
    lost.thrown = [.noDevice] ∧
      (lost.step (RingAct.read 5) = lost ∨ (lost.step (RingAct.read 5)).phase.ends = true) :=
  ⟨rfl, spent_ring_silent (@Lib.Follows.reach _ _ _ _ _ ringLost (by decide +kernel)) rfl rfl rfl
    rfl (.tail (RingAct.read 5) .refl rfl)⟩

end RingRun

end ArduinoDriver
