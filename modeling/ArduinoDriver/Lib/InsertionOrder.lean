import Mathlib.Data.List.Sort

namespace ArduinoDriver.Lib

variable {α β : Type} [LinearOrder β] (r : α → α → Prop) (time : α → β)

/-- As far as inserting `a` goes, `r` knows who of `others` is newer. -/
structure Placed (a : α) (others : List α) : Prop where
  newer : ∀ b ∈ others, time a < time b → ¬ r a b
  older : ∀ b ∈ others, time b < time a → (∀ c ∈ others, time c < time a → time c ≤ time b) → r a b

variable {r time} {a b : α} {others others' sorted : List α}

theorem Placed.congr (same : ∀ b, b ∈ others ↔ b ∈ others') :
    Placed r time a others ↔ Placed r time a others' := by
  constructor
  · rintro ⟨newer, older⟩
    refine ⟨fun b inside => newer b ((same b).mpr inside), fun b inside before last => ?_⟩
    exact older b ((same b).mpr inside) before (fun c member => last c ((same c).mp member))
  · rintro ⟨newer, older⟩
    refine ⟨fun b inside => newer b ((same b).mp inside), fun b inside before last => ?_⟩
    exact older b ((same b).mp inside) before (fun c member => last c ((same c).mpr member))

/-- A newer element before the others is passed. -/
theorem Placed.cons_newer (first : time a < time b) :
    Placed r time a (b :: others) ↔ ¬ r a b ∧ Placed r time a others := by
  constructor
  · rintro ⟨newer, older⟩
    refine ⟨newer b List.mem_cons_self first, ?_, fun c inside before last => ?_⟩
    · exact fun c inside => newer c (List.mem_cons_of_mem _ inside)
    · refine older c (List.mem_cons_of_mem _ inside) before (fun c' member before' => ?_)
      rcases List.mem_cons.mp member with rfl | member
      · exact absurd before' (lt_asymm first)
      · exact last c' member before'
  · rintro ⟨passed, newer, older⟩
    refine ⟨fun c inside after => ?_, fun c inside before last => ?_⟩
    · rcases List.mem_cons.mp inside with rfl | inside
      · exact passed
      · exact newer c inside after
    · rcases List.mem_cons.mp inside with rfl | inside
      · exact absurd before (lt_asymm first)
      · exact older c inside before (fun c' member => last c' (List.mem_cons_of_mem _ member))

/-- Before an older element, the newest of all, the insertion stops. -/
theorem Placed.cons_older (first : time b < time a) (newest : ∀ c ∈ others, time c < time b) :
    Placed r time a (b :: others) ↔ r a b := by
  have last : ∀ c ∈ b :: others, time c ≤ time b := by
    intro c inside
    rcases List.mem_cons.mp inside with rfl | inside
    · exact le_refl _
    · exact (newest c inside).le
  constructor
  · intro placed
    exact placed.older b List.mem_cons_self first (fun c inside _ => last c inside)
  · intro stops
    refine ⟨fun c inside after => ?_, fun c inside before newest' => ?_⟩
    · exact absurd (after.trans_le (last c inside)) (lt_asymm first)
    · rcases List.mem_cons.mp inside with rfl | inside
      · exact stops
      · exact absurd (newest' b List.mem_cons_self first) (not_le.mpr (newest c inside))

variable [DecidableRel r]

/-- An insertion into a list with the newest first keeps it so exactly when `r` places the
element. -/
theorem orderedInsert_newest_iff (apart : ∀ b ∈ sorted, time b ≠ time a)
    (newest : sorted.Pairwise fun b c => time c < time b) :
    (sorted.orderedInsert r a).Pairwise (fun b c => time c < time b) ↔ Placed r time a sorted := by
  induction sorted with
  | nil =>
    refine iff_of_true (List.pairwise_singleton ..) ⟨?_, ?_⟩
    · exact fun b inside => absurd inside List.not_mem_nil
    · exact fun b inside => absurd inside List.not_mem_nil
  | cons b sorted ih =>
    obtain ⟨first, newest'⟩ := List.pairwise_cons.mp newest
    have rest := ih (fun c inside => apart c (List.mem_cons_of_mem _ inside)) newest'
    rw [List.orderedInsert_cons]
    rcases lt_or_gt_of_ne (apart b List.mem_cons_self) with before | after
    · rw [Placed.cons_older before first]
      by_cases stops : r a b
      · rw [if_pos stops]
        refine iff_of_true (List.pairwise_cons.mpr ⟨fun c inside => ?_, newest⟩) stops
        rcases List.mem_cons.mp inside with rfl | inside
        · exact before
        · exact (first c inside).trans before
      · rw [if_neg stops]
        refine iff_of_false (fun ordered => ?_) stops
        have later := (List.pairwise_cons.mp ordered).1 a ((List.mem_orderedInsert r).mpr (.inl rfl))
        exact lt_asymm later before
    · rw [Placed.cons_newer after, ← rest]
      by_cases stops : r a b
      · rw [if_pos stops]
        refine iff_of_false (fun ordered => ?_) (fun both => both.1 stops)
        exact lt_asymm after ((List.pairwise_cons.mp ordered).1 b List.mem_cons_self)
      · rw [if_neg stops, List.pairwise_cons]
        refine and_congr_left (fun _ => iff_of_true (fun c inside => ?_) stops)
        rcases (List.mem_orderedInsert r).mp inside with rfl | inside
        · exact after
        · exact first c inside

/-- An insertion sort puts the newest first exactly when every insertion does. -/
theorem insertionSort_newest_iff {l : List α} (apart : l.Pairwise fun b c => time c ≠ time b) :
    (l.insertionSort r).Pairwise (fun b c => time c < time b) ↔
      ∀ a others, a :: others <:+ l → Placed r time a others := by
  induction l with
  | nil =>
    refine iff_of_true List.Pairwise.nil (fun a others inside => ?_)
    exact absurd (List.suffix_nil.mp inside) (List.cons_ne_nil a others)
  | cons b l ih =>
    obtain ⟨first, apart'⟩ := List.pairwise_cons.mp apart
    have members : ∀ c, c ∈ l.insertionSort r ↔ c ∈ l := fun c => (List.perm_insertionSort r l).mem_iff
    have here : (l.insertionSort r).Pairwise (fun b c => time c < time b) →
        (((b :: l).insertionSort r).Pairwise (fun b c => time c < time b) ↔ Placed r time b l) := by
      intro newest
      rw [← Placed.congr members]
      exact orderedInsert_newest_iff (fun c inside => first c ((members c).mp inside)) newest
    constructor
    · intro ordered a others inside
      have newest := ordered.sublist (List.sublist_orderedInsert b (l.insertionSort r))
      rcases List.suffix_cons_iff.mp inside with whole | inside
      · obtain ⟨rfl, rfl⟩ := List.cons.inj whole
        exact (here newest).mp ordered
      · exact (ih apart').mp newest a others inside
    · intro placed
      have newest := (ih apart').mpr (fun a others inside =>
        placed a others (inside.trans (List.suffix_cons b l)))
      exact (here newest).mpr (placed b l (List.suffix_refl _))

end ArduinoDriver.Lib
