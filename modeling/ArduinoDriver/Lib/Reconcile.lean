import Mathlib.Data.List.Nodup
import Mathlib.Data.List.Perm.Subperm

namespace ArduinoDriver.Lib

variable {α : Type} [DecidableEq α]

/-- Appends what is not there yet. -/
def addLast (l : List α) (a : α) : List α := if a ∈ l then l else l ++ [a]

/-- `wanted`, with what `old` already held in front, in the order of `old`. -/
def keptFirst (old wanted : List α) : List α :=
  old.filter (· ∈ wanted) ++ wanted.filter (· ∉ old)

/-- A list on its way from `old` to `wanted`: some unwanted elements are gone, and
those of `added` it lacked have joined. -/
def Reconciling (wanted old added l : List α) : Prop :=
  ∃ keep : α → Bool, (∀ a ∈ wanted, keep a) ∧ l = old.filter keep ++ added.filter (· ∉ old)

variable {wanted old added l : List α} {a : α}

/-- The order comes out as wanted exactly when the old elements were a beginning of it. -/
theorem keptFirst_eq_iff (distinct : wanted.Nodup) :
    keptFirst old wanted = wanted ↔ old.filter (· ∈ wanted) <+: wanted := by
  constructor
  · exact fun same => ⟨_, same⟩
  · rintro ⟨rest, eq⟩
    have late : ∀ a ∈ rest, a ∉ old := by
      intro a inside before
      rw [← eq, List.nodup_append] at distinct
      have wanted_a : a ∈ wanted := eq ▸ List.mem_append_right _ inside
      exact distinct.2.2 a (List.mem_filter.mpr ⟨before, by simpa using wanted_a⟩) a inside rfl
    have first : ∀ a ∈ old.filter (· ∈ wanted), a ∈ old := fun a inside =>
      (List.mem_filter.mp inside).1
    have added : wanted.filter (· ∉ old) = rest := by
      rw [← eq, List.filter_append, List.filter_eq_nil_iff.mpr (by simpa using first),
        List.filter_eq_self.mpr (by simpa using late), List.nil_append]
    rw [keptFirst, added, eq]

theorem Reconciling.start : Reconciling wanted old [] old :=
  ⟨fun _ => true, by simp, by simp⟩

theorem Reconciling.mem_iff (h : Reconciling wanted old added l) (asked : a ∈ wanted) :
    a ∈ l ↔ a ∈ old ∨ a ∈ added := by
  obtain ⟨keep, keeps, rfl⟩ := h
  simp only [List.mem_append, List.mem_filter, keeps a asked, and_true, decide_eq_true_eq]
  tauto

/-- An unwanted element leaves. -/
theorem Reconciling.remove (h : Reconciling wanted old added l) (known : ∀ b ∈ added, b ∈ wanted)
    (unwanted : a ∉ wanted) : Reconciling wanted old added (l.filter (· ≠ a)) := by
  obtain ⟨keep, keeps, rfl⟩ := h
  refine ⟨fun b => keep b && decide (b ≠ a), ?_, ?_⟩
  · intro b asked
    have other : b ≠ a := by
      rintro rfl
      exact unwanted asked
    simp [keeps b asked, other]
  · have stay : (added.filter (· ∉ old)).filter (· ≠ a) = added.filter (· ∉ old) := by
      rw [List.filter_eq_self]
      intro b inside
      have asked := known b (List.mem_filter.mp inside).1
      have other : b ≠ a := by
        rintro rfl
        exact unwanted asked
      simpa using other
    rw [List.filter_append, List.filter_filter, stay]
    congr 2
    funext b
    rw [Bool.and_comm]

/-- The next wanted element joins, or was there all along. -/
theorem Reconciling.add (h : Reconciling wanted old added l) (asked : a ∈ wanted)
    (new : a ∉ added) : Reconciling wanted old (added ++ [a]) (addLast l a) := by
  have there := h.mem_iff asked
  obtain ⟨keep, keeps, rfl⟩ := h
  refine ⟨keep, keeps, ?_⟩
  unfold addLast
  by_cases before : a ∈ old
  · rw [if_pos (there.mpr (.inl before)), List.filter_append]
    simp [before]
  · rw [if_neg (fun inside => (there.mp inside).elim before new), List.filter_append]
    simp [before]

theorem Reconciling.nodup (h : Reconciling wanted old added l) (distinct : old.Nodup)
    (fresh : added.Nodup) : l.Nodup := by
  obtain ⟨keep, _, rfl⟩ := h
  refine List.nodup_append.mpr ⟨distinct.filter _, fresh.filter _, ?_⟩
  intro a before b after same
  subst b
  have absent := (List.mem_filter.mp after).2
  exact absurd (List.mem_filter.mp before).1 (by simpa using absent)

/-- With everything added and nothing too many, the order is settled. -/
theorem Reconciling.finish (h : Reconciling wanted old wanted l) (asked : wanted.Nodup)
    (count : l.length = wanted.length) : l = keptFirst old wanted := by
  have inside : wanted ⊆ l := fun a mem => (h.mem_iff mem).mpr (.inr mem)
  have exact_ : l ⊆ wanted :=
    ((asked.subperm inside).perm_of_length_le (Nat.le_of_eq count)).symm.subset
  obtain ⟨keep, keeps, rfl⟩ := h
  unfold keptFirst
  congr 1
  apply List.filter_congr
  intro a before
  have only : keep a = true → a ∈ wanted := fun kept =>
    exact_ (List.mem_append_left _ (List.mem_filter.mpr ⟨before, kept⟩))
  rw [Bool.eq_iff_iff, decide_eq_true_eq]
  exact ⟨only, keeps a⟩

end ArduinoDriver.Lib
