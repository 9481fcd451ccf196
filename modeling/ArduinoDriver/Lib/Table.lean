import Mathlib.Data.List.Basic
import Mathlib.Data.List.Count
import Mathlib.Logic.Function.Basic

namespace ArduinoDriver.Lib.Table

/-- How many of the first `n` slots satisfy `p`. -/
def count (n : Nat) (p : Nat → Bool) : Nat := (List.range n).countP p

/-- The first of `n` slots that satisfies `p`. -/
def find (n : Nat) (p : Nat → Bool) : Option Nat := (List.range n).find? p

variable {n i : Nat} {p q : Nat → Bool}

theorem count_congr (same : ∀ j < n, p j = q j) : count n p = count n q := by
  apply List.countP_congr
  intro j inside
  rw [same j (List.mem_range.mp inside)]

theorem count_le : count n p ≤ n := by
  have := @List.countP_le_length _ p (List.range n)
  rwa [List.length_range] at this

@[simp] theorem count_zero : count 0 p = 0 := rfl

theorem count_succ : count (n + 1) p = count n p + if p n then 1 else 0 := by
  simp [count, List.range_succ, List.countP_append, List.countP_singleton]

/-- Switching one slot on adds one. -/
theorem count_switch (inside : i < n) (same : ∀ j, j ≠ i → p j = q j) (off : p i = false)
    (on : q i = true) : count n q = count n p + 1 := by
  induction n with
  | zero => omega
  | succ n ih =>
    rw [count_succ, count_succ]
    by_cases last : i = n
    · subst i
      have rest : count n q = count n p := count_congr (fun j below => (same j (by omega)).symm)
      simp [rest, on, off]
    · rw [ih (by omega), same n (by omega)]
      omega

theorem count_eq_zero : count n p = 0 ↔ ∀ j < n, p j = false := by
  simp [count, List.countP_eq_zero]

/-- One slot is set. -/
theorem count_update (inside : i < n) (b : Bool) :
    count n (Function.update p i b) + (p i).toNat = count n p + b.toNat := by
  have others : ∀ (c : Bool) (j : Nat), j ≠ i → p j = Function.update p i c j := by
    intro c j other
    exact (Function.update_of_ne other ..).symm
  cases was : p i with
  | false =>
    cases b with
    | false =>
      rw [← was, Function.update_eq_self]
    | true => simp [count_switch inside (others true) was (Function.update_self ..)]
  | true =>
    cases b with
    | false =>
      have freed : count n p = count n (Function.update p i false) + 1 := by
        apply count_switch inside ?_ (Function.update_self ..) was
        intro j other
        exact (others false j other).symm
      simp [freed]
    | true =>
      rw [← was, Function.update_eq_self]

theorem find_eq_some (h : find n p = some i) : i < n ∧ p i = true :=
  ⟨List.mem_range.mp (List.mem_of_find?_eq_some h), List.find?_some h⟩

theorem find_eq_none : find n p = none ↔ ∀ j < n, p j = false := by
  simp [find, List.find?_eq_none]

theorem find_congr (same : ∀ j < n, p j = q j) : find n p = find n q := by
  unfold find
  induction n with
  | zero => rfl
  | succ n ih =>
    rw [List.range_succ, List.find?_append, List.find?_append,
      ih (fun j below => same j (by omega)), List.find?_singleton, List.find?_singleton,
      same n (Nat.lt_succ_self n)]

/-- A slot that satisfies `p` is the one found, when no other does. -/
theorem find_unique (inside : i < n) (holds : p i = true)
    (unique : ∀ j < n, p j = true → j = i) : find n p = some i := by
  cases found : find n p with
  | none =>
    rw [find_eq_none] at found
    rw [found i inside] at holds
    contradiction
  | some j =>
    obtain ⟨below, fits⟩ := find_eq_some found
    rw [unique j below fits]

/-- A table that is not full has a slot left. -/
theorem find_free (room : count n p < n) : ∃ i < n, find n (fun j => !p j) = some i ∧ p i = false := by
  cases found : find n (fun j => !p j) with
  | none =>
    rw [find_eq_none] at found
    have full : count n p = (List.range n).length := by
      apply List.countP_eq_length.mpr
      intro j inside
      simpa using found j (List.mem_range.mp inside)
    rw [List.length_range] at full
    omega
  | some i =>
    obtain ⟨below, free⟩ := find_eq_some found
    exact ⟨i, below, rfl, by simpa using free⟩

end ArduinoDriver.Lib.Table
