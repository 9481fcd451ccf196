import Mathlib.Data.List.Rotate

namespace ArduinoDriver.Lib.Rotation

/-- The members of a set of places below `n`, in the order a cursor at `c` meets them. -/
def cycle (n : Nat) (p : Nat → Bool) (c : Nat) : List Nat := ((List.range n).rotate c).filter p

/-- Those of them that a scan meets in the `n - i` places it has left. -/
def ahead (n : Nat) (p : Nat → Bool) (c i : Nat) : List Nat :=
  (((List.range n).rotate c).take (n - i)).filter p

variable {n c i : Nat} {p : Nat → Bool} {α : Type} {l : List α}

theorem cycle_perm (n : Nat) (p : Nat → Bool) (c : Nat) :
    (cycle n p c).Perm ((List.range n).filter p) :=
  ((List.range n).rotate_perm c).filter p

theorem ahead_start (n : Nat) (p : Nat → Bool) (c : Nat) : ahead n p c 0 = cycle n p c := by
  unfold ahead cycle
  rw [Nat.sub_zero, List.take_of_length_le]
  rw [List.length_rotate, List.length_range]

theorem ahead_end (n : Nat) (p : Nat → Bool) (c : Nat) : ahead n p c n = [] := by
  unfold ahead
  rw [Nat.sub_self]
  rfl

/-- The place under the cursor comes first, and last once the cursor has moved on. -/
theorem rotate_cursor (inside : c < n) : ∃ rest, (List.range n).rotate c = c :: rest ∧
    (List.range n).rotate ((c + 1) % n) = rest ++ [c] ∧ rest.length + 1 = n := by
  have size : ((List.range n).rotate c).length = n := by
    rw [List.length_rotate, List.length_range]
  have first : ((List.range n).rotate c).head? = some c := by
    rw [List.head?_rotate (by rwa [List.length_range]), List.getElem?_range inside]
  obtain ⟨rest, split⟩ := List.head?_eq_some_iff.mp first
  refine ⟨rest, split, ?_, ?_⟩
  · have wrapped := List.rotate_mod (List.range n) (c + 1)
    rw [List.length_range] at wrapped
    rw [wrapped, ← List.rotate_rotate, split, List.rotate_cons_succ, List.rotate_zero]
  · rw [split] at size
    exact size

/-- A place that is not a member is passed over. -/
theorem cycle_skip (inside : c < n) (other : p c = false) : cycle n p ((c + 1) % n) = cycle n p c := by
  obtain ⟨rest, here, next, _⟩ := rotate_cursor inside
  have passed : ∀ l, (c :: l).filter p = l.filter p := fun l => List.filter_cons_of_neg (by simp [other])
  unfold cycle
  rw [here, next, List.filter_append, passed, passed]
  exact List.append_nil _

theorem ahead_skip (inside : c < n) (left : i < n) (other : p c = false) :
    ahead n p ((c + 1) % n) (i + 1) = ahead n p c i := by
  obtain ⟨rest, here, next, size⟩ := rotate_cursor inside
  have fewer : n - i = n - (i + 1) + 1 := by omega
  unfold ahead
  rw [here, next, fewer, List.take_succ_cons, List.filter_cons, other,
    List.take_append_of_le_length (by omega)]
  rfl

/-- A member is taken, and waits behind the others. -/
theorem cycle_take (inside : c < n) (member : p c = true) : ∃ rest, cycle n p c = c :: rest ∧
    cycle n p ((c + 1) % n) = rest ++ [c] := by
  obtain ⟨rest, here, next, _⟩ := rotate_cursor inside
  refine ⟨rest.filter p, ?_, ?_⟩
  · unfold cycle
    rw [here, List.filter_cons, if_pos member]
  · unfold cycle
    rw [next, List.filter_append, List.filter_singleton, member]
    rfl

/-- Who has the turn number `i` when all take turns. -/
def turn (l : List α) (i : Nat) : Option α := l[i % l.length]?

/-- The turns taken so far and the order of those to come. -/
theorem turn_next {a : α} {rest : List α} {i : Nat} (order : l.rotate i = a :: rest) :
    turn l i = some a ∧ l.rotate (i + 1) = rest ++ [a] := by
  have some_ : 0 < l.length := by
    rw [← List.length_rotate l i, order]
    exact Nat.succ_pos _
  constructor
  · have first := List.head?_rotate (l := l) (Nat.mod_lt i some_)
    rw [List.rotate_mod, order] at first
    exact first.symm
  · rw [← List.rotate_rotate, order, List.rotate_cons_succ, List.rotate_zero]

/-- In as many turns in a row as there are members each has one. -/
theorem turns_perm (l : List α) (a : Nat) :
    ((List.range l.length).map fun i => turn l (a + i)).Perm (l.map some) := by
  have turns : (List.range l.length).map (fun i => turn l (a + i)) = (l.rotate a).map some := by
    apply List.ext_getElem
    · rw [List.length_map, List.length_range, List.length_map, List.length_rotate]
    · intro i inside _
      rw [List.length_map, List.length_range] at inside
      rw [List.getElem_map, List.getElem_map, List.getElem_range, List.getElem_rotate]
      unfold turn
      rw [Nat.add_comm a i]
      exact List.getElem?_eq_getElem _
  rw [turns]
  exact (l.rotate_perm a).map some

end ArduinoDriver.Lib.Rotation
