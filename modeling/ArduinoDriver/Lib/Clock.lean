import Mathlib.Data.Nat.Basic

namespace ArduinoDriver.Lib.Clock

/-- A fine clock shows the time modulo `wrap`; `low` in the turn that `coarse` is in. -/
def sameTurn (wrap coarse low : Nat) : Nat := coarse / wrap * wrap + low

/-- The candidate is over half a turn past the estimate, so a whole turn is taken back. -/
def ahead (wrap coarse low : Nat) : Bool := coarse + wrap / 2 < sameTurn wrap coarse low

def behind (wrap coarse low : Nat) : Bool := sameTurn wrap coarse low + wrap / 2 < coarse

/-- The time that reads `low` on the fine clock in the turn nearest to `coarse`. -/
def resolve (wrap coarse low : Nat) : Nat :=
  if ahead wrap coarse low then sameTurn wrap coarse low - wrap
  else if behind wrap coarse low then sameTurn wrap coarse low + wrap
  else sameTurn wrap coarse low

section

variable {wrap coarse time : Nat}

/-- An estimate less than half a turn off is in the same turn or in a neighbouring one. -/
theorem turns (near : coarse < time + wrap / 2) (near' : time < coarse + wrap / 2) :
    sameTurn wrap coarse (time % wrap) = time ∨
      sameTurn wrap coarse (time % wrap) + wrap = time ∨
      sameTurn wrap coarse (time % wrap) = time + wrap := by
  have split := Nat.div_add_mod' time wrap
  have split' := Nat.div_add_mod' coarse wrap
  have positive : 0 < wrap := by omega
  have low := Nat.mod_lt time positive
  have low' := Nat.mod_lt coarse positive
  have above : coarse / wrap ≤ time / wrap + 1 := by
    by_contra far
    have := Nat.mul_le_mul_right wrap (show time / wrap + 2 ≤ coarse / wrap by omega)
    rw [Nat.add_mul] at this
    omega
  have below : time / wrap ≤ coarse / wrap + 1 := by
    by_contra far
    have := Nat.mul_le_mul_right wrap (show coarse / wrap + 2 ≤ time / wrap by omega)
    rw [Nat.add_mul] at this
    omega
  unfold sameTurn
  rcases (by omega : coarse / wrap = time / wrap ∨ coarse / wrap + 1 = time / wrap ∨
    coarse / wrap = time / wrap + 1) with same | next | last
  · rw [same]
    exact .inl split
  · rw [← next, Nat.add_mul] at split
    omega
  · rw [last, Nat.add_mul]
    omega

/-- A turn is taken back only from a candidate that has one. -/
theorem wrap_le_of_ahead (near : coarse < time + wrap / 2) (near' : time < coarse + wrap / 2)
    (past : ahead wrap coarse (time % wrap) = true) :
    wrap ≤ sameTurn wrap coarse (time % wrap) := by
  have past := of_decide_eq_true past
  rcases turns near near' with same | next | last <;> omega

theorem resolve_mod (near : coarse < time + wrap / 2) (near' : time < coarse + wrap / 2) :
    resolve wrap coarse (time % wrap) = time := by
  unfold resolve
  simp only [ahead, behind, decide_eq_true_eq]
  rcases turns near near' with same | next | last
  · rw [if_neg (by omega), if_neg (by omega), same]
  · rw [if_neg (by omega), if_pos (by omega), next]
  · rw [if_pos (by omega), last, Nat.add_sub_cancel]

end

end ArduinoDriver.Lib.Clock
