import Mathlib.Data.List.Basic
import Mathlib.Data.Nat.ModEq
import Mathlib.Logic.Function.Basic

namespace ArduinoDriver.Lib.Ring

/-- Slot of an 8-bit index that is never reduced, in a ring of `depth` slots. -/
def slot (depth : Nat) (index : UInt8) : Nat := index.toNat % depth

/-- What a ring holds, oldest first, between two free-running indices. -/
def contents {α : Type} (depth : Nat) (cells : Nat → α) (tail head : UInt8) : List α :=
  (List.range (head - tail).toNat).map (fun k => cells (slot depth (tail + UInt8.ofNat k)))

variable {α : Type} {depth : Nat} {cells : Nat → α} {tail head : UInt8}

@[simp] theorem contents_length :
    (contents depth cells tail head).length = (head - tail).toNat := by
  simp [contents]

@[simp] theorem contents_self : contents depth cells head head = [] := by
  simp [contents]

theorem count_pos (h : tail ≠ head) : 0 < (head - tail).toNat := by
  have : (head - tail).toNat ≠ 0 := by
    intro zero
    apply h
    have := tail.toNat_lt
    have := head.toNat_lt
    apply UInt8.toNat_inj.mp
    simp only [UInt8.toNat_sub] at zero
    omega
  omega

theorem contents_eq_nil : contents depth cells tail head = [] ↔ tail = head := by
  constructor
  · intro empty
    by_contra distinct
    have := count_pos distinct
    have := congrArg List.length empty
    simp only [contents_length, List.length_nil] at this
    omega
  · rintro rfl
    exact contents_self

/-- One more entry below `head`. -/
theorem count_head (h : (head - tail).toNat < 255) :
    (head + 1 - tail).toNat = (head - tail).toNat + 1 := by
  have := tail.toNat_lt
  have := head.toNat_lt
  simp only [UInt8.toNat_sub, UInt8.toNat_add, UInt8.toNat_one] at *
  omega

/-- One entry fewer above `tail`. -/
theorem count_tail (h : tail ≠ head) : (head - (tail + 1)).toNat + 1 = (head - tail).toNat := by
  have := count_pos h
  have := tail.toNat_lt
  have := head.toNat_lt
  simp only [UInt8.toNat_sub, UInt8.toNat_add, UInt8.toNat_one] at *
  omega

/-- The index one past the newest entry. -/
@[simp] theorem add_count : tail + UInt8.ofNat (head - tail).toNat = head := by
  rw [UInt8.ofNat_toNat]
  apply UInt8.toNat_inj.mp
  have := tail.toNat_lt
  have := head.toNat_lt
  simp only [UInt8.toNat_add, UInt8.toNat_sub]
  omega

theorem slot_add (divides : depth ∣ 256) (tail : UInt8) {k : Nat} (small : k < 256) :
    slot depth (tail + UInt8.ofNat k) = (tail.toNat + k) % depth := by
  obtain ⟨laps, laps_eq⟩ := divides
  simp only [slot, UInt8.toNat_add, UInt8.toNat_ofNat', Nat.reducePow, Nat.mod_eq_of_lt small]
  rw [laps_eq, Nat.mod_mul_right_mod]

/-- Distinct entries of a ring that is not overfull have distinct slots. -/
theorem slot_ne (divides : depth ∣ 256) (room : (head - tail).toNat < depth) {k : Nat}
    (below : k < (head - tail).toNat) : slot depth (tail + UInt8.ofNat k) ≠ slot depth head := by
  have count_lt := (head - tail).toNat_lt
  intro same
  rw [slot_add divides tail (by omega)] at same
  have head_eq := slot_add divides tail count_lt
  rw [add_count] at head_eq
  have congruent : tail.toNat + k ≡ tail.toNat + (head - tail).toNat [MOD depth] :=
    same.trans head_eq
  have := Nat.ModEq.add_left_cancel' _ congruent
  rw [Nat.ModEq, Nat.mod_eq_of_lt (below.trans room), Nat.mod_eq_of_lt room] at this
  omega

theorem contents_push (divides : depth ∣ 256) (small : depth < 256)
    (room : (head - tail).toNat < depth) (x : α) :
    contents depth (Function.update cells (slot depth head) x) tail (head + 1) =
      contents depth cells tail head ++ [x] := by
  rw [contents, count_head (by omega), List.range_succ, List.map_append]
  congr 1
  · apply List.map_congr_left
    intro k below
    rw [List.mem_range] at below
    exact Function.update_of_ne (slot_ne divides room below) _ _
  · simp only [List.map_cons, List.map_nil, add_count, Function.update_self]

/-- A write to the slot at `head` is not seen until `head` moves. -/
theorem contents_fill (divides : depth ∣ 256) (room : (head - tail).toNat < depth) (x : α) :
    contents depth (Function.update cells (slot depth head) x) tail head =
      contents depth cells tail head := by
  apply List.map_congr_left
  intro k below
  rw [List.mem_range] at below
  exact Function.update_of_ne (slot_ne divides room below) _ _

theorem contents_pop (h : tail ≠ head) :
    contents depth cells tail head =
      cells (slot depth tail) :: contents depth cells (tail + 1) head := by
  rw [contents, ← count_tail h, List.range_succ_eq_map, List.map_cons, List.map_map]
  congr 1
  · simp
  · apply List.map_congr_left
    intro k _
    simp only [Function.comp_apply, Nat.succ_eq_add_one, UInt8.ofNat_add]
    congr 2
    change tail + (UInt8.ofNat k + 1) = tail + 1 + UInt8.ofNat k
    rw [UInt8.add_comm (UInt8.ofNat k), UInt8.add_assoc]

end ArduinoDriver.Lib.Ring
