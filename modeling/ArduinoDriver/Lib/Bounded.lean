import Mathlib.Data.List.Basic

namespace ArduinoDriver.Lib

/-- A first-in first-out queue that never holds more than its capacity. -/
structure Bounded (α : Type) (capacity : Nat) where
  items : List α
  within : items.length ≤ capacity

namespace Bounded

variable {α : Type} {capacity : Nat}

def empty : Bounded α capacity := ⟨[], Nat.zero_le capacity⟩

def hasRoom (q : Bounded α capacity) : Bool := q.items.length < capacity

/-- An item is taken in at the back, or refused when there is no room. -/
def offer (q : Bounded α capacity) (x : α) : Bounded α capacity :=
  if room : q.items.length < capacity then ⟨q.items ++ [x], by rw [List.length_append]; exact room⟩ else q

/-- The oldest items leave at the front. -/
def drop (q : Bounded α capacity) (n : Nat) : Bounded α capacity :=
  ⟨q.items.drop n, Nat.le_trans (List.drop_sublist ..).length_le q.within⟩

/-- Items leave from wherever they stand. -/
def remove (q : Bounded α capacity) (p : α → Bool) : Bounded α capacity :=
  ⟨q.items.filter (fun x => !p x), Nat.le_trans (List.length_filter_le ..) q.within⟩

variable {q : Bounded α capacity} {x : α}

@[simp] theorem items_empty : (empty : Bounded α capacity).items = [] := rfl

@[simp] theorem items_drop (n : Nat) : (q.drop n).items = q.items.drop n := rfl

@[simp] theorem items_remove (p : α → Bool) :
    (q.remove p).items = q.items.filter (fun x => !p x) := rfl

theorem items_offer : (q.offer x).items = q.items ++ (if q.hasRoom then [x] else []) := by
  unfold offer hasRoom
  split <;> simp_all

theorem hasRoom_iff : q.hasRoom = true ↔ q.items.length ≠ capacity := by
  have := q.within
  simp only [hasRoom, decide_eq_true_eq]
  omega

end Bounded

end ArduinoDriver.Lib
