import Mathlib.Data.List.Basic

namespace ArduinoDriver.Lib

/-- Commands that are accepted in order and come out in order, executed or
skipped. The first `cancelled` of them may be skipped. -/
structure Pipeline (α : Type) where
  accepted : List α
  cancelled : Nat
  outcomes : List (α × Bool)

namespace Pipeline

variable {α β : Type}

def empty : Pipeline α := ⟨[], 0, []⟩

def accept (l : Pipeline α) (a : α) : Pipeline α := { l with accepted := l.accepted ++ [a] }

def cancel (l : Pipeline α) : Pipeline α := { l with cancelled := l.accepted.length }

def finish (l : Pipeline α) (a : α) (done : Bool) : Pipeline α :=
  { l with outcomes := l.outcomes ++ [(a, done)] }

/-- Every command that was not cancelled has been executed. -/
def Settled (l : Pipeline α) : Prop :=
  ∀ k a, l.cancelled ≤ k → l.accepted[k]? = some a → l.outcomes[k]? = some (a, true)

/-- How many commands at the front of the backlog are cancelled. -/
def stale (l : Pipeline α) : Nat := l.cancelled - l.outcomes.length

/-- The backlog behind its cancelled commands. -/
def fresh (l : Pipeline α) (backlog : List β) : List β := backlog.drop l.stale

/-- `backlog` is what has been accepted and has not come out. -/
structure Carries (l : Pipeline α) (backlog : List α) : Prop where
  count : l.accepted.length = l.outcomes.length + backlog.length
  cancelled_le : l.cancelled ≤ l.accepted.length
  agree : ∀ k a, l.cancelled ≤ k → l.accepted[k]? = some a →
    (l.outcomes ++ backlog.map (·, true))[k]? = some (a, true)

variable {l : Pipeline α} {backlog : List α} {a : α}

theorem Carries.empty : Carries (Pipeline.empty : Pipeline α) [] where
  count := rfl
  cancelled_le := Nat.le_refl _
  agree := by simp [Pipeline.empty]

theorem Carries.accept (h : Carries l backlog) (a : α) :
    Carries (l.accept a) (backlog ++ [a]) where
  count := by
    have := h.count
    simp only [Pipeline.accept, List.length_append, List.length_singleton]
    omega
  cancelled_le := by
    have := h.cancelled_le
    simp only [Pipeline.accept, List.length_append]
    omega
  agree := by
    intro k a' above found
    have count := h.count
    simp only [Pipeline.accept] at above found ⊢
    rw [List.map_append, ← List.append_assoc]
    by_cases old : k < l.accepted.length
    · rw [List.getElem?_append_left old] at found
      rw [List.getElem?_append_left (by rw [List.length_append, List.length_map]; omega)]
      exact h.agree k a' above found
    · rw [List.getElem?_append_right (by omega)] at found
      rw [List.getElem?_append_right (by rw [List.length_append, List.length_map]; omega)]
      rw [List.length_append, List.length_map, ← count, List.map_singleton]
      cases last : k - l.accepted.length with
      | zero =>
        rw [last, List.getElem?_cons_zero] at found
        rw [List.getElem?_cons_zero, Option.some.inj found]
      | succ j =>
        rw [last] at found
        simp at found

theorem Carries.cancel (h : Carries l backlog) : Carries l.cancel backlog where
  count := h.count
  cancelled_le := Nat.le_refl _
  agree := by
    intro k a' above found
    simp only [Pipeline.cancel] at above found
    rw [List.getElem?_eq_none above] at found
    contradiction

theorem Carries.execute (h : Carries l (a :: backlog)) : Carries (l.finish a true) backlog where
  count := by
    have := h.count
    simp only [finish, List.length_append, List.length_cons, List.length_nil] at *
    omega
  cancelled_le := h.cancelled_le
  agree := by
    intro k a' above found
    simp only [finish, List.append_assoc, List.singleton_append]
    exact h.agree k a' above found

/-- A skipped command must be a cancelled one. -/
theorem Carries.skip (h : Carries l (a :: backlog)) (gone : 0 < l.stale) :
    Carries (l.finish a false) backlog where
  count := by
    have := h.count
    simp only [finish, List.length_append, List.length_cons, List.length_nil] at *
    omega
  cancelled_le := h.cancelled_le
  agree := by
    intro k a' above found
    have older : l.outcomes.length < k := by
      unfold stale at gone
      simp only [finish] at above
      omega
    have := h.agree k a' above found
    rw [List.getElem?_append_right (by omega), List.map_cons,
      List.getElem?_cons, if_neg (by omega)] at this
    simp only [finish, List.append_assoc, List.singleton_append]
    rw [List.getElem?_append_right (by omega), List.getElem?_cons, if_neg (by omega)]
    exact this

/-- With no cancelled command at the front, the front is the next one accepted. -/
theorem Carries.front (h : Carries l (a :: backlog)) (current : l.stale = 0) :
    l.cancelled ≤ l.outcomes.length ∧ l.accepted[l.outcomes.length]? = some a := by
  have count := h.count
  rw [List.length_cons] at count
  have reached : l.cancelled ≤ l.outcomes.length := Nat.le_of_sub_eq_zero current
  have inside : l.outcomes.length < l.accepted.length := by omega
  have same := h.agree _ _ reached (List.getElem?_eq_getElem inside)
  rw [List.getElem?_append_right (Nat.le_refl _), Nat.sub_self, List.map_cons,
    List.getElem?_cons_zero] at same
  refine ⟨reached, ?_⟩
  rw [List.getElem?_eq_getElem inside, (Prod.mk.inj (Option.some.inj same)).1]

/-- Once the backlog holds cancelled commands only, all others are done. -/
theorem Carries.settled (h : Carries l backlog) (none_left : l.fresh backlog = []) : l.Settled := by
  intro k a' above found
  have bound : k < l.outcomes.length := by
    have inside : k < l.accepted.length := by
      by_contra outside
      rw [List.getElem?_eq_none (by omega)] at found
      contradiction
    have := h.count
    simp only [fresh, List.drop_eq_nil_iff] at none_left
    unfold stale at none_left
    omega
  have := h.agree k a' above found
  rwa [List.getElem?_append_left bound] at this

@[simp] theorem stale_accept : (l.accept a).stale = l.stale := rfl

theorem Carries.stale_le (h : Carries l backlog) : l.stale ≤ backlog.length := by
  have := h.count
  have := h.cancelled_le
  unfold stale
  omega

/-- After a cancellation all of the backlog is stale. -/
theorem Carries.stale_cancel (h : Carries l backlog) : l.cancel.stale = backlog.length := by
  have := h.count
  simp only [stale, Pipeline.cancel]
  omega

theorem stale_finish (done : Bool) : (l.finish a done).stale = l.stale - 1 := by
  simp only [stale, finish, List.length_append, List.length_singleton]
  omega

theorem fresh_nil : l.fresh ([] : List β) = [] := List.drop_nil

/-- The front of the backlog comes out: fresh commands lose it if it was one. -/
theorem fresh_finish_stale {b : β} {rest : List β} {done : Bool} (gone : 0 < l.stale) :
    (l.finish a done).fresh rest = l.fresh (b :: rest) := by
  unfold fresh
  rw [stale_finish]
  obtain ⟨n, eq⟩ : ∃ n, l.stale = n + 1 := ⟨l.stale - 1, by omega⟩
  rw [eq, List.drop_succ_cons, Nat.add_sub_cancel]

theorem fresh_finish {rest : List β} {done : Bool} (current : l.stale = 0) :
    (l.finish a done).fresh rest = rest := by
  unfold fresh
  rw [stale_finish, current, Nat.zero_sub, List.drop_zero]

theorem fresh_of_current {backlog : List β} (current : l.stale = 0) : l.fresh backlog = backlog := by
  rw [fresh, current, List.drop_zero]

end Pipeline

end ArduinoDriver.Lib
