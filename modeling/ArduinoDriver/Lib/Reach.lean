import Mathlib.Logic.Basic

namespace ArduinoDriver.Lib

/-- States reached from `start` by steps that each satisfy the guard. -/
inductive Reach {σ α : Type} (step : σ → α → σ) (guard : σ → α → Prop) (start : σ) : σ → Prop
  | refl : Reach step guard start start
  | tail {s : σ} (a : α) (reached : Reach step guard start s) (allowed : guard s a) :
      Reach step guard start (step s a)

variable {σ α : Type} {step : σ → α → σ} {guard guard' : σ → α → Prop} {s t u : σ}

/-- What holds at the start and is kept by every allowed step holds in every
state reached. -/
theorem Reach.invariant {I : σ → Prop} (h : Reach step guard s t) (start : I s)
    (keep : ∀ u a, I u → guard u a → I (step u a)) : I t := by
  induction h with
  | refl => exact start
  | tail a _ allowed ih => exact keep _ a ih allowed

/-- The rule with an invariant already known of every state reached. -/
theorem Reach.invariant_with {K I : σ → Prop} (h : Reach step guard s t)
    (known : ∀ u, Reach step guard s u → K u) (start : I s)
    (keep : ∀ u a, K u → I u → guard u a → I (step u a)) : I t := by
  induction h with
  | refl => exact start
  | tail a reached allowed ih => exact keep _ a (known _ reached) ih allowed

theorem Reach.trans (h : Reach step guard s t) (h' : Reach step guard t u) :
    Reach step guard s u := by
  induction h' with
  | refl => exact h
  | tail a _ allowed ih => exact .tail a ih allowed

theorem Reach.mono (h : Reach step guard s t) (weaker : ∀ u a, guard u a → guard' u a) :
    Reach step guard' s t := by
  induction h with
  | refl => exact .refl
  | tail a _ allowed ih => exact .tail a ih (weaker _ a allowed)

/-- A run of any steps, when the guard allows all. -/
theorem Reach.foldl (h : Reach step guard s t) (free : ∀ u a, guard u a) (acts : List α) :
    Reach step guard s (acts.foldl step t) := by
  induction acts generalizing t with
  | nil => exact h
  | cons a acts ih => exact ih (.tail a h (free _ a))

/-- When some allowed step always gets closer, some run arrives. -/
theorem Reach.eventually {P Q : σ → Prop} (left : σ → Nat)
    (closer : ∀ u, P u → ∃ a, guard u a ∧ (Q (step u a) ∨ P (step u a) ∧ left (step u a) < left u))
    (start : P s) : ∃ t, Reach step guard s t ∧ Q t := by
  induction distance : left s using Nat.strongRecOn generalizing s with
  | ind n ih =>
    obtain ⟨a, allowed, arrived | ⟨kept, less⟩⟩ := closer s start
    · exact ⟨_, .tail a .refl allowed, arrived⟩
    · obtain ⟨t, reached, arrived⟩ := ih (left (step s a)) (distance ▸ less) kept rfl
      exact ⟨t, Reach.trans (.tail a .refl allowed) reached, arrived⟩

/-- Every step of a run satisfies the guard. -/
def Follows (step : σ → α → σ) (guard : σ → α → Prop) : σ → List α → Prop
  | _, [] => True
  | s, a :: acts => guard s a ∧ Follows step guard (step s a) acts

instance Follows.decidable [∀ s a, Decidable (guard s a)] :
    (s : σ) → (acts : List α) → Decidable (Follows step guard s acts)
  | _, [] => inferInstanceAs (Decidable True)
  | s, a :: acts =>
    have := Follows.decidable (step s a) acts
    inferInstanceAs (Decidable (guard s a ∧ Follows step guard (step s a) acts))

theorem Follows.append {acts more : List α} (h : Follows step guard s (acts ++ more)) :
    Follows step guard s acts ∧ Follows step guard (acts.foldl step s) more := by
  induction acts generalizing s with
  | nil => exact ⟨trivial, h⟩
  | cons a acts ih =>
    obtain ⟨first, rest⟩ := ih h.2
    exact ⟨⟨h.1, first⟩, rest⟩

theorem Follows.reach {acts : List α} (h : Follows step guard s acts) :
    Reach step guard s (acts.foldl step s) := by
  have extend : ∀ (acts : List α) (u : σ), Reach step guard s u → Follows step guard u acts →
      Reach step guard s (acts.foldl step u) := by
    intro acts
    induction acts with
    | nil => exact fun u reached _ => reached
    | cons a acts ih => exact fun u reached h => ih _ (.tail a reached h.1) h.2
  exact extend acts s .refl h

end ArduinoDriver.Lib
