import Mathlib.Data.List.Basic

namespace ArduinoDriver.Lib.Journal

variable {α σ : Type} {read : α → σ → σ} {init : σ} {news log : List α}

/-- Entries that a reading of the journal ignores may be added in front. -/
theorem foldr_inert (inert : ∀ o ∈ news, ∀ s, read o s = s) :
    (news ++ log).foldr read init = log.foldr read init := by
  induction news with
  | nil => rfl
  | cons o news ih =>
    rw [List.cons_append, List.foldr_cons, inert o (by simp)]
    exact ih (fun o' inside => inert o' (by simp [inside]))

end ArduinoDriver.Lib.Journal
