import Mathlib.Data.List.Basic

namespace ArduinoDriver.Lib

/-- What an observer notes along a run. -/
def trail {σ α β : Type} (step : σ → α → σ) (see : σ → α → List β) : σ → List α → List β
  | _, [] => []
  | s, a :: acts => see s a ++ trail step see (step s a) acts

variable {σ α β : Type} {step : σ → α → σ} {enters leaves : σ → α → List β} {held : σ → List β}
  {I : σ → Prop}

/-- Conservation: when every step balances what enters against what leaves and what
is held, so does every run. -/
theorem trail_conserved (keep : ∀ s a, I s → I (step s a))
    (balance : ∀ s a, I s → held s ++ enters s a = leaves s a ++ held (step s a)) {s : σ}
    (start : I s) (acts : List α) :
    held s ++ trail step enters s acts = trail step leaves s acts ++ held (acts.foldl step s) := by
  induction acts generalizing s with
  | nil => exact List.append_nil _
  | cons a acts ih =>
    have further := ih (keep s a start)
    calc held s ++ trail step enters s (a :: acts)
        = (held s ++ enters s a) ++ trail step enters (step s a) acts :=
          (List.append_assoc ..).symm
      _ = leaves s a ++ (held (step s a) ++ trail step enters (step s a) acts) := by
          rw [balance s a start, List.append_assoc]
      _ = trail step leaves s (a :: acts) ++ held ((a :: acts).foldl step s) := by
          rw [further, ← List.append_assoc]
          rfl

end ArduinoDriver.Lib
