import Mathlib.Data.List.Basic

namespace ArduinoDriver.Lib

variable {β γ : Type}

/-- Each command either leaves the value alone or decides it. -/
def Overwrites (apply : Option β → γ → Option β) : Prop :=
  ∀ c, (∀ x, apply x c = x) ∨ ∃ y, ∀ x, apply x c = y

/-- What a replay decides from an unknown value, it decides from any. -/
theorem Overwrites.replay {apply : Option β → γ → Option β} (h : Overwrites apply)
    {commands : List γ} {v : β} (decided : commands.foldl apply none = some v) (x : Option β) :
    commands.foldl apply x = some v := by
  induction commands generalizing x with
  | nil => contradiction
  | cons c commands ih =>
    rw [List.foldl_cons] at decided ⊢
    rcases h c with keeps | ⟨y, decides⟩
    · rw [keeps] at decided ⊢
      exact ih decided x
    · rw [decides] at decided ⊢
      exact decided

end ArduinoDriver.Lib
