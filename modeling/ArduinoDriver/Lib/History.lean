import ArduinoDriver.Lib.Reach

namespace ArduinoDriver.Lib

variable {σ α γ : Type}

/-- A step with a history variable at its side. -/
def recording (step : σ → α → σ) (note : σ → α → γ → γ) (r : σ × γ) (a : α) : σ × γ :=
  (step r.1 a, note r.1 a r.2)

variable {step : σ → α → σ} {note : σ → α → γ → γ} {guard : σ × γ → α → Prop}
  {guard' : σ → α → Prop} {s t : σ} {r r' : σ × γ}

/-- The history may be left out. -/
theorem Reach.forget (h : Reach (recording step note) guard r r')
    (weaker : ∀ u a, guard u a → guard' u.1 a) : Reach step guard' r.1 r'.1 := by
  induction h with
  | refl => exact .refl
  | tail a _ allowed ih => exact .tail a ih (weaker _ a allowed)

/-- Every run has a history. -/
theorem Reach.record (h : Reach step guard' s t) (note : σ → α → γ → γ) (g : γ) :
    ∃ g', Reach (recording step note) (fun u a => guard' u.1 a) (s, g) (t, g') := by
  induction h with
  | refl => exact ⟨g, .refl⟩
  | tail a _ allowed ih =>
    obtain ⟨g', reached⟩ := ih
    exact ⟨_, .tail a reached allowed⟩

end ArduinoDriver.Lib
