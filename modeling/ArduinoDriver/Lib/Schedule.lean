import Mathlib.Data.List.Chain

namespace ArduinoDriver.Lib.Schedule

/-- The deadline after a poll at `t`: a period later once it has passed, and if that has passed
as well, a period from `t`. -/
def next (period deadline t : Nat) : Nat :=
  if t < deadline then deadline
  else if t < deadline + period then deadline + period
  else t + period

def after (period deadline : Nat) (polls : List Nat) : Nat := polls.foldl (next period) deadline

/-- The polls that find their deadline passed. -/
def samples (period : Nat) : Nat → List Nat → List Nat
  | _, [] => []
  | deadline, t :: polls =>
    if t < deadline then samples period deadline polls
    else t :: samples period (next period deadline t) polls

variable {period deadline t gap : Nat} {polls : List Nat}

theorem next_early (early : t < deadline) : next period deadline t = deadline := if_pos early

/-- After a sample the deadline is at most a period away, and at least a period further on. -/
theorem next_due (positive : 0 < period) (due : deadline ≤ t) :
    t < next period deadline t ∧ next period deadline t ≤ t + period ∧
      deadline + period ≤ next period deadline t := by
  unfold next
  rw [if_neg (Nat.not_lt.mpr due)]
  split <;> omega

theorem after_append : after period deadline (polls ++ [t]) = next period (after period deadline polls) t := by
  unfold after
  rw [List.foldl_append, List.foldl_cons, List.foldl_nil]

theorem samples_append :
    samples period deadline (polls ++ [t]) = samples period deadline polls ++
      if t < after period deadline polls then [] else [t] := by
  induction polls generalizing deadline with
  | nil => rfl
  | cons u polls ih =>
    have later : after period deadline (u :: polls) = after period (next period deadline u) polls := rfl
    rw [List.cons_append, samples, samples, later]
    by_cases early : u < deadline
    · rw [if_pos early, if_pos early, ih, next_early early]
    · rw [if_neg early, if_neg early, ih, List.cons_append]

/-- The samples up to a moment, by the deadline they start from. -/
theorem count_until (positive : 0 < period) (last : Nat)
    (some_ : 0 < (samples period deadline polls).countP (fun s => decide (s ≤ last))) :
    deadline + (samples period deadline polls).countP (fun s => decide (s ≤ last)) * period ≤
      last + period := by
  induction polls generalizing deadline with
  | nil => exact absurd some_ (Nat.lt_irrefl 0)
  | cons t polls ih =>
    rw [samples] at some_ ⊢
    by_cases early : t < deadline
    · rw [if_pos early] at some_ ⊢
      exact ih some_
    · rw [if_neg early, List.countP_cons] at some_ ⊢
      obtain ⟨_, _, further⟩ := @next_due period deadline t positive (Nat.le_of_not_lt early)
      have rest := @ih (next period deadline t)
      generalize (samples period (next period deadline t) polls).countP
        (fun s => decide (s ≤ last)) = count at rest some_ ⊢
      rcases Nat.eq_zero_or_pos count with none_ | more
      · subst none_
        by_cases inside : t ≤ last
        · simp only [inside, decide_true, if_true]
          omega
        · simp [inside] at some_
      · have sum := rest more
        by_cases inside : t ≤ last
        · simp only [inside, decide_true, if_true, Nat.add_mul]
          omega
        · simp only [inside, decide_false, Bool.false_eq_true, if_false, Nat.add_zero]
          omega

/-- No window holds many samples, however late the polls before it. -/
theorem window_lt (positive : 0 < period) (first width : Nat) :
    (samples period deadline polls).countP (fun s => decide (first ≤ s ∧ s ≤ first + width)) * period <
      width + 2 * period := by
  induction polls generalizing deadline with
  | nil =>
    rw [samples, List.countP_nil]
    omega
  | cons t polls ih =>
    rw [samples]
    by_cases early : t < deadline
    · rw [if_pos early]
      exact ih
    · rw [if_neg early, List.countP_cons]
      obtain ⟨later, _, _⟩ := @next_due period deadline t positive (Nat.le_of_not_lt early)
      by_cases inside : first ≤ t ∧ t ≤ first + width
      · -- the first sample of the window: the deadline is past its beginning from here on
        have fewer : (samples period (next period deadline t) polls).countP
            (fun s => decide (first ≤ s ∧ s ≤ first + width)) ≤
            (samples period (next period deadline t) polls).countP
              (fun s => decide (s ≤ first + width)) :=
          List.countP_mono_left (fun s _ both => by
            rw [decide_eq_true_eq] at both ⊢
            exact both.2)
        have sum := @count_until period (next period deadline t) polls positive (first + width)
        have scaled := Nat.mul_le_mul_right period fewer
        simp only [inside, and_self, decide_true, if_true, Nat.add_mul, Nat.one_mul]
        generalize (samples period (next period deadline t) polls).countP
          (fun s => decide (s ≤ first + width)) = count at sum scaled
        rcases Nat.eq_zero_or_pos count with none_ | more
        · rw [none_, Nat.zero_mul] at scaled
          omega
        · have := sum more
          omega
      · simp only [inside, decide_false, Bool.false_eq_true, if_false, Nat.add_zero]
        exact ih

/-- The next sample is at the first poll from the deadline on. -/
theorem first_sample {u : Nat} (waits : u < deadline)
    (gaps : (u :: polls).IsChain fun u v => v ≤ u + gap) :
    ∀ s ∈ (samples period deadline polls).head?, s < deadline + gap := by
  induction polls generalizing u with
  | nil =>
    rintro s ⟨⟩
  | cons t polls ih =>
    obtain ⟨near, gaps'⟩ := List.isChain_cons_cons.mp gaps
    rw [samples]
    by_cases early : t < deadline
    · rw [if_pos early]
      exact ih early gaps'
    · rw [if_neg early]
      rintro s ⟨⟩
      omega

/-- Successive samples are less than a period and the longest gap between polls apart. -/
theorem samples_apart (positive : 0 < period) (gaps : polls.IsChain fun u v => v ≤ u + gap) :
    (samples period deadline polls).IsChain fun s s' => s' < s + period + gap := by
  induction polls generalizing deadline with
  | nil => exact List.isChain_nil
  | cons t polls ih =>
    have gaps' : polls.IsChain fun u v => v ≤ u + gap := gaps.tail
    rw [samples]
    by_cases early : t < deadline
    · rw [if_pos early]
      exact ih gaps'
    · rw [if_neg early, List.isChain_cons]
      obtain ⟨later, near, _⟩ := @next_due period deadline t positive (Nat.le_of_not_lt early)
      refine ⟨fun s first => ?_, ih gaps'⟩
      have := first_sample later gaps s first
      omega

end ArduinoDriver.Lib.Schedule
