import Mathlib.Logic.Basic

namespace ArduinoDriver.Lib

variable {ε σ α β : Type}

/-- Run from a state in `P`, the program returns a value and a state in `Q`, or
throws and leaves a state in `E`. -/
def Triple (P : σ → Prop) (x : EStateM ε σ α) (Q : α → σ → Prop) (E : ε → σ → Prop) : Prop :=
  ∀ s, P s → match x s with
    | .ok a s' => Q a s'
    | .error e s' => E e s'

namespace Triple

variable {P P' : σ → Prop} {Q Q' : α → σ → Prop} {R : β → σ → Prop} {E E' : ε → σ → Prop}
  {x : EStateM ε σ α} {s s' : σ} {a : α}

theorem returns (h : Triple P x Q E) (start : P s) (run : x s = .ok a s') : Q a s' := by
  have := h s start
  rwa [run] at this

theorem any : Triple P x (fun _ _ => True) (fun _ _ => True) := by
  intro s _
  cases x s <;> trivial

theorem never : Triple (fun _ => False) x Q E := fun _ h => h.elim

theorem conseq (h : Triple P x Q E) (pre : ∀ s, P' s → P s) (post : ∀ a s, Q a s → Q' a s)
    (fail : ∀ e s, E e s → E' e s) : Triple P' x Q' E' := by
  intro s start
  have := h s (pre s start)
  cases eq : x s with
  | ok a s' =>
    rw [eq] at this
    exact post a s' this
  | error e s' =>
    rw [eq] at this
    exact fail e s' this

theorem pure (a : α) (post : ∀ s, P s → Q a s) : Triple P (Pure.pure a) Q E :=
  fun s start => post s start

theorem throw (e : ε) (fail : ∀ s, P s → E e s) :
    Triple P (MonadExcept.throw e : EStateM ε σ α) Q E :=
  fun s start => fail s start

theorem get : Triple P (MonadState.get : EStateM ε σ σ) (fun a s => a = s ∧ P s) E :=
  fun _ start => ⟨rfl, start⟩

theorem bind {f : α → EStateM ε σ β} (h : Triple P x Q E) (next : ∀ a, Triple (Q a) (f a) R E) :
    Triple P (x >>= f) R E := by
  intro s start
  have first := h s start
  change match EStateM.bind x f s with | .ok a s' => R a s' | .error e s' => E e s'
  unfold EStateM.bind
  cases eq : x s with
  | ok a s' =>
    rw [eq] at first
    exact next a s' first
  | error e s' =>
    rw [eq] at first
    exact first

theorem tryCatch {handler : ε → EStateM ε σ α} (h : Triple P x Q E)
    (caught : ∀ e, Triple (E e) (handler e) Q E') : Triple P (MonadExcept.tryCatch x handler) Q E' := by
  intro s start
  have first := h s start
  change match EStateM.tryCatch x handler s with | .ok a s' => Q a s' | .error e s' => E' e s'
  unfold EStateM.tryCatch
  cases eq : x s with
  | ok a s' =>
    rw [eq] at first
    exact first
  | error e s' =>
    rw [eq] at first
    exact caught e s' first

theorem ite {c : Prop} [Decidable c] {y : EStateM ε σ α} (then_ : c → Triple P x Q E)
    (else_ : ¬ c → Triple P y Q E) : Triple P (if c then x else y) Q E := by
  by_cases h : c
  · rw [if_pos h]
    exact then_ h
  · rw [if_neg h]
    exact else_ h

/-- A pure fact of the precondition moves into the context. -/
theorem fact {φ : Prop} (h : φ → Triple P x Q E) : Triple (fun s => P s ∧ φ) x Q E :=
  fun s start => h start.2 s start.1

theorem modify {f : σ → σ} {S : PUnit → σ → Prop} (post : ∀ s, P s → S ⟨⟩ (f s)) :
    Triple P (modifyThe σ f : EStateM ε σ PUnit) S E :=
  fun s start => post s start

/-- A loop over a list keeps what each pass keeps. -/
theorem forM {γ : Type} {I : σ → Prop} {f : γ → EStateM ε σ PUnit} {l : List γ}
    (pass : ∀ c ∈ l, Triple I (f c) (fun _ => I) E) : Triple I (l.forM f) (fun _ => I) E := by
  induction l with
  | nil => exact fun _ start => start
  | cons c l ih =>
    exact bind (pass c (List.mem_cons_self ..))
      (fun _ => ih (fun c' inside => pass c' (List.mem_cons_of_mem _ inside)))

end Triple

end ArduinoDriver.Lib
