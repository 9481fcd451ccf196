import ArduinoDriver.Lib.Hoare

namespace ArduinoDriver.Lib

/-- A program that performs operations one by one and goes on as each answers. -/
inductive Program {Op : Type} (Reply : Op → Type) (ε α : Type) where
  | pure (a : α)
  | throw (e : ε)
  | call (op : Op) (next : Reply op → Program Reply ε α)

/-- What a program may rely on and has to keep to. `γ` is the state of its conversation:
which operations are allowed there, and how one may be answered and leave it. -/
structure Conversation {Op : Type} (Reply : Op → Type) (γ : Type) where
  may : γ → Op → Prop
  answers : γ → (op : Op) → Reply op → γ → Prop

namespace Program

variable {Op : Type} {Reply : Op → Type} {ε α β γ σ : Type}

def bind (p : Program Reply ε α) (f : α → Program Reply ε β) : Program Reply ε β :=
  match p with
  | .pure a => f a
  | .throw e => .throw e
  | .call op next => .call op (fun r => (next r).bind f)

def tryCatch (p : Program Reply ε α) (handler : ε → Program Reply ε α) : Program Reply ε α :=
  match p with
  | .pure a => .pure a
  | .throw e => handler e
  | .call op next => .call op (fun r => (next r).tryCatch handler)

instance : Monad (Program Reply ε) where
  pure := .pure
  bind := .bind

instance : MonadExcept ε (Program Reply ε) where
  throw := .throw
  tryCatch := .tryCatch

def perform (op : Op) : Program Reply ε (Reply op) := .call op .pure

/-- Runs `f` for one element after the other and collects what it returns. -/
def each {δ : Type} (f : δ → Program Reply ε α) : List δ → Program Reply ε (List α)
  | [] => .pure []
  | x :: l => (f x).bind fun a => (each f l).bind fun as => .pure (a :: as)

/-- The program on a state on which every operation is carried out at once. -/
def run (act : (op : Op) → σ → Reply op × σ) : Program Reply ε α → EStateM ε σ α
  | .pure a => Pure.pure a
  | .throw e => MonadExcept.throw e
  | .call op next => fun s => (next (act op s).1).run act (act op s).2

/-- The program performs operations in `only` alone, whatever the answers. -/
def Uses (only : Op → Prop) : Program Reply ε α → Prop
  | .pure _ | .throw _ => True
  | .call op next => only op ∧ ∀ r, (next r).Uses only

/-- From state `g` of the conversation the program performs allowed operations only,
whatever the answers, and ends in `Q` or throws in `E`. -/
def Keeps (c : Conversation Reply γ) (Q : α → γ → Prop) (E : ε → γ → Prop) :
    Program Reply ε α → γ → Prop
  | .pure a, g => Q a g
  | .throw e, g => E e g
  | .call op next, g => c.may g op ∧ ∀ r g', c.answers g op r g' → (next r).Keeps c Q E g'

variable {c : Conversation Reply γ} {Q Q' : α → γ → Prop} {R : β → γ → Prop} {E E' : ε → γ → Prop}
  {p : Program Reply ε α} {f : α → Program Reply ε β} {g : γ} {act : (op : Op) → σ → Reply op × σ}

@[simp] theorem pure_bind (a : α) : (Pure.pure a >>= f) = f a := rfl

@[simp] theorem bind_assoc {δ : Type} (p : Program Reply ε α) (f : α → Program Reply ε β)
    (h : β → Program Reply ε δ) : p >>= f >>= h = p >>= fun a => f a >>= h := by
  change (p.bind f).bind h = p.bind _
  induction p with
  | pure a => rfl
  | throw e => rfl
  | call op next ih => exact congrArg (call op) (funext ih)

@[simp] theorem run_pure (a : α) : (Pure.pure a : Program Reply ε α).run act = Pure.pure a := rfl

@[simp] theorem run_throw (e : ε) :
    (MonadExcept.throw e : Program Reply ε α).run act = MonadExcept.throw e := rfl

@[simp] theorem run_perform (op : Op) :
    (perform op : Program Reply ε (Reply op)).run act = fun s => .ok (act op s).1 (act op s).2 := rfl

@[simp] theorem run_bind (p : Program Reply ε α) (f : α → Program Reply ε β) :
    (p >>= f).run act = p.run act >>= fun a => (f a).run act := by
  change (p.bind f).run act = _
  funext s
  induction p generalizing s with
  | pure a => rfl
  | throw e => rfl
  | call op next ih => exact ih (act op s).1 (act op s).2

@[simp] theorem run_tryCatch (p : Program Reply ε α) (handler : ε → Program Reply ε α) :
    (MonadExcept.tryCatch p handler).run act =
      MonadExcept.tryCatch (p.run act) (fun e => (handler e).run act) := by
  change (p.tryCatch handler).run act = _
  funext s
  induction p generalizing s with
  | pure a => rfl
  | throw e => rfl
  | call op next ih => exact ih (act op s).1 (act op s).2

@[simp] theorem run_ite {q : Prop} [Decidable q] (p p' : Program Reply ε α) :
    (if q then p else p').run act = if q then p.run act else p'.run act :=
  apply_ite (run act) q p p'

@[simp] theorem run_forM {δ : Type} (h : δ → Program Reply ε PUnit) (l : List δ) :
    (forM l h : Program Reply ε PUnit).run act = forM l (fun x => (h x).run act) := by
  induction l with
  | nil => rfl
  | cons x l ih =>
    change (h x >>= fun _ => forM l h).run act = ((h x).run act >>= fun _ => forM l _)
    rw [run_bind, ih]

/-- A loop whose passes only compute. -/
theorem run_each {δ : Type} {h : δ → Program Reply ε α} {value : δ → α}
    (pass : ∀ x, (h x).run act = Pure.pure (value x)) (l : List δ) :
    (each h l).run act = Pure.pure (l.map value) := by
  induction l with
  | nil => rfl
  | cons x l ih =>
    change (h x >>= fun a => each h l >>= fun as => Pure.pure (a :: as)).run act = _
    rw [run_bind, pass]
    funext s
    change ((each h l >>= fun as => Pure.pure (value x :: as)).run act) s = _
    rw [run_bind, ih]
    rfl

namespace Keeps

theorem pure {a : α} (post : Q a g) : (Pure.pure a : Program Reply ε α).Keeps c Q E g := post

theorem throw {e : ε} (post : E e g) :
    (MonadExcept.throw e : Program Reply ε α).Keeps c Q E g := post

theorem perform {op : Op} {Q : Reply op → γ → Prop} (allowed : c.may g op)
    (post : ∀ r g', c.answers g op r g' → Q r g') :
    (Program.perform op : Program Reply ε (Reply op)).Keeps c Q E g := ⟨allowed, post⟩

theorem conseq (h : p.Keeps c Q E g) (post : ∀ a g, Q a g → Q' a g)
    (fail : ∀ e g, E e g → E' e g) : p.Keeps c Q' E' g := by
  induction p generalizing g with
  | pure a => exact post a g h
  | throw e => exact fail e g h
  | call op next ih => exact ⟨h.1, fun r g' answered => ih r (h.2 r g' answered)⟩

theorem bind (h : p.Keeps c Q E g) (next : ∀ a g, Q a g → (f a).Keeps c R E g) :
    (p >>= f).Keeps c R E g := by
  induction p generalizing g with
  | pure a => exact next a g h
  | throw e => exact h
  | call op more ih => exact ⟨h.1, fun r g' answered => ih r (h.2 r g' answered)⟩

/-- An operation, and what follows its answer. -/
theorem step {op : Op} {f : Reply op → Program Reply ε β} (allowed : c.may g op)
    (next : ∀ r g', c.answers g op r g' → (f r).Keeps c R E g') : (Program.perform op >>= f).Keeps c R E g :=
  ⟨allowed, next⟩

theorem tryCatch {handler : ε → Program Reply ε α} (h : p.Keeps c Q E g)
    (caught : ∀ e g, E e g → (handler e).Keeps c Q E' g) :
    (MonadExcept.tryCatch p handler).Keeps c Q E' g := by
  induction p generalizing g with
  | pure a => exact h
  | throw e => exact caught e g h
  | call op more ih => exact ⟨h.1, fun r g' answered => ih r (h.2 r g' answered)⟩

theorem ite {q : Prop} [Decidable q] {p' : Program Reply ε α} (then_ : q → p.Keeps c Q E g)
    (else_ : ¬ q → p'.Keeps c Q E g) : (if q then p else p').Keeps c Q E g := by
  by_cases h : q
  · rw [if_pos h]
    exact then_ h
  · rw [if_neg h]
    exact else_ h

/-- A loop over a list, each pass from a state in `I`. -/
theorem forM {δ : Type} {I : γ → Prop} {body : δ → Program Reply ε PUnit} {l : List δ}
    (pass : ∀ x ∈ l, ∀ g, I g → (body x).Keeps c (fun _ => I) E g) (start : I g) :
    (l.forM body).Keeps c (fun _ => I) E g := by
  induction l generalizing g with
  | nil => exact start
  | cons x l ih =>
    refine bind (pass x (List.mem_cons_self ..) g start) (fun _ g' kept => ?_)
    exact ih (fun y inside => pass y (List.mem_cons_of_mem _ inside)) kept

/-- The same for a loop that collects values. -/
theorem each {δ : Type} {I : γ → Prop} {body : δ → Program Reply ε α} {l : List δ}
    (pass : ∀ x ∈ l, ∀ g, I g → (body x).Keeps c (fun _ => I) E g) (start : I g) :
    (each body l).Keeps c (fun as g => as.length = l.length ∧ I g) E g := by
  induction l generalizing g with
  | nil => exact ⟨rfl, start⟩
  | cons x l ih =>
    refine bind (pass x (List.mem_cons_self ..) g start) (fun a g' kept => ?_)
    refine bind (ih (fun y inside => pass y (List.mem_cons_of_mem _ inside)) kept) (fun as g'' both => ?_)
    exact ⟨congrArg Nat.succ both.1, both.2⟩

/-- A program whose operations leave the conversation where it is. -/
theorem stay {only : Op → Prop} (h : p.Uses only)
    (still : ∀ op, only op → c.may g op ∧ ∀ r g', c.answers g op r g' → g' = g) :
    p.Keeps c (fun _ g' => g' = g) (fun _ g' => g' = g) g := by
  induction p with
  | pure a => rfl
  | throw e => rfl
  | call op next ih =>
    refine ⟨(still op h.1).1, fun r g' answered => ?_⟩
    obtain rfl := (still op h.1).2 r g' answered
    exact ih r (h.2 r)

end Keeps

namespace Uses

variable {only : Op → Prop}

theorem mono {wider : Op → Prop} (h : p.Uses only) (weaker : ∀ op, only op → wider op) : p.Uses wider := by
  induction p with
  | pure a => trivial
  | throw e => trivial
  | call op next ih => exact ⟨weaker op h.1, fun r => ih r (h.2 r)⟩

theorem perform {op : Op} (allowed : only op) : (Program.perform op : Program Reply ε (Reply op)).Uses only :=
  ⟨allowed, fun _ => trivial⟩

theorem bind (h : p.Uses only) (next : ∀ a, (f a).Uses only) : (p >>= f).Uses only := by
  induction p with
  | pure a => exact next a
  | throw e => trivial
  | call op more ih => exact ⟨h.1, fun r => ih r (h.2 r)⟩

theorem tryCatch {handler : ε → Program Reply ε α} (h : p.Uses only) (caught : ∀ e, (handler e).Uses only) :
    (MonadExcept.tryCatch p handler).Uses only := by
  induction p with
  | pure a => trivial
  | throw e => exact caught e
  | call op more ih => exact ⟨h.1, fun r => ih r (h.2 r)⟩

theorem ite {q : Prop} [Decidable q] {p' : Program Reply ε α} (then_ : p.Uses only) (else_ : p'.Uses only) :
    (if q then p else p').Uses only := by
  split
  · exact then_
  · exact else_

theorem forM {δ : Type} {body : δ → Program Reply ε PUnit} {l : List δ} (pass : ∀ x, (body x).Uses only) :
    (l.forM body).Uses only := by
  induction l with
  | nil => trivial
  | cons x l ih => exact bind (pass x) (fun _ => ih)

theorem each {δ : Type} {body : δ → Program Reply ε α} {l : List δ} (pass : ∀ x, (body x).Uses only) :
    (each body l).Uses only := by
  induction l with
  | nil => trivial
  | cons x l ih => exact bind (pass x) (fun _ => bind ih (fun _ => trivial))

end Uses

/-- The same outcome of two runs, in states that `R` relates. -/
def SameOutcome {τ : Type} (R : σ → τ → Prop) : EStateM.Result ε σ α → EStateM.Result ε τ α → Prop
  | .ok a s, .ok a' t => a = a' ∧ R s t
  | .error e s, .error e' t => e = e' ∧ R s t
  | _, _ => False

/-- Operations that answer alike on related states, and relate what they leave, make a program
that uses no others end alike. -/
theorem run_sameOutcome {τ : Type} {R : σ → τ → Prop} {act' : (op : Op) → τ → Reply op × τ}
    {only : Op → Prop} (uses : p.Uses only)
    (same : ∀ op, only op → ∀ s t, R s t →
      (act op s).1 = (act' op t).1 ∧ R (act op s).2 (act' op t).2)
    {s : σ} {t : τ} (start : R s t) : SameOutcome R (p.run act s) (p.run act' t) := by
  induction p generalizing s t with
  | pure a => exact ⟨rfl, start⟩
  | throw e => exact ⟨rfl, start⟩
  | call op next ih =>
    obtain ⟨answer, after⟩ := same op uses.1 s t start
    have further := ih (act op s).1 (uses.2 _) after
    simp only [run]
    rw [← answer]
    exact further

end Program

end ArduinoDriver.Lib
