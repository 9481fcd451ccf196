import ArduinoDriver.Lib.Program
import ArduinoDriver.Lib.Reach
import Mathlib.Logic.Function.Basic

namespace ArduinoDriver.Lib

/-- Calls that threads make on one shared state: `κ` names the calls, `η` the events that
are no thread's doing. -/
structure System {Op : Type} (Reply : Op → Type) (ε α κ σ η : Type) where
  body : κ → Program Reply ε α
  /-- Thread `t` begins a call; `none` while it must not. -/
  enter : Nat → κ → σ → Option σ
  /-- Thread `t` performs an operation of its call; `none` while it has to wait. -/
  act : Nat → κ → (op : Op) → σ → Option (Reply op × σ)
  /-- The call of thread `t` has returned or thrown. -/
  leave : Nat → κ → Except ε α → σ → σ
  happen : η → σ → σ

/-- The shared state, and what is left of the call each thread is in. -/
structure Pool {Op : Type} (Reply : Op → Type) (ε α κ σ : Type) where
  shared : σ
  threads : Nat → Option (κ × Program Reply ε α)

/-- A step of a pool: a thread begins a call, does its next operation or ends, or
something happens. -/
inductive Move (κ η : Type) where
  | begin (t : Nat) (call : κ)
  | go (t : Nat)
  | happen (event : η)
  deriving DecidableEq

variable {Op : Type} {Reply : Op → Type} {ε α κ σ η γ : Type}

namespace System

def idle (s : σ) : Pool Reply ε α κ σ := ⟨s, fun _ => none⟩

variable (S : System Reply ε α κ σ η)

def advance (w : Pool Reply ε α κ σ) (t : Nat) (call : κ) : Program Reply ε α → Pool Reply ε α κ σ
  | .pure a => ⟨S.leave t call (.ok a) w.shared, Function.update w.threads t none⟩
  | .throw e => ⟨S.leave t call (.error e) w.shared, Function.update w.threads t none⟩
  | .call op next =>
    match S.act t call op w.shared with
    | none => w
    | some (r, s) => ⟨s, Function.update w.threads t (some (call, next r))⟩

def step (w : Pool Reply ε α κ σ) : Move κ η → Pool Reply ε α κ σ
  | .begin t call =>
    match w.threads t, S.enter t call w.shared with
    | none, some s => ⟨s, Function.update w.threads t (some (call, S.body call))⟩
    | _, _ => w
  | .go t =>
    match w.threads t with
    | none => w
    | some (call, p) => S.advance w t call p
  | .happen event => { w with shared := S.happen event w.shared }

/-- A guard on moves, from one on operations and one on events. -/
def permits (may : Nat → κ → Op → σ → Prop) (ok : η → σ → Prop) (w : Pool Reply ε α κ σ) :
    Move κ η → Prop
  | .begin _ _ => True
  | .go t =>
    match w.threads t with
    | some (call, .call op _) => may t call op w.shared
    | _ => True
  | .happen event => ok event w.shared

instance permits.decidable {may : Nat → κ → Op → σ → Prop} {ok : η → σ → Prop}
    [∀ t call op s, Decidable (may t call op s)] [∀ event s, Decidable (ok event s)]
    (w : Pool Reply ε α κ σ) : (move : Move κ η) → Decidable (permits may ok w move)
  | .begin _ _ => inferInstanceAs (Decidable True)
  | .go t => by
    unfold permits
    dsimp only
    exact match w.threads t with
      | some (call, .call op _) => inferInstanceAs (Decidable (may t call op w.shared))
      | some (_, .pure _) => inferInstanceAs (Decidable True)
      | some (_, .throw _) => inferInstanceAs (Decidable True)
      | none => inferInstanceAs (Decidable True)
  | .happen event => inferInstanceAs (Decidable (ok event w.shared))

/-- What every thread keeps to: at its place `g` in the conversation, a call performs allowed
operations and ends as `returns` and `throws` say. `inv` ties the places to the shared state. -/
structure Discipline (S : System Reply ε α κ σ η) (γ : Type) where
  conversation : Conversation Reply γ
  returns : κ → α → γ → Prop
  throws : κ → ε → γ → Prop
  inv : σ → (Nat → Option (κ × γ)) → Prop

namespace Discipline

variable {S} (D : Discipline S γ) (may : Nat → κ → Op → σ → Prop) (ok : η → σ → Prop)

/-- How a call may end at place `g`. -/
def ends (call : κ) (g : γ) : Except ε α → Prop
  | .ok a => D.returns call a g
  | .error e => D.throws call e g

/-- Every move keeps the invariant, and answers as the conversation says. -/
structure Kept : Prop where
  enter : ∀ {t call s s' places}, D.inv s places → places t = none → S.enter t call s = some s' →
    ∃ g, D.inv s' (Function.update places t (some (call, g))) ∧
      (S.body call).Keeps D.conversation (D.returns call) (D.throws call) g
  act : ∀ {t call op s s' places g r}, D.inv s places → places t = some (call, g) →
    D.conversation.may g op → may t call op s → S.act t call op s = some (r, s') →
    ∃ g', D.conversation.answers g op r g' ∧ D.inv s' (Function.update places t (some (call, g')))
  leave : ∀ {t call s places g outcome}, D.inv s places → places t = some (call, g) →
    D.ends call g outcome → D.inv (S.leave t call outcome s) (Function.update places t none)
  happen : ∀ {event s places}, D.inv s places → ok event s → D.inv (S.happen event s) places

/-- Thread by thread, what is left of its call keeps to the conversation from its place on. -/
def Tracks (threads : Nat → Option (κ × Program Reply ε α)) (places : Nat → Option (κ × γ)) : Prop :=
  ∀ t, match threads t, places t with
    | none, none => True
    | some (call, p), some (call', g) =>
      call = call' ∧ p.Keeps D.conversation (D.returns call) (D.throws call) g
    | _, _ => False

variable {D} {may} {ok} {threads : Nat → Option (κ × Program Reply ε α)} {places : Nat → Option (κ × γ)}
  {t : Nat} {call : κ} {p : Program Reply ε α} {g : γ}

theorem Tracks.absent (h : D.Tracks threads places) (here : threads t = none) : places t = none := by
  have at_ := h t
  rw [here] at at_
  cases place : places t with
  | none => rfl
  | some _ =>
    rw [place] at at_
    exact at_.elim

theorem Tracks.present (h : D.Tracks threads places) (here : threads t = some (call, p)) :
    ∃ g, places t = some (call, g) ∧ p.Keeps D.conversation (D.returns call) (D.throws call) g := by
  have at_ := h t
  rw [here] at at_
  cases place : places t with
  | none =>
    rw [place] at at_
    exact at_.elim
  | some at_place =>
    obtain ⟨call', g⟩ := at_place
    rw [place] at at_
    obtain ⟨rfl, keeps⟩ := at_
    exact ⟨g, rfl, keeps⟩

theorem Tracks.update (h : D.Tracks threads places)
    (keeps : p.Keeps D.conversation (D.returns call) (D.throws call) g) :
    D.Tracks (Function.update threads t (some (call, p))) (Function.update places t (some (call, g))) := by
  intro u
  by_cases same : u = t
  · subst same
    simp only [Function.update_self]
    exact ⟨trivial, keeps⟩
  · simp only [Function.update_of_ne same]
    exact h u

theorem Tracks.erase (h : D.Tracks threads places) :
    D.Tracks (Function.update threads t none) (Function.update places t none) := by
  intro u
  by_cases same : u = t
  · subst same
    simp only [Function.update_self]
  · simp only [Function.update_of_ne same]
    exact h u

/-- The invariant of a pool whose threads are at some places. -/
def Holds (D : Discipline S γ) (w : Pool Reply ε α κ σ) : Prop :=
  ∃ places, D.inv w.shared places ∧ D.Tracks w.threads places

theorem Holds.idle {s : σ} (start : D.inv s (fun _ => none)) : D.Holds (System.idle s) :=
  ⟨fun _ => none, start, fun _ => trivial⟩

/-- An operation, or the end of the call, keeps the invariant. -/
theorem Holds.advance (kept : D.Kept may ok) {w : Pool Reply ε α κ σ} (h : D.Holds w)
    (here : w.threads t = some (call, p))
    (allowed : match p with | .call op _ => may t call op w.shared | _ => True) :
    D.Holds (S.advance w t call p) := by
  obtain ⟨places, inv, tracks⟩ := h
  obtain ⟨g, place, keeps⟩ := tracks.present here
  cases p with
  | pure a =>
    have left := @kept.leave t call w.shared places g (.ok a) inv place keeps
    exact ⟨_, left, tracks.erase⟩
  | throw e =>
    have left := @kept.leave t call w.shared places g (.error e) inv place keeps
    exact ⟨_, left, tracks.erase⟩
  | call op next =>
    unfold System.advance
    dsimp only
    cases answer : S.act t call op w.shared with
    | none => exact ⟨places, inv, tracks⟩
    | some answered =>
      obtain ⟨r, s⟩ := answered
      obtain ⟨g', said, inv'⟩ := kept.act inv place keeps.1 allowed answer
      exact ⟨_, inv', tracks.update (keeps.2 r g' said)⟩

theorem Holds.step (kept : D.Kept may ok) {w : Pool Reply ε α κ σ} (h : D.Holds w) (move : Move κ η)
    (allowed : permits may ok w move) : D.Holds (S.step w move) := by
  cases move with
  | begin t call =>
    unfold System.step
    dsimp only
    cases here : w.threads t with
    | some _ => exact h
    | none =>
      cases entered : S.enter t call w.shared with
      | none => exact h
      | some s =>
        obtain ⟨places, inv, tracks⟩ := h
        obtain ⟨g, inv', keeps⟩ := kept.enter inv (tracks.absent here) entered
        exact ⟨_, inv', tracks.update keeps⟩
  | go t =>
    unfold System.step
    dsimp only
    unfold permits at allowed
    dsimp only at allowed
    cases here : w.threads t with
    | none => exact h
    | some at_ =>
      obtain ⟨call, p⟩ := at_
      rw [here] at allowed
      refine h.advance kept here ?_
      cases p with
      | call op next => exact allowed
      | _ => trivial
  | happen event =>
    obtain ⟨places, inv, tracks⟩ := h
    exact ⟨places, kept.happen inv allowed, tracks⟩

/-- Whatever the threads do in turn, the invariant holds of every pool reached. -/
theorem Kept.reach (kept : D.Kept may ok) {s : σ} {w : Pool Reply ε α κ σ}
    (reached : Reach S.step (permits may ok) (System.idle s) w) (start : D.inv s (fun _ => none)) :
    D.Holds w :=
  reached.invariant (Holds.idle start) (fun _ move h allowed => h.step kept move allowed)

end Discipline

end System

end ArduinoDriver.Lib
