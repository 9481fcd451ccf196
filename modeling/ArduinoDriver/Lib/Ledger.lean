import Mathlib.Data.List.Basic

namespace ArduinoDriver.Lib

/-- What has become of an item taken in. -/
inductive Fate where
  | held | handed | dropped | discarded
  deriving DecidableEq, Repr

/-- Every item taken in and what became of it, oldest first; one more item on its way;
and the number dropped since they were last reported. -/
structure Ledger (α : Type) where
  entries : List (α × Fate)
  flight : Option α
  drops : Nat

/-- The first `n` items held are handed over. -/
def handOver {α : Type} : Nat → List (α × Fate) → List (α × Fate)
  | 0, entries => entries
  | _ + 1, [] => []
  | n + 1, (x, .held) :: entries => (x, .handed) :: handOver n entries
  | n + 1, entry :: entries => entry :: handOver (n + 1) entries

namespace Ledger

variable {α : Type}

def empty : Ledger α := ⟨[], none, 0⟩

/-- The items with one fate, oldest first. -/
def withFate (g : Ledger α) (fate : Fate) : List α :=
  (g.entries.filter (·.2 = fate)).map Prod.fst

/-- Every item taken in and settled, with whether there was room for it. -/
def outcomes (g : Ledger α) : List (α × Bool) :=
  g.entries.map fun e => (e.1, e.2 != .dropped)

def enter (x : α) (g : Ledger α) : Ledger α := { g with flight := some x }

/-- What was on its way is held, or dropped. -/
def settle (kept : Bool) (g : Ledger α) : Ledger α where
  entries := g.entries ++ g.flight.toList.map fun x => (x, if kept then .held else .dropped)
  flight := none
  drops := if kept then g.drops else g.drops + 1

def hand (n : Nat) (g : Ledger α) : Ledger α :=
  { g with entries := handOver n g.entries, drops := 0 }

def discard (p : α → Bool) (g : Ledger α) : Ledger α :=
  { g with entries := g.entries.map fun e =>
      if e.2 = .held ∧ p e.1 = true then (e.1, .discarded) else e }

def clear (g : Ledger α) : Ledger α := { g.discard (fun _ => true) with drops := 0 }

/-- Nothing held is older than something handed over. -/
def Ordered (g : Ledger α) : Prop := g.entries.Pairwise fun e e' => e.2 = .held → e'.2 ≠ .handed

variable {g : Ledger α} {x : α} {n : Nat} {p : α → Bool} {kept : Bool} {fate : Fate}

theorem settle_withFate (flight : g.flight = some x) :
    (g.settle kept).withFate fate = g.withFate fate ++
      (if fate = (if kept then .held else .dropped) then [x] else []) := by
  unfold settle withFate
  rw [flight]
  dsimp only
  rw [List.filter_append, List.map_append]
  congr 1
  cases kept <;> cases fate <;> rfl

theorem settle_ordered (ordered : g.Ordered) : (g.settle kept).Ordered := by
  refine List.pairwise_append.mpr ⟨ordered, ?_, ?_⟩
  · cases g.flight with
    | none => exact .nil
    | some x => exact List.pairwise_singleton ..
  · rintro e _ e' inside _
    obtain ⟨x, _, rfl⟩ := List.mem_map.mp inside
    cases kept <;> simp

theorem handOver_held (entries : List (α × Fate)) (n : Nat) :
    ((handOver n entries).filter (·.2 = .held)).map Prod.fst =
      ((entries.filter (·.2 = .held)).map Prod.fst).drop n := by
  induction entries generalizing n with
  | nil => cases n <;> simp [handOver]
  | cons e entries ih =>
    obtain ⟨x, fate⟩ := e
    cases n with
    | zero => rfl
    | succ n => cases fate <;> simp [handOver, ih]

theorem hand_held (g : Ledger α) (n : Nat) :
    (g.hand n).withFate .held = (g.withFate .held).drop n :=
  handOver_held g.entries n

theorem handOver_handed {entries : List (α × Fate)}
    (ordered : entries.Pairwise fun e e' => e.2 = .held → e'.2 ≠ .handed) (n : Nat) :
    ((handOver n entries).filter (·.2 = .handed)).map Prod.fst =
      (entries.filter (·.2 = .handed)).map Prod.fst ++
        ((entries.filter (·.2 = .held)).map Prod.fst).take n := by
  induction entries generalizing n with
  | nil => cases n <;> simp [handOver]
  | cons e entries ih =>
    obtain ⟨x, fate⟩ := e
    obtain ⟨first, rest⟩ := List.pairwise_cons.mp ordered
    cases n with
    | zero => simp [handOver]
    | succ n =>
      cases fate with
      | held =>
        -- an item held is older than all that were handed over: there are none
        have none_later : entries.filter (·.2 = .handed) = [] :=
          List.filter_eq_nil_iff.mpr (fun e inside => by simpa using first e inside rfl)
        simp [handOver, ih rest, none_later]
      | handed | dropped | discarded => simp [handOver, ih rest]

/-- What is handed over is what was held longest. -/
theorem hand_handed (ordered : g.Ordered) (n : Nat) :
    (g.hand n).withFate .handed = g.withFate .handed ++ (g.withFate .held).take n :=
  handOver_handed ordered n

theorem handOver_outcomes (entries : List (α × Fate)) (n : Nat) :
    (handOver n entries).map (fun e => (e.1, e.2 != .dropped)) =
      entries.map (fun e => (e.1, e.2 != .dropped)) := by
  induction entries generalizing n with
  | nil => cases n <;> rfl
  | cons e entries ih =>
    obtain ⟨x, fate⟩ := e
    cases n with
    | zero => rfl
    | succ n =>
      cases fate with
      | held =>
        simp only [handOver, List.map_cons, ih]
        rfl
      | handed | dropped | discarded => simp only [handOver, List.map_cons, ih]

theorem hand_outcomes (g : Ledger α) (n : Nat) : (g.hand n).outcomes = g.outcomes :=
  handOver_outcomes g.entries n

theorem discard_outcomes (g : Ledger α) (p : α → Bool) : (g.discard p).outcomes = g.outcomes := by
  unfold discard outcomes
  dsimp only
  rw [List.map_map]
  refine List.map_congr_left (fun e _ => ?_)
  obtain ⟨x, fate⟩ := e
  cases chosen : p x <;> cases fate <;> simp only [Function.comp_apply, chosen] <;> rfl

theorem settle_outcomes (flight : g.flight = some x) :
    (g.settle kept).outcomes = g.outcomes ++ [(x, kept)] := by
  unfold settle outcomes
  rw [flight, List.map_append]
  cases kept <;> rfl

theorem hand_ordered (ordered : g.Ordered) (n : Nat) : (g.hand n).Ordered := by
  have kept : ∀ (entries : List (α × Fate)) (n : Nat),
      (entries.Pairwise fun e e' => e.2 = .held → e'.2 ≠ .handed) →
      (handOver n entries).Pairwise fun e e' => e.2 = .held → e'.2 ≠ .handed := by
    intro entries
    induction entries with
    | nil => exact fun n _ => by cases n <;> exact .nil
    | cons e entries ih =>
      intro n ordered
      obtain ⟨x, fate⟩ := e
      obtain ⟨first, rest⟩ := List.pairwise_cons.mp ordered
      cases n with
      | zero => exact ordered
      | succ n =>
        cases fate <;> exact List.pairwise_cons.mpr ⟨by simp, ih _ rest⟩
  exact kept g.entries n ordered

theorem discard_held (g : Ledger α) (p : α → Bool) :
    (g.discard p).withFate .held = (g.withFate .held).filter (fun x => !p x) := by
  unfold discard withFate
  dsimp only
  induction g.entries with
  | nil => rfl
  | cons e entries ih =>
    obtain ⟨x, fate⟩ := e
    cases fate <;> cases chosen : p x <;> simp_all

theorem discard_handed (g : Ledger α) (p : α → Bool) :
    (g.discard p).withFate .handed = g.withFate .handed := by
  unfold discard withFate
  dsimp only
  induction g.entries with
  | nil => rfl
  | cons e entries ih =>
    obtain ⟨x, fate⟩ := e
    cases fate <;> cases chosen : p x <;> simp_all

theorem discard_ordered (ordered : g.Ordered) (p : α → Bool) : (g.discard p).Ordered := by
  refine List.pairwise_map.mpr (ordered.imp ?_)
  rintro ⟨x, fate⟩ ⟨x', fate'⟩ apart
  cases fate <;> cases fate' <;> cases chosen : p x <;> cases chosen' : p x' <;> simp_all

end Ledger

end ArduinoDriver.Lib
