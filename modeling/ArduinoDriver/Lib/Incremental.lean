import Mathlib.Data.List.Basic

namespace ArduinoDriver.Lib

/-- A parser that takes an item off the front of its input once enough of it is
there, and waits for more otherwise. -/
structure Incremental (σ α : Type) where
  /-- The state after one item, and how many symbols it took. -/
  step : σ → List α → Option (σ × Nat)
  /-- An item has symbols, all of them there. -/
  takes : ∀ {s s' : σ} {l : List α} {n : Nat}, step s l = some (s', n) → 0 < n ∧ n ≤ l.length
  /-- What follows an item does not change it. -/
  settled : ∀ {s : σ} {l : List α} {r : σ × Nat} (more : List α),
    step s l = some r → step s (l ++ more) = some r

namespace Incremental

variable {σ α : Type} (p : Incremental σ α) {s s' : σ} {l more : List α} {n fuel : Nat}

/-- At most `fuel` items. -/
def runFor : Nat → σ → List α → σ × List α
  | 0, s, l => (s, l)
  | fuel + 1, s, l =>
    match p.step s l with
    | none => (s, l)
    | some (s', n) => runFor fuel s' (l.drop n)

/-- All items that are there, and what is left over. -/
def run (s : σ) (l : List α) : σ × List α := p.runFor l.length s l

/-- One more chunk, behind what was left over. -/
def feed (st : σ × List α) (chunk : List α) : σ × List α := p.run st.1 (st.2 ++ chunk)

variable {p}

theorem runFor_wait (waits : p.step s l = none) (fuel : Nat) : p.runFor fuel s l = (s, l) := by
  cases fuel with
  | zero => rfl
  | succ fuel => simp only [runFor, waits]

theorem runFor_step (steps : p.step s l = some (s', n)) (fuel : Nat) :
    p.runFor (fuel + 1) s l = p.runFor fuel s' (l.drop n) := by
  simp only [runFor, steps]

theorem drop_shorter (steps : p.step s l = some (s', n)) : (l.drop n).length < l.length := by
  obtain ⟨some_, there⟩ := p.takes steps
  rw [List.length_drop]
  omega

/-- A symbol an item is fuel enough. -/
theorem runFor_enough (enough : l.length ≤ fuel) : p.runFor fuel s l = p.run s l := by
  unfold run
  induction fuel using Nat.strongRecOn generalizing s l with
  | _ fuel ih =>
    cases steps : p.step s l with
    | none => rw [runFor_wait steps, runFor_wait steps]
    | some r =>
      obtain ⟨s', n⟩ := r
      have shorter := drop_shorter steps
      obtain ⟨fuel, rfl⟩ : ∃ k, fuel = k + 1 := ⟨fuel - 1, by omega⟩
      obtain ⟨len, same⟩ : ∃ k, l.length = k + 1 := ⟨l.length - 1, by omega⟩
      rw [same, runFor_step steps, runFor_step steps, ih fuel (by omega) (by omega)]
      rcases Nat.lt_or_ge len (fuel + 1) with less | more
      · rw [ih len less (by omega)]
      · have equal : len = fuel := by omega
        rw [equal, ih fuel (by omega) (by omega)]

theorem run_wait (waits : p.step s l = none) : p.run s l = (s, l) := runFor_wait waits _

theorem run_step (steps : p.step s l = some (s', n)) : p.run s l = p.run s' (l.drop n) := by
  have shorter := drop_shorter steps
  obtain ⟨len, same⟩ : ∃ k, l.length = k + 1 := ⟨l.length - 1, by omega⟩
  calc p.run s l = p.runFor (len + 1) s l := by rw [run, same]
    _ = p.runFor len s' (l.drop n) := runFor_step steps len
    _ = p.run s' (l.drop n) := runFor_enough (by omega)

/-- An induction along a run: the input ends in a wait, or an item leads on. -/
theorem run_induction {motive : σ → List α → Prop}
    (wait : ∀ s l, p.step s l = none → motive s l)
    (step : ∀ s l s' n, p.step s l = some (s', n) → motive s' (l.drop n) → motive s l)
    (s : σ) (l : List α) : motive s l := by
  induction size : l.length using Nat.strongRecOn generalizing s l with
  | _ size ih =>
    cases steps : p.step s l with
    | none => exact wait s l steps
    | some r => exact step s l _ _ steps (ih _ (size ▸ drop_shorter steps) _ _ rfl)

/-- A run ends where the parser has to wait. -/
theorem run_waits (s : σ) (l : List α) : p.step (p.run s l).1 (p.run s l).2 = none := by
  induction s, l using run_induction (p := p) with
  | wait s l waits => rwa [run_wait waits]
  | step s l s' n steps ih => rwa [run_step steps]

theorem run_append (s : σ) (l more : List α) :
    p.run s (l ++ more) = p.feed (p.run s l) more := by
  induction s, l using run_induction (p := p) with
  | wait s l waits => rw [run_wait waits, feed]
  | step s l s' n steps ih =>
    rw [run_step steps, run_step (p.settled more steps),
      List.drop_append_of_le_length (p.takes steps).2, ih]

/-- Chunk by chunk is all at once. -/
theorem feed_all (waits : p.step s l = none) (chunks : List (List α)) :
    chunks.foldl p.feed (s, l) = p.run s (l ++ chunks.flatten) := by
  induction chunks generalizing s l with
  | nil => rw [List.flatten_nil, List.append_nil, List.foldl_nil, run_wait waits]
  | cons chunk chunks ih =>
    rw [List.flatten_cons, ← List.append_assoc, run_append]
    exact ih (run_waits s (l ++ chunk))

/-- What an item keeps a run keeps. -/
theorem run_keeps {I : σ → Prop}
    (keep : ∀ s l s' n, p.step s l = some (s', n) → I s → I s') (s : σ) (l : List α) (start : I s) :
    I (p.run s l).1 := by
  induction s, l using run_induction (p := p) with
  | wait s l waits => rwa [run_wait waits]
  | step s l s' n steps ih =>
    rw [run_step steps]
    exact ih (keep s l s' n steps start)

/-- Runs from two states that look the same end in states that look the same, when no item
tells the two apart. -/
theorem run_view {τ : Type} (view : σ → τ)
    (same : ∀ s t l, view s = view t →
      (p.step s l).map (Prod.map view id) = (p.step t l).map (Prod.map view id))
    (s t : σ) (l : List α) (start : view s = view t) :
    Prod.map view id (p.run s l) = Prod.map view id (p.run t l) := by
  induction s, l using run_induction (p := p) generalizing t with
  | wait s l waits =>
    have also : p.step t l = none := by
      have alike := same s t l start
      rw [waits] at alike
      exact Option.map_eq_none_iff.mp alike.symm
    rw [run_wait waits, run_wait also]
    exact congrArg (fun v => (v, l)) start
  | step s l s' n steps ih =>
    have alike := same s t l start
    rw [steps] at alike
    obtain ⟨r, also, look⟩ := Option.map_eq_some_iff.mp alike.symm
    obtain ⟨t', k⟩ := r
    obtain ⟨looks, count⟩ := Prod.mk.inj look
    have length : k = n := count
    subst length
    rw [run_step steps, run_step also]
    exact ih t' looks.symm

end Incremental

end ArduinoDriver.Lib
