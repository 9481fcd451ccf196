import ArduinoDriver.Lib.Incremental

namespace ArduinoDriver.Lib

variable {σ α ρ β : Type} {p : Incremental σ α}

/-- A piece of framed input: a frame, or symbols that belong to none. -/
inductive Block (ρ α : Type) where
  | frame (r : ρ)
  | noise (l : List α)
  deriving DecidableEq, Repr

def Block.isFrame : Block ρ α → Bool
  | .frame _ => true
  | .noise _ => false

def Block.frame? : Block ρ α → Option ρ
  | .frame r => some r
  | .noise _ => none

/-- The frames, in order. -/
def Block.frames (blocks : List (Block ρ α)) : List ρ := blocks.filterMap Block.frame?

/-- How many runs of noise a frame ends. -/
def Block.returns (blocks : List (Block ρ α)) : Nat :=
  (blocks.zip blocks.tail).countP fun (before, next) => !before.isFrame && next.isFrame

theorem Block.returns_frame (r : ρ) (blocks : List (Block ρ α)) :
    returns (.frame r :: blocks) = returns blocks := by
  cases blocks with
  | nil => rfl
  | cons next blocks => simp [returns, isFrame]

theorem Block.returns_noise (l : List α) (blocks : List (Block ρ α)) :
    returns (.noise l :: blocks) =
      (if (blocks.head?.any isFrame) then 1 else 0) + returns blocks := by
  cases blocks with
  | nil => rfl
  | cons next blocks =>
    cases next <;> simp [returns, isFrame, Nat.add_comm]

theorem Block.returns_frames {blocks : List (Block ρ α)}
    (frames : ∀ block ∈ blocks, block.isFrame = true) : returns blocks = 0 := by
  induction blocks with
  | nil => rfl
  | cons block blocks ih =>
    have rest := ih (fun block' inside => frames block' (List.mem_cons_of_mem _ inside))
    cases block with
    | frame r => rw [returns_frame, rest]
    | noise l => exact absurd (frames (.noise l) (List.mem_cons_self ..)) (by simp [isFrame])

/-- A parser of framed input: it takes the frames `encode` writes, and goes one
symbol ahead where no frame opens. -/
structure Framing (p : Incremental σ α) (ρ : Type) where
  encode : ρ → List α
  accept : σ → ρ → σ
  lose : σ → σ
  /-- The input reads as the start of a frame. -/
  opens : List α → Prop
  /-- The number of symbols it takes to tell. -/
  need : Nat
  accepts : ∀ (s : σ) (r : ρ) (more : List α),
    p.step s (encode r ++ more) = some (accept s r, (encode r).length)
  waits : ∀ (s : σ) (l : List α), l.length < need → p.step s l = none
  skips : ∀ (s : σ) (l : List α), need ≤ l.length → ¬ opens l → p.step s l = some (lose s, 1)
  lose_lose : ∀ s : σ, lose (lose s) = lose s

namespace Framing

variable (F : Framing p ρ) {blocks : List (Block ρ α)} {s : σ} {l rest : List α}

def symbols (blocks : List (Block ρ α)) : List α :=
  blocks.flatMap fun
    | .frame r => F.encode r
    | .noise l => l

/-- No frame opens inside the noise, whatever follows it. -/
def Quiet : List (Block ρ α) → Prop
  | [] => True
  | .frame _ :: blocks => Quiet blocks
  | .noise l :: blocks =>
    l ≠ [] ∧ (∀ k < l.length, ¬ F.opens ((l ++ F.symbols blocks).drop k)) ∧ Quiet blocks

def take (s : σ) : Block ρ α → σ
  | .frame r => F.accept s r
  | .noise _ => F.lose s

variable {F}

theorem run_frame (r : ρ) (rest : List α) :
    p.run s (F.encode r ++ rest) = p.run (F.accept s r) rest := by
  rw [Incremental.run_step (F.accepts s r rest), List.drop_left]

theorem need_le_encode (s : σ) (r : ρ) : F.need ≤ (F.encode r).length := by
  by_contra short
  have waits := F.waits s (F.encode r) (by omega)
  have accepts := F.accepts s r []
  rw [List.append_nil, waits] at accepts
  contradiction

/-- Noise in front of what may be a frame is skipped whole. -/
theorem run_noise (some_ : l ≠ []) (enough : F.need ≤ rest.length)
    (quiet : ∀ k < l.length, ¬ F.opens ((l ++ rest).drop k)) :
    p.run s (l ++ rest) = p.run (F.lose s) rest := by
  induction l generalizing s with
  | nil => contradiction
  | cons a l ih =>
    have long : F.need ≤ (a :: l ++ rest).length := by
      rw [List.length_append]
      omega
    rw [Incremental.run_step (F.skips s _ long (quiet 0 (Nat.succ_pos _)))]
    change p.run (F.lose s) (l ++ rest) = p.run (F.lose s) rest
    by_cases last : l = []
    · rw [last, List.nil_append]
    · have later := ih (s := F.lose s) last
        (fun k inside => quiet (k + 1) (Nat.succ_lt_succ inside))
      rw [later, F.lose_lose]

/-- Noise at the end is skipped as far as a frame could open. -/
theorem run_ending (short : rest.length < F.need)
    (quiet : ∀ k < l.length, ¬ F.opens ((l ++ rest).drop k)) :
    (p.run s (l ++ rest)).1 = s ∨ (p.run s (l ++ rest)).1 = F.lose s := by
  induction l generalizing s with
  | nil =>
    rw [List.nil_append, Incremental.run_wait (F.waits s rest short)]
    exact .inl rfl
  | cons a l ih =>
    by_cases few : (a :: l ++ rest).length < F.need
    · rw [Incremental.run_wait (F.waits s _ few)]
      exact .inl rfl
    · have skips := F.skips s _ (Nat.le_of_not_lt few) (quiet 0 (Nat.succ_pos _))
      rw [Incremental.run_step skips]
      right
      rcases ih (s := F.lose s) (fun k inside => quiet (k + 1) (Nat.succ_lt_succ inside))
        with same | lost
      · exact same
      · exact lost.trans (F.lose_lose s)

/-- What holds no frame to wait for is noise only. -/
theorem take_short (short : (F.symbols blocks).length < F.need) :
    blocks.foldl F.take (F.lose s) = F.lose s := by
  induction blocks with
  | nil => rfl
  | cons block blocks ih =>
    have parts : F.symbols (block :: blocks) = F.symbols [block] ++ F.symbols blocks := by
      simp [symbols]
    rw [parts, List.length_append] at short
    cases block with
    | frame r =>
      have long := need_le_encode (F := F) s r
      have whole : F.symbols [.frame r] = F.encode r := by simp [symbols]
      rw [whole] at short
      omega
    | noise l =>
      rw [List.foldl_cons, take, F.lose_lose]
      exact ih (by omega)

/-- The frames of a quiet stream are taken in order; the state may still have to
lose sync to noise at the end. -/
theorem run_blocks (quiet : F.Quiet blocks) :
    (p.run s (F.symbols blocks)).1 = blocks.foldl F.take s ∨
      F.lose (p.run s (F.symbols blocks)).1 = blocks.foldl F.take s := by
  induction blocks generalizing s with
  | nil => exact .inl rfl
  | cons block blocks ih =>
    cases block with
    | frame r =>
      have first : F.symbols (.frame r :: blocks) = F.encode r ++ F.symbols blocks := rfl
      rw [first, run_frame]
      exact ih quiet
    | noise l =>
      obtain ⟨some_, silent, quiet⟩ := quiet
      have first : F.symbols (.noise l :: blocks) = l ++ F.symbols blocks := rfl
      rw [first]
      by_cases short : (F.symbols blocks).length < F.need
      · rw [List.foldl_cons, take, take_short short]
        rcases run_ending (s := s) short silent with same | lost
        · exact .inr (congrArg F.lose same)
        · exact .inl lost
      · rw [run_noise some_ (Nat.le_of_not_lt short) silent]
        exact ih quiet

/-- What losing sync does not touch shows the frames taken, and nothing else. -/
theorem run_observes {obs : σ → β} (blind : ∀ s, obs (F.lose s) = obs s)
    (quiet : F.Quiet blocks) :
    obs (p.run s (F.symbols blocks)).1 = obs (blocks.foldl F.take s) := by
  rcases run_blocks (s := s) quiet with same | lost
  · rw [same]
  · rw [← lost, blind]

/-- Noise stays quiet when less follows it. -/
theorem Quiet.of_append {later : List (Block ρ α)} (more : ∀ l l', F.opens l → F.opens (l ++ l'))
    (quiet : F.Quiet (blocks ++ later)) : F.Quiet blocks := by
  induction blocks with
  | nil => trivial
  | cons block blocks ih =>
    cases block with
    | frame r => exact ih quiet
    | noise l =>
      obtain ⟨some_, silent, quiet⟩ := quiet
      refine ⟨some_, fun k inside opens => silent k inside ?_, ih quiet⟩
      have parts : l ++ F.symbols (blocks ++ later) =
          (l ++ F.symbols blocks) ++ F.symbols later := by
        rw [List.append_assoc, symbols, List.flatMap_append]
        rfl
      have within : k ≤ (l ++ F.symbols blocks).length := by
        rw [List.length_append]
        omega
      change F.opens ((l ++ F.symbols (blocks ++ later)).drop k)
      rw [parts, List.drop_append_of_le_length within]
      exact more _ _ opens

end Framing

theorem Block.frames_append (blocks later : List (Block ρ α)) :
    frames (blocks ++ later) = frames blocks ++ frames later :=
  List.filterMap_append

/-- Every frame stands somewhere among the blocks. -/
theorem Block.frames_split {blocks : List (Block ρ α)} {r : ρ} {before after : List ρ}
    (split : frames blocks = before ++ r :: after) :
    ∃ seen rest, blocks = seen ++ .frame r :: rest ∧ frames seen = before := by
  obtain ⟨seen, later, rfl, first, last⟩ := List.filterMap_eq_append_iff.mp split
  obtain ⟨noise, block, rest, rfl, silent, found, _⟩ := List.filterMap_eq_cons_iff.mp last
  cases block with
  | noise l => contradiction
  | frame r' =>
    cases found
    refine ⟨seen ++ noise, rest, by rw [List.append_assoc], ?_⟩
    have none_ : frames noise = [] := List.filterMap_eq_nil_iff.mpr silent
    rw [frames_append, none_, List.append_nil]
    exact first

end ArduinoDriver.Lib
