import ArduinoDriver.Firmware.Commands
import ArduinoDriver.Lib.History
import ArduinoDriver.Lib.Rotation
import Mathlib.Data.List.Perm.Basic

namespace ArduinoDriver

open Lib.Rotation

/-- The pins whose intended mode is ANALOG_IN. -/
def UsbIoDevice.analogInPins (d : UsbIoDevice) : List Nat :=
  (List.range d.nPins).filter fun p => d.mode p == some .analogIn

/-- The pin a step of refresh_shadow() reads with analogRead(). -/
def ShadowPc.reads (d : UsbIoDevice) : ShadowPc → Option Nat
  | .analog i => if i < d.nPins ∧ d.mode d.ainCursor = some .analogIn then some d.ainCursor else none
  | _ => none

/-- An analogRead() of refresh_shadow(), with the number of its poll(). -/
structure Refresh where
  poll : Nat
  pin : Nat
  deriving DecidableEq, Repr

/-- The poll() calls of a run and their analogRead()s, newest first. -/
structure Refreshes where
  polls : Nat
  reads : List Refresh

def Refreshes.empty : Refreshes := ⟨0, []⟩

def refreshing (m : Machine) (act : Act) (g : Refreshes) : Refreshes :=
  match act with
  | .loop _ => match m.pc with
    | .idle => { g with polls := g.polls + 1 }
    | .shadow pc => match pc.reads m.dev with
      | some p => { g with reads := ⟨g.polls, p⟩ :: g.reads }
      | none => g
    | _ => g
  | _ => g

/-- The poll() calls that have returned. -/
def Refreshes.completed (g : Refreshes) (m : Machine) : Nat :=
  if m.pc = .idle then g.polls else g.polls - 1

/-- The pins read in the `k` polls after poll `a`. -/
def Refreshes.window (g : Refreshes) (a k : Nat) : List Nat :=
  (g.reads.filter fun x => a < x.poll ∧ x.poll ≤ a + k).map Refresh.pin

def appliesReset (m : Machine) : Act → Bool
  | .loop _ => match m.pc with
    | .drain (.resetApply _) => true
    | _ => false
  | _ => false

/-- No intended mode changes and no RESET is applied. -/
def steady (b : Board) (r : Machine × Refreshes) (act : Act) : Prop :=
  (∀ p < r.1.dev.nPins, (step b r.1 act).dev.mode p = r.1.dev.mode p) ∧ appliesReset r.1 act = false

instance (b : Board) (r : Machine × Refreshes) (act : Act) : Decidable (steady b r act) :=
  inferInstanceAs (Decidable (_ ∧ _))

/-- How far the scan of the poll under way has come: `done` reads so far, `polls` begun. -/
def Pc.Scans (n : Nat) (p : Nat → Bool) (cursor done polls : Nat) : Pc → Prop
  | .drain _ | .shadow .enter | .shadow (.pin _) => done + 1 = polls
  | .shadow (.analog i) => done + 1 = polls ∧ i ≤ n ∧ ahead n p cursor i = cycle n p cursor
  | _ => done = polls

/-- The pins `p` below `n` have been read in turn, in the order `l`. -/
structure InTurn (n : Nat) (p : Nat → Bool) (l : List Nat) (m : Machine) (g : Refreshes) : Prop where
  pins : m.dev.nPins = n
  members : ∀ q < n, (m.dev.mode q == some .analogIn) = p q
  cursor : m.dev.ainCursor < n
  order : cycle n p m.dev.ainCursor = l.rotate g.reads.length
  reads : g.reads.map (fun x => (x.poll, some x.pin)) =
    ((List.range g.reads.length).map fun i => (i + 1, turn l i)).reverse
  place : m.pc.Scans n p m.dev.ainCursor g.reads.length g.polls

variable {b : Board} {env : Env} {d d' : UsbIoDevice} {o : Obs} {m m' : Machine} {g g' : Refreshes}
  {n : Nat} {p : Nat → Bool} {l : List Nat} {log : Log}

/-- A read goes into the shadow of the pin, and nothing else does. -/
theorem shadowStep_ain (env : Env) (d : UsbIoDevice) (pc : ShadowPc) :
    (shadowStep env d pc).1.ain = match pc.reads d with
      | some p => Function.update d.ain p (readAnalog env p)
      | none => d.ain := by
  cases pc with
  | enter => rfl
  | pin p =>
    simp only [shadowStep, ShadowPc.reads]
    split
    · split <;> rfl
    · rfl
  | analog i =>
    by_cases more : i < d.nPins
    · by_cases analog : d.mode d.ainCursor = some .analogIn <;>
        simp [shadowStep, ShadowPc.reads, more, analog]
    · simp [shadowStep, ShadowPc.reads, more]

theorem Served.cursor (served : Served b env d d' o) :
    d'.ainCursor = d.ainCursor ∧ d'.nPins = d.nPins := by
  cases served <;> exact ⟨rfl, rfl⟩

/-- Only apply_reset() puts the cursor back. -/
theorem drainStep_cursor {pc : DrainPc} (other : ∀ seen, pc ≠ .resetApply seen) :
    (drainStep b env d pc).1.ainCursor = d.ainCursor ∧ (drainStep b env d pc).1.nPins = d.nPins ∧
      (drainStep b env d pc).1.mode = d.mode := by
  cases pc with
  | resetApply seen => exact absurd rfl (other seen)
  | epochTest | outerTest =>
    simp only [drainStep]
    split <;> exact ⟨rfl, rfl, rfl⟩
  | execute c =>
    obtain ⟨dio, ain, eq⟩ := execute_frame b env d c
    rw [show (drainStep b env d (.execute c)).1 = _ from eq]
    exact ⟨rfl, rfl, rfl⟩
  | _ => exact ⟨rfl, rfl, rfl⟩

/-- A step that neither moves the cursor nor reads. -/
theorem InTurn.quiet (h : InTurn n p l m g) (reads : g'.reads = g.reads)
    (cursor : m'.dev.ainCursor = m.dev.ainCursor) (pins : m'.dev.nPins = m.dev.nPins)
    (modes : ∀ q < m.dev.nPins, m'.dev.mode q = m.dev.mode q)
    (place : m'.pc.Scans n p m.dev.ainCursor g.reads.length g'.polls) : InTurn n p l m' g' := by
  refine ⟨pins.trans h.pins, fun q inside => ?_, ?_, ?_, ?_, ?_⟩
  · rw [modes q (h.pins ▸ inside)]
    exact h.members q inside
  · rw [cursor]
    exact h.cursor
  · rw [cursor, reads]
    exact h.order
  · rw [reads]
    exact h.reads
  · rw [cursor, reads]
    exact place

theorem InTurn.shadow {pc : ShadowPc} (some_ : l ≠ []) (h : InTurn n p l ⟨d, .shadow pc, log⟩ g) :
    InTurn n p l (loopStep b env ⟨d, .shadow pc, log⟩)
      (refreshing ⟨d, .shadow pc, log⟩ (.loop env) g) := by
  have pins : d.nPins = n := h.pins
  have cursor : d.ainCursor < n := h.cursor
  cases pc with
  | enter =>
    have some_pins : d.nPins ≠ 0 := by omega
    have stepped : loopStep b env ⟨d, .shadow .enter, log⟩ = ⟨d, .shadow (.pin 0), log⟩ := by
      simp [loopStep, shadowStep, some_pins]
    rw [stepped]
    exact h.quiet rfl rfl rfl (fun _ _ => rfl) h.place
  | pin q =>
    have place : g.reads.length + 1 = g.polls := h.place
    simp only [loopStep, shadowStep]
    split
    · split <;> exact h.quiet rfl rfl rfl (fun _ _ => rfl) place
    · exact h.quiet rfl rfl rfl (fun _ _ => rfl) ⟨place, Nat.zero_le _, ahead_start ..⟩
  | analog i =>
    obtain ⟨due, inside, left⟩ : g.reads.length + 1 = g.polls ∧ i ≤ n ∧
        ahead n p d.ainCursor i = cycle n p d.ainCursor := h.place
    have member := h.members d.ainCursor cursor
    have more : i < n := by
      -- a scan that ends without a read has met none of the pins
      refine Nat.lt_of_le_of_ne inside ?_
      rintro rfl
      rw [ahead_end] at left
      have order := h.order
      rw [← left] at order
      exact some_ (List.rotate_eq_nil_iff.mp order.symm)
    by_cases analog : d.mode d.ainCursor = some .analogIn
    · have found : p d.ainCursor = true := by
        rw [← member]
        simp [analog]
      obtain ⟨rest, first, next⟩ := cycle_take cursor found
      have order := h.order
      rw [show cycle n p _ = _ from first] at order
      obtain ⟨taken, later⟩ := turn_next order.symm
      have stepped : loopStep b env ⟨d, .shadow (.analog i), log⟩ =
          ⟨{ d with
              ainCursor := (d.ainCursor + 1) % n
              ain := Function.update d.ain d.ainCursor (readAnalog env d.ainCursor) },
            .event .readClock, log⟩ := by
        simp [loopStep, shadowStep, pins, more, analog]
      have noted : refreshing ⟨d, .shadow (.analog i), log⟩ (.loop env) g =
          { g with reads := ⟨g.polls, d.ainCursor⟩ :: g.reads } := by
        simp [refreshing, ShadowPc.reads, pins, more, analog]
      rw [stepped, noted]
      refine ⟨pins, h.members, Nat.mod_lt _ (by omega), next.trans later.symm, ?_, due⟩
      change (g.polls, some d.ainCursor) :: _ = ((List.range (g.reads.length + 1)).map _).reverse
      rw [List.range_succ, List.map_append, List.reverse_append, h.reads]
      simp [taken, due]
    · have missed : p d.ainCursor = false := by
        rw [← member]
        simp [analog]
      have stepped : loopStep b env ⟨d, .shadow (.analog i), log⟩ =
          ⟨{ d with ainCursor := (d.ainCursor + 1) % n }, .shadow (.analog (i + 1)), log⟩ := by
        simp [loopStep, shadowStep, pins, more, analog]
      have noted : refreshing ⟨d, .shadow (.analog i), log⟩ (.loop env) g = g := by
        simp [refreshing, ShadowPc.reads, analog]
      have skipped := cycle_skip cursor missed
      rw [stepped, noted]
      refine ⟨pins, h.members, Nat.mod_lt _ (by omega), ?_, h.reads, due, more, ?_⟩
      · exact skipped.trans h.order
      · change ahead n p ((d.ainCursor + 1) % n) (i + 1) = cycle n p ((d.ainCursor + 1) % n)
        rw [ahead_skip cursor more missed, left, skipped]

theorem step_inTurn {act : Act} (some_ : l ≠ []) (h : InTurn n p l m g)
    (allowed : steady b (m, g) act) : InTurn n p l (step b m act) (refreshing m act g) := by
  obtain ⟨modes, unreset⟩ := allowed
  cases act with
  | setup env s =>
    obtain ⟨cursor, pins⟩ := (handleSetup_served b env m.dev s).cursor
    exact h.quiet rfl cursor pins modes h.place
  | disconnect => exact h.quiet rfl rfl rfl modes h.place
  | loop env =>
    obtain ⟨d, pc, log⟩ := m
    cases pc with
    | idle =>
      have place : g.reads.length = g.polls := h.place
      exact h.quiet rfl rfl rfl modes (congrArg (· + 1) place)
    | drain pc =>
      have other : ∀ seen, pc ≠ .resetApply seen := by
        rintro seen rfl
        contradiction
      obtain ⟨cursor, pins, _⟩ := @drainStep_cursor b env d pc other
      refine h.quiet rfl cursor pins modes ?_
      simp only [step, loopStep]
      cases (drainStep b env d pc).2.1 <;> exact h.place
    | shadow pc => exact @InTurn.shadow b env d g n p l log pc some_ h
    | event pc =>
      refine h.quiet rfl rfl rfl modes ?_
      simp only [step, loopStep, afterEvent]
      cases (eventStep env d pc).2.1 with
      | none => cases b.hasStreamTransport <;> exact h.place
      | some next => exact h.place
    | stream pc =>
      refine h.quiet rfl rfl rfl modes ?_
      simp only [step, loopStep]
      cases (streamStep b env d pc).2.1 <;> exact h.place

theorem InTurn.completed (h : InTurn n p l m g) : g.completed m ≤ g.reads.length := by
  have place := h.place
  unfold Refreshes.completed
  cases at_pc : m.pc with
  | idle =>
    rw [at_pc] at place
    exact Nat.le_of_eq place.symm
  | drain pc =>
    rw [at_pc] at place
    have : g.reads.length + 1 = g.polls := place
    simp
    omega
  | shadow pc =>
    rw [at_pc] at place
    have : g.reads.length + 1 = g.polls := by
      cases pc with
      | analog i => exact place.1
      | _ => exact place
    simp
    omega
  | _ =>
    rw [at_pc] at place
    have : g.reads.length = g.polls := place
    simp
    omega

/-- The reads of a window are the turns of its polls. -/
theorem InTurn.window (h : InTurn n p l m g) {a : Nat} (ended : a + l.length ≤ g.completed m) :
    (g.window a l.length).Perm l := by
  have done := ended.trans h.completed
  have polls : ((List.range g.reads.length).filter fun i => a < i + 1 ∧ i + 1 ≤ a + l.length).Perm
      ((List.range l.length).map (a + ·)) := by
    refine (List.perm_ext_iff_of_nodup (List.nodup_range.filter _)
      (List.nodup_range.map (fun _ _ => Nat.add_left_cancel))).mpr fun i => ?_
    simp only [List.mem_filter, List.mem_range, List.mem_map, decide_eq_true_eq]
    constructor
    · rintro ⟨_, after, upTo⟩
      exact ⟨i - a, by omega, by omega⟩
    · rintro ⟨j, below, rfl⟩
      omega
  have turns : ((g.window a l.length).map some).Perm ((List.range l.length).map fun i => turn l (a + i)) := by
    have noted : (g.window a l.length).map some =
        (((g.reads.map fun x => (x.poll, some x.pin)).filter fun x => a < x.1 ∧ x.1 ≤ a + l.length).map
          Prod.snd) := by
      unfold Refreshes.window
      rw [List.filter_map, List.map_map, List.map_map]
      rfl
    rw [noted, h.reads, List.filter_reverse, List.map_reverse, List.filter_map, List.map_map]
    refine (List.reverse_perm _).trans ?_
    have counted := polls.map (turn l)
    rw [List.map_map] at counted
    exact counted
  exact (List.map_perm_map_iff (Option.some_injective _)).mp (turns.trans (turns_perm l a))

/-- As long as the intended modes stay and no RESET is applied, each of the `k` analog pins is
refreshed once in any `k` polls in a row, by the only analogRead() of its poll; what is read is
what the shadow gets. -/
theorem analog_pins_refreshed_in_turn (b : Board) (m : Machine) (idle : m.pc = .idle)
    (cursor : m.dev.ainCursor < m.dev.nPins) (some_ : m.dev.analogInPins ≠ []) (r : Machine × Refreshes)
    (reached : Lib.Reach (Lib.recording (step b) refreshing) (steady b) (m, .empty) r) :
    (∀ a, a + m.dev.analogInPins.length ≤ r.2.completed r.1 →
      (r.2.window a m.dev.analogInPins.length).Perm m.dev.analogInPins) ∧
    (∀ p ∈ m.dev.analogInPins, m.dev.analogInPins.length < r.2.polls →
      ∃ x ∈ r.2.reads, x.pin = p ∧ r.2.polls ≤ x.poll + m.dev.analogInPins.length) ∧
    ∀ env pc, r.1.pc = .shadow pc → (step b r.1 (.loop env)).dev.ain = match pc.reads r.1.dev with
      | some p => Function.update r.1.dev.ain p (readAnalog env p)
      | none => r.1.dev.ain := by
  have all := cycle_perm m.dev.nPins (fun p => m.dev.mode p == some .analogIn) m.dev.ainCursor
  have size := all.length_eq
  have nonempty : cycle m.dev.nPins (fun p => m.dev.mode p == some .analogIn) m.dev.ainCursor ≠ [] := by
    intro none_
    rw [none_] at all
    exact some_ all.nil_eq.symm
  have inTurn : InTurn m.dev.nPins (fun p => m.dev.mode p == some .analogIn)
      (cycle m.dev.nPins (fun p => m.dev.mode p == some .analogIn) m.dev.ainCursor) r.1 r.2 := by
    refine reached.invariant
      (I := fun r => InTurn m.dev.nPins (fun p => m.dev.mode p == some .analogIn)
        (cycle m.dev.nPins (fun p => m.dev.mode p == some .analogIn) m.dev.ainCursor) r.1 r.2)
      ⟨rfl, fun _ _ => rfl, cursor, (List.rotate_zero _).symm, rfl, ?_⟩ ?_
    · rw [idle]
      rfl
    · rintro ⟨u, g⟩ act h allowed
      exact step_inTurn nonempty h allowed
  have windows : ∀ a, a + m.dev.analogInPins.length ≤ r.2.completed r.1 →
      (r.2.window a m.dev.analogInPins.length).Perm m.dev.analogInPins := by
    intro a ended
    have window := @InTurn.window _ _ _ _ _ inTurn a (by rwa [size])
    rw [size] at window
    exact window.trans all
  refine ⟨windows, fun p analog begun => ?_, fun env pc at_pc => ?_⟩
  · have ended : r.2.polls - 1 ≤ r.2.completed r.1 := by
      unfold Refreshes.completed
      split <;> omega
    have inside := (windows (r.2.polls - 1 - m.dev.analogInPins.length) (by omega)).mem_iff.mpr analog
    obtain ⟨x, among, rfl⟩ := List.mem_map.mp inside
    obtain ⟨read, within⟩ := List.mem_filter.mp among
    have within := of_decide_eq_true within
    exact ⟨x, read, rfl, by omega⟩
  · obtain ⟨⟨d, _, log⟩, g⟩ := r
    obtain rfl := at_pc
    exact shadowStep_ain env d pc

/-- Two pins that have just been put in ANALOG_IN. -/
def bothAnalog : Machine := run twoPinBoard (boot twoPinBoard) [request .pinMode 4 0, request .pinMode 4 1]

/-- Two polls from there, and most of a third. -/
def bothRefreshed : Machine × Refreshes :=
  (List.replicate 70 (.loop (stillEnv .sent))).foldl (Lib.recording (step twoPinBoard) refreshing)
    (bothAnalog, .empty)

theorem analog_pins_refreshed_in_turn_two_pins :
    bothRefreshed.2.completed bothRefreshed.1 = 2 ∧ (bothRefreshed.2.window 0 2).Perm [0, 1] := by
  have both : bothAnalog.dev.analogInPins = [0, 1] := by decide +kernel
  have refreshed := (analog_pins_refreshed_in_turn twoPinBoard bothAnalog rfl (by decide +kernel)
    (by decide +kernel) bothRefreshed (Lib.Follows.reach (by decide +kernel))).1 0
  rw [both] at refreshed
  exact ⟨by decide +kernel, refreshed (by decide +kernel)⟩

end ArduinoDriver
