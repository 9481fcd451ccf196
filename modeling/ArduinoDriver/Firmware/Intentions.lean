import ArduinoDriver.Firmware.Commands
import ArduinoDriver.Lib.Replay

namespace ArduinoDriver

def Obs.setWish (p : Nat) : Obs → Option Bool → Option Bool
  | .accepted .pinMode index _, x => if index.toNat = p then none else x
  | .accepted .dioWrite index value, x => if index.toNat = p then some (decide (value ≠ 0)) else x
  | _, x => x

/-- The value of the last DIO_WRITE accepted after the last PIN_MODE. -/
def Log.wished (log : Log) (p : Nat) : Option Bool := log.foldr (Obs.setWish p) none

/-- The mode a command gives pin `p`, if any. -/
def Command.mode? (p : Nat) (c : Command) : Option PinMode :=
  if c.pin = p ∧ c.cmd = .pinMode then PinMode.ofCode? c.value.toUInt8.toUInt16 else none

def Command.setMode (p : Nat) (x : Option PinMode) (c : Command) : Option PinMode :=
  (c.mode? p).or x

def Command.setLevel (p : Nat) (x : Option Bool) (c : Command) : Option Bool :=
  if c.pin = p then
    match c.cmd with
    | .pinMode => none
    | .dioWrite => some (decide (c.value ≠ 0))
    | _ => x
  else x

/-- A RESET that apply_reset() has not served. -/
def UsbIoDevice.resetPending (d : UsbIoDevice) : Bool := d.resetDone != d.resetRequests

/-- A command that apply_reset() leaves as it found it: one for a pin it skips, or
the INPUT it applies itself. -/
def Command.harmless (d : UsbIoDevice) (c : Command) : Bool :=
  !hasCap (d.caps c.pin) capDio || (c.cmd == .pinMode && c.value == PinMode.input.code)

/-- The step that breaks RESET: a command accepted after it passes the epoch test
while apply_reset() is still to come. -/
def overtakesReset (m : Machine) : Act → Bool
  | .loop _ =>
    match m.pc with
    | .drain (.epochTest c) =>
      c.epoch == m.dev.epoch && m.dev.resetPending && !c.harmless m.dev
    | _ => false
  | _ => false

variable {b : Board} {env : Env} {d d' : UsbIoDevice} {o : Obs} {log news : Log}
  {m m' : Machine} {c : Command}

/-- The fields RESET and the intended modes are about. -/
structure SameResets (d' d : UsbIoDevice) : Prop where
  epoch : d'.epoch = d.epoch
  requests : d'.resetRequests = d.resetRequests
  done : d'.resetDone = d.resetDone
  mode : d'.mode = d.mode
  caps : d'.caps = d.caps
  nPins : d'.nPins = d.nPins

theorem SameCommands.resets (h : SameCommands d' d) : SameResets d' d :=
  ⟨h.epoch, h.requests, h.done, h.mode, h.caps, h.nPins⟩

theorem SameResets.pending (h : SameResets d' d) : d'.resetPending = d.resetPending := by
  unfold UsbIoDevice.resetPending
  rw [h.requests, h.done]

theorem setMode_overwrites (p : Nat) : Lib.Overwrites (Command.setMode p) := by
  intro c
  cases eq : c.mode? p with
  | none => exact .inl (fun x => by simp [Command.setMode, eq])
  | some mode => exact .inr ⟨some mode, fun x => by simp [Command.setMode, eq]⟩

theorem setLevel_overwrites (p : Nat) : Lib.Overwrites (Command.setLevel p) := by
  intro c
  unfold Command.setLevel
  split
  · split
    · exact .inr ⟨none, fun _ => rfl⟩
    · exact .inr ⟨_, fun _ => rfl⟩
    · exact .inl (fun _ => rfl)
  · exact .inl (fun _ => rfl)

theorem Command.setMode_elsewhere {p : Nat} (other : c.pin ≠ p) (x : Option PinMode) :
    c.setMode p x = x := by
  unfold Command.setMode Command.mode?
  rw [if_neg (fun both => other both.1), Option.none_or]

theorem Command.setLevel_elsewhere {p : Nat} (other : c.pin ≠ p) (x : Option Bool) :
    c.setLevel p x = x :=
  if_neg other

/-- A harmless command does to a DIO pin what apply_reset() is about to do. -/
theorem Command.harmless_digital {p : Nat} (harmless : c.harmless d)
    (digital : hasCap (d.caps p) capDio) :
    c.setMode p (some .input) = some .input ∧ c.setLevel p none = none := by
  by_cases same : c.pin = p
  · have input : c.cmd = .pinMode ∧ c.value = PinMode.input.code := by
      unfold Command.harmless at harmless
      rw [same, digital] at harmless
      simpa using harmless
    unfold Command.setMode Command.mode? Command.setLevel
    rw [input.1, input.2, if_pos ⟨same, rfl⟩, if_pos same]
    exact ⟨by decide, rfl⟩
  · exact ⟨Command.setMode_elsewhere same _, Command.setLevel_elsewhere same _⟩

theorem wished_append (off : ∀ o ∈ news, o.offCommands) (p : Nat) : Log.wished (news ++ log) p = log.wished p := by
  apply Lib.Journal.foldr_inert
  intro o inside x
  have := off o inside
  unfold Obs.setWish
  split <;> first | contradiction | rfl

theorem wished_pads (pads : ∀ o ∈ news, o.isPad) (p : Nat) :
    Log.wished (news ++ log) p = log.wished p := by
  apply Lib.Journal.foldr_inert
  intro o inside x
  have := pads o inside
  cases o <;> first | rfl | contradiction

/-- A command from the interrupt side enters the queue. -/
structure Enters (m m' : Machine) (c : Command) : Prop where
  pc : m'.pc = m.pc
  log : ∃ req index value, req.isQueued ∧ m'.log = .accepted req index value :: m.log
  backlog : m'.backlog = m.backlog ++ [c]
  fresh : m'.fresh = m.fresh ++ [c]
  stale : m'.log.pipeline.stale = m.log.pipeline.stale
  epoch : m'.dev.epoch = m.dev.epoch
  requests : m'.dev.resetRequests = m.dev.resetRequests
  done : m'.dev.resetDone = m.dev.resetDone
  caps : m'.dev.caps = m.dev.caps
  nPins : m'.dev.nPins = m.dev.nPins
  dio : m'.dev.dio = m.dev.dio
  mode : ∀ p mode, m'.dev.mode p = some mode →
    c.mode? p = some mode ∨ c.mode? p = none ∧ m.dev.mode p = some mode
  level : ∀ p v, m'.dev.mode p = some .output → m'.log.wished p = some v →
    (∀ x, c.setLevel p x = some v) ∨
      m.dev.mode p = some .output ∧ m.log.wished p = some v ∧ ∀ x, c.setLevel p x = x

theorem PinMode.ofCode_stored {value : UInt16} {mode : PinMode}
    (named : PinMode.ofCode? value = some mode) :
    PinMode.ofCode? value.toUInt8.toUInt16 = some mode := by
  rw [← PinMode.code_of_ofCode named]
  cases mode <;> decide

theorem Enters.pending (h : Enters m m' c) : m'.dev.resetPending = m.dev.resetPending := by
  unfold UsbIoDevice.resetPending
  rw [h.requests, h.done]

/-- What the interrupt side does to the queue, to RESET and to the intentions:
nothing, a RESET, or one more command. -/
theorem Served.intake {m : Machine} (served : Served b env m.dev d' o) (queued : Queued m)
    (ok : m.Ok b) :
    (SameCommands d' m.dev ∧ d'.dio = m.dev.dio ∧ o.offCommands) ∨
    (∃ index value, d' = requestReset m.dev ∧ o = .accepted .reset index value) ∨
    ∃ c, Enters m ⟨d', m.pc, o :: m.log⟩ c ∧ Queued ⟨d', m.pc, o :: m.log⟩ := by
  cases served with
  | reset index value => exact .inr (.inl ⟨index, value, rfl, rfl⟩)
  | moded index value mode named known allowed room =>
    obtain ⟨queued', backlog, fresh⟩ : Queued ⟨recordMode (m.dev.queued .pinMode index.toNat value)
          index.toNat mode, m.pc, .accepted .pinMode index value :: m.log⟩ ∧ _ :=
      queued.accept ok room rfl rfl rfl rfl rfl rfl
    refine .inr (.inr ⟨_, ⟨rfl, ⟨_, _, _, rfl, rfl⟩, backlog, fresh, rfl, rfl, rfl, rfl, rfl, rfl,
      rfl, ?_, ?_⟩, queued'⟩)
    · intro p md intended
      change Function.update m.dev.mode index.toNat (some mode) p = some md at intended
      by_cases same : index.toNat = p
      · subst p
        rw [Function.update_self] at intended
        rw [← intended]
        exact .inl ((if_pos ⟨rfl, rfl⟩).trans (PinMode.ofCode_stored named))
      · rw [Function.update_of_ne (Ne.symm same)] at intended
        exact .inr ⟨if_neg (fun both => same both.1), intended⟩
    · intro p v output wish
      change Function.update m.dev.mode index.toNat (some mode) p = some .output at output
      change (if index.toNat = p then none else m.log.wished p) = some v at wish
      by_cases same : index.toNat = p
      · rw [if_pos same] at wish
        contradiction
      · rw [Function.update_of_ne (Ne.symm same)] at output
        rw [if_neg same] at wish
        exact .inr ⟨output, wish, fun _ => if_neg same⟩
  | written req mode index value writes known intended room =>
    have pipeline : Log.pipeline (.accepted req index value :: m.log) =
        m.log.pipeline.accept (req, index.toNat, storedValue req value) := by
      cases req <;> first | contradiction | rfl
    obtain ⟨queued', backlog, fresh⟩ : Queued ⟨m.dev.queued req index.toNat (storedValue req value),
          m.pc, .accepted req index value :: m.log⟩ ∧ _ :=
      queued.accept ok room rfl pipeline rfl rfl rfl rfl
    have stale : (Log.pipeline (.accepted req index value :: m.log)).stale =
        m.log.pipeline.stale := by
      rw [pipeline]
      rfl
    have isQueued : req.isQueued := by
      cases req <;> first | contradiction | rfl
    refine .inr (.inr ⟨_, ⟨rfl, ⟨_, _, _, isQueued, rfl⟩, backlog, fresh, stale, rfl, rfl, rfl,
      rfl, rfl, rfl, ?_, ?_⟩, queued'⟩)
    · intro p md before
      refine .inr ⟨if_neg ?_, before⟩
      rintro ⟨_, rfl⟩
      contradiction
    · intro p v output wish
      by_cases same : index.toNat = p
      · cases req with
        | dioWrite =>
          left
          intro x
          change (if index.toNat = p then some (decide (value ≠ 0)) else m.log.wished p) = some v
            at wish
          rw [if_pos same] at wish
          rw [← wish]
          change (if index.toNat = p then some (decide (storedValue .dioWrite value ≠ 0)) else x) = _
          rw [if_pos same]
          by_cases zero : value = 0 <;> simp [storedValue, zero]
        | pwmWrite | dacWrite => exact .inr ⟨output, wish, fun x => if_pos same⟩
        | _ => contradiction
      · have wished : Log.wished (.accepted req index value :: m.log) p = m.log.wished p := by
          cases req <;> first | contradiction | rfl | exact if_neg same
        rw [wished] at wish
        exact .inr ⟨output, wish, fun _ => if_neg same⟩
  | unchanged req index value settled =>
    rcases settled with rfl | rfl <;> exact .inl ⟨.refl _, rfl, rfl⟩
  | _ => exact .inl ⟨⟨rfl, rfl, rfl, rfl, rfl, rfl, rfl, rfl, rfl⟩, rfl, rfl⟩

/-- RESET leaves the DIO pins meant to be INPUT and no other pin with a mode. -/
theorem requestReset_mode {p : Nat} {mode : PinMode} (inv : Invariant b d)
    (intended : (requestReset d).mode p = some mode) :
    mode = .input ∧ hasCap (d.caps p) capDio := by
  simp only [requestReset] at intended
  split at intended
  · split at intended
    · rename_i digital
      exact ⟨(Option.some.inj intended).symm, digital⟩
    · contradiction
  · rw [inv.beyond p (by omega)] at intended
    contradiction

/-- A step keeps the queue true to the log. -/
theorem step_queued {act : Act} (h : Queued m) (ok : m.Ok b) : Queued (step b m act) := by
  cases act with
  | setup env s =>
    have served := handleSetup_served b env m.dev s
    rcases served.intake h ok with ⟨same, _, off⟩ | ⟨index, value, dev, obs⟩ | ⟨c, _, queued⟩
    · have only : ∀ o ∈ [s.obs (handleSetup b env m.dev s).2], o.offCommands := by simpa using off
      obtain ⟨queued, _⟩ : Queued (step b m (.setup env s)) ∧ _ :=
        h.quiet [_] rfl (pipeline_append only) same.commands same.epoch rfl
          (h.copied.congr same.queue same.tail)
      exact queued
    · obtain ⟨queued, _⟩ : Queued (step b m (.setup env s)) ∧ _ :=
        h.reset rfl (congrArg (· :: m.log) obs) dev
      exact queued
    · exact queued
  | disconnect =>
    obtain ⟨queued, _⟩ : Queued (step b m .disconnect) ∧ _ :=
      h.quiet [.disconnected] rfl rfl rfl rfl rfl (h.copied.congr rfl rfl)
    exact queued
  | loop env =>
    by_cases other : m.pc.offDrain
    · exact (h.offDrain other).1
    · obtain ⟨d, pc, log⟩ := m
      cases pc with
      | drain pc => exact (h.drainStep env ok).1
      | _ => exact absurd rfl other

/-- What every run keeps, whatever its guard. -/
theorem reach_queued {guard : Machine → Act → Prop}
    (reached : Lib.Reach (step b) guard (boot b) m) : m.Ok b ∧ Queued m := by
  exact ⟨reach_ok reached,
    reached.invariant_with (fun _ => reach_ok) (boot_queued b) (fun _ _ ok h _ => step_queued h ok)⟩

end ArduinoDriver
