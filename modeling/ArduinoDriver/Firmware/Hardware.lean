import ArduinoDriver.Firmware.ResetRace
import ArduinoDriver.Firmware.Turns
import ArduinoDriver.Lib.History

namespace ArduinoDriver

/-- What poll() has made of the pins: the mode of each, `none` where it is not
configured, and the value written since. -/
structure Hardware where
  mode : Nat → Option PinMode
  value : Nat → Option Nat

def Hardware.unconfigured : Hardware := ⟨fun _ => none, fun _ => none⟩

/-- A pin takes a mode; the analog outputs start at 0. -/
def Hardware.configure (hw : Hardware) (pin : Nat) (mode : PinMode) : Hardware where
  mode := Function.update hw.mode pin (some mode)
  value := Function.update hw.value pin (if mode = .pwm ∨ mode = .dac then some 0 else none)

def Hardware.write (hw : Hardware) (pin value : Nat) : Hardware :=
  { hw with value := Function.update hw.value pin (some value) }

/-- RESET: INPUT for the DIO pins; the others are no longer configured. -/
def Hardware.reset (d : UsbIoDevice) : Hardware where
  mode p := if p < d.nPins ∧ hasCap (d.caps p) capDio then some .input else none
  value _ := none

/-- One command on the pins. -/
def Command.act (b : Board) (hw : Hardware) (c : Command) : Hardware :=
  match c.cmd with
  | .pinMode =>
    match PinMode.ofCode? c.value.toUInt8.toUInt16 with
    | some mode => hw.configure c.pin mode
    | none => hw
  | .dioWrite => hw.write c.pin (if c.value = 0 then 0 else 1)
  | .pwmWrite => hw.write c.pin c.value.toNat
  | .dacWrite => hw.write c.pin (c.value.toNat * 2 ^ (b.pwmBits - b.dacBits))
  | _ => hw

/-- What a step does to the pins: poll() calls apply_reset() or execute(). -/
def actuate (b : Board) (m : Machine) (act : Act) (hw : Hardware) : Hardware :=
  match act, m.pc with
  | .loop _, .drain (.resetApply _) => .reset m.dev
  | .loop _, .drain (.execute c) => c.act b hw
  | _, _ => hw

def Obs.setValue (p : Nat) : Obs → Option Nat → Option Nat
  | .applied pin mode, x =>
    if pin = p then (if mode = .pwm ∨ mode = .dac then some 0 else none) else x
  | .call (.digitalWrite pin high), x => if pin = p then some high.toNat else x
  | .call (.analogWrite pin value), x => if pin = p then some value else x
  | _, x => x

/-- The value last written to a pin since its mode was applied. -/
def Log.written (log : Log) (p : Nat) : Option Nat := log.foldr (Obs.setValue p) none

/-- The log agrees: a configured pin has its mode and value from the calls logged. -/
def Hardware.Logged (hw : Hardware) (log : Log) : Prop :=
  ∀ p mode, hw.mode p = some mode → log.applied p = some mode ∧ log.written p = hw.value p

variable {b : Board} {env : Env} {d d' : UsbIoDevice} {hw : Hardware} {log news : Log}
  {m : Machine} {c : Command}

theorem unpadded_applied (none_pad : ∀ o ∈ news, o.isPad = false) (p : Nat) :
    Log.applied (news ++ log) p = log.applied p := by
  apply Lib.Journal.foldr_inert
  intro o inside x
  have := none_pad o inside
  cases o <;> first | rfl | contradiction

theorem unpadded_written (none_pad : ∀ o ∈ news, o.isPad = false) (p : Nat) :
    Log.written (news ++ log) p = log.written p := by
  apply Lib.Journal.foldr_inert
  intro o inside x
  have := none_pad o inside
  cases o <;> first | rfl | contradiction

theorem Obs.unpadded_offCommands {o : Obs} (off : o.offCommands) : o.isPad = false := by
  cases o <;> first | rfl | contradiction

/-- Only apply_reset() and execute() touch pins, and only they log it. -/
theorem step_unpadded (b : Board) (m : Machine) (act : Act) :
    (∃ env seen, act = .loop env ∧ m.pc = .drain (.resetApply seen)) ∨
    (∃ env c, act = .loop env ∧ m.pc = .drain (.execute c)) ∨
    (∀ hw, actuate b m act hw = hw) ∧
      ∃ news, (step b m act).log = news ++ m.log ∧ ∀ o ∈ news, o.isPad = false := by
  cases act with
  | setup env s =>
    refine .inr (.inr ⟨fun _ => rfl, [_], rfl, ?_⟩)
    intro o inside
    rw [List.mem_singleton.mp inside]
    unfold SetupPacket.obs
    split
    · split <;> rfl
    · rfl
  | disconnect => exact .inr (.inr ⟨fun _ => rfl, [_], rfl, by simp [Obs.isPad]⟩)
  | loop env =>
    by_cases other : m.pc.offDrain
    · obtain ⟨_, _, _, news, log_eq, off⟩ := loopStep_offDrain b env m other
      refine .inr (.inr ⟨fun hw => ?_, news, log_eq,
        fun o inside => Obs.unpadded_offCommands (off o inside)⟩)
      unfold actuate
      cases at_pc : m.pc with
      | drain pc =>
        rw [at_pc] at other
        contradiction
      | _ => rfl
    · obtain ⟨d, pc, log⟩ := m
      cases pc with
      | drain pc =>
        cases pc with
        | resetApply seen => exact .inl ⟨env, seen, rfl, rfl⟩
        | execute c => exact .inr (.inl ⟨env, c, rfl, rfl⟩)
        | epochTest c | outerTest =>
          refine .inr (.inr ⟨fun _ => rfl, ?_⟩)
          simp only [step, loopStep, drainStep]
          split <;> exact ⟨_, rfl, by simp [Obs.isPad]⟩
        | _ => exact .inr (.inr ⟨fun _ => rfl, [], rfl, by simp⟩)
      | _ => exact absurd rfl other

theorem actuate_offDrain {act : Act} (other : m.pc.offDrain) : actuate b m act hw = hw := by
  unfold actuate
  cases act with
  | loop env =>
    cases at_pc : m.pc with
    | drain pc =>
      rw [at_pc] at other
      contradiction
    | _ => rfl
  | _ => rfl

theorem resetLog_written (d : UsbIoDevice) (log : Log) {p : Nat} (known : p < d.nPins)
    (digital : hasCap (d.caps p) capDio) : Log.written (resetLog d ++ log) p = none := by
  have walk : ∀ pins : List Nat, p ∈ pins →
      Log.written (pins.flatMap (fun q => [.applied q .input, .call (.pinMode q .input)]) ++ log) p =
        none := by
    intro pins
    induction pins with
    | nil => simp
    | cons q pins ih =>
      intro inside
      change (if q = p then none else
        Log.written (pins.flatMap (fun q => [.applied q .input, .call (.pinMode q .input)]) ++ log) p) = none
      by_cases same : q = p
      · exact if_pos same
      · rw [if_neg same]
        exact ih ((List.mem_cons.mp inside).resolve_left (Ne.symm same))
  exact walk _ (by simp [known, digital])

theorem resetLog_logged (d : UsbIoDevice) (log : Log) : (Hardware.reset d).Logged (resetLog d ++ log) := by
  intro p mode configured
  change (if p < d.nPins ∧ hasCap (d.caps p) capDio then some PinMode.input else none) = some mode
    at configured
  by_cases input : p < d.nPins ∧ hasCap (d.caps p) capDio
  · rw [if_pos input] at configured
    rw [(resetLog_applied d log p).1, if_pos input, resetLog_written d log input.1 input.2]
    exact ⟨configured, rfl⟩
  · rw [if_neg input] at configured
    contradiction

/-- One write, logged. -/
theorem Hardware.Logged.write (h : hw.Logged log) {call : Call} {pin value : Nat}
    (sets : ∀ p x, Obs.setValue p (.call call) x = if pin = p then some value else x) :
    (hw.write pin value).Logged ([.call call] ++ log) := by
  intro p mode configured
  obtain ⟨applied, written⟩ := h p mode configured
  refine ⟨applied, ?_⟩
  change Obs.setValue p (.call call) (log.written p) = Function.update hw.value pin (some value) p
  rw [sets]
  by_cases same : pin = p
  · subst p
    rw [if_pos rfl, Function.update_self]
  · rw [if_neg same, Function.update_of_ne (Ne.symm same)]
    exact written

/-- One mode, logged with calls about its pin behind it. -/
theorem Hardware.Logged.configure (h : hw.Logged log) {pin : Nat} {mode : PinMode} {calls : Log}
    (inert : ∀ o ∈ calls, (∃ pad, o = .call (.pinMode pin pad)) ∨ o = .call (.analogWrite pin 0)) :
    (hw.configure pin mode).Logged ((.applied pin mode :: calls) ++ log) := by
  intro p mode' configured
  by_cases same : pin = p
  · subst p
    change Function.update hw.mode pin (some mode) pin = some mode' at configured
    rw [Function.update_self] at configured
    have value : (hw.configure pin mode).value pin =
        if mode = .pwm ∨ mode = .dac then some 0 else none := Function.update_self ..
    rw [value]
    exact ⟨(if_pos rfl).trans configured, if_pos rfl⟩
  · change Function.update hw.mode pin (some mode) p = some mode' at configured
    rw [Function.update_of_ne (Ne.symm same)] at configured
    obtain ⟨applied, written⟩ := h p mode' configured
    have behind : Log.written (calls ++ log) p = log.written p := by
      apply Lib.Journal.foldr_inert
      intro o inside x
      rcases inert o inside with ⟨pad, rfl⟩ | rfl
      · rfl
      · exact if_neg same
    have behind' : Log.applied (calls ++ log) p = log.applied p :=
      (calls_inert (fun o inside => (inert o inside).imp_right (fun eq => ⟨0, eq⟩)) p).1
    constructor
    · exact (if_neg same).trans (behind'.trans applied)
    · refine (if_neg same).trans (behind.trans (written.trans ?_))
      exact (Function.update_of_ne (Ne.symm same) ..).symm

/-- execute() logs what it does to the pin. -/
theorem execute_logged (b : Board) (env : Env) (d : UsbIoDevice) (c : Command)
    (h : hw.Logged log) : (c.act b hw).Logged ((execute b env d c).2 ++ log) := by
  unfold Command.act execute
  cases cmd : c.cmd with
  | pinMode =>
    dsimp only
    cases named : PinMode.ofCode? c.value.toUInt8.toUInt16 with
    | none => exact h
    | some mode =>
      obtain ⟨calls, eq, inert⟩ := applyMode_log b env d c.pin mode
      dsimp only
      rw [eq]
      exact h.configure inert
  | dioWrite =>
    refine h.write (fun p x => ?_)
    by_cases zero : c.value = 0 <;> simp [Obs.setValue, zero]
  | pwmWrite => exact h.write (fun _ _ => rfl)
  | dacWrite => exact h.write (fun _ _ => rfl)
  | _ => exact h

/-- Every run keeps the hardware as logged. -/
theorem step_logged {act : Act} (h : hw.Logged m.log) :
    (actuate b m act hw).Logged (step b m act).log := by
  rcases step_unpadded b m act with ⟨env, seen, rfl, at_pc⟩ | ⟨env, c, rfl, at_pc⟩ |
    ⟨same, news, log_eq, none_pad⟩
  · obtain ⟨d, pc, log⟩ := m
    obtain rfl : pc = .drain (.resetApply seen) := at_pc
    exact resetLog_logged d log
  · obtain ⟨d, pc, log⟩ := m
    obtain rfl : pc = .drain (.execute c) := at_pc
    intro p mode configured
    exact execute_logged b env d c h p mode configured
  · rw [same, log_eq]
    intro p mode configured
    rw [unpadded_applied none_pad, unpadded_written none_pad]
    exact h p mode configured

end ArduinoDriver
