import ArduinoDriver.Host.ReadBack
import ArduinoDriver.Host.Sync

namespace ArduinoDriver

open Lib (Triple)

variable {b : Board} {env : Env} {d : UsbIoDevice} {m : Machine} {l : Link} {options : DeviceOptions}
  {reply : List UInt8}

/-- What begin() has set stays. -/
theorem run_identity (b : Board) (m : Machine) (acts : List Act) : SameIdentity (run b m acts).dev m.dev := by
  induction acts generalizing m with
  | nil => exact .refl m.dev
  | cons act acts ih =>
    have first := step_identity b m act
    have rest := ih (m := step b m act)
    exact ⟨rest.nPins.trans first.nPins, rest.nAin.trans first.nAin, rest.flags.trans first.flags,
      rest.caps.trans first.caps⟩

theorem reachable_identity (reached : Reachable b m) : SameIdentity m.dev (boot b).dev := by
  induction reached with
  | refl => exact .refl _
  | @tail u act _ _ ih =>
    have last := step_identity b u act
    exact ⟨last.nPins.trans ih.nPins, last.nAin.trans ih.nAin, last.flags.trans ih.flags,
      last.caps.trans ih.caps⟩

theorem boot_begun (b : Board) : Begun b (boot b).dev := by
  have reached : Reachable b (boot b) := .refl
  exact reach_begun reached

/-- The Device a host has of a board. -/
def Board.device (b : Board) (options : DeviceOptions) : Device where
  info := b.info (boot b).dev
  caps := (List.range (boot b).dev.nPins).map (boot b).dev.caps
  analogPins := (boot b).dev.analogPins.map UInt8.ofNat
  options := options

theorem infoBytes_identity (same : SameIdentity d (boot b).dev) : infoBytes b d = infoBytes b (boot b).dev := by
  unfold infoBytes
  rw [same.nPins, same.nAin, same.flags]

theorem Link.From.identity (h : l.From b (boot b)) : SameIdentity l.idled.machine.dev (boot b).dev := by
  obtain ⟨rfl, start⟩ := h
  have same := run_identity l.board l.start (l.acts ++ (l.plan 0).before)
  rw [start] at same
  unfold Link.machine
  rw [show l.idled.start = boot l.board from start]
  exact same

/-- GET_INFO answers the same in every state. -/
theorem Link.Answered.info (h : l.Answered b (boot b) (.inp .getInfo 0 (UInt16.ofNat infoLen)) reply) :
    reply = infoBytes b (boot b).dev := by
  obtain ⟨before, from_, _, said⟩ := h
  have same := from_.identity
  obtain ⟨rfl, _⟩ := from_
  have whole := @replyTo_whole before.board (before.plan 0).env before.idled.machine.dev
    (infoBytes before.board before.idled.machine.dev) .getInfo 0 infoLen (by simp [infoLen]) rfl
    (by simp [infoBytes, usbioMagic])
  unfold Link.reply at said
  unfold replyTo at whole
  rw [whole, Option.some.injEq] at said
  rw [← said, infoBytes_identity same]

/-- So does GET_PIN_CAPS. -/
theorem Link.Answered.caps
    (h : l.Answered b (boot b) (.inp .getPinCaps 0 (b.info (boot b).dev).nPins.toUInt16) reply) :
    reply = (List.range (boot b).dev.nPins).map (boot b).dev.caps := by
  obtain ⟨before, from_, _, said⟩ := h
  have same := from_.identity
  obtain ⟨rfl, _⟩ := from_
  have begun := boot_begun before.board
  have few : (boot before.board).dev.nPins ≤ 128 := begun.nPins ▸ before.board.pinCount_le
  have asked : (before.board.info (boot before.board).dev).nPins.toUInt16.toNat =
      (boot before.board).dev.nPins := by
    rw [UInt8.toNat_toUInt16]
    exact begun.nPins_toNat
  unfold Link.reply at said
  rw [handleSetup_inp, handleIn] at said
  simp only [replyBytes, Request.ofCode_code, Option.map_some, Option.some.injEq, pinCapsBytes, asked,
    same.nPins, same.caps] at said
  rw [← said, List.take_of_length_le (by simp)]
  simp

/-- load_info() returns what begin() has set. -/
theorem loadInfo_info :
    Triple (fun st => st.link.From b (boot b)) (Device.loadInfo options)
      (fun info st => st.link.From b (boot b) ∧ info = b.info (boot b).dev)
      (fun _ st => st.link.From b (boot b)) := by
  have once : ∀ again : Host Info,
      Triple (fun st => st.link.From b (boot b)) again
        (fun info st => st.link.From b (boot b) ∧ info = b.info (boot b).dev)
        (fun _ st => st.link.From b (boot b)) →
      Triple (fun st => st.link.From b (boot b)) (Device.loadInfoOnce again)
        (fun info st => st.link.From b (boot b) ∧ info = b.info (boot b).dev)
        (fun _ st => st.link.From b (boot b)) := by
    intro again more
    have asked : Triple (fun st => st.link.From b (boot b))
        (rawIn .getInfo 0 (UInt16.ofNat infoLen))
        (fun reply st => st.link.From b (boot b) ∧ reply = infoBytes b (boot b).dev)
        (fun _ st => st.link.From b (boot b)) :=
      (rawIn_answered _ _ _).conseq (fun _ h => h) (fun _ _ h => ⟨h.from, h.info⟩) (fun _ _ h => h)
    refine .bind asked (fun reply => .fact (fun said => ?_))
    subst said
    refine .bind (refuseIf_keeps _) (fun _ => .fact (fun _ => ?_))
    rw [decodeInfo_infoBytes]
    have decoded : Triple (fun st => st.link.From b (boot b)) (Host.of (.ok (b.info (boot b).dev)))
        (fun info st => st.link.From b (boot b) ∧ info = b.info (boot b).dev)
        (fun _ st => st.link.From b (boot b)) := .pure _ (fun _ h => ⟨h, rfl⟩)
    refine .bind decoded (fun info => .fact (fun known => ?_))
    subst known
    refine .bind (refuseIf_keeps _) (fun _ => .fact (fun _ => ?_))
    exact .ite (fun _ => .pure _ (fun _ h => ⟨h, rfl⟩)) (fun _ => more)
  have loop : ∀ left, Triple (fun st => st.link.From b (boot b)) (Device.loadInfoFrom options left)
      (fun info st => st.link.From b (boot b) ∧ info = b.info (boot b).dev)
      (fun _ st => st.link.From b (boot b)) := by
    intro left
    induction left with
    | zero => exact once _ (.throw _ (fun _ h => h))
    | succ left ih => exact once _ ih
  refine .bind (loop _) (fun info => .fact (fun known => ?_))
  subst known
  refine .bind (refuseIf_keeps _) (fun _ => .fact (fun _ => ?_))
  refine .bind (refuseIf_keeps _) (fun _ => .fact (fun _ => ?_))
  exact .pure _ (fun _ h => ⟨h, rfl⟩)

/-- The constructor returns the one Device of the board. -/
theorem construct_device :
    Triple (fun st => st.link.From b (boot b)) (Device.construct options)
      (fun d _ => d = b.device options) (fun _ _ => True) := by
  refine .bind (loadInfo_info.conseq (fun _ h => h) (fun _ _ h => h) (fun _ _ _ => trivial))
    (fun info => .fact (fun known => ?_))
  subst known
  have caps : Triple (fun st => st.link.From b (boot b)) (Device.loadCaps (b.info (boot b).dev))
      (fun table _ => table = ((List.range (boot b).dev.nPins).map (boot b).dev.caps,
        (boot b).dev.analogPins.map UInt8.ofNat))
      (fun _ _ => True) := by
    refine .bind ((rawIn_answered _ _ _).conseq (fun _ h => h) (fun _ _ h => h.caps)
      (fun _ _ _ => trivial)) (fun reply => ?_)
    intro st said
    subst said
    rw [decodeCaps_table (boot_begun b)]
    rfl
  refine .bind caps (fun table => ?_)
  intro st known
  subst known
  rfl

end ArduinoDriver
