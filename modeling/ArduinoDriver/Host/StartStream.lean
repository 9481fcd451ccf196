import ArduinoDriver.Firmware.Channels
import ArduinoDriver.Host.Device
import ArduinoDriver.Host.Sync
import ArduinoDriver.Lib.Hoare

namespace ArduinoDriver

open Lib (Triple Reconciling)

/-- Nobody but the driver talks to the device: around the transfers it only runs
poll(). -/
def Link.Alone (l : Link) : Prop := ∀ n, ∀ a ∈ (l.plan n).before, ∃ env, a = .loop env

/-- The firmware's channel list. -/
def HostState.selection (st : HostState) : List Nat := st.link.machine.dev.stream.selection

/-- The channel list satisfies `I`, and stays out of others' reach. -/
def Holding (I : List Nat → Prop) (st : HostState) : Prop := st.link.Alone ∧ I st.selection

variable {I J K : List Nat → Prop} {l : Link} {s : SetupPacket} {st : HostState}

theorem run_selection (b : Board) (m : Machine) {acts : List Act}
    (polls : ∀ a ∈ acts, ∃ env, a = .loop env) :
    (run b m acts).dev.stream.selection = m.dev.stream.selection := by
  induction acts generalizing m with
  | nil => rfl
  | cons a acts ih =>
    obtain ⟨env, rfl⟩ := polls a (List.mem_cons_self ..)
    exact (ih _ (fun a inside => polls a (List.mem_cons_of_mem _ inside))).trans
      (loopStep_selection b env m)

theorem Link.Alone.idled (h : l.Alone) :
    l.idled.Alone ∧ l.idled.machine.dev.stream.selection = l.machine.dev.stream.selection := by
  refine ⟨fun n => h (n + 1), ?_⟩
  rw [Link.idled_machine]
  exact run_selection _ _ (h 0)

theorem Link.received_selection :
    (l.received s).machine.dev.stream.selection =
      (handleSetup l.board (l.plan 0).env l.idled.machine.dev s).1.stream.selection := by
  rw [Link.received_machine]
  rfl

/-- A transfer takes the channel list where handle_setup() takes it, if it arrives. -/
theorem control_holding {R : List UInt8 → List Nat → Prop}
    (step : ∀ b env d, I d.stream.selection →
      (∀ reply, (handleSetup b env d s).2 = some reply →
        R reply (handleSetup b env d s).1.stream.selection) ∧
      K (handleSetup b env d s).1.stream.selection)
    (lost : ∀ l, I l → K l) :
    Triple (Holding I) (control s) (fun reply => Holding (R reply)) (fun _ => Holding K) := by
  rintro st ⟨alone, holds⟩
  obtain ⟨alone', idled⟩ := alone.idled
  have before : I st.link.idled.machine.dev.stream.selection := by
    rw [idled]
    exact holds
  obtain ⟨answered, reached⟩ := step st.link.board (st.link.plan 0).env _ before
  rw [← Link.received_selection] at answered reached
  unfold control
  dsimp only
  rcases (st.link.plan 0).failure with _ | ⟨e, _ | _⟩
  · cases answer : st.link.reply s with
    | none => exact ⟨alone', reached⟩
    | some reply => exact ⟨alone', answered reply answer⟩
  · exact ⟨alone', lost _ before⟩
  · exact ⟨alone', reached⟩

theorem inp_offSelection (req : Request) (index len : UInt16) (r : Option (List UInt8)) :
    ((SetupPacket.inp req index len).obs r).offSelection := by
  cases r with
  | none => rfl
  | some reply =>
    rw [inp_answered]
    rfl

theorem out_offSelection {req : Request} (value index : UInt16) (r : Option (List UInt8))
    (other : req ≠ .reset ∧ req ≠ .streamSelect) :
    ((SetupPacket.out req value index).obs r).offSelection := by
  cases r with
  | none => rfl
  | some reply =>
    have isOut : ((0x40 : UInt8) &&& 0x80 != 0) = false :=
      congrArg (· != 0) (show (0x40 : UInt8) &&& 0x80 = 0 from rfl)
    simp only [SetupPacket.obs, SetupPacket.out, SetupPacket.isIn, Request.ofCode_code, isOut]
    cases req <;> first | rfl | exact absurd rfl other.1 | exact absurd rfl other.2

/-- A transfer that is not about the channel list keeps it. -/
theorem control_keeps (off : ∀ r, (s.obs r).offSelection) :
    Triple (Holding I) (control s) (fun _ => Holding I) (fun _ => Holding I) := by
  refine control_holding ?_ (fun _ h => h)
  intro b env d holds
  have kept := (handleSetup_served b env d s).selection (off _)
  rw [kept]
  exact ⟨fun _ _ => holds, holds⟩

theorem rawIn_keeps (req : Request) (index len : UInt16) :
    Triple (Holding I) (rawIn req index len) (fun _ => Holding I) (fun _ => Holding I) :=
  .bind (control_keeps (inp_offSelection req index len))
    (fun _ => .ite (fun _ => .throw _ (fun _ h => h)) (fun _ => .pure _ (fun _ h => h)))

theorem readInOnce_keeps {req : Request} {index len : UInt16} {minLen : Nat}
    {again : Host (List UInt8)}
    (more : Triple (Holding I) again (fun _ => Holding I) (fun _ => Holding I)) :
    Triple (Holding I) (readInOnce req index len minLen again) (fun _ => Holding I)
      (fun _ => Holding I) := by
  refine .bind (rawIn_keeps req index len) (fun reply => ?_)
  refine .ite (fun _ => .throw _ (fun _ h => h)) (fun _ => ?_)
  refine .ite (fun _ => more) (fun _ => ?_)
  refine .ite (fun _ => .throw _ (fun _ h => h)) (fun _ => ?_)
  exact .ite (fun _ => .throw _ (fun _ h => h)) (fun _ => .pure _ (fun _ h => h))

theorem readIn_keeps (d : Device) (req : Request) (index len : UInt16) (minLen : Nat) :
    Triple (Holding I) (d.readIn req index len minLen) (fun _ => Holding I)
      (fun _ => Holding I) := by
  unfold Device.readIn
  induction d.attempts - 1 with
  | zero => exact readInOnce_keeps (.throw _ (fun _ h => h))
  | succ left ih => exact readInOnce_keeps ih

/-- send_out() does to the channel list what its transfer does. -/
theorem sendOut_holding {req : Request} {value index : UInt16}
    (h : Triple (Holding I) (control (.out req value index)) (fun _ => Holding J)
      (fun _ => Holding K)) :
    Triple (Holding I) (sendOut req value index) (fun _ => Holding J) (fun _ => Holding K) := by
  refine .tryCatch (.bind h (fun _ => .pure _ (fun _ h => h))) (fun e => ?_)
  refine .ite (fun _ => .throw _ (fun _ h => h)) (fun _ => ?_)
  refine .bind (rawIn_keeps .getStatus 0 _) (fun reply => ?_)
  refine .ite (fun _ => .throw _ (fun _ h => h)) (fun _ => ?_)
  exact .ite (fun _ => .throw _ (fun _ h => h)) (fun _ => .throw _ (fun _ h => h))

theorem select_holding (adds : Bool) (pin : UInt8) (distinct : ∀ l, I l → l.Nodup)
    (answered : ∀ l, I l → J (selecting adds l pin.toNat)) (either : ∀ l, I l → K l)
    (reached : ∀ l, J l → K l) :
    Triple (Holding I) (Device.select adds pin) (fun _ => Holding J) (fun _ => Holding K) := by
  refine sendOut_holding (control_holding ?_ either)
  intro b env d holds
  have value : decide ((if adds then (1 : UInt16) else 0) ≠ 0) = adds := by cases adds <;> simp
  have pin_eq : pin.toUInt16.toNat = pin.toNat := UInt8.toNat_toUInt16 pin
  have selected := handleStreamSelect_selection (if adds then 1 else 0) pin.toUInt16
    (distinct _ holds)
  rw [value, pin_eq] at selected
  rw [handleSetup_out]
  generalize (if adds then (1 : UInt16) else 0) = v at selected ⊢
  change (∀ reply, (if (if b.hasStreamTransport then handleStreamSelect d v pin.toUInt16
      else stall d .unsupported).2 then some [] else none) = some reply →
    J (if b.hasStreamTransport then handleStreamSelect d v pin.toUInt16
      else stall d .unsupported).1.stream.selection) ∧
    K (if b.hasStreamTransport then handleStreamSelect d v pin.toUInt16
      else stall d .unsupported).1.stream.selection
  by_cases transport : b.hasStreamTransport
  · rw [if_pos transport, selected]
    by_cases accepts : (handleStreamSelect d v pin.toUInt16).2
    · rw [if_pos accepts, if_pos accepts]
      exact ⟨fun _ _ => answered _ holds, reached _ (answered _ holds)⟩
    · rw [if_neg accepts, if_neg accepts]
      exact ⟨by simp, either _ holds⟩
  · rw [if_neg transport]
    exact ⟨by simp [stall], either _ holds⟩

/-- A removal that may fail keeps what removals keep. -/
theorem deselect_holding {pin : UInt8} {E : Error → HostState → Prop}
    (distinct : ∀ l, I l → l.Nodup) (removes : ∀ l, I l → I (l.filter (· ≠ pin.toNat))) :
    Triple (Holding I) (Device.deselect pin) (fun _ => Holding I) E := by
  refine .tryCatch (select_holding false pin distinct removes (fun _ h => h) (fun _ h => h)) ?_
  exact fun _ => .pure _ (fun _ h => h)

/-- The pins of a configuration, as the firmware numbers them. -/
def StreamConfig.channels (config : StreamConfig) : List Nat := config.pins.map UInt8.toNat

variable {config : StreamConfig} {old : List Nat} {added : List UInt8}

theorem mem_channels {pin : UInt8} : pin.toNat ∈ config.channels ↔ pin ∈ config.pins := by
  unfold StreamConfig.channels
  constructor
  · intro inside
    obtain ⟨p, found, same⟩ := List.mem_map.mp inside
    rwa [← UInt8.toNat_inj.mp same]
  · exact fun inside => List.mem_map_of_mem inside

theorem deselectOther_holding {E : Error → HostState → Prop} (distinct : old.Nodup)
    (fresh : added.Nodup) (known : ∀ p ∈ added, p ∈ config.pins) (pin : UInt8) :
    Triple (Holding (Reconciling config.channels old (added.map UInt8.toNat)))
      (Device.deselectOther config pin)
      (fun _ => Holding (Reconciling config.channels old (added.map UInt8.toNat))) E := by
  refine .ite (fun _ => .pure _ (fun _ h => h)) (fun unwanted => ?_)
  have fresh' : (added.map UInt8.toNat).Nodup :=
    fresh.map (fun _ _ same => UInt8.toNat_inj.mp same)
  refine deselect_holding (fun l h => h.nodup distinct fresh') (fun l h => ?_)
  refine h.remove ?_ (fun wanted => unwanted (mem_channels.mp wanted))
  intro p inside
  obtain ⟨p', found, rfl⟩ := List.mem_map.mp inside
  exact mem_channels.mpr (known p' found)

/-- While the selecting loop has met no error, the pins so far are added. -/
theorem selectPins_holding (distinct : old.Nodup) {pins : List UInt8}
    (all : config.pins = added ++ pins) (asked : config.pins.Nodup) :
    Triple (Holding (Reconciling config.channels old (added.map UInt8.toNat)))
      (Device.selectPins added pins)
      (fun r st => r.2 = none → Holding (Reconciling config.channels old config.channels) st)
      (fun _ _ => True) := by
  induction pins generalizing added with
  | nil =>
    refine .pure _ (fun st h _ => ?_)
    rw [List.append_nil] at all
    rwa [← all] at h
  | cons pin pins ih =>
    have known : pin ∈ config.pins := by simp [all]
    have fresh : added.Nodup ∧ pin ∉ added := by
      rw [all, List.nodup_append] at asked
      exact ⟨asked.1, fun inside => asked.2.2 pin inside pin (List.mem_cons_self ..) rfl⟩
    have fresh' : (added.map UInt8.toNat).Nodup :=
      fresh.1.map (fun _ _ same => UInt8.toNat_inj.mp same)
    have absent : pin.toNat ∉ added.map UInt8.toNat := by
      intro inside
      obtain ⟨p, found, same⟩ := List.mem_map.mp inside
      rw [UInt8.toNat_inj.mp same] at found
      exact fresh.2 found
    have joins : ∀ l, Reconciling config.channels old (added.map UInt8.toNat) l →
        Reconciling config.channels old ((added ++ [pin]).map UInt8.toNat)
          (selecting true l pin.toNat) := by
      intro l h
      rw [List.map_append, List.map_singleton]
      exact h.add (mem_channels.mpr known) absent
    have one : Triple (Holding (Reconciling config.channels old (added.map UInt8.toNat)))
        (tryCatch (do Device.select true pin; return none) (fun e => return some e))
        (fun r st => r = none →
          Holding (Reconciling config.channels old ((added ++ [pin]).map UInt8.toNat)) st)
        (fun (_ : Error) _ => True) := by
      refine .tryCatch (.bind (select_holding true pin (fun l h => h.nodup distinct fresh') joins
        (fun _ _ => trivial) (fun _ _ => trivial)) (fun _ => .pure _ (fun _ h _ => h))) ?_
      exact fun e => .pure _ (fun _ _ failed => nomatch failed)
    refine .bind one (fun r => ?_)
    cases r with
    | none =>
      refine (ih ?_).conseq (fun _ h => h rfl) (fun _ _ h => h) (fun _ _ h => h)
      rw [all, List.append_assoc, List.singleton_append]
    | some e => exact .pure _ (fun _ _ failed => nomatch failed)

/-- GET_STREAM_STATUS reports the length of the channel list. -/
theorem streamStatus_reply {b : Board} {env : Env} {d : UsbIoDevice} {reply : List UInt8}
    (answer : (handleSetup b env d (.inp .streamStatus 0 16)).2 = some reply) :
    (readU8 reply 2).toNat = d.stream.selection.length := by
  rw [handleSetup_inp] at answer
  change (Prod.snd (if b.hasStreamTransport && hasFlag d.flags flagStreaming then
    (d, some (streamStatusBytes d.stream)) else ((stall d .unsupported).1, none))).map
      (List.take 16) = some reply at answer
  split at answer
  · have bytes : (streamStatusBytes d.stream).take 16 = reply := Option.some.inj answer
    rw [← bytes, StreamState.selection_length]
    rfl
  · contradiction

theorem readStreamStatus_holding :
    Triple (Holding I) Device.readStreamStatus
      (fun r => Holding (fun l => I l ∧ r.nChannels.toNat = l.length)) (fun _ => Holding I) := by
  have answered : Triple (Holding I) (control (.inp .streamStatus 0 16))
      (fun reply => Holding (fun l => I l ∧ (readU8 reply 2).toNat = l.length))
      (fun _ => Holding I) := by
    refine control_holding ?_ (fun _ h => h)
    intro b env d holds
    have kept := (handleSetup_served b env d _).selection (inp_offSelection .streamStatus 0 16 _)
    rw [kept]
    exact ⟨fun reply answer => ⟨holds, streamStatus_reply answer⟩, holds⟩
  have raw : Triple (Holding I) (rawIn .streamStatus 0 (UInt16.ofNat streamStatusLen))
      (fun reply => Holding (fun l => I l ∧ (readU8 reply 2).toNat = l.length))
      (fun _ => Holding I) :=
    .bind answered (fun reply => .ite (fun _ => .throw _ (fun _ h => ⟨h.1, h.2.1⟩))
      (fun _ => .pure _ (fun _ h => h)))
  refine .bind raw (fun reply => ?_)
  exact .bind ((refuseIf_keeps _).conseq (fun _ h => h) (fun _ _ h => h.1)
    (fun _ _ h => ⟨h.1, h.2.1⟩)) (fun _ => .pure _ (fun _ h => h))

/-- The second removal ends with the configuration's pins only, kept ones first. -/
theorem clearStale_holding (d : Device) (distinct : old.Nodup) (asked : config.pins.Nodup) :
    Triple (Holding (Reconciling config.channels old config.channels)) (d.clearStale config)
      (fun _ => Holding (· = Lib.keptFirst old config.channels)) (fun _ _ => True) := by
  have fresh : config.channels.Nodup := asked.map (fun _ _ same => UInt8.toNat_inj.mp same)
  refine .bind (.forM (fun p _ => deselectOther_holding distinct asked (fun _ h => h) _))
    (fun _ => ?_)
  refine .bind (readStreamStatus_holding.conseq (fun _ h => h) (fun _ _ h => h)
    (fun _ _ _ => trivial)) (fun status => ?_)
  refine (refuseIf_keeps _).conseq (fun _ h => h) ?_ (fun _ _ _ => trivial)
  rintro _ st ⟨⟨alone, reconciled, count⟩, enough⟩
  refine ⟨alone, reconciled.finish fresh ?_⟩
  rw [← count, not_not.mp enough]
  exact (List.length_map ..).symm

/-- What start_stream() launches has the configuration's pins, kept ones first. -/
theorem launch_holding (d : Device) (distinct : old.Nodup) (asked : config.pins.Nodup) :
    Triple (Holding (Reconciling config.channels old config.channels)) (d.launch config)
      (fun _ => Holding (· = Lib.keptFirst old config.channels)) (fun _ _ => True) := by
  have fresh : config.channels.Nodup := asked.map (fun _ _ same => UInt8.toNat_inj.mp same)
  refine .bind (readStreamStatus_holding.conseq (fun _ h => h) (fun _ _ h => h)
    (fun _ _ _ => trivial)) (fun status => ?_)
  have settled : Triple
      (Holding (fun l => Reconciling config.channels old config.channels l ∧
        status.nChannels.toNat = l.length))
      (if status.nChannels.toNat ≠ config.pins.length then d.clearStale config else pure ())
      (fun _ => Holding (· = Lib.keptFirst old config.channels)) (fun _ _ => True) := by
    refine .ite (fun _ => ?_) (fun enough => .pure _ ?_)
    · exact (clearStale_holding d distinct asked).conseq (fun _ h => ⟨h.1, h.2.1⟩)
        (fun _ _ h => h) (fun _ _ h => h)
    · rintro st ⟨alone, reconciled, count⟩
      refine ⟨alone, reconciled.finish fresh ?_⟩
      rw [← count, not_not.mp enough]
      exact (List.length_map ..).symm
  refine .bind settled (fun _ => ?_)
  refine .bind ((readIn_keeps d .getTime 0 _ _).conseq (fun _ h => h) (fun _ _ h => h)
    (fun _ _ _ => trivial)) (fun reply => ?_)
  refine .bind ((sendOut_holding (control_keeps ?_)).conseq (fun _ h => h) (fun _ _ h => h)
    (fun _ _ _ => trivial)) (fun _ => .pure _ (fun _ h => h))
  exact fun r => out_offSelection _ _ r (by simp)

theorem rollBack_throws {P : HostState → Prop} {Q : UInt32 → HostState → Prop} (added : List UInt8)
    (e : Error) : Triple P (Device.rollBack added e) Q (fun _ _ => True) :=
  .bind .any (fun _ => .throw _ (fun _ _ => trivial))

/-- What the local checks ensure, less the ranges of pins and period. -/
structure Passes (d : Device) (config : StreamConfig) : Prop where
  streaming : d.info.streaming
  some_ : config.pins ≠ []
  few : config.pins.length ≤ d.info.streamMaxChannels.toNat
  distinct : config.pins.Nodup

theorem checkConfig_passes {P : HostState → Prop} (d : Device) (config : StreamConfig) :
    Triple P (d.checkConfig config) (fun _ st => P st ∧ st.streaming = false ∧ Passes d config)
      (fun _ _ => True) := by
  have refuse : ∀ {R : HostState → Prop} (bad : Prop) [Decidable bad] (e : Error),
      Triple R (refuseIf bad e) (fun _ st => R st ∧ ¬ bad) (fun _ _ => True) := by
    intro R bad _ e
    exact (refuseIf_keeps e).conseq (fun _ h => h) (fun _ _ h => h) (fun _ _ _ => trivial)
  have quiet : Triple P (Device.checkNotStreaming "start_stream") (fun _ st => P st ∧ st.streaming = false)
      (fun _ _ => True) := by
    refine .bind .get (fun st => ?_)
    refine (refuse _ _).conseq (fun _ h => h) ?_ (fun _ _ h => h)
    rintro _ _ ⟨⟨rfl, h⟩, idle⟩
    exact ⟨h, by simpa using idle⟩
  refine .bind quiet (fun _ => .bind (refuse _ _) (fun _ => .fact (fun able => ?_)))
  refine .bind (refuse _ _) (fun _ => .fact (fun some_ => .bind (refuse _ _) (fun _ => .fact (fun few => ?_))))
  refine .bind (.forM (fun pin _ => (refuse _ _).conseq (fun _ h => h) (fun _ _ h => h.1) (fun _ _ h => h)))
    (fun _ => ?_)
  refine .bind (refuse _ _) (fun _ => .fact (fun distinct => .bind (refuse _ _) (fun _ => ?_)))
  refine (refuse _ _).conseq (fun _ h => h) ?_ (fun _ _ h => h)
  intro _ st h
  refine ⟨h.1.1.1, h.1.1.2, ⟨by simpa using able, by simpa using some_, Nat.not_lt.mp few, not_not.mp distinct⟩⟩

theorem checkConfig_keeps {P : HostState → Prop} (d : Device) (config : StreamConfig) :
    Triple P (d.checkConfig config) (fun _ st => P st ∧ config.pins.Nodup) (fun _ _ => True) :=
  (checkConfig_passes d config).conseq (fun _ h => h) (fun _ _ h => ⟨h.1, h.2.2.distinct⟩) (fun _ _ h => h)

/-- start_stream() returns with the configuration's pins selected: those the device
already held in front, in the order it held them. -/
theorem startStream_holding (d : Device) (config : StreamConfig) (distinct : old.Nodup) :
    Triple (Holding (· = old)) (d.startStream config)
      (fun _ st => Holding (· = Lib.keptFirst old config.channels) st ∧ config.pins.Nodup)
      (fun _ _ => True) := by
  refine .bind (checkConfig_keeps d config) (fun _ => .fact (fun asked => ?_))
  have polled : Triple (Holding (· = old)) Device.readStreamStatus
      (fun _ => Holding (· = old)) (fun _ _ => True) :=
    readStreamStatus_holding.conseq (fun _ h => h) (fun _ _ h => ⟨h.1, h.2.1⟩)
      (fun _ _ _ => trivial)
  refine .bind polled (fun status => ?_)
  have stopped : Triple (Holding (· = old))
      (if status.running then sendOut .streamStop 0 0 else pure ())
      (fun _ => Holding (· = old)) (fun _ _ => True) := by
    refine .ite (fun _ => ?_) (fun _ => .pure _ (fun _ h => h))
    exact (sendOut_holding (control_keeps (fun r => out_offSelection _ _ r (by simp)))).conseq
      (fun _ h => h) (fun _ _ h => h) (fun _ _ _ => trivial)
  refine .bind stopped (fun _ => .bind .get (fun st => ?_))
  have cleared : Triple (fun s => st = s ∧ Holding (· = old) s)
      (st.selected.forM (Device.deselectOther config))
      (fun _ => Holding (Reconciling config.channels old [])) (fun (_ : Error) _ => True) := by
    refine (Triple.forM (fun pin _ => deselectOther_holding distinct List.nodup_nil
      (fun p inside => nomatch inside) pin)).conseq ?_ (fun _ _ h => h) (fun _ _ h => h)
    rintro _ ⟨_, alone, rfl⟩
    exact ⟨alone, Reconciling.start⟩
  refine .bind cleared (fun _ => ?_)
  have all : config.pins = [] ++ config.pins := rfl
  have selected : Triple (Holding (Reconciling config.channels old []))
      (Device.selectPins [] config.pins)
      (fun r st => r.2 = none → Holding (Reconciling config.channels old config.channels) st)
      (fun _ _ => True) := selectPins_holding distinct all asked
  refine .bind selected (fun r => ?_)
  obtain ⟨added, failed⟩ := r
  have launched : Triple
      (fun st => failed = none → Holding (Reconciling config.channels old config.channels) st)
      (d.launchOrRollBack config added failed)
      (fun _ => Holding (· = Lib.keptFirst old config.channels)) (fun _ _ => True) := by
    cases failed with
    | some e => exact rollBack_throws added e
    | none =>
      exact .tryCatch ((launch_holding d distinct asked).conseq (fun _ h => h rfl)
        (fun _ _ h => h) (fun _ _ h => h)) (rollBack_throws added)
  refine .bind launched (fun startTUs => ?_)
  exact .bind (.modify (fun _ h => h)) (fun _ => .pure _ (fun _ h => ⟨h, asked⟩))

/-- Host and device agree on the order of the channels exactly when the wanted pins
the device still held begin the configuration's pins. -/
theorem started_channels_match (d : Device) (config : StreamConfig) (st st' : HostState)
    (handle : StreamHandle) (alone : st.link.Alone) (distinct : st.selection.Nodup)
    (returned : d.startStream config st = .ok handle st') :
    st'.selection = config.channels ↔
      st.selection.filter (· ∈ config.channels) <+: config.channels := by
  obtain ⟨⟨_, selected⟩, asked⟩ :=
    (startStream_holding d config distinct).returns ⟨alone, rfl⟩ returned
  have fresh : config.channels.Nodup := asked.map (fun _ _ same => UInt8.toNat_inj.mp same)
  rw [show st'.selection = Lib.keptFirst st.selection config.channels from selected]
  exact Lib.keptFirst_eq_iff fresh

/-- The driver's view of that board. -/
def twoPinDevice : Device :=
  ⟨⟨1, 0x0101, 2, 2, 10, 8, 8, 32, 5000, 5000, 13, 8, 8, 1⟩, [15, 15], [0, 1], ⟨50, 40, 50⟩⟩

/-- Both pins are inputs, and `pins` are selected in that order. -/
def selectedBefore (pins : List UInt16) : List Act :=
  [request .pinMode 0 0, request .pinMode 0 1] ++ pins.map (request .streamSelect 1)

/-- A new host on that device, on a bus without errors. -/
def newHost (pins : List UInt16) : HostState :=
  ⟨⟨twoPinBoard, boot twoPinBoard, selectedBefore pins, fun _ => ⟨[], stillEnv .sent, none, ""⟩⟩,
    [], false⟩

theorem newHost_alone (pins : List UInt16) : (newHost pins).link.Alone :=
  fun _ _ inside => nomatch inside

/-- Both pins, free running. -/
def bothPins : StreamConfig := ⟨[0, 1], 0, 0, 1⟩

theorem started_channels_match_one_kept :
    ∃ handle st', twoPinDevice.startStream bothPins (newHost [0]) = .ok handle st' ∧
      (st'.selection = bothPins.channels ↔
        (newHost [0]).selection.filter (· ∈ bothPins.channels) <+: bothPins.channels) := by
  have returns : (match twoPinDevice.startStream bothPins (newHost [0]) with
      | .ok _ _ => true
      | .error _ _ => false) = true := by decide +kernel
  cases run : twoPinDevice.startStream bothPins (newHost [0]) with
  | ok handle st' =>
    exact ⟨handle, st', rfl, started_channels_match twoPinDevice bothPins (newHost [0]) st' handle
      (newHost_alone _) (by decide +kernel) run⟩
  | error _ _ =>
    rw [run] at returns
    contradiction

/-- An earlier session selected pin 1 before pin 0; the new one asks for 0, 1. -/
theorem stale_selection_swaps_channels :
    ¬ ∀ (d : Device) (config : StreamConfig) (st st' : HostState) (handle : StreamHandle),
      st.link.Alone → st.selection.Nodup → d.startStream config st = .ok handle st' →
      st'.selection = config.channels := by
  intro claim
  have swapped : (match twoPinDevice.startStream bothPins (newHost [1, 0]) with
      | .ok _ st' => some st'.selection
      | .error _ _ => none) = some [1, 0] := by decide +kernel
  cases run : twoPinDevice.startStream bothPins (newHost [1, 0]) with
  | ok handle st' =>
    rw [run] at swapped
    have same := claim _ _ _ _ _ (newHost_alone _) (by decide +kernel) run
    rw [Option.some.inj swapped] at same
    exact absurd same (by decide)
  | error _ _ =>
    rw [run] at swapped
    contradiction

end ArduinoDriver
