import ArduinoDriver.Firmware.Boot
import ArduinoDriver.Host.Construct
import ArduinoDriver.Host.Reading
import ArduinoDriver.Lib.Threads

namespace ArduinoDriver

open Lib (Program System Reach Conversation Move)

/-- A constructor that has returned or thrown. -/
structure Constructed where
  options : DeviceOptions
  outcome : Except Error Device

/-- A board that starts, with the hosts that construct a Device of it. `env` is what the core
answers while the next packet is served. -/
structure Startup where
  booting : Booting
  env : Env
  ended : List Constructed

/-- What happens besides the constructors. -/
inductive StartupEvent where
  | boot (a : BootAct)
  | turn (env : Env)

def Startup.act (b : Board) (stallText : String) (_ : Nat) (_ : DeviceOptions) :
    (op : DriverOp) → Startup → Option (op.Reply × Startup)
  | .transfer p, s =>
    some (match (handleSetup b s.env s.booting.machine.dev p).2 with
      | some reply => .ok reply
      | none => .error ⟨.stall, stallText⟩,
      { s with booting := s.booting.step b (.act (.setup s.env p)) })
  | .access .., s => some ((), s)
  | .loadStreaming, _ | .storeStreaming _, _ | .lock, _ | .unlock, _ | .loadSelected, _ | .storeSelected _, _ => none

/-- Devices constructed at any moment of the boot. -/
def constructors (b : Board) (stallText : String) :
    System DriverOp.Reply Error Device DeviceOptions Startup StartupEvent where
  body := Driver.construct
  enter _ _ s := some s
  act := Startup.act b stallText
  leave _ options outcome s := { s with ended := ⟨options, outcome⟩ :: s.ended }
  happen event s := match event with
    | .boot a => { s with booting := s.booting.step b a }
    | .turn env => { s with env := env }

/-- No GET_INFO is served in the middle of begin(), whoever sends it. -/
def Startup.patient (b : Board) (_ : Nat) (_ : DeviceOptions) (op : DriverOp) (s : Startup) : Prop :=
  match op with
  | .transfer p => p.asksInfo = true → s.booting.pc.settled b = true
  | _ => True

def StartupEvent.patient (b : Board) : StartupEvent → Startup → Prop
  | .boot a, s => unhurried b s.booting a
  | .turn _, _ => True

/-- The Device every constructor of the board ends with, unless it gives up waiting. -/
def Constructed.Faithful (b : Board) (c : Constructed) : Prop :=
  c.outcome = .ok (b.device c.options) ∨ ∃ e, c.outcome = .error e ∧ e.kind = .notReady

/-- A board that is switched on. -/
def Startup.on (env : Env) : Startup := ⟨.start, env, []⟩

abbrev infoRequest : SetupPacket := .inp .getInfo 0 (UInt16.ofNat infoLen)

abbrev capsRequest (b : Board) : SetupPacket := .inp .getPinCaps 0 (b.info (boot b).dev).nPins.toUInt16

/-- What a constructor asks, and how it is answered once a GET_INFO has told it of pins, and
before. -/
def asking (b : Board) : Conversation DriverOp.Reply Bool where
  may ready op := match op with
    | .transfer p => p = infoRequest ∨ ready = true ∧ p = capsRequest b
    | .access .. => True
    | _ => False
  answers ready op r ready' := match op, r with
    | .transfer p, r =>
      (p = infoRequest → r = .ok (infoBytes b (boot b).dev) ∧ ready' = true ∨
        r = .ok (infoBytes b .init) ∧ ready' = ready) ∧
      (p = capsRequest b → r = .ok ((List.range (boot b).dev.nPins).map (boot b).dev.caps) ∧ ready' = ready)
    | _, _ => ready' = ready

namespace Driver

variable {α : Type} {p : Driver α} {b : Board} {ready : Bool} {options : DeviceOptions}

/-- A computation whose value alone is known. -/
theorem asking_value {a : α} (E : Error → Bool → Prop) (h : p.Uses Accesses) (alone : p.alone = pure a) :
    p.Keeps (asking b) (fun a' ready' => ready' = ready ∧ a' = a) E ready :=
  computes h alone (fun _ _ => trivial) (fun _ _ _ _ same => same)

theorem infoBytes_length (b : Board) (d : UsbIoDevice) : (infoBytes b d).length = infoLen := by
  simp [infoBytes, usbioMagic]

theorem refuseIf_passes {bad : Prop} [Decidable bad] {e : Error} {E : Error → Bool → Prop} (good : ¬ bad) :
    (refuseIf bad e).Keeps (asking b) (fun _ ready' => ready' = ready) E ready :=
  Program.Keeps.ite (fun is => absurd is good) (fun _ => .pure rfl)

/-- decode_info() of what a device tells. -/
theorem decodeInfo_tells {reply : List UInt8} (d : UsbIoDevice) (E : Error → Bool → Prop)
    (told : reply = infoBytes b d) :
    (decodeInfo reply).Keeps (asking b) (fun info ready' => ready' = ready ∧ info = b.info d) E ready := by
  have alone := decodeInfo_alone reply
  rw [told, decodeInfo_infoBytes, ← told] at alone
  refine asking_value E (accesses_decodeInfo reply) ?_
  rw [alone]
  rfl

/-- GET_INFO is answered, as a device does that is final or has not begun. -/
theorem rawIn_info (E : Error → Bool → Prop) :
    (rawIn .getInfo 0 (UInt16.ofNat infoLen)).Keeps (asking b)
      (fun reply ready' => ∃ d, reply = infoBytes b d ∧
        (d = (boot b).dev ∧ ready' = true ∨ d = .init ∧ ready' = ready)) E ready := by
  refine Program.Keeps.bind (Q := fun reply ready' => ∃ d, reply = infoBytes b d ∧
    (d = (boot b).dev ∧ ready' = true ∨ d = .init ∧ ready' = ready)) ?_ (fun reply ready' said => ?_)
  · refine ⟨.inl rfl, fun r ready' answered => ?_⟩
    rcases answered.1 rfl with ⟨rfl, rfl⟩ | ⟨rfl, rfl⟩
    · exact ⟨(boot b).dev, rfl, .inl ⟨rfl, rfl⟩⟩
    · exact ⟨.init, rfl, .inr ⟨rfl, rfl⟩⟩
  · obtain ⟨d, rfl, which⟩ := said
    refine Program.Keeps.ite (fun long => ?_) (fun _ => .pure ⟨d, rfl, which⟩)
    rw [infoBytes_length] at long
    contradiction

/-- Each attempt returns the final Info or tries again. -/
theorem loadInfoOnce_faithful {again : Driver Info} {E : Error → Bool → Prop}
    (more : again.Keeps (asking b) (fun info ready' => info = b.info (boot b).dev ∧ ready' = true) E ready) :
    (loadInfoOnce again).Keeps (asking b)
      (fun info ready' => info = b.info (boot b).dev ∧ ready' = true) E ready := by
  refine Program.Keeps.bind (rawIn_info E) (fun reply ready' said => ?_)
  obtain ⟨d, told, which⟩ := said
  refine Program.Keeps.bind (refuseIf_passes (by rw [told, infoBytes_length]; decide)) (fun _ _ same => ?_)
  subst same
  refine Program.Keeps.bind (decodeInfo_tells d E told) (fun info _ same => ?_)
  obtain ⟨rfl, rfl⟩ := same
  refine Program.Keeps.bind (refuseIf_passes (fun other => other rfl)) (fun _ _ same => ?_)
  subst same
  rcases which with ⟨rfl, rfl⟩ | ⟨rfl, rfl⟩
  · refine Program.Keeps.ite (fun _ => .pure ⟨rfl, rfl⟩) (fun none_ => absurd ?_ none_)
    intro zero
    have pins := (boot_begun b).nPins_toNat
    have some_ := (boot_begun b).nPins ▸ b.pinCount_pos
    change UInt8.ofNat (boot b).dev.nPins = 0 at zero
    rw [zero] at pins
    exact absurd some_ (by rw [← pins]; exact Nat.lt_irrefl 0)
  · exact Program.Keeps.ite (fun some_ => absurd rfl some_) (fun _ => more)

theorem loadInfo_faithful :
    (loadInfo options).Keeps (asking b) (fun info ready' => info = b.info (boot b).dev ∧ ready' = true)
      (fun e _ => e.kind = .notReady) ready := by
  have begun := boot_begun b
  have loop : ∀ left, (loadInfoFrom options left).Keeps (asking b)
      (fun info ready' => info = b.info (boot b).dev ∧ ready' = true) (fun e _ => e.kind = .notReady) ready := by
    intro left
    induction left with
    | zero => exact loadInfoOnce_faithful (.throw rfl)
    | succ left ih => exact loadInfoOnce_faithful ih
  have few : (boot b).dev.nPins ≤ maxPins := begun.nPins ▸ b.pinCount_le
  have analog : (boot b).dev.nAin ≤ (boot b).dev.nPins := begun.counted ▸ Lib.Table.count_le ..
  refine Program.Keeps.bind (loop _) (fun info ready' same => ?_)
  obtain ⟨rfl, rfl⟩ := same
  refine Program.Keeps.bind (refuseIf_passes ?_) (fun _ _ same => ?_)
  · change ¬ maxPins < (UInt8.ofNat (boot b).dev.nPins).toNat
    rw [begun.nPins_toNat]
    exact Nat.not_lt.mpr few
  · subst same
    refine Program.Keeps.bind (refuseIf_passes ?_) (fun _ _ same => .pure ⟨rfl, same⟩)
    change ¬ (maxAin < (UInt8.ofNat (boot b).dev.nAin).toNat ∨
      UInt8.ofNat (boot b).dev.nPins < UInt8.ofNat (boot b).dev.nAin)
    rw [UInt8.lt_iff_toNat_lt, begun.nAin_toNat, begun.nPins_toNat]
    have few := begun.few
    omega

/-- GET_PIN_CAPS gives the final table, and load_caps() accepts it. -/
theorem loadCaps_faithful (E : Error → Bool → Prop) :
    (loadCaps (b.info (boot b).dev)).Keeps (asking b)
      (fun table _ => table = ((List.range (boot b).dev.nPins).map (boot b).dev.caps,
        (boot b).dev.analogPins.map UInt8.ofNat)) E true := by
  have begun := boot_begun b
  have pins : (b.info (boot b).dev).nPins.toNat = (boot b).dev.nPins := begun.nPins_toNat
  have analog : (b.info (boot b).dev).nAin.toNat = (boot b).dev.nAin := begun.nAin_toNat
  have span_ : (span (b.info (boot b).dev).nPins.toNat maxPins).Uses Accesses :=
    .ite trivial (.bind (.perform trivial) (fun _ => trivial))
  refine Program.Keeps.bind (asking_value E span_ (span_alone ..)) (fun _ _ same => ?_)
  obtain ⟨rfl, _⟩ := same
  refine Program.Keeps.bind (Q := fun reply ready' =>
    reply = (List.range (boot b).dev.nPins).map (boot b).dev.caps ∧ ready' = true) ?_ (fun reply _ said => ?_)
  · refine Program.Keeps.bind (Q := fun reply ready' =>
      reply = (List.range (boot b).dev.nPins).map (boot b).dev.caps ∧ ready' = true) ?_ (fun reply _ said => ?_)
    · refine ⟨.inr ⟨rfl, rfl⟩, fun r ready' answered => ?_⟩
      obtain ⟨rfl, rfl⟩ := answered.2 rfl
      exact ⟨rfl, rfl⟩
    · obtain ⟨rfl, rfl⟩ := said
      refine Program.Keeps.ite (fun long => ?_) (fun _ => .pure ⟨rfl, rfl⟩)
      rw [UInt8.toNat_toUInt16, pins, List.length_map, List.length_range] at long
      exact absurd long (Nat.lt_irrefl _)
  · obtain ⟨rfl, rfl⟩ := said
    refine Program.Keeps.bind (refuseIf_passes ?_) (fun _ _ same => ?_)
    · rw [pins, List.length_map, List.length_range]
      exact Nat.lt_irrefl _
    · subst same
      have table := @each_alone _ _ (byteAt ((List.range (boot b).dev.nPins).map (boot b).dev.caps)) _
        (fun _ => rfl) (List.range (b.info (boot b).dev).nPins.toNat)
      refine Program.Keeps.bind (asking_value E (.each (fun _ => accesses_byteAt ..)) table) (fun caps _ same => ?_)
      obtain ⟨rfl, rfl⟩ := same
      have read : (List.range (boot b).dev.nPins).map
          (readU8 ((List.range (boot b).dev.nPins).map (boot b).dev.caps)) =
            (List.range (boot b).dev.nPins).map (boot b).dev.caps :=
        List.map_congr_left (fun p inside => readU8_table (boot b).dev.caps (List.mem_range.mp inside))
      rw [pins, read, analogPinsOf_table]
      refine Program.Keeps.bind (refuseIf_passes ?_) (fun _ _ _ => .pure rfl)
      rw [analog, List.length_map, begun.analogPins]
      exact fun other => other rfl

theorem construct_faithful :
    (construct options).Keeps (asking b) (fun d _ => d = b.device options) (fun e _ => e.kind = .notReady) ready := by
  refine Program.Keeps.bind loadInfo_faithful (fun info ready' same => ?_)
  obtain ⟨rfl, rfl⟩ := same
  refine Program.Keeps.bind (loadCaps_faithful _) (fun table _ same => ?_)
  subst same
  exact .pure rfl

end Driver

/-- The answers are final, a constructor that was told of pins was told so by them, and each
that has ended is faithful. -/
structure Startup.Orderly (b : Board) (s : Startup) (places : Nat → Option (DeviceOptions × Bool)) : Prop where
  sound : s.booting.Sound b
  told : ∀ t options, places t = some (options, true) → SeenReady s.booting.answers
  faithful : ∀ c ∈ s.ended, c.Faithful b

/-- Each constructor, with whether it has been told of pins. -/
def asked (b : Board) (stallText : String) : (constructors b stallText).Discipline Bool where
  conversation := asking b
  returns options d _ := d = b.device options
  throws _ e _ := e.kind = .notReady
  inv := Startup.Orderly b

variable {b : Board} {stallText : String} {s s' : Startup} {places : Nat → Option (DeviceOptions × Bool)} {t : Nat}
  {options : DeviceOptions} {ready ready' : Bool}

/-- A thread moves on, and nothing that was answered is taken back. -/
theorem Startup.Orderly.moves (inv : s.Orderly b places) (sound : s'.booting.Sound b) (ended : s'.ended = s.ended)
    (kept : SeenReady s.booting.answers → SeenReady s'.booting.answers)
    (mine : ready' = true → SeenReady s'.booting.answers) :
    s'.Orderly b (Function.update places t (some (options, ready'))) := by
  refine ⟨sound, fun u options' here => ?_, ended ▸ inv.faithful⟩
  by_cases same : u = t
  · subst same
    rw [Function.update_self] at here
    cases here
    exact mine rfl
  · rw [Function.update_of_ne same] at here
    exact kept (inv.told u options' here)

theorem SeenReady.later {answers : List Obs} (h : SeenReady answers) (o : Obs) : SeenReady (o :: answers) := by
  obtain ⟨index, reply, inside, tells⟩ := h
  exact ⟨index, reply, List.mem_cons_of_mem _ inside, tells⟩

theorem handleSetup_info (b : Board) (env : Env) (d : UsbIoDevice) :
    (handleSetup b env d infoRequest).2 = some (infoBytes b d) := by
  rw [infoRequest, handleSetup_inp]
  change some ((infoBytes b d).take infoLen) = _
  rw [List.take_of_length_le (Nat.le_of_eq (Driver.infoBytes_length b d))]

theorem infoRequest_obs (reply : List UInt8) : infoRequest.obs (some reply) = .answered .getInfo 0 reply := by
  have isIn : ((0xC0 : UInt8) &&& 0x80 != 0) = true := by decide
  have toDevice : (0xC0 : UInt8) &&& 0x1F = 0 := by decide
  simp [SetupPacket.obs, SetupPacket.inp, SetupPacket.isIn, SetupPacket.index, isIn, toDevice]

/-- GET_INFO of a constructor is answered with the final reply, or by a device that has not
begun. -/
theorem asks_info {r : Except Error (List UInt8)} (inv : s.Orderly b places)
    (waits : Startup.patient b t options (.transfer infoRequest) s)
    (acted : Startup.act b stallText t options (.transfer infoRequest) s = some (r, s')) (ready : Bool) :
    ∃ ready',
      (r = .ok (infoBytes b (boot b).dev) ∧ ready' = true ∨ r = .ok (infoBytes b .init) ∧ ready' = ready) ∧
      ((ready = true → SeenReady s.booting.answers) →
        s'.Orderly b (Function.update places t (some (options, ready')))) := by
  have sound := inv.sound.setup s.env infoRequest waits
  have said := handleSetup_info b s.env s.booting.machine.dev
  cases acted
  rw [said]
  dsimp only
  rcases inv.sound.progress.settled (waits (by decide)) with ⟨_, same⟩ | ⟨_, same⟩
  · refine ⟨ready, .inr ⟨by rw [same.infoBytes], rfl⟩, fun before => ?_⟩
    exact inv.moves sound rfl (fun seen => seen.later _) (fun is => (before is).later _)
  · refine ⟨true, .inl ⟨by rw [same.infoBytes], rfl⟩, fun _ => ?_⟩
    have seen : SeenReady (infoRequest.obs (handleSetup b s.env s.booting.machine.dev infoRequest).2 ::
        s.booting.answers) := by
      refine ⟨0, infoBytes b s.booting.machine.dev, ?_, ?_⟩
      · rw [said, infoRequest_obs]
        exact List.mem_cons_self ..
      · change UInt8.ofNat s.booting.machine.dev.nPins ≠ 0
        rw [same.nPins]
        intro zero
        have pins := (boot_begun b).nPins_toNat
        have some_ := (boot_begun b).nPins ▸ b.pinCount_pos
        rw [zero] at pins
        exact absurd some_ (by rw [← pins]; exact Nat.lt_irrefl 0)
    exact inv.moves sound rfl (fun before => before.later _) (fun _ => seen)

/-- GET_PIN_CAPS of a constructor that was told of pins gives the final table. -/
theorem asks_caps {r : Except Error (List UInt8)} (inv : s.Orderly b places)
    (place : places t = some (options, true))
    (acted : Startup.act b stallText t options (.transfer (capsRequest b)) s = some (r, s')) :
    r = .ok ((List.range (boot b).dev.nPins).map (boot b).dev.caps) ∧
      s'.Orderly b (Function.update places t (some (options, true))) := by
  have seen := inv.told t options place
  have same := inv.sound.identity seen
  have few : (boot b).dev.nPins ≤ 128 := (boot_begun b).nPins ▸ b.pinCount_le
  have asked : (b.info (boot b).dev).nPins.toUInt16.toNat = (boot b).dev.nPins := by
    rw [UInt8.toNat_toUInt16]
    exact (boot_begun b).nPins_toNat
  have said : (handleSetup b s.env s.booting.machine.dev (capsRequest b)).2 =
      some ((List.range (boot b).dev.nPins).map (boot b).dev.caps) := by
    rw [capsRequest, handleSetup_inp]
    change some ((pinCapsBytes s.booting.machine.dev 0 (b.info (boot b).dev).nPins.toUInt16.toNat).take _) = _
    rw [same.pinCapsBytes, asked]
    unfold pinCapsBytes
    rw [List.take_of_length_le (by simp)]
    simp
  cases acted
  rw [said]
  refine ⟨rfl, inv.moves (inv.sound.setup s.env (capsRequest b) (fun asks => ?_)) rfl (fun before => before.later _)
    (fun _ => seen.later _)⟩
  exact absurd asks (by simp [SetupPacket.asksInfo, SetupPacket.inp])

theorem asked_kept (b : Board) (stallText : String) :
    (asked b stallText).Kept (Startup.patient b) (StartupEvent.patient b) where
  enter := by
    intro t options s s' places inv here entered
    cases entered
    exact ⟨false, inv.moves inv.sound rfl (fun seen => seen) (fun is => Bool.noConfusion is),
      Driver.construct_faithful⟩
  act := by
    intro t options op s s' places ready r inv place sends waits acted
    cases op with
    | transfer p =>
      have codes : Request.getInfo.code ≠ Request.getPinCaps.code := by decide
      have apart : infoRequest ≠ capsRequest b :=
        fun same => absurd (congrArg SetupPacket.bRequest same) codes
      have acted' : Startup.act b stallText t options (.transfer p) s = some (r, s') := acted
      rcases sends with rfl | ⟨rfl, rfl⟩
      · obtain ⟨ready', answered, inv'⟩ := asks_info inv waits acted' ready
        refine ⟨ready', ⟨fun _ => answered, fun same => absurd same apart⟩, inv' (fun is => ?_)⟩
        subst is
        exact inv.told t options place
      · obtain ⟨answered, inv'⟩ := asks_caps inv place acted'
        exact ⟨true, ⟨fun same => absurd same.symm apart, fun _ => ⟨answered, rfl⟩⟩, inv'⟩
    | access i n =>
      cases acted
      refine ⟨ready, rfl, inv.moves inv.sound rfl (fun seen => seen) (fun is => ?_)⟩
      subst is
      exact inv.told t options place
    | _ => exact sends.elim
  leave := by
    intro t options s places ready outcome inv place ends
    refine ⟨inv.sound, fun u options' here => ?_, fun c inside => ?_⟩
    · by_cases same : u = t
      · subst same
        rw [Function.update_self] at here
        contradiction
      · rw [Function.update_of_ne same] at here
        exact inv.told u options' here
    · rcases List.mem_cons.mp inside with rfl | before
      · cases outcome with
        | ok d =>
          cases ends
          exact .inl rfl
        | error e => exact .inr ⟨e, rfl, ends⟩
      · exact inv.faithful c before
  happen := by
    intro event s places inv allowed
    cases event with
    | turn env => exact ⟨inv.sound, inv.told, inv.faithful⟩
    | boot a =>
      refine ⟨inv.sound.step a allowed, fun t options here => ?_, inv.faithful⟩
      have seen := inv.told t options here
      cases a with
      | begin => exact seen
      | act a =>
        cases a with
        | setup env p => exact seen.later _
        | disconnect => exact seen
        | loop env =>
          change SeenReady (Booting.step b s.booting (.act (.loop env))).answers
          unfold Booting.step
          dsimp only
          split
          · exact seen
          · exact seen

/-- A GET_INFO that tells of pins tells what is final, GET_PIN_CAPS after it too, and a Device
constructed at any moment is the one constructed after begin() or none yet, as long as no
GET_INFO is served in the middle of begin(). -/
theorem ready_is_final (b : Board) (stallText : String) (env : Env)
    {w : Lib.Pool DriverOp.Reply Error Device DeviceOptions Startup}
    (reached : Reach (constructors b stallText).step (System.permits (Startup.patient b) (StartupEvent.patient b))
      (System.idle (.on env)) w) :
    FinalAnswers b w.shared.booting.answers ∧ ∀ c ∈ w.shared.ended, c.Faithful b := by
  have start : (Startup.on env).Orderly b (fun _ => none) := by
    refine ⟨Booting.start_sound b, ?_, ?_⟩
    · intro t options here
      cases here
    · intro c inside
      cases inside
  obtain ⟨places, inv, _⟩ := (asked_kept b stallText).reach reached start
  exact ⟨inv.sound.final, inv.faithful⟩

instance unhurried.decidable (b : Board) (m : Booting) : (a : BootAct) → Decidable (unhurried b m a)
  | .act (.setup _ p) => inferInstanceAs (Decidable (p.asksInfo = true → m.pc.settled b = true))
  | .begin | .act (.loop _) | .act .disconnect => inferInstanceAs (Decidable True)

instance Startup.patient.decidable (b : Board) (t : Nat) (options : DeviceOptions) :
    (op : DriverOp) → (s : Startup) → Decidable (Startup.patient b t options op s)
  | .transfer p, s => inferInstanceAs (Decidable (p.asksInfo = true → s.booting.pc.settled b = true))
  | .access .., _ | .loadStreaming, _ | .storeStreaming _, _ | .lock, _ | .unlock, _ | .loadSelected, _
  | .storeSelected _, _ => inferInstanceAs (Decidable True)

instance StartupEvent.patient.decidable (b : Board) :
    (event : StartupEvent) → (s : Startup) → Decidable (event.patient b s)
  | .boot a, s => inferInstanceAs (Decidable (unhurried b s.booting a))
  | .turn _, _ => inferInstanceAs (Decidable True)

/-- A constructor that asks once before begin() and goes on when it has made `steps` of its
assignments. -/
def constructAfter (first steps : Nat) : List (Move DeviceOptions StartupEvent) :=
  .begin 0 ⟨1, 2, 0⟩ :: List.replicate first (.go 0) ++ List.replicate steps (.happen (.boot .begin)) ++
    List.replicate 100 (.go 0)

def afterBoot (moves : List (Move DeviceOptions StartupEvent)) :
    Lib.Pool DriverOp.Reply Error Device DeviceOptions Startup :=
  moves.foldl (constructors onePinBoard "STALL").step (System.idle (.on (stillEnv .busy)))

theorem ready_is_final_one_retry :
    (afterBoot (constructAfter 1 10)).shared.ended.length = 1 ∧
    FinalAnswers onePinBoard (afterBoot (constructAfter 1 10)).shared.booting.answers ∧
    ∀ c ∈ (afterBoot (constructAfter 1 10)).shared.ended, c.Faithful onePinBoard :=
  ⟨by decide +kernel,
    ready_is_final onePinBoard "STALL" (stillEnv .busy)
      (@Lib.Follows.reach _ _ _ _ _ (constructAfter 1 10) (by decide +kernel))⟩

/-- GET_INFO right after _n_pins is assigned: the Device has no flags. -/
theorem ready_before_flags :
    ¬ ∀ (b : Board) (stallText : String) (env : Env),
      ∀ w, Reach (constructors b stallText).step (fun _ _ => True) (System.idle (.on env)) w →
        FinalAnswers b w.shared.booting.answers ∧ ∀ c ∈ w.shared.ended, c.Faithful b := by
  intro claim
  have faithful := (claim onePinBoard "STALL" (stillEnv .busy) (afterBoot (constructAfter 0 1))
    (Reach.refl.foldl (fun _ _ => trivial) _)).2
  have flagless : ((afterBoot (constructAfter 0 1)).shared.ended.any fun c =>
      match c.outcome with
      | .ok d => d.info.flags == 0
      | .error e => e.kind != .notReady) = true := by decide +kernel
  obtain ⟨c, inside, odd⟩ := List.any_eq_true.mp flagless
  rcases faithful c inside with ready | ⟨e, thrown, kind⟩
  · rw [ready] at odd
    change ((onePinBoard.info (boot onePinBoard).dev).flags == 0) = true at odd
    exact absurd odd (by decide +kernel)
  · rw [thrown] at odd
    simp [kind] at odd

end ArduinoDriver
