import ArduinoDriver.Firmware.Identity

namespace ArduinoDriver

/-- The assignment begin() is about to make; `done` when it has returned. -/
inductive BootPc where
  | nPins
  | nAin
  /-- ++_n_ain, when pin `p` counts. -/
  | countAin (p : Nat)
  | caps (p : Nat) (caps : UInt8)
  | mode (p : Nat)
  | dio (p : Nat)
  | ain (p : Nat)
  | flags
  | flagsEvents
  | flagsTransport
  | done
  deriving DecidableEq, Repr

/-- The test of begin()'s loop. -/
def bootTest (d : UsbIoDevice) (p : Nat) : BootPc := if p < d.nPins then .countAin p else .flags

/-- One assignment of begin(). -/
def bootStep (b : Board) (d : UsbIoDevice) : BootPc → UsbIoDevice × BootPc
  | .nPins => ({ d with nPins := b.pinCount }, .nAin)
  | .nAin => ({ d with nAin := 0 }, bootTest d 0)
  | .countAin p =>
    ({ d with nAin := if b.pinHasAin p && decide (d.nAin < maxAin) then d.nAin + 1 else d.nAin },
      .caps p (beginCaps b d.nAin p))
  | .caps p caps => ({ d with caps := Function.update d.caps p caps }, .mode p)
  | .mode p => ({ d with mode := Function.update d.mode p none }, .dio p)
  | .dio p => ({ d with dio := Function.update d.dio p false }, .ain p)
  | .ain p => ({ d with ain := Function.update d.ain p 0 }, bootTest d (p + 1))
  | .flags => ({ d with flags := if b.hasPulldown then flagPulldown else 0 }, .flagsEvents)
  | .flagsEvents => ({ d with flags := d.flags ||| flagEvents }, .flagsTransport)
  | .flagsTransport => ({ d with flags := d.flags ||| b.transportFlags }, .done)
  | .done => (d, .done)

/-- A machine whose sketch may still be in begin(), with what handle_setup() has answered so
far, the newest first. -/
structure Booting where
  machine : Machine
  pc : BootPc
  answers : List Obs

/-- The sketch goes on with begin(), or something else happens: packets and disconnects at any
time, a step of poll() when begin() has returned. -/
inductive BootAct where
  | begin
  | act (a : Act)

def Booting.start : Booting := ⟨⟨.init, .idle, []⟩, .nPins, []⟩

def Booting.step (b : Board) (m : Booting) : BootAct → Booting
  | .begin =>
    let r := bootStep b m.machine.dev m.pc
    { m with machine := { m.machine with dev := r.1 }, pc := r.2 }
  | .act (.setup env s) => { m with
      machine := ArduinoDriver.step b m.machine (.setup env s)
      answers := s.obs (handleSetup b env m.machine.dev s).2 :: m.answers }
  | .act (.loop env) => if m.pc = .done then { m with machine := ArduinoDriver.step b m.machine (.loop env) } else m
  | .act .disconnect => { m with machine := ArduinoDriver.step b m.machine .disconnect }

/-- A GET_INFO that asks for more than the bytes before n_pins. -/
def SetupPacket.asksInfo (s : SetupPacket) : Bool :=
  s.isIn && Request.ofCode? s.bRequest == some .getInfo && decide (8 < s.wLength.toNat)

/-- Nothing GET_INFO or GET_PIN_CAPS tells is half done: begin() has not assigned _n_pins
yet, or is through with all that differs. -/
def BootPc.settled (b : Board) : BootPc → Bool
  | .nPins | .done => true
  | .flagsTransport => !b.hasStreamTransport
  | _ => false

/-- n_pins of a GET_INFO reply, 0 where the reply is too short for it. -/
def toldPins (reply : List UInt8) : UInt8 := reply.getD 8 0

/-- A GET_INFO has told of pins. -/
def SeenReady (answers : List Obs) : Prop :=
  ∃ index reply, .answered .getInfo index reply ∈ answers ∧ toldPins reply ≠ 0

/-- Every GET_INFO reply that tells of pins is the final one, as far as it was asked for, and
so is every GET_PIN_CAPS reply after it. -/
def FinalAnswers (b : Board) : List Obs → Prop
  | [] => True
  | .answered .getInfo _ reply :: answers =>
    (toldPins reply ≠ 0 → reply <+: infoBytes b (boot b).dev) ∧ FinalAnswers b answers
  | .answered .getPinCaps first reply :: answers =>
    (SeenReady answers → reply <+: pinCapsBytes (boot b).dev first.toNat maxPins) ∧ FinalAnswers b answers
  | _ :: answers => FinalAnswers b answers

/-- No such GET_INFO is served in between. -/
def unhurried (b : Board) (m : Booting) : BootAct → Prop
  | .act (.setup _ s) => s.asksInfo = true → m.pc.settled b = true
  | _ => True

/-- begin()'s loop after `k` pins. -/
def begunPins (b : Board) (k : Nat) : UsbIoDevice :=
  (List.range k).foldl (beginPin b) { UsbIoDevice.init with nPins := b.pinCount, nAin := 0 }

/-- What is known of the four fields at each point of begin(). -/
def Progress (b : Board) (d : UsbIoDevice) : BootPc → Prop
  | .nPins => SameIdentity d .init
  | .nAin => SameIdentity d (begunPins b 0)
  | .countAin p => p < b.pinCount ∧ SameIdentity d (begunPins b p)
  | .caps p caps => p < b.pinCount ∧ caps = beginCaps b (begunPins b p).nAin p ∧
      SameIdentity d { begunPins b p with nAin := (begunPins b (p + 1)).nAin }
  | .mode p | .dio p | .ain p => p < b.pinCount ∧ SameIdentity d (begunPins b (p + 1))
  | .flags => SameIdentity d (begunPins b b.pinCount)
  | .flagsEvents =>
    SameIdentity d { begunPins b b.pinCount with flags := if b.hasPulldown then flagPulldown else 0 }
  | .flagsTransport => SameIdentity d
      { begunPins b b.pinCount with flags := (if b.hasPulldown then flagPulldown else 0) ||| flagEvents }
  | .done => SameIdentity d (boot b).dev

variable {b : Board} {d d' : UsbIoDevice} {m : Booting} {pc : BootPc} {a : BootAct}

theorem begunPins_succ (b : Board) (k : Nat) : begunPins b (k + 1) = beginPin b (begunPins b k) k := by
  unfold begunPins
  rw [List.range_succ, List.foldl_append]
  rfl

theorem begunPins_nPins (b : Board) (k : Nat) : (begunPins b k).nPins = b.pinCount := by
  induction k with
  | zero => rfl
  | succ k ih =>
    rw [begunPins_succ]
    exact ih

/-- The loop goes on to the next pin, or to the flags. -/
theorem bootTest_progress {p : Nat} (few : p ≤ b.pinCount) (same : SameIdentity d (begunPins b p)) :
    Progress b d (bootTest d p) := by
  unfold bootTest
  rw [same.nPins, begunPins_nPins]
  by_cases more : p < b.pinCount
  · rw [if_pos more]
    exact ⟨more, same⟩
  · rw [if_neg more]
    rw [Nat.le_antisymm few (Nat.not_lt.mp more)] at same
    exact same

/-- Every assignment of begin() makes the progress it should. -/
theorem Progress.advance (h : Progress b d pc) : Progress b (bootStep b d pc).1 (bootStep b d pc).2 := by
  cases pc with
  | nPins => exact ⟨rfl, h.nAin, h.flags, h.caps⟩
  | nAin => exact bootTest_progress (Nat.zero_le _) ⟨h.nPins, rfl, h.flags, h.caps⟩
  | countAin p =>
    obtain ⟨more, same⟩ := h
    refine ⟨more, congrArg (beginCaps b · p) same.nAin, same.nPins, ?_, same.flags, same.caps⟩
    rw [begunPins_succ]
    simp only [bootStep, beginPin, same.nAin]
  | caps p caps =>
    obtain ⟨more, rfl, same⟩ := h
    refine ⟨more, ?_⟩
    rw [begunPins_succ] at same ⊢
    refine ⟨same.nPins, same.nAin, same.flags, ?_⟩
    simp only [bootStep, beginPin, same.caps]
  | mode p => exact ⟨h.1, h.2.nPins, h.2.nAin, h.2.flags, h.2.caps⟩
  | dio p => exact ⟨h.1, h.2.nPins, h.2.nAin, h.2.flags, h.2.caps⟩
  | ain p => exact bootTest_progress h.1 ⟨h.2.nPins, h.2.nAin, h.2.flags, h.2.caps⟩
  | flags => exact ⟨h.nPins, h.nAin, rfl, h.caps⟩
  | flagsEvents => exact ⟨h.nPins, h.nAin, congrArg (· ||| flagEvents) h.flags, h.caps⟩
  | flagsTransport => exact ⟨h.nPins, h.nAin, congrArg (· ||| b.transportFlags) h.flags, h.caps⟩
  | done => exact h

/-- The four fields are all that counts. -/
theorem Progress.congr (h : Progress b d pc) (same : SameIdentity d' d) : Progress b d' pc := by
  have through : ∀ {d₀ : UsbIoDevice}, SameIdentity d d₀ → SameIdentity d' d₀ := fun known =>
    ⟨same.nPins.trans known.nPins, same.nAin.trans known.nAin, same.flags.trans known.flags,
      same.caps.trans known.caps⟩
  cases pc with
  | countAin p | mode p | dio p | ain p => exact ⟨h.1, through h.2⟩
  | caps p caps => exact ⟨h.1, h.2.1, through h.2.2⟩
  | _ => exact through h

theorem Booting.step_progress (b : Board) (m : Booting) (a : BootAct) (h : Progress b m.machine.dev m.pc) :
    Progress b (m.step b a).machine.dev (m.step b a).pc := by
  cases a with
  | begin => exact h.advance
  | act a =>
    have same := step_identity b m.machine a
    cases a with
    | loop env =>
      unfold Booting.step
      dsimp only
      split
      · exact h.congr same
      · exact h
    | _ => exact h.congr same

theorem Booting.start_progress (b : Board) : Progress b Booting.start.machine.dev Booting.start.pc := .refl _

/-- Not ready, or all as begin() leaves it. -/
theorem Progress.settled (h : Progress b d pc) (settled : pc.settled b = true) :
    pc = .nPins ∧ SameIdentity d .init ∨ pc ≠ .nPins ∧ SameIdentity d (boot b).dev := by
  cases pc with
  | nPins => exact .inl ⟨rfl, h⟩
  | done => exact .inr ⟨BootPc.noConfusion, h⟩
  | flagsTransport =>
    refine .inr ⟨BootPc.noConfusion, h.nPins, h.nAin, ?_, h.caps⟩
    have none_ : b.transportFlags = 0 := by
      unfold BootPc.settled at settled
      rw [b.transportFlags_eq, if_neg (by simpa using settled)]
    rw [h.flags]
    change _ = _ ||| b.transportFlags
    rw [none_]
    simp
  | _ => contradiction

/-- What is final stays. -/
theorem bootStep_settled (settled : pc.settled b = true) (begun : pc ≠ .nPins) :
    (bootStep b d pc).2.settled b = true ∧ (bootStep b d pc).2 ≠ .nPins := by
  cases pc with
  | nPins => exact absurd rfl begun
  | done | flagsTransport => exact ⟨rfl, BootPc.noConfusion⟩
  | _ => contradiction

/-- What GET_INFO and GET_PIN_CAPS tell is a matter of the four fields. -/
theorem SameIdentity.infoBytes (same : SameIdentity d' d) (b : Board) :
    ArduinoDriver.infoBytes b d' = ArduinoDriver.infoBytes b d := by
  unfold ArduinoDriver.infoBytes
  rw [same.nPins, same.nAin, same.flags]

theorem SameIdentity.pinCapsBytes (same : SameIdentity d' d) (first wLength : Nat) :
    ArduinoDriver.pinCapsBytes d' first wLength = ArduinoDriver.pinCapsBytes d first wLength := by
  unfold ArduinoDriver.pinCapsBytes
  rw [same.nPins, same.caps]

theorem pinCapsBytes_start (few : d.nPins ≤ maxPins) (first wLength : Nat) :
    pinCapsBytes d first wLength <+: pinCapsBytes d first maxPins := by
  have all : min (d.nPins - first) maxPins = d.nPins - first := Nat.min_eq_left (by omega)
  unfold pinCapsBytes
  rw [all, Nat.min_comm, ← List.take_range]
  exact (List.take_prefix _ _).map _

/-- The answers so far are final, and so is the device once one has told of pins. -/
structure Booting.Sound (b : Board) (m : Booting) : Prop where
  progress : Progress b m.machine.dev m.pc
  final : FinalAnswers b m.answers
  lasting : SeenReady m.answers → m.pc.settled b = true ∧ m.pc ≠ .nPins

theorem Booting.Sound.identity (h : m.Sound b) (seen : SeenReady m.answers) :
    SameIdentity m.machine.dev (boot b).dev := by
  obtain ⟨settled, begun⟩ := h.lasting seen
  rcases h.progress.settled settled with ⟨early, _⟩ | ⟨_, same⟩
  · exact absurd early begun
  · exact same

/-- A GET_INFO that tells of pins asked for them, and was served when all was settled. -/
theorem Booting.Sound.info {env : Env} {s : SetupPacket} {index : UInt16} {reply : List UInt8} (h : m.Sound b)
    (waits : s.asksInfo = true → m.pc.settled b = true)
    (said : s.obs (handleSetup b env m.machine.dev s).2 = .answered .getInfo index reply)
    (tells : toldPins reply ≠ 0) :
    reply <+: infoBytes b (boot b).dev ∧ m.pc.settled b = true ∧ m.pc ≠ .nPins := by
  obtain ⟨asks, named, _, full, replied, rfl⟩ := handleSetup_answered said
  have whole : full = infoBytes b m.machine.dev := by
    simp only [replyBytes, named, Option.some.injEq] at replied
    exact replied.symm
  subst whole
  have long : 8 < s.wLength.toNat := by
    by_contra short
    refine tells ?_
    unfold toldPins
    rw [List.getD_eq_getElem?_getD, List.getElem?_take, if_neg short]
    rfl
  have settled := waits (by simp [SetupPacket.asksInfo, asks, named, long])
  rcases h.progress.settled settled with ⟨early, same⟩ | ⟨late, same⟩
  · refine absurd ?_ tells
    rw [same.infoBytes]
    unfold toldPins
    rw [List.getD_eq_getElem?_getD, List.getElem?_take, if_pos long]
    rfl
  · rw [same.infoBytes]
    exact ⟨List.take_prefix _ _, settled, late⟩

/-- So is a GET_PIN_CAPS once one has told of pins. -/
theorem Booting.Sound.caps {env : Env} {s : SetupPacket} {first : UInt16} {reply : List UInt8} (h : m.Sound b)
    (said : s.obs (handleSetup b env m.machine.dev s).2 = .answered .getPinCaps first reply)
    (seen : SeenReady m.answers) : reply <+: pinCapsBytes (boot b).dev first.toNat maxPins := by
  obtain ⟨_, named, rfl, full, replied, rfl⟩ := handleSetup_answered said
  have same := h.identity seen
  have whole : full = pinCapsBytes m.machine.dev s.index.toNat s.wLength.toNat := by
    simp only [replyBytes, named, Option.some.injEq] at replied
    exact replied.symm
  subst whole
  have reached : Reachable b (boot b) := .refl
  have few : (boot b).dev.nPins ≤ maxPins := (reach_begun reached).nPins ▸ b.pinCount_le
  rw [same.pinCapsBytes]
  exact (List.take_prefix _ _).trans (pinCapsBytes_start few _ _)

/-- A request is answered with what is final, as long as no GET_INFO comes in between. -/
theorem Booting.Sound.setup (env : Env) (s : SetupPacket) (h : m.Sound b)
    (waits : s.asksInfo = true → m.pc.settled b = true) : (m.step b (.act (.setup env s))).Sound b := by
  refine ⟨Booting.step_progress b m (.act (.setup env s)) h.progress, ?_, ?_⟩
  · change FinalAnswers b (s.obs (handleSetup b env m.machine.dev s).2 :: m.answers)
    cases said : s.obs (handleSetup b env m.machine.dev s).2 with
    | answered req index reply =>
      cases req with
      | getInfo => exact ⟨fun tells => (h.info waits said tells).1, h.final⟩
      | getPinCaps => exact ⟨fun seen => h.caps said seen, h.final⟩
      | _ => exact h.final
    | _ => exact h.final
  · rintro ⟨index, reply, inside, tells⟩
    rcases List.mem_cons.mp inside with said | before
    · exact (h.info waits said.symm tells).2
    · exact h.lasting ⟨index, reply, before, tells⟩

theorem Booting.Sound.step (h : m.Sound b) (a : BootAct) (allowed : unhurried b m a) : (m.step b a).Sound b := by
  cases a with
  | begin => exact ⟨h.progress.advance, h.final, fun seen => bootStep_settled (h.lasting seen).1 (h.lasting seen).2⟩
  | act a =>
    cases a with
    | setup env s => exact h.setup env s allowed
    | disconnect => exact ⟨Booting.step_progress b m (.act .disconnect) h.progress, h.final, h.lasting⟩
    | loop env =>
      have progress := Booting.step_progress b m (.act (.loop env)) h.progress
      unfold Booting.step at progress ⊢
      dsimp only at progress ⊢
      split at progress <;> rename_i returned
      · rw [if_pos returned]
        exact ⟨progress, h.final, h.lasting⟩
      · rw [if_neg returned]
        exact h

theorem Booting.start_sound (b : Board) : Booting.start.Sound b := by
  refine ⟨Booting.start_progress b, trivial, ?_⟩
  rintro ⟨index, reply, inside, _⟩
  cases inside

/-- A number of begin()'s assignments in a row. -/
def Booting.proceed (b : Board) (n : Nat) (m : Booting) : Booting :=
  (List.replicate n BootAct.begin).foldl (Booting.step b) m

theorem Booting.proceed_add (b : Board) (n k : Nat) (m : Booting) :
    m.proceed b (n + k) = (m.proceed b n).proceed b k := by
  unfold Booting.proceed
  rw [List.replicate_add, List.foldl_append]

theorem begunPins_step (b : Board) (k : Nat) (log : Log) (answers : List Obs) :
    Booting.proceed b 5 ⟨⟨begunPins b k, .idle, log⟩, .countAin k, answers⟩ =
      ⟨⟨begunPins b (k + 1), .idle, log⟩, bootTest (begunPins b (k + 1)) (k + 1), answers⟩ := by
  rw [begunPins_succ]
  rfl

/-- Undisturbed, the assignments are begin(). -/
theorem Booting.proceed_boot (b : Board) : ∃ n, Booting.start.proceed b n = ⟨boot b, .done, []⟩ := by
  have loop : ∀ k ≤ b.pinCount, ∃ n, Booting.start.proceed b n =
      ⟨⟨begunPins b k, .idle, []⟩, bootTest (begunPins b k) k, []⟩ := by
    intro k
    induction k with
    | zero => exact fun _ => ⟨2, rfl⟩
    | succ k ih =>
      intro few
      obtain ⟨n, so_far⟩ := ih (Nat.le_of_succ_le few)
      refine ⟨n + 5, ?_⟩
      have at_pin : bootTest (begunPins b k) k = .countAin k := if_pos (by rw [begunPins_nPins]; exact few)
      rw [Booting.proceed_add, so_far, at_pin]
      exact begunPins_step b k [] []
  obtain ⟨n, so_far⟩ := loop b.pinCount (Nat.le_refl _)
  have at_flags : bootTest (begunPins b b.pinCount) b.pinCount = .flags :=
    if_neg (by rw [begunPins_nPins]; exact Nat.lt_irrefl _)
  refine ⟨n + 3, ?_⟩
  rw [Booting.proceed_add, so_far, at_flags]
  rfl

end ArduinoDriver
