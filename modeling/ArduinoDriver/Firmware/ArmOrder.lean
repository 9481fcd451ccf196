import ArduinoDriver.Firmware.Replies
import ArduinoDriver.Firmware.Watches
import ArduinoDriver.Firmware.Watchlog
import ArduinoDriver.Lib.InsertionOrder

namespace ArduinoDriver

/-- The accepted arms of a run: how many there were, and by pin the number of the latest. -/
structure ArmLog where
  arms : Nat
  last : Nat → Nat

def ArmLog.empty : ArmLog := ⟨0, fun _ => 0⟩

/-- One more arm. -/
def ArmLog.arm (g : ArmLog) (pin : Nat) : ArmLog :=
  ⟨g.arms + 1, Function.update g.last pin (g.arms + 1)⟩

/-- The arms along a run. -/
def armlog (b : Board) (m : Machine) (act : Act) (g : ArmLog) : ArmLog :=
  match act with
  | .setup env s =>
    (((s.obs (handleSetup b env m.dev s).2).eventRequest.bind EventRequest.arms).map g.arm).getD g
  | .loop _ | .disconnect => g

/-- A run with its arms. -/
abbrev Arming (b : Board) : Machine × ArmLog → Prop :=
  Lib.Reach (Lib.recording (step b) (armlog b)) (fun _ _ => True) (boot b, .empty)

/-- The stamps of the watched pins against the numbers of their arms. -/
structure Numbered (e : EventState) (g : ArmLog) : Prop where
  serial : e.armSeq = UInt8.ofNat g.arms
  armed : ∀ i < maxEventPins, (e.watch i).active = true →
    (e.watch i).armSeq = UInt8.ofNat (g.last (e.watch i).pin) ∧ 0 < g.last (e.watch i).pin
  past : ∀ pin, g.last pin ≤ g.arms
  apart : ∀ p q, g.last p = g.last q → 0 < g.last p → p = q

/-- Between these, no slot was armed. -/
structure SameArms (e' e : EventState) : Prop where
  serial : e'.armSeq = e.armSeq
  pin : ∀ i, (e'.watch i).pin = (e.watch i).pin
  stamp : ∀ i, (e'.watch i).armSeq = (e.watch i).armSeq
  active : ∀ i, (e'.watch i).active = true → (e.watch i).active = true

variable {b : Board} {env : Env} {d : UsbIoDevice} {m : Machine} {e e' : EventState} {g : ArmLog}
  {r : Machine × ArmLog} {i j pin : Nat}

theorem SameArms.refl (e : EventState) : SameArms e e := ⟨rfl, fun _ => rfl, fun _ => rfl, fun _ => id⟩

theorem SameArms.setWatch {w : EventWatch} (at_pin : w.pin = (e.watch i).pin)
    (stamp : w.armSeq = (e.watch i).armSeq) (on : w.active = (e.watch i).active) :
    SameArms (e.setWatch i w) e := by
  have slot : ∀ j, ((e.setWatch i w).watch j).pin = (e.watch j).pin ∧
      ((e.setWatch i w).watch j).armSeq = (e.watch j).armSeq ∧
      ((e.setWatch i w).watch j).active = (e.watch j).active := by
    intro j
    by_cases here : j = i
    · subst here
      rw [setWatch_watch]
      exact ⟨at_pin, stamp, on⟩
    · rw [setWatch_other here]
      exact ⟨rfl, rfl, rfl⟩
  exact ⟨rfl, fun j => (slot j).1, fun j => (slot j).2.1, fun j active => (slot j).2.2 ▸ active⟩

theorem Numbered.keeps (h : Numbered e g) (same : SameArms e' e) : Numbered e' g := by
  refine ⟨same.serial.trans h.serial, fun i inside on => ?_, h.past, h.apart⟩
  rw [same.pin i, same.stamp i]
  exact h.armed i inside (same.active i on)

theorem Numbered.arm (h : Numbered e g) (arms : e.Arms pin) (edge : EdgeMode) (debounceMs : UInt8) :
    Numbered (e.perform (.arm pin edge debounceMs)) (g.arm pin) := by
  obtain ⟨watch, serial, _, _⟩ := perform_arm e pin edge debounceMs
  have next : e.armSeq + 1 = UInt8.ofNat (g.arms + 1) := by
    rw [h.serial, UInt8.ofNat_add]
    rfl
  have elsewhere : ∀ {p}, p ≠ pin → (g.arm pin).last p = g.last p := fun other =>
    Function.update_of_ne other ..
  have here : (g.arm pin).last pin = g.arms + 1 := Function.update_self ..
  refine ⟨serial.trans next, fun i inside => ?_, fun p => ?_, fun p q same late => ?_⟩
  · rw [watch]
    by_cases slot : i = e.armSlot pin
    · subst slot
      rw [Function.update_self]
      intro _
      dsimp only
      rw [here]
      exact ⟨next, Nat.succ_pos _⟩
    · rw [Function.update_of_ne slot]
      intro on
      rw [elsewhere (arms.alone i inside slot on)]
      exact h.armed i inside on
  · by_cases self : p = pin
    · subst self
      exact here.le
    · rw [elsewhere self]
      exact Nat.le_succ_of_le (h.past p)
  · by_cases left : p = pin
    · by_cases right : q = pin
      · exact left.trans right.symm
      · subst left
        rw [here, elsewhere right] at same
        have := h.past q
        omega
    · by_cases right : q = pin
      · subst right
        rw [here, elsewhere left] at same
        have := h.past p
        omega
      · rw [elsewhere left, elsewhere right] at same
        rw [elsewhere left] at late
        exact h.apart p q same late

/-- event_poll() arms nothing. -/
theorem eventStep_sameArms (env : Env) (d : UsbIoDevice) (pc : EventPc) :
    SameArms (eventStep env d pc).1 d.event := by
  cases pc with
  | takeSeq | takeBaseline | bumpCount | openWindow => exact .setWatch rfl rfl rfl
  | compareLevel now i pin =>
    simp only [eventStep]
    split
    · exact .refl _
    · exact .setWatch rfl rfl rfl
  | readActive | roomTest | dropTest | seqTest | changeTest | directionTest | debounceTest =>
    simp only [eventStep]
    repeat' split
    all_goals exact .refl _
  | _ => exact ⟨rfl, fun _ => rfl, fun _ => rfl, fun _ => id⟩

theorem perform_sameArms {req : EventRequest} (e : EventState) (unarmed : req.arms = none) :
    SameArms (e.perform req) e := by
  obtain ⟨serial, _, slots⟩ := perform_unarmed e unarmed
  refine ⟨serial, fun i => ?_, fun i => ?_, fun i => ?_⟩
  all_goals
    obtain ⟨on, kept, same⟩ := slots i
    rw [same]
  exact kept

theorem Arming.numbered (reached : Arming b r) : Numbered r.1.dev.event r.2 ∧ r.1.Ok b := by
  refine reached.invariant (I := fun r => Numbered r.1.dev.event r.2 ∧ r.1.Ok b) ?_ ?_
  · obtain ⟨caps, nAin, booted, _⟩ := boot_dev b
    refine ⟨?_, boot_ok b⟩
    dsimp only
    rw [booted]
    refine ⟨rfl, fun i _ on => ?_, fun _ => Nat.le_refl 0, fun p q _ late => ?_⟩
    · exact absurd on Bool.false_ne_true
    · exact absurd late (Nat.lt_irrefl 0)
  · rintro ⟨m, g⟩ act ⟨h, ok⟩ _
    refine ⟨?_, step_ok act ok⟩
    cases act with
    | disconnect => exact h
    | loop env =>
      by_cases scans : ∃ pc, m.pc = .event pc
      · obtain ⟨pc, at_pc⟩ := scans
        change Numbered (loopStep b env m).dev.event g
        rw [(loopStep_eventStep b env at_pc).1]
        exact h.keeps (eventStep_sameArms env m.dev pc)
      · change Numbered (loopStep b env m).dev.event g
        rw [loopStep_event_frame b env m (fun pc at_pc => scans ⟨pc, at_pc⟩)]
        exact h
    | setup env s =>
      have served := handleSetup_served b env m.dev s
      change Numbered (handleSetup b env m.dev s).1.event (armlog b m (.setup env s) g)
      unfold armlog
      dsimp only
      generalize s.obs (handleSetup b env m.dev s).2 = o at served
      rw [served.event]
      cases asked : o.eventRequest with
      | none => exact h
      | some req =>
        cases unarmed : req.arms with
        | none =>
          rw [Option.bind_some, unarmed]
          exact h.keeps (perform_sameArms m.dev.event unarmed)
        | some pin =>
          cases req with
          | arm pin' edge debounceMs =>
            exact h.arm (served.arms ok.dev.watches asked) edge debounceMs
          | _ => contradiction

/-- EVENT_COUNTS' sort is an insertion sort, the slots taken from the first on. -/
theorem armOrder_eq (e : EventState) :
    e.armOrder = (List.insertionSort (fun i j => ¬ e.armedAfter j i = true)
      ((List.range maxEventPins).filter fun i => (e.watch i).active).reverse).reverse := by
  have inserts : ∀ key sorted, e.insertArmed key sorted =
      sorted.orderedInsert (fun i j => ¬ e.armedAfter j i = true) key := by
    intro key sorted
    induction sorted with
    | nil => rfl
    | cons j sorted ih =>
      rw [EventState.insertArmed, List.orderedInsert_cons, ih, ite_not]
  unfold EventState.armOrder List.insertionSort
  rw [List.foldr_reverse]
  simp only [inserts]

/-- The slots below a watched one, in that list. -/
theorem suffix_slots {on : Nat → Bool} {n : Nat} {others : List Nat} :
    i :: others <:+ ((List.range n).filter on).reverse ↔
      i < n ∧ on i = true ∧ others = ((List.range i).filter on).reverse := by
  induction n with
  | zero =>
    refine iff_of_false (fun inside => ?_) (fun inside => Nat.not_lt_zero i inside.1)
    exact absurd (List.suffix_nil.mp inside) (List.cons_ne_nil i others)
  | succ n ih =>
    rw [List.range_succ, List.filter_append, List.reverse_append]
    by_cases last : on n = true
    · rw [List.filter_singleton, last]
      change _ <:+ n :: ((List.range n).filter on).reverse ↔ _
      rw [List.suffix_cons_iff, ih]
      constructor
      · rintro (whole | ⟨below, here, rest⟩)
        · obtain ⟨rfl, rfl⟩ := List.cons.inj whole
          exact ⟨Nat.lt_succ_self i, last, rfl⟩
        · exact ⟨Nat.lt_succ_of_lt below, here, rest⟩
      · rintro ⟨below, here, rest⟩
        rcases Nat.lt_succ_iff_lt_or_eq.mp below with below | rfl
        · exact .inr ⟨below, here, rest⟩
        · exact .inl (by rw [rest])
    · rw [List.filter_singleton, Bool.not_eq_true] at *
      rw [last]
      change _ <:+ ((List.range n).filter on).reverse ↔ _
      rw [ih]
      refine ⟨fun inside => ⟨Nat.lt_succ_of_lt inside.1, inside.2⟩, fun inside => ⟨?_, inside.2⟩⟩
      rcases Nat.lt_succ_iff_lt_or_eq.mp inside.1 with below | rfl
      · exact below
      · exact absurd (inside.2.1.symm.trans last) (by simp)

theorem armedAfter_toNat : e.armedAfter i j = true ↔
    0 < ((e.watch i).armSeq - (e.watch j).armSeq).toNat ∧
      ((e.watch i).armSeq - (e.watch j).armSeq).toNat < 128 := by
  simp only [EventState.armedAfter, Bool.and_eq_true, bne_iff_ne, ne_eq, decide_eq_true_eq,
    UInt8.lt_iff_toNat_lt, ← UInt8.toNat_inj, UInt8.toNat_zero]
  exact and_congr_left (fun _ => Nat.pos_iff_ne_zero.symm)

/-- The signed difference of the stamps of two arms. -/
theorem armedAfter_iff {x y : Nat} (left : (e.watch i).armSeq = UInt8.ofNat x)
    (right : (e.watch j).armSeq = UInt8.ofNat y) :
    e.armedAfter i j = true ↔
      if y < x then 0 < (x - y) % 256 ∧ (x - y) % 256 < 128
      else 128 < (y - x) % 256 := by
  rw [armedAfter_toNat, left, right, UInt8.toNat_sub, UInt8.toNat_ofNat', UInt8.toNat_ofNat']
  split <;> omega

/-- The stamps tell every watched slot from the ones before it that were armed later, and
from the last armed of the others. -/
structure EventState.TellsArms (e : EventState) (last : Nat → Nat) : Prop where
  newer : ∀ i < maxEventPins, (e.watch i).active = true → ∀ j < i, (e.watch j).active = true →
    last (e.watch i).pin < last (e.watch j).pin →
    0 < (last (e.watch j).pin - last (e.watch i).pin) % 256 ∧
      (last (e.watch j).pin - last (e.watch i).pin) % 256 < 128
  older : ∀ i < maxEventPins, (e.watch i).active = true → ∀ j < i, (e.watch j).active = true →
    last (e.watch j).pin < last (e.watch i).pin →
    (∀ k < i, (e.watch k).active = true → last (e.watch k).pin < last (e.watch i).pin →
      last (e.watch k).pin ≤ last (e.watch j).pin) →
    (last (e.watch i).pin - last (e.watch j).pin) % 256 ≤ 128

/-- The number of a slot's arm. -/
def armNumber (e : EventState) (g : ArmLog) (i : Nat) : Nat := g.last (e.watch i).pin

/-- One step of the sort, by the numbers of the arms. -/
theorem Numbered.placed_iff (h : Numbered e g) (inside : i < maxEventPins)
    (on : (e.watch i).active = true) {others : List Nat}
    (lower : ∀ j, j ∈ others ↔ j < i ∧ (e.watch j).active = true) :
    Lib.Placed (fun i j => ¬ e.armedAfter j i = true) (armNumber e g) i others ↔
      (∀ j < i, (e.watch j).active = true → armNumber e g i < armNumber e g j →
        0 < (armNumber e g j - armNumber e g i) % 256 ∧
          (armNumber e g j - armNumber e g i) % 256 < 128) ∧
      ∀ j < i, (e.watch j).active = true → armNumber e g j < armNumber e g i →
        (∀ k < i, (e.watch k).active = true → armNumber e g k < armNumber e g i →
          armNumber e g k ≤ armNumber e g j) →
        (armNumber e g i - armNumber e g j) % 256 ≤ 128 := by
  have stamps : ∀ j < i, (e.watch j).active = true → (e.armedAfter j i = true ↔
      if armNumber e g i < armNumber e g j then
        0 < (armNumber e g j - armNumber e g i) % 256 ∧
          (armNumber e g j - armNumber e g i) % 256 < 128
      else 128 < (armNumber e g i - armNumber e g j) % 256) := fun j below active =>
    armedAfter_iff (h.armed j (below.trans inside) active).1 (h.armed i inside on).1
  constructor
  · rintro ⟨newer, older⟩
    refine ⟨fun j below active later => ?_, fun j below active earlier nearest => ?_⟩
    · have told := not_not.mp (newer j ((lower j).mpr ⟨below, active⟩) later)
      rwa [stamps j below active, if_pos later] at told
    · have told := older j ((lower j).mpr ⟨below, active⟩) earlier
        (fun k member => nearest k ((lower k).mp member).1 ((lower k).mp member).2)
      rw [stamps j below active, if_neg (Nat.lt_asymm earlier)] at told
      exact Nat.not_lt.mp told
  · rintro ⟨newer, older⟩
    refine ⟨fun j member later => ?_, fun j member earlier nearest => ?_⟩
    · obtain ⟨below, active⟩ := (lower j).mp member
      rw [not_not, stamps j below active, if_pos later]
      exact newer j below active later
    · obtain ⟨below, active⟩ := (lower j).mp member
      rw [stamps j below active, if_neg (Nat.lt_asymm earlier), Nat.not_lt]
      exact older j below active earlier
        (fun k below' active' => nearest k ((lower k).mpr ⟨below', active'⟩))

/-- The sort gets the arms in order exactly when the stamps tell them. -/
theorem Numbered.armOrder_iff (h : Numbered e g)
    (distinct : ∀ i < maxEventPins, ∀ j < maxEventPins, (e.watch i).active → (e.watch j).active →
      (e.watch i).pin = (e.watch j).pin → i = j) :
    e.armOrder.Pairwise (fun i j => armNumber e g i < armNumber e g j) ↔ e.TellsArms g.last := by
  have active : ∀ {n i}, i ∈ ((List.range n).filter fun i => (e.watch i).active).reverse ↔
      i < n ∧ (e.watch i).active = true := by
    intro n i
    rw [List.mem_reverse, List.mem_filter, List.mem_range]
  have apart : ((List.range maxEventPins).filter fun i => (e.watch i).active).reverse.Pairwise
      fun i j => armNumber e g j ≠ armNumber e g i := by
    refine List.Pairwise.imp_of_mem ?_ (List.nodup_reverse.mpr (List.nodup_range.filter _))
    intro i j ini inj other same
    obtain ⟨hi, oni⟩ := active.mp ini
    obtain ⟨hj, onj⟩ := active.mp inj
    exact other (distinct i hi j hj oni onj (h.apart _ _ same.symm (h.armed i hi oni).2))
  rw [armOrder_eq, List.pairwise_reverse]
  refine (Lib.insertionSort_newest_iff apart).trans ?_
  constructor
  · intro placed
    have each := fun i inside on => (h.placed_iff (i := i) inside on (fun _ => active)).mp
      (placed i _ (suffix_slots.mpr ⟨inside, on, rfl⟩))
    exact ⟨fun i inside on => (each i inside on).1, fun i inside on => (each i inside on).2⟩
  · rintro ⟨newer, older⟩ i others suffix
    obtain ⟨inside, on, rfl⟩ := suffix_slots.mp suffix
    exact (h.placed_iff inside on (fun _ => active)).mpr ⟨newer i inside on, older i inside on⟩

/-- The slots of the reply are those of the watched pins. -/
theorem armOrder_watching (e : EventState) (pin : Nat) :
    pin ∈ (e.armOrder.map e.watch).map (·.pin) ↔ (e.watching pin).isSome = true := by
  have member : ∀ i, i ∈ e.armOrder ↔ i < maxEventPins ∧ (e.watch i).active = true := by
    intro i
    rw [(armOrder_perm e).mem_iff, List.mem_filter, List.mem_range]
  rw [List.map_map, List.mem_map, EventState.watching, Option.isSome_map]
  constructor
  · rintro ⟨i, listed, rfl⟩
    obtain ⟨inside, on⟩ := (member i).mp listed
    rw [Option.isSome_iff_ne_none]
    intro none_
    exact EventState.watchIndex_eq_none.mp none_ i inside on rfl
  · intro some_
    obtain ⟨i, found⟩ := Option.isSome_iff_exists.mp some_
    obtain ⟨inside, on, at_pin⟩ := EventState.watchIndex_eq_some found
    exact ⟨i, (member i).mpr ⟨inside, on⟩, at_pin⟩

/-- In every state of every run EVENT_COUNTS lists the watched pins, each once, and in the order
of their latest arms exactly when the stamps tell these. -/
theorem event_counts_in_arm_order_iff (b : Board) (m : Machine) (g : ArmLog)
    (reached : Arming b (m, g)) (env : Env) (d' : UsbIoDevice) (s : SetupPacket) (reply : List UInt8)
    (asks : s.isIn = true) (named : s.bRequest = Request.eventCounts.code)
    (answered : handleSetup b env m.dev s = (d', some reply)) :
    let entries := m.dev.event.armOrder.map m.dev.event.watch
    let pins := entries.map (·.pin)
    reply = (eventHeader (UInt8.ofNat entries.length) 0 0 ++
        entries.flatMap EventWatch.countBytes).take s.wLength.toNat ∧
      pins.Nodup ∧ (∀ pin, pin ∈ pins ↔ (m.dev.event.watching pin).isSome = true) ∧
      (pins.Pairwise (fun p q => g.last p < g.last q) ↔ m.dev.event.TellsArms g.last) := by
  intro entries pins
  obtain ⟨numbered, ok⟩ := reached.numbered
  have distinct := ok.dev.watches.distinct
  refine ⟨?_, ?_, armOrder_watching m.dev.event, ?_⟩
  · have served := handleSetup_in asks answered
    rw [named] at served
    have bytes : m.dev.event.countsBytes.take s.wLength.toNat = reply :=
      Option.some.inj (congrArg Prod.snd served)
    rw [← bytes, EventState.countsBytes, List.length_map, List.flatMap_map]
  · have nodup := (armOrder_perm m.dev.event).nodup_iff.mpr (List.nodup_range.filter _)
    rw [show pins = m.dev.event.armOrder.map fun i => (m.dev.event.watch i).pin from List.map_map ..]
    refine nodup.map_on (fun i ini j inj same => ?_)
    have member : ∀ {i}, i ∈ m.dev.event.armOrder →
        i < maxEventPins ∧ (m.dev.event.watch i).active = true := by
      intro i listed
      rwa [(armOrder_perm m.dev.event).mem_iff, List.mem_filter, List.mem_range] at listed
    exact distinct i (member ini).1 j (member inj).1 (member ini).2 (member inj).2 same
  · rw [← numbered.armOrder_iff distinct,
      show pins = m.dev.event.armOrder.map fun i => (m.dev.event.watch i).pin from List.map_map ..,
      List.pairwise_map]
    rfl

/-- Pin 0 is armed, and then pin 1 `count` times. -/
def rearming (count : Nat) : List Act :=
  [request .pinMode 0 0, request .pinMode 0 1, request .eventConfig 3 0] ++
    List.replicate count (request .eventConfig 3 1)

def rearmed (count : Nat) : Machine × ArmLog :=
  (rearming count).foldl (Lib.recording (step twoPinBoard) (armlog twoPinBoard)) (boot twoPinBoard, .empty)

theorem rearmed_reached (count : Nat) : Arming twoPinBoard (rearmed count) :=
  Lib.Reach.refl.foldl (fun _ _ => trivial) _

def countsPacket : SetupPacket := .inp .eventCounts 0 36

theorem countsPacket_answered (b : Board) (env : Env) (d : UsbIoDevice) :
    handleSetup b env d countsPacket = (d, some (d.event.countsBytes.take 36)) :=
  handleSetup_inp ..

theorem event_counts_in_arm_order_iff_twice :
    let m := (rearmed 2).1
    let entries := m.dev.event.armOrder.map m.dev.event.watch
    let pins := entries.map (·.pin)
    m.dev.event.countsBytes.take 36 = (eventHeader (UInt8.ofNat entries.length) 0 0 ++
        entries.flatMap EventWatch.countBytes).take countsPacket.wLength.toNat ∧
      pins.Nodup ∧ (∀ pin, pin ∈ pins ↔ (m.dev.event.watching pin).isSome = true) ∧
      (pins.Pairwise (fun p q => (rearmed 2).2.last p < (rearmed 2).2.last q) ↔
        m.dev.event.TellsArms (rearmed 2).2.last) :=
  event_counts_in_arm_order_iff twoPinBoard (rearmed 2).1 (rearmed 2).2 (rearmed_reached 2)
    (stillEnv .sent) _ countsPacket _ (by decide) rfl (countsPacket_answered ..)

/-- After 130 arms of pin 1 the reply has it before pin 0. -/
theorem rearmed_pin_comes_first :
    ¬ ∀ (b : Board) (m : Machine) (g : ArmLog), Arming b (m, g) →
      ∀ (env : Env) (d' : UsbIoDevice) (s : SetupPacket) (reply : List UInt8), s.isIn = true →
        s.bRequest = Request.eventCounts.code → handleSetup b env m.dev s = (d', some reply) →
        ∀ j k, j < k → 4 + 4 * k < reply.length →
          g.last (reply.getD (4 + 4 * j) 0).toNat < g.last (reply.getD (4 + 4 * k) 0).toNat := by
  intro claim
  have answered := countsPacket_answered twoPinBoard (stillEnv .sent) (rearmed 130).1.dev
  have both : 4 + 4 * 1 < ((rearmed 130).1.dev.event.countsBytes.take 36).length := by decide +kernel
  have order := claim twoPinBoard _ _ (rearmed_reached 130) (stillEnv .sent) _ countsPacket _
    (by decide) rfl answered 0 1 Nat.zero_lt_one both
  revert order
  decide +kernel

end ArduinoDriver
