import ArduinoDriver.Firmware.Replies
import ArduinoDriver.Firmware.Watches
import ArduinoDriver.Firmware.Watchlog

namespace ArduinoDriver

/-- A slot's counter against the history: `stale` of its edges are older than its arm. -/
structure EventWatch.Counted (w : EventWatch) (bumps stale : Nat) (edges : Nat → Nat) : Prop where
  count : w.count = UInt16.ofNat bumps
  split : w.active = true → bumps = stale + edges w.pin
  fresh : w.active = true → w.seenSeq ≠ w.armSeq → edges w.pin = 0

/-- What poll() has found out about the slot it is scanning. -/
def EventPc.Counted (e : EventState) (g : Watchlog) : EventPc → Prop
  | .takeSeq _ i _ => (e.watch i).seenSeq ≠ (e.watch i).armSeq
  | .takeBaseline _ _ pin => g.edges pin = 0
  | .compareLevel _ i _ | .changeTest _ i _ _ | .directionTest _ i _ _ | .debounceTest _ i _ _
  | .bumpCount _ i _ _ => (e.watch i).seenSeq = (e.watch i).armSeq
  | _ => True

structure Counted (e : EventState) (g : Watchlog) (at_pc : Option EventPc) : Prop where
  slots : ∀ i < maxEventPins, (e.watch i).Counted (g.bumps i) (g.stale i) g.edges
  poll : ∀ pc ∈ at_pc, pc.Counted e g

variable {b : Board} {env : Env} {d : UsbIoDevice} {e : EventState} {g : Watchlog} {i pin : Nat}
  {m : Machine} {req : EventRequest} {pc : EventPc} {w : EventWatch} {edges : Nat → Nat}
  {bumps stale : Nat}

/-- Steps that leave a slot's counter, pin and stamps as they are. -/
theorem EventWatch.Counted.congr (h : w.Counted bumps stale edges) {w' : EventWatch}
    (count : w'.count = w.count) (active : w'.active = true → w.active = true)
    (pin : w'.pin = w.pin) (seen : w'.seenSeq = w.seenSeq) (arm : w'.armSeq = w.armSeq) :
    w'.Counted bumps stale edges := by
  refine ⟨count.trans h.count, fun on => ?_, fun on differs => ?_⟩
  · rw [pin]
    exact h.split (active on)
  · rw [seen, arm] at differs
    rw [pin]
    exact h.fresh (active on) differs

/-- The edges of other pins do not matter. -/
theorem EventWatch.Counted.elsewhere (h : w.Counted bumps stale edges) {n : Nat}
    (other : w.active = true → w.pin ≠ pin) :
    w.Counted bumps stale (Function.update edges pin n) := by
  refine ⟨h.count, fun on => ?_, fun on differs => ?_⟩
  · rw [Function.update_of_ne (other on)]
    exact h.split on
  · rw [Function.update_of_ne (other on)]
    exact h.fresh on differs

theorem setWatch_counted (h : ∀ j < maxEventPins, (e.watch j).Counted (g.bumps j) (g.stale j) g.edges)
    {w' : EventWatch} (count : w'.count = (e.watch i).count) (active : w'.active = (e.watch i).active)
    (pin : w'.pin = (e.watch i).pin) (seen : w'.seenSeq = (e.watch i).seenSeq)
    (arm : w'.armSeq = (e.watch i).armSeq) :
    ∀ j < maxEventPins, ((e.setWatch i w').watch j).Counted (g.bumps j) (g.stale j) g.edges := by
  intro j inside
  by_cases here : j = i
  · subst j
    rw [setWatch_watch]
    exact (h i inside).congr count (fun on => active ▸ on) pin seen arm
  · rw [setWatch_other here]
    exact h j inside

theorem eventStep_counted (env : Env) (inv : Invariant b d) (aligned : pc.Aligned d.event)
    (h : Counted d.event g (some pc)) :
    Counted (eventStep env d pc).1 (pc.noted d g) (eventStep env d pc).2.1 := by
  obtain ⟨slots, poll⟩ := h
  have here : pc.Counted d.event g := poll pc rfl
  cases pc with
  | readClock =>
    refine ⟨slots, ?_⟩
    simp only [eventStep]
    split <;> rintro next ⟨⟩
    trivial
  | readActive now i =>
    simp only [eventStep]
    split
    · refine ⟨slots, ?_⟩
      split <;> rintro next ⟨⟩ <;> trivial
    · exact ⟨slots, by simp⟩
  | readPin now i =>
    refine ⟨slots, ?_⟩
    rintro next ⟨⟩
    trivial
  | seqTest now i pin =>
    refine ⟨slots, ?_⟩
    simp only [eventStep]
    split
    · rename_i fresh
      rintro next ⟨⟩
      exact fresh
    · rename_i seen
      rintro next ⟨⟩
      exact not_not.mp seen
  | takeSeq now i pin =>
    refine ⟨?_, ?_⟩
    · intro j inside
      by_cases same : j = i
      · subst j
        refine ⟨?_, fun on => ?_, fun on differs => ?_⟩
        · simp only [eventStep, setWatch_watch]
          exact (slots i inside).count
        · simp only [eventStep, setWatch_watch] at on ⊢
          exact (slots i inside).split on
        · simp only [eventStep, setWatch_watch, ne_eq, not_true_eq_false] at differs
      · simp only [eventStep, setWatch_other same]
        exact slots j inside
    · rintro next ⟨⟩
      have watches : d.event.Watches i pin := aligned
      have none_yet := (slots i watches.inside).fresh watches.on here
      rw [watches.at_pin] at none_yet
      exact none_yet
  | takeBaseline now i pin =>
    refine ⟨?_, ?_⟩
    · intro j inside
      by_cases same : j = i
      · subst j
        have watches : d.event.Watches i pin := aligned
        have none_yet : g.edges pin = 0 := here
        have edges : g.edges (d.event.watch i).pin = 0 := by rw [watches.at_pin, none_yet]
        simp only [eventStep, setWatch_watch, EventPc.noted, Watchlog.see, Function.update_self]
        exact ⟨rfl, fun _ => (edges.symm).trans (Nat.zero_add _).symm, fun _ _ => edges⟩
      · simp only [eventStep, setWatch_other same, EventPc.noted, Watchlog.see,
          Function.update_of_ne same]
        exact slots j inside
    · rintro next ⟨⟩
      trivial
  | compareLevel now i pin =>
    simp only [eventStep]
    split
    · refine ⟨slots, ?_⟩
      rintro next ⟨⟩
      trivial
    · refine ⟨setWatch_counted slots rfl rfl rfl rfl rfl, ?_⟩
      rintro next ⟨⟩
      simp only [EventPc.Counted, setWatch_watch]
      exact here
  | changeTest | directionTest | debounceTest =>
    refine ⟨slots, ?_⟩
    simp only [eventStep]
    split <;> rintro next ⟨⟩
    all_goals first | exact here | trivial
  | bumpCount now i pin rising =>
    have watches : d.event.Watches i pin := aligned
    have seen : (d.event.watch i).seenSeq = (d.event.watch i).armSeq := here
    refine ⟨?_, ?_⟩
    · intro j inside
      by_cases same : j = i
      · subst j
        obtain ⟨count, split, _⟩ := slots i inside
        simp only [eventStep, setWatch_watch, EventPc.noted, Watchlog.accept, Function.update_self]
        refine ⟨?_, fun on => ?_, fun _ differs => absurd seen differs⟩
        · dsimp only
          rw [count, UInt16.ofNat_add]
          rfl
        · dsimp only at on ⊢
          rw [watches.at_pin, Function.update_self, split on, watches.at_pin]
          omega
      · simp only [eventStep, setWatch_other same, EventPc.noted, Watchlog.accept,
          Function.update_of_ne same]
        exact (slots j inside).elsewhere (watches.alone inv j inside same)
    · rintro next ⟨⟩
      trivial
  | openWindow now i pin rising =>
    refine ⟨setWatch_counted slots rfl rfl rfl rfl rfl, ?_⟩
    rintro next ⟨⟩
    trivial
  | roomTest | dropTest =>
    simp only [eventStep]
    split <;> refine ⟨slots, ?_⟩ <;> rintro next ⟨⟩ <;> trivial
  | dropLoad | dropStore | fillSlot | bumpHead =>
    refine ⟨slots, ?_⟩
    rintro next ⟨⟩
    trivial

/-- A request leaves every counter alone; an arm declares the edges of its slot stale. -/
theorem perform_counted (arms : ∀ pin edge debounceMs, req = .arm pin edge debounceMs → e.Arms pin)
    (h : Counted e g none) : Counted (e.perform req) (req.noted e g) none := by
  refine ⟨fun j inside => ?_, by simp⟩
  cases unarmed : req.arms with
  | none =>
    obtain ⟨_, _, slots⟩ := perform_unarmed e unarmed
    obtain ⟨on, kept, eq⟩ := slots j
    obtain ⟨off, offs, noted⟩ := noted_unarmed e g unarmed
    rw [noted, eq]
    exact (h.slots j inside).congr rfl kept rfl rfl rfl
  | some p =>
    cases req with
    | arm pin edge debounceMs =>
      obtain ⟨slot_inside, alone⟩ := arms pin edge debounceMs rfl
      rw [(perform_arm e pin edge debounceMs).1]
      by_cases same : j = e.armSlot pin
      · subst j
        simp only [Function.update_self, EventRequest.noted, Watchlog.arm]
        refine ⟨(h.slots _ inside).count, fun _ => ?_, fun _ _ => ?_⟩
        · dsimp only
          rw [Function.update_self, Nat.add_zero]
        · exact Function.update_self ..
      · simp only [Function.update_of_ne same, EventRequest.noted, Watchlog.arm]
        exact (h.slots j inside).elsewhere (alone j inside same)
    | _ => contradiction

theorem Watching.counted {r : Machine × Watchlog}
    (reached : Watching b (fun r act => betweenPolls r.1 act) r) :
    Counted r.1.dev.event r.2 r.1.pc.event? ∧ r.1.Ok b := by
  have kept := Watching.between_rule (b := b) (I := Counted) (fun _ _ between => between)
    ⟨fun i _ => ⟨rfl, by simp [EventState.init], by simp [EventState.init]⟩, by simp⟩
    (fun h => ⟨h.slots, by rintro pc ⟨⟩; trivial⟩)
    (fun inv aligned _ h => eventStep_counted _ inv aligned h)
    (fun arms h => perform_counted arms h) reached
  exact ⟨kept.1, kept.2.2⟩

theorem putU16_inj {v v' : UInt16} (same : putU16 v = putU16 v') : v = v' := by
  unfold putU16 at same
  simp only [List.cons.injEq, and_true] at same
  obtain ⟨low, high⟩ := same
  have low := congrArg UInt8.toNat low
  have high := congrArg UInt8.toNat high
  have := v.toNat_lt
  have := v'.toNat_lt
  rw [UInt16.toNat_toUInt8, UInt16.toNat_toUInt8] at low high
  rw [UInt16.toNat_shiftRight, UInt16.toNat_shiftRight, Nat.shiftRight_eq_div_pow,
    Nat.shiftRight_eq_div_pow] at high
  apply UInt16.toNat_inj.mp
  change v.toNat / 256 % 256 = v'.toNat / 256 % 256 at high
  omega

/-- Entries of one length tell a listing apart. -/
theorem flatMap_eq_flatMap_iff {f f' : Nat → List UInt8} (slots : List Nat)
    (long : ∀ i, (f i).length = (f' i).length) :
    slots.flatMap f = slots.flatMap f' ↔ ∀ i ∈ slots, f i = f' i := by
  induction slots with
  | nil => simp
  | cons i slots ih =>
    rw [List.flatMap_cons, List.flatMap_cons, List.forall_mem_cons, ← ih]
    exact ⟨fun same => List.append_inj same (long i), fun ⟨first, rest⟩ => by rw [first, rest]⟩

/-- The entry of a slot with the count the contract asks for. -/
def EventState.exactBytes (e : EventState) (g : Watchlog) (i : Nat) : List UInt8 :=
  EventWatch.countBytes { e.watch i with count := UInt16.ofNat (g.edges (e.watch i).pin) }

/-- A slot's entry is exact unless edges older than its arm are still in its counter. -/
theorem EventWatch.Counted.exact_iff (h : w.Counted bumps stale edges) (on : w.active = true) :
    w.countBytes = EventWatch.countBytes { w with count := UInt16.ofNat (edges w.pin) } ↔
      stale % 2 ^ 16 = 0 := by
  have entries : w.countBytes = EventWatch.countBytes { w with count := UInt16.ofNat (edges w.pin) } ↔
      w.count = UInt16.ofNat (edges w.pin) := by
    refine ⟨fun same => putU16_inj (List.append_cancel_left same), fun same => ?_⟩
    unfold EventWatch.countBytes
    rw [same]
  rw [entries, h.count, h.split on, ← UInt16.toNat_inj, UInt16.toNat_ofNat', UInt16.toNat_ofNat']
  omega

theorem handleSetup_counts {s : SetupPacket} {index : UInt16} {reply : List UInt8}
    (said : s.obs (handleSetup b env d s).2 = .answered .eventCounts index reply) :
    reply = d.event.countsBytes.take s.wLength.toNat := by
  obtain ⟨_, named, _, full, replied, rfl⟩ := handleSetup_answered said
  simp only [replyBytes, named, Option.some.injEq] at replied
  rw [replied]

/-- In every run whose requests arrive between polls, EVENT_COUNTS lists exactly the watched
pins, each once; its counts are the edges accepted since each pin's latest arm if and only if
no slot still holds, in number not a multiple of 2^16, edges older than its arm. -/
theorem event_counts_exact_iff (b : Board) (m : Machine) (g : Watchlog)
    (reached : Watching b (fun r act => betweenPolls r.1 act) (m, g)) (env : Env) (s : SetupPacket)
    (index : UInt16) (reply : List UInt8)
    (said : s.obs (handleSetup b env m.dev s).2 = .answered .eventCounts index reply) :
    ∃ (slots : List Nat) (full : List UInt8),
      reply = full.take s.wLength.toNat ∧
      (slots.map fun i => (m.dev.event.watch i).pin).Nodup ∧
      (∀ pin, (∃ i ∈ slots, (m.dev.event.watch i).pin = pin) ↔ (m.dev.event.watching pin).isSome) ∧
      (full = eventHeader (UInt8.ofNat slots.length) 0 0 ++ slots.flatMap (m.dev.event.exactBytes g) ↔
        ∀ i ∈ slots, g.stale i % 2 ^ 16 = 0) := by
  obtain ⟨counted, ok⟩ : Counted m.dev.event g m.pc.event? ∧ m.Ok b := Watching.counted reached
  have table := ok.dev.watches
  generalize e_def : m.dev.event = e at counted table ⊢
  have listed : ∀ i, i ∈ e.armOrder ↔ i < maxEventPins ∧ (e.watch i).active = true := by
    intro i
    rw [(armOrder_perm e).mem_iff, List.mem_filter, List.mem_range]
  have nodup : e.armOrder.Nodup :=
    (armOrder_perm e).nodup_iff.mpr (List.nodup_range.filter _)
  refine ⟨e.armOrder, e.countsBytes, e_def ▸ handleSetup_counts said, ?_, ?_, ?_⟩
  · refine List.Nodup.map_on ?_ nodup
    intro i ini j inj same
    obtain ⟨hi, oni⟩ := (listed i).mp ini
    obtain ⟨hj, onj⟩ := (listed j).mp inj
    exact table.distinct i hi j hj oni onj same
  · intro pin
    constructor
    · rintro ⟨i, ini, rfl⟩
      obtain ⟨hi, oni⟩ := (listed i).mp ini
      rw [EventState.watching_slot hi oni rfl
        (fun j hj onj same => table.distinct j hj i hi onj oni same)]
      rfl
    · intro seen
      cases found : e.watchIndex pin with
      | none =>
        rw [EventState.watching, found] at seen
        contradiction
      | some i =>
        obtain ⟨hi, oni, at_pin⟩ := EventState.watchIndex_eq_some found
        exact ⟨i, (listed i).mpr ⟨hi, oni⟩, at_pin⟩
  · have entries := @flatMap_eq_flatMap_iff (fun i => (e.watch i).countBytes) (e.exactBytes g)
      e.armOrder (fun _ => rfl)
    unfold EventState.countsBytes
    dsimp only
    rw [List.append_cancel_left_eq, entries]
    refine forall₂_congr (fun i ini => ?_)
    obtain ⟨hi, oni⟩ := (listed i).mp ini
    exact (counted.slots i hi).exact_iff oni

def countsRequest : SetupPacket := .inp .eventCounts 0 36

def watchedEdge : Machine × Watchlog :=
  oneEdge.foldl (Lib.recording (step onePinBoard) (watchlog onePinBoard)) (boot onePinBoard, .empty)

theorem event_counts_exact_iff_one_edge :
    (countsRequest.obs (handleSetup onePinBoard highEnv watchedEdge.1.dev countsRequest).2 =
      .answered .eventCounts 0 [0, 1, 0, 0, 0, 3, 1, 0]) ∧
    ∃ (slots : List Nat) (full : List UInt8), [0, 1, 0, 0, 0, 3, 1, 0] = full.take 36 ∧
      (full = eventHeader (UInt8.ofNat slots.length) 0 0 ++
          slots.flatMap (watchedEdge.1.dev.event.exactBytes watchedEdge.2) ↔
        ∀ i ∈ slots, watchedEdge.2.stale i % 2 ^ 16 = 0) := by
  have reached : Watching onePinBoard (fun r act => betweenPolls r.1 act) watchedEdge :=
    Lib.Follows.reach (by decide +kernel)
  have said : countsRequest.obs (handleSetup onePinBoard highEnv watchedEdge.1.dev countsRequest).2 =
      .answered .eventCounts 0 [0, 1, 0, 0, 0, 3, 1, 0] := by decide +kernel
  generalize watchedEdge = r at said reached ⊢
  obtain ⟨slots, full, replied, _, _, exact_iff⟩ :=
    event_counts_exact_iff onePinBoard r.1 r.2 reached highEnv countsRequest 0 _ said
  exact ⟨said, slots, full, replied, exact_iff⟩

/-- The pin is armed again after its edge. -/
def rearmedEdge : Machine × Watchlog :=
  (oneEdge ++ [request .eventConfig 3 0]).foldl
    (Lib.recording (step onePinBoard) (watchlog onePinBoard)) (boot onePinBoard, .empty)

/-- Until the next poll the counter still has the edge from before the arm. -/
theorem rearmed_pin_reports_old_edge :
    Lib.Follows (step onePinBoard) betweenPolls (boot onePinBoard)
      (oneEdge ++ [request .eventConfig 3 0]) ∧
    rearmedEdge.2.edges 0 = 0 ∧
    (handleSetup onePinBoard highEnv rearmedEdge.1.dev countsRequest).2 =
      some [0, 1, 0, 0, 0, 3, 1, 0] := by
  refine ⟨?_, ?_, ?_⟩ <;> decide +kernel

end ArduinoDriver
