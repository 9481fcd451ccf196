import ArduinoDriver.Firmware.Interruption

namespace ArduinoDriver

def Watchlog.Reported (g : Watchlog) (ev : UsbioEvent) : Prop := ∃ r ∈ g.reports, r.event = ev

/-- The scan knows of an OFF of the pin. -/
def Watchlog.Noticed (g : Watchlog) (pin : Nat) : Prop := g.off pin = true → pin ∈ g.offs

/-- The edge on its way to the ring, as far as poll() has come with it. -/
def EventPc.Delivered (e : EventState) (g : Watchlog) : EventPc → Prop
  | .readPin _ i => g.Noticed (e.watch i).pin
  | .seqTest _ _ pin | .takeSeq _ _ pin | .takeBaseline _ _ pin | .compareLevel _ _ pin
  | .changeTest _ _ pin _ | .directionTest _ _ pin _ | .debounceTest _ _ pin _
  | .bumpCount _ _ pin _ => g.Noticed pin
  | .openWindow now i pin rising => g.Noticed pin ∧
      g.Reported ⟨pin, edgeOf rising, (e.watch i).count, now⟩
  | .roomTest _ _ ev | .fillSlot _ _ ev => g.Noticed ev.pin ∧ g.Reported ev
  | .bumpHead _ _ ev => g.Noticed ev.pin ∧ g.Reported ev ∧
      e.ring (ringSlot eventQueueDepth e.head) = ev
  | _ => True

/-- Queued events are reported ones of pins that are not switched off. -/
structure Delivered (e : EventState) (g : Watchlog) (at_pc : Option EventPc) : Prop where
  queued : ∀ ev ∈ e.queued, g.Reported ev ∧ g.off ev.pin = false
  watched : ∀ i < maxEventPins, (e.watch i).active = true → g.off (e.watch i).pin = false
  poll : ∀ pc ∈ at_pc, pc.Delivered e g

variable {b : Board} {env : Env} {d : UsbIoDevice} {e e' : EventState} {g g' : Watchlog} {i pin : Nat}
  {req : EventRequest} {pc : EventPc} {next at_pc : Option EventPc} {m : Machine}

/-- A published slot joins the queue. -/
theorem EventState.publish_mem (room : (e.head - e.tail).toNat < eventQueueDepth) {ev : UsbioEvent}
    (inside : ev ∈ EventState.queued { e with head := e.head + 1 }) :
    ev ∈ e.queued ∨ ev = e.ring (ringSlot eventQueueDepth e.head) := by
  have same : Function.update e.ring (Lib.Ring.slot eventQueueDepth e.head)
      (e.ring (Lib.Ring.slot eventQueueDepth e.head)) = e.ring := Function.update_eq_self ..
  have pushed : Lib.Ring.contents eventQueueDepth (Function.update e.ring
      (Lib.Ring.slot eventQueueDepth e.head) (e.ring (Lib.Ring.slot eventQueueDepth e.head)))
        e.tail (e.head + 1) =
      Lib.Ring.contents eventQueueDepth e.ring e.tail e.head ++
        [e.ring (Lib.Ring.slot eventQueueDepth e.head)] :=
    Lib.Ring.contents_push (by decide) (by decide) room _
  rw [same] at pushed
  unfold EventState.queued liveFrom at inside ⊢
  dsimp only at inside
  rw [pushed, List.filter_append, List.mem_append] at inside
  rcases inside with before | published
  · exact .inl before
  · exact .inr (List.mem_singleton.mp (List.mem_filter.mp published).1)

/-- The slot at `head` is out of reach of discard_events_for_pin(). -/
theorem discard_head (room : (e.head - e.tail).toNat < eventQueueDepth) (pin : Nat) :
    (e.discard pin).ring (ringSlot eventQueueDepth e.head) =
      e.ring (ringSlot eventQueueDepth e.head) := by
  refine (discardFrom_slot e.ring e.tail _ _).trans (if_neg ?_)
  rintro ⟨k, below, same⟩
  exact Lib.Ring.slot_ne (by decide) room below same

/-- OFF leaves no slot for its pin. -/
theorem perform_off_silent (inv : Invariant b d) :
    ∀ i < maxEventPins, ((d.event.perform (.off pin)).watch i).active = true →
      ((d.event.perform (.off pin)).watch i).pin ≠ pin := by
  simp only [EventState.perform]
  cases found : d.event.watchIndex pin with
  | none => exact EventState.watchIndex_eq_none.mp found
  | some k =>
    obtain ⟨below, on, at_pin⟩ := EventState.watchIndex_eq_some found
    have slot : ∀ w, (d.event.setWatch k w).watch = Function.update d.event.watch k w := fun _ => rfl
    intro i inside
    change ((d.event.setWatch k { d.event.watch k with active := false }).watch i).active = true → _
    by_cases here : i = k
    · subst i
      rw [setWatch_watch]
      simp
    · rw [setWatch_other here]
      intro oni same
      change ((d.event.setWatch k { d.event.watch k with active := false }).watch i).pin = pin at same
      rw [setWatch_other here] at same
      exact here (inv.watches.distinct i inside k below oni on (same.trans at_pin.symm))

/-- What a request may do to the edge on its way. -/
theorem EventPc.Delivered.request (h : pc.Delivered e g) (reports : g'.reports = g.reports)
    (noticed : ∀ pin, g.Noticed pin → g'.Noticed pin)
    (pins : ∀ i, (e'.watch i).pin = (e.watch i).pin ∨ g'.Noticed (e'.watch i).pin)
    (counts : ∀ i, (e'.watch i).count = (e.watch i).count)
    (at_head : (e.head - e.tail).toNat < eventQueueDepth →
      e'.ring (ringSlot eventQueueDepth e'.head) = e.ring (ringSlot eventQueueDepth e.head))
    (ok : pc.Ok e) : pc.Delivered e' g' := by
  have reported : ∀ ev, g.Reported ev → g'.Reported ev := by
    intro ev
    unfold Watchlog.Reported
    rw [reports]
    exact id
  cases pc with
  | readPin now i =>
    rcases pins i with same | later
    · change g'.Noticed (e'.watch i).pin
      rw [same]
      exact noticed _ h
    · exact later
  | openWindow now i pin rising =>
    refine ⟨noticed _ h.1, ?_⟩
    rw [counts]
    exact reported _ h.2
  | roomTest | fillSlot => exact ⟨noticed _ h.1, reported _ h.2⟩
  | bumpHead now i ev => exact ⟨noticed _ h.1, reported _ h.2.1, (at_head ok).trans h.2.2⟩
  | seqTest | takeSeq | takeBaseline | compareLevel | changeTest | directionTest | debounceTest
  | bumpCount => exact noticed _ h
  | _ => trivial

theorem perform_count (e : EventState) (req : EventRequest) (i : Nat) :
    ((e.perform req).watch i).count = (e.watch i).count := by
  cases unarmed : req.arms with
  | none =>
    obtain ⟨on, _, eq⟩ := (perform_unarmed e unarmed).2.2 i
    rw [eq]
  | some p =>
    cases req with
    | arm pin edge debounceMs =>
      rw [(perform_arm e pin edge debounceMs).1]
      by_cases here : i = e.armSlot pin
      · subst i
        rw [Function.update_self]
      · rw [Function.update_of_ne here]
    | _ => contradiction

theorem perform_head (e : EventState) (req : EventRequest)
    (room : (e.head - e.tail).toNat < eventQueueDepth) :
    (e.perform req).ring (ringSlot eventQueueDepth (e.perform req).head) =
      e.ring (ringSlot eventQueueDepth e.head) := by
  cases req with
  | pop | clear => rfl
  | off pin =>
    simp only [EventState.perform]
    cases e.watchIndex pin with
    | none => rfl
    | some i => exact discard_head (e := e.unwatch i) room pin
  | leave pin | arm pin edge debounceMs =>
    simp only [EventState.perform]
    cases e.watchIndex pin <;> rfl

/-- A request takes events out of the queue at most, and those of a pin switched off. -/
theorem Delivered.served_queue (h : Delivered e g at_pc) :
    ∀ ev ∈ (e.perform req).queued, g.Reported ev ∧ (req.noted e g).off ev.pin = false := by
  intro ev inside
  have queue := perform_queued e req
  cases req with
  | pop index =>
    rw [queue] at inside
    exact h.queued ev (List.mem_of_mem_drop inside)
  | clear =>
    rw [queue] at inside
    contradiction
  | off pin =>
    dsimp only at queue
    simp only [EventRequest.noted]
    by_cases watched : (e.watchIndex pin).isSome = true
    · rw [if_pos watched] at queue ⊢
      rw [queue, List.mem_filter] at inside
      have other : ev.pin ≠ pin := by simpa using inside.2
      obtain ⟨reported, on⟩ := h.queued ev inside.1
      exact ⟨reported, (Function.update_of_ne other ..).trans on⟩
    · rw [if_neg watched] at queue ⊢
      rw [queue] at inside
      exact h.queued ev inside
  | leave pin =>
    rw [queue] at inside
    exact h.queued ev inside
  | arm pin edge debounceMs =>
    rw [queue] at inside
    obtain ⟨reported, on⟩ := h.queued ev inside
    refine ⟨reported, ?_⟩
    by_cases own : ev.pin = pin
    · rw [own]
      exact Function.update_self ..
    · exact (Function.update_of_ne own ..).trans on

/-- A request, at any point of event_poll(). -/
theorem Delivered.request (ok : Invariant b d) (pc_ok : ∀ pc ∈ at_pc, pc.Ok d.event)
    (arms : ∀ pin edge debounceMs, req = .arm pin edge debounceMs → d.event.Arms pin)
    (h : Delivered d.event g at_pc) :
    Delivered (d.event.perform req) (req.noted d.event g) at_pc := by
  -- an OFF says so, an arm makes up for it, the other requests are silent
  have news : (req.noted d.event g).reports = g.reports ∧
      (∀ pin, g.Noticed pin → (req.noted d.event g).Noticed pin) := by
    cases req with
    | off p =>
      simp only [EventRequest.noted]
      split
      · refine ⟨rfl, fun pin noticed off => ?_⟩
        by_cases own : pin = p
        · exact List.mem_cons.mpr (.inl own)
        · dsimp only at off
          rw [Function.update_of_ne own] at off
          exact List.mem_cons_of_mem _ (noticed off)
      · exact ⟨rfl, fun _ => id⟩
    | arm p edge debounceMs =>
      refine ⟨rfl, fun pin noticed off => ?_⟩
      by_cases own : pin = p
      · subst pin
        exact absurd off (by simp [EventRequest.noted, Watchlog.arm])
      · exact noticed ((Function.update_of_ne own ..).symm.trans off)
    | pop | clear | leave => exact ⟨rfl, fun _ => id⟩
  obtain ⟨reports, noticed⟩ := news
  refine ⟨fun ev inside => ?_, fun i inside on => ?_, fun pc here => ?_⟩
  · obtain ⟨reported, on⟩ := h.served_queue ev inside
    unfold Watchlog.Reported
    rw [reports]
    exact ⟨reported, on⟩
  · cases unarmed : req.arms with
    | none =>
      obtain ⟨active, kept, eq⟩ := (perform_unarmed d.event unarmed).2.2 i
      have was : g.off (d.event.watch i).pin = false := by
        rw [eq] at on
        exact h.watched i inside (kept on)
      cases req with
      | off pin =>
        have other := perform_off_silent ok i inside on
        rw [eq] at other ⊢
        simp only [EventRequest.noted]
        split
        · exact (Function.update_of_ne other ..).trans was
        · exact was
      | arm => contradiction
      | pop | clear | leave =>
        rw [eq]
        exact was
    | some p =>
      cases req with
      | arm pin edge debounceMs =>
        rw [(perform_arm d.event pin edge debounceMs).1] at on ⊢
        by_cases here : i = d.event.armSlot pin
        · subst i
          rw [Function.update_self]
          exact Function.update_self ..
        · rw [Function.update_of_ne here] at on ⊢
          have other := (arms pin edge debounceMs rfl).alone i inside here on
          exact (Function.update_of_ne other ..).trans (h.watched i inside on)
      | _ => contradiction
  · have before := h.poll pc here
    refine before.request reports noticed (fun i => ?_) (perform_count d.event req)
      (perform_head d.event req) (pc_ok pc here)
    cases unarmed : req.arms with
    | none =>
      obtain ⟨active, _, eq⟩ := (perform_unarmed d.event unarmed).2.2 i
      exact .inl (by rw [eq])
    | some p =>
      cases req with
      | arm pin edge debounceMs =>
        rw [(perform_arm d.event pin edge debounceMs).1]
        by_cases here : i = d.event.armSlot pin
        · subst i
          rw [Function.update_self]
          refine .inr (fun off => ?_)
          exact absurd off (by simp [EventRequest.noted, Watchlog.arm])
        · rw [Function.update_of_ne here]
          exact .inl rfl
      | _ => contradiction

/-- Steps that leave the queue and the watches alone. -/
theorem Delivered.quiet (h : Delivered e g at_pc) (queue : e'.queued = e.queued)
    (slots : ∀ i, (e'.watch i).pin = (e.watch i).pin ∧ (e'.watch i).active = (e.watch i).active)
    (off : g'.off = g.off) (reports : ∀ r ∈ g.reports, r ∈ g'.reports)
    (poll : ∀ pc ∈ next, pc.Delivered e' g') : Delivered e' g' next := by
  refine ⟨fun ev inside => ?_, fun i inside on => ?_, poll⟩
  · rw [queue] at inside
    obtain ⟨⟨r, reported, same⟩, on⟩ := h.queued ev inside
    exact ⟨⟨r, reports r reported, same⟩, off ▸ on⟩
  · obtain ⟨pin, active⟩ := slots i
    rw [active] at on
    rw [pin, off]
    exact h.watched i inside on

theorem setWatch_own {w : EventWatch} (pin : w.pin = (e.watch i).pin)
    (active : w.active = (e.watch i).active) (j : Nat) :
    ((e.setWatch i w).watch j).pin = (e.watch j).pin ∧
      ((e.setWatch i w).watch j).active = (e.watch j).active := by
  by_cases here : j = i
  · subst j
    rw [setWatch_watch]
    exact ⟨pin, active⟩
  · rw [setWatch_other here]
    exact ⟨rfl, rfl⟩

theorem eventStep_delivered (env : Env) (ok : pc.Ok d.event) (calm : pc.overtaken d.event g = false)
    (h : Delivered d.event g (some pc)) :
    Delivered (eventStep env d pc).1 (pc.noted d g) (eventStep env d pc).2.1 := by
  have here : pc.Delivered d.event g := h.poll pc rfl
  have still : ∀ i, (d.event.watch i).pin = (d.event.watch i).pin ∧
      (d.event.watch i).active = (d.event.watch i).active := fun _ => ⟨rfl, rfl⟩
  cases pc with
  | readClock =>
    refine h.quiet rfl still rfl (fun _ => id) ?_
    simp only [eventStep]
    split <;> rintro next ⟨⟩
    trivial
  | readActive now i =>
    simp only [eventStep]
    split
    · rename_i inside
      refine h.quiet rfl still rfl (fun _ => id) ?_
      split
      · rename_i on
        rintro next ⟨⟩
        intro off
        exact absurd ((h.watched i inside on).symm.trans off) (by simp)
      · rintro next ⟨⟩
        trivial
    · exact h.quiet rfl still rfl (fun _ => id) (by simp)
  | readPin now i =>
    refine h.quiet rfl still rfl (fun _ => id) ?_
    rintro next ⟨⟩
    exact here
  | takeSeq now i pin =>
    refine h.quiet rfl (setWatch_own rfl rfl) rfl (fun _ => id) ?_
    rintro next ⟨⟩
    exact here
  | takeBaseline now i pin =>
    refine h.quiet rfl (setWatch_own rfl rfl) rfl (fun _ => id) ?_
    rintro next ⟨⟩
    trivial
  | compareLevel now i pin =>
    simp only [eventStep]
    split
    · refine h.quiet rfl still rfl (fun _ => id) ?_
      rintro next ⟨⟩
      trivial
    · refine h.quiet rfl (setWatch_own rfl rfl) rfl (fun _ => id) ?_
      rintro next ⟨⟩
      exact here
  | seqTest | changeTest =>
    refine h.quiet rfl still rfl (fun _ => id) ?_
    simp only [eventStep]
    split <;> rintro next ⟨⟩ <;> exact here
  | directionTest | debounceTest =>
    refine h.quiet rfl still rfl (fun _ => id) ?_
    simp only [eventStep]
    split <;> rintro next ⟨⟩
    all_goals first | exact here | trivial
  | bumpCount now i pin rising =>
    refine h.quiet rfl (setWatch_own rfl rfl) rfl (fun r => List.mem_cons_of_mem _) ?_
    rintro next ⟨⟩
    refine ⟨here, _, List.mem_cons_self .., ?_⟩
    simp only [eventStep, setWatch_watch]
  | openWindow now i pin rising =>
    refine h.quiet rfl (setWatch_own rfl rfl) rfl (fun _ => id) ?_
    rintro next ⟨⟩
    exact here
  | roomTest now i ev =>
    simp only [eventStep]
    split
    · refine h.quiet rfl still rfl (fun _ => id) ?_
      rintro next ⟨⟩
      trivial
    · refine h.quiet rfl still rfl (fun _ => id) ?_
      rintro next ⟨⟩
      exact here
  | dropTest =>
    refine h.quiet rfl still rfl (fun _ => id) ?_
    simp only [eventStep]
    split <;> rintro next ⟨⟩ <;> trivial
  | dropLoad | dropStore =>
    refine h.quiet rfl still rfl (fun _ => id) ?_
    rintro next ⟨⟩
    trivial
  | fillSlot now i ev =>
    refine h.quiet (d.event.fill_queued ok ev) still rfl (fun _ => id) ?_
    rintro next ⟨⟩
    exact ⟨here.1, here.2, Function.update_self ..⟩
  | bumpHead now i ev =>
    obtain ⟨noticed, reported, filled⟩ := here
    have on : g.off ev.pin = false := by
      cases off : g.off ev.pin with
      | false => rfl
      | true =>
        simp only [EventPc.overtaken, off, Bool.true_and, List.contains_eq_mem,
          decide_eq_false_iff_not] at calm
        exact absurd (noticed off) calm
    refine ⟨fun ev' inside => ?_, h.watched, by rintro next ⟨⟩; trivial⟩
    rcases d.event.publish_mem ok inside with before | published
    · exact h.queued ev' before
    · rw [published, filled]
      exact ⟨reported, on⟩

/-- With any number of arms, whatever interrupts event_poll(). -/
theorem Watching.delivered {r : Machine × Watchlog}
    (reached : Watching b (fun r act => overtaken r act = false) r) :
    Delivered r.1.dev.event r.2 r.1.pc.event? := by
  refine (Watching.rule (b := b) (I := Delivered) ?_ ?_ ?_ ?_ reached).1
  · refine ⟨fun ev inside => ?_, fun i _ on => (by contradiction), by simp⟩
    rw [EventState.queued, EventState.init, liveFrom_self] at inside
    contradiction
  · exact fun h => ⟨h.queued, h.watched, by rintro pc ⟨⟩; trivial⟩
  · intro d g env log pc _ ok calm h
    exact eventStep_delivered env ok calm h
  · intro m g env s req ok _ arms h
    refine h.request ok.dev (fun pc here => ?_) arms
    obtain ⟨_, at_pc, _⟩ := m
    cases at_pc with
    | event at_pc =>
      obtain rfl := Option.some.inj here
      exact ok.pc
    | _ => contradiction

/-- In every interleaving with fewer than 256 arms in which no EVENT_CONFIG overtakes the scan:
every event that is queued, or that an EVENT_POP returns, was accepted as a change of its
pin's shadow between the two latest scans since the pin's latest arm, in a direction that
arm wants; and its pin has not been switched off since. -/
theorem interrupted_events_are_genuine (b : Board) (m : Machine) (g : Watchlog)
    (reached : Watching b (fun r act => overtaken r act = false) (m, g)) (few : g.arms < 256) :
    (∀ ev ∈ m.dev.event.queued, g.off ev.pin = false ∧ ∃ r ∈ g.reports, r.event = ev ∧ r.Genuine) ∧
    ∀ (env : Env) (s : SetupPacket) (index : UInt16) (reply : List UInt8),
      s.obs (handleSetup b env m.dev s).2 = .answered .eventPop index reply →
      ∃ (dropped pending : UInt8) (events : List UsbioEvent),
        reply = (eventHeader (UInt8.ofNat events.length) dropped pending ++
          events.flatMap UsbioEvent.bytes).take s.wLength.toNat ∧
        ∀ ev ∈ events, g.off ev.pin = false ∧ ∃ r ∈ g.reports, r.event = ev ∧ r.Genuine := by
  have delivered : Delivered m.dev.event g m.pc.event? := Watching.delivered reached
  have mirrored : Mirrored m.dev.event g m.pc.event? := Watching.mirrored reached few
  have genuine : ∀ ev ∈ m.dev.event.queued,
      g.off ev.pin = false ∧ ∃ r ∈ g.reports, r.event = ev ∧ r.Genuine := by
    intro ev inside
    obtain ⟨⟨r, reported, same⟩, on⟩ := delivered.queued ev inside
    exact ⟨on, r, reported, same, mirrored.genuine r reported⟩
  refine ⟨genuine, ?_⟩
  intro env s index reply said
  obtain ⟨_, named, rfl, full, replied, rfl⟩ := handleSetup_answered said
  simp only [replyBytes, named, Option.some.injEq] at replied
  subst replied
  exact ⟨m.dev.event.dropped, _, m.dev.event.queued.take (popCap s.index),
    congrArg (List.take s.wLength.toNat) (m.dev.event.pop_reply s.index),
    fun ev inside => genuine ev (List.mem_of_mem_take inside)⟩

/-- While the edge is on its way to the ring its pin is made an output. -/
def interruptedEdge : List Act :=
  oneEdge.take 51 ++ [request .pinMode 1 0] ++ oneEdge.drop 51

def interruptedRun : Machine × Watchlog :=
  interruptedEdge.foldl (Lib.recording (step onePinBoard) (watchlog onePinBoard))
    (boot onePinBoard, .empty)

theorem interrupted_events_are_genuine_one_edge :
    ⟨0, .rising, 1, 5⟩ ∈ interruptedRun.1.dev.event.queued ∧
    ∃ r ∈ interruptedRun.2.reports, r.event = ⟨0, .rising, 1, 5⟩ ∧ r.Genuine := by
  have reached : Watching onePinBoard (fun r act => overtaken r act = false) interruptedRun :=
    Lib.Follows.reach (by decide +kernel)
  have few : interruptedRun.2.arms < 256 := by decide +kernel
  have queued : ⟨0, .rising, 1, 5⟩ ∈ interruptedRun.1.dev.event.queued := by decide +kernel
  generalize interruptedRun = r at reached few queued ⊢
  exact ⟨queued, ((interrupted_events_are_genuine onePinBoard r.1 r.2 reached few).1 _ queued).2⟩

/-- The pin with a queued event is made an output, which unwatches it, before its OFF. -/
def offAfterLeaving : Machine :=
  run onePinBoard (boot onePinBoard) (oneEdge ++ [request .pinMode 1 0, request .eventConfig 0 0])

/-- The OFF comes while the edge is on its way to the ring. -/
def offDuringScan : Machine :=
  run onePinBoard (boot onePinBoard)
    (oneEdge.take 51 ++ [request .eventConfig 0 0] ++ oneEdge.drop 51)

/-- OFF is a no-op on a pin that is not watched, whose queued events remain readable; and it
does not stop an edge that poll() has already accepted. -/
theorem off_leaves_events :
    offAfterLeaving.log.head? = some (.accepted .eventConfig 0 0) ∧
    (handleSetup onePinBoard highEnv offAfterLeaving.dev (.inp .eventPop 0 60)).2 =
      some [0, 1, 0, 0, 0, 1, 1, 0, 5, 0, 0, 0] ∧
    .accepted .eventConfig 0 0 ∈ offDuringScan.log ∧
    (handleSetup onePinBoard highEnv offDuringScan.dev (.inp .eventPop 0 60)).2 =
      some [0, 1, 0, 0, 0, 1, 1, 0, 5, 0, 0, 0] := by
  refine ⟨?_, ?_, ?_, ?_⟩ <;> decide +kernel

end ArduinoDriver
