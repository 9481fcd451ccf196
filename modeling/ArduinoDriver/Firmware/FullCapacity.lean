import ArduinoDriver.Firmware.Accounts
import ArduinoDriver.Lib.Bounded

namespace ArduinoDriver

open Lib (Bounded)

/-- The event queue the host is promised, and its verdict on every edge offered to it. -/
structure IdealQueue where
  queue : Bounded UsbioEvent eventQueueDepth
  verdicts : List (UsbioEvent × Bool)

def IdealQueue.empty : IdealQueue := ⟨.empty, []⟩

/-- A request on the promised queue; the watch table of `e` says whether a pin is watched. -/
def EventRequest.onIdeal (e : EventState) (q : Bounded UsbioEvent eventQueueDepth) :
    EventRequest → Bounded UsbioEvent eventQueueDepth
  | .pop index => q.drop (popCap index)
  | .clear => .empty
  | .off pin => if (e.watchIndex pin).isSome then q.remove (·.pin = pin) else q
  | .leave _ | .arm .. => q

def IdealQueue.offer (q : IdealQueue) (ev : UsbioEvent) : IdealQueue :=
  ⟨q.queue.offer ev, q.verdicts ++ [(ev, q.queue.hasRoom)]⟩

/-- The promised queue along a run: it is offered the edges that push_event() is. -/
def idealise (b : Board) (m : Machine) (act : Act) (q : IdealQueue) : IdealQueue :=
  match act with
  | .setup env s =>
    match (s.obs (handleSetup b env m.dev s).2).eventRequest with
    | some req => { q with queue := req.onIdeal m.dev.event q.queue }
    | none => q
  | .disconnect => q
  | .loop _ => match m.pc with
    | .event (.roomTest _ _ ev) => q.offer ev
    | _ => q

/-- EVENT_POP on the promised queue. -/
def IdealQueue.popReply (q : IdealQueue) (index : UInt16) (dropped : UInt8) : List UInt8 :=
  let taken := q.queue.items.take (popCap index)
  eventHeader (UInt8.ofNat taken.length) dropped
    (UInt8.ofNat (q.queue.items.drop (popCap index)).length) ++ taken.flatMap UsbioEvent.bytes

/-- Some slot between `tail` and `head` has been discarded. -/
def EventState.hasTombstone (e : EventState) : Bool :=
  (Lib.Ring.contents eventQueueDepth e.ring e.tail e.head).any fun ev => !ev.live

def Pc.testsRoom : Pc → Bool
  | .event (.roomTest ..) => true
  | _ => false

/-- Requests arrive between polls, and push_event() never finds the ring full with a
discarded slot in it. -/
def noWastedSlot (m : Machine) (act : Act) : Prop :=
  betweenPolls m act ∧
    (m.pc.testsRoom = true → ¬ (m.dev.event.full = true ∧ m.dev.event.hasTombstone = true))

instance (m : Machine) (act : Act) : Decidable (noWastedSlot m act) := inferInstanceAs (Decidable (_ ∧ _))

/-- The edge push_event() has found room for and not published yet. -/
def Pc.publishing : Pc → List UsbioEvent
  | .event (.fillSlot _ _ ev) | .event (.bumpHead _ _ ev) => [ev]
  | _ => []

/-- The slot at `head` holds the edge about to be published. -/
def Pc.Filled (e : EventState) : Pc → Prop
  | .event (.bumpHead _ _ ev) => e.ring (ringSlot eventQueueDepth e.head) = ev
  | _ => True

/-- Ring and log show what the promised queue holds and has decided. -/
structure Mirrors (m : Machine) (q : IdealQueue) : Prop where
  items : q.queue.items = m.dev.event.queued ++ m.pc.publishing
  verdicts : q.verdicts = m.log.edges ++ m.pc.publishing.map (·, true)
  filled : m.pc.Filled m.dev.event

variable {b : Board} {env : Env} {d : UsbIoDevice} {m m' : Machine} {log news : Log} {q : IdealQueue}
  {s : SetupPacket} {e : EventState} {act : Act}

theorem Pc.publishing_calm {pc : Pc} (calm : pc.calm = true) : pc.publishing = [] := by
  cases pc with
  | event pc => cases pc <;> first | rfl | contradiction
  | _ => rfl

theorem Pc.filled_calm {pc : Pc} (calm : pc.calm = true) : pc.Filled e := by
  cases pc with
  | event pc => cases pc <;> trivial
  | _ => trivial

/-- Between its events a queue is full exactly when the ring is and no slot is wasted. -/
theorem EventState.queued_full (ok : (e.head - e.tail).toNat ≤ eventQueueDepth) :
    e.queued.length = eventQueueDepth ↔ e.full = true ∧ e.hasTombstone = false := by
  have counted : (Lib.Ring.contents eventQueueDepth e.ring e.tail e.head).length =
      (e.head - e.tail).toNat := Lib.Ring.contents_length
  have all_live : e.queued.length = (e.head - e.tail).toNat ↔ e.hasTombstone = false := by
    rw [← counted]
    refine List.length_filter_eq_length_iff.trans ?_
    simp [EventState.hasTombstone]
  have below : e.queued.length ≤ (e.head - e.tail).toNat := liveFrom_length
  have full : e.full = true ↔ (e.head - e.tail).toNat = eventQueueDepth := by
    simp only [EventState.full, decide_eq_true_eq]
    omega
  constructor
  · intro thirty_two
    have index_full : (e.head - e.tail).toNat = eventQueueDepth := by omega
    exact ⟨full.mpr index_full, all_live.mp (thirty_two.trans index_full.symm)⟩
  · intro h
    exact (all_live.mpr h.2).trans (full.mp h.1)

theorem Mirrors.items_calm (h : Mirrors m q) (calm : m.pc.calm = true) :
    q.queue.items = m.dev.event.queued := by
  rw [h.items, Pc.publishing_calm calm, List.append_nil]

theorem Mirrors.verdicts_calm (h : Mirrors m q) (calm : m.pc.calm = true) :
    q.verdicts = m.log.edges := by
  rw [h.verdicts, Pc.publishing_calm calm, List.map_nil, List.append_nil]

theorem Mirrors.of_calm (calm : m.pc.calm = true) (items : q.queue.items = m.dev.event.queued)
    (verdicts : q.verdicts = m.log.edges) : Mirrors m q where
  items := by rw [items, Pc.publishing_calm calm, List.append_nil]
  verdicts := by rw [verdicts, Pc.publishing_calm calm, List.map_nil, List.append_nil]
  filled := Pc.filled_calm calm

theorem Mirrors.quiet (h : Mirrors m q) (calm : m.pc.calm = true) (quiet : Quiet m m' news) :
    Mirrors m' q :=
  .of_calm quiet.calm ((h.items_calm calm).trans quiet.queued.symm)
    ((h.verdicts_calm calm).trans quiet.edges.symm)

/-- At push_event()'s test the two queues decide alike unless a slot is wasted. -/
theorem Mirrors.decides {now : UInt32} {i : Nat} {ev : UsbioEvent} (h : Mirrors m q)
    (at_test : m.pc = .event (.roomTest now i ev)) (ok : m.Ok b) :
    (q.queue.hasRoom = !m.dev.event.full) ↔
      ¬ (m.dev.event.full = true ∧ m.dev.event.hasTombstone = true) := by
  have items : q.queue.items = m.dev.event.queued := by
    rw [h.items, at_test]
    exact List.append_nil _
  have full := EventState.queued_full ok.dev.events
  have room := @Bounded.hasRoom_iff _ _ q.queue
  rw [items, Ne, full] at room
  cases ring_full : m.dev.event.full <;> cases wasted : m.dev.event.hasTombstone <;>
    cases has : q.queue.hasRoom <;> simp_all

/-- From the bump of the count on, the edge is offered to both queues. -/
theorem Mirrors.push {pc : EventPc} (h : Mirrors ⟨d, .event pc, log⟩ q)
    (pushes : pc.scanning = false) (known : pc.Known d.nPins)
    (ok : Machine.Ok b ⟨d, .event pc, log⟩)
    (allowed : noWastedSlot ⟨d, .event pc, log⟩ (.loop env)) :
    Mirrors (loopStep b env ⟨d, .event pc, log⟩)
      (idealise b ⟨d, .event pc, log⟩ (.loop env) q) := by
  have few : d.nPins ≤ maxPins := ok.dev.pins ▸ b.pinCount_le
  cases pc with
  | bumpCount | openWindow | dropLoad | dropStore => exact ⟨h.items, h.verdicts, trivial⟩
  | dropTest now i =>
    simp only [loopStep, eventStep]
    split <;> exact ⟨h.items, h.verdicts, trivial⟩
  | roomTest now i ev =>
    have alike := (h.decides rfl ok).mpr (allowed.2 rfl)
    have items : q.queue.items = d.event.queued := h.items.trans (List.append_nil _)
    have verdicts : q.verdicts = Log.edges log := h.verdicts.trans (List.append_nil _)
    cases full : d.event.full with
    | true =>
      have refused : q.queue.hasRoom = false := by simpa [full] using alike
      simp only [loopStep, eventStep, if_pos full]
      refine ⟨?_, ?_, trivial⟩
      · simp [idealise, IdealQueue.offer, Bounded.items_offer, refused, items, Pc.publishing]
      · simp only [idealise, IdealQueue.offer, refused, verdicts]
        exact (edges_append [.edge ev false] log).symm.trans (List.append_nil _).symm
    | false =>
      have taken : q.queue.hasRoom = true := by simpa [full] using alike
      simp only [loopStep, eventStep, full, Bool.false_eq_true, if_false]
      refine ⟨?_, ?_, trivial⟩
      · simp [idealise, IdealQueue.offer, Bounded.items_offer, taken, items, Pc.publishing]
      · simp only [idealise, IdealQueue.offer, taken, verdicts]
        rfl
  | fillSlot now i ev =>
    refine ⟨?_, h.verdicts, Function.update_self ..⟩
    rw [show (loopStep b env ⟨d, .event (.fillSlot now i ev), log⟩).dev.event.queued =
      d.event.queued from d.event.fill_queued ok.pc ev]
    exact h.items
  | bumpHead now i ev =>
    have live := UsbioEvent.live_of_known known few
    have published := EventState.publish_queued ok.pc h.filled live
    refine ⟨?_, ?_, trivial⟩
    · refine h.items.trans ?_
      exact (published.symm.trans (List.append_nil _).symm)
    · refine h.verdicts.trans ?_
      exact (edges_append [.edge ev true] log).symm.trans (List.append_nil _).symm
  | _ => contradiction

theorem Mirrors.loop (h : Mirrors m q) (known : m.Known) (ok : m.Ok b)
    (allowed : noWastedSlot m (.loop env)) :
    Mirrors (loopStep b env m) (idealise b m (.loop env) q) := by
  by_cases pushes : ∃ pc, m.pc = .event pc ∧ pc.scanning = false
  · obtain ⟨d, pc, log⟩ := m
    obtain ⟨pc, rfl, scans⟩ := pushes
    exact h.push scans known.poll ok allowed
  · have away : ∀ pc, m.pc = .event pc → pc.scanning = true := by
      intro pc at_pc
      cases scans : pc.scanning with
      | true => rfl
      | false => exact absurd ⟨pc, at_pc, scans⟩ pushes
    have kept : idealise b m (.loop env) q = q := by
      obtain ⟨d, pc, log⟩ := m
      cases pc with
      | event pc =>
        have scans := away pc rfl
        cases pc <;> first | rfl | contradiction
      | _ => rfl
    obtain ⟨calm, news, quiet⟩ := loopStep_quiet b env m away
    rw [kept]
    exact h.quiet calm quiet

/-- A request acts on the ring as on the promised queue. -/
theorem perform_ideal (h : q.queue.items = e.queued) (req : EventRequest) :
    (req.onIdeal e q.queue).items = (e.perform req).queued := by
  rw [perform_queued]
  cases req with
  | off pin =>
    simp only [EventRequest.onIdeal]
    split <;> simp [h]
  | _ => simp [EventRequest.onIdeal, h]

theorem Mirrors.setup (h : Mirrors m q) (idle : m.pc = .idle) :
    Mirrors (setupStep b env s m) (idealise b m (.setup env s) q) := by
  have event := (handleSetup_served b env m.dev s).event
  have calm : m.pc.calm = true := by
    rw [idle]
    rfl
  have items := h.items_calm calm
  have unlogged : (setupStep b env s m).log.edges = m.log.edges := by
    refine (edges_append [_] m.log).trans ?_
    simp [Log.edges, s.obs_edge]
  have verdicts := (h.verdicts_calm calm).trans unlogged.symm
  unfold idealise
  dsimp only
  cases asked : (s.obs (handleSetup b env m.dev s).2).eventRequest with
  | none =>
    rw [asked] at event
    exact .of_calm calm (items.trans (congrArg _ event).symm) verdicts
  | some req =>
    rw [asked] at event
    exact .of_calm calm ((perform_ideal items req).trans (congrArg _ event).symm) verdicts

theorem boot_mirrors (b : Board) : Mirrors (boot b) .empty := by
  obtain ⟨caps, nAin, eq, _⟩ := boot_dev b
  refine .of_calm rfl ?_ rfl
  rw [eq]
  exact liveFrom_self.symm

/-- A run with the promised queue beside it. -/
abbrev Idealised (b : Board) (guard : Machine → Act → Prop) : Machine × IdealQueue → Prop :=
  Lib.Reach (Lib.recording (step b) (idealise b)) (fun r act => guard r.1 act) (boot b, .empty)

theorem idealised_mirrors {r : Machine × IdealQueue} (reached : Idealised b noWastedSlot r) :
    Mirrors r.1 r.2 ∧ r.1.Known ∧ r.1.Ok b := by
  refine reached.invariant (I := fun r => Mirrors r.1 r.2 ∧ r.1.Known ∧ r.1.Ok b)
    ⟨boot_mirrors b, boot_known b, boot_ok b⟩ ?_
  intro r act h allowed
  obtain ⟨mirrors, known, ok⟩ := h
  refine ⟨?_, step_known known act, step_ok act ok⟩
  cases act with
  | setup env s => exact mirrors.setup allowed.1
  | disconnect =>
    have silent : Log.edges (.disconnected :: r.1.log) = r.1.log.edges :=
      edges_quiet [.disconnected] (List.forall_mem_singleton.mpr ⟨rfl, rfl⟩)
    exact ⟨mirrors.items, mirrors.verdicts.trans (congrArg (· ++ _) silent.symm), mirrors.filled⟩
  | loop env => exact mirrors.loop known ok allowed

/-- As long as push_event() never finds a full ring with a discarded slot in it, the ring
behaves as a queue of 32 events: it holds the same events, decides alike on every edge and
answers every EVENT_POP the same; and on the first edge that breaks the condition the two
part. -/
theorem event_ring_is_ideal_queue (b : Board) {r : Machine × IdealQueue}
    (reached : Idealised b noWastedSlot r) :
    r.2.queue.items = r.1.dev.event.queued ++ r.1.pc.publishing ∧
    r.2.verdicts = r.1.log.edges ++ r.1.pc.publishing.map (·, true) ∧
    (∀ env s index reply, betweenPolls r.1 (.setup env s) →
      s.obs (handleSetup b env r.1.dev s).2 = .answered .eventPop index reply →
      reply = (r.2.popReply index r.1.dev.event.dropped).take s.wLength.toNat) ∧
    ∀ env now i ev, r.1.pc = .event (.roomTest now i ev) →
      ((r.2.queue.hasRoom = !r.1.dev.event.full) ↔ noWastedSlot r.1 (.loop env)) := by
  obtain ⟨mirrors, _, ok⟩ := idealised_mirrors reached
  refine ⟨mirrors.items, mirrors.verdicts, ?_, ?_⟩
  · intro env s index reply idle said
    obtain ⟨asks, named, rfl, full, replied, rfl⟩ := handleSetup_answered said
    have at_rest : r.1.pc = .idle := idle
    have items := mirrors.items_calm (by rw [at_rest]; rfl)
    simp only [replyBytes, named, Option.some.injEq] at replied
    rw [← replied, EventState.pop_reply, IdealQueue.popReply, items]
  · intro env now i ev at_test
    rw [mirrors.decides at_test ok]
    simp [noWastedSlot, betweenPolls, at_test, Pc.testsRoom]

def oneEdgeIdeal : Machine × IdealQueue :=
  oneEdge.foldl (Lib.recording (step onePinBoard) (idealise onePinBoard)) (boot onePinBoard, .empty)

theorem event_ring_is_ideal_queue_one_edge :
    oneEdgeIdeal.2.verdicts = [(⟨0, .rising, 1, 5⟩, true)] ∧
    oneEdgeIdeal.1.dev.event.queued ++ oneEdgeIdeal.1.pc.publishing = [⟨0, .rising, 1, 5⟩] := by
  have reached : Idealised onePinBoard noWastedSlot oneEdgeIdeal := Lib.Follows.reach (by decide +kernel)
  have promised : oneEdgeIdeal.2.verdicts = [(⟨0, .rising, 1, 5⟩, true)] ∧
      oneEdgeIdeal.2.queue.items = [⟨0, .rising, 1, 5⟩] := by decide +kernel
  generalize oneEdgeIdeal = r at reached promised ⊢
  exact ⟨promised.1, (event_ring_is_ideal_queue onePinBoard reached).1.symm.trans promised.2⟩

/-- All pads low, 5 ms after the start. -/
def lowEnv : Env := { highEnv with digitalRead := fun _ => false }

/-- Pin 0 is armed and toggled 32 times, disarmed, which discards all its events, armed
again and toggled once more. -/
def discardedRing : List Act :=
  [request .pinMode 0 0, request .eventConfig 3 0] ++ List.replicate 32 (.loop lowEnv) ++
    (List.replicate 16
      (List.replicate 33 (.loop highEnv) ++ List.replicate 33 (.loop lowEnv))).flatten ++
    [request .eventConfig 0 0, request .eventConfig 3 0] ++
    List.replicate 28 (.loop lowEnv) ++ List.replicate 18 (.loop highEnv)

/-- The edge is dropped though no event is queued: the discarded ones fill the ring. -/
theorem discarded_events_fill_ring :
    ¬ ∀ (b : Board) (r : Machine × IdealQueue), Idealised b betweenPolls r →
      r.2.queue.items = r.1.dev.event.queued ++ r.1.pc.publishing ∧
      r.2.verdicts = r.1.log.edges ++ r.1.pc.publishing.map (·, true) ∧
      ∀ env s index reply, betweenPolls r.1 (.setup env s) →
        s.obs (handleSetup b env r.1.dev s).2 = .answered .eventPop index reply →
        reply = (r.2.popReply index r.1.dev.event.dropped).take s.wLength.toNat := by
  intro claim
  have parted := (claim onePinBoard
    (discardedRing.foldl (Lib.recording (step onePinBoard) (idealise onePinBoard))
      (boot onePinBoard, .empty)) (Lib.Follows.reach (by decide +kernel))).2.1
  exact absurd parted (by decide +kernel)

end ArduinoDriver
