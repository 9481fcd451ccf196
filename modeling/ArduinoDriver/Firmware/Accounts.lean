import ArduinoDriver.Firmware.EventRing
import ArduinoDriver.Firmware.Replies
import ArduinoDriver.Firmware.Turns
import ArduinoDriver.Lib.History
import ArduinoDriver.Lib.Ledger

namespace ArduinoDriver

open Lib (Ledger)

/-- Requests arrive between polls, and every EVENT_POP has room for a full reply. -/
def fullPops (m : Machine) : Act → Prop
  | .setup _ s => m.pc = .idle ∧
      (s.isIn = true → Request.ofCode? s.bRequest = some .eventPop → 60 ≤ s.wLength.toNat)
  | _ => True

instance (m : Machine) (act : Act) : Decidable (fullPops m act) :=
  match act with
  | .setup _ s => inferInstanceAs (Decidable (m.pc = .idle ∧
      (s.isIn = true → Request.ofCode? s.bRequest = some .eventPop → 60 ≤ s.wLength.toNat)))
  | .disconnect | .loop _ => .isTrue trivial

/-- What a request does to the accounts: an EVENT_POP hands over, RESET and the OFF of a
watched pin discard. -/
def EventRequest.settles (e : EventState) (g : Ledger UsbioEvent) : EventRequest → Ledger UsbioEvent
  | .pop index => g.hand (popCap index)
  | .clear => g.clear
  | .off pin => if (e.watchIndex pin).isSome then g.discard (·.pin = pin) else g
  | .leave _ | .arm .. => g

/-- What a step of poll() does: an edge is accepted with the bump of its slot's count, and
push_event() drops or publishes it. -/
def EventPc.settles (e : EventState) (g : Ledger UsbioEvent) : EventPc → Ledger UsbioEvent
  | .bumpCount now i pin rising => g.enter ⟨pin, edgeOf rising, (e.watch i).count + 1, now⟩
  | .roomTest _ _ _ => if e.full then g.settle false else g
  | .bumpHead _ _ _ => g.settle true
  | _ => g

/-- The accounts of the accepted edges along a run. -/
def accounts (b : Board) (m : Machine) (act : Act) (g : Ledger UsbioEvent) : Ledger UsbioEvent :=
  match act with
  | .setup env s =>
    ((s.obs (handleSetup b env m.dev s).2).eventRequest.map (·.settles m.dev.event g)).getD g
  | .disconnect => g
  | .loop _ => match m.pc with
    | .event pc => pc.settles m.dev.event g
    | _ => g

/-- The edges event_poll() has logged, with whether there was room for them. -/
def Obs.edge? : Obs → Option (UsbioEvent × Bool)
  | .edge ev queued => some (ev, queued)
  | _ => none

/-- What an EVENT_POP reply carries behind its header. -/
def Obs.popped : Obs → List UInt8
  | .answered .eventPop _ reply => reply.drop 4
  | _ => []

def Log.edges (log : Log) : List (UsbioEvent × Bool) := log.reverse.filterMap Obs.edge?

def Log.popped (log : Log) : List UInt8 := log.reverse.flatMap Obs.popped

/-- No edge is on its way and no drop is still to be counted. -/
def EventPc.calm : EventPc → Bool
  | .openWindow .. | .roomTest .. | .dropTest .. | .dropLoad .. | .dropStore .. | .fillSlot ..
  | .bumpHead .. => false
  | _ => true

def Pc.calm : Pc → Bool
  | .event pc => pc.calm
  | _ => true

/-- The edge on its way to push_event(), and what is known of it. -/
def EventPc.Carries (e : EventState) (g : Ledger UsbioEvent) : EventPc → Prop
  | .openWindow now i pin rising => g.flight = some ⟨pin, edgeOf rising, (e.watch i).count, now⟩
  | .roomTest _ _ ev | .fillSlot _ _ ev => g.flight = some ev
  | .bumpHead _ _ ev => g.flight = some ev ∧ e.ring (ringSlot eventQueueDepth e.head) = ev
  | _ => g.flight = none

/-- The counter of drops is behind by one until it is stored. -/
def EventPc.Counts (e : EventState) (g : Ledger UsbioEvent) : EventPc → Prop
  | .dropTest .. => ∃ n, g.drops = n + 1 ∧ e.dropped.toNat = min 255 n
  | .dropLoad .. => g.drops = e.dropped.toNat + 1 ∧ e.dropped.toNat < 255
  | .dropStore _ _ dropped => g.drops = dropped.toNat + 1 ∧ dropped.toNat < 255
  | _ => e.dropped.toNat = min 255 g.drops

def Pc.Carries (e : EventState) (g : Ledger UsbioEvent) : Pc → Prop
  | .event pc => pc.Carries e g
  | _ => g.flight = none

def Pc.Counts (e : EventState) (g : Ledger UsbioEvent) : Pc → Prop
  | .event pc => pc.Counts e g
  | _ => e.dropped.toNat = min 255 g.drops

/-- The accounts agree with the ring, the counter and the log. -/
structure Accounted (m : Machine) (g : Ledger UsbioEvent) : Prop where
  queue : m.dev.event.queued = g.withFate .held
  replies : m.log.popped = (g.withFate .handed).flatMap UsbioEvent.bytes
  edges : m.log.edges = g.outcomes
  ordered : g.Ordered
  poll : m.pc.Carries m.dev.event g
  drops : m.pc.Counts m.dev.event g

variable {b : Board} {env : Env} {d d' : UsbIoDevice} {o : Obs} {m m' : Machine} {log news : Log}
  {g : Ledger UsbioEvent} {s : SetupPacket} {e e' : EventState} {ev : UsbioEvent}

theorem edges_append (news log : Log) : Log.edges (news ++ log) = log.edges ++ Log.edges news := by
  simp [Log.edges, List.filterMap_append]

theorem popped_append (news log : Log) : Log.popped (news ++ log) = log.popped ++ Log.popped news := by
  simp [Log.popped, List.flatMap_append]

/-- Entries that say nothing of events. -/
def Obs.offEvents (o : Obs) : Prop := o.edge? = none ∧ o.popped = []

theorem edges_quiet (news : Log) (quiet : ∀ o ∈ news, o.offEvents) : Log.edges (news ++ log) = log.edges := by
  have none_new : Log.edges news = [] :=
    List.filterMap_eq_nil_iff.mpr (fun o inside => (quiet o (List.mem_reverse.mp inside)).1)
  rw [edges_append, none_new, List.append_nil]

theorem popped_quiet (news : Log) (quiet : ∀ o ∈ news, o.offEvents) : Log.popped (news ++ log) = log.popped := by
  have none_new : Log.popped news = [] :=
    List.flatMap_eq_nil_iff.mpr (fun o inside => (quiet o (List.mem_reverse.mp inside)).2)
  rw [popped_append, none_new, List.append_nil]

theorem offEvents_of_pad (pad : o.isPad = true) : o.offEvents := by
  cases o <;> first | exact ⟨rfl, rfl⟩ | contradiction

theorem drainStep_offEvents (b : Board) (env : Env) (d : UsbIoDevice) (pc : DrainPc) :
    ∀ o ∈ (drainStep b env d pc).2.2, o.offEvents := by
  cases pc with
  | resetApply seen => exact fun o inside => offEvents_of_pad (resetLog_pads d o inside)
  | epochTest c | outerTest =>
    simp only [drainStep]
    split
    · simp
    · intro o inside
      obtain rfl := List.mem_singleton.mp inside
      exact ⟨rfl, rfl⟩
  | execute c =>
    intro o inside
    rcases List.mem_cons.mp inside with rfl | call
    · exact ⟨rfl, rfl⟩
    · exact offEvents_of_pad (execute_pads b env d c o call)
  | _ => exact List.forall_mem_nil _

theorem streamStep_offEvents (b : Board) (env : Env) (d : UsbIoDevice) (pc : StreamPc) :
    ∀ o ∈ (streamStep b env d pc).2.2, o.offEvents := by
  cases pc with
  | packRecord =>
    simp only [streamStep]
    split
    · split <;> simp
    · simp
  | flushTest =>
    simp only [streamStep]
    split
    · simp
    · split <;> simp
  | writeResult packet =>
    simp only [streamStep]
    split <;> exact List.forall_mem_singleton.mpr ⟨rfl, rfl⟩
  | startTest =>
    exact List.forall_mem_singleton.mpr ⟨rfl, rfl⟩
  | _ => simp [streamStep, Obs.offEvents, Obs.edge?, Obs.popped]

theorem returnLog_offEvents (pc : Pc) : ∀ o ∈ returnLog pc, o.offEvents := by
  unfold returnLog
  split
  · exact List.forall_mem_singleton.mpr ⟨rfl, rfl⟩
  · simp

theorem Pc.Carries.calm {pc : Pc} (h : pc.Carries e g) (calm : pc.calm = true) : g.flight = none := by
  cases pc with
  | event pc => cases pc <;> first | exact h | contradiction
  | _ => exact h

theorem Pc.Counts.calm {pc : Pc} (h : pc.Counts e g) (calm : pc.calm = true) :
    e.dropped.toNat = min 255 g.drops := by
  cases pc with
  | event pc => cases pc <;> first | exact h | contradiction
  | _ => exact h

theorem Pc.carries_calm {pc : Pc} (none_out : g.flight = none) (calm : pc.calm = true) :
    pc.Carries e g := by
  cases pc with
  | event pc => cases pc <;> first | exact none_out | contradiction
  | _ => exact none_out

theorem Pc.counts_calm {pc : Pc} (counted : e.dropped.toNat = min 255 g.drops)
    (calm : pc.calm = true) : pc.Counts e g := by
  cases pc with
  | event pc => cases pc <;> first | exact counted | contradiction
  | _ => exact counted

/-- A step that leaves queue, counter and logged edges alone and ends away from
push_event(). -/
structure Quiet (m m' : Machine) (news : Log) : Prop where
  queued : m'.dev.event.queued = m.dev.event.queued
  dropped : m'.dev.event.dropped = m.dev.event.dropped
  log : m'.log = news ++ m.log
  off : ∀ o ∈ news, o.offEvents
  calm : m'.pc.calm = true

theorem Quiet.edges (quiet : Quiet m m' news) : m'.log.edges = m.log.edges := by
  rw [quiet.log, edges_quiet news quiet.off]

theorem Quiet.popped (quiet : Quiet m m' news) : m'.log.popped = m.log.popped := by
  rw [quiet.log, popped_quiet news quiet.off]

theorem Accounted.quiet (h : Accounted m g) (calm : m.pc.calm = true) (quiet : Quiet m m' news) :
    Accounted m' g where
  queue := quiet.queued.trans h.queue
  replies := quiet.popped.trans h.replies
  edges := quiet.edges.trans h.edges
  ordered := h.ordered
  poll := Pc.carries_calm (h.poll.calm calm) quiet.calm
  drops := Pc.counts_calm (by rw [quiet.dropped, h.drops.calm calm]) quiet.calm

/-- The phases of poll() around event_poll(). -/
theorem loopStep_outside (b : Board) (env : Env) (m : Machine) (other : ∀ pc, m.pc ≠ .event pc) :
    m.pc.calm = true ∧ ∃ news, Quiet m (loopStep b env m) news := by
  have event := loopStep_event_frame b env m other
  obtain ⟨d, pc, log⟩ := m
  have queued := congrArg EventState.queued event
  have dropped := congrArg EventState.dropped event
  cases pc with
  | idle =>
    exact ⟨rfl, [.pollStarted], queued, dropped, rfl,
      List.forall_mem_singleton.mpr ⟨rfl, rfl⟩, rfl⟩
  | drain pc =>
    refine ⟨rfl, _, queued, dropped, rfl, drainStep_offEvents b env d pc, ?_⟩
    simp only [loopStep]
    cases (drainStep b env d pc).2.1 <;> rfl
  | shadow pc =>
    refine ⟨rfl, [], queued, dropped, rfl, by simp, ?_⟩
    simp only [loopStep]
    cases (shadowStep env d pc).2 <;> rfl
  | event pc => exact absurd rfl (other pc)
  | stream pc =>
    refine ⟨rfl, _, queued, dropped, rfl, fun o inside => ?_, ?_⟩
    · rcases List.mem_append.mp inside with inside | inside
      · exact returnLog_offEvents _ o inside
      · exact streamStep_offEvents b env d pc o inside
    · simp only [loopStep]
      cases (streamStep b env d pc).2.1 <;> rfl

/-- The scan of a slot up to the decision to count an edge. -/
def EventPc.scanning : EventPc → Bool
  | .readClock | .readActive .. | .readPin .. | .seqTest .. | .takeSeq .. | .takeBaseline ..
  | .compareLevel .. | .changeTest .. | .directionTest .. | .debounceTest .. => true
  | _ => false

theorem eventStep_scanning (env : Env) (d : UsbIoDevice) {pc : EventPc}
    (scans : pc.scanning = true) :
    (eventStep env d pc).1.queued = d.event.queued ∧
    (eventStep env d pc).1.dropped = d.event.dropped ∧ (eventStep env d pc).2.2 = [] ∧
    ∀ next ∈ (eventStep env d pc).2.1, next.calm = true := by
  cases pc with
  | readClock =>
    refine ⟨rfl, rfl, rfl, ?_⟩
    simp only [eventStep]
    split <;> rintro next ⟨⟩
    rfl
  | readActive now i =>
    simp only [eventStep]
    split
    · refine ⟨rfl, rfl, rfl, ?_⟩
      split <;> rintro next ⟨⟩ <;> rfl
    · exact ⟨rfl, rfl, rfl, by simp⟩
  | compareLevel now i pin =>
    simp only [eventStep]
    split <;> refine ⟨rfl, rfl, rfl, ?_⟩ <;> rintro next ⟨⟩ <;> rfl
  | seqTest | changeTest | directionTest | debounceTest =>
    refine ⟨rfl, rfl, rfl, ?_⟩
    simp only [eventStep]
    split <;> rintro next ⟨⟩ <;> rfl
  | readPin | takeSeq | takeBaseline =>
    refine ⟨rfl, rfl, rfl, ?_⟩
    rintro next ⟨⟩
    rfl
  | _ => contradiction

theorem loopStep_scanning (b : Board) (env : Env) (d : UsbIoDevice) (log : Log) {pc : EventPc}
    (scans : pc.scanning = true) :
    pc.calm = true ∧ ∃ news, Quiet ⟨d, .event pc, log⟩ (loopStep b env ⟨d, .event pc, log⟩) news := by
  obtain ⟨queued, dropped, silent, next⟩ := eventStep_scanning env d scans
  refine ⟨by cases pc <;> first | rfl | contradiction,
    returnLog _ ++ (eventStep env d pc).2.2, queued, dropped, rfl, ?_, ?_⟩
  · intro o inside
    rw [silent, List.append_nil] at inside
    exact returnLog_offEvents _ o inside
  · simp only [loopStep]
    cases after : (eventStep env d pc).2.1 with
    | none =>
      simp only [Option.map_none, Option.getD_none, afterEvent]
      cases b.hasStreamTransport <;> rfl
    | some next_pc => exact next next_pc (by rw [after]; rfl)

/-- All of poll() but push_event() and the way to it. -/
theorem loopStep_quiet (b : Board) (env : Env) (m : Machine)
    (away : ∀ pc, m.pc = .event pc → pc.scanning = true) :
    m.pc.calm = true ∧ ∃ news, Quiet m (loopStep b env m) news := by
  obtain ⟨d, pc, log⟩ := m
  cases pc with
  | event pc => exact loopStep_scanning b env d log (away pc rfl)
  | _ => exact loopStep_outside b env ⟨d, _, log⟩ (fun _ => by simp)

theorem UsbioEvent.live_of_known {nPins : Nat} (known : ev.pin < nPins) (few : nPins ≤ maxPins) :
    ev.live = true := by
  have far : ev.pin ≠ eventTombstone := by
    have : ev.pin < 128 := Nat.lt_of_lt_of_le known few
    intro tombstone
    rw [tombstone] at this
    exact absurd this (by decide)
  simpa [UsbioEvent.live] using far

/-- From the bump of the count on, the edge is counted in and finds its place. -/
theorem Accounted.push {pc : EventPc} (h : Accounted ⟨d, .event pc, log⟩ g)
    (pushes : pc.scanning = false) (known : pc.Known d.nPins) (few : d.nPins ≤ maxPins)
    (ok : pc.Ok d.event) :
    Accounted (loopStep b env ⟨d, .event pc, log⟩) (pc.settles d.event g) := by
  obtain ⟨queue, replies, edges, ordered, poll, drops⟩ := h
  cases pc with
  | bumpCount now i pin rising =>
    refine ⟨queue, replies, edges, ordered, ?_, drops⟩
    have counted : ((d.event.setWatch i { d.event.watch i with
        count := (d.event.watch i).count + 1 }).watch i).count = (d.event.watch i).count + 1 := by
      rw [setWatch_watch]
    exact congrArg (fun seq => some (UsbioEvent.mk pin (edgeOf rising) seq now)) counted.symm
  | openWindow now i pin rising => exact ⟨queue, replies, edges, ordered, poll, drops⟩
  | roomTest now i ev =>
    have flight : g.flight = some ev := poll
    by_cases full : d.event.full = true
    · have stepped : loopStep b env ⟨d, .event (.roomTest now i ev), log⟩ =
          ⟨d, .event (.dropTest now i), .edge ev false :: log⟩ := by
        simp only [loopStep, eventStep, if_pos full]
        rfl
      have settled : (EventPc.roomTest now i ev).settles d.event g = g.settle false := if_pos full
      rw [stepped, settled]
      refine ⟨?_, ?_, ?_, Ledger.settle_ordered ordered, rfl, g.drops, rfl, drops⟩
      · rw [Ledger.settle_withFate flight, if_neg (by simp), List.append_nil]
        exact queue
      · rw [Ledger.settle_withFate flight, if_neg (by simp), List.append_nil, ← replies]
        exact (popped_append [.edge ev false] _).trans (List.append_nil _)
      · rw [Ledger.settle_outcomes flight, ← edges]
        exact edges_append [.edge ev false] _
    · have stepped : loopStep b env ⟨d, .event (.roomTest now i ev), log⟩ =
          ⟨d, .event (.fillSlot now i ev), log⟩ := by
        simp only [loopStep, eventStep, if_neg full]
        rfl
      have settled : (EventPc.roomTest now i ev).settles d.event g = g := if_neg full
      rw [stepped, settled]
      exact ⟨queue, replies, edges, ordered, flight, drops⟩
  | dropTest now i =>
    obtain ⟨n, dropped, counted⟩ := drops
    by_cases more : d.event.dropped < 0xFF
    · have stepped : loopStep b env ⟨d, .event (.dropTest now i), log⟩ =
          ⟨d, .event (.dropLoad now i), log⟩ := by
        simp only [loopStep, eventStep, if_pos more]
        rfl
      rw [stepped]
      have below : d.event.dropped.toNat < 255 := UInt8.lt_iff_toNat_lt.mp more
      refine ⟨queue, replies, edges, ordered, poll, ?_, below⟩
      change g.drops = d.event.dropped.toNat + 1
      dsimp only at counted
      omega
    · have stepped : loopStep b env ⟨d, .event (.dropTest now i), log⟩ =
          ⟨d, .event (.readActive now (i + 1)), log⟩ := by
        simp only [loopStep, eventStep, if_neg more]
        rfl
      rw [stepped]
      have above : ¬ d.event.dropped.toNat < 255 := fun below =>
        more (UInt8.lt_iff_toNat_lt.mpr below)
      refine ⟨queue, replies, edges, ordered, poll, ?_⟩
      change d.event.dropped.toNat = min 255 g.drops
      dsimp only at counted
      omega
  | dropLoad now i => exact ⟨queue, replies, edges, ordered, poll, drops⟩
  | dropStore now i dropped =>
    obtain ⟨counted, below⟩ := drops
    refine ⟨queue, replies, edges, ordered, poll, ?_⟩
    change (dropped + 1).toNat = min 255 g.drops
    rw [UInt8.toNat_add, UInt8.toNat_one]
    omega
  | fillSlot now i ev =>
    refine ⟨(d.event.fill_queued ok ev).trans queue, replies, edges, ordered, ⟨poll, ?_⟩, drops⟩
    exact Function.update_self ..
  | bumpHead now i ev =>
    obtain ⟨flight, filled⟩ := poll
    have settled : (EventPc.bumpHead now i ev).settles d.event g = g.settle true := rfl
    have live := UsbioEvent.live_of_known known few
    rw [settled]
    refine ⟨?_, ?_, ?_, Ledger.settle_ordered ordered, rfl, drops⟩
    · rw [Ledger.settle_withFate flight, if_pos rfl, ← queue]
      exact EventState.publish_queued ok filled live
    · rw [Ledger.settle_withFate flight, if_neg (by simp), List.append_nil, ← replies]
      exact (popped_append [.edge ev true] _).trans (List.append_nil _)
    · rw [Ledger.settle_outcomes flight, ← edges]
      exact edges_append [.edge ev true] _
  | _ => contradiction

theorem Accounted.loop (h : Accounted m g) (known : m.Known) (ok : m.Ok b) :
    Accounted (loopStep b env m) (accounts b m (.loop env) g) := by
  by_cases pushes : ∃ pc, m.pc = .event pc ∧ pc.scanning = false
  · obtain ⟨d, pc, log⟩ := m
    obtain ⟨pc, rfl, scans⟩ := pushes
    have few : d.nPins ≤ maxPins := ok.dev.pins ▸ b.pinCount_le
    exact h.push scans known.poll few ok.pc
  · have away : ∀ pc, m.pc = .event pc → pc.scanning = true := by
      intro pc at_pc
      cases scans : pc.scanning with
      | true => rfl
      | false => exact absurd ⟨pc, at_pc, scans⟩ pushes
    have kept : accounts b m (.loop env) g = g := by
      obtain ⟨d, pc, log⟩ := m
      cases pc with
      | event pc =>
        have scans := away pc rfl
        cases pc <;> first | rfl | contradiction
      | _ => rfl
    obtain ⟨calm, news, quiet⟩ := loopStep_quiet b env m away
    rw [kept]
    exact h.quiet calm quiet

/-- An answer to EVENT_POP is the whole reply when wLength leaves room for it. -/
theorem handleSetup_pop {index : UInt16} {reply : List UInt8}
    (said : s.obs (handleSetup b env d s).2 = .answered .eventPop index reply)
    (whole : s.isIn = true → Request.ofCode? s.bRequest = some .eventPop → 60 ≤ s.wLength.toNat) :
    reply = (d.event.pop index).2 := by
  obtain ⟨asks, named, rfl, full, replied, rfl⟩ := handleSetup_answered said
  have room := whole asks named
  have short : (d.event.pop s.index).2.length ≤ 60 := d.event.pop_length s.index
  simp only [replyBytes, named, Option.some.injEq] at replied
  subst replied
  exact List.take_of_length_le (by omega)

theorem Obs.eventRequest_pop {index : UInt16} (asked : o.eventRequest = some (.pop index)) :
    ∃ reply, o = .answered .eventPop index reply := by
  cases o with
  | answered req index' reply =>
    cases req with
    | eventPop =>
      injection asked with same
      injection same with same
      exact ⟨reply, same ▸ rfl⟩
    | _ => contradiction
  | accepted req index' value =>
    cases req with
    | eventConfig =>
      simp only [eventRequest, Option.map_eq_some_iff] at asked
      obtain ⟨edge, _, same⟩ := asked
      split at same <;> contradiction
    | reset => exact absurd (Option.some.inj asked) (by simp)
    | pinMode =>
      simp only [eventRequest, Option.bind_eq_some_iff] at asked
      obtain ⟨mode, _, same⟩ := asked
      split at same
      · contradiction
      · exact absurd (Option.some.inj same) (by simp)
    | _ => contradiction
  | _ => contradiction

/-- A request of another kind hands nothing over. -/
theorem Obs.popped_eq_nil (other : ∀ index, o.eventRequest ≠ some (.pop index)) : o.popped = [] := by
  cases o with
  | answered req index reply =>
    cases req with
    | eventPop => exact absurd rfl (other index)
    | _ => rfl
  | _ => rfl

theorem SetupPacket.obs_edge (s : SetupPacket) (r : Option (List UInt8)) : (s.obs r).edge? = none := by
  unfold SetupPacket.obs
  split
  · split <;> rfl
  · rfl

theorem perform_dropped (e : EventState) (req : EventRequest) :
    (e.perform req).dropped = match req with
      | .pop _ | .clear => 0
      | .off _ | .leave _ | .arm .. => e.dropped := by
  cases req with
  | pop | clear => rfl
  | off pin | leave pin | arm pin edge debounceMs =>
    simp only [EventState.perform]
    cases e.watchIndex pin <;> rfl

/-- A request between polls settles the accounts of what it hands over or discards. -/
theorem Accounted.request {req : EventRequest} (h : Accounted m g) (idle : m.pc = .idle)
    (pc : m'.pc = m.pc) (event : m'.dev.event = m.dev.event.perform req) (log : m'.log = o :: m.log)
    (unlogged : o.edge? = none)
    (popped : o.popped = match req with
      | .pop index => (m.dev.event.queued.take (popCap index)).flatMap UsbioEvent.bytes
      | _ => []) :
    Accounted m' (req.settles m.dev.event g) := by
  have flight : g.flight = none := h.poll.calm (by rw [idle]; rfl)
  have counted : m.dev.event.dropped.toNat = min 255 g.drops := h.drops.calm (by rw [idle]; rfl)
  have calm : m'.pc.calm = true := by
    rw [pc, idle]
    rfl
  have queued := perform_queued m.dev.event req
  have dropped := perform_dropped m.dev.event req
  have news : m'.log.popped = m.log.popped ++ o.popped := by
    rw [log]
    exact (popped_append [o] _).trans (by simp [Log.popped])
  have edges : m'.log.edges = g.outcomes := by
    rw [log, ← h.edges]
    exact (edges_append [o] _).trans (by simp [Log.edges, unlogged])
  rw [← event] at queued dropped
  cases req with
  | pop index =>
    refine ⟨?_, ?_, ?_, Ledger.hand_ordered h.ordered _, Pc.carries_calm flight calm,
      Pc.counts_calm (by rw [dropped]; rfl) calm⟩
    · rw [queued, h.queue]
      exact (Ledger.hand_held g _).symm
    · have handed := Ledger.hand_handed h.ordered (popCap index)
      rw [news, popped, h.replies, h.queue, ← List.flatMap_append, ← handed]
      rfl
    · rw [edges]
      exact (Ledger.hand_outcomes g _).symm
  | clear =>
    let all : UsbioEvent → Bool := fun _ => true
    refine ⟨?_, ?_, ?_, Ledger.discard_ordered h.ordered all, Pc.carries_calm flight calm,
      Pc.counts_calm (by rw [dropped]; rfl) calm⟩
    · have held := Ledger.discard_held g all
      rw [queued]
      exact (held.trans (by simp [all])).symm
    · rw [news, popped, h.replies, List.append_nil]
      exact congrArg _ (Ledger.discard_handed g all).symm
    · rw [edges]
      exact (Ledger.discard_outcomes g all).symm
  | off pin =>
    simp only [EventRequest.settles]
    by_cases watched : (m.dev.event.watchIndex pin).isSome = true
    · rw [if_pos watched]
      dsimp only at queued
      rw [if_pos watched] at queued
      refine ⟨?_, ?_, ?_, Ledger.discard_ordered h.ordered _, Pc.carries_calm flight calm,
        Pc.counts_calm (by rw [dropped, counted]; rfl) calm⟩
      · rw [queued, h.queue, Ledger.discard_held]
        simp
      · rw [news, popped, h.replies, List.append_nil, Ledger.discard_handed]
      · rw [edges, Ledger.discard_outcomes]
    · rw [if_neg watched]
      dsimp only at queued
      rw [if_neg watched] at queued
      exact ⟨queued.trans h.queue, by rw [news, popped, h.replies, List.append_nil], edges, h.ordered,
        Pc.carries_calm flight calm, Pc.counts_calm (by rw [dropped, counted]) calm⟩
  | leave pin | arm pin edge debounceMs =>
    exact ⟨queued.trans h.queue, by rw [news, popped, h.replies, List.append_nil]; rfl, edges, h.ordered,
      Pc.carries_calm flight calm, Pc.counts_calm (by rw [dropped, counted]; rfl) calm⟩

theorem Accounted.setup (h : Accounted m g) (allowed : fullPops m (.setup env s)) :
    Accounted (setupStep b env s m) (accounts b m (.setup env s) g) := by
  obtain ⟨idle, whole⟩ := allowed
  have event := (handleSetup_served b env m.dev s).event
  generalize said : s.obs (handleSetup b env m.dev s).2 = o at event
  have unlogged : o.edge? = none := said ▸ s.obs_edge _
  have log : (setupStep b env s m).log = o :: m.log := congrArg (· :: m.log) said
  unfold accounts
  dsimp only
  rw [said]
  cases asked : o.eventRequest with
  | none =>
    have silent : o.popped = [] := Obs.popped_eq_nil (fun index => by rw [asked]; simp)
    rw [asked] at event
    have same : (setupStep b env s m).dev.event = m.dev.event := event
    have calm : m.pc.calm = true := by
      rw [idle]
      rfl
    exact h.quiet calm ⟨by rw [same], by rw [same], log,
      List.forall_mem_singleton.mpr ⟨unlogged, silent⟩, calm⟩
  | some req =>
    rw [asked] at event
    refine h.request idle rfl event log unlogged ?_
    cases req with
    | pop index =>
      obtain ⟨reply, rfl⟩ := Obs.eventRequest_pop asked
      rw [Obs.popped, handleSetup_pop said whole, EventState.pop_reply]
      rfl
    | clear | off pin | leave pin | arm pin edge debounceMs =>
      exact Obs.popped_eq_nil (fun index => by rw [asked]; simp)

theorem boot_accounted (b : Board) : Accounted (boot b) .empty := by
  obtain ⟨caps, nAin, eq, _⟩ := boot_dev b
  refine ⟨?_, rfl, rfl, .nil, rfl, ?_⟩
  · rw [eq]
    exact liveFrom_self
  · change (boot b).dev.event.dropped.toNat = 0
    rw [eq]
    rfl

/-- A run with the accounts of its accepted edges. -/
abbrev Accounting (b : Board) : Machine × Ledger UsbioEvent → Prop :=
  Lib.Reach (Lib.recording (step b) (accounts b)) (fun r act => fullPops r.1 act) (boot b, .empty)

theorem accounting_accounted {r : Machine × Ledger UsbioEvent} (reached : Accounting b r) :
    Accounted r.1 r.2 ∧ r.1.Known ∧ r.1.Ok b := by
  refine reached.invariant (I := fun r => Accounted r.1 r.2 ∧ r.1.Known ∧ r.1.Ok b)
    ⟨boot_accounted b, boot_known b, boot_ok b⟩ ?_
  rintro ⟨m, g⟩ act ⟨h, known, ok⟩ allowed
  refine ⟨?_, step_known known act, step_ok act ok⟩
  cases act with
  | setup env s => exact h.setup allowed
  | disconnect =>
    exact ⟨h.queue, h.replies.symm ▸ popped_quiet [.disconnected]
      (List.forall_mem_singleton.mpr ⟨rfl, rfl⟩), h.edges ▸ edges_quiet [.disconnected]
      (List.forall_mem_singleton.mpr ⟨rfl, rfl⟩), h.ordered, h.poll, h.drops⟩
  | loop env => exact h.loop known ok

/-- Every accepted edge is queued, has been handed over by one EVENT_POP in its turn, was
dropped and counted, or was discarded; and what the next EVENT_POP replies. -/
theorem accepted_edges_are_accounted (b : Board) (m : Machine) (g : Ledger UsbioEvent)
    (reached : Accounting b (m, g)) :
    m.dev.event.queued = g.withFate .held ∧
    m.log.popped = (g.withFate .handed).flatMap UsbioEvent.bytes ∧
    m.log.edges = g.outcomes ∧
    (m.pc = .idle → g.flight = none ∧ m.dev.event.dropped.toNat = min 255 g.drops) ∧
    (g.withFate .held).length ≤ eventQueueDepth ∧
    ∀ env s index reply, fullPops m (.setup env s) →
      s.obs (handleSetup b env m.dev s).2 = .answered .eventPop index reply →
      let held := g.withFate .held
      let count := min (popCap index) held.length
      let left := held.length - count
      reply = eventHeader (UInt8.ofNat count) (UInt8.ofNat (min 255 g.drops)) (UInt8.ofNat left) ++
        (held.take count).flatMap UsbioEvent.bytes ∧
      (0 < left → count = popCap index) := by
  obtain ⟨h, _, ok⟩ : Accounted m g ∧ m.Known ∧ m.Ok b := accounting_accounted reached
  have idle_counts : m.pc = .idle → g.flight = none ∧ m.dev.event.dropped.toNat = min 255 g.drops :=
    fun idle => ⟨h.poll.calm (by rw [idle]; rfl), h.drops.calm (by rw [idle]; rfl)⟩
  refine ⟨h.queue, h.replies, h.edges, idle_counts, ?_, ?_⟩
  · rw [← h.queue]
    exact liveFrom_length.trans ok.dev.events
  · intro env s index reply allowed said
    dsimp only
    have dropped : m.dev.event.dropped = UInt8.ofNat (min 255 g.drops) := by
      rw [← (idle_counts allowed.1).2, UInt8.ofNat_toNat]
    have taken : ∀ held : List UsbioEvent,
        held.take (min (popCap index) held.length) = held.take (popCap index) := by
      intro held
      rw [List.take_eq_take_iff]
      omega
    refine ⟨?_, by omega⟩
    rw [handleSetup_pop said allowed.2, EventState.pop_reply, dropped, ← h.queue, List.length_take,
      List.length_drop, taken]
    congr 3
    omega

def oneEdgeAccounts : Machine × Ledger UsbioEvent :=
  oneEdge.foldl (Lib.recording (step onePinBoard) (accounts onePinBoard)) (boot onePinBoard, .empty)

theorem accepted_edges_are_accounted_one_edge :
    oneEdgeAccounts.2.withFate .held = [⟨0, .rising, 1, 5⟩] ∧
    oneEdgeAccounts.1.dev.event.queued = [⟨0, .rising, 1, 5⟩] := by
  have reached : Accounting onePinBoard oneEdgeAccounts := Lib.Follows.reach (by decide +kernel)
  have held : oneEdgeAccounts.2.withFate .held = [⟨0, .rising, 1, 5⟩] := by decide +kernel
  generalize oneEdgeAccounts = r at held reached ⊢
  exact ⟨held, (accepted_edges_are_accounted onePinBoard r.1 r.2 reached).1.trans held⟩

end ArduinoDriver
