import ArduinoDriver.Firmware.Arrivals
import ArduinoDriver.Firmware.Toggling
import ArduinoDriver.Host.Watching
import Mathlib.Data.Nat.Find

namespace ArduinoDriver

open Lib (Program)

variable {d : Device} {st : HostState} {l : Link}

/-- The link after `n` EVENT_POPs of one call. -/
def Link.afterPops (l : Link) : Nat → Link
  | 0 => l
  | n + 1 => (l.received popRequest).afterPops n

/-- The event fields that EVENT_POP number `k` of the call finds. -/
def Link.found (l : Link) (k : Nat) : EventState := (l.afterPops k).idled.machine.dev.event

/-- What the first `n` EVENT_POPs take. -/
def Link.pops (l : Link) (n : Nat) : List Pop := (List.range n).map (fun k => (l.found k).popped 0)

/-- No transfer of the first `n` fails. -/
def Link.Healthy (l : Link) (n : Nat) : Prop := ∀ k < n, (l.plan k).failure = none

theorem Link.found_succ (l : Link) (k : Nat) : l.found (k + 1) = (l.received popRequest).found k := rfl

theorem Link.pops_succ (l : Link) (n : Nat) :
    l.pops (n + 1) = (l.found 0).popped 0 :: (l.received popRequest).pops n := by
  unfold pops
  rw [List.range_succ_eq_map, List.map_cons, List.map_map]
  rfl

theorem Link.Healthy.received {n : Nat} (healthy : l.Healthy (n + 1)) :
    (l.received popRequest).Healthy n :=
  fun k inside => healthy (k + 1) (Nat.succ_lt_succ inside)

theorem control_pop (served : (st.link.plan 0).failure = none) :
    control popRequest st =
      .ok ((st.link.found 0).pop 0).2 { st with link := st.link.received popRequest } := by
  unfold control
  simp only [served, Link.reply_pop]
  rfl

/-- EVENT_POP is never BUSY, and what it answers is long enough. -/
theorem readIn_pop (served : (st.link.plan 0).failure = none) :
    d.readIn .eventPop 0 (UInt16.ofNat (eventPopLen maxEventsPerPop)) eventHeaderLen st =
      .ok ((st.link.found 0).pop 0).2 { st with link := st.link.received popRequest } := by
  have long : 4 ≤ ((st.link.found 0).pop 0).2.length := by
    rw [EventState.pop_reply, List.length_append, eventHeader_length]
    omega
  have short : ¬ (UInt16.ofNat (eventPopLen maxEventsPerPop)).toNat < ((st.link.found 0).pop 0).2.length :=
    Nat.not_lt.mpr ((st.link.found 0).pop_length 0)
  have ok : readU8 ((st.link.found 0).pop 0).2 0 = Status.ok.code := rfl
  have once : ∀ again, readInOnce .eventPop 0 (UInt16.ofNat (eventPopLen maxEventsPerPop)) eventHeaderLen
      again st = .ok ((st.link.found 0).pop 0).2 { st with link := st.link.received popRequest } := by
    intro again
    have raw : rawIn .eventPop 0 (UInt16.ofNat (eventPopLen maxEventsPerPop)) st =
        .ok ((st.link.found 0).pop 0).2 { st with link := st.link.received popRequest } := by
      simp only [rawIn, bind, EStateM.bind, control_pop served, if_neg short]
      rfl
    have some_ : ¬ ((st.link.found 0).pop 0).2.length = 0 := by omega
    have whole : ¬ ((st.link.found 0).pop 0).2.length < eventHeaderLen := Nat.not_lt.mpr long
    simp only [readInOnce, bind, EStateM.bind, raw, if_neg some_, ok, if_neg whole]
    rfl
  unfold Device.readIn readInFrom
  cases d.attempts - 1 with
  | zero => exact once _
  | succ left => exact once _

/-- pop_events_once(): the oldest events, the dropped count, and whether more are left. -/
theorem popEventsOnce_found (served : (st.link.plan 0).failure = none) :
    ∃ header : EventHeader, header.dropped = (st.link.found 0).dropped ∧
      (header.pending ≠ 0 ↔ maxEventsPerPop < (st.link.found 0).queued.length) ∧
      d.popEventsOnce 0 st = .ok (header, ((st.link.found 0).popped 0).decoded)
        { st with link := st.link.received popRequest } := by
  have bound : (st.link.found 0).queued.length < 256 :=
    Nat.lt_of_le_of_lt liveFrom_length (UInt8.toNat_lt _)
  have left : UInt8.ofNat ((st.link.found 0).queued.drop (popCap 0)).length ≠ 0 ↔
      maxEventsPerPop < (st.link.found 0).queued.length := by
    have cap : popCap 0 = maxEventsPerPop := rfl
    rw [List.length_drop, cap, ne_eq, ← UInt8.toNat_inj, UInt8.toNat_ofNat']
    change ¬ _ % 256 = 0 ↔ _
    omega
  refine ⟨⟨some .ok, UInt8.ofNat ((st.link.found 0).queued.take (popCap 0)).length,
    (st.link.found 0).dropped, UInt8.ofNat ((st.link.found 0).queued.drop (popCap 0)).length⟩,
    rfl, left, ?_⟩
  simp only [Device.popEventsOnce, bind, EStateM.bind, readIn_pop served, decodeEvents_pop]
  rfl

namespace Driver

/-- One pass of the loop of poll_events(). -/
theorem pollEventsFrom_pass {rounds : Nat} {events : List PinEvent} {total : Nat}
    (served : (st.link.plan 0).failure = none) :
    (pollEventsFrom d (rounds + 1) events total).alone st =
      let p := (st.link.found 0).popped 0
      let after := { st with link := st.link.received popRequest }
      if maxEventsPerPop < (st.link.found 0).queued.length then
        (pollEventsFrom d rounds (events ++ p.decoded) (min 255 (total + p.dropped.toNat))).alone after
      else .ok (some (events ++ p.decoded, UInt8.ofNat (min 255 (total + p.dropped.toNat)))) after := by
  obtain ⟨header, dropped, pending, once⟩ := @popEventsOnce_found d st served
  have passed : (pollEventsFrom d (rounds + 1) events total).alone st =
      (if header.pending ≠ 0 then
        (pollEventsFrom d rounds (events ++ ((st.link.found 0).popped 0).decoded)
          (min 255 (total + header.dropped.toNat))).alone
      else pure (some (events ++ ((st.link.found 0).popped 0).decoded,
        UInt8.ofNat (min 255 (total + header.dropped.toNat)))))
        { st with link := st.link.received popRequest } := by
    simp only [pollEventsFrom, Program.run_bind, popEventsOnce_alone, Program.run_ite, Program.run_pure]
    simp only [bind, EStateM.bind, once]
  rw [passed, dropped]
  dsimp only
  by_cases more : maxEventsPerPop < (st.link.found 0).queued.length
  · rw [if_pos more, if_pos (pending.mpr more)]
    rfl
  · rw [if_neg more, if_neg (fun some_ => more (pending.mp some_))]
    rfl

/-- The loop returns with the first EVENT_POP that leaves nothing queued. -/
theorem pollEventsFrom_ends {k rounds : Nat} {events : List PinEvent} {total : Nat}
    (inside : k < rounds) (healthy : st.link.Healthy (k + 1))
    (more : ∀ j < k, maxEventsPerPop < (st.link.found j).queued.length)
    (last : (st.link.found k).queued.length ≤ maxEventsPerPop) :
    (pollEventsFrom d rounds events total).alone st =
      .ok (some (events ++ (st.link.pops (k + 1)).flatMap Pop.decoded,
          UInt8.ofNat (min 255 (total + dropsOf (st.link.pops (k + 1))))))
        { st with link := st.link.afterPops (k + 1) } := by
  induction k generalizing rounds events total st with
  | zero =>
    obtain ⟨rounds, rfl⟩ : ∃ n, rounds = n + 1 := ⟨rounds - 1, by omega⟩
    have one : st.link.pops 1 = [(st.link.found 0).popped 0] := rfl
    rw [pollEventsFrom_pass (healthy 0 (Nat.succ_pos 0)), one]
    dsimp only
    rw [if_neg (Nat.not_lt.mpr last)]
    simp [dropsOf, Link.afterPops]
  | succ k ih =>
    obtain ⟨rounds, rfl⟩ : ∃ n, rounds = n + 1 := ⟨rounds - 1, by omega⟩
    have later : ∀ j < k, maxEventsPerPop < ((st.link.received popRequest).found j).queued.length :=
      fun j below => more (j + 1) (Nat.succ_lt_succ below)
    have rest := @ih { st with link := st.link.received popRequest } rounds
      (events ++ ((st.link.found 0).popped 0).decoded)
      (min 255 (total + ((st.link.found 0).popped 0).dropped.toNat)) (Nat.lt_of_succ_lt_succ inside)
      healthy.received later last
    rw [pollEventsFrom_pass (healthy 0 (Nat.succ_pos _))]
    dsimp only
    rw [if_pos (more 0 (Nat.succ_pos k)), rest, st.link.pops_succ]
    have drops : min 255 (min 255 (total + ((st.link.found 0).popped 0).dropped.toNat) +
        dropsOf ((st.link.received popRequest).pops (k + 1))) =
        min 255 (total + dropsOf ((st.link.found 0).popped 0 ::
          (st.link.received popRequest).pops (k + 1))) := by
      simp only [dropsOf, List.map_cons, List.sum_cons]
      omega
    rw [drops, List.flatMap_cons, List.append_assoc]
    rfl

/-- It wants another pass while every EVENT_POP leaves some queued. -/
theorem pollEventsFrom_goes_on {rounds : Nat} {events : List PinEvent} {total : Nat}
    (healthy : st.link.Healthy rounds)
    (more : ∀ j < rounds, maxEventsPerPop < (st.link.found j).queued.length) :
    (pollEventsFrom d rounds events total).alone st =
      .ok none { st with link := st.link.afterPops rounds } := by
  induction rounds generalizing events total st with
  | zero => rfl
  | succ rounds ih =>
    rw [pollEventsFrom_pass (healthy 0 (Nat.succ_pos rounds))]
    dsimp only
    rw [if_pos (more 0 (Nat.succ_pos rounds))]
    exact ih healthy.received (fun j below => more (j + 1) (Nat.succ_lt_succ below))

/-- poll_events() of a board with events, while no Stream runs. -/
theorem pollEvents_from (supported : hasFlag d.info.flags flagEvents = true)
    (idle : st.streaming = false) (rounds : Nat) :
    (pollEvents d rounds).alone st = (pollEventsFrom d rounds [] 0).alone st := by
  have free : Device.checkNotStreaming "poll_events" st = .ok () st := by
    change ArduinoDriver.refuseIf (st.streaming = true) _ st = .ok () st
    rw [idle]
    rfl
  have known : d.requireEvents "poll_events" st = .ok () st := by
    simp only [Device.requireEvents, ArduinoDriver.refuseIf, supported]
    rfl
  simp only [pollEvents, Program.run_bind, checkNotStreaming_alone, requireEvents_alone]
  simp only [bind, EStateM.bind, free, known]

end Driver

/-- poll() has accepted an edge and is still about to queue it, or to count it as dropped. -/
def Pc.pushing : Pc → Bool
  | .event pc => !pc.scanning
  | _ => false

/-- A step with which no edge is accepted, and no request asks for the events. -/
def keepsEvents (b : Board) (m : Machine) : Act → Prop
  | .loop _ => m.pc.pushing = false
  | .setup env s => (s.obs (handleSetup b env m.dev s).2).eventRequest = none
  | .disconnect => True

instance (b : Board) (m : Machine) : (act : Act) → Decidable (keepsEvents b m act)
  | .loop _ => inferInstanceAs (Decidable (m.pc.pushing = false))
  | .setup env s =>
    inferInstanceAs (Decidable ((s.obs (handleSetup b env m.dev s).2).eventRequest = none))
  | .disconnect => inferInstanceAs (Decidable True)

variable {b : Board} {m : Machine}

theorem keepsEvents_step {act : Act} (keeps : keepsEvents b m act) :
    (step b m act).dev.event.queued = m.dev.event.queued ∧
      (step b m act).dev.event.dropped = m.dev.event.dropped := by
  cases act with
  | loop env =>
    have away : ∀ pc, m.pc = .event pc → pc.scanning = true := by
      intro pc here
      change m.pc.pushing = false at keeps
      rw [here] at keeps
      exact Bool.not_eq_eq_eq_not.mp keeps
    obtain ⟨_, news, quiet⟩ := loopStep_quiet b env m away
    exact ⟨quiet.queued, quiet.dropped⟩
  | setup env s =>
    have event := (handleSetup_served b env m.dev s).event
    change (s.obs (handleSetup b env m.dev s).2).eventRequest = none at keeps
    rw [keeps] at event
    change (handleSetup b env m.dev s).1.event.queued = _ ∧ (handleSetup b env m.dev s).1.event.dropped = _
    rw [event]
    exact ⟨rfl, rfl⟩
  | disconnect => exact ⟨rfl, rfl⟩

theorem keepsEvents_run {acts : List Act} (keeps : Lib.Follows (step b) (keepsEvents b) m acts) :
    (run b m acts).dev.event.queued = m.dev.event.queued ∧
      (run b m acts).dev.event.dropped = m.dev.event.dropped := by
  induction acts generalizing m with
  | nil => exact ⟨rfl, rfl⟩
  | cons act acts ih =>
    obtain ⟨queued, dropped⟩ := keepsEvents_step keeps.1
    obtain ⟨queued', dropped'⟩ := ih keeps.2
    exact ⟨queued'.trans queued, dropped'.trans dropped⟩

/-- Before each of the next `n` EVENT_POPs the device takes allowed steps only. -/
def Link.Throughout (allowed : Board → Machine → Act → Prop) : Nat → Link → Prop
  | 0, _ => True
  | n + 1, l => Lib.Follows (step l.board) (allowed l.board) l.machine (l.plan 0).before ∧
      Throughout allowed n (l.received popRequest)

/-- No edge is accepted around the first `n` EVENT_POPs of the call. -/
def Link.Undisturbed (l : Link) (n : Nat) : Prop := l.Throughout keepsEvents n

theorem Link.afterPops_succ (l : Link) (k : Nat) :
    l.afterPops (k + 1) = (l.afterPops k).received popRequest := by
  induction k generalizing l with
  | zero => rfl
  | succ k ih => exact ih (l.received popRequest)

theorem Link.found_zero (l : Link) :
    l.found 0 = (run l.board l.machine (l.plan 0).before).dev.event :=
  congrArg (fun m => m.dev.event) l.idled_machine

theorem Link.received_event (l : Link) :
    (l.received popRequest).machine.dev.event = ((l.found 0).pop 0).1 := by
  rw [Link.received_machine]
  change (handleSetup l.board (l.plan 0).env l.idled.machine.dev popRequest).1.event = _
  rw [handleSetup_inp]
  rfl

/-- Each EVENT_POP finds what the one before has left. -/
theorem Link.Undisturbed.found {k n : Nat} (h : l.Undisturbed n) (inside : k < n) :
    (l.found k).queued = l.machine.dev.event.queued.drop (maxEventsPerPop * k) ∧
      (l.found k).dropped = if k = 0 then l.machine.dev.event.dropped else 0 := by
  induction k generalizing l n with
  | zero =>
    obtain ⟨n, rfl⟩ : ∃ n', n = n' + 1 := ⟨n - 1, by omega⟩
    rw [l.found_zero]
    exact keepsEvents_run h.1
  | succ k ih =>
    obtain ⟨n, rfl⟩ : ∃ n', n = n' + 1 := ⟨n - 1, by omega⟩
    obtain ⟨queued, dropped⟩ := ih h.2 (Nat.lt_of_succ_lt_succ inside)
    rw [l.found_succ, queued, dropped, l.received_event, EventState.pop_queued, l.found_zero,
      (keepsEvents_run h.1).1, List.drop_drop]
    have cap : popCap 0 = maxEventsPerPop := rfl
    refine ⟨by rw [cap, Nat.mul_succ, Nat.add_comm], ?_⟩
    rw [if_neg (Nat.succ_ne_zero k)]
    split <;> rfl

/-- A list cut into batches. -/
theorem flatMap_batches {α : Type} (items : List α) (size n : Nat) :
    (List.range n).flatMap (fun k => (items.drop (size * k)).take size) = items.take (size * n) := by
  induction n with
  | zero => rw [Nat.mul_zero, List.take_zero, List.range_zero, List.flatMap_nil]
  | succ n ih =>
    rw [List.range_succ, List.flatMap_append, ih, List.flatMap_singleton, Nat.mul_succ, List.take_add]

/-- The EVENT_POPs of an undisturbed call, together. -/
theorem Link.Undisturbed.pops {n : Nat} (h : l.Undisturbed (n + 1)) :
    (l.pops (n + 1)).flatMap Pop.decoded =
        (l.machine.dev.event.queued.take (maxEventsPerPop * (n + 1))).map UsbioEvent.decoded ∧
      dropsOf (l.pops (n + 1)) = l.machine.dev.event.dropped.toNat := by
  constructor
  · rw [← flatMap_batches, List.map_flatMap, Link.pops, List.flatMap_map]
    refine List.flatMap_congr (fun k inside => ?_)
    rw [Pop.decoded, EventState.popped, (h.found (List.mem_range.mp inside)).1]
    rfl
  · have later : ∀ k ∈ List.range n, (((l.received popRequest).found k).popped 0).dropped.toNat = 0 := by
      intro k inside
      have found := (h.found (Nat.succ_lt_succ (List.mem_range.mp inside))).2
      rw [if_neg (Nat.succ_ne_zero k)] at found
      exact congrArg UInt8.toNat found
    have first := (h.found (Nat.succ_pos n)).2
    rw [if_pos rfl] at first
    rw [l.pops_succ, dropsOf, List.map_cons, List.sum_cons, Link.pops, List.map_map]
    have zeros : ((List.range n).map ((·.dropped.toNat) ∘
        fun k => ((l.received popRequest).found k).popped 0)).sum = 0 :=
      List.sum_eq_zero (fun x inside => by
        obtain ⟨k, below, rfl⟩ := List.mem_map.mp inside
        exact later k below)
    rw [zeros, Nat.add_zero]
    exact congrArg UInt8.toNat first

/-- With no edge accepted and no failure during the call, poll_events() returns the queued
events, oldest first, and the dropped count, with an EVENT_POP for every seven events and at
least one, and leaves nothing queued and nothing counted as dropped. -/
theorem poll_events_drains (d : Device) (st : HostState)
    (reached : Reachable st.link.board st.link.machine)
    (supported : hasFlag d.info.flags flagEvents = true) (idle : st.streaming = false) :
    let e := st.link.machine.dev.event
    let transfers := max 1 ((e.queued.length + 6) / 7)
    let drained := (st.link.afterPops transfers).machine.dev.event
    st.link.Healthy transfers → st.link.Undisturbed transfers →
    (∀ rounds, transfers ≤ rounds → (Driver.pollEvents d rounds).alone st =
      .ok (some (e.queued.map UsbioEvent.decoded, e.dropped))
        { st with link := st.link.afterPops transfers }) ∧
    (∀ rounds, rounds < transfers → (Driver.pollEvents d rounds).alone st =
      .ok none { st with link := st.link.afterPops rounds }) ∧
    (∀ ev ∈ e.queued, ev.decoded.pin.toNat = ev.pin) ∧
    drained.queued = [] ∧ drained.countQueued = 0 ∧ drained.dropped = 0 := by
  intro e transfers drained healthy undisturbed
  obtain ⟨k, count⟩ : ∃ k, transfers = k + 1 := ⟨transfers - 1, by omega⟩
  rw [count] at healthy undisturbed
  have size : maxEventsPerPop = 7 := rfl
  have enough : e.queued.length ≤ 7 * (k + 1) := by omega
  have more : ∀ j < k, maxEventsPerPop < (st.link.found j).queued.length := by
    intro j below
    rw [(undisturbed.found (Nat.lt_succ_of_lt below)).1, List.length_drop, size]
    change 7 < e.queued.length - 7 * j
    omega
  have last : (st.link.found k).queued.length ≤ maxEventsPerPop := by
    rw [(undisturbed.found (Nat.lt_succ_self k)).1, List.length_drop, size]
    change e.queued.length - 7 * k ≤ 7
    omega
  obtain ⟨events, drops⟩ := undisturbed.pops
  have all : e.queued.take (maxEventsPerPop * (k + 1)) = e.queued := List.take_of_length_le enough
  have left : drained.queued = [] := by
    change ((st.link.afterPops transfers).machine.dev.event).queued = []
    rw [count, Link.afterPops_succ, Link.received_event, EventState.pop_queued]
    exact List.drop_eq_nil_iff.mpr last
  refine ⟨?_, ?_, ?_, left, ?_, ?_⟩
  · intro rounds many
    rw [Driver.pollEvents_from supported idle,
      Driver.pollEventsFrom_ends (by omega) healthy more last, events, drops, all, count]
    have exact_ : min 255 (0 + e.dropped.toNat) = e.dropped.toNat := by
      have := e.dropped.toNat_lt
      omega
    change EStateM.Result.ok (some (_, UInt8.ofNat (min 255 (0 + e.dropped.toNat)))) _ = _
    rw [exact_, UInt8.ofNat_toNat, List.nil_append]
  · intro rounds few
    rw [Driver.pollEvents_from supported idle]
    exact Driver.pollEventsFrom_goes_on (fun j below => healthy j (by omega))
      (fun j below => more j (by omega))
  · intro ev queued
    have known : ev.pin < st.link.machine.dev.nPins := (reach_known reached).state.queued queued
    have few : st.link.machine.dev.nPins ≤ 128 :=
      (reach_begun reached).nPins ▸ st.link.board.pinCount_le
    exact UInt8.toNat_ofNat_of_lt' (Nat.lt_of_lt_of_le known (few.trans (by decide)))
  · rw [EventState.countQueued, countFrom_queue rfl]
    change UInt8.ofNat drained.queued.length = 0
    rw [left]
    rfl
  · change ((st.link.afterPops transfers).machine.dev.event).dropped = 0
    rw [count, Link.afterPops_succ, Link.received_event]
    rfl

/-- Eight edges are queued, and the first six transfers succeed. -/
def eventfulHost : HostState := ⟨eventfulLink 6, [], false⟩

theorem eventfulHost_reached : Reachable onePinBoard eventfulHost.link.machine :=
  Lib.Reach.refl.foldl (fun _ _ => trivial) _

theorem eventfulHost_healthy : eventfulHost.link.Healthy 2 := by
  intro k below
  have other : k ≠ 6 := by omega
  exact if_neg other

theorem poll_events_drains_eight :
    let e := eventfulHost.link.machine.dev.event
    let transfers := max 1 ((e.queued.length + 6) / 7)
    let drained := (eventfulHost.link.afterPops transfers).machine.dev.event
    (∀ rounds, transfers ≤ rounds → (Driver.pollEvents eventfulDevice rounds).alone eventfulHost =
      .ok (some (e.queued.map UsbioEvent.decoded, e.dropped))
        { eventfulHost with link := eventfulHost.link.afterPops transfers }) ∧
    (∀ rounds, rounds < transfers → (Driver.pollEvents eventfulDevice rounds).alone eventfulHost =
      .ok none { eventfulHost with link := eventfulHost.link.afterPops rounds }) ∧
    (∀ ev ∈ e.queued, ev.decoded.pin.toNat = ev.pin) ∧
    drained.queued = [] ∧ drained.countQueued = 0 ∧ drained.dropped = 0 := by
  have two : max 1 ((eventfulHost.link.machine.dev.event.queued.length + 6) / 7) = 2 := by
    decide +kernel
  exact poll_events_drains eventfulDevice eventfulHost eventfulHost_reached (by decide +kernel) rfl
    (by rw [two]; exact eventfulHost_healthy) (by rw [two]; exact ⟨trivial, trivial, trivial⟩)

/-- The edges the ring has had room for when EVENT_POP number `k` of the call arrives. -/
def Link.arrivals (l : Link) (k : Nat) : Nat := (l.afterPops k).idled.machine.log.arrivals

theorem Link.received_arrivals (l : Link) :
    (l.received popRequest).machine.log.arrivals = l.arrivals 0 := by
  rw [Link.received_machine]
  exact obs_arrivals popRequest _

theorem Link.received_arriving (h : l.machine.Arriving l.board) :
    (l.received popRequest).machine.Arriving l.board := by
  rw [Link.received_machine, Link.idled_machine]
  exact step_arriving (run_arriving h _) _

theorem Link.first_arrivals (h : l.machine.Arriving l.board)
    (only : Lib.Follows (step l.board) (edgesOnly l.board) l.machine (l.plan 0).before) :
    (l.found 0).queued.length + l.machine.log.arrivals =
      l.machine.dev.event.queued.length + l.arrivals 0 := by
  have machine : l.arrivals 0 = (run l.board l.machine (l.plan 0).before).log.arrivals :=
    congrArg (fun m => m.log.arrivals) l.idled_machine
  rw [l.found_zero, machine]
  exact run_arrivals h only

/-- While every EVENT_POP takes a full batch, the queue is what was there and what has come,
less seven a transfer. -/
theorem Link.found_arrivals {k n : Nat} (h : l.machine.Arriving l.board)
    (only : l.Throughout edgesOnly n) (inside : k < n)
    (full : ∀ j < k, maxEventsPerPop < (l.found j).queued.length) :
    (l.found k).queued.length + 7 * k + l.machine.log.arrivals =
      l.machine.dev.event.queued.length + l.arrivals k := by
  induction k generalizing l n with
  | zero =>
    obtain ⟨n, rfl⟩ : ∃ n', n = n' + 1 := ⟨n - 1, by omega⟩
    exact l.first_arrivals h only.1
  | succ k ih =>
    obtain ⟨n, rfl⟩ : ∃ n', n = n' + 1 := ⟨n - 1, by omega⟩
    have first := l.first_arrivals h only.1
    have batch := full 0 (Nat.succ_pos k)
    have left : (l.received popRequest).machine.dev.event.queued.length = (l.found 0).queued.length - 7 := by
      rw [l.received_event, EventState.pop_queued, List.length_drop]
      rfl
    have rest := ih (l.received_arriving h) only.2 (Nat.lt_of_succ_lt_succ inside)
      (fun j below => full (j + 1) (Nat.succ_lt_succ below))
    rw [left, l.received_arrivals] at rest
    have size : maxEventsPerPop = 7 := rfl
    change (l.found (k + 1)).queued.length + 7 * k + l.arrivals 0 =
      (l.found 0).queued.length - 7 + l.arrivals (k + 1) at rest
    omega

/-- poll_events() ends within `rounds` EVENT_POPs exactly when the edges that have come fall
behind: up to one of these transfers, with those queued at the start, they are at most seven
a transfer. -/
theorem poll_events_ends_iff (d : Device) (st : HostState) (rounds : Nat)
    (reached : Reachable st.link.board st.link.machine)
    (supported : hasFlag d.info.flags flagEvents = true) (idle : st.streaming = false)
    (healthy : st.link.Healthy rounds) (only : st.link.Throughout edgesOnly rounds) :
    (∃ result st', (Driver.pollEvents d rounds).alone st = .ok (some result) st') ↔
      ∃ k < rounds, st.link.machine.dev.event.queued.length + st.link.arrivals k ≤
        7 * (k + 1) + st.link.machine.log.arrivals := by
  have size : maxEventsPerPop = 7 := rfl
  have behind : ∀ k < rounds, (∀ j < k, maxEventsPerPop < (st.link.found j).queued.length) →
      ((st.link.found k).queued.length ≤ maxEventsPerPop ↔
        st.link.machine.dev.event.queued.length + st.link.arrivals k ≤
          7 * (k + 1) + st.link.machine.log.arrivals) := by
    intro k inside full
    have sum := Link.found_arrivals reached.arriving only inside full
    omega
  rw [Driver.pollEvents_from supported idle]
  by_cases ends : ∃ k < rounds, (st.link.found k).queued.length ≤ maxEventsPerPop
  · -- the first such transfer is the last of the call
    obtain ⟨inside, last⟩ := Nat.find_spec ends
    have full : ∀ j < Nat.find ends, maxEventsPerPop < (st.link.found j).queued.length := by
      intro j below
      by_contra few
      exact Nat.find_min ends below ⟨by omega, Nat.le_of_not_lt few⟩
    refine iff_of_true ⟨_, _, Driver.pollEventsFrom_ends inside (fun j below => healthy j (by omega)) full last⟩ ?_
    exact ⟨_, inside, (behind _ inside full).mp last⟩
  · have full : ∀ j < rounds, maxEventsPerPop < (st.link.found j).queued.length := by
      intro j below
      by_contra few
      exact ends ⟨j, below, Nat.le_of_not_lt few⟩
    rw [Driver.pollEventsFrom_goes_on healthy full]
    refine iff_of_false ?_ ?_
    · rintro ⟨result, st', same⟩
      cases same
    · rintro ⟨k, inside, few⟩
      have last := (behind k inside (fun j below => full j (by omega))).mpr few
      exact absurd last (Nat.not_le.mpr (full k inside))

/-- Eight edges at the start and none after that: two transfers. -/
theorem poll_events_ends_iff_eight :
    (∃ result st', (Driver.pollEvents eventfulDevice 2).alone eventfulHost = .ok (some result) st') ↔
      ∃ k < 2, eventfulHost.link.machine.dev.event.queued.length + eventfulHost.link.arrivals k ≤
        7 * (k + 1) + eventfulHost.link.machine.log.arrivals :=
  poll_events_ends_iff eventfulDevice eventfulHost 2 eventfulHost_reached (by decide +kernel) rfl
    eventfulHost_healthy ⟨trivial, trivial, trivial⟩

/-- EVENT_POP only takes what is queued. -/
theorem Toggling.pop (h : Toggling m) (env : Env) :
    Toggling (step b m (.setup env popRequest)) := by
  obtain ⟨log, popped⟩ : ∃ log, step b m (.setup env popRequest) =
      ⟨{ m.dev with event := (m.dev.event.pop 0).1 }, m.pc, log⟩ := by
    refine ⟨popRequest.obs (handleSetup b env m.dev popRequest).2 :: m.log, ?_⟩
    change (⟨(handleSetup b env m.dev popRequest).1, m.pc, _⟩ : Machine) = _
    rw [handleSetup_inp]
    rfl
  rw [popped]
  constructor
  · exact h.idle
  · exact h.pins
  · exact h.served
  · exact h.drained
  · exact h.input
  · exact h.cursor
  · exact h.active
  · exact h.pin
  · exact h.edge
  · exact h.debounce
  · exact h.expired
  · exact h.seen
  · exact h.level
  · exact h.alone
  · exact h.live

/-- A transfer with nothing before it, which succeeds. -/
def calmTransfer : Transfer := ⟨[], stillEnv .sent, none, "STALL"⟩

/-- First one transfer, then those of `rest`. -/
def planAfter (first : Transfer) (rest : Nat → Transfer) : Nat → Transfer
  | 0 => first
  | n + 1 => rest n

theorem Link.throughout_calm {allowed : Board → Machine → Act → Prop} (n : Nat) (b : Board)
    (start : Machine) (acts : List Act) :
    Link.Throughout allowed n ⟨b, start, acts, fun _ => calmTransfer⟩ := by
  induction n generalizing acts with
  | zero => trivial
  | succ n ih => exact ⟨trivial, ih _⟩

/-- Steps of loop() make no request about the events. -/
theorem follows_edgesOnly {acts : List Act} (only : ∀ act ∈ acts, ∃ env, act = .loop env) :
    Lib.Follows (step b) (edgesOnly b) m acts := by
  induction acts generalizing m with
  | nil => trivial
  | cons act acts ih =>
    obtain ⟨env, rfl⟩ := only act List.mem_cons_self
    exact ⟨trivial, ih (fun act inside => only act (List.mem_cons_of_mem _ inside))⟩

/-- The pin can toggle so fast that each of the next `n` transfers finds eight edges. -/
theorem Toggling.overflows (bare : b.hasStreamTransport = false) (n : Nat) {start : Machine}
    {acts : List Act} (h : Toggling (run b start acts))
    (few : (run b start acts).dev.event.queued.length ≤ 8) :
    ∃ plan : Nat → Transfer, (∀ k, (plan k).failure = none) ∧
      (∀ k, Link.Throughout edgesOnly k ⟨b, start, acts, plan⟩) ∧
      ∀ j < n, ((⟨b, start, acts, plan⟩ : Link).found j).queued.length = 8 := by
  induction n generalizing acts with
  | zero =>
    refine ⟨fun _ => calmTransfer, fun _ => rfl, fun k => Link.throughout_calm k b start acts, ?_⟩
    intro j none_
    exact absurd none_ (Nat.not_lt_zero j)
  | succ n ih =>
    obtain ⟨polls, only, polled, eight⟩ := h.polls bare
      (show _ + (8 - (run b start acts).dev.event.queued.length) ≤ 32 by omega)
    have popped := @Toggling.pop b _ polled (stillEnv .sent)
    have joined : run b start (acts ++ polls ++ [.setup (stillEnv .sent) popRequest]) =
        step b (run b (run b start acts) polls) (.setup (stillEnv .sent) popRequest) := by
      rw [run_append, run_append]
      rfl
    have left : (step b (run b (run b start acts) polls)
        (.setup (stillEnv .sent) popRequest)).dev.event.queued.length ≤ 8 := by
      change (handleSetup b (stillEnv .sent)
        (run b (run b start acts) polls).dev popRequest).1.event.queued.length ≤ 8
      rw [handleSetup_inp]
      change ((run b (run b start acts) polls).dev.event.pop 0).1.queued.length ≤ 8
      rw [EventState.pop_queued, List.length_drop]
      omega
    rw [← joined] at popped left
    obtain ⟨rest, healthy, quiet, full⟩ := ih popped left
    refine ⟨planAfter ⟨polls, stillEnv .sent, none, "STALL"⟩ rest, ?_, ?_, ?_⟩
    · intro k
      cases k with
      | zero => rfl
      | succ k => exact healthy k
    · intro k
      cases k with
      | zero => trivial
      | succ k => exact ⟨follows_edgesOnly only, quiet k⟩
    · intro j inside
      cases j with
      | zero =>
        rw [Link.found_zero]
        change (run b (run b start acts) polls).dev.event.queued.length = 8
        omega
      | succ j => exact full j (Nat.lt_of_succ_lt_succ inside)

/-- A one-pin board on a transport without Streams. -/
def bareBoard : Board :=
  { onePinBoard with
    hasStreamTransport := false
    transportFlags := 0
    transportFlags_eq := rfl }

/-- The pin is watched for any change, and one poll has passed. -/
def bareActs : List Act :=
  [request .pinMode 0 0, request .eventConfig 3 0] ++ List.replicate 28 (.loop (stillEnv .sent))

theorem bareActs_toggling : Toggling (run bareBoard (boot bareBoard) bareActs) := by
  constructor <;> decide +kernel

/-- No number of transfers is enough for every pattern of edges. -/
theorem poll_events_never_ends :
    ¬ ∃ rounds, ∀ (d : Device) (st : HostState),
      Reachable st.link.board st.link.machine → hasFlag d.info.flags flagEvents = true →
      st.streaming = false → (∀ n, st.link.Healthy n) → (∀ n, st.link.Throughout edgesOnly n) →
      ∃ result st', (Driver.pollEvents d rounds).alone st = .ok (some result) st' := by
  rintro ⟨rounds, claim⟩
  obtain ⟨plan, healthy, only, full⟩ := bareActs_toggling.overflows rfl rounds (by decide +kernel)
  have reached : Reachable bareBoard (run bareBoard (boot bareBoard) bareActs) :=
    Lib.Reach.refl.foldl (fun _ _ => trivial) _
  have well : ∀ n, (⟨bareBoard, boot bareBoard, bareActs, plan⟩ : Link).Healthy n :=
    fun n k _ => healthy k
  obtain ⟨result, st', ends⟩ := claim (bareBoard.device ⟨1, 1, 0⟩)
    ⟨⟨bareBoard, boot bareBoard, bareActs, plan⟩, [], false⟩ reached (by decide +kernel) rfl well only
  rw [Driver.pollEvents_from (by decide +kernel) rfl, Driver.pollEventsFrom_goes_on (well rounds)
    (fun j inside => (full j inside).symm ▸ by simp)] at ends
  cases ends

end ArduinoDriver
