import ArduinoDriver.Host.Construct
import ArduinoDriver.Host.Process
import ArduinoDriver.Host.Reading

namespace ArduinoDriver

open Lib (Program System Reach Conversation Move)

/-- What one EVENT_POP takes from the device: events of the ring, and the count of the drops. -/
structure Pop where
  events : List UsbioEvent
  dropped : UInt8
  deriving DecidableEq

def EventState.popped (e : EventState) (index : UInt16) : Pop := ⟨e.queued.take (popCap index), e.dropped⟩

/-- It takes no event and tells of no drop. -/
def Pop.Empty (p : Pop) : Prop := p.events = [] ∧ p.dropped = 0

def Pop.decoded (p : Pop) : List PinEvent := p.events.map UsbioEvent.decoded

/-- The drops some pops tell of. -/
def dropsOf (pops : List Pop) : Nat := (pops.map (·.dropped.toNat)).sum

/-- What poll_events() makes of its EVENT_POPs. -/
def pollResult (pops : List Pop) : List PinEvent × UInt8 :=
  (pops.flatMap Pop.decoded, UInt8.ofNat (min 255 (dropsOf pops)))

/-- A poll_events() that has returned or thrown, with what its EVENT_POPs have taken. -/
structure PollCall where
  pops : List Pop
  outcome : Except Error (List PinEvent × UInt8)

def PollCall.returned (c : PollCall) : List PinEvent :=
  match c.outcome with
  | .ok (events, _) => events
  | .error _ => []

def PollCall.reported (c : PollCall) : UInt8 :=
  match c.outcome with
  | .ok (_, dropped) => dropped
  | .error _ => 0

/-- It has returned all it took and reported all drops it was told of, or has thrown with
nothing in its hands. -/
def PollCall.Complete (c : PollCall) : Prop :=
  match c.outcome with
  | .ok result => result = pollResult c.pops
  | .error _ => ∀ p ∈ c.pops, p.Empty

structure EventWatcherStats where
  eventsDelivered : UInt64
  dropped : UInt64
  deriving DecidableEq

/-- An EventWatcher's worker on its Device: what EVENT_POP has taken for it, the pops of the
poll_events() it is in, those it has made, and what the callback was given, oldest first. -/
structure Watcher where
  process : Process
  taken : List Pop
  running : Option (List Pop)
  calls : List PollCall
  delivered : List PinEvent
  stats : EventWatcherStats

def Watcher.opened (process : Process) : Watcher := ⟨process, [], none, [], [], ⟨0, 0⟩⟩

/-- What the call that runs has in its hands. -/
def Watcher.inHand (w : Watcher) : List Pop := w.running.getD []

/-- What a transfer that succeeds takes from the device. -/
def Watcher.takes (w : Watcher) (s : SetupPacket) : List Pop :=
  if (w.process.host.link.plan 0).failure.isNone && s.isIn && Request.ofCode? s.bRequest == some .eventPop then
    [w.process.host.link.idled.machine.dev.event.popped s.index]
  else []

/-- The loop of worker_main() over the events. -/
def Watcher.deliver (w : Watcher) (e : PinEvent) : Watcher :=
  { w with
    delivered := w.delivered ++ [e]
    stats := { w.stats with eventsDelivered := w.stats.eventsDelivered + 1 } }

/-- worker_main(), behind its poll_events(). -/
def Watcher.work (w : Watcher) : Except Error (List PinEvent × UInt8) → Watcher
  | .ok (events, dropped) =>
    let w := if 0 < dropped then
        { w with stats := { w.stats with dropped := w.stats.dropped + dropped.toUInt64 } }
      else w
    events.foldl Watcher.deliver w
  | .error _ => w

def Watcher.act (_ : Nat) (_ : Nat) : (op : DriverOp) → Watcher → Option (op.Reply × Watcher)
  | .transfer s, w =>
    let r := HostState.perform (.transfer s) w.process.host
    some (r.1, { w with
      process := { w.process with host := r.2 }
      taken := w.taken ++ w.takes s
      running := w.running.map (· ++ w.takes s) })
  | op, w => (Process.perform op w.process).map fun (r, process) => (r, { w with process := process })

/-- The call has ended; `none` stands for one that is still in its loop. -/
def Watcher.leave (_ : Nat) (_ : Nat) (outcome : Except Error (Option (List PinEvent × UInt8))) (w : Watcher) :
    Watcher :=
  match outcome with
  | .ok none => w
  | .ok (some result) =>
    ({ w with running := none, calls := w.calls ++ [⟨w.inHand, .ok result⟩] } : Watcher).work (.ok result)
  | .error e => ({ w with running := none, calls := w.calls ++ [⟨w.inHand, .error e⟩] } : Watcher).work (.error e)

/-- poll_events() calls one after the other; a call is named by the bound on its passes. Other
threads start and end Streams in between. -/
def watching (d : Device) : System DriverOp.Reply Error (Option (List PinEvent × UInt8)) Nat Watcher Bool where
  body := Driver.pollEvents d
  enter _ _ w := if w.running.isSome then none else some { w with running := some [] }
  act := Watcher.act
  leave := Watcher.leave
  happen streaming w :=
    { w with process := { w.process with host := { w.process.host with streaming := streaming } } }

/-- No transfer fails while the call has something in its hands. -/
def Watcher.lucky (_ : Nat) (_ : Nat) (op : DriverOp) (w : Watcher) : Prop :=
  match op with
  | .transfer _ => (w.process.host.link.plan 0).failure ≠ none → ∀ p ∈ w.inHand, p.Empty
  | _ => True

/-- Every pop belongs to one call, each call is complete, and the callback was given all that
was taken, once and in order, up to what the call that runs has in its hands. -/
structure Watcher.LosesNothing (w : Watcher) : Prop where
  taken : w.taken = w.calls.flatMap PollCall.pops ++ w.inHand
  complete : ∀ c ∈ w.calls, c.Complete
  returned : w.delivered = w.calls.flatMap PollCall.returned
  delivered : w.delivered ++ w.inHand.flatMap Pop.decoded = w.taken.flatMap Pop.decoded
  counted : w.stats = ⟨UInt64.ofNat w.delivered.length, UInt64.ofNat (w.calls.map (·.reported.toNat)).sum⟩

abbrev popRequest : SetupPacket := .inp .eventPop 0 (UInt16.ofNat (eventPopLen maxEventsPerPop))

/-- What poll_events() asks, and how it is answered; the state of the conversation is what it
has in its hands. -/
def polling : Conversation DriverOp.Reply (List Pop) where
  may _ op := match op with
    | .transfer s => s = popRequest
    | .access .. | .loadStreaming => True
    | _ => False
  answers pops op r pops' := match op, r with
    | .transfer _, .ok reply => ∃ e : EventState, reply = (e.pop 0).2 ∧ pops' = pops ++ [e.popped 0]
    | .transfer _, .error _ => pops' = pops ∧ ∀ p ∈ pops, p.Empty
    | _, _ => pops' = pops

theorem dropsOf_append (pops : List Pop) (p : Pop) : dropsOf (pops ++ [p]) = dropsOf pops + p.dropped.toNat := by
  simp [dropsOf]

namespace Driver

variable {d : Device} {pops : List Pop} {α : Type} {p : Driver α}

theorem polling_value {a : α} (E : Error → List Pop → Prop) (h : p.Uses Accesses) (alone : p.alone = pure a) :
    p.Keeps polling (fun a' pops' => pops' = pops ∧ a' = a) E pops :=
  computes h alone (fun _ _ => trivial) (fun _ _ _ _ same => same)

theorem polling_passes {bad : Prop} [Decidable bad] {e : Error} {E : Error → List Pop → Prop} (good : ¬ bad) :
    (refuseIf bad e).Keeps polling (fun _ pops' => pops' = pops) E pops :=
  Program.Keeps.ite (fun is => absurd is good) (fun _ => .pure rfl)

/-- A refusal before the first EVENT_POP loses nothing. -/
theorem polling_refuseIf (bad : Prop) [Decidable bad] (e : Error) :
    (refuseIf bad e).Keeps polling (fun _ pops' => pops' = []) (fun _ pops => ∀ p ∈ pops, p.Empty) [] := by
  refine Program.Keeps.ite (fun _ => .throw ?_) (fun _ => .pure rfl)
  intro p inside
  cases inside

/-- One EVENT_POP: the bytes of what it has taken, or nothing in hand. -/
theorem rawIn_pops :
    (rawIn .eventPop 0 (UInt16.ofNat (eventPopLen maxEventsPerPop))).Keeps polling
      (fun reply pops' => ∃ e : EventState, reply = (e.pop 0).2 ∧ pops' = pops ++ [e.popped 0])
      (fun _ pops => ∀ p ∈ pops, p.Empty) pops := by
  refine Program.Keeps.bind (Q := fun reply pops' =>
    ∃ e : EventState, reply = (e.pop 0).2 ∧ pops' = pops ++ [e.popped 0]) ?_ (fun reply pops' said => ?_)
  · refine ⟨rfl, fun r pops' answered => ?_⟩
    cases r with
    | ok reply => exact answered
    | error e =>
      obtain ⟨rfl, empty⟩ := answered
      exact empty
  · obtain ⟨e, rfl, more⟩ := said
    refine Program.Keeps.ite (fun long => ?_) (fun _ => .pure ⟨e, rfl, more⟩)
    have short := e.pop_length 0
    exact absurd long (Nat.not_lt.mpr short)

/-- EVENT_POP is never BUSY: the first attempt of read_in() is the only one. -/
theorem readIn_pops (d : Device) :
    (readIn d .eventPop 0 (UInt16.ofNat (eventPopLen maxEventsPerPop)) eventHeaderLen).Keeps polling
      (fun reply pops' => ∃ e : EventState, reply = (e.pop 0).2 ∧ pops' = pops ++ [e.popped 0])
      (fun _ pops => ∀ p ∈ pops, p.Empty) pops := by
  have once : ∀ again, (readInOnce .eventPop 0 (UInt16.ofNat (eventPopLen maxEventsPerPop)) eventHeaderLen
      again).Keeps polling
        (fun reply pops' => ∃ e : EventState, reply = (e.pop 0).2 ∧ pops' = pops ++ [e.popped 0])
        (fun _ pops => ∀ p ∈ pops, p.Empty) pops := by
    intro again
    refine Program.Keeps.bind rawIn_pops (fun reply pops' said => ?_)
    obtain ⟨e, rfl, more⟩ := said
    have header : (e.pop 0).2.length = 4 + _ := List.length_append ..
    refine Program.Keeps.ite (fun none_ => absurd none_ (by omega)) (fun _ => ?_)
    refine Program.Keeps.bind (polling_value _ (accesses_byteAt _ 0) (byteAt_alone _ 0)) (fun status _ same => ?_)
    obtain ⟨rfl, rfl⟩ := same
    have ok : readU8 (e.pop 0).2 0 = Status.ok.code := rfl
    rw [ok]
    refine Program.Keeps.ite (fun busy => absurd busy (by decide)) (fun _ => ?_)
    refine Program.Keeps.ite (fun other => absurd rfl other) (fun _ => ?_)
    refine Program.Keeps.ite (fun short => absurd short ?_) (fun _ => .pure ⟨e, rfl, more⟩)
    change ¬ (e.pop 0).2.length < 4
    omega
  unfold readIn
  cases d.attempts - 1 with
  | zero => exact once _
  | succ left => exact once _

/-- pop_events_once() has the events and the count of the EVENT_POP. -/
theorem popEventsOnce_pops (d : Device) :
    (popEventsOnce d 0).Keeps polling
      (fun r pops' => ∃ p : Pop, pops' = pops ++ [p] ∧ r.2 = p.decoded ∧ r.1.dropped = p.dropped)
      (fun _ pops => ∀ p ∈ pops, p.Empty) pops := by
  refine Program.Keeps.bind (readIn_pops d) (fun reply pops' said => ?_)
  obtain ⟨e, rfl, rfl⟩ := said
  have decoded := decodeEvents_pop e 0
  have header : (decodeEventHeader (e.pop 0).2).alone = pure (ArduinoDriver.decodeEventHeader (e.pop 0).2) := rfl
  refine Program.Keeps.bind (polling_value _ (accesses_decodeEventHeader _) header) (fun header _ same => ?_)
  obtain ⟨rfl, rfl⟩ := same
  unfold decodeEvents at decoded
  dsimp only at decoded
  split at decoded
  · contradiction
  · rename_i long
    refine Program.Keeps.bind (polling_passes long) (fun _ _ same => ?_)
    subst same
    have entries := @each_alone _ _ (decodeEvent (e.pop 0).2) _ (fun _ => rfl)
      (List.range (ArduinoDriver.decodeEventHeader (e.pop 0).2).count.toNat)
    refine Program.Keeps.bind (polling_value _ (.each (fun i => accesses_decodeEvent _ i)) entries)
      (fun events _ same => ?_)
    obtain ⟨rfl, rfl⟩ := same
    simp only [Except.ok.injEq, Prod.mk.injEq] at decoded
    refine .pure ⟨e.popped 0, rfl, decoded.2, ?_⟩
    rw [decoded.1]
    rfl

/-- The loop of poll_events() returns what it has taken, or throws with nothing in hand. -/
theorem pollEventsFrom_pops (d : Device) (rounds : Nat) (events : List PinEvent) (total : Nat)
    (known : events = pops.flatMap Pop.decoded) (counted : total = min 255 (dropsOf pops)) :
    (pollEventsFrom d rounds events total).Keeps polling (fun r pops => ∀ x, r = some x → x = pollResult pops)
      (fun _ pops => ∀ p ∈ pops, p.Empty) pops := by
  induction rounds generalizing events total pops with
  | zero => exact .pure (fun _ h => by cases h)
  | succ rounds ih =>
    refine Program.Keeps.bind (popEventsOnce_pops d) (fun r pops' said => ?_)
    obtain ⟨p, rfl, batch, dropped⟩ := said
    have known' : events ++ r.2 = (pops ++ [p]).flatMap Pop.decoded := by
      rw [known, batch]
      simp
    have counted' : min 255 (total + r.1.dropped.toNat) = min 255 (dropsOf (pops ++ [p])) := by
      rw [counted, dropped, dropsOf_append]
      omega
    refine Program.Keeps.ite (fun _ => ih _ _ known' counted') (fun _ => .pure (fun x h => ?_))
    cases h
    unfold pollResult
    rw [known', counted']

theorem pollEvents_pops (d : Device) (rounds : Nat) :
    (pollEvents d rounds).Keeps polling (fun r pops => ∀ x, r = some x → x = pollResult pops)
      (fun _ pops => ∀ p ∈ pops, p.Empty) [] := by
  refine Program.Keeps.bind (Q := fun _ pops => pops = []) ?_ (fun _ pops none_ => ?_)
  · refine Program.Keeps.step trivial (fun streaming pops same => ?_)
    subst same
    exact polling_refuseIf _ _
  · subst none_
    refine Program.Keeps.bind (Q := fun _ pops => pops = []) (polling_refuseIf _ _) (fun _ pops none_ => ?_)
    subst none_
    exact pollEventsFrom_pops d rounds [] 0 rfl rfl

end Driver

variable {w w' : Watcher} {d : Device} {pops : List Pop} {c : PollCall} {s : SetupPacket}

theorem Watcher.foldl_deliver (events : List PinEvent) (w : Watcher) :
    events.foldl Watcher.deliver w = { w with
      delivered := w.delivered ++ events
      stats := { w.stats with eventsDelivered := w.stats.eventsDelivered + UInt64.ofNat events.length } } := by
  induction events generalizing w with
  | nil => simp
  | cons e events ih =>
    rw [List.foldl_cons, ih]
    simp [Watcher.deliver, Nat.add_comm events.length 1, UInt64.ofNat_add, UInt64.add_assoc]

/-- worker_main() hands all events to the callback and adds up the drops. -/
theorem Watcher.work_ok (w : Watcher) (events : List PinEvent) (dropped : UInt8) :
    w.work (.ok (events, dropped)) = { w with
      delivered := w.delivered ++ events
      stats := ⟨w.stats.eventsDelivered + UInt64.ofNat events.length,
        w.stats.dropped + UInt64.ofNat dropped.toNat⟩ } := by
  have same : dropped.toUInt64 = UInt64.ofNat dropped.toNat := by
    rw [← UInt8.toNat_toUInt64, UInt64.ofNat_toNat]
  unfold Watcher.work
  dsimp only
  rw [Watcher.foldl_deliver]
  split
  · rw [same]
  · rename_i none_
    have zero : dropped.toNat = 0 := by
      rw [UInt8.lt_iff_toNat_lt] at none_
      exact Nat.eq_zero_of_not_pos none_
    simp [zero]

theorem decoded_empty (empty : ∀ p ∈ pops, p.Empty) : pops.flatMap Pop.decoded = [] := by
  refine List.flatMap_eq_nil_iff.mpr (fun p inside => ?_)
  unfold Pop.decoded
  rw [(empty p inside).1]
  rfl

/-- A complete call that ends takes its place among the others. -/
theorem Watcher.LosesNothing.finish (h : w.LosesNothing) (outcome : Except Error (List PinEvent × UInt8))
    (complete : PollCall.Complete ⟨w.inHand, outcome⟩) :
    ({ w with running := none, calls := w.calls ++ [⟨w.inHand, outcome⟩] } : Watcher).work outcome
      |>.LosesNothing := by
  have taken : w.taken = (w.calls ++ [(⟨w.inHand, outcome⟩ : PollCall)]).flatMap PollCall.pops ++ [] := by
    simp [h.taken]
  have all : ∀ c ∈ w.calls ++ [(⟨w.inHand, outcome⟩ : PollCall)], c.Complete := by
    intro c inside
    rcases List.mem_append.mp inside with before | last
    · exact h.complete c before
    · cases List.mem_singleton.mp last
      exact complete
  cases outcome with
  | error e =>
    refine ⟨taken, all, ?_, ?_, ?_⟩
    · change w.delivered = (w.calls ++ [_]).flatMap PollCall.returned
      simp [h.returned, PollCall.returned]
    · have last := h.delivered
      rw [decoded_empty complete] at last
      exact last
    · change w.stats = _
      rw [h.counted]
      simp [Watcher.work, PollCall.reported]
  | ok result =>
    obtain ⟨events, dropped⟩ := result
    rw [Watcher.work_ok]
    refine ⟨taken, all, ?_, ?_, ?_⟩
    · simp [h.returned, PollCall.returned]
    · have whole : events = w.inHand.flatMap Pop.decoded := congrArg Prod.fst complete
      change (w.delivered ++ events) ++ [] = w.taken.flatMap Pop.decoded
      rw [List.append_nil, whole, h.delivered]
    · simp [h.counted, PollCall.reported, UInt64.ofNat_add]

/-- The call that runs is the one its thread is in, and what it has in hand is its place. -/
structure Watcher.Orderly (w : Watcher) (places : Nat → Option (Nat × List Pop)) : Prop where
  mine : ∀ t call pops, places t = some (call, pops) → w.running = some pops
  one : ∀ t u, places t ≠ none → places u ≠ none → t = u
  account : w.LosesNothing

def polled (d : Device) : (watching d).Discipline (List Pop) where
  conversation := polling
  returns _ r pops := ∀ x, r = some x → x = pollResult pops
  throws _ _ pops := ∀ p ∈ pops, p.Empty
  inv := Watcher.Orderly

section Moves

variable {places : Nat → Option (Nat × List Pop)} {t call : Nat} {pops' : List Pop}

/-- The thread of the call that runs moves on. -/
theorem Watcher.Orderly.moves (inv : w.Orderly places) (place : places t = some (call, pops))
    (running : w'.running = some pops') (account : w'.LosesNothing) :
    w'.Orderly (Function.update places t (some (call, pops'))) := by
  have alone : ∀ u, u ≠ t → places u = none := by
    intro u other
    by_contra busy
    exact other (inv.one u t busy (by rw [place]; exact Option.some_ne_none _))
  refine ⟨fun u call' pops₁ here => ?_, fun u v busy busy' => ?_, account⟩
  · by_cases same : u = t
    · subst same
      simp only [Function.update_self, Option.some.injEq, Prod.mk.injEq] at here
      rw [running, here.2]
    · rw [Function.update_of_ne same, alone u same] at here
      contradiction
  · have at_ : ∀ x, Function.update places t (some (call, pops')) x ≠ none → x = t := by
      intro x busy
      by_contra other
      rw [Function.update_of_ne other] at busy
      exact busy (alone x other)
    exact (at_ u busy).trans (at_ v busy').symm

theorem Watcher.Orderly.finished (inv : w.Orderly places) (place : places t = some (call, pops))
    (account : w'.LosesNothing) : w'.Orderly (Function.update places t none) := by
  have none_ : ∀ u, Function.update places t none u = none := by
    intro u
    by_cases same : u = t
    · subst same
      exact Function.update_self ..
    · rw [Function.update_of_ne same]
      by_contra busy
      exact same (inv.one u t busy (by rw [place]; exact Option.some_ne_none _))
  refine ⟨fun u call' pops' here => ?_, fun u _ busy => absurd (none_ u) busy, account⟩
  rw [none_ u] at here
  contradiction

end Moves

/-- What is taken from the device is in the hands of the call that runs. -/
theorem Watcher.LosesNothing.takes (h : w.LosesNothing) (process : Process) (running : w.running = some pops)
    (new : List Pop) :
    ({ w with process := process, taken := w.taken ++ new, running := some (pops ++ new) } :
      Watcher).LosesNothing := by
  have hand : w.inHand = pops := by
    unfold Watcher.inHand
    rw [running]
    rfl
  refine ⟨?_, h.complete, h.returned, ?_, h.counted⟩
  · change w.taken ++ new = w.calls.flatMap PollCall.pops ++ (pops ++ new)
    rw [h.taken, hand, List.append_assoc]
  · change w.delivered ++ (pops ++ new).flatMap Pop.decoded = (w.taken ++ new).flatMap Pop.decoded
    rw [List.flatMap_append, List.flatMap_append, ← h.delivered, hand, List.append_assoc]

theorem Link.reply_pop (l : Link) : l.reply popRequest = some (l.idled.machine.dev.event.pop 0).2 := by
  have whole := @replyTo_whole l.board (l.plan 0).env l.idled.machine.dev _ .eventPop 0
    (eventPopLen maxEventsPerPop) (by decide) rfl (EventState.pop_length _ 0)
  exact whole

/-- An EVENT_POP of the call is served, or fails with nothing in hand. -/
theorem Watcher.act_pop (t call : Nat) (running : w.running = some pops)
    (lucky : w.lucky t call (.transfer popRequest))
    {r : Except Error (List UInt8)} (acted : Watcher.act t call (.transfer popRequest) w = some (r, w')) :
    ∃ process new, polling.answers pops (.transfer popRequest) r (pops ++ new) ∧
      w' = { w with process := process, taken := w.taken ++ new, running := some (pops ++ new) } := by
  have hand : w.inHand = pops := by
    unfold Watcher.inHand
    rw [running]
    rfl
  unfold Watcher.act at acted
  dsimp only at acted
  rw [running, Option.map_some] at acted
  cases failure : (w.process.host.link.plan 0).failure with
  | none =>
    have takes : w.takes popRequest = [w.process.host.link.idled.machine.dev.event.popped 0] := by
      unfold Watcher.takes
      rw [failure]
      rfl
    rw [HostState.perform_served popRequest failure, takes, Link.reply_pop] at acted
    cases acted
    exact ⟨_, _, ⟨_, rfl, rfl⟩, rfl⟩
  | some failed =>
    have empty : ∀ p ∈ pops, p.Empty := hand ▸ lucky (by rw [failure]; exact Option.some_ne_none _)
    have takes : w.takes popRequest = [] := by
      unfold Watcher.takes
      rw [failure]
      rfl
    have threw : ∃ e, (HostState.perform (.transfer popRequest) w.process.host).1 = .error e := by
      unfold HostState.perform control
      dsimp only
      rw [failure]
      obtain ⟨e, received⟩ := failed
      cases received with
      | true => exact ⟨e, rfl⟩
      | false => exact ⟨e, rfl⟩
    obtain ⟨e, threw⟩ := threw
    rw [takes] at acted
    cases acted
    refine ⟨_, [], ?_, rfl⟩
    rw [threw, List.append_nil]
    exact ⟨rfl, empty⟩

theorem polled_kept (d : Device) : (polled d).Kept Watcher.lucky (fun _ _ => True) where
  enter := by
    intro t rounds w w' places inv here entered
    change (if w.running.isSome then none else some { w with running := some [] }) = some w' at entered
    cases running : w.running with
    | some _ =>
      rw [running] at entered
      contradiction
    | none =>
      rw [running] at entered
      cases entered
      have idle : ∀ u, places u = none := by
        intro u
        cases place : places u with
        | none => rfl
        | some at_ =>
          have busy := inv.mine u at_.1 at_.2 place
          rw [running] at busy
          exact absurd busy.symm (Option.some_ne_none _)
      refine ⟨[], ⟨fun u call pops at_ => ?_, fun u v busy busy' => ?_, ?_⟩, Driver.pollEvents_pops d rounds⟩
      · by_cases same : u = t
        · subst same
          simp only [Function.update_self, Option.some.injEq, Prod.mk.injEq] at at_
          rw [← at_.2]
        · rw [Function.update_of_ne same, idle u] at at_
          contradiction
      · have only : ∀ x, Function.update places t (some (rounds, [])) x ≠ none → x = t := by
          intro x busy
          by_contra other
          rw [Function.update_of_ne other] at busy
          exact busy (idle x)
        exact (only u busy).trans (only v busy').symm
      · have none_ : w.inHand = [] := by
          unfold Watcher.inHand
          rw [running]
          rfl
        obtain ⟨taken, complete, returned, delivered, counted⟩ := inv.account
        rw [none_] at taken delivered
        exact ⟨taken, complete, returned, delivered, counted⟩
  act := by
    intro t rounds op w w' places pops r inv place sends lucky acted
    have running := inv.mine t rounds pops place
    cases op with
    | transfer s =>
      obtain rfl : s = popRequest := sends
      obtain ⟨process, new, answered, rfl⟩ := Watcher.act_pop t rounds running lucky acted
      exact ⟨_, answered, inv.moves place rfl (inv.account.takes process running new)⟩
    | access i n =>
      cases acted
      exact ⟨pops, rfl, inv.moves place running inv.account⟩
    | loadStreaming =>
      cases acted
      exact ⟨pops, rfl, inv.moves place running inv.account⟩
    | _ => exact sends.elim
  leave := by
    intro t rounds w places pops outcome inv place ends
    have hand : w.inHand = pops := by
      unfold Watcher.inHand
      rw [inv.mine t rounds pops place]
      rfl
    cases outcome with
    | error e => exact inv.finished place (inv.account.finish (.error e) (hand ▸ ends))
    | ok r =>
      cases r with
      | none => exact inv.finished place inv.account
      | some result =>
        have whole : result = pollResult w.inHand := hand ▸ ends result rfl
        exact inv.finished place (inv.account.finish (.ok result) whole)
  happen := by
    intro streaming w places inv _
    exact ⟨inv.mine, inv.one, inv.account.taken, inv.account.complete, inv.account.returned, inv.account.delivered,
      inv.account.counted⟩

/-- No event that EVENT_POP has taken is lost and every drop it has told of is reported, as
long as no transfer fails while its poll_events() has something in its hands. -/
theorem taken_events_are_delivered (d : Device) (l : Link) (selected : List UInt8) (streaming : Bool)
    {w : Lib.Pool DriverOp.Reply Error (Option (List PinEvent × UInt8)) Nat Watcher}
    (reached : Reach (watching d).step (System.permits Watcher.lucky (fun _ _ => True))
      (System.idle (.opened (.opened l selected streaming))) w) :
    w.shared.LosesNothing := by
  have start : (Watcher.opened (.opened l selected streaming)).Orderly (fun _ => none) := by
    refine ⟨?_, ?_, ?_, ?_, ?_, ?_, ?_⟩
    · intro t call pops place
      cases place
    · intro t u busy
      exact absurd rfl busy
    · rfl
    · intro c inside
      cases inside
    · rfl
    · rfl
    · rfl
  obtain ⟨places, inv, _⟩ := (polled_kept d).reach reached start
  exact inv.account

instance Pop.Empty.decidable (p : Pop) : Decidable p.Empty :=
  inferInstanceAs (Decidable (p.events = [] ∧ p.dropped = 0))

instance Watcher.lucky.decidable (t call : Nat) :
    (op : DriverOp) → (w : Watcher) → Decidable (Watcher.lucky t call op w)
  | .transfer _, w => inferInstanceAs (Decidable
      ((w.process.host.link.plan 0).failure ≠ none → ∀ p ∈ w.inHand, p.Empty))
  | .access .., _ | .loadStreaming, _ | .storeStreaming _, _ | .lock, _ | .unlock, _ | .loadSelected, _
  | .storeSelected _, _ => inferInstanceAs (Decidable True)

/-- The one pin board with eight edges in its ring, on a bus whose n-th transfer fails. -/
def eventfulLink (n : Nat) : Link where
  board := onePinBoard
  start := boot onePinBoard
  acts := [request .pinMode 0 0, request .eventConfig 3 0] ++ List.replicate 32 (.loop (stillEnv .sent)) ++
    (List.range 8).flatMap fun i =>
      List.replicate 33 (.loop
        { stillEnv .sent with digitalRead := fun _ => i % 2 = 0, millis := UInt32.ofNat (5 * i) })
  plan k := ⟨[], stillEnv .sent, if k = n then some (⟨.timeout, "timed out"⟩, false) else none, "STALL"⟩

/-- The worker polls and polls again. -/
def twoPolls : List (Move Nat Bool) :=
  .begin 0 4 :: List.replicate 100 (.go 0) ++ .begin 0 4 :: List.replicate 100 (.go 0)

def eventfulDevice : Device := onePinBoard.device ⟨1, 1, 0⟩

def afterPolls (n : Nat) : Lib.Pool DriverOp.Reply Error (Option (List PinEvent × UInt8)) Nat Watcher :=
  twoPolls.foldl (watching eventfulDevice).step (System.idle (.opened (.opened (eventfulLink n) [] false)))


theorem taken_events_are_delivered_retried :
    (afterPolls 0).shared.delivered.length = 8 ∧ (afterPolls 0).shared.LosesNothing :=
  ⟨by decide +kernel,
    taken_events_are_delivered eventfulDevice (eventfulLink 0) [] false
      (@Lib.Follows.reach _ _ _ _ _ twoPolls (by decide +kernel))⟩

/-- The second transfer of a poll_events() fails, and what the first has taken is lost. -/
theorem failing_poll_loses_events :
    ¬ ∀ (d : Device) (l : Link) (selected : List UInt8) (streaming : Bool),
      (∀ n e received, (l.plan n).failure = some (e, received) → received = false) →
      ∀ w, Reach (watching d).step (fun _ _ => True) (System.idle (.opened (.opened l selected streaming))) w →
        w.shared.LosesNothing := by
  intro claim
  have sound : ∀ n e received, ((eventfulLink 1).plan n).failure = some (e, received) → received = false := by
    intro n e received failed
    unfold eventfulLink at failed
    dsimp only at failed
    split at failed
    · cases failed
      rfl
    · contradiction
  have account := claim eventfulDevice (eventfulLink 1) [] false sound (afterPolls 1)
    (Reach.refl.foldl (fun _ _ => trivial) _)
  have lost := congrArg List.length account.delivered
  revert lost
  decide +kernel

end ArduinoDriver
