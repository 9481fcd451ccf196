import ArduinoDriver.Firmware.Rewatching
import ArduinoDriver.Host.PinCalls
import ArduinoDriver.Host.Serving

namespace ArduinoDriver

open Lib (Program Triple)

/-- struct WatchedPin, with the code of its edge mode. -/
structure WatchedPin where
  pin : UInt8
  edge : UInt8
  debounce : Int

namespace EventWatcher

/-- configure_event() with OFF, its errors swallowed. -/
def disarm (d : Device) (pin : UInt8) : Driver Unit :=
  tryCatch (Driver.configureEvent d pin EdgeMode.off.code 0) (fun _ => pure ())

/-- The arming loop of the constructor: the pins armed, oldest first, and the error that ended it,
if any. -/
def armPins (d : Device) (armed : List UInt8) : List WatchedPin → Driver (List UInt8 × Option Error)
  | [] => return (armed, none)
  | w :: pins => do
    match ← tryCatch (do Driver.configureEvent d w.pin w.edge w.debounce; return none)
        (fun e => return some e) with
    | none => armPins d (armed ++ [w.pin]) pins
    | some e => return (armed, some e)

/-- The constructor for a list that is not empty, up to the start of the worker. -/
def construct (d : Device) (pins : List WatchedPin) : Driver Unit := do
  let (armed, failed) ← armPins d [] pins
  match failed with
  | none => pure ()
  | some e => do
    armed.reverse.forM (disarm d)
    throw e

/-- stop(), behind the join of the worker. -/
def stop (d : Device) (pins : List WatchedPin) : Driver Unit := pins.forM (fun w => disarm d w.pin)

end EventWatcher

/-- A bus without errors that serves this driver alone, and no Stream: the device's watches are `f`. -/
structure Watchful (b : Board) (f : Nat → Option (EdgeMode × UInt8)) (st : HostState) : Prop where
  board : st.link.board = b
  alone : st.link.Alone
  sound : st.link.Sound
  free : st.streaming = false
  reached : Reachable b st.link.machine
  watching : st.link.machine.dev.event.watching = f

variable {b : Board} {f g : Nat → Option (EdgeMode × UInt8)} {φ ψ : Prop} {s : SetupPacket} {α β : Type}

theorem control_watchful
    (answered : ∀ env m reply, Reachable b m → m.dev.event.watching = f →
      (handleSetup b env m.dev s).2 = some reply → (handleSetup b env m.dev s).1.event.watching = g ∧ φ)
    (stalled : ∀ env m, Reachable b m → m.dev.event.watching = f →
      (handleSetup b env m.dev s).2 = none → (handleSetup b env m.dev s).1.event.watching = f ∧ ψ) :
    Triple (Watchful b f) (control s) (fun _ st => Watchful b g st ∧ φ)
      (fun _ st => Watchful b f st ∧ ψ) := by
  rintro st ⟨rfl, alone, sound, free, reached, watching⟩
  have here : Reachable st.link.board st.link.idled.machine := by
    rw [Link.idled_machine]
    exact Lib.Reach.foldl reached (fun _ _ => trivial) _
  have before : st.link.idled.machine.dev.event.watching = f := by
    rw [Link.idled_machine, polls_watching (alone 0)]
    exact watching
  have next : Reachable st.link.board (st.link.received s).machine := by
    rw [Link.received_machine]
    exact .tail _ here trivial
  have after : (st.link.received s).machine.dev.event.watching =
      (handleSetup st.link.board (st.link.plan 0).env st.link.idled.machine.dev s).1.event.watching := by
    rw [Link.received_machine]
    rfl
  unfold control
  dsimp only
  rw [sound 0]
  cases answer : st.link.reply s with
  | none =>
    obtain ⟨unchanged, fact⟩ := stalled _ _ here before answer
    exact ⟨⟨rfl, fun n => alone (n + 1), fun n => sound (n + 1), free, next, after.trans unchanged⟩, fact⟩
  | some reply =>
    obtain ⟨changed, fact⟩ := answered _ _ _ here before answer
    exact ⟨⟨rfl, fun n => alone (n + 1), fun n => sound (n + 1), free, next, after.trans changed⟩, fact⟩


variable {P : HostState → Prop} {Q : α → HostState → Prop} {R : β → HostState → Prop}
  {E : Error → HostState → Prop}

theorem alone_bind {p : Driver α} {k : α → Driver β} (h : Triple P p.alone Q E)
    (next : ∀ a, Triple (Q a) (k a).alone R E) : Triple P (p >>= k).alone R E := by
  rw [Driver.alone, Program.run_bind]
  exact .bind h next

theorem alone_tryCatch {p : Driver α} {handler : Error → Driver α} {E' : Error → HostState → Prop}
    (h : Triple P p.alone Q E) (caught : ∀ e, Triple (E e) (handler e).alone Q E') :
    Triple P (MonadExcept.tryCatch p handler : Driver α).alone Q E' := by
  rw [Driver.alone, Program.run_tryCatch]
  exact .tryCatch h caught

/-- A check that may end the call, and what comes behind it. -/
theorem alone_check {bad : Prop} [Decidable bad] {e : Error} {rest : Driver β}
    (fails : bad → ∀ st, P st → E e st) (passes : Triple P rest.alone R E) :
    Triple P (do Driver.refuseIf bad e; rest : Driver β).alone R E := by
  refine alone_bind (Q := fun _ => P) ?_ (fun _ => passes)
  rw [Driver.refuseIf_alone]
  exact .ite (fun failed => .throw _ (fails failed)) (fun _ => .pure _ (fun _ h => h))

theorem checkNotStreaming_watchful (what : String) :
    Triple (Watchful b f) (Driver.checkNotStreaming what).alone (fun _ => Watchful b f)
      (fun _ _ => False) := by
  intro st h
  have looked : ∃ e, (Driver.checkNotStreaming what).alone st =
      (Driver.refuseIf (st.streaming = true) e).alone st := ⟨_, rfl⟩
  obtain ⟨e, looked⟩ := looked
  rw [looked, h.free, Driver.refuseIf_alone, refuseIf, if_neg (by simp)]
  exact h

theorem getStatus_watchful : Triple (Watchful b f) (rawIn .getStatus 0 (UInt16.ofNat statusReplyLen))
    (fun _ => Watchful b f) (fun _ => Watchful b f) := by
  have asked : Triple (Watchful b f) (control (.inp .getStatus 0 (UInt16.ofNat statusReplyLen)))
      (fun _ st => Watchful b f st ∧ True) (fun _ st => Watchful b f st ∧ True) := by
    refine control_watchful ?_ ?_
    · intro env m _ _ watching _
      exact ⟨(getStatus_watching b env m.dev _).trans watching, trivial⟩
    · intro env m _ watching _
      exact ⟨(getStatus_watching b env m.dev _).trans watching, trivial⟩
  refine .bind (asked.conseq (fun _ h => h) (fun _ _ h => h) (fun _ _ h => h.1)) (fun reply => ?_)
  exact .ite (fun _ => .throw _ (fun _ h => h.1)) (fun _ => .pure _ (fun _ h => h.1))

/-- send_out() of an EVENT_CONFIG. -/
theorem sendOut_watchful (pin : UInt8) (value : UInt16) :
    Triple (Watchful b f) (sendOut .eventConfig value pin.toUInt16)
      (fun _ st => Watchful b (rewatched f pin.toNat value) st ∧ pin.toNat < b.pinCount)
      (fun _ st => Watchful b f st ∧ (value = 0 → ¬ pin.toNat < b.pinCount)) := by
  have wide : pin.toUInt16.toNat = pin.toNat := UInt8.toNat_toUInt16 pin
  have sent : Triple (Watchful b f) (control (.out .eventConfig value pin.toUInt16))
      (fun _ st => Watchful b (rewatched f pin.toNat value) st ∧ pin.toNat < b.pinCount)
      (fun _ st => Watchful b f st ∧ (value = 0 → ¬ pin.toNat < b.pinCount)) := by
    refine control_watchful ?_ ?_
    · intro env m reply reached watching said
      rcases eventConfig_watching reached env pin.toUInt16 value with refused | ⟨_, changed, known⟩
      · rw [refused.1] at said
        contradiction
      · rw [watching, wide] at changed
        rw [wide] at known
        exact ⟨changed, known⟩
    · intro env m reached watching said
      rcases eventConfig_watching reached env pin.toUInt16 value with refused | ⟨accepted, _⟩
      · refine ⟨refused.2.trans watching, fun off known => ?_⟩
        subst off
        rw [eventOff_accepted reached env (wide.symm ▸ known)] at said
        contradiction
      · rw [accepted] at said
        contradiction
  refine .tryCatch (.bind sent (fun _ => .pure _ (fun _ h => h))) (fun e => .ite ?_ (fun _ => ?_))
  · exact fun _ => .throw _ (fun _ h => h)
  · refine .fact (fun unknown => ?_)
    have told := @getStatus_watchful b f
    refine .bind (told.conseq (fun _ h => h) (fun _ _ h => h) (fun _ _ h => ⟨h, unknown⟩)) (fun reply => ?_)
    refine .ite (fun _ => .throw _ (fun _ h => ⟨h, unknown⟩)) (fun _ => ?_)
    exact .ite (fun _ => .throw _ (fun _ h => ⟨h, unknown⟩)) (fun _ => .throw _ (fun _ h => ⟨h, unknown⟩))

/-- configure_event() changes no watch but the pin's, and none when it throws. Switching a pin of
the board off does not throw. -/
theorem configureEvent_watchful (options : DeviceOptions) (pin edge : UInt8) (debounce : Int) :
    Triple (Watchful b f) (Driver.configureEvent (b.device options) pin edge debounce).alone
      (fun _ st => pin.toNat < b.pinCount ∧
        Watchful b (rewatched f pin.toNat (encodeEventConfigValue (UInt8.ofNat debounce.toNat) edge)) st)
      (fun _ st => Watchful b f st ∧
        (edge = EdgeMode.off.code → debounce = 0 → ¬ pin.toNat < b.pinCount)) := by
  have begun : Begun b (boot b).dev := reach_begun (Lib.Reach.refl : Reachable b (boot b))
  have count : (b.device options).caps.length = b.pinCount := by
    simp [Board.device, begun.nPins]
  have events : (b.device options).info.events = true := begun.events
  refine alone_bind ((checkNotStreaming_watchful _).conseq (fun _ h => h) (fun _ _ h => h)
    (fun _ _ never => never.elim)) (fun _ => ?_)
  refine alone_check (fun refused st h => ?_) ?_
  · rw [events] at refused
    contradiction
  refine alone_bind (Q := fun _ => Watchful b f) (alone_check (fun outside st h => ⟨h, ?_⟩) ?_) (fun _ => ?_)
  · intro _ _ known
    rw [count] at outside
    omega
  · exact fun st h => h
  refine alone_check (fun unnamed st h => ⟨h, fun off _ _ => ?_⟩) ?_
  · rw [off] at unnamed
    contradiction
  refine alone_check (fun range st h => ⟨h, fun _ none_ _ => ?_⟩) ?_
  · rw [none_] at range
    simp [maxDebounceMs] at range
  rw [Driver.sendOut_alone]
  refine (sendOut_watchful pin _).conseq (fun _ h => h) (fun _ _ h => ⟨h.2, h.1⟩) (fun _ _ h => ⟨h.1, ?_⟩)
  intro off none_
  apply h.2
  rw [off, none_]
  rfl

/-- The watches without those of `pins`. -/
def unwatched (f : Nat → Option (EdgeMode × UInt8)) (pins : List UInt8) : Nat → Option (EdgeMode × UInt8) :=
  fun p => if p ∈ pins.map UInt8.toNat then none else f p

theorem disarm_watchful (options : DeviceOptions) {pin : UInt8} (known : pin.toNat < b.pinCount) :
    Triple (Watchful b f) (EventWatcher.disarm (b.device options) pin).alone
      (fun _ => Watchful b (Function.update f pin.toNat none)) (fun _ _ => False) := by
  have off := @configureEvent_watchful b f options pin EdgeMode.off.code 0
  refine alone_tryCatch (off.conseq (fun _ h => h) (fun _ _ h => h.2) (fun _ _ h => ?_)) (fun _ => .never)
  exact h.2 rfl rfl known

theorem disarmAll_watchful {δ : Type} (options : DeviceOptions) (key : δ → UInt8) {l : List δ}
    (known : ∀ x ∈ l, (key x).toNat < b.pinCount) :
    Triple (Watchful b f)
      (l.forM (fun x => EventWatcher.disarm (b.device options) (key x)) : Driver PUnit).alone
      (fun _ => Watchful b (unwatched f (l.map key))) (fun _ _ => False) := by
  induction l generalizing f with
  | nil =>
    have none_ : unwatched f [] = f := by
      funext p
      simp [unwatched]
    refine .pure _ (fun st h => ?_)
    rw [List.map_nil, none_]
    exact h
  | cons x l ih =>
    have later : ∀ y ∈ l, (key y).toNat < b.pinCount := fun y inside => known y (List.mem_cons_of_mem _ inside)
    have rest := @ih (Function.update f (key x).toNat none) later
    have both : unwatched (Function.update f (key x).toNat none) (l.map key) =
        unwatched f ((x :: l).map key) := by
      funext p
      by_cases own : p = (key x).toNat
      · subst own
        simp [unwatched]
      · simp [unwatched, own]
    rw [both] at rest
    exact alone_bind (disarm_watchful options (known x (List.mem_cons_self ..))) (fun _ => rest)

theorem rewatched_other {pin p : Nat} (other : p ≠ pin) (value : UInt16) : rewatched f pin value p = f p := by
  unfold rewatched
  cases EdgeMode.ofCode? value.toUInt8 with
  | none => rfl
  | some edge =>
    cases edge with
    | _ => exact Function.update_of_ne other ..

/-- The loop arms a prefix of the pins, all of them when nothing fails. -/
structure ArmedFront (b : Board) (f : Nat → Option (EdgeMode × UInt8)) (pins taken : List WatchedPin)
    (failed : Option Error) (st : HostState) : Prop where
  front : taken <+: pins
  all : failed = none ↔ taken = pins
  known : ∀ w ∈ taken, w.pin.toNat < b.pinCount
  others : ∃ g, Watchful b g st ∧ ∀ p, p ∉ taken.map (fun w => w.pin.toNat) → g p = f p

theorem armPins_watchful (options : DeviceOptions) (pins : List WatchedPin) (armed : List UInt8) :
    Triple (Watchful b f) (EventWatcher.armPins (b.device options) armed pins).alone
      (fun r st => ∃ taken, r.1 = armed ++ taken.map (·.pin) ∧ ArmedFront b f pins taken r.2 st)
      (fun _ _ => False) := by
  induction pins generalizing armed f with
  | nil =>
    refine .pure _ (fun st h => ⟨[], by simp, ?_⟩)
    exact ⟨List.nil_prefix, by simp, by simp, f, h, fun _ _ => rfl⟩
  | cons w pins ih =>
    let value := encodeEventConfigValue (UInt8.ofNat w.debounce.toNat) w.edge
    have one := @configureEvent_watchful b f options w.pin w.edge w.debounce
    refine alone_bind (Q := fun outcome st => match outcome with
      | none => w.pin.toNat < b.pinCount ∧ Watchful b (rewatched f w.pin.toNat value) st
      | some _ => Watchful b f st) ?_ (fun outcome => ?_)
    · refine alone_tryCatch (alone_bind one (fun _ => .pure none (fun _ h => h))) (fun e => ?_)
      exact .pure (some e) (fun _ h => h.1)
    · cases outcome with
      | some e =>
        refine .pure _ (fun st h => ⟨[], by simp, ?_⟩)
        exact ⟨List.nil_prefix, by simp, by simp, f, h, fun _ _ => rfl⟩
      | none =>
        intro st h
        obtain ⟨known, watchful⟩ := h
        refine ((ih (armed ++ [w.pin])).conseq (fun _ h => h) ?_ (fun _ _ never => never)) st watchful
        intro r st' h
        obtain ⟨taken, list, front, all, inside, g, holds, others⟩ := h
        refine ⟨w :: taken, by rw [list]; simp, ?_, ?_, ?_, g, holds, ?_⟩
        · exact (List.prefix_cons_inj w).mpr front
        · rw [all]
          simp
        · intro v member
          rcases List.mem_cons.mp member with rfl | later
          · exact known
          · exact inside v later
        · intro p outside
          rw [List.map_cons, List.mem_cons, not_or] at outside
          rw [others p outside.2]
          exact rewatched_other outside.1 value

/-- The catch block of the constructor. -/
theorem rollBack_watchful (options : DeviceOptions) {taken : List WatchedPin}
    (known : ∀ w ∈ taken, w.pin.toNat < b.pinCount)
    (others : ∀ p, p ∉ taken.map (fun w => w.pin.toNat) → g p = f p) :
    Triple (Watchful b g)
      ((taken.map (·.pin)).reverse.forM (EventWatcher.disarm (b.device options)) : Driver PUnit).alone
      (fun _ => Watchful b (unwatched f (taken.map (·.pin)))) (fun _ _ => False) := by
  have own : ∀ pin ∈ (taken.map (·.pin)).reverse, (id pin).toNat < b.pinCount := by
    intro pin member
    rw [List.mem_reverse, List.mem_map] at member
    obtain ⟨w, inside, rfl⟩ := member
    exact known w inside
  have same : unwatched g ((taken.map (·.pin)).reverse.map id) = unwatched f (taken.map (·.pin)) := by
    funext p
    have members : p ∈ ((taken.map (·.pin)).reverse.map id).map UInt8.toNat ↔
        p ∈ (taken.map (·.pin)).map UInt8.toNat := by
      rw [List.map_id, List.map_reverse, List.mem_reverse]
    unfold unwatched
    by_cases inside : p ∈ (taken.map (·.pin)).map UInt8.toNat
    · rw [if_pos inside, if_pos (members.mpr inside)]
    · rw [if_neg inside, if_neg (fun member => inside (members.mp member))]
      apply others
      rw [List.map_map] at inside
      exact inside
  have back := @disarmAll_watchful b g UInt8 options id (taken.map (·.pin)).reverse own
  rw [same] at back
  exact back

/-- A watcher leaves no watch of its own on a device that nobody else talks to: where the constructor
throws, the pins it had armed are off again and every other watch is as it was; where it returns it
has touched no other pin, and stop() turns all of its own off. -/
theorem watcher_leaves_no_watch (b : Board) (options : DeviceOptions) (pins : List WatchedPin)
    (f : Nat → Option (EdgeMode × UInt8)) :
    Triple (Watchful b f) (EventWatcher.construct (b.device options) pins).alone
        (fun _ st => (∀ w ∈ pins, w.pin.toNat < b.pinCount) ∧
          ∃ g, Watchful b g st ∧ ∀ p, p ∉ pins.map (fun w => w.pin.toNat) → g p = f p)
        (fun _ st => ∃ taken, taken <+: pins ∧ taken ≠ pins ∧
          Watchful b (unwatched f (taken.map (·.pin))) st) ∧
      ((∀ w ∈ pins, w.pin.toNat < b.pinCount) →
        Triple (Watchful b f) (EventWatcher.stop (b.device options) pins).alone
          (fun _ => Watchful b (unwatched f (pins.map (·.pin)))) (fun _ _ => False)) := by
  constructor
  · refine alone_bind ((armPins_watchful options pins []).conseq (fun _ h => h) (fun _ _ h => h)
      (fun _ _ never => never.elim)) (fun r => ?_)
    obtain ⟨armed, failed⟩ := r
    intro st h
    obtain ⟨taken, list, front, all, known, g, holds, others⟩ := h
    cases failed with
    | none =>
      obtain rfl := all.mp rfl
      exact ⟨known, g, holds, others⟩
    | some e =>
      have proper : taken ≠ pins := by
        intro whole
        have := all.mpr whole
        contradiction
      obtain rfl : armed = taken.map (·.pin) := by simpa using list
      have back := rollBack_watchful options known others
      refine (alone_bind (back.conseq (fun _ h => h) (fun _ _ h => h) (fun _ _ never => never.elim))
        (fun _ => ?_)) st holds
      exact .throw e (fun st' h => ⟨taken, front, proper, h⟩)
  · intro known
    exact @disarmAll_watchful b f WatchedPin options (fun w => w.pin) pins known

/-- Two pins in INPUT, pin 1 watched for any change. -/
def watchedHost : HostState :=
  ⟨⟨twoPinBoard, boot twoPinBoard, [request .pinMode 0 0, request .pinMode 0 1, request .eventConfig 3 1],
    fun _ => ⟨[], stillEnv .sent, none, ""⟩⟩, [], false⟩

/-- A watcher for pin 0 and a pin the board does not have; one for pin 0 that is stopped. -/
theorem watcher_leaves_no_watch_wrong_pin :
    (match (EventWatcher.construct (twoPinBoard.device ⟨1, 1, 0⟩) [⟨0, 1, 0⟩, ⟨5, 1, 0⟩]).alone
        watchedHost with
      | .ok _ _ => False
      | .error _ st => st.link.machine.dev.event.watching 0 = none ∧
        st.link.machine.dev.event.watching 1 = some (.change, 0)) ∧
    (match (EventWatcher.stop (twoPinBoard.device ⟨1, 1, 0⟩) [⟨0, 1, 0⟩]).alone watchedHost with
      | .ok _ st => st.link.machine.dev.event.watching 0 = none
      | .error _ _ => False) := by
  let f := watchedHost.link.machine.dev.event.watching
  have start : Watchful twoPinBoard f watchedHost := by
    refine ⟨rfl, fun _ a member => ?_, fun _ => rfl, rfl, ?_, rfl⟩
    · contradiction
    · exact Lib.Reach.foldl .refl (fun _ _ => trivial) _
  have zero : f 0 = none := by decide
  have one : f 1 = some (.change, 0) := by decide
  constructor
  · have left := (watcher_leaves_no_watch twoPinBoard ⟨1, 1, 0⟩ [⟨0, 1, 0⟩, ⟨5, 1, 0⟩] f).1
      watchedHost start
    revert left
    cases (EventWatcher.construct (twoPinBoard.device ⟨1, 1, 0⟩) [⟨0, 1, 0⟩, ⟨5, 1, 0⟩]).alone
      watchedHost with
    | ok u st =>
      intro left
      have wrong := left.1 ⟨5, 1, 0⟩ (by simp)
      contradiction
    | error e st =>
      intro left
      obtain ⟨taken, front, _, left⟩ := left
      change st.link.machine.dev.event.watching 0 = none ∧
        st.link.machine.dev.event.watching 1 = some (.change, 0)
      have apart : 1 ∉ (taken.map (·.pin)).map UInt8.toNat := by
        intro member
        obtain ⟨pin, member, at_pin⟩ := List.mem_map.mp member
        obtain ⟨w, armed, rfl⟩ := List.mem_map.mp member
        have inside := front.subset armed
        simp only [List.mem_cons, List.not_mem_nil, or_false] at inside
        rcases inside with rfl | rfl
        · contradiction
        · contradiction
      rw [left.watching]
      refine ⟨?_, (if_neg apart).trans one⟩
      unfold unwatched
      rw [zero, ite_self]
  · have known : ∀ w ∈ [(⟨0, 1, 0⟩ : WatchedPin)], w.pin.toNat < twoPinBoard.pinCount := by
      intro w member
      obtain rfl := List.mem_singleton.mp member
      decide
    have left := (watcher_leaves_no_watch twoPinBoard ⟨1, 1, 0⟩ [⟨0, 1, 0⟩] f).2 known watchedHost start
    revert left
    cases (EventWatcher.stop (twoPinBoard.device ⟨1, 1, 0⟩) [⟨0, 1, 0⟩]).alone watchedHost with
    | ok u st =>
      intro left
      change st.link.machine.dev.event.watching 0 = none
      rw [Watchful.watching left]
      rfl
    | error e st => exact fun never => never.elim

end ArduinoDriver
