import ArduinoDriver.Firmware.EventRing
import ArduinoDriver.Firmware.Scanning

namespace ArduinoDriver

/-- Between polls, nothing pending, with pin 0 of a one-pin board watched for any change, no
debounce, and its last level known; no slot of the ring is a tombstone. -/
structure Toggling (m : Machine) : Prop where
  idle : m.pc = .idle
  pins : m.dev.nPins = 1
  served : m.dev.resetDone = m.dev.resetRequests
  drained : m.dev.tail = m.dev.head
  input : m.dev.mode 0 = some .input
  cursor : m.dev.ainCursor = 0
  active : (m.dev.event.watch 0).active = true
  pin : (m.dev.event.watch 0).pin = 0
  edge : (m.dev.event.watch 0).edgeMode = .change
  debounce : (m.dev.event.watch 0).debounceMs = 0
  expired : (m.dev.event.watch 0).debounceUntil = 0
  seen : (m.dev.event.watch 0).seenSeq = (m.dev.event.watch 0).armSeq
  level : (m.dev.event.watch 0).prevLevel = m.dev.dio 0
  alone : ∀ i < maxEventPins, 0 < i → (m.dev.event.watch i).active = false
  live : ∀ slot < eventQueueDepth, (m.dev.event.ring slot).live = true

variable {b : Board} {m m₁ m' : Machine} {env : Env} {d : UsbIoDevice} {log : Log} {e : EventState}
  {now : UInt32} {dio : Nat → Bool}

/-- Steps of poll() with the same answers of the core. -/
def Loops (b : Board) (env : Env) (m m' : Machine) : Prop :=
  ∃ count, run b m (List.replicate count (.loop env)) = m'

theorem Loops.refl : Loops b env m m := ⟨0, rfl⟩

theorem Loops.step (rest : Loops b env m₁ m') (one : loopStep b env m = m₁) : Loops b env m m' := by
  obtain ⟨count, steps⟩ := rest
  refine ⟨count + 1, ?_⟩
  rw [List.replicate_succ]
  change run b (loopStep b env m) _ = m'
  rw [one, steps]

theorem Loops.of_proceeds (h : Proceeds b m m₁) (rest : Loops b env m₁ m') : Loops b env m m' := by
  induction h with
  | refl m => exact rest
  | step _ _ one ih => exact (ih rest).step (one env)

/-- The other level of the pin. -/
def toggled (m : Machine) : Env := { stillEnv .sent with digitalRead := fun _ => !m.dev.dio 0 }

/-- Slot 0 once the level has been taken and the edge counted. -/
def toggledWatch (d : UsbIoDevice) : EventWatch :=
  { d.event.watch 0 with prevLevel := !d.dio 0, count := (d.event.watch 0).count + 1 }

/-- The edge that a scan of pin 0 then finds. -/
def toggleEdge (d : UsbIoDevice) : UsbioEvent :=
  ⟨0, edgeOf (!d.dio 0), (d.event.watch 0).count + 1, 0⟩

/-- A scan of the slot finds nothing to do. -/
def EventState.Rests (e : EventState) (dio : Nat → Bool) (i : Nat) : Prop :=
  (e.watch i).active = true →
    (e.watch i).seenSeq = (e.watch i).armSeq ∧ dio (e.watch i).pin = (e.watch i).prevLevel

theorem scanWatch_rests {i : Nat} (rests : e.Rests dio i) : scanWatch dio now e i = e := by
  unfold scanWatch
  cases on : (e.watch i).active with
  | false => simp [on]
  | true => simp [on, rests on]

theorem foldl_rests (slots : List Nat) (rests : ∀ i ∈ slots, e.Rests dio i) :
    slots.foldl (scanWatch dio now) e = e := by
  induction slots with
  | nil => rfl
  | cons i slots ih =>
    rw [List.foldl_cons, scanWatch_rests (rests i List.mem_cons_self)]
    exact ih (fun j inside => rests j (List.mem_cons_of_mem _ inside))

/-- A slot whose level has changed in the watched direction, outside its debounce window. -/
theorem scanWatch_edge {i : Nat} (on : (e.watch i).active = true)
    (seen : (e.watch i).seenSeq = (e.watch i).armSeq)
    (changed : dio (e.watch i).pin ≠ (e.watch i).prevLevel)
    (fits : (!edgeMatches (e.watch i).edgeMode (dio (e.watch i).pin) ||
      before now (e.watch i).debounceUntil) = false) :
    scanWatch dio now e i =
      (e.setWatch i { e.watch i with
        prevLevel := dio (e.watch i).pin
        count := (e.watch i).count + 1
        debounceUntil := now + (e.watch i).debounceMs.toUInt32 }).push
      ⟨(e.watch i).pin, edgeOf (dio (e.watch i).pin), (e.watch i).count + 1, now⟩ := by
  have active : ¬ (!(e.watch i).active) = true := by
    rw [on]
    exact Bool.false_ne_true
  have due : ¬ (!edgeMatches (e.watch i).edgeMode (dio (e.watch i).pin) ||
      before now (e.watch i).debounceUntil) = true := by
    rw [fits]
    exact Bool.false_ne_true
  unfold scanWatch
  rw [if_neg active, if_neg (not_not.mpr seen), if_neg changed, if_neg due]

/-- What event_poll() makes of the device: one more edge in the ring. -/
theorem Toggling.scan (h : Toggling m) (room : (m.dev.event.head - m.dev.event.tail).toNat < 32)
    (flipped : dio 0 = !m.dev.dio 0) :
    (List.range' 0 maxEventPins).foldl (scanWatch dio 0) m.dev.event =
      { (m.dev.event.setWatch 0 (toggledWatch m.dev)).fill (toggleEdge m.dev) with
        head := m.dev.event.head + 1 } := by
  have notFull : ¬ EventState.full (m.dev.event.setWatch 0 (toggledWatch m.dev)) = true := by
    have same : ∀ w, EventState.full (m.dev.event.setWatch 0 w) = m.dev.event.full := fun _ => rfl
    rw [same, EventState.full, decide_eq_true_eq]
    exact Nat.not_le.mpr room
  have read : dio (m.dev.event.watch 0).pin = !m.dev.dio 0 := by
    rw [h.pin, flipped]
  have changed : dio (m.dev.event.watch 0).pin ≠ (m.dev.event.watch 0).prevLevel := by
    rw [read, h.level]
    cases m.dev.dio 0 <;> decide
  have fits : (!edgeMatches (m.dev.event.watch 0).edgeMode (dio (m.dev.event.watch 0).pin) ||
      before 0 (m.dev.event.watch 0).debounceUntil) = false := by
    rw [h.edge, h.expired]
    rfl
  have window : (0 : UInt32) + (m.dev.event.watch 0).debounceMs.toUInt32 =
      (m.dev.event.watch 0).debounceUntil := by
    rw [h.debounce, h.expired]
    rfl
  have first : scanWatch dio 0 m.dev.event 0 =
      { (m.dev.event.setWatch 0 (toggledWatch m.dev)).fill (toggleEdge m.dev) with
        head := m.dev.event.head + 1 } := by
    rw [scanWatch_edge h.active h.seen changed fits, read, window, h.pin]
    exact if_neg notFull
  rw [show maxEventPins = 7 + 1 from rfl, List.range'_succ, List.foldl_cons, first]
  -- the other slots are not watched
  refine foldl_rests _ (fun j inside on => ?_)
  have later := List.mem_range'_1.mp inside
  have other : j ≠ 0 := Nat.ne_of_gt later.1
  have off : ((m.dev.event.setWatch 0 (toggledWatch m.dev)).watch j).active = false :=
    (congrArg EventWatch.active (Function.update_of_ne other ..)).trans (h.alone j later.2 later.1)
  exact absurd (off.symm.trans on) Bool.false_ne_true

/-- With no tombstones the queued events are all slots from the tail to the head. -/
theorem queued_of_live (live : ∀ slot < eventQueueDepth, (e.ring slot).live = true) :
    e.queued.length = (e.head - e.tail).toNat := by
  have all : e.queued = Lib.Ring.contents eventQueueDepth e.ring e.tail e.head := by
    refine List.filter_eq_self.mpr (fun ev inside => ?_)
    obtain ⟨k, _, rfl⟩ := List.mem_map.mp inside
    exact live _ (Nat.mod_lt _ (by simp))
  rw [all, Lib.Ring.contents_length]

/-- The device after that poll(). -/
def toggledDevice (d : UsbIoDevice) : UsbIoDevice :=
  { d with
    dio := Function.update d.dio 0 (!d.dio 0)
    event := { (d.event.setWatch 0 (toggledWatch d)).fill (toggleEdge d) with
      head := d.event.head + 1 } }

/-- The do-while of poll() with nothing to do. -/
theorem drain_loops (served : d.resetDone = d.resetRequests) (drained : d.tail = d.head)
    (rest : Loops b env ⟨d, .shadow .enter, .drained :: .pollStarted :: log⟩ m') :
    Loops b env ⟨d, .idle, log⟩ m' := by
  have outerTest : Loops b env ⟨d, .drain .outerTest, .pollStarted :: log⟩ m' := by
    refine rest.step ?_
    simp only [loopStep, drainStep, if_neg (not_not.mpr served)]
    rfl
  have drainTest : Loops b env ⟨d, .drain .drainTest, .pollStarted :: log⟩ m' := by
    refine outerTest.step ?_
    simp only [loopStep, drainStep, if_neg (not_not.mpr drained)]
    rfl
  have resetTest : Loops b env ⟨d, .drain .resetTest, .pollStarted :: log⟩ m' := by
    refine drainTest.step ?_
    simp only [loopStep, drainStep, if_neg (not_not.mpr served)]
    rfl
  exact resetTest.step rfl

/-- refresh_shadow() of a one-pin board whose pin is an input. -/
theorem shadow_loops (pins : d.nPins = 1) (input : d.mode 0 = some .input) (cursor : d.ainCursor = 0)
    (rest : Loops b env
      ⟨{ d with dio := Function.update d.dio 0 (env.digitalRead 0) }, .event .readClock, log⟩ m') :
    Loops b env ⟨d, .shadow .enter, log⟩ m' := by
  have analogEnd : Loops b env
      ⟨{ d with dio := Function.update d.dio 0 (env.digitalRead 0) }, .shadow (.analog 1), log⟩ m' := by
    refine rest.step ?_
    simp [loopStep, shadowStep, pins]
  have analog : Loops b env
      ⟨{ d with dio := Function.update d.dio 0 (env.digitalRead 0) }, .shadow (.analog 0), log⟩ m' := by
    refine analogEnd.step ?_
    simp [loopStep, shadowStep, pins, cursor, input]
  have pinEnd : Loops b env
      ⟨{ d with dio := Function.update d.dio 0 (env.digitalRead 0) }, .shadow (.pin 1), log⟩ m' := by
    refine analog.step ?_
    simp [loopStep, shadowStep, pins]
  have pin : Loops b env ⟨d, .shadow (.pin 0), log⟩ m' := by
    refine pinEnd.step ?_
    simp [loopStep, shadowStep, pins, input, modeIsInput, readPin]
  refine pin.step ?_
  simp [loopStep, shadowStep, pins]

theorem Toggling.after (h : Toggling m) (log : Log) : Toggling ⟨toggledDevice m.dev, .idle, log⟩ := by
  have first : (toggledDevice m.dev).event.watch 0 = toggledWatch m.dev := by
    change Function.update m.dev.event.watch 0 (toggledWatch m.dev) 0 = toggledWatch m.dev
    exact Function.update_self ..
  constructor
  · rfl
  · exact h.pins
  · exact h.served
  · exact h.drained
  · exact h.input
  · exact h.cursor
  · exact (congrArg EventWatch.active first).trans h.active
  · exact (congrArg EventWatch.pin first).trans h.pin
  · exact (congrArg EventWatch.edgeMode first).trans h.edge
  · exact (congrArg EventWatch.debounceMs first).trans h.debounce
  · exact (congrArg EventWatch.debounceUntil first).trans h.expired
  · change ((toggledDevice m.dev).event.watch 0).seenSeq = ((toggledDevice m.dev).event.watch 0).armSeq
    rw [first]
    exact h.seen
  · exact (congrArg EventWatch.prevLevel first).trans
      (Function.update_self 0 (!m.dev.dio 0) m.dev.dio).symm
  · intro i below later
    have other : i ≠ 0 := by omega
    exact (congrArg EventWatch.active (Function.update_of_ne other ..)).trans (h.alone i below later)
  · intro slot below
    by_cases here : slot = ringSlot eventQueueDepth m.dev.event.head
    · subst here
      exact (congrArg UsbioEvent.live (Function.update_self ..)).trans rfl
    · exact (congrArg UsbioEvent.live (Function.update_of_ne here ..)).trans (h.live slot below)

/-- A poll() that finds the other level queues one edge. -/
theorem Toggling.poll (h : Toggling m) (bare : b.hasStreamTransport = false)
    (room : m.dev.event.queued.length < 32) :
    ∃ m', Loops b (toggled m) m m' ∧ Toggling m' ∧
      m'.dev.event.queued.length = m.dev.event.queued.length + 1 := by
  have room' : (m.dev.event.head - m.dev.event.tail).toNat < 32 := by
    rwa [← queued_of_live h.live]
  obtain ⟨log', slots⟩ := @slots_steps b 0 maxEventPins 0 (Nat.zero_add _)
    { m.dev with dio := Function.update m.dev.dio 0 (!m.dev.dio 0) }
    (.drained :: .pollStarted :: m.log)
  have returns : afterEvent b = .idle := by
    unfold afterEvent
    rw [bare]
    rfl
  have scanned := h.scan room' (Function.update_self 0 (!m.dev.dio 0) m.dev.dio)
  rw [returns] at slots
  dsimp only at slots
  rw [scanned] at slots
  refine ⟨⟨toggledDevice m.dev, .idle, log'⟩, ?_, ?_, ?_⟩
  · have clock : Loops b (toggled m) ⟨{ m.dev with dio := Function.update m.dev.dio 0 (!m.dev.dio 0) },
        .event .readClock, .drained :: .pollStarted :: m.log⟩ ⟨toggledDevice m.dev, .idle, log'⟩ := by
      refine (Loops.of_proceeds slots Loops.refl).step ?_
      simp [loopStep, eventStep, h.pins, toggled, stillEnv, returnLog]
    obtain ⟨d, pc, log⟩ := m
    obtain rfl : pc = .idle := h.idle
    exact drain_loops h.served h.drained (shadow_loops h.pins h.input h.cursor clock)
  · exact h.after log'
  · rw [queued_of_live (h.after log').live, queued_of_live h.live]
    exact Lib.Ring.count_head (lt_trans room' (by simp))

/-- Polls that find the pin toggling queue as many edges as there is room for. -/
theorem Toggling.polls {n : Nat} (h : Toggling m) (bare : b.hasStreamTransport = false)
    (room : m.dev.event.queued.length + n ≤ 32) :
    ∃ acts : List Act, (∀ act ∈ acts, ∃ env, act = .loop env) ∧ Toggling (run b m acts) ∧
      (run b m acts).dev.event.queued.length = m.dev.event.queued.length + n := by
  induction n generalizing m with
  | zero =>
    refine ⟨[], ?_, h, rfl⟩
    intro act inside
    exact absurd inside List.not_mem_nil
  | succ n ih =>
    obtain ⟨m', ⟨count, loops⟩, next, more⟩ := h.poll bare (by omega)
    obtain ⟨acts, only, last, filled⟩ := ih next (by omega)
    have joined : run b m (List.replicate count (.loop (toggled m)) ++ acts) = run b m' acts := by
      unfold run at loops ⊢
      rw [List.foldl_append, loops]
    refine ⟨List.replicate count (.loop (toggled m)) ++ acts, ?_, ?_, ?_⟩
    · intro act inside
      rcases List.mem_append.mp inside with polled | later
      · exact ⟨_, List.eq_of_mem_replicate polled⟩
      · exact only act later
    · rw [joined]
      exact last
    · rw [joined, filled, more]
      omega

end ArduinoDriver
