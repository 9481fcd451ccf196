import ArduinoDriver.Firmware.Scanning
import ArduinoDriver.Testing.Bench

namespace ArduinoDriver

/-- `Q` holds when the poll() that is executing returns, if it keeps the stream. -/
def Ends (b : Board) (Q : Bench → Prop) (t : Bench) : Prop :=
  if t.machine.pc = .idle then Q t
  else ∀ rs, t.completes b rs = true → t.streamsOn b rs = true → Q (t.poll b rs)

variable {b : Board} {Q : Bench → Prop} {t : Bench} {r : PollRead} {f : FakeTransport} {pads fed : Nat → Bool}
  {ms : UInt32} {m m' : Machine} {d : UsbIoDevice} {log : Log}

/-- What every first step leads to holds after the poll(). -/
theorem poll_ends (next : ∀ r, t.givesUp = false → Ends b Q (t.pollStep b r)) (rs : List PollRead)
    (complete : t.completes b rs = true) (streams : t.streamsOn b rs = true) : Q (t.poll b rs) := by
  cases rs with
  | nil => contradiction
  | cons r rs =>
    simp only [Bench.completes, Bench.streamsOn, Bench.poll, Bool.and_eq_true, Bool.or_eq_true,
      Bool.not_eq_true', beq_iff_eq] at complete streams ⊢
    have ends := next r streams.1
    unfold Ends at ends
    by_cases back : (t.pollStep b r).machine.pc = .idle
    · rw [if_pos back] at ends ⊢
      exact ends
    · rw [if_neg back] at ends ⊢
      exact ends rs (complete.resolve_left back) (streams.2.resolve_left back)

theorem Ends.step (running : t.machine.pc ≠ .idle)
    (next : ∀ r, t.givesUp = false → Ends b Q (t.pollStep b r)) : Ends b Q t := by
  unfold Ends
  rw [if_neg running]
  exact poll_ends next

theorem Ends.returned (idle : t.machine.pc = .idle) (h : Q t) : Ends b Q t := by
  unfold Ends
  rwa [if_pos idle]

/-- What every step keeps holds when poll() returns. -/
theorem Ends.invariant {I : Bench → Prop} (start : I t)
    (keep : ∀ t r, I t → t.machine.pc ≠ .idle → t.givesUp = false → I (t.pollStep b r))
    (done : ∀ t, I t → t.machine.pc = .idle → Q t) : Ends b Q t := by
  have run : ∀ rs t, I t → t.machine.pc ≠ .idle → t.completes b rs = true →
      t.streamsOn b rs = true → Q (t.poll b rs) := by
    intro rs
    induction rs with
    | nil =>
      intro t _ _ complete
      contradiction
    | cons r rs ih =>
      intro t start running complete streams
      simp only [Bench.completes, Bench.streamsOn, Bench.poll, Bool.and_eq_true, Bool.or_eq_true,
        Bool.not_eq_true', beq_iff_eq] at complete streams ⊢
      have kept := keep t r start running streams.1
      by_cases back : (t.pollStep b r).machine.pc = .idle
      · rw [if_pos back]
        exact done _ kept back
      · rw [if_neg back]
        exact ih _ kept back (complete.resolve_left back) (streams.2.resolve_left back)
  unfold Ends
  split
  · rename_i idle
    exact done t start idle
  · rename_i running
    exact fun rs => run rs t start running

theorem Pc.offPads_running {pc : Pc} (quiet : pc.offPads = true) : pc ≠ .idle := by
  intro idle
  rw [idle] at quiet
  contradiction

theorem Bench.driven_offPads (quiet : t.machine.pc.offPads = true) : t.driven r = t.pads := by
  unfold driven
  split
  · rename_i applies
    rw [applies] at quiet
    contradiction
  · rename_i executes
    rw [executes] at quiet
    contradiction
  · rfl

/-- Steps that read nothing and drive nothing. -/
theorem Ends.proceeds (h : Proceeds b m m') (rest : Ends b Q ⟨m', f, pads, fed, ms⟩) :
    Ends b Q ⟨m, f, pads, fed, ms⟩ := by
  induction h with
  | refl m => exact rest
  | step _ quiet one ih =>
    refine .step (Pc.offPads_running quiet) (fun r _ => ?_)
    unfold Bench.pollStep
    rw [one, Bench.driven_offPads quiet]
    exact ih rest

/-- The shadow once refresh_shadow() has read the input pins below `n`. -/
def UsbIoDevice.refreshed (d : UsbIoDevice) (pads : Nat → Bool) (n : Nat) : Nat → Bool :=
  fun p => if p < n ∧ modeIsInput (d.mode p) then pads p else d.dio p

theorem refreshed_zero : d.refreshed pads 0 = d.dio := by
  funext p
  exact if_neg (fun h => absurd h.1 (Nat.not_lt_zero p))

theorem refreshed_succ (p : Nat) :
    d.refreshed pads (p + 1) = if modeIsInput (d.mode p) then
      Function.update (d.refreshed pads p) p (pads p) else d.refreshed pads p := by
  funext q
  have same : q ≠ p → (q < p + 1 ↔ q < p) := fun other => by omega
  by_cases here : q = p
  · subst q
    by_cases input : modeIsInput (d.mode p)
    · rw [if_pos input, Function.update_self]
      exact if_pos ⟨Nat.lt_succ_self p, input⟩
    · rw [if_neg input]
      exact (if_neg (fun h => input h.2)).trans (if_neg (fun h => input h.2)).symm
  · have elsewhere : d.refreshed pads (p + 1) q = d.refreshed pads p q := by
      simp only [UsbIoDevice.refreshed, same here]
    rw [elsewhere]
    split
    · exact (Function.update_of_ne here ..).symm
    · rfl

theorem pins_end (left p : Nat) (rest : p + left = d.nPins)
    (h : Ends b Q ⟨⟨{ d with dio := d.refreshed pads d.nPins }, .shadow (.analog 0), log⟩, f, pads, fed, ms⟩) :
    Ends b Q ⟨⟨{ d with dio := d.refreshed pads p }, .shadow (.pin p), log⟩, f, pads, fed, ms⟩ := by
  induction left generalizing p with
  | zero =>
    obtain rfl : p = d.nPins := rest
    refine .step (by simp) (fun r _ => ?_)
    simp only [Bench.pollStep, Bench.driven, loopStep, shadowStep, lt_irrefl, if_false]
    exact h
  | succ left ih =>
    have more : p < d.nPins := by omega
    refine .step (by simp) (fun r _ => ?_)
    have next := ih (p + 1) (by omega)
    rw [refreshed_succ] at next
    simp only [Bench.pollStep, Bench.driven, loopStep, shadowStep, if_pos more]
    by_cases input : modeIsInput (d.mode p)
    · rw [if_pos input] at next ⊢
      exact next
    · rw [if_neg input] at next ⊢
      exact next

theorem analog_end (left i : Nat) (rest : i + left = d.nPins) (cursor : Nat)
    (h : ∀ ain cursor, Ends b Q
      ⟨⟨{ d with ain := ain, ainCursor := cursor }, .event .readClock, log⟩, f, pads, fed, ms⟩) :
    Ends b Q ⟨⟨{ d with ainCursor := cursor }, .shadow (.analog i), log⟩, f, pads, fed, ms⟩ := by
  induction left generalizing i cursor with
  | zero =>
    obtain rfl : i = d.nPins := rest
    refine .step (by simp) (fun r _ => ?_)
    simp only [Bench.pollStep, Bench.driven, loopStep, shadowStep, lt_irrefl, if_false]
    exact h d.ain cursor
  | succ left ih =>
    have more : i < d.nPins := by omega
    refine .step (by simp) (fun r _ => ?_)
    simp only [Bench.pollStep, Bench.driven, loopStep, shadowStep, if_pos more]
    split
    · exact h _ _
    · exact ih (i + 1) (by omega) _

/-- event_poll() reads the clock once. -/
theorem event_ends (h : ∀ log', Ends b Q
      ⟨⟨{ d with event := eventPoll d ms }, afterEvent b, log'⟩, f, pads, fed, ms⟩) :
    Ends b Q ⟨⟨d, .event .readClock, log⟩, f, pads, fed, ms⟩ := by
  refine .step (by simp) (fun r _ => ?_)
  unfold eventPoll at h
  by_cases none_yet : d.nPins = 0
  · simp only [Bench.pollStep, Bench.driven, loopStep, eventStep, if_pos none_yet]
    rw [if_pos none_yet] at h
    exact h _
  · rw [if_neg none_yet] at h
    obtain ⟨log', slots⟩ := @slots_steps b ms maxEventPins 0 (Nat.zero_add _) d log
    simp only [Bench.pollStep, Bench.driven, loopStep, eventStep, if_neg none_yet]
    refine Ends.proceeds slots ?_
    rw [← List.range_eq_range']
    exact h log'

/-- The stream as STREAM_* requests see it. -/
structure StreamState.Alike (s' s : StreamState) : Prop where
  channels : s'.channels = s.channels
  nChannels : s'.nChannels = s.nChannels
  running : s'.running = s.running
  flags : s'.flags = s.flags
  periodUs : s'.periodUs = s.periodUs

theorem StreamState.Alike.trans {s s' s'' : StreamState} (h : s''.Alike s') (h' : s'.Alike s) :
    s''.Alike s :=
  ⟨h.channels.trans h'.channels, h.nChannels.trans h'.nChannels, h.running.trans h'.running,
    h.flags.trans h'.flags, h.periodUs.trans h'.periodUs⟩

/-- stream_poll() keeps what STREAM_* requests see, until it gives the stream up. -/
theorem streamStep_alike (env : Env) (d : UsbIoDevice) (pc : StreamPc)
    (keeps : d.stream.running = true → pc ≠ .failStop ∧ ∀ now, pc ≠ .stopRunning now) :
    (streamStep b env d pc).1.Alike d.stream := by
  have stays : StreamState.Alike d.stream d.stream := ⟨rfl, rfl, rfl, rfl, rfl⟩
  cases pc with
  | stopRunning now =>
    have off : d.stream.running = false :=
      Bool.eq_false_iff.mpr (fun on => (keeps on).2 now rfl)
    exact ⟨rfl, rfl, off.symm, rfl, rfl⟩
  | failStop =>
    have off : d.stream.running = false := Bool.eq_false_iff.mpr (fun on => (keeps on).1 rfl)
    exact ⟨rfl, rfl, off.symm, rfl, rfl⟩
  | catchUp now =>
    simp only [streamStep]
    split
    · exact stays
    · exact ⟨rfl, rfl, rfl, rfl, rfl⟩
  | packRecord =>
    simp only [streamStep]
    split
    · split
      · exact stays
      · exact ⟨rfl, rfl, rfl, rfl, rfl⟩
    · exact stays
  | flushTest =>
    simp only [streamStep]
    split
    · exact stays
    · split <;> exact stays
  | writeResult packet =>
    simp only [streamStep]
    split
    · exact stays
    · exact ⟨rfl, rfl, rfl, rfl, rfl⟩
    · exact ⟨rfl, rfl, rfl, rfl, rfl⟩
  | _ => exact ⟨rfl, rfl, rfl, rfl, rfl⟩

theorem stream_ends {pc : StreamPc} (h : ∀ s log', s.Alike d.stream →
      Q ⟨⟨{ d with stream := s }, .idle, log'⟩, f, pads, fed, ms⟩) :
    Ends b Q ⟨⟨d, .stream pc, log⟩, f, pads, fed, ms⟩ := by
  refine @Ends.invariant b Q _ (fun t => ∃ s pc log', s.Alike d.stream ∧
      (pc = .idle ∨ ∃ at_pc, pc = .stream at_pc) ∧
      t = ⟨⟨{ d with stream := s }, pc, log'⟩, f, pads, fed, ms⟩)
    ⟨d.stream, _, log, ⟨rfl, rfl, rfl, rfl, rfl⟩, .inr ⟨pc, rfl⟩, rfl⟩ ?_ ?_
  · rintro t r ⟨s, pc, log', same, at_stream, rfl⟩ running keeps
    rcases at_stream with rfl | ⟨pc, rfl⟩
    · exact absurd rfl running
    · have alike := @streamStep_alike b
        (Bench.env ⟨⟨{ d with stream := s }, .stream pc, log'⟩, f, pads, fed, ms⟩ r)
        { d with stream := s } pc (fun on => by
          unfold Bench.givesUp at keeps
          dsimp only at keeps
          rw [show s.running = true from on, Bool.true_and] at keeps
          refine ⟨?_, fun now => ?_⟩
          · rintro rfl
            contradiction
          · rintro rfl
            contradiction)
      refine ⟨_, _, _, alike.trans same, ?_, rfl⟩
      dsimp only [Bench.env]
      cases (streamStep b _ { d with stream := s } pc).2.1 with
      | none => exact .inl rfl
      | some next => exact .inr ⟨next, rfl⟩
  · rintro t ⟨s, pc, log', same, _, rfl⟩ idle
    obtain rfl : pc = .idle := idle
    exact h s log' same

/-- What the rest of a poll() makes of a device with nothing left to execute. -/
def After (d : UsbIoDevice) (pads : Nat → Bool) (ms : UInt32) (d' : UsbIoDevice) : Prop :=
  ∃ ain cursor s, StreamState.Alike s d.stream ∧
    d' = { d with
      dio := d.refreshed pads d.nPins
      ain := ain
      ainCursor := cursor
      event := eventPoll { d with dio := d.refreshed pads d.nPins } ms
      stream := s }

/-- refresh_shadow(), event_poll() and stream_poll(). -/
theorem refresh_ends (h : ∀ d' log', After d pads ms d' → Q ⟨⟨d', .idle, log'⟩, f, pads, fed, ms⟩) :
    Ends b Q ⟨⟨d, .shadow .enter, log⟩, f, pads, fed, ms⟩ := by
  have afterwards : ∀ ain cursor log', Ends b Q ⟨⟨{ d with
      dio := d.refreshed pads d.nPins
      ain := ain
      ainCursor := cursor
      event := eventPoll { d with dio := d.refreshed pads d.nPins } ms },
      afterEvent b, log'⟩, f, pads, fed, ms⟩ := by
    intro ain cursor log'
    unfold afterEvent
    split
    · exact stream_ends (fun s log' same => h _ log' ⟨ain, cursor, s, same, rfl⟩)
    · exact .returned rfl (h _ log' ⟨ain, cursor, d.stream, ⟨rfl, rfl, rfl, rfl, rfl⟩, rfl⟩)
  have scan : ∀ ain cursor, Ends b Q ⟨⟨{ d with
      dio := d.refreshed pads d.nPins
      ain := ain
      ainCursor := cursor }, .event .readClock, log⟩, f, pads, fed, ms⟩ :=
    fun ain cursor => event_ends (fun log' => afterwards ain cursor log')
  refine .step (by simp) (fun r _ => ?_)
  simp only [Bench.pollStep, Bench.driven, loopStep, shadowStep]
  by_cases none_yet : d.nPins = 0
  · rw [if_pos none_yet]
    have unread : d.refreshed pads d.nPins = d.dio := by
      rw [none_yet]
      exact refreshed_zero
    have first := scan d.ain d.ainCursor
    rw [unread] at first
    exact first
  · rw [if_neg none_yet]
    have pins := @pins_end b Q f pads fed ms d log d.nPins 0 (Nat.zero_add _)
      (@analog_end b Q f pads fed ms { d with dio := d.refreshed pads d.nPins } log d.nPins 0
        (Nat.zero_add _) d.ainCursor scan)
    rw [refreshed_zero] at pins
    exact pins

/-- The do-while with nothing queued. -/
theorem drain_empty (calm : d.resetDone = d.resetRequests) (empty : d.tail = d.head) :
    Proceeds b ⟨d, .drain .drainTest, log⟩ ⟨d, .shadow .enter, .drained :: log⟩ := by
  have outerTest : Proceeds b ⟨d, .drain .outerTest, log⟩ ⟨d, .shadow .enter, .drained :: log⟩ := by
    refine (Proceeds.refl _).step rfl (fun env => ?_)
    simp only [loopStep, drainStep, if_neg (not_not.mpr calm)]
    rfl
  refine outerTest.step rfl (fun env => ?_)
  simp only [loopStep, drainStep, if_neg (not_not.mpr empty)]
  rfl

theorem drain_calm (calm : d.resetDone = d.resetRequests) (empty : d.tail = d.head) :
    Proceeds b ⟨d, .drain .resetTest, log⟩ ⟨d, .shadow .enter, .drained :: log⟩ := by
  refine (drain_empty calm empty).step rfl (fun env => ?_)
  simp only [loopStep, drainStep, if_neg (not_not.mpr calm)]
  rfl

/-- The shadow after one command; `pads` answers digitalRead(). -/
def UsbIoDevice.shadowAfter (b : Board) (d : UsbIoDevice) (pads : Nat → Bool) (c : Command) : Nat → Bool :=
  match c.cmd with
  | .pinMode =>
    match PinMode.ofCode? c.value.toUInt8.toUInt16 with
    | some mode =>
      if (padMode b mode).isSome then Function.update d.dio c.pin (pads c.pin) else d.dio
    | none => d.dio
  | .dioWrite => Function.update d.dio c.pin (decide (c.value ≠ 0))
  | _ => d.dio

theorem execute_shadow (env : Env) (d : UsbIoDevice) (c : Command) :
    ∃ ain, (execute b env d c).1 = { d with dio := d.shadowAfter b env.digitalRead c, ain := ain } := by
  obtain ⟨cmd, pin, epoch, value⟩ := c
  unfold execute UsbIoDevice.shadowAfter
  cases cmd with
  | pinMode =>
    dsimp only
    cases PinMode.ofCode? value.toUInt8.toUInt16 with
    | none => exact ⟨d.ain, rfl⟩
    | some mode =>
      unfold applyMode
      dsimp only
      cases padMode b mode with
      | some pad => exact ⟨d.ain, rfl⟩
      | none =>
        by_cases analog : mode = .analogIn
        · exact ⟨Function.update d.ain pin (readAnalog env pin), by rw [if_pos analog]; rfl⟩
        · exact ⟨d.ain, by rw [if_neg analog]; rfl⟩
  | _ => exact ⟨d.ain, rfl⟩

/-- poll() with nothing to execute. -/
theorem poll_calm (calm : d.resetDone = d.resetRequests) (empty : d.tail = d.head)
    (h : ∀ d' log', After d pads ms d' → Q ⟨⟨d', .idle, log'⟩, f, pads, fed, ms⟩) (rs : List PollRead)
    (complete : Bench.completes b ⟨⟨d, .idle, log⟩, f, pads, fed, ms⟩ rs = true)
    (streams : Bench.streamsOn b ⟨⟨d, .idle, log⟩, f, pads, fed, ms⟩ rs = true) :
    Q (Bench.poll b ⟨⟨d, .idle, log⟩, f, pads, fed, ms⟩ rs) := by
  refine poll_ends (fun r _ => ?_) rs complete streams
  exact Ends.proceeds (drain_calm calm empty) (refresh_ends h)

/-- poll() with one command to execute. -/
theorem poll_command {c : Command} (calm : d.resetDone = d.resetRequests)
    (one : d.tail + 1 = d.head) (slot : d.queue (ringSlot queueDepth d.tail) = c)
    (current : c.epoch = d.epoch)
    (h : ∀ level d' log', After { d with
        dio := d.shadowAfter b (c.driven pads fed level) c
        tail := d.tail + 1 } (c.driven pads fed level) ms d' →
      Q ⟨⟨d', .idle, log'⟩, f, c.driven pads fed level, fed, ms⟩) (rs : List PollRead)
    (complete : Bench.completes b ⟨⟨d, .idle, log⟩, f, pads, fed, ms⟩ rs = true)
    (streams : Bench.streamsOn b ⟨⟨d, .idle, log⟩, f, pads, fed, ms⟩ rs = true) :
    Q (Bench.poll b ⟨⟨d, .idle, log⟩, f, pads, fed, ms⟩ rs) := by
  have more : d.tail ≠ d.head := by
    intro none_left
    rw [none_left] at one
    have := congrArg UInt8.toNat one
    simp only [UInt8.toNat_add, UInt8.toNat_one] at this
    have := d.head.toNat_lt
    omega
  let d₁ : UsbIoDevice := { d with tail := d.tail + 1 }
  -- once executed, nothing is left
  have executed : ∀ log', Ends b Q ⟨⟨d₁, .drain (.execute c), log'⟩, f, pads, fed, ms⟩ := by
    intro log'
    refine .step (by simp) (fun r _ => ?_)
    obtain ⟨ain, run⟩ := @execute_shadow b
      (Bench.env ⟨⟨d₁, .drain (.execute c), log'⟩, f, pads, fed, ms⟩ r) d₁ c
    simp only [Bench.pollStep, Bench.driven, loopStep, drainStep, run]
    exact Ends.proceeds (drain_empty calm one) (refresh_ends (h r.underAnalog))
  have epochTest : ∀ log',
      Proceeds b ⟨d₁, .drain (.epochTest c), log'⟩ ⟨d₁, .drain (.execute c), log'⟩ := by
    intro log'
    refine (Proceeds.refl _).step rfl (fun env => ?_)
    simp only [loopStep, drainStep]
    rw [if_pos current]
    rfl
  have bumpTail : ∀ log',
      Proceeds b ⟨d, .drain (.bumpTail d.tail c), log'⟩ ⟨d₁, .drain (.execute c), log'⟩ :=
    fun log' => (epochTest log').step rfl (fun _ => rfl)
  have copySlot : ∀ log', Proceeds b ⟨d, .drain .copySlot, log'⟩ ⟨d₁, .drain (.execute c), log'⟩ := by
    refine fun log' => (bumpTail log').step rfl (fun env => ?_)
    simp only [loopStep, drainStep, slot]
    rfl
  have drainTest : ∀ log', Proceeds b ⟨d, .drain .drainTest, log'⟩ ⟨d₁, .drain (.execute c), log'⟩ := by
    refine fun log' => (copySlot log').step rfl (fun env => ?_)
    simp only [loopStep, drainStep, if_pos more]
    rfl
  have resetTest : ∀ log', Proceeds b ⟨d, .drain .resetTest, log'⟩ ⟨d₁, .drain (.execute c), log'⟩ := by
    refine fun log' => (drainTest log').step rfl (fun env => ?_)
    simp only [loopStep, drainStep, if_neg (not_not.mpr calm)]
    rfl
  refine poll_ends (fun r _ => ?_) rs complete streams
  exact Ends.proceeds (resetTest _) (executed _)

/-- The shadow after apply_reset(). -/
def UsbIoDevice.shadowReset (d : UsbIoDevice) (pads : Nat → Bool) : Nat → Bool := fun p =>
  if p < d.nPins then (if hasCap (d.caps p) capDio then pads p else false) else d.dio p

/-- poll() with a RESET to apply. -/
theorem poll_reset (pending : d.resetDone ≠ d.resetRequests) (empty : d.tail = d.head)
    (h : ∀ d' log', After { d with
        dio := d.shadowReset (d.driven pads fed)
        resetDone := d.resetRequests } (d.driven pads fed) ms d' →
      Q ⟨⟨d', .idle, log'⟩, f, d.driven pads fed, fed, ms⟩) (rs : List PollRead)
    (complete : Bench.completes b ⟨⟨d, .idle, log⟩, f, pads, fed, ms⟩ rs = true)
    (streams : Bench.streamsOn b ⟨⟨d, .idle, log⟩, f, pads, fed, ms⟩ rs = true) :
    Q (Bench.poll b ⟨⟨d, .idle, log⟩, f, pads, fed, ms⟩ rs) := by
  let d₁ : UsbIoDevice := { d with
    dio := d.shadowReset (d.driven pads fed)
    ain := fun p => if p < d.nPins then 0 else d.ain p
    ainCursor := 0 }
  have resetDone : ∀ log', Proceeds b ⟨d₁, .drain (.resetDone d.resetRequests), log'⟩
      ⟨{ d₁ with resetDone := d.resetRequests }, .shadow .enter, .drained :: log'⟩ := by
    intro log'
    have left := @drain_calm b { d₁ with resetDone := d.resetRequests } log' rfl empty
    exact left.step rfl (fun _ => rfl)
  have applied : ∀ log', Ends b Q ⟨⟨d, .drain (.resetApply d.resetRequests), log'⟩, f, pads, fed, ms⟩ :=
    fun log' => .step (by simp) (fun r _ => Ends.proceeds (resetDone _) (refresh_ends h))
  have resetSeen : ∀ log', Proceeds b ⟨d, .drain .resetSeen, log'⟩
      ⟨d, .drain (.resetApply d.resetRequests), log'⟩ :=
    fun log' => (Proceeds.refl _).step rfl (fun _ => rfl)
  have resetTest : ∀ log', Proceeds b ⟨d, .drain .resetTest, log'⟩
      ⟨d, .drain (.resetApply d.resetRequests), log'⟩ := by
    refine fun log' => (resetSeen log').step rfl (fun env => ?_)
    simp only [loopStep, drainStep, if_pos pending]
    rfl
  refine poll_ends (fun r _ => ?_) rs complete streams
  exact Ends.proceeds (resetTest _) (applied _)

end ArduinoDriver
