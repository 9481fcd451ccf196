import ArduinoDriver.Host.Agreement
import ArduinoDriver.Testing.Scans

namespace ArduinoDriver

/-- The fake has the level at each OUTPUT's pad, and the level fed to every other pin. -/
structure SameLevels (caps : Nat → UInt8) (mode : Nat → Option PinMode)
    (dio fake pads fed : Nat → Bool) : Prop where
  others : ∀ p, mode p ≠ some .output → fake p = fed p
  outputs : ∀ p, mode p = some .output → dio p = pads p ∧ fake p = pads p
  inputs : ∀ p, modeIsInput (mode p) = true → pads p = fed p
  released : ∀ p, hasCap (caps p) capDio = true → drivesPad (mode p) = false → pads p = fed p

/-- What poll() does not decide: the fake records of it what the firmware does. -/
structure Matched (b : Board) (d : UsbIoDevice) (f : FakeTransport) (pads fed : Nat → Bool)
    (ms : UInt32) : Prop where
  board : f.board = b.fakeBoard
  faults : f.faults = .inert
  mode : f.mode = d.mode
  lastError : f.lastError = d.lastError
  levels : SameLevels d.caps d.mode d.dio f.dio pads fed
  clock : f.millis = ms
  running : f.streamRunning = d.stream.running
  selected : f.streamSelected = d.stream.selection
  flags : f.streamFlags = d.stream.flags
  periodUs : f.streamPeriodUs = d.stream.periodUs

/-- Nothing queued and no RESET to apply. -/
structure UsbIoDevice.Calm (d : UsbIoDevice) : Prop where
  empty : d.tail = d.head
  applied : d.resetDone = d.resetRequests

/-- The firmware between two polls beside the fake. -/
structure Agrees (b : Board) (t : Bench) : Prop where
  idle : t.machine.pc = .idle
  calm : t.machine.dev.Calm
  matched : Matched b t.machine.dev t.fake t.pads t.fed t.millis
  inputs : ∀ p < t.machine.dev.nPins, modeIsInput (t.machine.dev.mode p) = true →
    t.machine.dev.dio p = t.fed p
  events : ∃ twins, SameEvents t.machine.dev.event t.fake t.fed twins

/-- The poll() that is due leaves the two alike. -/
def Settles (b : Board) (t : Bench) : Prop :=
  ∀ rs, t.completes b rs = true → t.streamsOn b rs = true → Agrees b (t.poll b rs)

variable {b : Board} {d d' : UsbIoDevice} {f : FakeTransport} {pads fed : Nat → Bool} {ms : UInt32}
  {log : Log} {t : Bench} {pin : Nat} {twins : List (Nat × FakeWatch)}

theorem StreamState.Alike.selection {s' s : StreamState} (h : s'.Alike s) : s'.selection = s.selection := by
  unfold StreamState.selection
  rw [h.channels, h.nChannels]

/-- refresh_shadow() reads the levels fed: it looks at input pins only. -/
theorem Matched.refreshes (h : Matched b d f pads fed ms) :
    d.refreshed pads d.nPins = d.refreshed fed d.nPins := by
  funext p
  unfold UsbIoDevice.refreshed
  by_cases reads : p < d.nPins ∧ modeIsInput (d.mode p) = true
  · rw [if_pos reads, if_pos reads]
    exact h.levels.inputs p reads.2
  · rw [if_neg reads, if_neg reads]

/-- The end of a poll(). -/
theorem Matched.refreshed (h : Matched b d f pads fed ms) (calm : d.Calm)
    (events : ∃ twins, SameEvents (eventPoll { d with dio := d.refreshed fed d.nPins } ms) f fed twins)
    (after : After d pads ms d') : Agrees b ⟨⟨d', .idle, log⟩, f, pads, fed, ms⟩ := by
  obtain ⟨ain, cursor, s, same, rfl⟩ := after
  rw [h.refreshes]
  refine ⟨rfl, ⟨calm.empty, calm.applied⟩, ?_, fun p known input => if_pos ⟨known, input⟩, events⟩
  refine ⟨h.board, h.faults, h.mode, h.lastError, ⟨h.levels.others, fun p output => ?_, h.levels.inputs,
    h.levels.released⟩, h.clock, h.running.trans same.running.symm, h.selected.trans same.selection.symm,
    h.flags.trans same.flags.symm, h.periodUs.trans same.periodUs.symm⟩
  have driven : ¬ (p < d.nPins ∧ modeIsInput (d.mode p) = true) := by
    rintro ⟨_, input⟩
    rw [show d.mode p = some .output from output] at input
    contradiction
  obtain ⟨shadow, fake⟩ := h.levels.outputs p output
  exact ⟨(if_neg driven).trans shadow, fake⟩

/-- poll() with nothing to do but look at the pads. -/
theorem Matched.settles (h : Matched b d f pads fed ms) (calm : d.Calm)
    (events : ∃ twins, SameEvents (eventPoll { d with dio := d.refreshed fed d.nPins } ms) f fed twins) :
    Settles b ⟨⟨d, .idle, log⟩, f, pads, fed, ms⟩ := fun rs complete streams =>
  poll_calm calm.applied calm.empty (fun _ _ after => h.refreshed calm events after) rs complete streams

/-- poll() when the pads are as they were. -/
theorem Matched.rests (h : Matched b d f pads fed ms) (calm : d.Calm)
    (events : SameEvents d.event f fed twins)
    (table : WatchTable d.nPins d.caps d.mode d.event.watch d.event.nWatched) :
    Settles b ⟨⟨d, .idle, log⟩, f, pads, fed, ms⟩ :=
  h.settles calm ⟨twins, (events.polled table).symm ▸ events⟩

theorem Agrees.settles (h : Agrees b t) (ok : Invariant b t.machine.dev) : Settles b t := by
  obtain ⟨⟨d, pc, log⟩, f, pads, fed, ms⟩ := t
  obtain rfl : pc = .idle := h.idle
  obtain ⟨twins, events⟩ := h.events
  exact h.matched.rests h.calm events ok.watches

/-- A handler of the firmware and the fake's: one verdict, one reason on record, and alike
after the poll(), if the fake follows. -/
structure Alongside (follows : Prop) (b : Board) (t : Bench) (r : UsbIoDevice × Bool)
    (q : FakeTransport × Bool) : Prop where
  verdict : r.2 = q.2
  reason : r.1.lastError = q.1.lastError
  settles : Invariant b r.1 → follows →
    ∀ log, Settles b ⟨⟨r.1, .idle, log⟩, q.1, t.pads, t.fed, t.millis⟩

variable {follows : Prop} {r : UsbIoDevice × Bool} {q : FakeTransport × Bool} {reason : Status}

theorem Agrees.refuse (h : Agrees b t) (reason : Status) :
    Alongside follows b t (stall t.machine.dev reason) (t.fake.stall reason) := by
  obtain ⟨twins, events⟩ := h.events
  refine ⟨rfl, rfl, fun ok _ log => ?_⟩
  exact Matched.rests ⟨h.matched.board, h.matched.faults, h.matched.mode, rfl, h.matched.levels,
    h.matched.clock, h.matched.running, h.matched.selected, h.matched.flags, h.matched.periodUs⟩
    ⟨h.calm.empty, h.calm.applied⟩
    ⟨events.queue, events.dropped, events.watches, events.slots, events.order, events.alike⟩ ok.watches

/-- A check that the two make alike. -/
theorem Alongside.row {bad bad' : Prop} [Decidable bad] [Decidable bad'] (h : Agrees b t)
    (same : bad ↔ bad') (next : ¬ bad → Alongside follows b t r q) :
    Alongside follows b t (if bad then stall t.machine.dev reason else r)
      (if bad' then t.fake.stall reason else q) := by
  by_cases fails : bad
  · rw [if_pos fails, if_pos (same.mp fails)]
    exact h.refuse reason
  · rw [if_neg fails, if_neg (fun fails' => fails (same.mpr fails'))]
    exact next fails

/-- The event fields of the fake are all that counts. -/
theorem SameEvents.congr {e : EventState} {f' : FakeTransport} (h : SameEvents e f fed twins)
    (queue : f'.eventQueue = f.eventQueue) (dropped : f'.eventDropped = f.eventDropped)
    (watches : f'.eventWatch = f.eventWatch) : SameEvents e f' fed twins :=
  ⟨queue.trans h.queue, dropped.trans h.dropped, watches.trans h.watches, h.slots, h.order, h.alike⟩

theorem Alongside.accept {f' : FakeTransport} (matched : Matched b d' f' t.pads t.fed t.millis)
    (calm : d'.Calm) (events : ∃ twins, SameEvents d'.event f' t.fed twins) :
    Alongside follows b t (d', true) (f', true) := by
  obtain ⟨twins, events⟩ := events
  exact ⟨rfl, matched.lastError.symm, fun ok _ log => matched.rests calm events ok.watches⟩

theorem fakeBoard_nPins (b : Board) : b.fakeBoard.nPins = b.pinCount := by
  have few : b.pinCount ≤ 128 := b.pinCount_le
  change (UInt8.ofNat ((List.range b.pinCount).map _).length).toNat = _
  rw [List.length_map, List.length_range, UInt8.toNat_ofNat']
  omega

theorem fakeBoard_pinCaps (known : pin < b.pinCount) : b.fakeBoard.pinCaps pin = (boot b).dev.caps pin := by
  unfold FakeBoard.pinCaps
  change ((List.range b.pinCount).map _).getD pin 0 = _
  rw [List.getD_eq_getElem?_getD, List.getElem?_map, List.getElem?_range known]
  rfl

theorem Agrees.nPins (h : Agrees b t) (reached : Reachable b t.machine) :
    t.fake.board.nPins = t.machine.dev.nPins := by
  rw [h.matched.board, fakeBoard_nPins, (reach_begun reached).nPins]

theorem Agrees.caps (h : Agrees b t) (reached : Reachable b t.machine)
    (known : pin < t.machine.dev.nPins) :
    t.fake.board.pinCaps pin = t.machine.dev.caps pin := by
  rw [(reach_begun reached).nPins] at known
  rw [h.matched.board, fakeBoard_pinCaps known, (reachable_identity reached).caps]

theorem Agrees.flags (h : Agrees b t) (reached : Reachable b t.machine) :
    t.fake.board.flags = t.machine.dev.flags := by
  rw [h.matched.board, (reachable_identity reached).flags]
  rfl

theorem Agrees.pinTest (h : Agrees b t) (reached : Reachable b t.machine) :
    t.machine.dev.nPins ≤ pin ↔ t.fake.board.nPins ≤ pin := by
  rw [h.nPins reached]

/-- The stream is there on both or on neither. -/
theorem Agrees.streams (h : Agrees b t) (reached : Reachable b t.machine)
    (next : hasFlag t.machine.dev.flags flagStreaming = true → Alongside follows b t r q) :
    Alongside follows b t
      (if b.hasStreamTransport then r else stall t.machine.dev .unsupported)
      (if hasFlag t.fake.board.flags flagStreaming then q else t.fake.stall .unsupported) := by
  have told := (reach_begun reached).streaming
  rw [h.flags reached, ← told]
  by_cases streams : hasFlag t.machine.dev.flags flagStreaming = true
  · rw [if_pos streams, if_pos streams]
    exact next streams
  · rw [if_neg streams, if_neg streams]
    exact h.refuse _

theorem isInputMode_eq (mode : Option PinMode) : isInputMode mode = modeIsInput mode := by
  cases mode with
  | none => rfl
  | some mode => cases mode <;> rfl

theorem isDigitalMode_eq (mode : Option PinMode) : isDigitalMode mode = modeIsDigital mode := by
  cases mode with
  | none => rfl
  | some mode => cases mode <;> rfl

theorem Agrees.running (h : Agrees b t) :
    t.machine.dev.stream.running = true ↔ t.fake.streamRunning = true := by
  rw [h.matched.running]

/-- A stream request that is accepted. -/
theorem Agrees.streamed (h : Agrees b t) {s : StreamState} {running : Bool} {selected : List Nat}
    {flags : UInt8} {periodUs : UInt16} {seq overruns : UInt32} (same_running : running = s.running)
    (same_selected : selected = s.selection) (same_flags : flags = s.flags)
    (same_period : periodUs = s.periodUs) :
    Alongside follows b t ({ t.machine.dev with stream := s }, true)
      ({ t.fake with
        streamRunning := running
        streamSelected := selected
        streamFlags := flags
        streamPeriodUs := periodUs
        streamSeq := seq
        streamOverruns := overruns }, true) := by
  obtain ⟨twins, events⟩ := h.events
  exact .accept ⟨h.matched.board, h.matched.faults, h.matched.mode, h.matched.lastError,
    h.matched.levels, h.matched.clock, same_running, same_selected, same_flags,
    same_period⟩ ⟨h.calm.empty, h.calm.applied⟩ ⟨twins, events.congr rfl rfl rfl⟩

theorem handleStreamStop_alongside (h : Agrees b t) (reached : Reachable b t.machine) :
    Alongside follows b t
      (if b.hasStreamTransport then handleStreamStop t.machine.dev else stall t.machine.dev .unsupported)
      (if hasFlag t.fake.board.flags flagStreaming then ({ t.fake with streamRunning := false }, true)
        else t.fake.stall .unsupported) := by
  refine h.streams reached (fun streams => ?_)
  unfold handleStreamStop
  rw [streams, Bool.not_true, if_neg Bool.false_ne_true]
  exact h.streamed rfl h.matched.selected h.matched.flags h.matched.periodUs

theorem handleStreamStart_alongside (h : Agrees b t) (reached : Reachable b t.machine)
    (value index : UInt16) :
    Alongside follows b t
      (if b.hasStreamTransport then handleStreamStart t.machine.dev value index
        else stall t.machine.dev .unsupported)
      (if hasFlag t.fake.board.flags flagStreaming then t.fake.handleStreamStart value index
        else t.fake.stall .unsupported) := by
  refine h.streams reached (fun streams => ?_)
  have period : (if t.fake.board.streamMinPeriodUs ≠ 0 then t.fake.board.streamMinPeriodUs
      else streamLegacyMinPeriodUs) = streamMinPeriodUs := by
    rw [h.matched.board]
    rfl
  have selected : t.machine.dev.stream.nChannels = 0 ↔ t.fake.streamSelected = [] := by
    rw [h.matched.selected, List.eq_nil_iff_length_eq_zero, StreamState.selection_length,
      ← UInt8.toNat_inj]
    rfl
  unfold handleStreamStart FakeTransport.handleStreamStart
  dsimp only
  rw [streams, Bool.not_true, if_neg Bool.false_ne_true, period]
  refine .row h h.running (fun _ => .row h selected (fun _ => ?_))
  refine .row h Iff.rfl (fun _ => .row h Iff.rfl (fun _ => ?_))
  exact h.streamed rfl h.matched.selected rfl rfl

theorem handleStreamSelect_alongside (h : Agrees b t) (reached : Reachable b t.machine)
    (value index : UInt16) :
    Alongside follows b t
      (if b.hasStreamTransport then handleStreamSelect t.machine.dev value index
        else stall t.machine.dev .unsupported)
      (if hasFlag t.fake.board.flags flagStreaming then t.fake.handleStreamSelect value index
        else t.fake.stall .unsupported) := by
  refine h.streams reached (fun streams => ?_)
  unfold handleStreamSelect FakeTransport.handleStreamSelect
  dsimp only
  rw [streams, Bool.not_true, if_neg Bool.false_ne_true]
  refine .row h h.running (fun _ => .row h (h.pinTest reached) (fun _ => ?_))
  have fits : (t.machine.dev.mode index.toNat ≠ some .analogIn ∧
      (!modeIsInput (t.machine.dev.mode index.toNat)) = true) ↔
      (!(isInputMode (t.fake.mode index.toNat) || t.fake.mode index.toNat == some .analogIn)) = true := by
    rw [isInputMode_eq, h.matched.mode, Bool.not_or, Bool.and_eq_true, and_comm]
    simp
  refine .row h fits (fun _ => .row h Iff.rfl (fun _ => ?_))
  have listed := channelIndex_isSome t.machine.dev index.toNat
  rw [← h.matched.selected] at listed
  have unchanged : Alongside follows b t (t.machine.dev, true) (t.fake, true) :=
    .accept h.matched h.calm h.events
  by_cases adds : value ≠ 0
  · rw [if_pos adds, if_pos adds, listed]
    by_cases already : t.fake.streamSelected.contains index.toNat = true
    · rw [if_pos already, if_pos already]
      exact unchanged
    · rw [if_neg already, if_neg already]
      have limit : t.fake.board.streamMaxChannels.toNat = maxStreamChannels := by
        rw [h.matched.board]
        rfl
      have full : maxStreamChannels ≤ t.machine.dev.stream.nChannels.toNat ↔
          t.fake.board.streamMaxChannels.toNat ≤ t.fake.streamSelected.length := by
        rw [limit, h.matched.selected, StreamState.selection_length]
      refine .row h full (fun room => h.streamed h.matched.running ?_ h.matched.flags h.matched.periodUs)
      rw [h.matched.selected]
      exact (StreamState.selection_add _ (Nat.not_le.mp room)).symm
  · rw [if_neg adds, if_neg adds]
    have distinct := (reach_ok reached).dev.selected
    cases found : t.machine.dev.stream.channelIndex index.toNat with
    | none =>
      have absent : t.fake.streamSelected.erase index.toNat = t.fake.streamSelected := by
        rw [h.matched.selected, List.erase_of_not_mem (StreamState.channelIndex_selection.mp found)]
      rw [absent]
      exact unchanged
    | some i =>
      refine h.streamed h.matched.running ?_ h.matched.flags h.matched.periodUs
      rw [h.matched.selected, StreamState.selection_remove found distinct, distinct.erase_eq_filter]
      refine List.filter_congr (fun a _ => ?_)
      rw [Bool.eq_iff_iff, bne_iff_ne, decide_eq_true_iff]

/-- With nothing queued there is room for a command. -/
theorem UsbIoDevice.Calm.enqueue (calm : d.Calm) (cmd : Request) (value : UInt16) :
    enqueue d cmd pin value = some (d.queued cmd pin value) := by
  refine enqueue_eq_some.mpr ⟨?_, rfl⟩
  unfold UsbIoDevice.queuePending
  rw [calm.empty, UInt8.sub_self]
  simp

/-- An accepted command: poll() executes it and leaves the two alike. -/
theorem Alongside.command {f' : FakeTransport} {c : Command} (one : d'.tail + 1 = d'.head)
    (slot : d'.queue (ringSlot queueDepth d'.tail) = c) (current : c.epoch = d'.epoch)
    (applied : d'.resetDone = d'.resetRequests) (lastError : f'.lastError = d'.lastError)
    (levels : Invariant b d' → follows → ∀ level, let pads := c.driven t.pads t.fed level
      SameLevels d'.caps d'.mode (d'.shadowAfter b pads c) f'.dio pads t.fed)
    (matched : follows → ∀ dio pads, SameLevels d'.caps d'.mode dio f'.dio pads t.fed →
      Matched b { d' with dio := dio, tail := d'.tail + 1 } f' pads t.fed t.millis)
    (events : ∃ twins, SameEvents d'.event f' t.fed twins) :
    Alongside follows b t (d', true) (f', true) := by
  obtain ⟨twins, events⟩ := events
  refine ⟨rfl, lastError.symm, fun ok follow log rs complete streams => ?_⟩
  refine poll_command applied one slot current (fun level d'' log' after => ?_) rs complete streams
  refine (matched follow _ _ (levels ok follow level)).refreshed ⟨one, applied⟩ ⟨twins, ?_⟩ after
  have table : WatchTable d'.nPins d'.caps d'.mode d'.event.watch d'.event.nWatched := ok.watches
  have rests := @SameEvents.polled { d' with
    dio := d'.shadowAfter b (c.driven t.pads t.fed level) c
    tail := d'.tail + 1 } _ _ t.millis _ events table
  exact rests.symm ▸ events

theorem UsbIoDevice.Calm.queued_one (calm : d.Calm) : d.tail + 1 = d.head + 1 := by
  rw [calm.empty]

theorem UsbIoDevice.Calm.queued_slot (calm : d.Calm) (cmd : Request) (value : UInt16) :
    (d.queued cmd pin value).queue (ringSlot queueDepth d.tail) = ⟨cmd, pin, d.epoch, value⟩ := by
  rw [calm.empty]
  exact Function.update_self ..

theorem unwatchEvent_frame (f : FakeTransport) (pin : Nat) (purgeQueue : Bool) :
    ∃ watches queue, f.unwatchEvent pin purgeQueue =
      { f with eventWatch := watches, eventQueue := queue } := by
  unfold FakeTransport.unwatchEvent
  split
  · exact ⟨_, _, rfl⟩
  · exact ⟨_, _, rfl⟩

theorem Agrees.supported (h : Agrees b t) (reached : Reachable b t.machine)
    (known : pin < t.machine.dev.nPins) (mode : PinMode) :
    modeSupported mode (t.fake.board.pinCaps pin) t.fake.board.supportsPulldown =
      modeAllowed b (t.machine.dev.caps pin) mode := by
  unfold modeSupported FakeBoard.supportsPulldown
  rw [h.caps reached known, h.flags reached, (reach_begun reached).pulldown, requiredCaps_eq, pinHas_bit]
  cases mode <;> simp [modeAllowed, PinMode.capability]

/-- The room check of the fake. -/
theorem Agrees.roomy (h : Agrees b t) : ¬ t.fake.faults.queueFull = true := by
  rw [h.matched.faults]
  exact Bool.false_ne_true

/-- The shadow of the pin once the mode is applied. -/
theorem shadowAfter_moded {c : Command} {mode : PinMode} (moves : c.cmd = .pinMode)
    (named : PinMode.ofCode? c.value.toUInt8.toUInt16 = some mode) :
    d.shadowAfter b pads c =
      if (padMode b mode).isSome then Function.update d.dio c.pin (pads c.pin) else d.dio := by
  unfold UsbIoDevice.shadowAfter
  rw [moves]
  dsimp only
  rw [named]

/-- The pads after an accepted PIN_MODE. -/
theorem Agrees.moded_levels {mode : PinMode} {value : UInt16} (h : Agrees b t)
    (named : PinMode.ofCode? value = some mode) (allowed : modeAllowed b (t.machine.dev.caps pin) mode = true)
    (tells : t.modeTells b value pin = true) (level : Nat → Bool) :
    let c : Command := ⟨.pinMode, pin, t.machine.dev.epoch, value⟩
    let pads := c.driven t.pads t.fed level
    SameLevels t.machine.dev.caps (Function.update t.machine.dev.mode pin (some mode))
      ((recordMode (t.machine.dev.queued .pinMode pin value) pin mode).shadowAfter b pads c) t.fake.dio pads
      t.fed := by
  intro c pads
  have moved : pads = Function.update t.pads pin (mode.padLevel (t.pads pin) (t.fed pin) (level pin)) := by
    simp only [pads, c, Command.driven, PinMode.ofCode_stored named]
  have shadow : (recordMode (t.machine.dev.queued .pinMode pin value) pin mode).shadowAfter b pads c =
      if (padMode b mode).isSome then Function.update t.machine.dev.dio pin (pads pin)
        else t.machine.dev.dio := shadowAfter_moded rfl (PinMode.ofCode_stored named)
  unfold Bench.modeTells Bench.atFed at tells
  rw [named] at tells
  simp only [allowed, Bool.not_true, Bool.false_or] at tells
  have levels := h.matched.levels
  have elsewhere : ∀ p, p ≠ pin → pads p = t.pads p := by
    intro p other
    rw [moved]
    exact Function.update_of_ne other ..
  have there : pads pin = mode.padLevel (t.pads pin) (t.fed pin) (level pin) := by
    rw [moved]
    exact Function.update_self ..
  constructor
  · intro p output
    by_cases here : p = pin
    · subst here
      rw [Function.update_self] at output
      rw [if_neg (fun same => output (congrArg some same)), Bool.or_eq_true, bne_iff_ne, beq_iff_eq] at tells
      by_cases drove : t.machine.dev.mode p = some .output
      · rw [(levels.outputs p drove).2]
        exact tells.resolve_left (not_not.mpr drove)
      · exact levels.others p drove
    · rw [Function.update_of_ne here] at output
      exact levels.others p output
  · intro p output
    rw [shadow]
    by_cases here : p = pin
    · subst here
      rw [Function.update_self] at output
      obtain rfl := Option.some.inj output
      rw [if_pos rfl, Bool.and_eq_true, bne_iff_ne, bne_iff_ne] at tells
      refine ⟨Function.update_self .., ?_⟩
      rw [there]
      change t.fake.dio p = t.pads p
      by_cases drove : t.machine.dev.mode p = some .output
      · exact (levels.outputs p drove).2
      · rw [levels.others p drove, levels.released p allowed]
        cases was : t.machine.dev.mode p with
        | none => rfl
        | some old => cases old <;> first | rfl | simp [was] at tells drove
    · rw [Function.update_of_ne here] at output
      rw [elsewhere p here]
      refine ⟨?_, (levels.outputs p output).2⟩
      split
      · exact (Function.update_of_ne here ..).trans (levels.outputs p output).1
      · exact (levels.outputs p output).1
  · intro p input
    by_cases here : p = pin
    · subst here
      rw [Function.update_self] at input
      rw [there]
      cases mode <;> first | rfl | contradiction
    · rw [Function.update_of_ne here] at input
      rw [elsewhere p here]
      exact levels.inputs p input
  · intro p digital free
    by_cases here : p = pin
    · subst here
      rw [Function.update_self] at free
      rw [there]
      cases mode <;> first | rfl | contradiction
    · rw [Function.update_of_ne here] at free
      rw [elsewhere p here]
      exact levels.released p digital free

/-- An accepted PIN_MODE that leaves the stream alone. -/
theorem Agrees.moded {mode : PinMode} {value : UInt16} (h : Agrees b t)
    (reached : Reachable b t.machine) (named : PinMode.ofCode? value = some mode)
    (allowed : modeAllowed b (t.machine.dev.caps pin) mode = true)
    (keeps : follows → t.machine.dev.modeStopsStream b value pin = false)
    (tells : follows → t.modeTells b value pin = true) :
    Alongside follows b t (recordMode (t.machine.dev.queued .pinMode pin value) pin mode, true)
      (if isInputMode (some mode) then
        { t.fake with mode := Function.update t.fake.mode pin (some mode) }
      else
        { t.fake with mode := Function.update t.fake.mode pin (some mode) }.unwatchEvent pin false,
      true) := by
  obtain ⟨twins, events⟩ := h.events
  have table := (reach_ok reached).dev.watches
  have moded : SameEvents t.machine.dev.event
      { t.fake with mode := Function.update t.fake.mode pin (some mode) } t.fed twins :=
    events.congr rfl rfl rfl
  obtain ⟨watches, queue, frame⟩ := unwatchEvent_frame
    { t.fake with mode := Function.update t.fake.mode pin (some mode) } pin false
  -- the stream goes on
  have stream : follows → (recordMode (t.machine.dev.queued .pinMode pin value) pin mode).stream =
      t.machine.dev.stream := by
    intro follow
    have stays := keeps follow
    unfold UsbIoDevice.modeStopsStream at stays
    rw [named] at stays
    dsimp only at stays
    rw [allowed, Bool.and_true] at stays
    exact if_neg (Bool.eq_false_iff.mp stays)
  have fake_dio : (if isInputMode (some mode) then
      { t.fake with mode := Function.update t.fake.mode pin (some mode) }
    else
      { t.fake with mode := Function.update t.fake.mode pin (some mode) }.unwatchEvent pin false).dio =
      t.fake.dio := by
    split
    · rfl
    · rw [frame]
  refine .command h.calm.queued_one (h.calm.queued_slot ..) rfl h.calm.applied ?_ ?_ ?_ ?_
  · split
    · exact h.matched.lastError
    · rw [frame]
      exact h.matched.lastError
  · intro _ follow level
    rw [fake_dio]
    exact h.moded_levels named allowed (tells follow) level
  · intro follow dio pads levels
    rw [fake_dio] at levels
    have matched : ∀ watches queue, Matched b
        { recordMode (t.machine.dev.queued .pinMode pin value) pin mode with
          dio := dio
          tail := t.machine.dev.tail + 1 }
        { t.fake with
          mode := Function.update t.fake.mode pin (some mode)
          eventWatch := watches
          eventQueue := queue } pads t.fed t.millis := by
      intro watches queue
      refine ⟨h.matched.board, h.matched.faults, ?_, h.matched.lastError, levels, h.matched.clock, ?_, ?_, ?_,
        ?_⟩
      · exact congrArg (Function.update · pin (some mode)) h.matched.mode
      · exact h.matched.running.trans (congrArg StreamState.running (stream follow).symm)
      · exact h.matched.selected.trans (congrArg StreamState.selection (stream follow).symm)
      · exact h.matched.flags.trans (congrArg StreamState.flags (stream follow).symm)
      · exact h.matched.periodUs.trans (congrArg StreamState.periodUs (stream follow).symm)
    split
    · exact matched t.fake.eventWatch t.fake.eventQueue
    · rw [frame]
      exact matched watches queue
  · by_cases input : isInputMode (some mode) = true
    · have stays : (recordMode (t.machine.dev.queued .pinMode pin value) pin mode).event =
          t.machine.dev.event := if_pos (by rwa [← isInputMode_eq])
      rw [if_pos input, stays]
      exact ⟨twins, moded⟩
    · have leaves : (recordMode (t.machine.dev.queued .pinMode pin value) pin mode).event =
          t.machine.dev.event.perform (.leave pin) := if_neg (by rwa [← isInputMode_eq])
      rw [if_neg input, leaves]
      exact moded.leave table

theorem handlePinMode_alongside (h : Agrees b t) (reached : Reachable b t.machine) (value : UInt16)
    (keeps : follows → t.machine.dev.modeStopsStream b value pin = false)
    (tells : follows → t.modeTells b value pin = true) :
    Alongside follows b t
      (if t.machine.dev.nPins ≤ pin then stall t.machine.dev .badPin
        else handlePinMode b t.machine.dev pin value)
      (if t.fake.board.nPins ≤ pin then t.fake.stall .badPin else t.fake.handlePinMode value pin) := by
  refine .row h (h.pinTest reached) (fun known => ?_)
  have known := Nat.not_le.mp known
  unfold handlePinMode FakeTransport.handlePinMode
  cases named : PinMode.ofCode? value with
  | none => exact h.refuse _
  | some mode =>
    dsimp only
    refine .row h (by rw [h.supported reached known]) (fun allowed => ?_)
    rw [h.calm.enqueue, if_neg h.roomy]
    exact h.moded reached named (by simpa using allowed) keeps tells

/-- The mode check of a write. -/
theorem Agrees.modeTest (h : Agrees b t) {mode : PinMode} :
    t.machine.dev.mode pin ≠ some mode ↔ t.fake.mode pin ≠ some mode := by
  rw [h.matched.mode]

/-- Both write the level to an OUTPUT's pad. -/
theorem SameLevels.written {caps : Nat → UInt8} {mode : Nat → Option PinMode} {dio fake : Nat → Bool}
    {high high' : Bool} (h : SameLevels caps mode dio fake pads fed) (output : mode pin = some .output)
    (same : high = high') :
    SameLevels caps mode (Function.update dio pin high) (Function.update fake pin high')
      (Function.update pads pin high) fed := by
  subst same
  constructor
  · intro p other
    have elsewhere : p ≠ pin := by
      rintro rfl
      exact other output
    rw [Function.update_of_ne elsewhere]
    exact h.others p other
  · intro p drives
    by_cases here : p = pin
    · subst here
      rw [Function.update_self, Function.update_self, Function.update_self]
      exact ⟨rfl, rfl⟩
    · rw [Function.update_of_ne here, Function.update_of_ne here, Function.update_of_ne here]
      exact h.outputs p drives
  · intro p input
    have elsewhere : p ≠ pin := by
      rintro rfl
      rw [output] at input
      contradiction
    rw [Function.update_of_ne elsewhere]
    exact h.inputs p input
  · intro p digital free
    have elsewhere : p ≠ pin := by
      rintro rfl
      rw [output] at free
      contradiction
    rw [Function.update_of_ne elsewhere]
    exact h.released p digital free

theorem handleDioWrite_alongside (h : Agrees b t) (reached : Reachable b t.machine) (value : UInt16) :
    Alongside follows b t
      (if t.machine.dev.nPins ≤ pin then stall t.machine.dev .badPin
        else handleDioWrite t.machine.dev pin value)
      (if t.fake.board.nPins ≤ pin then t.fake.stall .badPin else t.fake.handleDioWrite value pin) := by
  refine .row h (h.pinTest reached) (fun _ => ?_)
  unfold handleDioWrite handleWrite FakeTransport.handleDioWrite
  refine .row h h.modeTest (fun mode => ?_)
  have output := not_not.mp mode
  have small : ¬ 1 < (if value ≠ 0 then (1 : UInt16) else 0).toNat := by
    split <;> decide
  have level : decide ((if value ≠ 0 then (1 : UInt16) else 0) ≠ 0) = decide (value ≠ 0) := by
    split <;> simp_all
  rw [if_neg small, h.calm.enqueue, if_neg h.roomy]
  obtain ⟨twins, events⟩ := h.events
  refine .command h.calm.queued_one (h.calm.queued_slot ..) rfl h.calm.applied h.matched.lastError ?_ ?_
    ⟨twins, events.congr rfl rfl rfl⟩
  · intro _ _ _
    exact h.matched.levels.written output level
  · intro _ dio pads levels
    exact ⟨h.matched.board, h.matched.faults, h.matched.mode, h.matched.lastError, levels, h.matched.clock,
      h.matched.running, h.matched.selected, h.matched.flags, h.matched.periodUs⟩

/-- What digitalRead() gives of a pad under analogWrite() is nobody's. -/
theorem SameLevels.underAnalog {caps : Nat → UInt8} {mode : Nat → Option PinMode} {dio fake : Nat → Bool}
    (h : SameLevels caps mode dio fake pads fed) (analog : mode pin = some .pwm ∨ mode pin = some .dac)
    (level : Bool) : SameLevels caps mode dio fake (Function.update pads pin level) fed := by
  have elsewhere : ∀ p, (mode p = some .output ∨ modeIsInput (mode p) = true ∨ drivesPad (mode p) = false) →
      Function.update pads pin level p = pads p := by
    intro p kind
    apply Function.update_of_ne
    rintro rfl
    rcases analog with drives | drives <;> simp [drives, modeIsInput, drivesPad] at kind
  refine ⟨h.others, fun p output => ?_, fun p input => ?_, fun p digital free => ?_⟩
  · rw [elsewhere p (.inl output)]
    exact h.outputs p output
  · rw [elsewhere p (.inr (.inl input))]
    exact h.inputs p input
  · rw [elsewhere p (.inr (.inr free))]
    exact h.released p digital free

/-- A write that drives no digital pad. -/
theorem Agrees.written {cmd : Request} {value : UInt16} {pwm dac : Nat → UInt16} (h : Agrees b t)
    (analog : cmd = .pwmWrite ∧ t.machine.dev.mode pin = some .pwm ∨
      cmd = .dacWrite ∧ t.machine.dev.mode pin = some .dac) :
    Alongside follows b t (t.machine.dev.queued cmd pin value, true)
      ({ t.fake with pwm := pwm, dac := dac }, true) := by
  obtain ⟨twins, events⟩ := h.events
  refine .command h.calm.queued_one (h.calm.queued_slot ..) rfl h.calm.applied h.matched.lastError ?_ ?_
    ⟨twins, events.congr rfl rfl rfl⟩
  · intro _ _ level
    rcases analog with ⟨rfl, drives⟩ | ⟨rfl, drives⟩
    · exact h.matched.levels.underAnalog (.inl drives) (level pin)
    · exact h.matched.levels.underAnalog (.inr drives) (level pin)
  · intro _ dio pads levels
    exact ⟨h.matched.board, h.matched.faults, h.matched.mode, h.matched.lastError, levels, h.matched.clock,
      h.matched.running, h.matched.selected, h.matched.flags, h.matched.periodUs⟩

/-- max_value() of the resolution that both report. -/
theorem valueTest {bits : Nat} {value : UInt16} (byte : bits < 256) :
    fullScale bits < value.toNat ↔ maxValue (UInt8.ofNat bits) < value := by
  rw [UInt16.lt_iff_toNat_lt, maxValue_bits byte]

theorem handlePwmWrite_alongside (h : Agrees b t) (reached : Reachable b t.machine) (value : UInt16) :
    Alongside follows b t
      (if t.machine.dev.nPins ≤ pin then stall t.machine.dev .badPin
        else handlePwmWrite b t.machine.dev pin value)
      (if t.fake.board.nPins ≤ pin then t.fake.stall .badPin else t.fake.handlePwmWrite value pin) := by
  refine .row h (h.pinTest reached) (fun _ => ?_)
  unfold handlePwmWrite handleWrite FakeTransport.handlePwmWrite
  refine .row h h.modeTest (fun drives => .row h ?_ (fun _ => ?_))
  · rw [h.matched.board]
    exact valueTest b.pwmBits_lt
  · rw [h.calm.enqueue, if_neg h.roomy]
    exact h.written (.inl ⟨rfl, not_not.mp drives⟩)

theorem handleDacWrite_alongside (h : Agrees b t) (reached : Reachable b t.machine) (value : UInt16) :
    Alongside follows b t
      (if t.machine.dev.nPins ≤ pin then stall t.machine.dev .badPin
        else handleDacWrite b t.machine.dev pin value)
      (if t.fake.board.nPins ≤ pin then t.fake.stall .badPin else t.fake.handleDacWrite value pin) := by
  refine .row h (h.pinTest reached) (fun _ => ?_)
  unfold handleDacWrite handleWrite FakeTransport.handleDacWrite
  refine .row h h.modeTest (fun drives => .row h ?_ (fun _ => ?_))
  · rw [h.matched.board]
    exact valueTest (Nat.lt_of_le_of_lt b.dacBits_le b.pwmBits_lt)
  · rw [h.calm.enqueue, if_neg h.roomy]
    exact h.written (.inr ⟨rfl, not_not.mp drives⟩)

/-- An accepted change of the watch table: alike once poll() has scanned it. -/
theorem Agrees.configured {e : EventState} {watches : List FakeWatch} {queue : List UsbioEvent}
    {dropped : UInt8} (h : Agrees b t)
    (events : Invariant b { t.machine.dev with event := e } → follows → ∃ twins, SameEvents
      (eventPoll { t.machine.dev with
        event := e
        dio := t.machine.dev.refreshed t.fed t.machine.dev.nPins } t.millis)
      { t.fake with eventWatch := watches, eventQueue := queue, eventDropped := dropped } t.fed twins) :
    Alongside follows b t ({ t.machine.dev with event := e }, true)
      ({ t.fake with eventWatch := watches, eventQueue := queue, eventDropped := dropped }, true) := by
  refine ⟨rfl, h.matched.lastError.symm, fun ok follow log => ?_⟩
  refine Matched.settles ⟨h.matched.board, h.matched.faults, h.matched.mode, h.matched.lastError,
    h.matched.levels, h.matched.clock, h.matched.running, h.matched.selected,
    h.matched.flags, h.matched.periodUs⟩ ⟨h.calm.empty, h.calm.applied⟩ ?_
  exact events ok follow

theorem armWatch_frame (f : FakeTransport) (pin : Nat) (edge : EdgeMode) (debounceMs : UInt8) :
    ∃ watches, f.armWatch pin edge debounceMs = { f with eventWatch := watches } := by
  unfold FakeTransport.armWatch
  split <;> exact ⟨_, rfl⟩

/-- The number of watched pins. -/
theorem SameEvents.watched {e : EventState} {nPins : Nat} {caps : Nat → UInt8}
    {mode : Nat → Option PinMode} (h : SameEvents e f pads twins)
    (table : WatchTable nPins caps mode e.watch e.nWatched) : f.eventWatch.length = e.nWatched.toNat := by
  rw [table.counted, ← e.armOrder_length, armOrder_of_pairwise h.slots (List.pairwise_map.mpr h.order),
    h.watches, List.length_map, List.length_map]

theorem SameEvents.findWatch {e : EventState} {nPins : Nat} {caps : Nat → UInt8}
    {mode : Nat → Option PinMode} (h : SameEvents e f pads twins)
    (table : WatchTable nPins caps mode e.watch e.nWatched) :
    (f.findWatch pin).isNone = (e.watchIndex pin).isNone := by
  cases index : e.watchIndex pin with
  | none =>
    rw [h.findWatch_missing (h.missing index)]
    rfl
  | some i =>
    obtain ⟨v, before_, after, rfl, at_pin, others⟩ := h.found table index
    rw [(h.findWatch_found at_pin (fun x member => (others x member).2) id).1]
    rfl

/-- The arm of EVENT_CONFIG. -/
theorem Agrees.armed {edge : EdgeMode} {debounceMs : UInt8} (h : Agrees b t)
    (reached : Reachable b t.machine) (known : pin < t.machine.dev.nPins)
    (input : modeIsInput (t.machine.dev.mode pin) = true)
    (room : t.machine.dev.event.watchIndex pin = none → t.machine.dev.event.nWatched.toNat < maxEventPins)
    (clearly : follows → t.machine.dev.event.armsClearly pin = true) :
    Alongside follows b t
      ({ t.machine.dev with event := t.machine.dev.event.perform (.arm pin edge debounceMs) }, true)
      (t.fake.armWatch pin edge debounceMs, true) := by
  obtain ⟨twins, events⟩ := h.events
  obtain ⟨watches, frame⟩ := armWatch_frame t.fake pin edge debounceMs
  have pins : t.machine.dev.nPins ≠ 0 := Nat.ne_of_gt (Nat.zero_lt_of_lt known)
  have armed : follows → _ := fun follow =>
    @SameEvents.arm t.machine.dev t.fake t.fed t.millis twins pin edge debounceMs events pins
      (reach_ok reached).dev.watches known input room (clearly follow)
  rw [frame] at armed ⊢
  exact h.configured (fun _ => armed)

/-- The OFF of EVENT_CONFIG. -/
theorem Agrees.unwatched (h : Agrees b t) (reached : Reachable b t.machine) :
    Alongside follows b t
      ({ t.machine.dev with event := t.machine.dev.event.perform (.off pin) }, true)
      (t.fake.unwatchEvent pin true, true) := by
  obtain ⟨twins, events⟩ := h.events
  obtain ⟨watches, queue, frame⟩ := unwatchEvent_frame t.fake pin true
  obtain ⟨left, gone⟩ := @SameEvents.off _ _ _ _ pin _ _ _ events (reach_ok reached).dev.watches
  rw [frame] at gone ⊢
  refine h.configured (fun ok _ => ⟨left, ?_⟩)
  have rests := @SameEvents.polled { t.machine.dev with event := t.machine.dev.event.perform (.off pin) }
    _ _ t.millis _ gone ok.watches
  exact rests.symm ▸ gone

theorem handleEventConfig_alongside (h : Agrees b t) (reached : Reachable b t.machine)
    (value index : UInt16) (clearly : follows → t.machine.dev.configArms value index.toNat = true →
      t.machine.dev.event.armsClearly index.toNat = true) :
    Alongside follows b t
      (if t.machine.dev.nPins ≤ index.toNat then stall t.machine.dev .badPin
        else handleEventConfig t.machine.dev index.toNat value)
      (if hasFlag t.fake.board.flags flagEvents then t.fake.handleEventConfig value index
        else t.fake.stall .unsupported) := by
  have on : hasFlag t.fake.board.flags flagEvents = true := by
    rw [h.flags reached]
    exact (reach_begun reached).events
  rw [if_pos on]
  unfold handleEventConfig FakeTransport.handleEventConfig
  dsimp only
  refine .row h (h.pinTest reached) (fun known => ?_)
  have known := Nat.not_le.mp known
  obtain ⟨twins, events⟩ := h.events
  have table := (reach_ok reached).dev.watches
  by_cases off : EdgeMode.ofCode? value.toUInt8 = some .off
  · rw [if_pos off, if_pos off]
    have unwatched := @Agrees.unwatched b t index.toNat follows h reached
    cases at_pin : t.machine.dev.event.watchIndex index.toNat with
    | none =>
      simp only [EventState.perform, at_pin] at unwatched
      exact unwatched
    | some i =>
      simp only [EventState.perform, at_pin] at unwatched
      exact unwatched
  · rw [if_neg off, if_neg off]
    have capable : pinHas (t.machine.dev.caps index.toNat) capDio =
        hasCap (t.machine.dev.caps index.toNat) capDio := pinHas_bit _ .input
    refine .row h ?_ (fun fits => ?_)
    · rw [h.caps reached known, isInputMode_eq, h.matched.mode, Bool.not_and, capable]
    obtain ⟨digital, input⟩ : hasCap (t.machine.dev.caps index.toNat) capDio = true ∧
        modeIsInput (t.machine.dev.mode index.toNat) = true := by
      simpa using fits
    cases named : EdgeMode.ofCode? value.toUInt8 with
    | none => exact h.refuse _
    | some edge =>
      have arms : edge ≠ .off := by
        rintro rfl
        exact off named
      -- what the arm leaves of the condition
      have tells : ((t.machine.dev.event.watchIndex index.toNat).isSome = true ∨
          t.machine.dev.event.nWatched.toNat < maxEventPins) → follows →
          t.machine.dev.event.armsClearly index.toNat = true := by
        intro placed follow
        refine clearly follow ?_
        unfold UsbIoDevice.configArms
        rw [digital, input, named]
        simpa [arms] using placed
      have limit : t.fake.board.eventMaxPins.toNat = maxEventPins := by
        rw [h.matched.board]
        rfl
      have watched : (t.fake.findWatch index.toNat).isNone =
          (t.machine.dev.event.watchIndex index.toNat).isNone := events.findWatch table
      dsimp only
      cases at_pin : t.machine.dev.event.watchIndex index.toNat with
      | some i =>
        rw [at_pin] at watched
        rw [watched, Option.isNone_some, Bool.false_and, if_neg Bool.false_ne_true]
        have armed := @Agrees.armed b t index.toNat follows edge (value >>> 8).toUInt8 h reached known input
          (fun none_ => absurd (at_pin.symm.trans none_) (Option.some_ne_none i))
          (tells (.inl (by rw [at_pin]; rfl)))
        simp only [EventState.perform, at_pin] at armed
        exact armed
      | none =>
        rw [at_pin] at watched
        refine .row h ?_ (fun room => ?_)
        · rw [watched, limit, events.watched table, Option.isNone_none, Bool.true_and, decide_eq_true_iff]
        · have armed := @Agrees.armed b t index.toNat follows edge (value >>> 8).toUInt8 h reached known input
            (fun _ => Nat.not_le.mp room) (tells (.inr (Nat.not_le.mp room)))
          simp only [EventState.perform, at_pin] at armed
          exact armed

/-- RESET leaves the same intended modes. -/
theorem Agrees.resetMode (h : Agrees b t) (reached : Reachable b t.machine) :
    t.fake.reset.mode = (requestReset t.machine.dev).mode := by
  funext p
  change ite _ _ _ = ite _ _ _
  rw [h.nPins reached, h.matched.mode]
  by_cases known : p < t.machine.dev.nPins
  · rw [if_pos known, if_pos known, h.caps reached known,
      show pinHas (t.machine.dev.caps p) capDio = hasCap (t.machine.dev.caps p) capDio
        from pinHas_bit _ .input]
  · rw [if_neg known, if_neg known]

/-- No pin is an output any more. -/
theorem reset_output (ok : Invariant b d) (p : Nat) : (requestReset d).mode p ≠ some .output := by
  change ite _ _ _ ≠ _
  split
  · split
    · simp
    · simp
  · rename_i unknown
    rw [ok.beyond p (Nat.not_lt.mp unknown)]
    simp

/-- RESET releases the pads. -/
theorem Agrees.reset_levels (h : Agrees b t) (ok : Invariant b t.machine.dev)
    (tells : (List.range t.machine.dev.nPins).all t.atFed = true) :
    SameLevels t.machine.dev.caps (requestReset t.machine.dev).mode
      ((requestReset t.machine.dev).shadowReset (t.machine.dev.driven t.pads t.fed)) t.fake.dio
      (t.machine.dev.driven t.pads t.fed) t.fed := by
  have levels := h.matched.levels
  have releases : ∀ p, hasCap (t.machine.dev.caps p) capDio = true → p < t.machine.dev.nPins →
      t.machine.dev.driven t.pads t.fed p = t.fed p := fun p digital known => if_pos ⟨known, digital⟩
  constructor
  · intro p _
    by_cases drove : t.machine.dev.mode p = some .output
    · have known : p < t.machine.dev.nPins := by
        by_contra unknown
        rw [ok.beyond p (Nat.not_lt.mp unknown)] at drove
        contradiction
      have at_fed := List.all_eq_true.mp tells p (List.mem_range.mpr known)
      unfold Bench.atFed at at_fed
      rw [Bool.or_eq_true, bne_iff_ne, beq_iff_eq] at at_fed
      rw [(levels.outputs p drove).2]
      exact at_fed.resolve_left (not_not.mpr drove)
    · exact levels.others p drove
  · intro p output
    exact absurd output (reset_output ok p)
  · intro p input
    change modeIsInput (ite _ _ _) = true at input
    by_cases known : p < t.machine.dev.nPins
    · rw [if_pos known] at input
      by_cases digital : hasCap (t.machine.dev.caps p) capDio = true
      · exact releases p digital known
      · rw [if_neg digital] at input
        contradiction
    · rw [if_neg known, ok.beyond p (Nat.not_lt.mp known)] at input
      contradiction
  · intro p digital _
    by_cases known : p < t.machine.dev.nPins
    · exact releases p digital known
    · have unknown := ok.beyond p (Nat.not_lt.mp known)
      refine (if_neg (fun both => known both.1)).trans (levels.released p digital ?_)
      rw [unknown]
      rfl

theorem requestReset_alongside (h : Agrees b t) (reached : Reachable b t.machine)
    (tells : follows → (List.range t.machine.dev.nPins).all t.atFed = true) :
    Alongside follows b t (requestReset t.machine.dev, true) (t.fake.reset, true) := by
  refine ⟨rfl, h.matched.lastError.symm, fun ok follow log rs complete streams => ?_⟩
  have pending : (requestReset t.machine.dev).resetDone ≠ (requestReset t.machine.dev).resetRequests := by
    change t.machine.dev.resetDone ≠ t.machine.dev.resetRequests + 1
    rw [h.calm.applied]
    simp
  have faults : t.fake.reset.faults = .inert := by
    change { t.fake.faults with queuePending := 0, queueFull := false } = _
    rw [h.matched.faults]
    rfl
  refine poll_reset pending h.calm.empty (fun d' log' after => ?_) rs complete streams
  let pads := t.machine.dev.driven t.pads t.fed
  have matched : Matched b { requestReset t.machine.dev with
      dio := (requestReset t.machine.dev).shadowReset pads
      resetDone := (requestReset t.machine.dev).resetRequests } t.fake.reset pads t.fed t.millis :=
    ⟨h.matched.board, faults, h.resetMode reached, h.matched.lastError,
      h.reset_levels (reach_ok reached).dev (tells follow), h.matched.clock, rfl, rfl, h.matched.flags,
      h.matched.periodUs⟩
  refine matched.refreshed ⟨h.calm.empty, rfl⟩ ⟨[], ?_⟩ after
  have cleared : SameEvents (requestReset t.machine.dev).event t.fake.reset t.fed [] := SameEvents.clear
  rw [@SameEvents.polled { requestReset t.machine.dev with
    dio := (requestReset t.machine.dev).shadowReset pads
    resetDone := (requestReset t.machine.dev).resetRequests } _ _ _ _ cleared ok.watches]
  exact cleared

/-- handle_out() and control_out(). -/
theorem handleOut_alongside (h : Agrees b t) (reached : Reachable b t.machine)
    (bRequest : UInt8) (value index : UInt16) :
    Alongside (t.followed b (.out bRequest value index) = true) b t
      (handleOut b t.machine.dev bRequest value index 0) (t.fake.controlOut bRequest value index) := by
  have unforced : t.fake.controlOut bRequest value index = t.fake.handleOut bRequest value index := by
    unfold FakeTransport.controlOut
    rw [h.matched.faults]
    rfl
  rw [unforced]
  unfold handleOut FakeTransport.handleOut Bench.followed
  dsimp only
  rw [if_neg (by simp)]
  cases Request.ofCode? bRequest with
  | none => exact h.refuse _
  | some req =>
    cases req with
    | reset => exact requestReset_alongside h reached id
    | streamSelect => exact handleStreamSelect_alongside h reached value index
    | streamStart => exact handleStreamStart_alongside h reached value index
    | streamStop => exact handleStreamStop_alongside h reached
    | pinMode =>
      refine handlePinMode_alongside h reached value (fun follow => ?_) (fun follow => ?_)
      · simpa using (Bool.and_eq_true_iff.mp follow).1
      · exact (Bool.and_eq_true_iff.mp follow).2
    | dioWrite => exact handleDioWrite_alongside h reached value
    | pwmWrite => exact handlePwmWrite_alongside h reached value
    | dacWrite => exact handleDacWrite_alongside h reached value
    | eventConfig =>
      refine handleEventConfig_alongside h reached value index (fun follow arms => ?_)
      rwa [arms, Bool.not_true, Bool.false_or] at follow
    | _ => exact h.refuse _

end ArduinoDriver
