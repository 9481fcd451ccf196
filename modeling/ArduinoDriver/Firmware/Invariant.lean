import ArduinoDriver.Firmware.Machine
import ArduinoDriver.Firmware.Served

namespace ArduinoDriver

def activeCount (watch : Nat → EventWatch) : Nat :=
  Lib.Table.count maxEventPins (fun i => (watch i).active)

/-- The watch table: its counter, and distinct digital input pins in the active slots. -/
structure WatchTable (nPins : Nat) (caps : Nat → UInt8) (mode : Nat → Option PinMode)
    (watch : Nat → EventWatch) (nWatched : UInt8) : Prop where
  counted : nWatched.toNat = activeCount watch
  known : ∀ i < maxEventPins, (watch i).active → (watch i).pin < nPins
  digital : ∀ i < maxEventPins, (watch i).active → hasCap (caps (watch i).pin) capDio
  input : ∀ i < maxEventPins, (watch i).active → modeIsInput (mode (watch i).pin)
  distinct : ∀ i < maxEventPins, ∀ j < maxEventPins, (watch i).active → (watch j).active →
    (watch i).pin = (watch j).pin → i = j

/-- The channel list: at most eight distinct pins, and one at least while running. -/
structure Selection (nPins : Nat) (channels : Nat → Nat) (nChannels : UInt8)
    (running : Bool) : Prop where
  few : nChannels.toNat ≤ maxStreamChannels
  known : ∀ i < nChannels.toNat, channels i < nPins
  distinct : ∀ i < nChannels.toNat, ∀ j < nChannels.toNat, channels i = channels j → i = j
  started : running → nChannels ≠ 0

/-- The representation invariant. -/
structure Invariant (b : Board) (d : UsbIoDevice) : Prop where
  pins : d.nPins = b.pinCount
  queue : (d.head - d.tail).toNat ≤ queueDepth
  events : (d.event.head - d.event.tail).toNat ≤ eventQueueDepth
  records : (d.stream.head - d.stream.tail).toNat ≤ streamRingDepth
  modes : ∀ p mode, d.mode p = some mode → modeAllowed b (d.caps p) mode
  beyond : ∀ p, d.nPins ≤ p → d.mode p = none
  watches : WatchTable d.nPins d.caps d.mode d.event.watch d.event.nWatched
  selection : Selection d.nPins d.stream.channels d.stream.nChannels d.stream.running
  packet : d.stream.packet.length ≤ b.packetMax
  cursor : d.ainCursor < d.nPins
  analog : Lib.Table.count d.nPins (fun p => hasCap (d.caps p) capAin) ≤ maxAin

/-- What poll() has tested on the command queue and not used yet. -/
def DrainPc.Ok (d : UsbIoDevice) : DrainPc → Prop
  | .copySlot => d.tail ≠ d.head
  | .bumpTail tail _ => tail = d.tail ∧ d.tail ≠ d.head
  | _ => True

/-- The same for the room push_event() found. -/
def EventPc.Ok (e : EventState) : EventPc → Prop
  | .fillSlot .. | .bumpHead .. => (e.head - e.tail).toNat < eventQueueDepth
  | _ => True

/-- The same for the room stream_sample() found. -/
def StreamPc.Ok (s : StreamState) : StreamPc → Prop
  | .pushRecord .. => (s.head - s.tail).toNat < streamRingDepth
  | _ => True

def Pc.Ok (d : UsbIoDevice) : Pc → Prop
  | .drain pc => pc.Ok d
  | .event pc => pc.Ok d.event
  | .stream pc => pc.Ok d.stream
  | _ => True

namespace WatchTable

variable {nPins : Nat} {caps : Nat → UInt8} {mode : Nat → Option PinMode}
  {watch watch' : Nat → EventWatch} {nWatched : UInt8}

/-- The slots' other fields are free. -/
theorem congr (h : WatchTable nPins caps mode watch nWatched)
    (active : ∀ i, (watch' i).active = (watch i).active)
    (pin : ∀ i, (watch' i).pin = (watch i).pin) :
    WatchTable nPins caps mode watch' nWatched where
  counted := by
    rw [h.counted]
    exact Lib.Table.count_congr (fun j _ => (active j).symm)
  known := by
    intro i inside on
    rw [active] at on
    rw [pin]
    exact h.known i inside on
  digital := by
    intro i inside on
    rw [active] at on
    rw [pin]
    exact h.digital i inside on
  input := by
    intro i inside on
    rw [active] at on
    rw [pin]
    exact h.input i inside on
  distinct := by
    intro i hi j hj oni onj same
    rw [active] at oni onj
    rw [pin, pin] at same
    exact h.distinct i hi j hj oni onj same

/-- A table without active slots, whatever the modes. -/
theorem empty (off : ∀ i < maxEventPins, (watch i).active = false) :
    WatchTable nPins caps mode watch 0 where
  counted := (Lib.Table.count_eq_zero.mpr off).symm
  known := by
    intro i inside on
    simp [off i inside] at on
  digital := by
    intro i inside on
    simp [off i inside] at on
  input := by
    intro i inside on
    simp [off i inside] at on
  distinct := by
    intro i inside j _ on
    simp [off i inside] at on

/-- Clearing an active slot, the other slots' pins keeping an input mode. -/
theorem clear {mode' : Nat → Option PinMode} (h : WatchTable nPins caps mode watch nWatched)
    {i : Nat} (inside : i < maxEventPins) (on : (watch i).active)
    (input : ∀ j < maxEventPins, j ≠ i → (watch j).active → modeIsInput (mode' (watch j).pin)) :
    WatchTable nPins caps mode' (Function.update watch i { watch i with active := false })
      (nWatched - 1) := by
  have active : ∀ j < maxEventPins, ∀ w : EventWatch,
      w = Function.update watch i { watch i with active := false } j → w.active →
      j ≠ i ∧ w = watch j := by
    intro j _ w eq on'
    by_cases same : j = i
    · subst j w
      simp at on'
    · rw [Function.update_of_ne same] at eq
      exact ⟨same, eq⟩
  have fewer : activeCount watch =
      activeCount (Function.update watch i { watch i with active := false }) + 1 := by
    apply Lib.Table.count_switch inside
    · intro j other
      simp [Function.update_of_ne other]
    · simp
    · exact on
  refine ⟨?_, ?_, ?_, ?_, ?_⟩
  · have counted := h.counted
    have := nWatched.toNat_lt
    simp only [UInt8.toNat_sub, UInt8.toNat_one]
    dsimp only at fewer
    omega
  · intro j hj onj
    obtain ⟨_, eq⟩ := active j hj _ rfl onj
    rw [eq] at onj ⊢
    exact h.known j hj onj
  · intro j hj onj
    obtain ⟨_, eq⟩ := active j hj _ rfl onj
    rw [eq] at onj ⊢
    exact h.digital j hj onj
  · intro j hj onj
    obtain ⟨other, eq⟩ := active j hj _ rfl onj
    rw [eq] at onj ⊢
    exact input j hj other onj
  · intro j hj k hk onj onk same
    obtain ⟨_, eqj⟩ := active j hj _ rfl onj
    obtain ⟨_, eqk⟩ := active k hk _ rfl onk
    rw [eqj] at onj same
    rw [eqk] at onk same
    exact h.distinct j hj k hk onj onk same

/-- Other modes, as long as the watched pins keep an input one. -/
theorem remode {mode' : Nat → Option PinMode} (h : WatchTable nPins caps mode watch nWatched)
    (input : ∀ i < maxEventPins, (watch i).active → modeIsInput (mode' (watch i).pin)) :
    WatchTable nPins caps mode' watch nWatched :=
  { h with input := input }

/-- A slot armed for a digital input pin no other slot watches. -/
theorem arm {nWatched' : UInt8} (h : WatchTable nPins caps mode watch nWatched) {i : Nat}
    {w : EventWatch} (known : w.pin < nPins) (digital : hasCap (caps w.pin) capDio)
    (input : modeIsInput (mode w.pin))
    (alone : ∀ j < maxEventPins, j ≠ i → (watch j).active → (watch j).pin ≠ w.pin)
    (counted : nWatched'.toNat = activeCount (Function.update watch i w)) :
    WatchTable nPins caps mode (Function.update watch i w) nWatched' := by
  have slot : ∀ j, Function.update watch i w j = w ∧ j = i ∨
      Function.update watch i w j = watch j ∧ j ≠ i := by
    intro j
    by_cases same : j = i
    · subst j
      exact .inl ⟨Function.update_self .., rfl⟩
    · exact .inr ⟨Function.update_of_ne same .., same⟩
  refine ⟨counted, ?_, ?_, ?_, ?_⟩
  · intro j hj onj
    rcases slot j with ⟨eq, _⟩ | ⟨eq, _⟩ <;> rw [eq] at onj ⊢
    · exact known
    · exact h.known j hj onj
  · intro j hj onj
    rcases slot j with ⟨eq, _⟩ | ⟨eq, _⟩ <;> rw [eq] at onj ⊢
    · exact digital
    · exact h.digital j hj onj
  · intro j hj onj
    rcases slot j with ⟨eq, _⟩ | ⟨eq, _⟩ <;> rw [eq] at onj ⊢
    · exact input
    · exact h.input j hj onj
  · intro j hj k hk onj onk same
    rcases slot j with ⟨eqj, atj⟩ | ⟨eqj, atj⟩ <;> rcases slot k with ⟨eqk, atk⟩ | ⟨eqk, atk⟩ <;>
      rw [eqj] at onj same <;> rw [eqk] at onk same
    · rw [atj, atk]
    · exact absurd same.symm (alone k hk atk onk)
    · exact absurd same (alone j hj atj onj)
    · exact h.distinct j hj k hk onj onk same

end WatchTable

theorem EventState.watchIndex_eq_some {e : EventState} {pin i : Nat}
    (h : e.watchIndex pin = some i) :
    i < maxEventPins ∧ (e.watch i).active ∧ (e.watch i).pin = pin := by
  obtain ⟨inside, fits⟩ := Lib.Table.find_eq_some h
  simp only [Bool.and_eq_true, beq_iff_eq] at fits
  exact ⟨inside, fits⟩

theorem EventState.watchIndex_eq_none {e : EventState} {pin : Nat} :
    e.watchIndex pin = none ↔
      ∀ j < maxEventPins, (e.watch j).active → (e.watch j).pin ≠ pin := by
  unfold EventState.watchIndex
  rw [Lib.Table.find_eq_none]
  constructor
  · intro h j inside on same
    simpa [on, same] using h j inside
  · intro h j inside
    by_cases on : (e.watch j).active
    · simpa [on] using h j inside on
    · simp [on]

/-- find_free_event_slot() finds a slot as long as the counter is below the limit. -/
theorem WatchTable.freeSlot {nPins : Nat} {caps : Nat → UInt8} {mode : Nat → Option PinMode}
    {e : EventState} (h : WatchTable nPins caps mode e.watch e.nWatched)
    (room : e.nWatched.toNat < maxEventPins) :
    Lib.Table.find maxEventPins (fun i => !(e.watch i).active) = some e.freeSlot ∧
      e.freeSlot < maxEventPins ∧ (e.watch e.freeSlot).active = false := by
  rw [h.counted] at room
  obtain ⟨i, inside, found, free⟩ := Lib.Table.find_free room
  have slot : e.freeSlot = i := by
    simp only [EventState.freeSlot, found, Option.getD_some]
  rw [slot]
  exact ⟨found, inside, free⟩

theorem StreamState.channelIndex_eq_some {s : StreamState} {pin i : Nat}
    (h : s.channelIndex pin = some i) : i < s.nChannels.toNat ∧ s.channels i = pin := by
  obtain ⟨inside, fits⟩ := Lib.Table.find_eq_some h
  exact ⟨inside, by simpa using fits⟩

theorem StreamState.channelIndex_eq_none {s : StreamState} {pin : Nat} :
    s.channelIndex pin = none ↔ ∀ i < s.nChannels.toNat, s.channels i ≠ pin := by
  unfold StreamState.channelIndex
  rw [Lib.Table.find_eq_none]
  simp

namespace Selection

variable {nPins : Nat} {channels : Nat → Nat} {nChannels : UInt8} {running : Bool}

/-- An idle stream may lose its channels. -/
theorem stop (h : Selection nPins channels nChannels running) :
    Selection nPins channels nChannels false :=
  { h with started := by simp }

theorem empty : Selection nPins channels 0 false where
  few := by simp
  known := by simp
  distinct := by simp
  started := by simp

theorem add {pin : Nat} (h : Selection nPins channels nChannels running) (known : pin < nPins)
    (fresh : ∀ i < nChannels.toNat, channels i ≠ pin) (room : nChannels.toNat < maxStreamChannels) :
    Selection nPins (Function.update channels nChannels.toNat pin) (nChannels + 1) running := by
  have limit : maxStreamChannels = 8 := rfl
  have count : (nChannels + 1).toNat = nChannels.toNat + 1 := by
    simp only [UInt8.toNat_add, UInt8.toNat_one]
    omega
  refine ⟨by omega, ?_, ?_, ?_⟩
  · intro i inside
    by_cases last : i = nChannels.toNat
    · simpa [last] using known
    · rw [Function.update_of_ne last]
      exact h.known i (by omega)
  · intro i hi j hj same
    by_cases lasti : i = nChannels.toNat <;> by_cases lastj : j = nChannels.toNat
    · rw [lasti, lastj]
    · subst i
      rw [Function.update_self, Function.update_of_ne lastj] at same
      exact absurd same.symm (fresh j (by omega))
    · subst j
      rw [Function.update_self, Function.update_of_ne lasti] at same
      exact absurd same (fresh i (by omega))
    · rw [Function.update_of_ne lasti, Function.update_of_ne lastj] at same
      exact h.distinct i (by omega) j (by omega) same
  · intro _ zero
    simp [zero] at count

theorem remove {i : Nat} (h : Selection nPins channels nChannels running)
    (inside : i < nChannels.toNat) :
    Selection nPins (shiftDown channels i nChannels.toNat) (nChannels - 1) false := by
  have := nChannels.toNat_lt
  have count : (nChannels - 1).toNat = nChannels.toNat - 1 := by
    simp only [UInt8.toNat_sub, UInt8.toNat_one]
    omega
  have moved : ∀ j < nChannels.toNat - 1,
      shiftDown channels i nChannels.toNat j = channels (if i ≤ j then j + 1 else j) := by
    intro j below
    unfold shiftDown
    split
    · rename_i shifts
      rw [if_pos shifts.1]
    · rename_i stays
      rw [if_neg (by omega)]
  have few := h.few
  refine ⟨by omega, ?_, ?_, by simp⟩
  · intro j below
    rw [moved j (by omega)]
    apply h.known
    split <;> omega
  · intro j hj k hk same
    rw [moved j (by omega), moved k (by omega)] at same
    have := h.distinct _ (by split <;> omega) _ (by split <;> omega) same
    split at this <;> split at this <;> omega

end Selection

variable {b : Board} {env : Env} {d d' : UsbIoDevice} {o : Obs}

theorem queued_count (room : d.queuePending.toNat < queueDepth) :
    (d.head + 1 - d.tail).toNat = (d.head - d.tail).toNat + 1 := by
  have limit : queueDepth = 32 := rfl
  unfold UsbIoDevice.queuePending at room
  exact Lib.Ring.count_head (by omega)

theorem Invariant.queued (h : Invariant b d) (cmd : Request) (pin : Nat) (value : UInt16)
    (room : d.queuePending.toNat < queueDepth) : Invariant b (d.queued cmd pin value) :=
  { h with
    queue := by
      have := queued_count room
      unfold UsbIoDevice.queuePending at room
      change (d.head + 1 - d.tail).toNat ≤ queueDepth
      omega }

/-- popEvents() stays between the two indices. -/
theorem popEvents_tail (ring : Nat → UsbioEvent) (tail : UInt8) (room n : Nat) :
    ∃ k ≤ n, (popEvents ring tail room n).1 = tail + UInt8.ofNat k := by
  induction n generalizing tail room with
  | zero => exact ⟨0, by omega, by simp [popEvents]⟩
  | succ n ih =>
    have further : ∀ room', ∃ k ≤ n + 1,
        (popEvents ring (tail + 1) room' n).1 = tail + UInt8.ofNat k := by
      intro room'
      obtain ⟨k, le, eq⟩ := ih (tail + 1) room'
      refine ⟨k + 1, by omega, ?_⟩
      rw [eq, UInt8.ofNat_add, UInt8.add_assoc, UInt8.add_comm 1]
      rfl
    unfold popEvents
    split
    · exact ⟨0, by omega, by simp⟩
    · dsimp only
      split
      · exact further room
      · exact further (room - 1)

theorem EventState.pop_count_le (e : EventState) (index : UInt16) :
    ((e.pop index).1.head - (e.pop index).1.tail).toNat ≤ (e.head - e.tail).toNat := by
  obtain ⟨k, le, eq⟩ := popEvents_tail e.ring e.tail (popCap index) (e.head - e.tail).toNat
  have moved : (e.pop index).1.tail = e.tail + UInt8.ofNat k := eq
  rw [moved]
  change (e.head - (e.tail + UInt8.ofNat k)).toNat ≤ _
  have := e.head.toNat_lt
  have := e.tail.toNat_lt
  have := (e.head - e.tail).toNat_lt
  have kmod : k % 2 ^ 8 = k := Nat.mod_eq_of_lt (by omega)
  simp only [UInt8.toNat_sub, UInt8.toNat_add, UInt8.toNat_ofNat', kmod] at *
  omega

theorem requestReset_invariant (h : Invariant b d) : Invariant b (requestReset d) :=
  { h with
    events := by simp [requestReset]
    modes := by
      intro p mode intended
      simp only [requestReset] at intended ⊢
      split at intended
      · split at intended
        · rename_i digital
          obtain rfl := Option.some.inj intended
          exact digital
        · contradiction
      · exact h.modes p mode intended
    beyond := by
      intro p outside
      change d.nPins ≤ p at outside
      simp only [requestReset]
      rw [if_neg (by omega)]
      exact h.beyond p outside
    watches := by
      apply WatchTable.empty
      intro i inside
      simp [requestReset, inside]
    selection := Selection.empty }

theorem recordMode_invariant {pin : Nat} {mode : PinMode} (h : Invariant b d)
    (known : pin < d.nPins) (allowed : modeAllowed b (d.caps pin) mode) : Invariant b (recordMode d pin mode) :=
  { h with
    events := by
      have := h.events
      unfold recordMode
      dsimp only
      split
      · exact this
      · split <;> exact this
    records := by
      have := h.records
      unfold recordMode
      dsimp only
      split <;> exact this
    modes := by
      intro p mode' intended
      unfold recordMode at intended
      dsimp only at intended
      by_cases same : p = pin
      · subst p
        rw [Function.update_self] at intended
        obtain rfl := Option.some.inj intended
        exact allowed
      · rw [Function.update_of_ne same] at intended
        exact h.modes p mode' intended
    beyond := by
      intro p outside
      change d.nPins ≤ p at outside
      change Function.update d.mode pin (some mode) p = none
      rw [Function.update_of_ne (by omega)]
      exact h.beyond p outside
    watches := by
      unfold recordMode
      dsimp only
      split
      · rename_i input
        apply h.watches.remode
        intro i inside on
        by_cases same : (d.event.watch i).pin = pin
        · rw [same, Function.update_self]
          exact input
        · rw [Function.update_of_ne same]
          exact h.watches.input i inside on
      · split
        · rename_i i found
          obtain ⟨inside, on, at_pin⟩ := EventState.watchIndex_eq_some found
          apply h.watches.clear inside on
          intro j hj other onj
          have elsewhere : (d.event.watch j).pin ≠ pin := by
            intro same
            exact other (h.watches.distinct j hj i inside onj on (same.trans at_pin.symm))
          rw [Function.update_of_ne elsewhere]
          exact h.watches.input j hj onj
        · rename_i free
          rw [EventState.watchIndex_eq_none] at free
          apply h.watches.remode
          intro j hj onj
          rw [Function.update_of_ne (free j hj onj)]
          exact h.watches.input j hj onj
    selection := by
      unfold recordMode
      dsimp only
      split
      · exact h.selection.stop
      · exact h.selection
    packet := by
      have := h.packet
      unfold recordMode
      dsimp only
      split <;> exact this }

/-- Arming a slot that already watches the pin. -/
theorem rearm_invariant {pin i : Nat} {edge : EdgeMode} {debounceMs : UInt8} (h : Invariant b d)
    (known : pin < d.nPins) (digital : hasCap (d.caps pin) capDio) (input : modeIsInput (d.mode pin))
    (found : d.event.watchIndex pin = some i) :
    Invariant b { d with event := d.event.arm i pin edge debounceMs } :=
  { h with
    watches := by
      obtain ⟨inside, on, at_pin⟩ := EventState.watchIndex_eq_some found
      apply h.watches.arm known digital input
      · intro j hj other onj same
        exact other (h.watches.distinct j hj i inside onj on (same.trans at_pin.symm))
      · change d.event.nWatched.toNat = _
        rw [h.watches.counted]
        apply Lib.Table.count_congr
        intro j _
        by_cases same : j = i
        · subst j
          rw [Function.update_self, on]
        · rw [Function.update_of_ne same] }

/-- Arming a free slot. -/
theorem arm_invariant {pin : Nat} {edge : EdgeMode} {debounceMs : UInt8} (h : Invariant b d)
    (known : pin < d.nPins) (digital : hasCap (d.caps pin) capDio) (input : modeIsInput (d.mode pin))
    (fresh : d.event.watchIndex pin = none) (room : d.event.nWatched.toNat < maxEventPins) :
    Invariant b { d with event := { d.event.arm d.event.freeSlot pin edge debounceMs with
      nWatched := d.event.nWatched + 1 } } :=
  { h with
    watches := by
      obtain ⟨_, inside, off⟩ := h.watches.freeSlot room
      rw [EventState.watchIndex_eq_none] at fresh
      apply h.watches.arm known digital input
      · intro j hj _ onj
        exact fresh j hj onj
      · have limit : maxEventPins = 8 := rfl
        have bumped : (d.event.nWatched + 1).toNat = activeCount d.event.watch + 1 := by
          rw [← h.watches.counted]
          simp only [UInt8.toNat_add, UInt8.toNat_one]
          omega
        rw [bumped]
        symm
        apply Lib.Table.count_switch inside
        · intro j other
          simp only [Function.update_of_ne other]
        · exact off
        · simp only [Function.update_self] }

/-- What the interrupt side does keeps the invariant. -/
theorem Served.invariant (served : Served b env d d' o) (h : Invariant b d) : Invariant b d' := by
  cases served with
  | refused | status => exact { h with }
  | read | unchanged => exact h
  | popped index =>
    exact { h with events := (d.event.pop_count_le index).trans h.events }
  | reset => exact requestReset_invariant h
  | added index value idle known fits fresh room adds =>
    exact { h with
      selection := h.selection.add known (StreamState.channelIndex_eq_none.mp fresh) room }
  | removed index value i idle found removes =>
    exact { h with
      selection := by
        simpa only [StreamState.removeChannel, idle] using
          h.selection.remove (StreamState.channelIndex_eq_some found).1 }
  | started index value idle selected =>
    exact { h with selection := { h.selection with started := fun _ => selected } }
  | stopped => exact { h with selection := h.selection.stop }
  | moded index value mode named known allowed room =>
    exact recordMode_invariant (h.queued .pinMode index.toNat value room) known allowed
  | written req mode index value writes known intended room => exact h.queued _ _ _ room
  | unwatched index value i found =>
    obtain ⟨inside, on, at_pin⟩ := EventState.watchIndex_eq_some found
    exact { h with
      watches := h.watches.clear inside on (fun j hj _ onj => h.watches.input j hj onj) }
  | rearmed index value i edge known digital input found =>
    exact rearm_invariant h known digital input found
  | armed index value edge known digital input fresh room =>
    exact arm_invariant h known digital input fresh room

/-- Tests survive any change that leaves `tail` alone, only adds commands, only
removes events and keeps the record ring. -/
theorem Pc.Ok.interrupted {pc : Pc} (ok : pc.Ok d) (tail : d'.tail = d.tail)
    (commands : d.tail ≠ d.head → d'.tail ≠ d'.head)
    (events : (d'.event.head - d'.event.tail).toNat ≤ (d.event.head - d.event.tail).toNat)
    (records : d'.stream.head - d'.stream.tail = d.stream.head - d.stream.tail) : pc.Ok d' := by
  cases pc with
  | idle | shadow => trivial
  | drain pc =>
    cases pc with
    | copySlot => exact commands ok
    | bumpTail seen c => exact ⟨ok.1.trans tail.symm, commands ok.2⟩
    | _ => trivial
  | event pc =>
    cases pc with
    | fillSlot | bumpHead => exact Nat.lt_of_le_of_lt events ok
    | _ => trivial
  | stream pc =>
    cases pc with
    | pushRecord now buf =>
      change (d'.stream.head - d'.stream.tail).toNat < streamRingDepth
      rw [records]
      exact ok
    | _ => trivial

theorem Served.pcOk {pc : Pc} (served : Served b env d d' o) (ok : pc.Ok d) : pc.Ok d' := by
  have grown : d.queuePending.toNat < queueDepth → d.tail ≠ d.head + 1 := by
    intro room same
    have := queued_count room
    rw [same] at this
    simp at this
  cases served with
  | moded index value mode named known allowed room =>
    refine ok.interrupted rfl (fun _ => grown room) ?_ ?_
    · unfold recordMode
      dsimp only
      split
      · exact Nat.le_refl _
      · split <;> exact Nat.le_refl _
    · unfold recordMode
      dsimp only
      split <;> rfl
  | written req mode index value writes known intended room =>
    exact ok.interrupted rfl (fun _ => grown room) (Nat.le_refl _) rfl
  | popped index => exact ok.interrupted rfl id (d.event.pop_count_le index) rfl
  | reset => exact ok.interrupted rfl id (by simp [requestReset]) rfl
  | _ => exact ok.interrupted rfl id (Nat.le_refl _) rfl

/-- execute() touches the shadow only. -/
theorem execute_frame (b : Board) (env : Env) (d : UsbIoDevice) (c : Command) :
    ∃ dio ain, (execute b env d c).1 = { d with dio := dio, ain := ain } := by
  unfold execute
  split
  · split
    · unfold applyMode
      split
      · exact ⟨_, _, rfl⟩
      · split
        · exact ⟨_, _, rfl⟩
        · exact ⟨_, _, rfl⟩
    · exact ⟨_, _, rfl⟩
  · exact ⟨_, _, rfl⟩
  · exact ⟨_, _, rfl⟩
  · exact ⟨_, _, rfl⟩
  · exact ⟨_, _, rfl⟩

theorem Invariant.shadow (h : Invariant b d) (dio : Nat → Bool) (ain : Nat → UInt16) :
    Invariant b { d with dio := dio, ain := ain } :=
  { h with }

theorem drainStep_invariant {pc : DrainPc} (h : Invariant b d) (ok : pc.Ok d) :
    Invariant b (drainStep b env d pc).1 := by
  cases pc with
  | resetApply seen => exact { h with cursor := Nat.zero_lt_of_lt h.cursor }
  | resetDone seen => exact { h with }
  | bumpTail tail c =>
    obtain ⟨rfl, pending⟩ : tail = d.tail ∧ d.tail ≠ d.head := ok
    have := Lib.Ring.count_tail pending
    have := h.queue
    exact { h with
      queue := by
        change (d.head - (d.tail + 1)).toNat ≤ queueDepth
        omega }
  | epochTest c =>
    simp only [drainStep]
    split <;> exact h
  | execute c =>
    obtain ⟨dio, ain, eq⟩ := execute_frame b env d c
    simp only [drainStep, eq]
    exact h.shadow dio ain
  | outerTest =>
    simp only [drainStep]
    split <;> exact h
  | _ => exact h

theorem shadowStep_invariant {pc : ShadowPc} (h : Invariant b d) :
    Invariant b (shadowStep env d pc).1 := by
  have pins : 0 < d.nPins := Nat.zero_lt_of_lt h.cursor
  cases pc with
  | enter => exact h
  | pin p =>
    simp only [shadowStep]
    split
    · split
      · exact h.shadow _ d.ain
      · exact h
    · exact h
  | analog i =>
    simp only [shadowStep]
    split
    · split
      · exact { h with cursor := Nat.mod_lt _ pins }
      · exact { h with cursor := Nat.mod_lt _ pins }
    · exact h

/-- event_poll() writes fields of its own in a slot. -/
theorem WatchTable.own {nPins : Nat} {caps : Nat → UInt8} {mode : Nat → Option PinMode}
    {watch : Nat → EventWatch} {nWatched : UInt8} (h : WatchTable nPins caps mode watch nWatched)
    (i : Nat) (w : EventWatch) (active : w.active = (watch i).active) (pin : w.pin = (watch i).pin) :
    WatchTable nPins caps mode (Function.update watch i w) nWatched := by
  apply h.congr
  · intro j
    by_cases same : j = i
    · subst j
      rw [Function.update_self, active]
    · rw [Function.update_of_ne same]
  · intro j
    by_cases same : j = i
    · subst j
      rw [Function.update_self, pin]
    · rw [Function.update_of_ne same]

theorem eventStep_invariant {pc : EventPc} (h : Invariant b d) (ok : pc.Ok d.event) :
    Invariant b { d with event := (eventStep env d pc).1 } := by
  cases pc with
  | takeSeq | takeBaseline | bumpCount | openWindow =>
    exact { h with watches := h.watches.own _ _ rfl rfl }
  | compareLevel =>
    simp only [eventStep]
    split
    · exact h
    · exact { h with watches := h.watches.own _ _ rfl rfl }
  | bumpHead now i ev =>
    have limit : eventQueueDepth = 32 := rfl
    have room : (d.event.head - d.event.tail).toNat < eventQueueDepth := ok
    have := @Lib.Ring.count_head d.event.tail d.event.head (by omega)
    exact { h with
      events := by
        change (d.event.head + 1 - d.event.tail).toNat ≤ eventQueueDepth
        omega }
  | dropStore | fillSlot => exact { h with }
  | readActive | roomTest =>
    simp only [eventStep]
    split <;> exact h
  | _ => exact h

theorem streamStep_invariant {pc : StreamPc} (h : Invariant b d) (ok : pc.Ok d.stream) :
    Invariant b { d with stream := (streamStep b env d pc).1 } := by
  cases pc with
  | startDone | bumpSeq | bumpOverruns | advance => exact { h with }
  | startReset =>
    exact { h with
      records := by simp [streamStep, StreamState.restart]
      packet := by simp [streamStep, StreamState.restart] }
  | stopRunning | failStop => exact { h with selection := h.selection.stop }
  | pushRecord now buf =>
    have limit : streamRingDepth = 32 := rfl
    have room : (d.stream.head - d.stream.tail).toNat < streamRingDepth := ok
    have := @Lib.Ring.count_head d.stream.tail d.stream.head (by omega)
    exact { h with
      records := by
        change (d.stream.head + 1 - d.stream.tail).toNat ≤ streamRingDepth
        omega }
  | catchUp now =>
    simp only [streamStep]
    split
    · exact h
    · exact { h with }
  | packRecord =>
    simp only [streamStep]
    split
    · rename_i pending
      split
      · exact h
      · rename_i fits
        have := Lib.Ring.count_tail pending
        have := h.records
        exact { h with
          records := by
            change (d.stream.head - (d.stream.tail + 1)).toNat ≤ streamRingDepth
            omega
          packet := by
            simp only [StreamState.pack, List.length_append]
            omega }
    · exact h
  | flushTest =>
    simp only [streamStep]
    split
    · exact h
    · split <;> exact h
  | writeResult packet =>
    simp only [streamStep]
    split
    · exact h
    · exact { h with }
    · exact { h with packet := by simp [StreamState.sent] }
  | failDrop =>
    exact { h with
      records := by simp [streamStep, StreamState.dropBacklog]
      packet := by simp [streamStep, StreamState.dropBacklog] }
  | _ => exact h

/-- A test made by poll() holds when the step that uses it comes. -/
theorem drainStep_pcOk {pc next : DrainPc} (ok : pc.Ok d)
    (goes : (drainStep b env d pc).2.1 = some next) : next.Ok (drainStep b env d pc).1 := by
  cases pc with
  | drainTest =>
    by_cases pending : d.tail ≠ d.head
    · simp only [drainStep, if_pos pending, Option.some.injEq] at goes
      subst next
      exact pending
    · simp only [drainStep, if_neg pending, Option.some.injEq] at goes
      subst next
      trivial
  | copySlot =>
    obtain rfl := Option.some.inj goes
    exact ⟨rfl, ok⟩
  | resetTest =>
    obtain rfl := Option.some.inj goes
    split <;> trivial
  | epochTest c =>
    simp only [drainStep] at goes
    split at goes <;> obtain rfl := Option.some.inj goes <;> trivial
  | outerTest =>
    simp only [drainStep] at goes
    split at goes
    · obtain rfl := Option.some.inj goes
      trivial
    · contradiction
  | _ =>
    obtain rfl := Option.some.inj goes
    trivial

theorem eventStep_pcOk {pc next : EventPc} (ok : pc.Ok d.event)
    (goes : (eventStep env d pc).2.1 = some next) : next.Ok (eventStep env d pc).1 := by
  cases pc with
  | roomTest now i ev =>
    by_cases full : d.event.full
    · simp only [eventStep, if_pos full, Option.some.injEq] at goes
      subst next
      trivial
    · simp only [eventStep, if_neg full, Option.some.injEq] at goes ⊢
      subst next
      have room : (d.event.head - d.event.tail).toNat < eventQueueDepth := by
        simpa [EventState.full] using full
      exact room
  | fillSlot now i ev =>
    obtain rfl := Option.some.inj goes
    exact ok
  | readClock =>
    simp only [eventStep] at goes
    split at goes
    · contradiction
    · obtain rfl := Option.some.inj goes
      trivial
  | readActive now i =>
    simp only [eventStep] at goes
    split at goes
    · obtain rfl := Option.some.inj goes
      split <;> trivial
    · contradiction
  | compareLevel now i pin =>
    simp only [eventStep] at goes
    split at goes <;> obtain rfl := Option.some.inj goes <;> trivial
  | seqTest | changeTest | directionTest | debounceTest | dropTest =>
    obtain rfl := Option.some.inj goes
    split <;> trivial
  | _ =>
    obtain rfl := Option.some.inj goes
    trivial

theorem streamStep_pcOk {pc next : StreamPc} (goes : (streamStep b env d pc).2.1 = some next) :
    next.Ok (streamStep b env d pc).1 := by
  cases pc with
  | roomTest now buf =>
    by_cases full : d.stream.full
    · simp only [streamStep, if_pos full, Option.some.injEq] at goes
      subst next
      trivial
    · simp only [streamStep, if_neg full, Option.some.injEq] at goes
      subst next
      have room : (d.stream.head - d.stream.tail).toNat < streamRingDepth := by
        simpa [StreamState.full] using full
      exact room
  | startTest | runTest | dueTest | channelTest | digitalTest | bitmapPin | stopFlagTest
    | periodTest =>
    obtain rfl := Option.some.inj goes
    split <;> trivial
  | packRecord =>
    simp only [streamStep] at goes
    split at goes
    · split at goes <;> obtain rfl := Option.some.inj goes <;> trivial
    · obtain rfl := Option.some.inj goes
      trivial
  | flushTest =>
    simp only [streamStep] at goes
    split at goes
    · contradiction
    · split at goes
      · contradiction
      · obtain rfl := Option.some.inj goes
        trivial
  | writeResult packet =>
    simp only [streamStep] at goes
    split at goes
    · contradiction
    · split at goes
      · contradiction
      · obtain rfl := Option.some.inj goes
        trivial
    · contradiction
  | failDrop => contradiction
  | _ =>
    obtain rfl := Option.some.inj goes
    trivial

/-- The invariant of the device with poll() part of the way. -/
structure Machine.Ok (b : Board) (m : Machine) : Prop where
  dev : Invariant b m.dev
  pc : m.pc.Ok m.dev

theorem loopStep_ok {m : Machine} (ok : m.Ok b) : (loopStep b env m).Ok b := by
  obtain ⟨d, pc, log⟩ := m
  obtain ⟨inv, pc_ok⟩ := ok
  cases pc with
  | idle => exact ⟨inv, trivial⟩
  | drain pc =>
    refine ⟨drainStep_invariant inv pc_ok, ?_⟩
    simp only [loopStep]
    cases goes : (drainStep b env d pc).2.1 with
    | none => trivial
    | some next => exact drainStep_pcOk pc_ok goes
  | shadow pc =>
    refine ⟨shadowStep_invariant inv, ?_⟩
    simp only [loopStep]
    cases (shadowStep env d pc).2 <;> trivial
  | event pc =>
    refine ⟨eventStep_invariant inv pc_ok, ?_⟩
    simp only [loopStep]
    cases goes : (eventStep env d pc).2.1 with
    | none =>
      simp only [Option.map_none, Option.getD_none, afterEvent]
      split <;> trivial
    | some next => exact eventStep_pcOk pc_ok goes
  | stream pc =>
    refine ⟨streamStep_invariant inv pc_ok, ?_⟩
    simp only [loopStep]
    cases goes : (streamStep b env d pc).2.1 with
    | none => trivial
    | some next => exact streamStep_pcOk goes

theorem step_ok {m : Machine} (act : Act) (ok : m.Ok b) : (step b m act).Ok b := by
  cases act with
  | setup env s =>
    have served := handleSetup_served b env m.dev s
    exact ⟨served.invariant ok.dev, served.pcOk ok.pc⟩
  | disconnect =>
    exact ⟨{ ok.dev with selection := Selection.empty },
      ok.pc.interrupted rfl id (Nat.le_refl _) rfl⟩
  | loop env => exact loopStep_ok ok

theorem beginCaps_analog (b : Board) (nAin p : Nat) :
    hasCap (beginCaps b nAin p) capAin = (b.pinHasAin p && decide (nAin < maxAin)) := by
  have bits : ∀ dio ain pwm dac : Bool, hasCap
      ((if dio then capDio else 0) ||| (if ain then capAin else 0) |||
        (if pwm then capPwm else 0) ||| (if dac then capDac else 0)) capAin = ain := by
    decide
  exact bits ..

/-- begin()'s loop over its first `n` pins: at most 32 of them become analog. -/
theorem begin_pins (b : Board) (d : UsbIoDevice) (n : Nat) (modes : d.mode = fun _ => none)
    (dio : d.dio = fun _ => false) (ain : d.ain = fun _ => 0) (none_yet : d.nAin = 0) :
    ∃ caps nAin, (List.range n).foldl (beginPin b) d = { d with caps := caps, nAin := nAin } ∧
      nAin ≤ maxAin ∧ Lib.Table.count n (fun p => hasCap (caps p) capAin) = nAin := by
  induction n with
  | zero => exact ⟨d.caps, d.nAin, rfl, by omega, by simp [none_yet]⟩
  | succ n ih =>
    obtain ⟨caps, nAin, eq, few, counted⟩ := ih
    rw [List.range_succ, List.foldl_append, eq]
    have earlier : Lib.Table.count n
        (fun p => hasCap (Function.update caps n (beginCaps b nAin n) p) capAin) = nAin := by
      rw [← counted]
      apply Lib.Table.count_congr
      intro j below
      rw [Function.update_of_ne (by omega)]
    refine ⟨Function.update caps n (beginCaps b nAin n),
      if b.pinHasAin n && decide (nAin < maxAin) then nAin + 1 else nAin, ?_, ?_, ?_⟩
    · simp only [List.foldl_cons, List.foldl_nil, beginPin, modes, dio, ain]
      congr <;> exact Function.update_eq_self n _
    · split
      · rename_i analog
        simp only [Bool.and_eq_true, decide_eq_true_eq] at analog
        omega
      · exact few
    · rw [Lib.Table.count_succ, earlier, Function.update_self, beginCaps_analog]
      split <;> rfl

/-- The fields begin() sets; the others are the constructor's. -/
theorem boot_dev (b : Board) : ∃ caps nAin,
    (boot b).dev = { UsbIoDevice.init with
      nPins := b.pinCount, nAin := nAin, caps := caps
      flags := (if b.hasPulldown then flagPulldown else 0) ||| flagEvents ||| b.transportFlags } ∧
    nAin ≤ maxAin ∧ Lib.Table.count b.pinCount (fun p => hasCap (caps p) capAin) = nAin := by
  obtain ⟨caps, nAin, eq, few, counted⟩ :=
    begin_pins b { UsbIoDevice.init with nPins := b.pinCount, nAin := 0 } b.pinCount rfl rfl rfl rfl
  refine ⟨caps, nAin, ?_, few, counted⟩
  simp only [boot, begin, eq]

theorem boot_ok (b : Board) : (boot b).Ok b := by
  obtain ⟨caps, nAin, shape, few, counted⟩ := boot_dev b
  refine ⟨?_, trivial⟩
  rw [shape]
  exact {
    pins := rfl
    queue := by simp [UsbIoDevice.init]
    events := by simp [UsbIoDevice.init, EventState.init]
    records := by simp [UsbIoDevice.init, StreamState.init]
    modes := by simp [UsbIoDevice.init]
    beyond := by simp [UsbIoDevice.init]
    watches := WatchTable.empty (by simp [UsbIoDevice.init, EventState.init])
    selection := Selection.empty
    packet := by simp [UsbIoDevice.init, StreamState.init]
    cursor := b.pinCount_pos
    analog := by
      change Lib.Table.count b.pinCount (fun p => hasCap (caps p) capAin) ≤ maxAin
      omega }

theorem run_ok {m : Machine} (ok : m.Ok b) (acts : List Act) : (run b m acts).Ok b := by
  induction acts generalizing m with
  | nil => exact ok
  | cons act acts ih => exact ih (step_ok act ok)

theorem reach_ok {m : Machine} {guard : Machine → Act → Prop}
    (reached : Lib.Reach (step b) guard (boot b) m) : m.Ok b :=
  reached.invariant (boot_ok b) (fun _ act ok _ => step_ok act ok)

end ArduinoDriver
