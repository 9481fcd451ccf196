import ArduinoDriver.Firmware.Contract
import ArduinoDriver.Firmware.Identity
import ArduinoDriver.Firmware.Watches
import Mathlib.Tactic.IntervalCases

namespace ArduinoDriver

variable {b : Board} {env : Env} {d d' : UsbIoDevice} {index value : UInt16} {req : Request}
  {pin : Nat} {bRequest : UInt8}

/-- An outcome that matches a verdict: the reason of a refusal, or else the intent
an accepted request leaves. -/
def Outcome (d : UsbIoDevice) (verdict : Option Status) (after : Intent)
    (r : UsbIoDevice × Bool) : Prop :=
  match verdict with
  | some reason => r = stall d reason
  | none => r.2 = true ∧ r.1.intent = after

/-- A handler's outcome is what the table says. -/
def Meets (b : Board) (d : UsbIoDevice) (req : Request) (index value : UInt16)
    (r : UsbIoDevice × Bool) : Prop :=
  Outcome d (firstFailure ((d.contract b).rows req index value))
    ((d.contract b).effect req index value) r

variable {after : Intent} {r : UsbIoDevice × Bool} {rows : List (Bool × Status)}

theorem Outcome.accept (silent : d'.intent = after) : Outcome d (firstFailure []) after (d', true) :=
  ⟨rfl, silent⟩

theorem Outcome.refuse {holds : Bool} {reason : Status} (fails : holds = false) :
    Outcome d (firstFailure ((holds, reason) :: rows)) after (stall d reason) := by
  subst fails
  rfl

/-- One check of a handler against one row of the table. -/
theorem Outcome.row {holds : Bool} {fails : Prop} [Decidable fails] {reason : Status}
    (same : fails ↔ holds = false) (rest : holds → Outcome d (firstFailure rows) after r) :
    Outcome d (firstFailure ((holds, reason) :: rows)) after
      (if fails then stall d reason else r) := by
  cases holds with
  | false =>
    rw [if_pos (same.mpr rfl)]
    rfl
  | true =>
    rw [if_neg (fun failed => nomatch same.mp failed)]
    exact rest rfl

/-- A row that always holds. -/
theorem Outcome.skip {holds : Bool} {reason : Status} (passes : holds)
    (rest : Outcome d (firstFailure rows) after r) :
    Outcome d (firstFailure ((holds, reason) :: rows)) after r := by
  subst passes
  exact rest

/-- The last row of the queued requests. -/
theorem Outcome.room {cmd : Request} {f : UsbIoDevice → UsbIoDevice}
    (queues : d.queuePending.toNat < queueDepth → (f (d.queued cmd pin value)).intent = after) :
    Outcome d (firstFailure [(decide (d.queuePending.toNat < queueDepth), .queueFull)]) after
      (match enqueue d cmd pin value with
        | none => stall d .queueFull
        | some d₁ => (f d₁, true)) := by
  by_cases room : d.queuePending.toNat < queueDepth
  · rw [enqueue_eq_some.mpr ⟨room, rfl⟩]
    exact .skip (decide_eq_true room) (.accept (queues room))
  · rw [show enqueue d cmd pin value = none from if_pos (Nat.le_of_not_lt room)]
    rw [firstFailure, decide_eq_false room]
    rfl

theorem inputs_contains (mode : Option PinMode) :
    [some PinMode.input, some .inputPullup, some .inputPulldown].contains mode =
      modeIsInput mode := by
  rcases mode with _ | mode
  · decide
  · cases mode <;> decide

theorem isInput_iff : (d.contract b).isInput pin = modeIsInput (d.mode pin) :=
  inputs_contains (d.mode pin)

theorem fullScale_iff (bits : Nat) (value : UInt16) :
    value.toNat ≤ fullScale bits ↔ value.toNat ≤ 2 ^ bits - 1 := by
  have small := value.toNat_lt
  unfold fullScale
  split
  · rename_i wide
    have big : 2 ^ 16 ≤ 2 ^ bits := Nat.pow_le_pow_right (by simp) wide
    omega
  · exact Iff.rfl

theorem PinMode.ofCode_eq_none {value : UInt16} : PinMode.ofCode? value = none ↔ 7 ≤ value.toNat := by
  constructor
  · intro unnamed
    by_contra named
    have codes : ∀ n < 7, PinMode.ofCode? (UInt16.ofNat n) ≠ none := by decide
    have found := codes value.toNat (by omega)
    rw [UInt16.ofNat_toNat] at found
    exact found unnamed
  · intro large
    cases named : PinMode.ofCode? value with
    | none => rfl
    | some mode =>
      rw [← PinMode.code_of_ofCode named] at large
      cases mode <;> exact absurd large (by decide)

theorem EdgeMode.ofCode_eq_none {value : UInt8} : EdgeMode.ofCode? value = none ↔ 4 ≤ value.toNat := by
  constructor
  · intro unnamed
    by_contra named
    have codes : ∀ n < 4, EdgeMode.ofCode? (UInt8.ofNat n) ≠ none := by decide
    have found := codes value.toNat (by omega)
    rw [UInt8.ofNat_toNat] at found
    exact found unnamed
  · intro large
    cases named : EdgeMode.ofCode? value with
    | none => rfl
    | some edge =>
      have code : edge.code = value := by simpa using List.find?_some named
      rw [← code] at large
      cases edge <;> exact absurd large (by decide)

theorem capable_iff {mode : PinMode} :
    (d.contract b).capable pin mode = modeAllowed b (d.caps pin) mode := by
  unfold Contract.capable UsbIoDevice.contract modeAllowed
  cases mode <;> simp [PinMode.capability]

theorem known_row : d.nPins ≤ pin ↔ decide (pin < (d.contract b).nPins) = false := by
  rw [decide_eq_false_iff_not, Nat.not_lt]
  rfl

theorem intended_row {mode : PinMode} :
    d.mode pin ≠ some mode ↔ (d.mode pin == some mode) = false := by
  simp

theorem limit_row {limit bits : Nat} (same : value.toNat ≤ limit ↔ value.toNat ≤ 2 ^ bits - 1) :
    limit < value.toNat ↔ decide (value.toNat ≤ 2 ^ bits - 1) = false := by
  rw [decide_eq_false_iff_not, ← same, Nat.not_le]

theorem handleDioWrite_meets : Meets b d .dioWrite index value
    (if d.nPins ≤ index.toNat then stall d .badPin else handleDioWrite d index.toNat value) := by
  refine .row known_row (fun _ => .row intended_row (fun _ => ?_))
  have small : (if value ≠ 0 then (1 : UInt16) else 0).toNat ≤ 1 := by
    split <;> decide
  rw [if_neg (Nat.not_lt.mpr small)]
  exact .room (fun _ => rfl)

theorem handlePwmWrite_meets : Meets b d .pwmWrite index value
    (if d.nPins ≤ index.toNat then stall d .badPin else handlePwmWrite b d index.toNat value) :=
  .row known_row (fun _ => .row intended_row (fun _ =>
    .row (limit_row (fullScale_iff b.pwmBits value)) (fun _ => .room (fun _ => rfl))))

theorem handleDacWrite_meets : Meets b d .dacWrite index value
    (if d.nPins ≤ index.toNat then stall d .badPin else handleDacWrite b d index.toNat value) :=
  .row known_row (fun _ => .row intended_row (fun _ =>
    .row (limit_row (fullScale_iff b.dacBits value)) (fun _ => .room (fun _ => rfl))))

theorem channelIndex_isSome (d : UsbIoDevice) (pin : Nat) :
    (d.stream.channelIndex pin).isSome = d.stream.selection.contains pin := by
  have absent := @StreamState.channelIndex_selection d.stream pin
  cases found : d.stream.channelIndex pin with
  | none => simpa using absent.mp found
  | some i =>
    rw [found] at absent
    simpa using absent

/-- The intent after an accepted PIN_MODE. -/
theorem recordMode_intent {mode : PinMode} (inv : Invariant b d)
    (named : PinMode.ofCode? value = some mode) :
    (recordMode d index.toNat mode).intent = (d.contract b).effect .pinMode index value := by
  have running : (recordMode d index.toNat mode).stream.running =
      (d.stream.running && !d.stream.selection.contains index.toNat) := by
    rw [← channelIndex_isSome]
    unfold recordMode
    dsimp only
    cases on : d.stream.running <;> cases (d.stream.channelIndex index.toNat).isSome <;> simp [on]
  have selection : (recordMode d index.toNat mode).stream.selection = d.stream.selection := by
    unfold recordMode
    dsimp only
    split <;> rfl
  have watching : (recordMode d index.toNat mode).event.watching =
      if modeIsInput (some mode) then d.event.watching
      else Function.update d.event.watching index.toNat none := by
    unfold recordMode
    dsimp only
    split
    · rfl
    · cases found : d.event.watchIndex index.toNat with
      | none =>
        have unwatched : d.event.watching index.toNat = none := by
          rw [EventState.watching, found, Option.map_none]
        rw [← unwatched, Function.update_eq_self]
      | some i => exact inv.watches.unwatch_watching found
  unfold Contract.effect
  rw [named]
  dsimp only
  rw [inputs_contains]
  have fields : (recordMode d index.toNat mode).intent =
      ⟨Function.update d.mode index.toNat (some mode), (recordMode d index.toNat mode).event.watching,
        (recordMode d index.toNat mode).stream.selection,
        (recordMode d index.toNat mode).stream.running⟩ := rfl
  rw [fields, watching, selection, running]
  rfl

theorem handlePinMode_meets (inv : Invariant b d) : Meets b d .pinMode index value
    (if d.nPins ≤ index.toNat then stall d .badPin else handlePinMode b d index.toNat value) := by
  refine .row known_row (fun _ => ?_)
  unfold handlePinMode
  cases named : PinMode.ofCode? value with
  | none =>
    have large := PinMode.ofCode_eq_none.mp named
    exact .refuse (decide_eq_false (Nat.not_lt.mpr large))
  | some mode =>
    have small : value.toNat < 7 := by
      by_contra large
      rw [PinMode.ofCode_eq_none.mpr (Nat.le_of_not_lt large)] at named
      contradiction
    have allowed_row : (!modeAllowed b (d.caps index.toNat) mode) = true ↔
        (d.contract b).capable index.toNat mode = false := by
      rw [capable_iff, Bool.not_eq_true']
    exact .skip (decide_eq_true small) (.row allowed_row (fun _ =>
      .room (fun room => recordMode_intent (inv.queued _ _ _ room) named)))

theorem effect_arm {edge : EdgeMode} (named : EdgeMode.ofCode? value.toUInt8 = some edge)
    (armed : edge ≠ .off) : (d.contract b).effect .eventConfig index value =
      { d.intent with
        watch := Function.update d.event.watching index.toNat
          (some (edge, (value >>> 8).toUInt8)) } := by
  unfold Contract.effect
  rw [named]
  cases edge with
  | off => contradiction
  | _ => rfl

theorem EventState.watching_of_found {e : EventState} {i : Nat} (found : e.watchIndex pin = some i) :
    (e.watching pin).isSome = true := by
  rw [EventState.watching, found]
  rfl

theorem EventState.watching_of_missing {e : EventState} (missing : e.watchIndex pin = none) :
    e.watching pin = none := by
  rw [EventState.watching, missing, Option.map_none]

/-- OFF: the pin is no longer watched, if it was. -/
theorem eventOff_meets (inv : Invariant b d) (off : EdgeMode.ofCode? value.toUInt8 = some .off) :
    Outcome d (firstFailure []) ((d.contract b).effect .eventConfig index value)
      (match d.event.watchIndex index.toNat with
        | some i => ({ d with event := (d.event.unwatch i).discard index.toNat }, true)
        | none => (d, true)) := by
  have effect : (d.contract b).effect .eventConfig index value =
      { d.intent with watch := Function.update d.event.watching index.toNat none } := by
    simp only [Contract.effect, off]
    rfl
  rw [effect]
  cases found : d.event.watchIndex index.toNat with
  | none =>
    rw [← EventState.watching_of_missing found, Function.update_eq_self]
    exact .accept rfl
  | some i =>
    rw [← inv.watches.unwatch_watching found]
    exact .accept rfl

/-- Arming, past the checks on the pin and the edge mode: the pin's own slot, or a
free one while there is any. -/
theorem eventArm_meets {edge : EdgeMode} (inv : Invariant b d)
    (effect : (d.contract b).effect .eventConfig index value =
      { d.intent with
        watch := Function.update d.event.watching index.toNat
          (some (edge, (value >>> 8).toUInt8)) }) :
    Outcome d
      (firstFailure [((d.event.watching index.toNat).isSome ||
        decide (d.event.nWatched.toNat < maxEventPins), .badValue)])
      ((d.contract b).effect .eventConfig index value)
      (match d.event.watchIndex index.toNat with
        | some i => ({ d with event := d.event.arm i index.toNat edge (value >>> 8).toUInt8 }, true)
        | none =>
          if maxEventPins ≤ d.event.nWatched.toNat then stall d .badValue
          else ({ d with event :=
            { d.event.arm d.event.freeSlot index.toNat edge (value >>> 8).toUInt8 with
              nWatched := d.event.nWatched + 1 } }, true)) := by
  rw [effect]
  cases found : d.event.watchIndex index.toNat with
  | some i =>
    obtain ⟨inside, on, at_pin⟩ := EventState.watchIndex_eq_some found
    have watching : (d.event.arm i index.toNat edge (value >>> 8).toUInt8).watching = _ :=
      WatchTable.arm_watching (n := d.event.nWatched) inside (fun _ => at_pin)
        (fun j below other onj same =>
          other (inv.watches.distinct j below i inside onj on (same.trans at_pin.symm)))
    rw [EventState.watching_of_found found, ← watching]
    exact .skip rfl (.accept rfl)
  | none =>
    rw [EventState.watching_of_missing found]
    refine .row (by simp) (fun room => ?_)
    have room : d.event.nWatched.toNat < maxEventPins := by simpa using room
    obtain ⟨_, inside, free⟩ := inv.watches.freeSlot room
    have watching := @WatchTable.arm_watching d.event index.toNat d.event.freeSlot edge
      (value >>> 8).toUInt8 (d.event.nWatched + 1) inside
      (fun on => by rw [free] at on; contradiction)
      (fun j below _ onj => EventState.watchIndex_eq_none.mp found j below onj)
    rw [← watching]
    exact .accept rfl

theorem handleEventConfig_meets (inv : Invariant b d) (begun : Begun b d) :
    Meets b d .eventConfig index value
      (if d.nPins ≤ index.toNat then stall d .badPin
        else handleEventConfig d index.toNat value) := by
  refine .skip begun.events (.row known_row (fun _ => ?_))
  unfold handleEventConfig
  dsimp only
  by_cases off : EdgeMode.ofCode? value.toUInt8 = some .off
  · rw [if_pos off, if_pos off]
    exact eventOff_meets inv off
  · rw [if_neg off, if_neg off]
    have input_row : (!hasCap (d.caps index.toNat) capDio || !modeIsInput (d.mode index.toNat)) = true ↔
        (hasCap (d.caps index.toNat) capDio && (d.contract b).isInput index.toNat) = false := by
      rw [isInput_iff]
      cases hasCap (d.caps index.toNat) capDio <;> simp
    refine .row input_row (fun _ => ?_)
    cases named : EdgeMode.ofCode? value.toUInt8 with
    | none =>
      have large := EdgeMode.ofCode_eq_none.mp named
      exact .refuse (decide_eq_false (Nat.not_lt.mpr large))
    | some edge =>
      have armed : edge ≠ .off := by
        rintro rfl
        exact off named
      have small : value.toUInt8.toNat < 4 := by
        by_contra large
        rw [EdgeMode.ofCode_eq_none.mpr (Nat.le_of_not_lt large)] at named
        contradiction
      have count : (d.contract b).watched = d.event.nWatched.toNat := inv.watches.watched_pins.symm
      rw [count]
      exact .skip (decide_eq_true small) (eventArm_meets inv (effect_arm named armed))

theorem Invariant.selected (inv : Invariant b d) : d.stream.selection.Nodup := by
  refine List.Nodup.map_on ?_ List.nodup_range
  intro i hi j hj same
  exact inv.selection.distinct i (List.mem_range.mp hi) j (List.mem_range.mp hj) same

theorem streaming_row {r : UsbIoDevice × Bool}
    (rest : Outcome d (firstFailure ((hasFlag d.flags flagStreaming, .unsupported) :: rows)) after r) :
    Outcome d (firstFailure (((d.contract b).streaming, .unsupported) :: rows)) after
      (if b.hasStreamTransport then r else stall d .unsupported) := by
  have streaming : (d.contract b).streaming =
    (b.hasStreamTransport && hasFlag d.flags flagStreaming) := rfl
  rw [streaming]
  cases b.hasStreamTransport with
  | false => exact .refuse rfl
  | true => exact rest

theorem flag_row : (!hasFlag d.flags flagStreaming) = true ↔ hasFlag d.flags flagStreaming = false := by
  rw [Bool.not_eq_true']

theorem stopped_row : d.stream.running = true ↔ (!d.stream.running) = false := by
  cases d.stream.running <;> simp

/-- Adding or removing a channel, past the checks on the pin and the value. -/
theorem streamEdit_meets (inv : Invariant b d) :
    Outcome d
      (firstFailure [(value == 0 || d.stream.selection.contains index.toNat ||
        decide (d.stream.selection.length < maxStreamChannels), .badValue)])
      ((d.contract b).effect .streamSelect index value)
      (if value ≠ 0 then
        if (d.stream.channelIndex index.toNat).isSome then (d, true)
        else if maxStreamChannels ≤ d.stream.nChannels.toNat then stall d .badValue
        else ({ d with stream := d.stream.addChannel index.toNat }, true)
      else match d.stream.channelIndex index.toNat with
        | none => (d, true)
        | some i => ({ d with stream := d.stream.removeChannel i }, true)) := by
  have effect : (d.contract b).effect .streamSelect index value =
      { d.intent with selection :=
          if value = 0 then d.stream.selection.filter (· ≠ index.toNat)
          else if d.stream.selection.contains index.toNat then d.stream.selection
          else d.stream.selection ++ [index.toNat] } := rfl
  have absent := @StreamState.channelIndex_selection d.stream index.toNat
  rw [effect, channelIndex_isSome, StreamState.selection_length]
  by_cases zero : value = 0
  · rw [if_neg (not_not.mpr zero), if_pos zero]
    refine .skip (by simp [zero]) ?_
    cases found : d.stream.channelIndex index.toNat with
    | none =>
      have whole : d.stream.selection.filter (· ≠ index.toNat) = d.stream.selection := by
        refine List.filter_eq_self.mpr (fun a inside => ?_)
        have other : a ≠ index.toNat := by
          rintro rfl
          exact absent.mp found inside
        simpa using other
      rw [whole]
      exact .accept rfl
    | some i =>
      rw [← StreamState.selection_remove found inv.selected]
      exact .accept rfl
  · rw [if_pos zero, if_neg zero]
    cases selected : d.stream.selection.contains index.toNat with
    | true =>
      rw [if_pos rfl, if_pos rfl]
      exact .skip (by simp) (.accept rfl)
    | false =>
      rw [if_neg Bool.false_ne_true, if_neg Bool.false_ne_true]
      refine .row (by simp [zero]) (fun room => ?_)
      have room : d.stream.nChannels.toNat < maxStreamChannels := by simpa [zero] using room
      rw [← StreamState.selection_add _ room]
      exact .accept rfl

theorem handleStreamSelect_meets (inv : Invariant b d) : Meets b d .streamSelect index value
    (if b.hasStreamTransport then handleStreamSelect d value index else stall d .unsupported) := by
  refine streaming_row (.row flag_row (fun _ => .row stopped_row (fun _ => .row known_row (fun _ => ?_))))
  have mode_row : (d.mode index.toNat ≠ some .analogIn ∧ (!modeIsInput (d.mode index.toNat)) = true) ↔
      (d.mode index.toNat == some .analogIn || (d.contract b).isInput index.toNat) = false := by
    rw [isInput_iff]
    simp
  have value_row : 1 < value ↔ decide (value.toNat ≤ 1) = false := by
    rw [decide_eq_false_iff_not, Nat.not_le]
    rfl
  exact .row mode_row (fun _ => .row value_row (fun _ => streamEdit_meets inv))

/-- Bits outside the two flags are those of an index of 4 or more. -/
theorem flags_only : index &&& ~~~(streamFlagDigital ||| streamFlagStopOnOverrun).toUInt16 ≠ 0 ↔
    4 ≤ index.toNat := by
  have mask : index &&& ~~~(streamFlagDigital ||| streamFlagStopOnOverrun).toUInt16 =
      (index >>> 2) <<< 2 := by
    apply UInt16.toBitVec_inj.mp
    ext i inside
    simp [streamFlagDigital, streamFlagStopOnOverrun]
    interval_cases i <;> simp
  have kept : ((index >>> 2) <<< 2).toNat = index.toNat / 4 * 4 := by
    have := index.toNat_lt
    simp [UInt16.toNat_shiftLeft, UInt16.toNat_shiftRight, Nat.shiftRight_eq_div_pow,
      Nat.shiftLeft_eq]
    omega
  rw [mask, ne_eq, ← UInt16.toNat_inj, kept]
  change ¬ index.toNat / 4 * 4 = 0 ↔ _
  omega

theorem handleStreamStart_meets : Meets b d .streamStart index value
    (if b.hasStreamTransport then handleStreamStart d value index else stall d .unsupported) := by
  refine streaming_row (.row flag_row (fun _ => .row stopped_row (fun _ => ?_)))
  have selected_row : d.stream.nChannels = 0 ↔ (!d.stream.selection.isEmpty) = false := by
    have empty : d.stream.selection.isEmpty = decide (d.stream.nChannels = 0) := by
      rw [Bool.eq_iff_iff, List.isEmpty_iff_length_eq_zero, StreamState.selection_length,
        decide_eq_true_iff, ← UInt8.toNat_inj]
      rfl
    rw [empty]
    simp
  have period_row : (value ≠ 0 ∧ value < streamMinPeriodUs) ↔
      (value == 0 || decide (streamMinPeriodUs ≤ value)) = false := by
    simp
  have flags_row : index &&& ~~~(streamFlagDigital ||| streamFlagStopOnOverrun).toUInt16 ≠ 0 ↔
      decide (index.toNat < 4) = false := by
    rw [flags_only, decide_eq_false_iff_not, Nat.not_lt]
  exact .row selected_row (fun _ => .row period_row (fun _ => .row flags_row (fun _ => .accept rfl)))

theorem handleStreamStop_meets : Meets b d .streamStop index value
    (if b.hasStreamTransport then handleStreamStop d else stall d .unsupported) :=
  streaming_row (.row flag_row (fun _ => .accept rfl))

theorem requestReset_intent (d : UsbIoDevice) :
    (requestReset d).intent = (d.contract b).effect .reset index value := by
  have fields : (requestReset d).intent =
      ⟨(requestReset d).mode, (requestReset d).event.watching, (requestReset d).stream.selection,
        (requestReset d).stream.running⟩ := rfl
  rw [fields, requestReset_watching]
  rfl

/-- The requests one by one, wLength and bRequest being right. -/
theorem handleOut_meets (inv : Invariant b d) (begun : Begun b d)
    (named : Request.ofCode? bRequest = some req) :
    Meets b d req index value (handleOut b d bRequest value index 0) := by
  unfold handleOut
  rw [named]
  dsimp only
  rw [if_neg (not_not.mpr rfl)]
  cases req with
  | reset => exact Outcome.accept (requestReset_intent d)
  | streamSelect => exact handleStreamSelect_meets inv
  | streamStart => exact handleStreamStart_meets
  | streamStop => exact handleStreamStop_meets
  | pinMode => exact handlePinMode_meets inv
  | dioWrite => exact handleDioWrite_meets
  | pwmWrite => exact handlePwmWrite_meets
  | dacWrite => exact handleDacWrite_meets
  | eventConfig => exact handleEventConfig_meets inv begun
  | _ => exact Outcome.refuse rfl

/-- handle_out() and the table agree. -/
theorem handleOut_outcome (inv : Invariant b d) (begun : Begun b d) (bRequest : UInt8)
    (value index wLength : UInt16) :
    match (d.contract b).refusal bRequest value index wLength with
    | some reason => handleOut b d bRequest value index wLength = stall d reason
    | none => (handleOut b d bRequest value index wLength).2 = true ∧
        ∃ req, Request.ofCode? bRequest = some req ∧
          (handleOut b d bRequest value index wLength).1.intent =
            (d.contract b).effect req index value := by
  unfold Contract.refusal
  by_cases long : wLength ≠ 0
  · rw [if_pos long]
    exact if_pos long
  · obtain rfl := not_not.mp long
    rw [if_neg long]
    cases named : Request.ofCode? bRequest with
    | none =>
      unfold handleOut
      rw [named]
      rfl
    | some req =>
      have meets : Meets b d req index value (handleOut b d bRequest value index 0) :=
        handleOut_meets inv begun named
      unfold Meets Outcome at meets
      dsimp only
      cases verdict : firstFailure ((d.contract b).rows req index value) with
      | some reason =>
        rw [verdict] at meets
        exact meets
      | none =>
        rw [verdict] at meets
        exact ⟨meets.1, req, rfl, meets.2⟩

/-- A SETUP packet that reaches handle_out() with this index: the device recipient, or
the interface recipient on a board that has the vendor interface. -/
structure SetupPacket.Admitted (s : SetupPacket) (d : UsbIoDevice) (index : UInt16) : Prop where
  vendor : s.isVendor = true
  out : s.isIn = false
  recipient : s.bmRequestType &&& 0x1F = 0 ∧ index = s.wIndex ∨
    s.bmRequestType &&& 0x1F = 1 ∧ hasFlag d.flags flagVendorInterface ∧ index = s.wIndex >>> 8

/-- What handle_setup() answers for a handler's outcome. -/
def answered (r : UsbIoDevice × Bool) : UsbIoDevice × Option (List UInt8) :=
  (r.1, if r.2 then some [] else none)

theorem SetupPacket.Admitted.handled {s : SetupPacket} (admitted : s.Admitted d index) :
    handleSetup b env d s = answered (handleOut b d s.bRequest s.wValue index s.wLength) := by
  obtain ⟨vendor, out, recipient⟩ := admitted
  have dispatched : s.index = index → dispatch b env d s =
      answered (handleOut b d s.bRequest s.wValue index s.wLength) := by
    rintro rfl
    unfold dispatch
    rw [out]
    rfl
  unfold handleSetup
  rw [vendor]
  rcases recipient with ⟨device, rfl⟩ | ⟨interface, owned, rfl⟩
  · rw [Bool.not_true, if_neg Bool.false_ne_true, if_pos device]
    exact dispatched (if_pos device)
  · have other : ¬ s.bmRequestType &&& 0x1F = 0 := by
      rw [interface]
      simp
    rw [Bool.not_true, if_neg Bool.false_ne_true, if_neg other, if_pos interface, if_pos owned]
    exact dispatched (if_neg other)

/-- OUT requests are validated as usbio_protocol.h lists it: a refused one leaves the
first failing reason to the next GET_STATUS, an accepted one has the effect listed. -/
theorem validation_follows_contract (b : Board) (env later : Env) {m : Machine}
    (reached : Reachable b m) (s : SetupPacket) (index : UInt16)
    (admitted : s.Admitted m.dev index) :
    match (m.dev.contract b).refusal s.bRequest s.wValue index s.wLength with
    | some reason => (handleSetup b env m.dev s).2 = none ∧
        ∃ pending, (handleSetup b later (handleSetup b env m.dev s).1 (.inp .getStatus 0 4)).2 =
          some [Status.ok.code, pending, reason.code, 0]
    | none => (handleSetup b env m.dev s).2 = some [] ∧
        ∃ req, Request.ofCode? s.bRequest = some req ∧
          (handleSetup b env m.dev s).1.intent = (m.dev.contract b).effect req index s.wValue := by
  have inv : Invariant b m.dev := (reach_ok reached).dev
  have outcome := handleOut_outcome inv (reach_begun reached) s.bRequest s.wValue index s.wLength
  rw [admitted.handled]
  cases verdict : (m.dev.contract b).refusal s.bRequest s.wValue index s.wLength with
  | some reason =>
    rw [verdict] at outcome
    dsimp only at outcome ⊢
    rw [outcome]
    exact ⟨rfl, m.dev.queuePending, rfl⟩
  | none =>
    rw [verdict] at outcome
    obtain ⟨accepts, effect⟩ := outcome
    exact ⟨if_pos accepts, effect⟩

/-- An INPUT_PULLUP right after begin(). -/
theorem validation_follows_contract_pinMode :
    let d := (boot onePinBoard).dev
    let s := SetupPacket.out .pinMode 2 0
    match (d.contract onePinBoard).refusal s.bRequest s.wValue 0 s.wLength with
    | some reason => (handleSetup onePinBoard (stillEnv .busy) d s).2 = none ∧
        ∃ pending, (handleSetup onePinBoard (stillEnv .busy)
          (handleSetup onePinBoard (stillEnv .busy) d s).1 (.inp .getStatus 0 4)).2 =
          some [Status.ok.code, pending, reason.code, 0]
    | none => (handleSetup onePinBoard (stillEnv .busy) d s).2 = some [] ∧
        ∃ req, Request.ofCode? s.bRequest = some req ∧
          (handleSetup onePinBoard (stillEnv .busy) d s).1.intent =
            (d.contract onePinBoard).effect req 0 s.wValue :=
  validation_follows_contract onePinBoard (stillEnv .busy) (stillEnv .busy)
    (m := boot onePinBoard) .refl (SetupPacket.out .pinMode 2 0) 0
    ⟨by decide, by decide, .inl ⟨by decide, by decide⟩⟩

end ArduinoDriver
