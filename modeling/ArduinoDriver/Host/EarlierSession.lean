import ArduinoDriver.Host.Recovery

namespace ArduinoDriver

open Lib (Triple addAll LongestFit)

variable {b : Board} {config : StreamConfig} {st : HostState} {options : DeviceOptions}

/-- The pins in ANALOG_IN or an INPUT* mode. -/
def HostState.streamable (st : HostState) (pin : Nat) : Bool := st.link.machine.dev.streamable pin

/-- The channels of earlier sessions that outlast the Device's removal of its own. -/
def HostState.stale (st : HostState) (config : StreamConfig) : List Nat :=
  stillHeld st.streamable config st.selected st.selection

/-- No stream, no channel, and the Device knows of no Stream. -/
def HostState.Cleared (st : HostState) : Prop :=
  st.link.machine.dev.stream.running = false ∧ st.link.machine.dev.stream.nChannels = 0 ∧ st.streaming = false

/-- The device samples exactly the configuration's pins. -/
def HostState.Samples (st : HostState) (config : StreamConfig) : Prop :=
  st.link.machine.dev.stream.running = true ∧ st.selection.Perm config.channels

theorem streams_of_info (streaming : (b.device options).info.streaming) : b.streams := by
  have flag : hasFlag (boot b).dev.flags flagStreaming = true := streaming
  have transport : b.hasStreamTransport = true := by
    by_contra none_
    rw [(boot_begun b).flags, b.transportFlags_eq, if_neg none_] at flag
    cases pulldown : b.hasPulldown <;> rw [pulldown] at flag <;> exact absurd flag (by decide)
  unfold Board.streams
  rw [transport, flag]
  rfl

/-- The channel list of a board that has run since begin(). -/
theorem selection_facts (from_ : st.link.From b (boot b)) :
    st.selection.Nodup ∧ st.selection.length ≤ maxStreamChannels ∧
      ∀ p ∈ st.selection, p < (b.device options).info.nPins.toNat := by
  obtain ⟨rfl, start⟩ := from_
  have inv : Invariant st.link.board st.link.machine.dev := by
    unfold Link.machine
    rw [start]
    exact (run_ok (boot_ok st.link.board) st.link.acts).dev
  have pins : (st.link.board.device options).info.nPins.toNat = st.link.board.pinCount :=
    (boot_begun st.link.board).nPins_toNat.trans (boot_begun st.link.board).nPins
  unfold HostState.selection
  refine ⟨?_, ?_, ?_⟩
  · refine List.Nodup.map_on ?_ List.nodup_range
    intro i below j below' same
    exact inv.selection.distinct i (List.mem_range.mp below) j (List.mem_range.mp below') same
  · rw [StreamState.selection_length]
    exact inv.selection.few
  · intro p inside
    obtain ⟨i, below, rfl⟩ := List.mem_map.mp inside
    rw [pins, ← inv.pins]
    exact inv.selection.known i (List.mem_range.mp below)

/-- What start_stream() does from a state its local checks let pass. -/
theorem startStream_outcome (from_ : st.link.From b (boot b)) (alone : st.link.Alone) (sound : st.link.Sound)
    (passed : (b.device options).checkConfig config st = .ok () st) :
    match (b.device options).startStream config st with
    | .ok _ st' => st'.Samples config ∧ Starts st.streamable config (st.stale config)
    | .error _ st' => (st'.link.machine.dev.stream.running = false ∧ st'.streaming = false ∧
        st'.selection = outlasting st.streamable config (st.stale config)) ∧
        ¬ Starts st.streamable config (st.stale config) := by
  obtain ⟨_, idle, passes⟩ :=
    (checkConfig_passes (P := fun _ => True) (b.device options) config).returns trivial passed
  have streams := streams_of_info passes.streaming
  obtain ⟨distinct, few, known⟩ := @selection_facts b st options from_
  have identity : SameIdentity st.link.machine.dev (boot b).dev := by
    obtain ⟨rfl, start⟩ := from_
    have same := run_identity st.link.board st.link.start st.link.acts
    rw [start] at same
    unfold Link.machine
    rwa [start]
  have ready : Ready b st.streamable st.selection st.link.machine.dev := ⟨identity, fun _ => rfl, rfl⟩
  have serving : Serving b (st.selected, false) (Ready b st.streamable st.selection) st :=
    ⟨from_.1, alone, sound, congrArg (Prod.mk st.selected) idle, ready⟩
  have outcome := startStream_serving streams distinct (b.device options) passes known st.selected st
    ⟨serving, passed⟩
  have stale_distinct : (st.stale config).Nodup := Lib.dropped_nodup distinct
  have fresh : config.channels.Nodup := passes.distinct.map (fun _ _ same => UInt8.toNat_inj.mp same)
  have ranged : ∀ p ∈ st.stale config, p ∈ List.range (b.device options).info.nPins.toNat :=
    fun p inside => List.mem_range.mpr (known p (List.mem_filter.mp inside).1)
  cases run : (b.device options).startStream config st with
  | ok handle st' =>
    rw [run] at outcome
    obtain ⟨served, starts⟩ := outcome
    refine ⟨⟨served.device.2, ?_⟩, starts⟩
    have perm := @Lib.dropped_addAll_perm _ _ st.streamable _ _ _ stale_distinct fresh ranged
    have nothing : (st.stale config).filter (fun p => p ∉ config.channels ∧ ¬ st.streamable p) = [] :=
      (outlasting_all starts.1).symm.trans starts.2.1
    rw [nothing, List.append_nil] at perm
    change st'.link.machine.dev.stream.selection.Perm config.channels
    rw [served.device.1.selection]
    exact perm
  | error e st' =>
    rw [run] at outcome
    obtain ⟨served, fails⟩ := outcome
    exact ⟨⟨served.device.2, congrArg Prod.snd served.known, served.device.1.selection⟩, fails⟩

/-- The local checks leave the state as it is. -/
theorem checkConfig_passed {d : Device}
    (passes : (match d.checkConfig config st with
      | .ok _ _ => true
      | .error _ _ => false) = true) : d.checkConfig config st = .ok () st := by
  cases run : d.checkConfig config st with
  | ok _ st' =>
    obtain ⟨same, _⟩ := (checkConfig_passes (P := (st = ·)) d config).returns rfl run
    rw [same]
  | error _ _ =>
    rw [run] at passes
    contradiction

/-- A start_stream() that throws leaves nothing selected exactly when each channel it
still found was either among the pins accepted before the refusal or, if no pin was
refused, in a mode that lets it be removed. -/
theorem failed_start_leaves_nothing (b : Board) (options : DeviceOptions) (config : StreamConfig)
    (st : HostState) (from_ : st.link.From b (boot b)) (alone : st.link.Alone) (sound : st.link.Sound)
    (passed : (b.device options).checkConfig config st = .ok () st) :
    (∀ e st', (b.device options).startStream config st = .error e st' → st'.Cleared) ↔
      ∀ accepted, LongestFit st.streamable maxStreamChannels (st.stale config) config.channels accepted →
        ∀ p ∈ st.stale config, p ∈ accepted ∨ (accepted = config.channels ∧ st.streamable p) := by
  have few : (st.stale config).length ≤ maxStreamChannels :=
    (List.length_filter_le _ _).trans (@selection_facts b st options from_).2.1
  have longest := @Lib.admitted_longest _ _ st.streamable _ _ config.channels few
  have outcome := startStream_outcome from_ alone sound passed
  have condition : (∀ accepted,
      LongestFit st.streamable maxStreamChannels (st.stale config) config.channels accepted →
        ∀ p ∈ st.stale config, p ∈ accepted ∨ (accepted = config.channels ∧ st.streamable p)) ↔
      outlasting st.streamable config (st.stale config) = [] := by
    unfold outlasting
    rw [List.filter_eq_nil_iff]
    constructor
    · intro every p inside
      have kept := every _ longest p inside
      simp only [decide_eq_true_eq]
      unfold taken
      tauto
    · intro none_ accepted fits p inside
      obtain rfl := fits.unique longest
      have kept := none_ p inside
      simp only [decide_eq_true_eq] at kept
      unfold taken at kept
      tauto
  have empty : ∀ st' : HostState, st'.selection = [] ↔ st'.link.machine.dev.stream.nChannels = 0 := by
    intro st'
    unfold HostState.selection
    rw [← List.length_eq_zero_iff, StreamState.selection_length, ← UInt8.toNat_inj]
    rfl
  rw [condition]
  cases run : (b.device options).startStream config st with
  | ok handle st' =>
    rw [run] at outcome
    refine ⟨fun _ => outcome.2.2.1, fun _ e st' failed => ?_⟩
    contradiction
  | error e st' =>
    rw [run] at outcome
    obtain ⟨⟨stopped, idle, left⟩, _⟩ := outcome
    constructor
    · intro clears
      rw [← left]
      exact (empty st').mpr (clears e st' rfl).2.1
    · intro nothing e' st'' failed
      obtain ⟨rfl, rfl⟩ := EStateM.Result.error.inj failed
      exact ⟨stopped, (empty st').mp (left.trans nothing), idle⟩

theorem failed_start_leaves_nothing_one_kept :
    (∀ e st', (twoPinBoard.device ⟨50, 40, 50⟩).startStream bothPins (newHost [0]) = .error e st' →
      st'.Cleared) ↔
    ∀ accepted, LongestFit (newHost [0]).streamable maxStreamChannels ((newHost [0]).stale bothPins)
        bothPins.channels accepted →
      ∀ p ∈ (newHost [0]).stale bothPins,
        p ∈ accepted ∨ (accepted = bothPins.channels ∧ (newHost [0]).streamable p) :=
  failed_start_leaves_nothing twoPinBoard ⟨50, 40, 50⟩ bothPins (newHost [0]) ⟨rfl, rfl⟩ (newHost_alone _)
    (fun _ => rfl) (checkConfig_passed (by decide +kernel))

/-- A host on a quiet bus to a board that has carried out `acts`. -/
def hostAfter (b : Board) (acts : List Act) : HostState :=
  ⟨⟨b, boot b, acts, fun _ => ⟨[], stillEnv .sent, none, ""⟩⟩, [], false⟩

theorem hostAfter_alone (b : Board) (acts : List Act) : (hostAfter b acts).link.Alone := by
  intro _ _ inside
  cases inside

/-- An earlier session left pin 0 selected; pin 1 is in no mode yet. -/
theorem refused_start_keeps_stale_pin :
    ¬ ∀ (b : Board) (options : DeviceOptions) (config : StreamConfig) (st : HostState),
      st.link.From b (boot b) → st.link.Alone → st.link.Sound →
      (b.device options).checkConfig config st = .ok () st →
      ∀ e st', (b.device options).startStream config st = .error e st' → st'.Cleared := by
  intro claim
  have before := hostAfter_alone twoPinBoard [request .pinMode 0 0, request .streamSelect 1 0]
  have passes : (twoPinBoard.device ⟨50, 40, 50⟩).checkConfig ⟨[1], 0, 0, 1⟩
      (hostAfter twoPinBoard [request .pinMode 0 0, request .streamSelect 1 0]) = .ok () _ :=
    checkConfig_passed (by decide +kernel)
  have left : (match (twoPinBoard.device ⟨50, 40, 50⟩).startStream ⟨[1], 0, 0, 1⟩
      (hostAfter twoPinBoard [request .pinMode 0 0, request .streamSelect 1 0]) with
      | .ok _ _ => none
      | .error _ st' => some st'.link.machine.dev.stream.nChannels) = some 1 := by decide +kernel
  cases run : (twoPinBoard.device ⟨50, 40, 50⟩).startStream ⟨[1], 0, 0, 1⟩
      (hostAfter twoPinBoard [request .pinMode 0 0, request .streamSelect 1 0]) with
  | ok _ _ =>
    rw [run] at left
    contradiction
  | error e st' =>
    rw [run] at left
    have one : st'.link.machine.dev.stream.nChannels = 1 := Option.some.inj left
    have clear := claim _ _ _ _ ⟨rfl, rfl⟩ before (fun _ => rfl) passes _ _ run
    rw [clear.2.1] at one
    contradiction

/-- With all pins in streamable modes start_stream() starts exactly when the channels it
still finds and the configuration's pins are eight at most. -/
theorem start_recovers (b : Board) (options : DeviceOptions) (config : StreamConfig)
    (st : HostState) (from_ : st.link.From b (boot b)) (alone : st.link.Alone) (sound : st.link.Sound)
    (passed : (b.device options).checkConfig config st = .ok () st)
    (leftover : ∀ p ∈ st.selection, st.streamable p) (able : ∀ p ∈ config.channels, st.streamable p) :
    (∃ handle st', (b.device options).startStream config st = .ok handle st' ∧ st'.Samples config) ↔
      (addAll (st.stale config) config.channels).length ≤ maxStreamChannels ∧ config.flagsKnown := by
  have few : (st.stale config).length ≤ maxStreamChannels :=
    (List.length_filter_le _ _).trans (@selection_facts b st options from_).2.1
  have outcome := startStream_outcome from_ alone sound passed
  have condition : Starts st.streamable config (st.stale config) ↔
      (addAll (st.stale config) config.channels).length ≤ maxStreamChannels ∧ config.flagsKnown := by
    have fits : taken st.streamable config (st.stale config) = config.channels ↔
        (addAll (st.stale config) config.channels).length ≤ maxStreamChannels :=
      (Lib.admitted_all few).trans ⟨fun h => h.2, fun h => ⟨able, h⟩⟩
    unfold Starts
    rw [fits]
    constructor
    · exact fun starts => ⟨starts.1, starts.2.2⟩
    · rintro ⟨room, flags⟩
      refine ⟨room, ?_, flags⟩
      rw [outlasting_all (fits.mpr room), List.filter_eq_nil_iff]
      intro p inside
      have removable := leftover p (List.mem_filter.mp inside).1
      simp [removable]
  rw [← condition]
  cases run : (b.device options).startStream config st with
  | ok handle st' =>
    rw [run] at outcome
    exact ⟨fun _ => outcome.2, fun _ => ⟨handle, st', rfl, outcome.1⟩⟩
  | error e st' =>
    rw [run] at outcome
    refine ⟨?_, fun starts => absurd starts outcome.2⟩
    rintro ⟨handle, st'', returned, _⟩
    contradiction

theorem start_recovers_one_kept :
    (∃ handle st', (twoPinBoard.device ⟨50, 40, 50⟩).startStream bothPins (newHost [0]) = .ok handle st' ∧
      st'.Samples bothPins) ↔
    (addAll ((newHost [0]).stale bothPins) bothPins.channels).length ≤ maxStreamChannels ∧
      bothPins.flagsKnown :=
  start_recovers twoPinBoard ⟨50, 40, 50⟩ bothPins (newHost [0]) ⟨rfl, rfl⟩ (newHost_alone _)
    (fun _ => rfl) (checkConfig_passed (by decide +kernel)) (by decide +kernel) (by decide +kernel)

def ninePinBoard : Board :=
  { onePinBoard with pinCount := 9, pinCount_pos := by decide, pinCount_le := by decide }

/-- All nine pins are inputs, and the first eight are selected. -/
def eightSelected : List Act :=
  (List.range 9).map (fun p => request .pinMode 0 (UInt16.ofNat p)) ++
    (List.range 8).map (fun p => request .streamSelect 1 (UInt16.ofNat p))

/-- An earlier session left eight pins selected; the new one asks for the ninth. -/
theorem full_selection_blocks_start :
    ¬ ∀ (b : Board) (options : DeviceOptions) (config : StreamConfig) (st : HostState),
      st.link.From b (boot b) → st.link.Alone → st.link.Sound →
      (b.device options).checkConfig config st = .ok () st →
      (∀ p ∈ st.selection, st.streamable p) → (∀ p ∈ config.channels, st.streamable p) →
      ∃ handle st', (b.device options).startStream config st = .ok handle st' ∧ st'.Samples config := by
  intro claim
  have passes : (ninePinBoard.device ⟨50, 40, 50⟩).checkConfig ⟨[8], 0, 0, 1⟩
      (hostAfter ninePinBoard eightSelected) = .ok () _ := checkConfig_passed (by decide +kernel)
  have refused : (match (ninePinBoard.device ⟨50, 40, 50⟩).startStream ⟨[8], 0, 0, 1⟩
      (hostAfter ninePinBoard eightSelected) with
      | .ok _ _ => true
      | .error _ _ => false) = false := by decide +kernel
  obtain ⟨handle, st', returned, _⟩ := claim ninePinBoard ⟨50, 40, 50⟩ ⟨[8], 0, 0, 1⟩
    (hostAfter ninePinBoard eightSelected) ⟨rfl, rfl⟩ (hostAfter_alone ninePinBoard eightSelected)
    (fun _ => rfl) passes (by decide +kernel) (by decide +kernel)
  rw [returned] at refused
  contradiction

end ArduinoDriver
