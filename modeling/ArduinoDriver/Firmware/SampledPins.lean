import ArduinoDriver.Firmware.Channels
import ArduinoDriver.Firmware.Commands

namespace ArduinoDriver

/-- The modes STREAM_SELECT asks for. -/
def sampleable (mode : Option PinMode) : Bool := mode == some .analogIn || modeIsInput mode

/-- The modes that drive the pad. -/
def drives : Option PinMode → Bool
  | some .output | some .pwm | some .dac => true
  | _ => false

/-- The selected pins from channel `k` on. -/
def StreamState.selectedFrom (s : StreamState) (k : Nat) : List Nat :=
  ((List.range s.nChannels.toNat).filter (k ≤ ·)).map s.channels

/-- The pins the record under way has still to read. -/
def StreamPc.toRead (s : StreamState) : StreamPc → List Nat
  | .sampleHeader _ => s.selectedFrom 0
  | .channelTest _ _ i => s.selectedFrom i
  | .channelRead _ _ i => s.channels i :: s.selectedFrom (i + 1)
  | _ => []

def Pc.toRead (s : StreamState) : Pc → List Nat
  | .stream pc => pc.toRead s
  | _ => []

/-- stream_poll() finds a record due. -/
def StreamState.due (s : StreamState) (env : Env) : Bool :=
  s.periodUs == 0 || !before env.micros s.deadlineUs

/-- The steps that let a record read a pin the device drives: a START accepted with such a pin
selected; a PIN_MODE that makes one of a pin the record under way has still to read; a record
begun with one selected, by a PIN_MODE since stream_poll() tested _stream_running. -/
def admitsDriven (b : Board) (m : Machine) : Act → Bool
  | .setup env s =>
    match s.obs (handleSetup b env m.dev s).2 with
    | .accepted .streamStart _ _ => m.dev.stream.selection.any fun p => !sampleable (m.dev.mode p)
    | .accepted .pinMode index value =>
      drives (PinMode.ofCode? value) && (m.pc.toRead m.dev.stream).contains index.toNat
    | _ => false
  | .loop env =>
    decide (m.pc = .stream .dueTest) && m.dev.stream.due env &&
      m.dev.stream.selection.any fun p => drives (m.dev.mode p)
  | .disconnect => false

/-- A running stream and the pins it samples. -/
structure SamplesInputs (m : Machine) : Prop where
  selected : m.dev.stream.running = true → ∀ p ∈ m.dev.stream.selection, sampleable (m.dev.mode p) = true
  /-- stream_sample() is about to read channel `i`. -/
  reads : ∀ now buf i, m.pc = .stream (.channelRead now buf i) →
    drives (m.dev.mode (m.dev.stream.channels i)) = false

/-- What keeps it: no pin still to be read is driven. -/
structure ReadsInputs (m : Machine) : Prop where
  selected : m.dev.stream.running = true → ∀ p ∈ m.dev.stream.selection, sampleable (m.dev.mode p) = true
  reading : ∀ p ∈ m.pc.toRead m.dev.stream, drives (m.dev.mode p) = false

variable {b : Board} {env : Env} {d d' : UsbIoDevice} {o : Obs} {m m' : Machine} {s s' : StreamState}
  {log : Log} {mode : Option PinMode} {k p : Nat}

theorem drives_sampleable (fits : sampleable mode = true) : drives mode = false := by
  cases mode with
  | none => rfl
  | some mode => cases mode <;> first | rfl | contradiction

theorem StreamState.mem_selectedFrom :
    p ∈ s.selectedFrom k ↔ ∃ j, k ≤ j ∧ j < s.nChannels.toNat ∧ s.channels j = p := by
  simp only [selectedFrom, List.mem_map, List.mem_filter, List.mem_range, decide_eq_true_eq]
  constructor
  · rintro ⟨j, ⟨below, from_⟩, rfl⟩
    exact ⟨j, from_, below, rfl⟩
  · rintro ⟨j, from_, below, rfl⟩
    exact ⟨j, ⟨below, from_⟩, rfl⟩

theorem StreamState.mem_selection : p ∈ s.selection ↔ ∃ j < s.nChannels.toNat, s.channels j = p := by
  simp [selection]

theorem StreamState.selection_selectedFrom : s.selection = s.selectedFrom 0 := by
  simp [selection, selectedFrom]

/-- When every pin from a channel on was among those of `s` or is one of `fresh`, so is every pin
still to be read. -/
theorem Pc.toRead_sub {pc : Pc} (fresh : Nat → Prop)
    (from_ : ∀ k, ∀ p ∈ s'.selectedFrom k, p ∈ s.selectedFrom k ∨ fresh p)
    (here : ∀ i, s'.channels i = s.channels i ∨ s'.channels i ∈ s.selectedFrom (i + 1) ∨
      fresh (s'.channels i)) :
    ∀ p ∈ pc.toRead s', p ∈ pc.toRead s ∨ fresh p := by
  intro p inside
  cases pc with
  | stream pc =>
    cases pc with
    | sampleHeader now => exact from_ 0 p inside
    | channelTest now buf i => exact from_ i p inside
    | channelRead now buf i =>
      rcases List.mem_cons.mp inside with rfl | later
      · rcases here i with same | later | new
        · exact .inl (same ▸ List.mem_cons_self)
        · exact .inl (List.mem_cons_of_mem _ later)
        · exact .inr new
      · rcases from_ (i + 1) p later with old | new
        · exact .inl (List.mem_cons_of_mem _ old)
        · exact .inr new
    | _ => exact absurd inside List.not_mem_nil
  | _ => exact absurd inside List.not_mem_nil

/-- The same channels. -/
theorem Pc.toRead_congr {pc : Pc} (channels : s'.channels = s.channels) (count : s'.nChannels = s.nChannels) :
    pc.toRead s' = pc.toRead s := by
  cases pc with
  | stream pc => cases pc <;> simp [Pc.toRead, StreamPc.toRead, StreamState.selectedFrom, channels, count]
  | _ => rfl

/-- The channels deselected, at most the one about to be read is left. -/
theorem Pc.toRead_deselected {pc : Pc} (channels : s'.channels = s.channels) (none_ : s'.nChannels = 0)
    (inside : p ∈ pc.toRead s') : p ∈ pc.toRead s := by
  have from_ : ∀ k, ∀ q ∈ s'.selectedFrom k, q ∈ s.selectedFrom k ∨ False := by
    intro k q among
    obtain ⟨j, _, below, _⟩ := StreamState.mem_selectedFrom.mp among
    rw [none_] at below
    exact absurd below (Nat.not_lt_zero j)
  exact (Pc.toRead_sub (fun _ => False) from_ (fun i => .inl (congrFun channels i)) p inside).resolve_right id

theorem StreamState.addChannel_toRead {pc : Pc} {pin : Nat} (room : s.nChannels.toNat < maxStreamChannels)
    (inside : p ∈ pc.toRead (s.addChannel pin)) : p ∈ pc.toRead s ∨ p = pin := by
  have limit : maxStreamChannels = 8 := rfl
  have count : (s.addChannel pin).nChannels.toNat = s.nChannels.toNat + 1 := by
    simp only [addChannel, UInt8.toNat_add, UInt8.toNat_one]
    omega
  have channel : ∀ j, (s.addChannel pin).channels j = s.channels j ∨ (s.addChannel pin).channels j = pin := by
    intro j
    by_cases last : j = s.nChannels.toNat
    · exact .inr (by simp [addChannel, last])
    · exact .inl (Function.update_of_ne last ..)
  refine Pc.toRead_sub (· = pin) (fun k p inside => ?_) (fun i => ?_) p inside
  · obtain ⟨j, after, below, rfl⟩ := mem_selectedFrom.mp inside
    rcases channel j with same | new
    · by_cases last : j = s.nChannels.toNat
      · exact .inr (by simp [addChannel, last])
      · exact .inl (mem_selectedFrom.mpr ⟨j, after, by omega, same.symm⟩)
    · exact .inr new
  · rcases channel i with same | new
    · exact .inl same
    · exact .inr (.inr new)

theorem StreamState.removeChannel_toRead {pc : Pc} {i : Nat} (found : i < s.nChannels.toNat)
    (inside : p ∈ pc.toRead (s.removeChannel i)) : p ∈ pc.toRead s := by
  have count : (s.removeChannel i).nChannels.toNat = s.nChannels.toNat - 1 := by
    have := s.nChannels.toNat_lt
    simp only [removeChannel, UInt8.toNat_sub, UInt8.toNat_one]
    omega
  have channel : ∀ j, (s.removeChannel i).channels j = s.channels j ∨
      j + 1 < s.nChannels.toNat ∧ (s.removeChannel i).channels j = s.channels (j + 1) := by
    intro j
    by_cases shifts : i ≤ j ∧ j + 1 < s.nChannels.toNat
    · exact .inr ⟨shifts.2, if_pos shifts⟩
    · exact .inl (if_neg shifts)
  refine (Pc.toRead_sub (fun _ => False) (fun k p inside => ?_) (fun j => ?_) p inside).resolve_right id
  · obtain ⟨j, after, below, rfl⟩ := mem_selectedFrom.mp inside
    rcases channel j with same | ⟨more, next⟩
    · exact .inl (mem_selectedFrom.mpr ⟨j, after, by omega, same.symm⟩)
    · exact .inl (mem_selectedFrom.mpr ⟨j + 1, by omega, more, next.symm⟩)
  · rcases channel j with same | ⟨more, next⟩
    · exact .inl same
    · exact .inr (.inl (mem_selectedFrom.mpr ⟨j + 1, Nat.le_refl _, more, next.symm⟩))

/-- Modes and channels unchanged, and the stream not started. -/
theorem ReadsInputs.quiet (h : ReadsInputs m) (modes : m'.dev.mode = m.dev.mode)
    (channels : m'.dev.stream.channels = m.dev.stream.channels)
    (count : m'.dev.stream.nChannels = m.dev.stream.nChannels)
    (running : m'.dev.stream.running = true → m.dev.stream.running = true)
    (place : ∀ p ∈ m'.pc.toRead m.dev.stream, drives (m.dev.mode p) = false) : ReadsInputs m' := by
  refine ⟨fun runs p inside => ?_, fun p inside => ?_⟩
  · rw [StreamState.mem_selection, channels, count, ← StreamState.mem_selection] at inside
    rw [modes]
    exact h.selected (running runs) p inside
  · rw [Pc.toRead_congr channels count] at inside
    rw [modes]
    exact place p inside

/-- What an accepted PIN_MODE does: a running stream with the pin selected stops. -/
theorem ReadsInputs.moded {pin : Nat} {named : PinMode} (h : ReadsInputs m) (pc : m'.pc = m.pc)
    (stream : m'.dev.stream = (recordMode m.dev pin named).stream)
    (modes : m'.dev.mode = Function.update m.dev.mode pin (some named))
    (harmless : drives (some named) = true → pin ∉ m.pc.toRead m.dev.stream) : ReadsInputs m' := by
  have channels : m'.dev.stream.channels = m.dev.stream.channels ∧
      m'.dev.stream.nChannels = m.dev.stream.nChannels := by
    rw [stream]
    unfold recordMode
    dsimp only
    split <;> exact ⟨rfl, rfl⟩
  have stops : m'.dev.stream.running = true →
      m.dev.stream.running = true ∧ pin ∉ m.dev.stream.selection := by
    rw [stream]
    unfold recordMode
    dsimp only
    split
    · exact fun stopped => absurd stopped Bool.false_ne_true
    · rename_i stays
      intro runs
      refine ⟨runs, StreamState.channelIndex_selection.mp ?_⟩
      simpa [runs] using stays
  refine ⟨fun runs p inside => ?_, fun p inside => ?_⟩
  · obtain ⟨ran, unselected⟩ := stops runs
    rw [StreamState.mem_selection, channels.1, channels.2, ← StreamState.mem_selection] at inside
    have other : p ≠ pin := by
      rintro rfl
      exact unselected inside
    rw [modes, Function.update_of_ne other]
    exact h.selected ran p inside
  · rw [pc, Pc.toRead_congr channels.1 channels.2] at inside
    rw [modes]
    by_cases same : p = pin
    · rw [same] at inside ⊢
      rw [Function.update_self]
      cases driven : drives (some named) with
      | false => rfl
      | true => exact absurd inside (harmless driven)
    · rw [Function.update_of_ne same]
      exact h.reading p inside

/-- RESET leaves nothing selected, and every pin in INPUT or unconfigured. -/
theorem ReadsInputs.reset (h : ReadsInputs m) (pc : m'.pc = m.pc) (dev : m'.dev = requestReset m.dev) :
    ReadsInputs m' := by
  refine ⟨fun runs => ?_, fun p inside => ?_⟩
  · rw [dev] at runs
    exact absurd runs Bool.false_ne_true
  · rw [pc, dev] at inside
    have still : p ∈ m.pc.toRead m.dev.stream :=
      Pc.toRead_deselected (show (requestReset m.dev).stream.channels = _ from rfl) rfl inside
    rw [dev]
    unfold requestReset
    dsimp only
    split
    · split <;> rfl
    · exact h.reading p still

theorem ReadsInputs.setup {s : SetupPacket} (h : ReadsInputs m)
    (harmless : admitsDriven b m (.setup env s) = false) : ReadsInputs (step b m (.setup env s)) := by
  have served := handleSetup_served b env m.dev s
  have place := h.reading
  dsimp only [admitsDriven] at harmless
  dsimp only [step, setupStep]
  generalize (handleSetup b env m.dev s).1 = d' at *
  generalize s.obs (handleSetup b env m.dev s).2 = o at *
  cases served with
  | reset => exact h.reset rfl rfl
  | added index value idle known fits fresh room =>
    refine ⟨fun runs => ?_, fun p inside => ?_⟩
    · exact absurd ((show m.dev.stream.running = true from runs).symm.trans idle) (by simp)
    · rcases StreamState.addChannel_toRead room inside with old | rfl
      · exact h.reading p old
      · exact drives_sampleable (by simpa [sampleable] using fits)
  | removed index value i idle found =>
    refine ⟨fun runs => ?_, fun p inside => ?_⟩
    · exact absurd ((show m.dev.stream.running = true from runs).symm.trans idle) (by simp)
    · exact h.reading p (StreamState.removeChannel_toRead (StreamState.channelIndex_eq_some found).1 inside)
  | started index value =>
    refine ⟨fun _ p inside => ?_, h.reading⟩
    have fits := List.any_eq_false.mp harmless p inside
    simpa using fits
  | stopped => exact h.quiet rfl rfl rfl (fun runs => absurd runs Bool.false_ne_true) place
  | moded index value mode named =>
    refine h.moded rfl rfl rfl fun driven => ?_
    have unread : (drives (PinMode.ofCode? value) && (m.pc.toRead m.dev.stream).contains index.toNat) = false :=
      harmless
    rw [named, driven, Bool.true_and] at unread
    simpa using unread
  | _ => exact h.quiet rfl rfl rfl id place

theorem streamStep_channels (b : Board) (env : Env) (d : UsbIoDevice) (pc : StreamPc) :
    (streamStep b env d pc).1.channels = d.stream.channels ∧
    (streamStep b env d pc).1.nChannels = d.stream.nChannels ∧
    ((streamStep b env d pc).1.running = true → d.stream.running = true) := by
  cases pc with
  | stopRunning | failStop => exact ⟨rfl, rfl, fun runs => absurd runs Bool.false_ne_true⟩
  | catchUp | writeResult =>
    simp only [streamStep]
    split <;> exact ⟨rfl, rfl, id⟩
  | flushTest =>
    simp only [streamStep]
    split
    · exact ⟨rfl, rfl, id⟩
    · split <;> exact ⟨rfl, rfl, id⟩
  | packRecord =>
    simp only [streamStep]
    split
    · split <;> exact ⟨rfl, rfl, id⟩
    · exact ⟨rfl, rfl, id⟩
  | _ => exact ⟨rfl, rfl, id⟩

/-- A step of stream_sample() leaves fewer pins to read, except the one that begins a record. -/
theorem streamStep_toRead {pc next : StreamPc} (goes : (streamStep b env d pc).2.1 = some next)
    (inside : p ∈ next.toRead d.stream) :
    p ∈ pc.toRead d.stream ∨ pc = .dueTest ∧ d.stream.due env = true ∧ p ∈ d.stream.selection := by
  cases pc with
  | dueTest =>
    obtain rfl := Option.some.inj goes
    by_cases due : d.stream.periodUs = 0 ∨ !before env.micros d.stream.deadlineUs
    · rw [if_pos due] at inside
      refine .inr ⟨rfl, ?_, ?_⟩
      · simpa [StreamState.due] using due
      · rw [StreamState.selection_selectedFrom]
        exact inside
    · rw [if_neg due] at inside
      exact absurd inside List.not_mem_nil
  | sampleHeader now =>
    obtain rfl := Option.some.inj goes
    exact .inl inside
  | channelTest now buf i =>
    obtain rfl := Option.some.inj goes
    split at inside
    · rename_i more
      refine .inl (StreamState.mem_selectedFrom.mpr ?_)
      rcases List.mem_cons.mp inside with rfl | later
      · exact ⟨i, Nat.le_refl _, more, rfl⟩
      · obtain ⟨j, after, below, found⟩ := StreamState.mem_selectedFrom.mp later
        exact ⟨j, by omega, below, found⟩
    · exact absurd inside List.not_mem_nil
  | channelRead now buf i =>
    obtain rfl := Option.some.inj goes
    exact .inl (List.mem_cons_of_mem _ inside)
  | packRecord | flushTest | writeResult =>
    simp only [streamStep] at goes
    repeat' split at goes
    all_goals first
      | contradiction
      | (obtain rfl := Option.some.inj goes; exact absurd inside List.not_mem_nil)
  | failDrop => contradiction
  | _ =>
    obtain rfl := Option.some.inj goes
    first
      | exact absurd inside List.not_mem_nil
      | (split at inside <;> exact absurd inside List.not_mem_nil)

theorem loopStep_mode (b : Board) (env : Env) (m : Machine) : (loopStep b env m).dev.mode = m.dev.mode := by
  by_cases other : m.pc.offDrain
  · exact (loopStep_offDrain b env m other).1.mode
  · obtain ⟨d, pc, log⟩ := m
    cases pc with
    | drain pc =>
      cases pc with
      | epochTest | outerTest =>
        simp only [loopStep, drainStep]
        split <;> rfl
      | execute c =>
        obtain ⟨dio, ain, eq⟩ := execute_frame b env d c
        change (execute b env d c).1.mode = d.mode
        rw [eq]
      | _ => rfl
    | _ => exact absurd rfl other

theorem ReadsInputs.loop (h : ReadsInputs m) (harmless : admitsDriven b m (.loop env) = false) :
    ReadsInputs (loopStep b env m) := by
  have modes := loopStep_mode b env m
  by_cases other : m.pc.offStream
  · obtain ⟨stream, enters, _⟩ := loopStep_offStream b env m other
    refine h.quiet modes (by rw [stream]) (by rw [stream]) (by rw [stream]; exact id) ?_
    rcases enters with off | at_test
    · cases at_pc : (loopStep b env m).pc with
      | stream pc =>
        rw [at_pc] at off
        contradiction
      | _ => exact fun p inside => absurd inside List.not_mem_nil
    · rw [at_test]
      exact fun p inside => absurd inside List.not_mem_nil
  · obtain ⟨d, pc, log⟩ := m
    cases pc with
    | stream pc =>
      obtain ⟨channels, count, running⟩ := streamStep_channels b env d pc
      refine h.quiet modes channels count running fun p inside => ?_
      cases goes : (streamStep b env d pc).2.1 with
      | none =>
        have returned : (loopStep b env ⟨d, .stream pc, log⟩).pc = .idle := by simp [loopStep, goes]
        rw [returned] at inside
        exact absurd inside List.not_mem_nil
      | some next =>
        have moved : (loopStep b env ⟨d, .stream pc, log⟩).pc = .stream next := by simp [loopStep, goes]
        rw [moved] at inside
        rcases streamStep_toRead goes inside with old | ⟨rfl, due, selected⟩
        · exact h.reading p old
        · have undriven : (true && d.stream.due env && d.stream.selection.any fun p => drives (d.mode p)) = false :=
            harmless
          rw [due, Bool.true_and, Bool.true_and] at undriven
          simpa using List.any_eq_false.mp undriven p selected
    | _ => exact absurd rfl other

theorem step_readsInputs {act : Act} (h : ReadsInputs m) (harmless : admitsDriven b m act = false) :
    ReadsInputs (step b m act) := by
  cases act with
  | setup env s => exact h.setup harmless
  | disconnect =>
    refine ⟨fun runs => absurd runs Bool.false_ne_true, fun p inside => ?_⟩
    exact h.reading p
      (Pc.toRead_deselected (show (handleUsbDisconnected m.dev).stream.channels = _ from rfl) rfl inside)
  | loop env => exact h.loop harmless

/-- In every run without such a step a running stream's pins are in ANALOG_IN or INPUT*, and no
record reads a pin the device drives. -/
theorem running_stream_samples_inputs (b : Board) (m : Machine)
    (reached : Lib.Reach (step b) (fun u act => admitsDriven b u act = false) (boot b) m) :
    SamplesInputs m := by
  have stopped : (boot b).dev.stream.running = false := by
    obtain ⟨caps, nAin, booted, _⟩ := boot_dev b
    rw [booted]
    rfl
  have inputs : ReadsInputs m := by
    refine reached.invariant ⟨fun runs => ?_, fun p inside => absurd inside List.not_mem_nil⟩
      (fun _ _ h harmless => step_readsInputs h harmless)
    rw [stopped] at runs
    contradiction
  refine ⟨inputs.selected, fun now buf i at_pc => inputs.reading _ ?_⟩
  rw [at_pc]
  exact List.mem_cons_self

/-- Up to the test for room of a stream's first record, of one pin. -/
def firstReading : List Act :=
  [request .pinMode 0 0, request .streamSelect 1 0, request .streamStart 0 0] ++
    List.replicate 35 (.loop (stillEnv .sent))

theorem running_stream_samples_inputs_one_pin :
    SamplesInputs (run onePinBoard (boot onePinBoard) firstReading) :=
  running_stream_samples_inputs onePinBoard _ (Lib.Follows.reach (by decide +kernel))

/-- A pin selected as an input, made an output and started. -/
def outputStarted : List Act :=
  [request .pinMode 0 0, request .streamSelect 1 0, request .pinMode 1 0, request .streamStart 0 0]

theorem started_stream_samples_output :
    ¬ ∀ (b : Board) (m : Machine), Reachable b m → SamplesInputs m := by
  intro claim
  have inputs := claim onePinBoard (run onePinBoard (boot onePinBoard) outputStarted)
    (Lib.Reach.refl.foldl (fun _ _ => trivial) _)
  have fits := inputs.selected (by decide +kernel) 0 (by decide +kernel)
  revert fits
  decide +kernel

end ArduinoDriver
