import ArduinoDriver.Host.Construct
import ArduinoDriver.Host.StartStream
import ArduinoDriver.Lib.Admission

namespace ArduinoDriver

open Lib (Triple)

/-- No transfer fails. -/
def Link.Sound (l : Link) : Prop := ∀ n, (l.plan n).failure = none

/-- What neither poll() nor an IN request undoes. -/
structure Steady (b : Board) (I : UsbIoDevice → Prop) : Prop where
  polled : ∀ env m, I m.dev → I (loopStep b env m).dev
  asked : ∀ env d req index len, I d → I (handleSetup b env d (.inp req index len)).1

/-- A board on a bus without errors that talks to this driver only: `I` holds of the
device, `host` is what the Device remembers of its streams. -/
structure Serving (b : Board) (host : List UInt8 × Bool) (I : UsbIoDevice → Prop) (st : HostState) :
    Prop where
  board : st.link.board = b
  alone : st.link.Alone
  sound : st.link.Sound
  known : (st.selected, st.streaming) = host
  device : I st.link.machine.dev

variable {b : Board} {env : Env} {d d' : UsbIoDevice} {m : Machine} {s : SetupPacket}
  {host : List UInt8 × Bool} {I J E : UsbIoDevice → Prop} {l : List Nat} {ok : Nat → Bool}

theorem Steady.never (b : Board) : Steady b (fun _ => False) := ⟨fun _ _ h => h, fun _ _ _ _ _ h => h⟩

theorem Steady.and (h : Steady b I) (h' : Steady b J) : Steady b (fun d => I d ∧ J d) :=
  ⟨fun env m both => ⟨h.polled env m both.1, h'.polled env m both.2⟩,
    fun env d req index len both => ⟨h.asked env d req index len both.1, h'.asked env d req index len both.2⟩⟩

theorem Steady.run (h : Steady b I) {acts : List Act} (polls : ∀ a ∈ acts, ∃ env, a = .loop env)
    (start : I m.dev) : I (run b m acts).dev := by
  induction acts generalizing m with
  | nil => exact start
  | cons a acts ih =>
    obtain ⟨env, rfl⟩ := polls a (List.mem_cons_self ..)
    exact ih (fun a inside => polls a (List.mem_cons_of_mem _ inside)) (h.polled env m start)

theorem Serving.weaken {st : HostState} (h : Serving b host I st) (all : ∀ d, I d → J d) :
    Serving b host J st :=
  ⟨h.board, h.alone, h.sound, h.known, all _ h.device⟩

theorem Serving.impossible {st : HostState} {φ : Prop} (h : Serving b host (fun _ => False) st) : φ := h.device.elim

/-- A transfer gives exactly what handle_setup() gives. -/
theorem control_serving {Q : List UInt8 → UsbIoDevice → Prop} (steady : Steady b I)
    (answered : ∀ env d reply, I d → (handleSetup b env d s).2 = some reply → Q reply (handleSetup b env d s).1)
    (stalled : ∀ env d, I d → (handleSetup b env d s).2 = none → E (handleSetup b env d s).1) :
    Triple (Serving b host I) (control s) (fun reply => Serving b host (Q reply))
      (fun _ => Serving b host E) := by
  rintro st ⟨rfl, alone, sound, known, device⟩
  have before : I st.link.idled.machine.dev := by
    rw [Link.idled_machine]
    exact steady.run (alone 0) device
  have after : (st.link.received s).machine.dev =
      (handleSetup st.link.board (st.link.plan 0).env st.link.idled.machine.dev s).1 := by
    rw [Link.received_machine]
    rfl
  unfold control
  dsimp only
  rw [sound 0]
  cases answer : st.link.reply s with
  | none =>
    refine ⟨rfl, fun n => alone (n + 1), fun n => sound (n + 1), known, ?_⟩
    rw [after]
    exact stalled _ _ before answer
  | some reply =>
    refine ⟨rfl, fun n => alone (n + 1), fun n => sound (n + 1), known, ?_⟩
    rw [after]
    exact answered _ _ _ before answer

/-- An IN request of which only the reply counts. -/
theorem rawIn_serving (steady : Steady b I) (req : Request) (index len : UInt16) :
    Triple (Serving b host I) (rawIn req index len) (fun _ => Serving b host I)
      (fun _ => Serving b host I) := by
  refine .bind (control_serving (Q := fun _ => I) (E := I) steady ?_ ?_) (fun reply => ?_)
  · exact fun env d _ h _ => steady.asked env d _ _ _ h
  · exact fun env d h _ => steady.asked env d _ _ _ h
  · exact .ite (fun _ => .throw _ (fun _ h => h)) (fun _ => .pure _ (fun _ h => h))

/-- send_out() returns when its transfer is accepted, and throws when it is not. -/
theorem sendOut_serving {req : Request} {value index : UInt16} (steady : Steady b E)
    (sent : Triple (Serving b host I) (control (.out req value index)) (fun _ => Serving b host J)
      (fun _ => Serving b host E)) :
    Triple (Serving b host I) (sendOut req value index) (fun _ => Serving b host J)
      (fun _ => Serving b host E) := by
  refine .tryCatch (.bind sent (fun _ => .pure _ (fun _ h => h))) (fun e => ?_)
  refine .ite (fun _ => .throw _ (fun _ h => h)) (fun _ => ?_)
  refine .bind (rawIn_serving steady .getStatus 0 _) (fun reply => ?_)
  refine .ite (fun _ => .throw _ (fun _ h => h)) (fun _ => ?_)
  exact .ite (fun _ => .throw _ (fun _ h => h)) (fun _ => .throw _ (fun _ h => h))

/-- A pin STREAM_SELECT may be about: one in ANALOG_IN or an INPUT* mode. -/
def UsbIoDevice.streamable (d : UsbIoDevice) (pin : Nat) : Bool :=
  decide (pin < d.nPins) && (d.mode pin == some .analogIn || modeIsInput (d.mode pin))

/-- The same board, modes and channel list, and no stream where none was running. -/
structure SameChannels (d' d : UsbIoDevice) : Prop where
  identity : SameIdentity d' d
  mode : d'.mode = d.mode
  selection : d'.stream.selection = d.stream.selection
  stopped : d.stream.running = false → d'.stream.running = false

/-- The channels are `l`, and `ok` tells the pins that may join or leave. -/
structure Ready (b : Board) (ok : Nat → Bool) (l : List Nat) (d : UsbIoDevice) : Prop where
  identity : SameIdentity d (boot b).dev
  able : ∀ p, d.streamable p = ok p
  selection : d.stream.selection = l

/-- The same, with no stream running. -/
def Idle (b : Board) (ok : Nat → Bool) (l : List Nat) (d : UsbIoDevice) : Prop :=
  Ready b ok l d ∧ d.stream.running = false

theorem stall_or {bad : Prop} [Decidable bad] {reason : Status} {rest : UsbIoDevice × Bool} :
    (if bad then stall d reason else rest).2 = true ↔ ¬ bad ∧ rest.2 = true := by
  by_cases h : bad
  · simp [h, stall]
  · simp [h]

theorem streamable_iff {p : Nat} : d.streamable p = true ↔
    ¬ d.nPins ≤ p ∧ ¬ (d.mode p ≠ some .analogIn ∧ !modeIsInput (d.mode p)) := by
  unfold UsbIoDevice.streamable
  rw [Bool.and_eq_true, Bool.or_eq_true, decide_eq_true_eq, beq_iff_eq, Bool.not_eq_true',
    Nat.not_le]
  cases modeIsInput (d.mode p) <;> simp

theorem handleStreamSelect_accepts (value index : UInt16) :
    (handleStreamSelect d value index).2 = true ↔
      hasFlag d.flags flagStreaming = true ∧ d.stream.running = false ∧
      d.streamable index.toNat = true ∧ ¬ 1 < value ∧
      (value ≠ 0 → index.toNat ∈ d.stream.selection ∨ d.stream.selection.length < maxStreamChannels) := by
  have absent := @StreamState.channelIndex_selection d.stream index.toNat
  unfold handleStreamSelect
  dsimp only
  rw [stall_or, stall_or, stall_or, stall_or, stall_or, streamable_iff, StreamState.selection_length,
    Bool.not_eq_true', Bool.not_eq_false, Bool.not_eq_true, ← and_assoc (a := ¬ _ ≤ _)]
  refine and_congr_right' (and_congr_right' (and_congr_right' (and_congr_right' ?_)))
  by_cases adds : value = 0
  · cases d.stream.channelIndex index.toNat <;> simp [adds]
  · rw [if_pos adds]
    cases found : d.stream.channelIndex index.toNat with
    | none =>
      have missing := absent.mp found
      simp [stall_or, adds, missing]
    | some i =>
      have inside : index.toNat ∈ d.stream.selection := by
        by_contra outside
        rw [absent.mpr outside] at found
        contradiction
      simp [inside]

theorem handleStreamStart_accepts (value index : UInt16) :
    (handleStreamStart d value index).2 = true ↔
      hasFlag d.flags flagStreaming = true ∧ d.stream.running = false ∧ d.stream.selection ≠ [] ∧
      index &&& ~~~(streamFlagDigital ||| streamFlagStopOnOverrun).toUInt16 = 0 := by
  have short : ¬ (value ≠ 0 ∧ value < streamMinPeriodUs) := by
    rintro ⟨some_, less⟩
    have zero : value.toNat < 1 := UInt16.lt_iff_toNat_lt.mp less
    exact some_ (UInt16.toNat_inj.mp (Nat.lt_one_iff.mp zero))
  have empty : d.stream.selection = [] ↔ d.stream.nChannels = 0 := by
    rw [← List.length_eq_zero_iff, StreamState.selection_length, ← UInt8.toNat_inj]
    rfl
  unfold handleStreamStart
  rw [stall_or, stall_or, stall_or, stall_or, stall_or]
  simp [short, empty]

/-- The outcomes of handle_stream_start(). -/
theorem handleStreamStart_cases (d : UsbIoDevice) (value index : UInt16) :
    (∃ reason, handleStreamStart d value index = stall d reason) ∨
    handleStreamStart d value index =
      ({ d with stream := { d.stream with
          periodUs := value
          flags := index.toUInt8
          running := true
          startRequests := d.stream.startRequests + 1 } }, true) := by
  unfold handleStreamStart
  split
  · exact .inl ⟨_, rfl⟩
  · split
    · exact .inl ⟨_, rfl⟩
    · split
      · exact .inl ⟨_, rfl⟩
      · split
        · exact .inl ⟨_, rfl⟩
        · split
          · exact .inl ⟨_, rfl⟩
          · exact .inr rfl

theorem SameChannels.refl (d : UsbIoDevice) : SameChannels d d := ⟨.refl d, rfl, rfl, fun h => h⟩

theorem SameIdentity.trans {d₁ d₂ d₃ : UsbIoDevice} (h : SameIdentity d₁ d₂) (h' : SameIdentity d₂ d₃) :
    SameIdentity d₁ d₃ :=
  ⟨h.nPins.trans h'.nPins, h.nAin.trans h'.nAin, h.flags.trans h'.flags, h.caps.trans h'.caps⟩

theorem streamable_congr (identity : SameIdentity d' d) (mode : d'.mode = d.mode) (p : Nat) :
    d'.streamable p = d.streamable p := by
  unfold UsbIoDevice.streamable
  rw [identity.nPins, mode]

theorem Ready.frame (h : Ready b ok l d) (identity : SameIdentity d' d) (mode : d'.mode = d.mode)
    (selection : d'.stream.selection = d.stream.selection) : Ready b ok l d' where
  identity := identity.trans h.identity
  able := fun p => (streamable_congr identity mode p).trans (h.able p)
  selection := selection.trans h.selection

theorem Ready.kept (h : Ready b ok l d) (same : SameChannels d' d) : Ready b ok l d' :=
  h.frame same.identity same.mode same.selection

theorem drainStep_mode (b : Board) (env : Env) (d : UsbIoDevice) (pc : DrainPc) :
    (drainStep b env d pc).1.mode = d.mode := by
  cases pc with
  | epochTest | outerTest =>
    simp only [drainStep]
    split <;> rfl
  | execute c =>
    obtain ⟨dio, ain, eq⟩ := execute_frame b env d c
    simp only [drainStep, eq]
  | _ => rfl

theorem shadowStep_mode (env : Env) (d : UsbIoDevice) (pc : ShadowPc) :
    (shadowStep env d pc).1.mode = d.mode := by
  cases pc with
  | enter => rfl
  | pin | analog =>
    simp only [shadowStep]
    split
    · split <;> rfl
    · rfl

theorem loopStep_sameChannels (b : Board) (env : Env) (m : Machine) :
    SameChannels (loopStep b env m).dev m.dev where
  identity := step_identity b m (.loop env)
  mode := by
    obtain ⟨d, pc, log⟩ := m
    cases pc with
    | drain pc => exact drainStep_mode b env d pc
    | shadow pc => exact shadowStep_mode env d pc
    | _ => rfl
  selection := loopStep_selection b env m
  stopped := by
    intro stopped
    by_cases other : m.pc.offStream
    · rw [(loopStep_offStream b env m other).1]
      exact stopped
    · obtain ⟨d, pc, log⟩ := m
      cases pc with
      | stream pc =>
        cases pc with
        | catchUp | writeResult =>
          simp only [loopStep, streamStep]
          split <;> exact stopped
        | flushTest | packRecord =>
          simp only [loopStep, streamStep]
          split
          · first | exact stopped | (split <;> exact stopped)
          · first | exact stopped | (split <;> exact stopped)
        | failStop | stopRunning => rfl
        | _ => exact stopped
      | _ => exact absurd rfl other

theorem inp_sameChannels (b : Board) (env : Env) (d : UsbIoDevice) (req : Request) (index len : UInt16) :
    SameChannels (handleSetup b env d (.inp req index len)).1 d := by
  have served := handleSetup_served b env d (.inp req index len)
  have asked : ∀ r req' i v, (SetupPacket.inp req index len).obs r ≠ .accepted req' i v := by
    intro r req' i v said
    cases r with
    | none => contradiction
    | some reply =>
      rw [inp_answered] at said
      contradiction
  generalize (handleSetup b env d (.inp req index len)).1 = d' at *
  generalize seen : (SetupPacket.inp req index len).obs _ = o at *
  cases served with
  | refused | read | status | popped => exact ⟨⟨rfl, rfl, rfl, rfl⟩, rfl, rfl, fun h => h⟩
  | _ => exact absurd seen (asked _ _ _ _)

theorem ready_steady (b : Board) (ok : Nat → Bool) (l : List Nat) : Steady b (Ready b ok l) :=
  ⟨fun env m h => h.kept (loopStep_sameChannels b env m),
    fun env d req index len h => h.kept (inp_sameChannels b env d req index len)⟩

theorem idle_steady (b : Board) (ok : Nat → Bool) (l : List Nat) : Steady b (Idle b ok l) :=
  (ready_steady b ok l).and
    ⟨fun env m h => (loopStep_sameChannels b env m).stopped h,
      fun env d req index len h => (inp_sameChannels b env d req index len).stopped h⟩

/-- Selecting changes nothing but the channel list. -/
theorem handleStreamSelect_frame (d : UsbIoDevice) (value index : UInt16) :
    SameIdentity (handleStreamSelect d value index).1 d ∧ (handleStreamSelect d value index).1.mode = d.mode ∧
    (handleStreamSelect d value index).1.stream.running = d.stream.running := by
  rcases handleStreamSelect_cases d value index with ⟨reason, eq⟩ | ⟨_, _, eq⟩ | ⟨_, _, _, eq⟩ |
    ⟨_, _, eq⟩ | ⟨_, i, _, eq⟩ <;> rw [eq] <;> exact ⟨⟨rfl, rfl, rfl, rfl⟩, rfl, rfl⟩

/-- The firmware streams. -/
def Board.streams (b : Board) : Bool := b.hasStreamTransport && hasFlag (boot b).dev.flags flagStreaming

theorem Ready.streaming (h : Ready b ok l d) (streams : b.streams) : hasFlag d.flags flagStreaming = true := by
  rw [h.identity.flags]
  exact (Bool.and_eq_true_iff.mp streams).2

/-- An OUT request about the stream, where there is one. -/
theorem handleSetup_stream (streams : b.streams) (env : Env) (d : UsbIoDevice) (value index : UInt16) :
    (handleSetup b env d (.out .streamSelect value index) =
      ((handleStreamSelect d value index).1, if (handleStreamSelect d value index).2 then some [] else none)) ∧
    (handleSetup b env d (.out .streamStart value index) =
      ((handleStreamStart d value index).1, if (handleStreamStart d value index).2 then some [] else none)) ∧
    (handleSetup b env d (.out .streamStop value index) =
      ((handleStreamStop d).1, if (handleStreamStop d).2 then some [] else none)) := by
  have transport := (Bool.and_eq_true_iff.mp streams).1
  rw [handleSetup_out, handleSetup_out, handleSetup_out]
  simp [handleOut, Request.ofCode_code, transport]

end ArduinoDriver
