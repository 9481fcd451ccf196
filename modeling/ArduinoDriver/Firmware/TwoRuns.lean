import ArduinoDriver.Firmware.Unwatched

namespace ArduinoDriver

/-- The device with other `_event_*` and `_stream_*` fields and another last error. -/
def UsbIoDevice.reseat (d : UsbIoDevice) (event : EventState) (stream : StreamState)
    (lastError : Status) : UsbIoDevice :=
  { d with event := event, stream := stream, lastError := lastError }

/-- Two devices that differ in nothing else. -/
def SameRest (d d' : UsbIoDevice) : Prop :=
  ∃ event stream lastError, d' = d.reseat event stream lastError

/-- The request is one of those for pin events and for the stream. -/
def Request.ofSession : Request → Bool
  | .streamSelect | .streamStart | .streamStop | .streamStatus | .eventConfig | .eventPop
  | .eventCounts => true
  | _ => false

def SetupPacket.ofSession (s : SetupPacket) : Bool :=
  ((Request.ofCode? s.bRequest).map Request.ofSession).getD false

/-- What the verdicts on such requests depend on. -/
structure SameView (d d' : UsbIoDevice) : Prop where
  watched : ∀ pin, (d'.event.watchIndex pin).isSome = (d.event.watchIndex pin).isSome
  nWatched : d'.event.nWatched = d.event.nWatched
  running : d'.stream.running = d.stream.running
  nChannels : d'.stream.nChannels = d.stream.nChannels
  selected : ∀ pin, (d'.stream.channelIndex pin).isSome = (d.stream.channelIndex pin).isSome

/-- Two handlers agree on their verdict, and on the rest of the device. -/
def Agree (r r' : UsbIoDevice × Bool) : Prop := r'.2 = r.2 ∧ SameRest r.1 r'.1

variable {b : Board} {env : Env} {d d' : UsbIoDevice} {e : EventState} {st : StreamState} {l : Status}
  {s : SetupPacket} {o : Obs} {pin : Nat} {value index len : UInt16}

theorem SameRest.refl (d : UsbIoDevice) : SameRest d d := ⟨d.event, d.stream, d.lastError, rfl⟩

theorem SameRest.symm (same : SameRest d d') : SameRest d' d := by
  obtain ⟨_, _, _, rfl⟩ := same
  exact ⟨d.event, d.stream, d.lastError, rfl⟩

theorem SameRest.trans {d'' : UsbIoDevice} (same : SameRest d d') (next : SameRest d' d'') :
    SameRest d d'' := by
  obtain ⟨_, _, _, rfl⟩ := same
  obtain ⟨e, st, l, rfl⟩ := next
  exact ⟨e, st, l, rfl⟩

theorem SameRest.disconnected (same : SameRest d d') :
    SameRest (handleUsbDisconnected d) (handleUsbDisconnected d') := by
  obtain ⟨_, _, _, rfl⟩ := same
  exact ⟨_, _, _, rfl⟩

theorem applyMode_reseat (mode : PinMode) : applyMode b env (d.reseat e st l) pin mode =
    ((applyMode b env d pin mode).1.reseat e st l, (applyMode b env d pin mode).2) := by
  unfold applyMode
  cases padMode b mode with
  | some pad => rfl
  | none =>
    by_cases analog : mode = .analogIn
    · rw [if_pos analog, if_pos analog]
      rfl
    · rw [if_neg analog, if_neg analog]

theorem execute_reseat (c : Command) : execute b env (d.reseat e st l) c =
    ((execute b env d c).1.reseat e st l, (execute b env d c).2) := by
  unfold execute
  cases c.cmd with
  | pinMode =>
    dsimp only
    cases PinMode.ofCode? c.value.toUInt8.toUInt16 with
    | some mode => exact applyMode_reseat mode
    | none => rfl
  | _ => rfl

/-- Draining the queue depends on the rest only, and changes nothing else. -/
theorem drainStep_reseat (pc : DrainPc) : drainStep b env (d.reseat e st l) pc =
    ((drainStep b env d pc).1.reseat e st l, (drainStep b env d pc).2) := by
  cases pc with
  | epochTest c =>
    simp only [drainStep]
    by_cases current : c.epoch = d.epoch
    · have also : c.epoch = (d.reseat e st l).epoch := current
      rw [if_pos current, if_pos also]
    · have also : ¬ c.epoch = (d.reseat e st l).epoch := current
      rw [if_neg current, if_neg also]
  | execute c =>
    simp only [drainStep]
    rw [execute_reseat]
  | outerTest =>
    simp only [drainStep]
    by_cases pending : d.resetDone ≠ d.resetRequests
    · have also : (d.reseat e st l).resetDone ≠ (d.reseat e st l).resetRequests := pending
      rw [if_pos pending, if_pos also]
    · have also : ¬ (d.reseat e st l).resetDone ≠ (d.reseat e st l).resetRequests := pending
      rw [if_neg pending, if_neg also]
  | _ => rfl

theorem shadowStep_reseat (pc : ShadowPc) : shadowStep env (d.reseat e st l) pc =
    ((shadowStep env d pc).1.reseat e st l, (shadowStep env d pc).2) := by
  cases pc with
  | enter => rfl
  | pin p =>
    by_cases inside : p < d.nPins
    · have also : p < (d.reseat e st l).nPins := inside
      simp only [shadowStep, if_pos inside, if_pos also]
      by_cases input : modeIsInput (d.mode p) = true
      · have too : modeIsInput ((d.reseat e st l).mode p) = true := input
        rw [if_pos input, if_pos too]
        rfl
      · have too : ¬ modeIsInput ((d.reseat e st l).mode p) = true := input
        rw [if_neg input, if_neg too]
    · have also : ¬ p < (d.reseat e st l).nPins := inside
      simp only [shadowStep, if_neg inside, if_neg also]
  | analog i =>
    by_cases inside : i < d.nPins
    · have also : i < (d.reseat e st l).nPins := inside
      simp only [shadowStep, if_pos inside, if_pos also]
      by_cases analog : d.mode d.ainCursor = some .analogIn
      · have too : (d.reseat e st l).mode (d.reseat e st l).ainCursor = some .analogIn := analog
        rw [if_pos analog, if_pos too]
        rfl
      · have too : ¬ (d.reseat e st l).mode (d.reseat e st l).ainCursor = some .analogIn := analog
        rw [if_neg analog, if_neg too]
        rfl
    · have also : ¬ i < (d.reseat e st l).nPins := inside
      simp only [shadowStep, if_neg inside, if_neg also]

theorem Agree.stall (reason : Status) : Agree (stall d reason) (stall (d.reseat e st l) reason) :=
  ⟨rfl, e, st, reason, rfl⟩

/-- The same test in both, and agreement on either side of it. -/
theorem Agree.ite {p p' : Prop} [Decidable p] [Decidable p'] {r₁ r₂ r₁' r₂' : UsbIoDevice × Bool}
    (same : p' ↔ p) (yes : p → Agree r₁ r₁') (no : ¬ p → Agree r₂ r₂') :
    Agree (if p then r₁ else r₂) (if p' then r₁' else r₂') := by
  by_cases holds : p
  · rw [if_pos holds, if_pos (same.mpr holds)]
    exact yes holds
  · rw [if_neg holds, if_neg (holds ∘ same.mp)]
    exact no holds

theorem enqueue_reseat (cmd : Request) : enqueue (d.reseat e st l) cmd pin value =
    (enqueue d cmd pin value).map (fun d₁ => d₁.reseat e st l) := by
  unfold enqueue
  by_cases full : queueDepth ≤ d.queuePending.toNat
  · have also : queueDepth ≤ (d.reseat e st l).queuePending.toNat := full
    rw [if_pos full, if_pos also]
    rfl
  · have also : ¬ queueDepth ≤ (d.reseat e st l).queuePending.toNat := full
    rw [if_neg full, if_neg also]
    rfl

theorem handlePinMode_agree :
    Agree (handlePinMode b d pin value) (handlePinMode b (d.reseat e st l) pin value) := by
  unfold handlePinMode
  cases PinMode.ofCode? value with
  | none => exact .stall _
  | some mode =>
    dsimp only
    refine .ite Iff.rfl (fun _ => .stall _) (fun _ => ?_)
    rw [enqueue_reseat]
    cases enqueue d .pinMode pin value with
    | none => exact .stall _
    | some d₁ => exact ⟨rfl, _, _, _, rfl⟩

theorem handleWrite_agree (cmd : Request) (mode : PinMode) (limit : Nat) :
    Agree (handleWrite d cmd mode limit pin value)
      (handleWrite (d.reseat e st l) cmd mode limit pin value) := by
  unfold handleWrite
  refine .ite Iff.rfl (fun _ => .stall _) (fun _ => .ite Iff.rfl (fun _ => .stall _) (fun _ => ?_))
  rw [enqueue_reseat]
  cases enqueue d cmd pin value with
  | none => exact .stall _
  | some d₁ => exact ⟨rfl, _, _, _, rfl⟩

/-- Both find something, or neither does. -/
theorem found_alike {α : Type} {x x' : Option α} (same : x'.isSome = x.isSome) :
    (x = none ∧ x' = none) ∨ ∃ i i', x = some i ∧ x' = some i' := by
  cases x with
  | none => exact .inl ⟨rfl, by simpa using same⟩
  | some i =>
    obtain ⟨i', found⟩ := Option.isSome_iff_exists.mp same
    exact .inr ⟨i, i', rfl, found⟩

theorem handleEventConfig_agree (view : SameView d (d.reseat e st l)) :
    Agree (handleEventConfig d pin value) (handleEventConfig (d.reseat e st l) pin value) := by
  have many : e.nWatched = d.event.nWatched := view.nWatched
  unfold handleEventConfig
  rcases found_alike (view.watched pin) with ⟨here, there⟩ | ⟨i, j, here, there⟩
  · rw [here, there]
    refine .ite Iff.rfl (fun _ => ⟨rfl, _, _, _, rfl⟩) (fun _ => .ite Iff.rfl (fun _ => .stall _) (fun _ => ?_))
    cases EdgeMode.ofCode? value.toUInt8 with
    | none => exact .stall _
    | some edge =>
      refine .ite ?_ (fun _ => .stall _) (fun _ => ⟨rfl, _, _, _, rfl⟩)
      change maxEventPins ≤ e.nWatched.toNat ↔ _
      rw [many]
  · rw [here, there]
    refine .ite Iff.rfl (fun _ => ⟨rfl, _, _, _, rfl⟩) (fun _ => .ite Iff.rfl (fun _ => .stall _) (fun _ => ?_))
    cases EdgeMode.ofCode? value.toUInt8 with
    | none => exact .stall _
    | some edge => exact ⟨rfl, _, _, _, rfl⟩

theorem handleStreamSelect_agree (view : SameView d (d.reseat e st l)) :
    Agree (handleStreamSelect d value index) (handleStreamSelect (d.reseat e st l) value index) := by
  have many : st.nChannels = d.stream.nChannels := view.nChannels
  have runs : st.running = true ↔ d.stream.running = true := by
    have same : st.running = d.stream.running := view.running
    rw [same]
  have room : maxStreamChannels ≤ st.nChannels.toNat ↔ maxStreamChannels ≤ d.stream.nChannels.toNat := by
    rw [many]
  unfold handleStreamSelect
  refine .ite Iff.rfl (fun _ => .stall _) (fun _ => .ite runs (fun _ => .stall _) (fun _ => ?_))
  refine .ite Iff.rfl (fun _ => .stall _) (fun _ => .ite Iff.rfl (fun _ => .stall _) (fun _ => ?_))
  refine .ite Iff.rfl (fun _ => .stall _) (fun _ => .ite Iff.rfl (fun _ => ?_) (fun _ => ?_))
  · refine .ite ?_ (fun _ => ⟨rfl, _, _, _, rfl⟩) (fun _ => ?_)
    · rw [view.selected]
    · exact .ite room (fun _ => .stall _) (fun _ => ⟨rfl, _, _, _, rfl⟩)
  · rcases found_alike (view.selected index.toNat) with ⟨here, there⟩ | ⟨i, j, here, there⟩
    · rw [here, there]
      exact ⟨rfl, _, _, _, rfl⟩
    · rw [here, there]
      exact ⟨rfl, _, _, _, rfl⟩

theorem handleStreamStart_agree (view : SameView d (d.reseat e st l)) :
    Agree (handleStreamStart d value index) (handleStreamStart (d.reseat e st l) value index) := by
  have runs : st.running = true ↔ d.stream.running = true := by
    have same : st.running = d.stream.running := view.running
    rw [same]
  have none_ : st.nChannels = 0 ↔ d.stream.nChannels = 0 := by
    have same : st.nChannels = d.stream.nChannels := view.nChannels
    rw [same]
  unfold handleStreamStart
  refine .ite Iff.rfl (fun _ => .stall _) (fun _ => .ite runs (fun _ => .stall _) (fun _ => ?_))
  refine .ite none_ (fun _ => .stall _) (fun _ => .ite Iff.rfl (fun _ => .stall _) (fun _ => ?_))
  exact .ite Iff.rfl (fun _ => .stall _) (fun _ => ⟨rfl, _, _, _, rfl⟩)

theorem handleStreamStop_agree : Agree (handleStreamStop d) (handleStreamStop (d.reseat e st l)) :=
  .ite Iff.rfl (fun _ => .stall _) (fun _ => ⟨rfl, _, _, _, rfl⟩)

theorem handleOut_agree {bRequest : UInt8}
    (view : ∀ req, Request.ofCode? bRequest = some req → req.ofSession = true →
      SameView d (d.reseat e st l)) :
    Agree (handleOut b d bRequest value index len)
      (handleOut b (d.reseat e st l) bRequest value index len) := by
  unfold handleOut
  refine .ite Iff.rfl (fun _ => .stall _) (fun _ => ?_)
  cases named : Request.ofCode? bRequest with
  | none => exact .stall _
  | some req =>
    cases req with
    | reset => exact ⟨rfl, _, _, _, rfl⟩
    | streamSelect =>
      exact .ite Iff.rfl (fun _ => handleStreamSelect_agree (view _ named rfl)) (fun _ => .stall _)
    | streamStart =>
      exact .ite Iff.rfl (fun _ => handleStreamStart_agree (view _ named rfl)) (fun _ => .stall _)
    | streamStop => exact .ite Iff.rfl (fun _ => handleStreamStop_agree) (fun _ => .stall _)
    | pinMode => exact .ite Iff.rfl (fun _ => .stall _) (fun _ => handlePinMode_agree)
    | dioWrite => exact .ite Iff.rfl (fun _ => .stall _) (fun _ => handleWrite_agree ..)
    | pwmWrite => exact .ite Iff.rfl (fun _ => .stall _) (fun _ => handleWrite_agree ..)
    | dacWrite => exact .ite Iff.rfl (fun _ => .stall _) (fun _ => handleWrite_agree ..)
    | eventConfig =>
      exact .ite Iff.rfl (fun _ => .stall _) (fun _ => handleEventConfig_agree (view _ named rfl))
    | _ => exact .stall _

/-- An IN request is answered or refused alike, whatever the reply. -/
theorem handleIn_agree (bRequest : UInt8) :
    (handleIn b env (d.reseat e st l) bRequest index len).2.isSome =
        (handleIn b env d bRequest index len).2.isSome ∧
      SameRest (handleIn b env d bRequest index len).1
        (handleIn b env (d.reseat e st l) bRequest index len).1 := by
  unfold handleIn replyBytes
  cases Request.ofCode? bRequest with
  | none => exact ⟨rfl, _, _, _, rfl⟩
  | some req =>
    cases req with
    | streamStatus =>
      dsimp only
      by_cases streams : (b.hasStreamTransport && hasFlag d.flags flagStreaming) = true
      · have also : (b.hasStreamTransport && hasFlag (d.reseat e st l).flags flagStreaming) = true := streams
        rw [if_pos streams, if_pos also]
        exact ⟨rfl, _, _, _, rfl⟩
      · have also : ¬ (b.hasStreamTransport && hasFlag (d.reseat e st l).flags flagStreaming) = true := streams
        rw [if_neg streams, if_neg also]
        exact ⟨rfl, _, _, _, rfl⟩
    | _ => exact ⟨rfl, _, _, _, rfl⟩

/-- A SETUP packet finds the same verdict on two devices with the same rest, and leaves them so; a
request for events or the stream does where the devices show it the same. -/
theorem handleSetup_agree (same : SameRest d d') (view : s.ofSession = true → SameView d d') :
    (handleSetup b env d' s).2.isSome = (handleSetup b env d s).2.isSome ∧
      SameRest (handleSetup b env d s).1 (handleSetup b env d' s).1 := by
  obtain ⟨e, st, l, rfl⟩ := same
  have seen : ∀ req, Request.ofCode? s.bRequest = some req → req.ofSession = true →
      SameView d (d.reseat e st l) := by
    intro req named session
    apply view
    rw [SetupPacket.ofSession, named]
    exact session
  have dispatched : (dispatch b env (d.reseat e st l) s).2.isSome = (dispatch b env d s).2.isSome ∧
      SameRest (dispatch b env d s).1 (dispatch b env (d.reseat e st l) s).1 := by
    unfold dispatch
    cases asks : s.isIn with
    | true => exact handleIn_agree s.bRequest
    | false =>
      have agree : Agree (handleOut b d s.bRequest s.wValue s.index s.wLength)
        (handleOut b (d.reseat e st l) s.bRequest s.wValue s.index s.wLength) := handleOut_agree seen
      obtain ⟨verdict, rest⟩ := agree
      refine ⟨?_, rest⟩
      simp only [Bool.false_eq_true, if_false, verdict]
  have refused : ∀ reason, SameRest (stall d reason).1 (stall (d.reseat e st l) reason).1 :=
    fun reason => (Agree.stall reason).2
  unfold handleSetup
  by_cases vendor : s.isVendor = true
  · simp only [vendor, Bool.not_true, Bool.false_eq_true, if_false]
    by_cases device : s.bmRequestType &&& 0x1F = 0
    · simp only [if_pos device]
      exact dispatched
    · simp only [if_neg device]
      by_cases interface : s.bmRequestType &&& 0x1F = 1
      · simp only [if_pos interface]
        by_cases owned : hasFlag d.flags flagVendorInterface = true
        · have also : hasFlag (d.reseat e st l).flags flagVendorInterface = true := owned
          rw [if_pos owned, if_pos also]
          exact dispatched
        · have also : ¬ hasFlag (d.reseat e st l).flags flagVendorInterface = true := owned
          rw [if_neg owned, if_neg also]
          exact ⟨rfl, refused _⟩
      · simp only [if_neg interface]
        exact ⟨trivial, refused _⟩
  · simp only [vendor, Bool.not_false, if_true]
    exact ⟨trivial, e, st, l, rfl⟩

theorem SetupPacket.obs_accepted {s : SetupPacket} {r : Option (List UInt8)} {req : Request}
    (accepted : s.obs r = .accepted req index value) : Request.ofCode? s.bRequest = some req := by
  unfold SetupPacket.obs at accepted
  split at accepted
  · rename_i reply req' named
    split at accepted
    · contradiction
    · injection accepted with same
      rw [named, same]
  · contradiction

/-- Such a request changes nothing of the rest. -/
theorem handleSetup_session (session : s.ofSession = true) :
    SameRest d (handleSetup b env d s).1 := by
  have served := handleSetup_served b env d s
  have own : ∀ req index value, s.obs (handleSetup b env d s).2 = .accepted req index value →
      req.ofSession = true := by
    intro req index value said
    rw [SetupPacket.ofSession, SetupPacket.obs_accepted said] at session
    exact session
  generalize s.obs (handleSetup b env d s).2 = o at served own
  generalize (handleSetup b env d s).1 = d' at served
  cases served with
  | moded index value => exact absurd (own _ index value rfl) Bool.false_ne_true
  | reset index value => exact absurd (own _ index value rfl) Bool.false_ne_true
  | written req mode index value writes =>
    have listed := own req index value rfl
    cases req <;> contradiction
  | _ => exact ⟨_, _, _, rfl⟩

/-- The position is in event_poll() or stream_poll(). -/
def Pc.late : Pc → Bool
  | .event _ | .stream _ => true
  | _ => false

/-- A step of two runs side by side: of both, or of one of them. -/
inductive PairMove where
  | both (act : Act)
  | first (act : Act)
  | second (act : Act)

def PairMove.step (b : Board) (p : Machine × Machine) : PairMove → Machine × Machine
  | .both act => (ArduinoDriver.step b p.1 act, ArduinoDriver.step b p.2 act)
  | .first act => (ArduinoDriver.step b p.1 act, p.2)
  | .second act => (p.1, ArduinoDriver.step b p.2 act)

/-- What one run may do without the other: ask for events or the stream, and go on in the parts
of poll() that this can change. -/
def Act.single (m : Machine) : Act → Prop
  | .setup _ s => s.ofSession = true
  | .loop _ => m.pc.late = true
  | .disconnect => False

/-- The two get the same but for such requests, at the same points of poll(). -/
def PairMove.fair (p : Machine × Machine) : PairMove → Prop
  | .both (.setup _ s) => s.ofSession = false
  | .both (.loop _) => p.1.pc = p.2.pc
  | .both .disconnect => True
  | .first act => act.single p.1
  | .second act => act.single p.2

instance (m : Machine) (act : Act) : Decidable (act.single m) :=
  match act with
  | .setup _ s => inferInstanceAs (Decidable (s.ofSession = true))
  | .loop _ => inferInstanceAs (Decidable (m.pc.late = true))
  | .disconnect => .isFalse id

instance (p : Machine × Machine) (move : PairMove) : Decidable (move.fair p) :=
  match move with
  | .both (.setup _ s) => inferInstanceAs (Decidable (s.ofSession = false))
  | .both (.loop _) => inferInstanceAs (Decidable (p.1.pc = p.2.pc))
  | .both .disconnect => .isTrue trivial
  | .first act => inferInstanceAs (Decidable (act.single p.1))
  | .second act => inferInstanceAs (Decidable (act.single p.2))

/-- Pairs of runs that differ in the requests for events and the stream only. -/
def Differ (b : Board) (p : Machine × Machine) : Prop :=
  Lib.Reach (PairMove.step b) PairMove.fair (boot b, boot b) p

variable {p : Machine × Machine} {m m' : Machine} {act : Act}

/-- Both sides of a pair are runs. -/
theorem Differ.reachable (differ : Differ b p) : Reachable b p.1 ∧ Reachable b p.2 := by
  have start : Reachable b (boot b) := .refl
  apply differ.invariant (I := fun p => Reachable b p.1 ∧ Reachable b p.2) ⟨start, start⟩
  intro q move both _
  cases move with
  | both act => exact ⟨.tail act both.1 trivial, .tail act both.2 trivial⟩
  | first act => exact ⟨.tail act both.1 trivial, both.2⟩
  | second act => exact ⟨both.1, .tail act both.2 trivial⟩

/-- event_poll() and stream_poll() change nothing of the rest. -/
theorem loopStep_late (late : m.pc.late = true) : SameRest m.dev (loopStep b env m).dev := by
  obtain ⟨d, pc, log⟩ := m
  cases pc with
  | event pc | stream pc => exact ⟨_, _, _, rfl⟩
  | _ => contradiction

/-- The same step of poll() before event_poll(), at the same point. -/
theorem loopStep_early (same : SameRest m.dev m'.dev) (at_pc : m.pc = m'.pc) (early : m.pc.late = false) :
    SameRest (loopStep b env m).dev (loopStep b env m').dev ∧
      (loopStep b env m').pc = (loopStep b env m).pc := by
  obtain ⟨d, pc, log⟩ := m
  obtain ⟨d', pc', log'⟩ := m'
  obtain rfl : pc = pc' := at_pc
  obtain ⟨e, st, l, rfl⟩ := same
  cases pc with
  | idle => exact ⟨⟨e, st, l, rfl⟩, rfl⟩
  | drain pc =>
    simp only [loopStep, drainStep_reseat]
    exact ⟨⟨e, st, l, rfl⟩, trivial⟩
  | shadow pc =>
    simp only [loopStep, shadowStep_reseat]
    exact ⟨⟨e, st, l, rfl⟩, trivial⟩
  | _ => contradiction

/-- The same step of poll() at the same point. -/
theorem loopStep_rest (same : SameRest m.dev m'.dev) (at_pc : m.pc = m'.pc) :
    SameRest (loopStep b env m).dev (loopStep b env m').dev := by
  by_cases late : m.pc.late = true
  · exact ((loopStep_late late).symm.trans same).trans (loopStep_late (at_pc ▸ late))
  · exact (loopStep_early same at_pc (Bool.not_eq_true _ |>.mp late)).1

theorem single_rest (single : act.single m) : SameRest m.dev (step b m act).dev := by
  cases act with
  | setup env s => exact handleSetup_session single
  | loop env => exact loopStep_late single
  | disconnect => exact absurd single id

/-- Requests for events and the stream leave no trace in the rest of the device. -/
theorem Differ.sameRest (differ : Differ b p) : SameRest p.1.dev p.2.dev := by
  apply differ.invariant (I := fun p => SameRest p.1.dev p.2.dev) (.refl _)
  intro q move same allowed
  cases move with
  | both act =>
    cases act with
    | setup env s =>
      have other : s.ofSession = false := allowed
      have agree := @handleSetup_agree b env q.1.dev q.2.dev s same (fun session => by
        rw [other] at session
        contradiction)
      exact agree.2
    | disconnect => exact same.disconnected
    | loop env => exact loopStep_rest same allowed
  | first act => exact (single_rest allowed).symm.trans same
  | second act => exact same.trans (single_rest allowed)

end ArduinoDriver
