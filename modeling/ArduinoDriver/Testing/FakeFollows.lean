import ArduinoDriver.Testing.Alongside

namespace ArduinoDriver

/-- What the replies to a request are compared in; in GET_STREAM_STATUS that ends before seq. -/
def comparedBytes (bRequest : UInt8) (reply : List UInt8) : List UInt8 :=
  match Request.ofCode? bRequest with
  | some .eventPop | some .eventCounts | some .dioRead | some .dioReadAll | some .getStatus => reply
  | some .streamStatus => reply.take 8
  | _ => []

/-- Both accept the request or both STALL it, and the replies agree. -/
def Bench.answersAlike (b : Board) (t : Bench) : Stimulus → Prop
  | .out bRequest wValue wIndex =>
    (handleSetup b (t.env .still) t.machine.dev (outPacket bRequest wValue wIndex)).2.isSome =
      (t.fake.controlOut bRequest wValue wIndex).2
  | .inp bRequest wValue wIndex wLength =>
    (handleSetup b (t.env .still) t.machine.dev (inPacket bRequest wValue wIndex wLength)).2.map
        (comparedBytes bRequest) =
      (t.fake.controlIn bRequest wIndex wLength).2.map (comparedBytes bRequest)
  | .level .. => True

instance (b : Board) (t : Bench) (s : Stimulus) : Decidable (t.answersAlike b s) := by
  unfold Bench.answersAlike
  cases s <;> infer_instance

variable {b : Board} {t : Bench} {follows : Prop} {bRequest : UInt8} {index wLength : UInt16}
  {d d' : UsbIoDevice} {f f' : FakeTransport} {reply reply' : List UInt8} {env : Env}

/-- An IN handler of the firmware and the fake's. -/
structure Answered (follows : Prop) (b : Board) (t : Bench) (bRequest : UInt8)
    (r : UsbIoDevice × Option (List UInt8)) (q : FakeTransport × Option (List UInt8)) : Prop where
  alongside : Alongside follows b t (r.1, r.2.isSome) (q.1, q.2.isSome)
  replies : r.2.map (comparedBytes bRequest) = q.2.map (comparedBytes bRequest)

theorem Answered.stalled (h : Agrees b t) (reason : Status) :
    Answered follows b t bRequest ((stall t.machine.dev reason).1, none)
      ((t.fake.stall reason).1, none) :=
  ⟨h.refuse reason, rfl⟩

theorem Answered.said (along : Alongside follows b t (d', true) (f', true))
    (same : comparedBytes bRequest (reply.take wLength.toNat) =
      comparedBytes bRequest (reply'.take wLength.toNat)) :
    Answered follows b t bRequest (d', some (reply.take wLength.toNat))
      (f', some (reply'.take wLength.toNat)) :=
  ⟨along, congrArg some same⟩

theorem controlIn_said (said : f.reply bRequest index = (f', some reply)) (inert : f'.faults = .inert) :
    f.controlIn bRequest index wLength = (f', some (reply.take wLength.toNat)) := by
  unfold FakeTransport.controlIn FakeTransport.truncated
  rw [said]
  dsimp only
  rw [inert]
  rfl

theorem controlIn_stalled (said : f.reply bRequest index = (f', none)) :
    f.controlIn bRequest index wLength = (f', none) := by
  unfold FakeTransport.controlIn
  rw [said]

/-- A reply to a request that changes nothing. -/
theorem Agrees.answer (h : Agrees b t) (said : t.fake.reply bRequest index = (t.fake, some reply'))
    (same : comparedBytes bRequest (reply.take wLength.toNat) =
      comparedBytes bRequest (reply'.take wLength.toNat)) :
    Answered follows b t bRequest (t.machine.dev, some (reply.take wLength.toNat))
      (t.fake.controlIn bRequest index wLength) := by
  rw [controlIn_said said h.matched.faults]
  exact .said (.accept h.matched h.calm h.events) same

theorem Agrees.takeBusy (h : Agrees b t) : t.fake.takeBusy = (t.fake, false) := by
  unfold FakeTransport.takeBusy
  rw [h.matched.faults]
  rfl

theorem Agrees.free (h : Agrees b t) : t.machine.dev.busy = false := by
  unfold UsbIoDevice.busy UsbIoDevice.queuePending
  rw [h.calm.empty, h.calm.applied, UInt8.sub_self]
  simp

/-- The shadow of a pin in a digital mode is the level of its pad. -/
theorem Agrees.level (h : Agrees b t) {p : Nat} (known : p < t.machine.dev.nPins)
    (digital : modeIsDigital (t.machine.dev.mode p) = true) : t.machine.dev.dio p = t.fake.dio p := by
  have levels := h.matched.levels
  unfold modeIsDigital at digital
  rcases Bool.or_eq_true_iff.mp digital with input | output
  · have other : t.machine.dev.mode p ≠ some .output := by
      intro output
      rw [output] at input
      contradiction
    exact (h.inputs p known input).trans (levels.others p other).symm
  · obtain ⟨shadow, fake⟩ := levels.outputs p (beq_iff_eq.mp output)
    exact shadow.trans fake.symm

theorem Agrees.dioRead (h : Agrees b t) (reached : Reachable b t.machine) :
    t.fake.dioRead index.toNat = (t.fake, dioBytes t.machine.dev index) := by
  unfold FakeTransport.dioRead dioBytes readStatus
  rw [h.nPins reached, isDigitalMode_eq, h.matched.mode, h.takeBusy, h.free]
  by_cases known : t.machine.dev.nPins ≤ index.toNat
  · rw [if_pos known, if_pos known]
    rfl
  · rw [if_neg known, if_neg known]
    by_cases digital : modeIsDigital (t.machine.dev.mode index.toNat) = true
    · rw [digital, h.level (Nat.not_le.mp known) digital]
      simp
    · rw [Bool.eq_false_iff.mpr digital]
      rfl

theorem Agrees.allHeader (h : Agrees b t) : t.fake.allHeader = (t.fake, ArduinoDriver.allHeader t.machine.dev) := by
  unfold FakeTransport.allHeader ArduinoDriver.allHeader
  rw [h.takeBusy, h.free]

theorem Agrees.levelBits (h : Agrees b t) (reached : Reachable b t.machine) :
    t.fake.levelBits = digitalBitmap t.machine.dev := by
  unfold FakeTransport.levelBits digitalBitmap
  rw [h.nPins reached]
  refine List.foldl_ext _ _ _ (fun bytes p listed => ?_)
  have known := List.mem_range.mp listed
  unfold bitmapPin
  rw [isDigitalMode_eq, h.matched.mode]
  by_cases digital : modeIsDigital (t.machine.dev.mode p) = true
  · rw [h.level known digital]
  · rw [Bool.eq_false_iff.mpr digital, Bool.false_and, Bool.false_and]

theorem streamStatus_compared (h : Agrees b t) :
    comparedBytes Request.streamStatus.code ((streamStatusBytes t.machine.dev.stream).take wLength.toNat) =
      comparedBytes Request.streamStatus.code (t.fake.streamStatus.take wLength.toNat) := by
  have front : ∀ n (x y : List UInt8), x.take 8 = y.take 8 → (x.take n).take 8 = (y.take n).take 8 := by
    intro n x y same
    rw [List.take_take, List.take_take, Nat.min_comm, ← List.take_take, ← List.take_take, same]
  unfold comparedBytes
  rw [Request.ofCode_code]
  refine front _ _ _ ?_
  unfold streamStatusBytes FakeTransport.streamStatus
  rw [h.matched.running, h.matched.selected, h.matched.flags, h.matched.periodUs,
    StreamState.selection_length, UInt8.ofNat_toNat]
  rfl

/-- GET_STATUS. -/
theorem getStatus_answered (h : Agrees b t) : Answered follows b t Request.getStatus.code
    ({ t.machine.dev with lastError := .ok }, some ((statusBytes t.machine.dev).take wLength.toNat))
    (t.fake.controlIn Request.getStatus.code index wLength) := by
  have faults : t.fake.getStatus.1.faults = .inert := by
    unfold FakeTransport.getStatus
    rw [h.matched.faults]
    rfl
  have same : statusBytes t.machine.dev = t.fake.getStatus.2 := by
    unfold statusBytes FakeTransport.getStatus UsbIoDevice.queuePending
    rw [h.matched.faults, h.matched.lastError, h.calm.empty, UInt8.sub_self]
    rfl
  have said : t.fake.reply Request.getStatus.code index =
      (t.fake.getStatus.1, some t.fake.getStatus.2) := by
    unfold FakeTransport.reply
    rw [Request.ofCode_code]
  obtain ⟨twins, events⟩ := h.events
  rw [controlIn_said said faults, ← same]
  refine .said (.accept ⟨h.matched.board, faults, h.matched.mode, rfl, h.matched.levels,
    h.matched.clock, h.matched.running, h.matched.selected, h.matched.flags, h.matched.periodUs⟩
    ⟨h.calm.empty, h.calm.applied⟩ ⟨twins, events.congr rfl rfl rfl⟩) rfl

/-- EVENT_POP. -/
theorem eventPop_answered (h : Agrees b t) (reached : Reachable b t.machine) :
    Answered follows b t Request.eventPop.code
      ({ t.machine.dev with event := (t.machine.dev.event.pop index).1 },
        some ((t.machine.dev.event.pop index).2.take wLength.toNat))
      (t.fake.controlIn Request.eventPop.code index wLength) := by
  obtain ⟨twins, events⟩ := h.events
  have few : t.machine.dev.event.queued.length ≤ eventQueueDepth :=
    (liveFrom_length).trans (reach_ok reached).dev.events
  obtain ⟨same, popped⟩ := events.pop few index
  have said : t.fake.reply Request.eventPop.code index =
      ((t.fake.eventPop index).1, some (t.fake.eventPop index).2) := by
    have on : hasFlag t.fake.board.flags flagEvents = true := by
      rw [h.flags reached]
      exact (reach_begun reached).events
    unfold FakeTransport.reply
    rw [Request.ofCode_code]
    exact if_pos on
  rw [controlIn_said said h.matched.faults, ← same]
  exact .said (.accept ⟨h.matched.board, h.matched.faults, h.matched.mode, h.matched.lastError,
    h.matched.levels, h.matched.clock, h.matched.running, h.matched.selected,
    h.matched.flags, h.matched.periodUs⟩ ⟨h.calm.empty, h.calm.applied⟩ ⟨twins, popped⟩) rfl

theorem handleIn_said (said : replyBytes b env d bRequest index wLength = (d', some reply)) :
    handleIn b env d bRequest index wLength = (d', some (reply.take wLength.toNat)) := by
  unfold handleIn
  rw [said]
  rfl

/-- A request that only reads, where the replies are not compared. -/
theorem Agrees.uncompared {req : Request} (h : Agrees b t) (reply reply' : List UInt8)
    (firmware : replyBytes b env t.machine.dev req.code index wLength = (t.machine.dev, some reply))
    (said : t.fake.reply req.code index = (t.fake, some reply'))
    (free : ∀ bytes, comparedBytes req.code bytes = []) :
    Answered follows b t req.code (handleIn b env t.machine.dev req.code index wLength)
      (t.fake.controlIn req.code index wLength) := by
  rw [handleIn_said firmware]
  exact h.answer said ((free _).trans (free _).symm)

/-- One where they are. -/
theorem Agrees.compared {req : Request} (h : Agrees b t) (reply : List UInt8)
    (firmware : replyBytes b env t.machine.dev req.code index wLength = (t.machine.dev, some reply))
    (said : t.fake.reply req.code index = (t.fake, some reply)) :
    Answered follows b t req.code (handleIn b env t.machine.dev req.code index wLength)
      (t.fake.controlIn req.code index wLength) := by
  rw [handleIn_said firmware]
  exact h.answer said rfl

theorem Agrees.encodeInfo (h : Agrees b t) : t.fake.encodeInfo.1 = t.fake := by
  unfold FakeTransport.encodeInfo
  rw [h.matched.faults]
  rfl

theorem Agrees.aiRead (h : Agrees b t) {pin : Nat} : (t.fake.aiRead pin).1 = t.fake := by
  unfold FakeTransport.aiRead
  rw [h.takeBusy]
  split
  · rfl
  · split
    · rfl
    · rfl

/-- GET_STREAM_STATUS. -/
theorem streamStatus_answered (h : Agrees b t) (reached : Reachable b t.machine) :
    Answered follows b t Request.streamStatus.code
      (handleIn b env t.machine.dev Request.streamStatus.code index wLength)
      (t.fake.controlIn Request.streamStatus.code index wLength) := by
  have told := (reach_begun reached).streaming
  have flags := h.flags reached
  by_cases streams : b.hasStreamTransport = true
  · have firmware : replyBytes b env t.machine.dev Request.streamStatus.code index wLength =
        (t.machine.dev, some (streamStatusBytes t.machine.dev.stream)) := by
      simp only [replyBytes, Request.ofCode_code, told, streams, Bool.and_self, if_true]
    have said : t.fake.reply Request.streamStatus.code index = (t.fake, some t.fake.streamStatus) := by
      simp only [FakeTransport.reply, Request.ofCode_code, flags, told, streams, if_true]
    rw [handleIn_said firmware]
    exact h.answer said (streamStatus_compared h)
  · have firmware : handleIn b env t.machine.dev Request.streamStatus.code index wLength =
        ((stall t.machine.dev .unsupported).1, none) := by
      simp only [handleIn, replyBytes, Request.ofCode_code, streams, Bool.false_and, Bool.false_eq_true,
        if_false, Option.map_none]
    have said : t.fake.reply Request.streamStatus.code index = ((t.fake.stall .unsupported).1, none) := by
      simp only [FakeTransport.reply, Request.ofCode_code, flags, told, streams, Bool.false_eq_true, if_false]
    rw [controlIn_stalled said, firmware]
    exact .stalled h .unsupported

/-- handle_in() and control_in(). -/
theorem handleIn_answered (h : Agrees b t) (reached : Reachable b t.machine) :
    Answered follows b t bRequest (handleIn b env t.machine.dev bRequest index wLength)
      (t.fake.controlIn bRequest index wLength) := by
  have refuses : t.fake.reply bRequest index = ((t.fake.stall .badCmd).1, none) →
      replyBytes b env t.machine.dev bRequest index wLength = ((stall t.machine.dev .badCmd).1, none) →
      Answered follows b t bRequest (handleIn b env t.machine.dev bRequest index wLength)
        (t.fake.controlIn bRequest index wLength) := by
    intro fake firmware
    unfold handleIn
    rw [controlIn_stalled fake, firmware]
    exact .stalled h .badCmd
  cases named : Request.ofCode? bRequest with
  | none => exact refuses (by simp only [FakeTransport.reply, named]) (by simp only [replyBytes, named])
  | some req =>
    obtain rfl := Request.code_of_ofCode named
    cases req with
    | getInfo =>
      refine h.uncompared (infoBytes b t.machine.dev) t.fake.encodeInfo.2
        (by simp only [replyBytes, named]) ?_ (fun bytes => by simp only [comparedBytes, named])
      simp only [FakeTransport.reply, named, h.encodeInfo]
    | getPinCaps =>
      exact h.uncompared (pinCapsBytes t.machine.dev index.toNat wLength.toNat)
        (t.fake.board.caps.drop index.toNat) (by simp only [replyBytes, named])
        (by simp only [FakeTransport.reply, named]) (fun bytes => by simp only [comparedBytes, named])
    | getTime =>
      exact h.uncompared (timeBytes env)
        ([Status.ok.code, 0] ++ putU16 0 ++ putU32 t.fake.millis ++ putU32 t.fake.micros)
        (by simp only [replyBytes, named]) (by simp only [FakeTransport.reply, named])
        (fun bytes => by simp only [comparedBytes, named])
    | aiRead =>
      refine h.uncompared (aiBytes t.machine.dev index) (t.fake.aiRead index.toNat).2
        (by simp only [replyBytes, named]) ?_ (fun bytes => by simp only [comparedBytes, named])
      simp only [FakeTransport.reply, named, h.aiRead]
    | aiReadAll =>
      refine h.uncompared (allHeader t.machine.dev ++ aiAllSamples t.machine.dev)
        (allHeader t.machine.dev ++ t.fake.analogSamples) (by simp only [replyBytes, named]) ?_
        (fun bytes => by simp only [comparedBytes, named])
      simp only [FakeTransport.reply, named, h.allHeader]
    | dioRead =>
      refine h.compared (dioBytes t.machine.dev index) (by simp only [replyBytes, named]) ?_
      simp only [FakeTransport.reply, named, h.dioRead reached]
    | dioReadAll =>
      refine h.compared (allHeader t.machine.dev ++ digitalBitmap t.machine.dev)
        (by simp only [replyBytes, named]) ?_
      simp only [FakeTransport.reply, named, h.allHeader, h.levelBits reached]
    | eventCounts =>
      have on : hasFlag t.fake.board.flags flagEvents = true := by
        rw [h.flags reached]
        exact (reach_begun reached).events
      obtain ⟨twins, events⟩ := h.events
      refine h.compared t.machine.dev.event.countsBytes (by simp only [replyBytes, named]) ?_
      simp only [FakeTransport.reply, named, on, if_true, events.countsBytes]
    | getStatus =>
      have firmware : replyBytes b env t.machine.dev Request.getStatus.code index wLength =
          ({ t.machine.dev with lastError := .ok }, some (statusBytes t.machine.dev)) := by
        simp only [replyBytes, named]
      rw [handleIn_said firmware]
      exact getStatus_answered h
    | eventPop =>
      have firmware : replyBytes b env t.machine.dev Request.eventPop.code index wLength =
          ({ t.machine.dev with event := (t.machine.dev.event.pop index).1 },
            some (t.machine.dev.event.pop index).2) := by
        simp only [replyBytes, named]
      rw [handleIn_said firmware]
      exact eventPop_answered h reached
    | streamStatus => exact streamStatus_answered h reached
    | _ => exact refuses (by simp only [FakeTransport.reply, named]) (by simp only [replyBytes, named])

section Steps

variable {s : Stimulus} {pin : Nat} {high : Bool} {act : BenchAct}

theorem poll_reached (rs : List PollRead) (reached : Reachable b t.machine) :
    Reachable b (t.poll b rs).machine := by
  induction rs generalizing t with
  | nil => exact reached
  | cons r rs ih =>
    have next : Reachable b (step b t.machine (.loop (t.env r))) := .tail _ reached trivial
    unfold Bench.poll
    split
    · exact next
    · exact ih next

theorem feed_reached (s : Stimulus) (reached : Reachable b t.machine) :
    Reachable b (t.feed b s).machine := by
  cases s with
  | out bRequest wValue wIndex =>
    have next : Reachable b (step b t.machine
      (.setup (t.env .still) (outPacket bRequest wValue wIndex))) := .tail _ reached trivial
    exact next
  | inp bRequest wValue wIndex wLength =>
    have next : Reachable b (step b t.machine
      (.setup (t.env .still) (inPacket bRequest wValue wIndex wLength))) := .tail _ reached trivial
    exact next
  | level pin high => exact reached

theorem step_reached (act : BenchAct) (reached : Reachable b t.machine) :
    Reachable b (t.step b act).machine := by
  cases act with
  | clock ms => exact reached
  | poll rs => exact poll_reached rs reached
  | stimulus s rs => exact poll_reached rs (feed_reached s reached)

theorem handleEdge_frame (f : FakeTransport) (pin : Nat) (high : Bool) :
    ∃ watches queue dropped, f.handleEdge pin high =
      { f with eventWatch := watches, eventQueue := queue, eventDropped := dropped } := by
  unfold FakeTransport.handleEdge
  split
  · exact ⟨_, _, _, rfl⟩
  · split
    · exact ⟨_, _, _, rfl⟩
    · split
      · exact ⟨_, _, _, rfl⟩
      · dsimp only
        split
        · exact ⟨_, _, _, rfl⟩
        · exact ⟨_, _, _, rfl⟩

theorem setDigital_frame (f : FakeTransport) (pin : Nat) (high : Bool) :
    ∃ watches queue dropped, f.setDigital pin high =
      { f with
        dio := Function.update f.dio pin high
        eventWatch := watches
        eventQueue := queue
        eventDropped := dropped } := by
  unfold FakeTransport.setDigital
  split
  · obtain ⟨watches, queue, dropped, frame⟩ := handleEdge_frame f pin high
    rw [frame]
    exact ⟨_, _, _, rfl⟩
  · exact ⟨_, _, _, rfl⟩

/-- A level fed to both shows at a pad that the board does not drive. -/
theorem SameLevels.feed {caps : Nat → UInt8} {mode : Nat → Option PinMode} {dio fake pads fed : Nat → Bool}
    (h : SameLevels caps mode dio fake pads fed) (free : mode pin ≠ some .output) :
    SameLevels caps mode dio (Function.update fake pin high)
      (if drivesPad (mode pin) then pads else Function.update pads pin high) (Function.update fed pin high) := by
  have shows : ∀ p, (p = pin → drivesPad (mode p) = false) → pads p = fed p →
      (if drivesPad (mode pin) then pads else Function.update pads pin high) p =
        Function.update fed pin high p := by
    intro p undriven same
    by_cases here : p = pin
    · subst here
      rw [undriven rfl, if_neg Bool.false_ne_true, Function.update_self, Function.update_self]
    · rw [Function.update_of_ne here]
      split
      · exact same
      · rwa [Function.update_of_ne here]
  constructor
  · intro p other
    by_cases here : p = pin
    · rw [here, Function.update_self, Function.update_self]
    · rw [Function.update_of_ne here, Function.update_of_ne here]
      exact h.others p other
  · intro p output
    have elsewhere : p ≠ pin := by
      rintro rfl
      exact free output
    rw [Function.update_of_ne elsewhere]
    split
    · exact h.outputs p output
    · rw [Function.update_of_ne elsewhere]
      exact h.outputs p output
  · intro p input
    refine shows p (fun _ => ?_) (h.inputs p input)
    cases moded : mode p with
    | none => rfl
    | some old => cases old <;> first | rfl | simp [moded, modeIsInput] at input
  · intro p digital undriven
    exact shows p (fun _ => undriven) (h.released p digital undriven)

/-- A level change that the fake follows. -/
theorem Agrees.level_settles (h : Agrees b t) (reached : Reachable b t.machine)
    (feedable : t.feedable b (.level pin high) = true) (tells : t.edgeTells pin high = true) :
    Settles b (t.feed b (.level pin high)) := by
  unfold Bench.feedable at feedable
  obtain ⟨known, free⟩ := Bool.and_eq_true_iff.mp feedable
  have known : pin < t.machine.dev.nPins := by
    rw [(reach_begun reached).nPins]
    exact of_decide_eq_true known
  have free : t.machine.dev.mode pin ≠ some .output := bne_iff_ne.mp free
  obtain ⟨twins, events⟩ := h.events
  obtain ⟨watches, queue, dropped, frame⟩ := setDigital_frame t.fake pin high
  have scanned := events.level (reach_ok reached).dev known (h.matched.levels.others pin free)
    h.matched.clock tells
  have idle := h.idle
  obtain ⟨⟨d, pc, log⟩, f, pads, fed, ms⟩ := t
  obtain rfl : pc = .idle := idle
  refine Matched.settles ?_ h.calm scanned
  dsimp only at *
  rw [frame]
  exact ⟨h.matched.board, h.matched.faults, h.matched.mode, h.matched.lastError,
    h.matched.levels.feed free, h.matched.clock, h.matched.running, h.matched.selected, h.matched.flags,
    h.matched.periodUs⟩

/-- A request gets one answer, and leaves the two alike after the poll() if the fake follows. -/
theorem Agrees.out_answer (h : Agrees b t) (reached : Reachable b t.machine) (wValue wIndex : UInt16) :
    t.answersAlike b (.out bRequest wValue wIndex) ∧
      (t.feed b (.out bRequest wValue wIndex)).machine.dev.lastError =
        (t.feed b (.out bRequest wValue wIndex)).fake.lastError ∧
      (t.followed b (.out bRequest wValue wIndex) = true →
        Settles b (t.feed b (.out bRequest wValue wIndex))) := by
  have along := handleOut_alongside h reached bRequest wValue wIndex
  have ok := (reach_ok (feed_reached (.out bRequest wValue wIndex) reached)).dev
  have served := handleSetup_outCode b (t.env .still) t.machine.dev bRequest wValue wIndex
  have packet : handleSetup b (t.env .still) t.machine.dev (outPacket bRequest wValue wIndex) = _ := served
  have idle := h.idle
  obtain ⟨⟨d, pc, log⟩, f, pads, fed, ms⟩ := t
  obtain rfl : pc = .idle := idle
  unfold Bench.answersAlike
  unfold Bench.feed setupStep at ok ⊢
  dsimp only at *
  rw [packet] at ok ⊢
  dsimp only at ok ⊢
  refine ⟨?_, along.reason, fun followed => along.settles ok followed _⟩
  rw [← along.verdict]
  cases (handleOut b d bRequest wValue wIndex 0).2 <;> rfl

theorem Agrees.inp_answer (h : Agrees b t) (reached : Reachable b t.machine)
    (wValue wIndex wLength : UInt16) :
    t.answersAlike b (.inp bRequest wValue wIndex wLength) ∧
      (t.feed b (.inp bRequest wValue wIndex wLength)).machine.dev.lastError =
        (t.feed b (.inp bRequest wValue wIndex wLength)).fake.lastError ∧
      Settles b (t.feed b (.inp bRequest wValue wIndex wLength)) := by
  obtain ⟨along, replies⟩ := @handleIn_answered b t True bRequest wIndex wLength (t.env .still) h reached
  have ok := (reach_ok (feed_reached (.inp bRequest wValue wIndex wLength) reached)).dev
  have served := handleSetup_inCode b (t.env .still) t.machine.dev bRequest wValue wIndex wLength
  have packet : handleSetup b (t.env .still) t.machine.dev (inPacket bRequest wValue wIndex wLength) = _ :=
    served
  have idle := h.idle
  obtain ⟨⟨d, pc, log⟩, f, pads, fed, ms⟩ := t
  obtain rfl : pc = .idle := idle
  unfold Bench.answersAlike
  unfold Bench.feed setupStep at ok ⊢
  dsimp only at *
  rw [packet] at ok ⊢
  exact ⟨replies, along.reason, along.settles ok trivial _⟩

/-- The answers to a stimulus. -/
theorem Agrees.answers (h : Agrees b t) (reached : Reachable b t.machine) (s : Stimulus) :
    t.answersAlike b s ∧ (t.feed b s).machine.dev.lastError = (t.feed b s).fake.lastError := by
  cases s with
  | out bRequest wValue wIndex =>
    obtain ⟨answers, reason, _⟩ := h.out_answer reached wValue wIndex
    exact ⟨answers, reason⟩
  | inp bRequest wValue wIndex wLength =>
    obtain ⟨answers, reason, _⟩ := h.inp_answer reached wValue wIndex wLength
    exact ⟨answers, reason⟩
  | level pin high =>
    obtain ⟨watches, queue, dropped, frame⟩ := setDigital_frame t.fake pin high
    refine ⟨trivial, ?_⟩
    change _ = (t.fake.setDigital pin high).lastError
    rw [frame]
    exact h.matched.lastError.symm

theorem Agrees.step (h : Agrees b t) (reached : Reachable b t.machine) (faithful : t.faithful b act = true) :
    Agrees b (t.step b act) := by
  unfold Bench.faithful Bench.complete at faithful
  cases act with
  | clock ms =>
    obtain ⟨twins, events⟩ := h.events
    exact ⟨h.idle, h.calm, ⟨h.matched.board, h.matched.faults, h.matched.mode, h.matched.lastError,
      h.matched.levels, rfl, h.matched.running, h.matched.selected, h.matched.flags,
      h.matched.periodUs⟩, h.inputs, ⟨twins, events.congr rfl rfl rfl⟩⟩
  | poll rs =>
    obtain ⟨complete, streams⟩ := Bool.and_eq_true_iff.mp faithful
    exact h.settles (reach_ok reached).dev rs complete streams
  | stimulus s rs =>
    simp only [Bool.and_eq_true] at faithful
    obtain ⟨⟨feedable, complete⟩, followed, streams⟩ := faithful
    cases s with
    | out bRequest wValue wIndex =>
      exact (h.out_answer reached wValue wIndex).2.2 followed rs complete streams
    | inp bRequest wValue wIndex wLength =>
      exact (h.inp_answer reached wValue wIndex wLength).2.2 rs complete streams
    | level pin high => exact h.level_settles reached feedable followed rs complete streams

theorem start_agrees (b : Board) : Agrees b (.start b) := by
  obtain ⟨caps, nAin, booted, _⟩ := boot_dev b
  have dev : (Bench.start b).machine.dev = (boot b).dev := rfl
  refine ⟨rfl, ?_, ?_, fun p _ input => ?_, [], ?_⟩
  · rw [dev, booted]
    exact ⟨rfl, rfl⟩
  · rw [dev, booted]
    exact ⟨rfl, rfl, rfl, rfl, ⟨fun _ _ => rfl, fun p output => absurd output (by simp [UsbIoDevice.init]),
      fun _ _ => rfl, fun _ _ _ => rfl⟩, rfl, rfl, rfl, rfl, rfl⟩
  · rw [dev, booted] at input
    contradiction
  · rw [dev, booted]
    exact ⟨liveFrom_self.symm, rfl, rfl, fun i => ⟨fun inside => absurd inside List.not_mem_nil,
      fun both => absurd both.2 Bool.false_ne_true⟩, .nil, fun x inside => absurd inside List.not_mem_nil⟩

end Steps

/-- A run of the two side by side. -/
abbrev Benched (b : Board) (guard : Bench → BenchAct → Bool) : Bench → Prop :=
  Lib.Reach (Bench.step b) (fun t act => guard t act = true) (.start b)

/-- Fake and firmware answer alike as long as the fake follows. -/
theorem fake_follows_firmware (b : Board) (t : Bench) (reached : Benched b (Bench.faithful b) t)
    (s : Stimulus) :
    t.answersAlike b s ∧ (t.feed b s).machine.dev.lastError = (t.feed b s).fake.lastError := by
  obtain ⟨agrees, ran⟩ : Agrees b t ∧ Reachable b t.machine := by
    refine reached.invariant (I := fun t => Agrees b t ∧ Reachable b t.machine)
      ⟨start_agrees b, .refl⟩ ?_
    rintro t act ⟨agrees, ran⟩ faithful
    exact ⟨agrees.step ran faithful, step_reached act ran⟩
  exact agrees.answers ran s

/-- As many readings as a poll() of one pin takes at most. -/
def oneReturn : List PollRead := List.replicate 80 .still

/-- Pin 0 is watched for any change and goes high. -/
def watchedRise : List BenchAct :=
  [.stimulus (.out Request.pinMode.code 0 0) oneReturn,
   .stimulus (.out Request.eventConfig.code 3 0) oneReturn,
   .clock 5,
   .stimulus (.level 0 true) oneReturn]

/-- Then EVENT_POP brings the edge from both. -/
theorem fake_follows_firmware_one_edge :
    (watchedRise.foldl (Bench.step onePinBoard) (.start onePinBoard)).answersAlike onePinBoard
      (.inp Request.eventPop.code 0 0 60) :=
  (fake_follows_firmware onePinBoard _
    (@Lib.Follows.reach _ _ _ _ _ watchedRise (by decide +kernel)) (.inp Request.eventPop.code 0 0 60)).1

/-- Pin 0 streams when its PIN_MODE is sent again. -/
def modeWhileStreaming : List BenchAct :=
  [.stimulus (.out Request.pinMode.code 0 0) oneReturn,
   .stimulus (.out Request.streamSelect.code 1 0) oneReturn,
   .stimulus (.out Request.streamStart.code 1000 0) oneReturn,
   .stimulus (.out Request.pinMode.code 0 0) oneReturn]

/-- The firmware then stops the stream, the fake does not. -/
theorem mode_change_splits_fake :
    ¬ ∀ (b : Board) (t : Bench), b.hasStreamTransport = true → Benched b (Bench.complete b) t →
      ∀ s : Stimulus, t.answersAlike b s ∧
        (t.feed b s).machine.dev.lastError = (t.feed b s).fake.lastError := by
  intro claim
  have both := claim onePinBoard _ rfl
    (@Lib.Follows.reach _ _ _ _ _ modeWhileStreaming (by decide +kernel))
    (.inp Request.streamStatus.code 0 0 16)
  exact absurd both.1 (by decide +kernel)

end ArduinoDriver
