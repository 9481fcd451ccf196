import ArduinoDriver.Firmware.Trace

namespace ArduinoDriver

/-- The device with one more command in its queue. -/
def UsbIoDevice.queued (d : UsbIoDevice) (cmd : Request) (pin : Nat) (value : UInt16) :
    UsbIoDevice :=
  { d with
    queue := Function.update d.queue (ringSlot queueDepth d.head) ⟨cmd, pin, d.epoch, value⟩
    head := d.head + 1 }

theorem enqueue_eq_some {d d' : UsbIoDevice} {cmd : Request} {pin : Nat} {value : UInt16} :
    enqueue d cmd pin value = some d' ↔
      d.queuePending.toNat < queueDepth ∧ d' = d.queued cmd pin value := by
  unfold enqueue UsbIoDevice.queued
  split
  · rename_i full
    simp only [reduceCtorEq, false_iff, not_and]
    intro room
    omega
  · rename_i room
    simp only [Option.some.injEq, Nat.not_le] at *
    exact ⟨fun h => ⟨room, h.symm⟩, fun h => h.2.symm⟩

/-- The intended mode a write asks for. -/
def Request.writeMode? : Request → Option PinMode
  | .dioWrite => some .output
  | .pwmWrite => some .pwm
  | .dacWrite => some .dac
  | _ => none

/-- The value queued for a request: DIO_WRITE keeps only whether it is zero. -/
def storedValue (req : Request) (value : UInt16) : UInt16 :=
  if req = .dioWrite then (if value ≠ 0 then 1 else 0) else value

/-- Everything a SETUP packet can do to the device, with what the log says of it. -/
inductive Served (b : Board) (env : Env) (d : UsbIoDevice) : UsbIoDevice → Obs → Prop where
  | refused (reason : Status) : Served b env d { d with lastError := reason } .stalled
  | read (req : Request) (index wLength : UInt16) (reply : List UInt8)
      (said : replyBytes b env d req.code index wLength = (d, some reply)) :
      Served b env d d (.answered req index (reply.take wLength.toNat))
  | status (index wLength : UInt16) :
      Served b env d { d with lastError := .ok }
        (.answered .getStatus index ((statusBytes d).take wLength.toNat))
  | popped (index wLength : UInt16) :
      Served b env d { d with event := (d.event.pop index).1 }
        (.answered .eventPop index ((d.event.pop index).2.take wLength.toNat))
  | reset (index value : UInt16) :
      Served b env d (requestReset d) (.accepted .reset index value)
  | unchanged (req : Request) (index value : UInt16)
      (settled : req = .streamSelect ∨ req = .eventConfig)
      (silent : req = .eventConfig → EdgeMode.ofCode? value.toUInt8 = some .off ∧
        d.event.watchIndex index.toNat = none)
      (chosen : req = .streamSelect →
        (d.stream.channelIndex index.toNat).isSome = decide (value ≠ 0)) :
      Served b env d d (.accepted req index value)
  | added (index value : UInt16) (idle : d.stream.running = false) (known : index.toNat < d.nPins)
      (fits : d.mode index.toNat = some .analogIn ∨ modeIsInput (d.mode index.toNat))
      (fresh : d.stream.channelIndex index.toNat = none)
      (room : d.stream.nChannels.toNat < maxStreamChannels) (adds : value ≠ 0) :
      Served b env d { d with stream := d.stream.addChannel index.toNat }
        (.accepted .streamSelect index value)
  | removed (index value : UInt16) (i : Nat) (idle : d.stream.running = false)
      (found : d.stream.channelIndex index.toNat = some i) (removes : value = 0) :
      Served b env d { d with stream := d.stream.removeChannel i }
        (.accepted .streamSelect index value)
  | started (index value : UInt16) (idle : d.stream.running = false)
      (selected : d.stream.nChannels ≠ 0) :
      Served b env d
        { d with stream := { d.stream with
            periodUs := value
            flags := index.toUInt8
            running := true
            startRequests := d.stream.startRequests + 1 } }
        (.accepted .streamStart index value)
  | stopped (index value : UInt16) :
      Served b env d { d with stream := { d.stream with running := false } }
        (.accepted .streamStop index value)
  | moded (index value : UInt16) (mode : PinMode) (named : PinMode.ofCode? value = some mode)
      (known : index.toNat < d.nPins) (allowed : modeAllowed b (d.caps index.toNat) mode)
      (room : d.queuePending.toNat < queueDepth) :
      Served b env d (recordMode (d.queued .pinMode index.toNat value) index.toNat mode)
        (.accepted .pinMode index value)
  | written (req : Request) (mode : PinMode) (index value : UInt16)
      (writes : req.writeMode? = some mode) (known : index.toNat < d.nPins)
      (intended : d.mode index.toNat = some mode) (room : d.queuePending.toNat < queueDepth) :
      Served b env d (d.queued req index.toNat (storedValue req value))
        (.accepted req index value)
  | unwatched (index value : UInt16) (i : Nat) (found : d.event.watchIndex index.toNat = some i)
      (off : EdgeMode.ofCode? value.toUInt8 = some .off) :
      Served b env d { d with event := (d.event.unwatch i).discard index.toNat }
        (.accepted .eventConfig index value)
  | rearmed (index value : UInt16) (i : Nat) (edge : EdgeMode) (known : index.toNat < d.nPins)
      (digital : hasCap (d.caps index.toNat) capDio) (input : modeIsInput (d.mode index.toNat))
      (found : d.event.watchIndex index.toNat = some i)
      (named : EdgeMode.ofCode? value.toUInt8 = some edge) (on : edge ≠ .off) :
      Served b env d
        { d with event := d.event.arm i index.toNat edge (value >>> 8).toUInt8 }
        (.accepted .eventConfig index value)
  | armed (index value : UInt16) (edge : EdgeMode) (known : index.toNat < d.nPins)
      (digital : hasCap (d.caps index.toNat) capDio) (input : modeIsInput (d.mode index.toNat))
      (fresh : d.event.watchIndex index.toNat = none)
      (room : d.event.nWatched.toNat < maxEventPins)
      (named : EdgeMode.ofCode? value.toUInt8 = some edge) (on : edge ≠ .off) :
      Served b env d
        { d with event := { d.event.arm d.event.freeSlot index.toNat edge (value >>> 8).toUInt8 with
            nWatched := d.event.nWatched + 1 } }
        (.accepted .eventConfig index value)

variable {b : Board} {env : Env} {d : UsbIoDevice}

/-- The outcome of an OUT handler: a refusal, or something `Served` lists. -/
def Handled (b : Board) (env : Env) (d : UsbIoDevice) (req : Request) (index value : UInt16)
    (r : UsbIoDevice × Bool) : Prop :=
  (∃ reason, r = stall d reason) ∨ r.2 = true ∧ Served b env d r.1 (.accepted req index value)

theorem Handled.stall (req : Request) (index value : UInt16) (reason : Status) :
    Handled b env d req index value (stall d reason) :=
  .inl ⟨reason, rfl⟩

theorem handlePinMode_handled {index value : UInt16} (known : index.toNat < d.nPins) :
    Handled b env d .pinMode index value (handlePinMode b d index.toNat value) := by
  unfold handlePinMode
  split
  · exact .stall ..
  · rename_i mode named
    split
    · exact .stall ..
    · rename_i allowed
      split
      · exact .stall ..
      · rename_i d₁ took
        obtain ⟨room, rfl⟩ := enqueue_eq_some.mp took
        exact .inr ⟨rfl, .moded index value mode named known (by simpa using allowed) room⟩

theorem handleWrite_handled {req : Request} {mode : PinMode} {limit : Nat} {index value : UInt16}
    (writes : req.writeMode? = some mode) (known : index.toNat < d.nPins) :
    Handled b env d req index value
      (handleWrite d req mode limit index.toNat (storedValue req value)) := by
  unfold handleWrite
  split
  · exact .stall ..
  · rename_i intended
    split
    · exact .stall ..
    · split
      · exact .stall ..
      · rename_i d₁ took
        obtain ⟨room, rfl⟩ := enqueue_eq_some.mp took
        exact .inr ⟨rfl, .written req mode index value writes known (by simpa using intended) room⟩

theorem handleEventConfig_handled {index value : UInt16} (known : index.toNat < d.nPins) :
    Handled b env d .eventConfig index value (handleEventConfig d index.toNat value) := by
  unfold handleEventConfig
  simp only
  split
  · rename_i off
    split
    · rename_i i found
      exact .inr ⟨rfl, .unwatched index value i found off⟩
    · rename_i unwatched
      exact .inr ⟨rfl, .unchanged .eventConfig index value (.inr rfl) (fun _ => ⟨off, unwatched⟩) (by simp)⟩
  · rename_i arms
    split
    · exact .stall ..
    · rename_i fits
      simp only [Bool.or_eq_true, Bool.not_eq_eq_eq_not, Bool.not_true, not_or,
        Bool.not_eq_false] at fits
      split
      · exact .stall ..
      · rename_i edge named
        have on : edge ≠ .off := by
          rintro rfl
          exact arms named
        split
        · rename_i i found
          exact .inr ⟨rfl, .rearmed index value i edge known fits.1 fits.2 found named on⟩
        · rename_i fresh
          split
          · exact .stall ..
          · rename_i room
            exact .inr ⟨rfl, .armed index value edge known fits.1 fits.2 fresh (by omega) named on⟩

theorem handleStreamSelect_handled (index value : UInt16) :
    Handled b env d .streamSelect index value (handleStreamSelect d value index) := by
  unfold handleStreamSelect
  simp only
  split
  · exact .stall ..
  · split
    · exact .stall ..
    · rename_i idle
      split
      · exact .stall ..
      · rename_i known
        split
        · exact .stall ..
        · rename_i fits
          split
          · exact .stall ..
          · split
            · rename_i adds
              split
              · rename_i found
                exact .inr ⟨rfl, .unchanged .streamSelect index value (.inl rfl) (by simp)
                  (by simp [found, adds])⟩
              · rename_i fresh
                split
                · exact .stall ..
                · rename_i room
                  refine .inr ⟨rfl, .added index value (by simpa using idle) (by omega) ?_
                    (by simpa using fresh) (by omega) adds⟩
                  simpa [Classical.or_iff_not_imp_left] using fits
            · rename_i removes
              split
              · rename_i missing
                exact .inr ⟨rfl, .unchanged .streamSelect index value (.inl rfl) (by simp)
                  (by simpa [missing] using removes)⟩
              · rename_i i found
                exact .inr ⟨rfl, .removed index value i (by simpa using idle) found
                  (by simpa using removes)⟩

theorem handleStreamStart_handled (index value : UInt16) :
    Handled b env d .streamStart index value (handleStreamStart d value index) := by
  unfold handleStreamStart
  split
  · exact .stall ..
  · split
    · exact .stall ..
    · rename_i idle
      split
      · exact .stall ..
      · rename_i selected
        split
        · exact .stall ..
        · split
          · exact .stall ..
          · exact .inr ⟨rfl, .started index value (by simpa using idle) selected⟩

theorem handleStreamStop_handled (index value : UInt16) :
    Handled b env d .streamStop index value (handleStreamStop d) := by
  unfold handleStreamStop
  split
  · exact .stall ..
  · exact .inr ⟨rfl, .stopped index value⟩

theorem handleOut_handled (b : Board) (env : Env) (d : UsbIoDevice) (bRequest : UInt8)
    (value index wLength : UInt16) :
    (∃ reason, handleOut b d bRequest value index wLength = stall d reason) ∨
      ∃ req, Request.ofCode? bRequest = some req ∧
        Handled b env d req index value (handleOut b d bRequest value index wLength) := by
  unfold handleOut
  simp only
  split
  · exact .inl ⟨_, rfl⟩
  · split
    case h_1 req => exact .inr ⟨.reset, req, .inr ⟨rfl, .reset index value⟩⟩
    case h_2 req =>
      refine .inr ⟨.streamSelect, req, ?_⟩
      split
      · exact handleStreamSelect_handled index value
      · exact .stall ..
    case h_3 req =>
      refine .inr ⟨.streamStart, req, ?_⟩
      split
      · exact handleStreamStart_handled index value
      · exact .stall ..
    case h_4 req =>
      refine .inr ⟨.streamStop, req, ?_⟩
      split
      · exact handleStreamStop_handled index value
      · exact .stall ..
    case h_5 req =>
      refine .inr ⟨.pinMode, req, ?_⟩
      split
      · exact .stall ..
      · exact handlePinMode_handled (by omega)
    case h_6 req =>
      refine .inr ⟨.dioWrite, req, ?_⟩
      split
      · exact .stall ..
      · exact @handleWrite_handled b env d .dioWrite _ _ _ _ rfl (by omega)
    case h_7 req =>
      refine .inr ⟨.pwmWrite, req, ?_⟩
      split
      · exact .stall ..
      · exact @handleWrite_handled b env d .pwmWrite _ _ _ _ rfl (by omega)
    case h_8 req =>
      refine .inr ⟨.dacWrite, req, ?_⟩
      split
      · exact .stall ..
      · exact @handleWrite_handled b env d .dacWrite _ _ _ _ rfl (by omega)
    case h_9 req =>
      refine .inr ⟨.eventConfig, req, ?_⟩
      split
      · exact .stall ..
      · exact handleEventConfig_handled (by omega)
    case h_10 => exact .inl ⟨_, rfl⟩

theorem handleIn_served (b : Board) (env : Env) (d : UsbIoDevice) (bRequest : UInt8)
    (index wLength : UInt16) :
    match (handleIn b env d bRequest index wLength).2, Request.ofCode? bRequest with
    | some reply, some req =>
      Served b env d (handleIn b env d bRequest index wLength).1 (.answered req index reply)
    | _, _ => Served b env d (handleIn b env d bRequest index wLength).1 .stalled := by
  cases named : Request.ofCode? bRequest with
  | none =>
    simp only [handleIn, replyBytes, named]
    exact .refused .badCmd
  | some req =>
    obtain rfl := Request.code_of_ofCode named
    cases req
    case streamStatus =>
      by_cases streams : (b.hasStreamTransport && hasFlag d.flags flagStreaming) = true
      · simp only [handleIn, replyBytes, named, streams, if_true, Option.map_some]
        exact .read .streamStatus index wLength _ (by simp only [replyBytes, named, streams, if_true])
      · simp only [handleIn, replyBytes, named, streams, Bool.false_eq_true, if_false, Option.map_none]
        exact .refused .unsupported
    all_goals
      simp only [handleIn, replyBytes, named, Option.map_some, Option.map_none]
      first
        | exact .status index wLength
        | exact .popped index wLength
        | exact .refused .badCmd
        | exact .read _ index wLength _ (by simp only [replyBytes, named])

theorem SetupPacket.obs_answered {s : SetupPacket} {r : Option (List UInt8)} {req : Request}
    {index : UInt16} {reply : List UInt8} (answered : s.obs r = .answered req index reply) :
    r = some reply ∧ s.isIn = true ∧ Request.ofCode? s.bRequest = some req ∧ index = s.index := by
  unfold SetupPacket.obs at answered
  split at answered
  · rename_i reply' req' named
    split at answered
    · rename_i asks
      injection answered with same_req same_index same_reply
      subst same_req same_index same_reply
      exact ⟨rfl, asks, named, rfl⟩
    · contradiction
  · contradiction

/-- An answer to an IN request is what the request's case put into _reply, cut at wLength. -/
theorem handleSetup_answered {s : SetupPacket} {req : Request} {index : UInt16} {reply : List UInt8}
    (said : s.obs (handleSetup b env d s).2 = .answered req index reply) :
    s.isIn = true ∧ Request.ofCode? s.bRequest = some req ∧ index = s.index ∧
      ∃ full, (replyBytes b env d s.bRequest s.index s.wLength).2 = some full ∧
        reply = full.take s.wLength.toNat := by
  obtain ⟨answered, asks, named, at_index⟩ := SetupPacket.obs_answered said
  have dispatched : (dispatch b env d s).2 = some reply →
      ∃ full, (replyBytes b env d s.bRequest s.index s.wLength).2 = some full ∧
        reply = full.take s.wLength.toNat := by
    unfold dispatch
    rw [asks, if_pos rfl]
    intro replied
    obtain ⟨full, written, rfl⟩ := Option.map_eq_some_iff.mp replied
    exact ⟨full, written, rfl⟩
  refine ⟨asks, named, at_index, ?_⟩
  unfold handleSetup at answered
  split at answered
  · contradiction
  · split at answered
    · exact dispatched answered
    · split at answered
      · split at answered
        · exact dispatched answered
        · contradiction
      · contradiction

/-- Every SETUP packet does one of the things `Served` lists. -/
theorem handleSetup_served (b : Board) (env : Env) (d : UsbIoDevice) (s : SetupPacket) :
    Served b env d (handleSetup b env d s).1 (s.obs (handleSetup b env d s).2) := by
  have ignored : Served b env d d .stalled := .refused d.lastError
  have dispatched : Served b env d (dispatch b env d s).1 (s.obs (dispatch b env d s).2) := by
    unfold dispatch SetupPacket.obs
    split
    · rename_i isIn
      have served := handleIn_served b env d s.bRequest s.index s.wLength
      cases replied : (handleIn b env d s.bRequest s.index s.wLength).2 <;>
        cases named : Request.ofCode? s.bRequest <;>
        simpa only [replied, named, isIn, if_true] using served
    · rename_i isOut
      rcases handleOut_handled b env d s.bRequest s.wValue s.index s.wLength with
        ⟨reason, eq⟩ | ⟨req, named, ⟨reason, eq⟩ | ⟨ok, served⟩⟩
      · simp only [eq, stall, Bool.false_eq_true, if_false]
        exact .refused reason
      · simp only [eq, stall, Bool.false_eq_true, if_false]
        exact .refused reason
      · simpa only [ok, named, if_true, isOut, if_false] using served
  unfold handleSetup
  split
  · exact ignored
  · split
    · exact dispatched
    · split
      · split
        · exact dispatched
        · exact .refused .unsupported
      · exact .refused .badCmd

end ArduinoDriver
