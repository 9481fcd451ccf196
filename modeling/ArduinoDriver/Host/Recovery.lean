import ArduinoDriver.Host.Serving

namespace ArduinoDriver

open Lib (Triple addAll addLast admitted dropped)

variable {b : Board} {env : Env} {d : UsbIoDevice} {host : List UInt8 × Bool} {l : List Nat}
  {ok : Nat → Bool} {config : StreamConfig}

/-- The device takes STREAM_SELECT of `pin`. -/
def Takes (ok : Nat → Bool) (l : List Nat) (adds : Bool) (pin : Nat) : Prop :=
  ok pin ∧ (adds → pin ∈ l ∨ l.length < maxStreamChannels)

theorem Idle.takes (h : Idle b ok l d) (streams : b.streams) (adds : Bool) (pin : UInt8) :
    (handleStreamSelect d (if adds then 1 else 0) pin.toUInt16).2 = true ↔ Takes ok l adds pin.toNat := by
  obtain ⟨ready, stopped⟩ := h
  have flag := ready.streaming streams
  obtain ⟨_, able, rfl⟩ := ready
  have small : ¬ (1 : UInt16) < (if adds then 1 else 0) := by cases adds <;> decide
  have value : (if adds then (1 : UInt16) else 0) ≠ 0 ↔ adds := by cases adds <;> decide
  rw [handleStreamSelect_accepts, UInt8.toNat_toUInt16, able, value]
  unfold Takes
  tauto

/-- STREAM_SELECT of a pin the device takes. -/
theorem select_takes (streams : b.streams) (distinct : l.Nodup) {adds : Bool} {pin : UInt8}
    (takes : Takes ok l adds pin.toNat) :
    Triple (Serving b host (Idle b ok l)) (Device.select adds pin)
      (fun _ => Serving b host (Idle b ok (selecting adds l pin.toNat))) (fun _ _ => False) := by
  refine (sendOut_serving (.never b) (control_serving (Q := fun _ => Idle b ok (selecting adds l pin.toNat))
    (idle_steady b ok l) ?_ ?_)).conseq (fun _ h => h) (fun _ _ h => h) (fun _ _ h => h.impossible)
  · intro env d _ h _
    have accepted := (h.takes streams adds pin).mpr takes
    obtain ⟨⟨identity, able, rfl⟩, stopped⟩ := h
    obtain ⟨same, mode, running⟩ := handleStreamSelect_frame d (if adds then 1 else 0) pin.toUInt16
    have selected := handleStreamSelect_selection (if adds then 1 else 0) pin.toUInt16 distinct
    have value : decide ((if adds then (1 : UInt16) else 0) ≠ 0) = adds := by cases adds <;> decide
    rw [accepted, if_pos rfl, value, UInt8.toNat_toUInt16] at selected
    rw [(handleSetup_stream streams env d _ _).1]
    exact ⟨⟨same.trans identity, fun p => (streamable_congr same mode p).trans (able p), selected⟩,
      running.trans stopped⟩
  · intro env d h stalled
    rw [(handleSetup_stream streams env d _ _).1] at stalled
    simp [(h.takes streams adds pin).mpr takes] at stalled

/-- STREAM_SELECT of a pin the device does not take. -/
theorem select_refuses (streams : b.streams) (distinct : l.Nodup) {adds : Bool} {pin : UInt8}
    (refuses : ¬ Takes ok l adds pin.toNat) :
    Triple (Serving b host (Idle b ok l)) (Device.select adds pin) (fun _ _ => False)
      (fun _ => Serving b host (Idle b ok l)) := by
  refine (sendOut_serving (idle_steady b ok l) (control_serving (Q := fun _ _ => False)
    (idle_steady b ok l) ?_ ?_)).conseq (fun _ h => h) (fun _ _ h => h.impossible) (fun _ _ h => h)
  · intro env d _ h answered
    rw [(handleSetup_stream streams env d _ _).1] at answered
    have refused := (h.takes streams adds pin).not.mpr refuses
    simp [refused] at answered
  · intro env d h _
    have refused := (h.takes streams adds pin).not.mpr refuses
    obtain ⟨⟨identity, able, rfl⟩, stopped⟩ := h
    obtain ⟨same, mode, running⟩ := handleStreamSelect_frame d (if adds then 1 else 0) pin.toUInt16
    have selected := handleStreamSelect_selection (if adds then 1 else 0) pin.toUInt16 distinct
    rw [if_neg refused] at selected
    rw [(handleSetup_stream streams env d _ _).1]
    exact ⟨⟨same.trans identity, fun p => (streamable_congr same mode p).trans (able p), selected⟩,
      running.trans stopped⟩

/-- A best-effort removal succeeds for a pin in a streamable mode, and does nothing
for another. -/
theorem deselect_idle (streams : b.streams) (distinct : l.Nodup) {wanted : List Nat} {pin : UInt8}
    (unwanted : pin.toNat ∉ wanted) :
    Triple (Serving b host (Idle b ok l)) (Device.deselect pin)
      (fun _ => Serving b host (Idle b ok (dropped ok wanted [pin.toNat] l)))
      (fun (_ : Error) _ => False) := by
  by_cases able : ok pin.toNat
  · have takes : Takes ok l false pin.toNat := ⟨able, Bool.noConfusion⟩
    have leaves : selecting false l pin.toNat = dropped ok wanted [pin.toNat] l := by
      unfold selecting dropped
      rw [if_neg Bool.false_ne_true]
      apply List.filter_congr
      intro p _
      rw [Bool.eq_iff_iff]
      simp only [decide_eq_true_eq, List.mem_singleton]
      constructor
      · exact fun other => .inr (.inl other)
      · rintro (inside | other | unable) rfl
        · exact unwanted inside
        · exact other rfl
        · exact unable able
    rw [← leaves]
    exact .tryCatch (select_takes streams distinct takes) (fun _ => .never)
  · have stays : dropped ok wanted [pin.toNat] l = l := by
      unfold dropped
      rw [List.filter_eq_self]
      intro p _
      simp only [decide_eq_true_eq, List.mem_singleton]
      by_cases same : p = pin.toNat
      · exact .inr (.inr (same ▸ able))
      · exact .inr (.inl same)
    rw [stays]
    refine .tryCatch ((select_refuses streams distinct (fun takes => able takes.1)).conseq
      (fun _ h => h) (fun _ _ h => h.elim) (fun _ _ h => h)) (fun _ => ?_)
    exact .pure _ (fun _ h => h)

theorem deselectOther_idle (streams : b.streams) (distinct : l.Nodup) (pin : UInt8) :
    Triple (Serving b host (Idle b ok l)) (Device.deselectOther config pin)
      (fun _ => Serving b host (Idle b ok (dropped ok config.channels [pin.toNat] l)))
      (fun (_ : Error) _ => False) := by
  refine .ite (fun wanted => .pure _ ?_) (fun unwanted => deselect_idle streams distinct ?_)
  · have stays : dropped ok config.channels [pin.toNat] l = l := by
      unfold dropped
      rw [List.filter_eq_self]
      intro p _
      simp only [decide_eq_true_eq, List.mem_singleton]
      by_cases same : p = pin.toNat
      · exact .inl (same ▸ mem_channels.mpr wanted)
      · exact .inr (.inl same)
    rw [stays]
    exact fun _ h => h
  · exact fun inside => unwanted (mem_channels.mp inside)

/-- A loop of removals. -/
theorem drop_loop {wanted : List Nat} {f : UInt8 → Host Unit} (pins : List UInt8) (distinct : l.Nodup)
    (pass : ∀ p ∈ pins, ∀ l : List Nat, l.Nodup → Triple (Serving b host (Idle b ok l)) (f p)
      (fun _ => Serving b host (Idle b ok (dropped ok wanted [p.toNat] l))) (fun (_ : Error) _ => False)) :
    Triple (Serving b host (Idle b ok l)) (pins.forM f)
      (fun _ => Serving b host (Idle b ok (dropped ok wanted (pins.map UInt8.toNat) l)))
      (fun (_ : Error) _ => False) := by
  induction pins generalizing l with
  | nil =>
    rw [List.map_nil, Lib.dropped_nil]
    exact .pure _ (fun _ h => h)
  | cons p pins ih =>
    rw [List.map_cons, Lib.dropped_cons]
    exact .bind (pass p (List.mem_cons_self ..) l distinct)
      (fun _ => ih (Lib.dropped_nodup distinct) (fun q inside => pass q (List.mem_cons_of_mem _ inside)))

/-- The rollback removes every pin that was added. -/
theorem rollBack_idle (streams : b.streams) (distinct : l.Nodup) {added : List UInt8}
    (able : ∀ p ∈ added, ok p.toNat) (e : Error) :
    Triple (Serving b host (Idle b ok l)) (Device.rollBack added e) (fun _ _ => False)
      (fun _ => Serving b host (Idle b ok (l.filter (· ∉ added.map UInt8.toNat)))) := by
  have gone : dropped ok [] (added.reverse.map UInt8.toNat) l = l.filter (· ∉ added.map UInt8.toNat) := by
    unfold dropped
    apply List.filter_congr
    intro p _
    rw [Bool.eq_iff_iff]
    simp only [decide_eq_true_eq, List.map_reverse, List.mem_reverse, List.not_mem_nil, false_or]
    constructor
    · rintro (other | unable) inside
      · exact other inside
      · obtain ⟨q, found, rfl⟩ := List.mem_map.mp inside
        exact unable (able q found)
    · exact .inl
  rw [← gone]
  have removed := @drop_loop b host l ok [] Device.deselect added.reverse distinct
    (fun p _ l distinct => deselect_idle streams distinct List.not_mem_nil)
  refine .bind (removed.conseq (fun _ h => h) (fun _ _ h => h) (fun _ _ h => h.elim)) (fun _ => ?_)
  exact .throw _ (fun _ h => h)

/-- The selecting loop stops at the first pin the device does not take. -/
theorem selectPins_idle (streams : b.streams) (distinct : l.Nodup) (added pins : List UInt8) :
    Triple (Serving b host (Idle b ok l)) (Device.selectPins added pins)
      (fun r st => Serving b host
          (Idle b ok (addAll l (admitted ok maxStreamChannels l (pins.map UInt8.toNat)))) st ∧
        r.1.map UInt8.toNat =
          added.map UInt8.toNat ++ admitted ok maxStreamChannels l (pins.map UInt8.toNat) ∧
        (r.2 = none ↔ admitted ok maxStreamChannels l (pins.map UInt8.toNat) = pins.map UInt8.toNat))
      (fun _ _ => False) := by
  induction pins generalizing l added with
  | nil => exact .pure _ (fun _ h => ⟨h, by simp [admitted], by simp [admitted]⟩)
  | cons pin pins ih =>
    rw [List.map_cons, admitted]
    by_cases room : ok pin.toNat ∧ (pin.toNat ∈ l ∨ l.length < maxStreamChannels)
    · rw [if_pos room]
      have takes : Takes ok l true pin.toNat := ⟨room.1, fun _ => room.2⟩
      have one : Triple (Serving b host (Idle b ok l))
          (tryCatch (do Device.select true pin; return none) (fun e => return some e))
          (fun r st => Serving b host (Idle b ok (addLast l pin.toNat)) st ∧ r = none)
          (fun (_ : Error) _ => False) :=
        .tryCatch (.bind (select_takes streams distinct takes) (fun _ => .pure _ (fun _ h => ⟨h, rfl⟩)))
          (fun _ => .never)
      refine .bind one (fun r => .fact (fun none_ => ?_))
      subst none_
      refine (ih (Lib.addLast_nodup distinct) (added ++ [pin])).conseq (fun _ h => h) ?_ (fun _ _ h => h)
      rintro r st ⟨serving, pinned, ended⟩
      refine ⟨serving, ?_, ?_⟩
      · rw [pinned, List.map_append, List.map_singleton, List.append_assoc, List.singleton_append]
      · rw [ended, List.cons.injEq]
        simp
    · rw [if_neg room]
      have refuses : ¬ Takes ok l true pin.toNat := fun takes => room ⟨takes.1, takes.2 rfl⟩
      have one : Triple (Serving b host (Idle b ok l))
          (tryCatch (do Device.select true pin; return none) (fun e => return some e))
          (fun r st => Serving b host (Idle b ok l) st ∧ ∃ e, r = some e)
          (fun (_ : Error) _ => False) :=
        .tryCatch (.bind (select_refuses streams distinct refuses) (fun _ => .never))
          (fun e => .pure _ (fun _ h => ⟨h, e, rfl⟩))
      refine .bind one (fun r => .fact (fun some_ => ?_))
      obtain ⟨e, rfl⟩ := some_
      exact .pure _ (fun _ h => ⟨h, by simp, by simp⟩)

/-- A request that is always answered in full. -/
theorem rawIn_exact {I : UsbIoDevice → Prop} {Q : List UInt8 → UsbIoDevice → Prop} {req : Request}
    {index len : UInt16} (steady : Steady b I)
    (said : ∀ env d, I d → ∃ bytes, (handleSetup b env d (.inp req index len)).2 = some bytes ∧
      bytes.length = len.toNat ∧ Q bytes (handleSetup b env d (.inp req index len)).1) :
    Triple (Serving b host I) (rawIn req index len)
      (fun reply st => Serving b host (Q reply) st ∧ reply.length = len.toNat) (fun _ _ => False) := by
  have whole : Triple (Serving b host I) (control (.inp req index len))
      (fun reply => Serving b host (fun d => Q reply d ∧ reply.length = len.toNat))
      (fun _ => Serving b host (fun _ => False)) := by
    refine control_serving steady ?_ ?_
    · intro env d reply h answer
      obtain ⟨bytes, given, size, holds⟩ := said env d h
      rw [given] at answer
      obtain rfl := Option.some.inj answer
      exact ⟨holds, size⟩
    · intro env d h answer
      obtain ⟨bytes, given, _⟩ := said env d h
      rw [given] at answer
      contradiction
  refine .bind (whole.conseq (fun _ h => h) (fun _ _ h => h) (fun _ _ h => h.impossible)) (fun reply => ?_)
  refine .ite (fun long => .throw _ (fun _ h => ?_)) (fun _ => .pure _ (fun _ h => ?_))
  · exact absurd long (Nat.not_lt.mpr (Nat.le_of_eq h.device.2))
  · exact ⟨h.weaken (fun _ both => both.1), h.device.2⟩

/-- GET_STREAM_STATUS tells the number of channels and whether a stream runs. -/
theorem readStreamStatus_exact {I : UsbIoDevice → Prop} (streams : b.streams) (steady : Steady b I)
    (ready : ∀ d, I d → Ready b ok l d) :
    Triple (Serving b host I) Device.readStreamStatus
      (fun r st => Serving b host (fun d => I d ∧ r.running = d.stream.running) st ∧ r.nChannels.toNat = l.length)
      (fun _ _ => False) := by
  obtain ⟨transport, _⟩ := Bool.and_eq_true_iff.mp streams
  have told : Triple (Serving b host I) (rawIn .streamStatus 0 (UInt16.ofNat streamStatusLen))
      (fun reply st => Serving b host (fun d => I d ∧ (decodeStreamStatus reply).running = d.stream.running ∧
        (decodeStreamStatus reply).nChannels.toNat = l.length) st ∧ reply.length = 16)
      (fun _ _ => False) := by
    refine rawIn_exact steady ?_
    intro env d h
    have flag := (ready d h).streaming streams
    have said : replyBytes b env d Request.streamStatus.code 0 (UInt16.ofNat streamStatusLen) =
        (d, some (streamStatusBytes d.stream)) := by
      simp only [replyBytes, Request.ofCode_code, transport, flag, Bool.and_self, if_true]
    refine ⟨streamStatusBytes d.stream, ?_, rfl, ?_⟩
    · exact replyTo_whole (by decide) (congrArg Prod.snd said) (Nat.le_refl 16)
    · rw [handleSetup_inp, handleIn, said, decodeStreamStatus_bytes]
      exact ⟨h, rfl, by rw [← (ready d h).selection, StreamState.selection_length]⟩
  refine .bind told (fun reply => .fact (fun size => ?_))
  have long : ¬ reply.length < streamStatusLen := by rw [size]; decide
  refine .bind (Q := fun _ => _) (.ite (fun short => absurd short long) (fun _ => .pure _ (fun _ h => h)))
    (fun _ => .pure _ (fun _ h => ?_))
  exact ⟨h.weaken (fun _ both => ⟨both.1, both.2.1⟩), h.device.2.2⟩

/-- The channels are `l`, and a stream of them runs. -/
def Launched (b : Board) (ok : Nat → Bool) (l : List Nat) (d : UsbIoDevice) : Prop :=
  Ready b ok l d ∧ d.stream.running = true

/-- `flags` has no bits but those of usbio_stream_flags. -/
def StreamConfig.flagsKnown (config : StreamConfig) : Prop :=
  config.flags.toUInt16 &&& ~~~(streamFlagDigital ||| streamFlagStopOnOverrun).toUInt16 = 0

/-- STREAM_STOP is always accepted. -/
theorem stop_ready (streams : b.streams) :
    Triple (Serving b host (Ready b ok l)) (sendOut .streamStop 0 0) (fun _ => Serving b host (Idle b ok l))
      (fun _ _ => False) := by
  have stopped : ∀ env d, Ready b ok l d →
      handleSetup b env d (.out .streamStop 0 0) =
        ({ d with stream := { d.stream with running := false } }, some []) := by
    intro env d h
    have flag := h.streaming streams
    rw [(handleSetup_stream streams env d 0 0).2.2, handleStreamStop, flag]
    rfl
  refine (sendOut_serving (.never b) (control_serving (Q := fun _ => Idle b ok l) (ready_steady b ok l)
    ?_ ?_)).conseq (fun _ h => h) (fun _ _ h => h) (fun _ _ h => h.impossible)
  · intro env d _ h _
    rw [stopped env d h]
    exact ⟨h.frame ⟨rfl, rfl, rfl, rfl⟩ rfl rfl, rfl⟩
  · intro env d h stalled
    rw [stopped env d h] at stalled
    contradiction

/-- STREAM_START of a selection is refused for its flags only. -/
theorem start_idle (streams : b.streams) (some_ : l ≠ []) (period : UInt16) :
    Triple (Serving b host (Idle b ok l)) (sendOut .streamStart period config.flags.toUInt16)
      (fun _ st => Serving b host (Launched b ok l) st ∧ config.flagsKnown)
      (fun _ st => Serving b host (Idle b ok l) st ∧ ¬ config.flagsKnown) := by
  have accepts : ∀ d, Idle b ok l d →
      ((handleStreamStart d period config.flags.toUInt16).2 = true ↔ config.flagsKnown) := by
    intro d h
    have flag := h.1.streaming streams
    have stopped := h.2
    rw [handleStreamStart_accepts, h.1.selection]
    unfold StreamConfig.flagsKnown
    simp [flag, stopped, some_]
  have told : Triple (Serving b host (Idle b ok l)) (sendOut .streamStart period config.flags.toUInt16)
      (fun _ => Serving b host (fun d => Launched b ok l d ∧ config.flagsKnown))
      (fun _ => Serving b host (fun d => Idle b ok l d ∧ ¬ config.flagsKnown)) := by
    refine sendOut_serving ((idle_steady b ok l).and ⟨fun _ _ h => h, fun _ _ _ _ _ h => h⟩)
      (control_serving (Q := fun _ d => Launched b ok l d ∧ config.flagsKnown) (idle_steady b ok l) ?_ ?_)
    · intro env d _ h answer
      rw [(handleSetup_stream streams env d _ _).2.1] at answer ⊢
      have accepted : (handleStreamStart d period config.flags.toUInt16).2 = true := by
        by_contra refused
        simp [refused] at answer
      rcases handleStreamStart_cases d period config.flags.toUInt16 with ⟨reason, eq⟩ | eq
      · rw [eq] at accepted
        contradiction
      · rw [eq]
        exact ⟨⟨h.1.frame ⟨rfl, rfl, rfl, rfl⟩ rfl rfl, rfl⟩, (accepts d h).mp accepted⟩
    · intro env d h answer
      rw [(handleSetup_stream streams env d _ _).2.1] at answer ⊢
      have refused : ¬ (handleStreamStart d period config.flags.toUInt16).2 = true := by
        intro accepted
        simp [accepted] at answer
      rcases handleStreamStart_cases d period config.flags.toUInt16 with ⟨reason, eq⟩ | eq
      · rw [eq]
        exact ⟨⟨h.1.frame ⟨rfl, rfl, rfl, rfl⟩ rfl rfl, h.2⟩, (accepts d h).not.mp refused⟩
      · rw [eq] at refused
        contradiction
  refine told.conseq (fun _ h => h) ?_ ?_
  · exact fun _ _ h => ⟨h.weaken (fun _ both => both.1), h.device.2⟩
  · exact fun _ _ h => ⟨h.weaken (fun _ both => both.1), h.device.2⟩

/-- GET_TIME is always answered. -/
theorem getTime_idle (d : Device) :
    Triple (Serving b host (Idle b ok l)) (d.readIn .getTime 0 (UInt16.ofNat timeReplyLen) timeReplyLen)
      (fun _ => Serving b host (Idle b ok l)) (fun _ _ => False) := by
  have told : Triple (Serving b host (Idle b ok l)) (rawIn .getTime 0 (UInt16.ofNat timeReplyLen))
      (fun reply st => Serving b host (fun d => Idle b ok l d ∧ readU8 reply 0 = Status.ok.code) st ∧
        reply.length = 12) (fun _ _ => False) := by
    refine rawIn_exact (idle_steady b ok l) ?_
    intro env d h
    refine ⟨timeBytes env, replyTo_whole (by decide) rfl (Nat.le_refl 12), rfl, ?_, rfl⟩
    exact (idle_steady b ok l).asked env d _ _ _ h
  have once : ∀ again, Triple (Serving b host (Idle b ok l))
      (readInOnce .getTime 0 (UInt16.ofNat timeReplyLen) timeReplyLen again)
      (fun _ => Serving b host (Idle b ok l)) (fun _ _ => False) := by
    intro again
    refine .bind told (fun reply => .fact (fun size => ?_))
    refine .ite (fun empty => absurd (size.symm.trans empty) (by simp)) (fun _ => ?_)
    refine .ite (fun busy => ?_) (fun _ => .ite (fun bad => ?_) (fun _ => ?_))
    · intro st h
      have ok_ := h.device.2
      rw [busy] at ok_
      exact absurd ok_ (by decide)
    · exact .throw _ (fun st h => bad h.device.2)
    · exact .ite (fun short => absurd short (by rw [size]; decide))
        (fun _ => .pure _ (fun _ h => h.weaken (fun _ both => both.1)))
  unfold Device.readIn
  cases d.attempts - 1 with
  | zero => exact once _
  | succ left => exact once _

/-- What the second removal leaves. -/
def leftOver (ok : Nat → Bool) (config : StreamConfig) (n : Nat) (l : List Nat) : List Nat :=
  dropped ok config.channels (List.range n) l

/-- The second removal throws when something stays. -/
theorem clearStale_idle (streams : b.streams) (distinct : l.Nodup) (d : Device) :
    Triple (Serving b host (Idle b ok l)) (d.clearStale config)
      (fun _ st => Serving b host (Idle b ok (leftOver ok config d.info.nPins.toNat l)) st ∧
        (leftOver ok config d.info.nPins.toNat l).length = config.pins.length)
      (fun _ st => Serving b host (Idle b ok (leftOver ok config d.info.nPins.toNat l)) st ∧
        (leftOver ok config d.info.nPins.toNat l).length ≠ config.pins.length) := by
  have bytes : ((List.range d.info.nPins.toNat).map UInt8.ofNat).map UInt8.toNat = List.range d.info.nPins.toNat := by
    rw [List.map_map]
    refine (List.map_congr_left (fun p inside => ?_)).trans (List.map_id _)
    have below := (List.mem_range.mp inside).trans d.info.nPins.toNat_lt
    exact UInt8.toNat_ofNat_of_lt' below
  have loop : Triple (Serving b host (Idle b ok l))
      ((List.range d.info.nPins.toNat).forM (fun p => Device.deselectOther config (UInt8.ofNat p)))
      (fun _ => Serving b host (Idle b ok (leftOver ok config d.info.nPins.toNat l)))
      (fun (_ : Error) _ => False) := by
    have pass := @drop_loop b host l ok config.channels (Device.deselectOther config)
      ((List.range d.info.nPins.toNat).map UInt8.ofNat) distinct
      (fun p _ l distinct => deselectOther_idle streams distinct p)
    rw [bytes] at pass
    have same : (List.range d.info.nPins.toNat).forM (fun p => Device.deselectOther config (UInt8.ofNat p)) =
        ((List.range d.info.nPins.toNat).map UInt8.ofNat).forM (Device.deselectOther config) :=
      (List.forM_map).symm
    rw [same]
    exact pass
  refine .bind (loop.conseq (fun _ h => h) (fun _ _ h => h) (fun _ _ h => h.elim)) (fun _ => ?_)
  refine .bind ((readStreamStatus_exact streams (idle_steady b ok _) (fun _ h => h.1)).conseq
    (fun _ h => h) (fun _ _ h => h) (fun _ _ h => h.elim)) (fun status => .fact (fun count => ?_))
  unfold refuseIf
  rw [count]
  refine .ite (fun wrong => .throw _ (fun _ h => ⟨h.weaken (fun _ both => both.1), wrong⟩)) (fun right => ?_)
  exact .pure _ (fun _ h => ⟨h.weaken (fun _ both => both.1), not_not.mp right⟩)

/-- launch() starts exactly the wanted pins, or throws without starting anything. -/
theorem launch_idle (streams : b.streams) (distinct : l.Nodup) (asked : config.pins.Nodup)
    (some_ : config.pins ≠ []) (inside : config.channels ⊆ l) (d : Device) :
    Triple (Serving b host (Idle b ok l)) (d.launch config)
      (fun _ st => Serving b host (Launched b ok (leftOver ok config d.info.nPins.toNat l)) st ∧
        (leftOver ok config d.info.nPins.toNat l).length = config.pins.length ∧ config.flagsKnown)
      (fun _ st => Serving b host (Idle b ok (leftOver ok config d.info.nPins.toNat l)) st ∧
        ¬ ((leftOver ok config d.info.nPins.toNat l).length = config.pins.length ∧ config.flagsKnown)) := by
  have fresh : config.channels.Nodup := asked.map (fun _ _ same => UInt8.toNat_inj.mp same)
  have size : config.channels.length = config.pins.length := List.length_map ..
  have nothing : l.length = config.pins.length → leftOver ok config d.info.nPins.toNat l = l := by
    intro count
    have perm := (fresh.subperm inside).perm_of_length_le (by omega)
    unfold leftOver dropped
    rw [List.filter_eq_self]
    intro p held
    simp [perm.symm.subset held]
  refine .bind ((readStreamStatus_exact streams (idle_steady b ok l) (fun _ h => h.1)).conseq
    (fun _ h => h) (fun _ _ h => h) (fun _ _ h => h.elim)) (fun status => .fact (fun count => ?_))
  have cleared := @clearStale_idle b host l ok config streams distinct d
  generalize leftOver ok config d.info.nPins.toNat l = l' at *
  have settled : Triple
      (Serving b host (fun d => Idle b ok l d ∧ status.running = d.stream.running))
      (if status.nChannels.toNat ≠ config.pins.length then d.clearStale config else pure ())
      (fun _ st => Serving b host (Idle b ok l') st ∧ l'.length = config.pins.length)
      (fun _ st => Serving b host (Idle b ok l') st ∧
        ¬ (l'.length = config.pins.length ∧ config.flagsKnown)) := by
    refine .ite (fun _ => ?_) (fun enough => ?_)
    · exact cleared.conseq (fun _ h => h.weaken (fun _ both => both.1)) (fun _ _ h => h)
        (fun _ _ h => ⟨h.1, fun both => h.2 both.1⟩)
    · have right : l.length = config.pins.length := count.symm.trans (not_not.mp enough)
      rw [nothing right]
      exact .pure _ (fun _ h => ⟨h.weaken (fun _ both => both.1), right⟩)
  refine .bind settled (fun _ => .fact (fun right => ?_))
  have held : l' ≠ [] := by
    rintro rfl
    exact some_ (List.length_eq_zero_iff.mp right.symm)
  refine .bind ((getTime_idle d).conseq (fun _ h => h) (fun _ _ h => h) (fun _ _ h => h.elim)) (fun reply => ?_)
  refine .bind ((start_idle streams held _).conseq (fun _ h => h) (fun _ _ h => h)
    (fun _ _ h => ⟨h.1, fun both => h.2 both.2⟩)) (fun _ => .pure _ (fun _ h => ⟨h.1, right, h.2⟩))

/-- The channels the device still holds once start_stream() has removed the unwanted ones
of `remembered`. -/
def stillHeld (ok : Nat → Bool) (config : StreamConfig) (remembered : List UInt8) (l : List Nat) : List Nat :=
  dropped ok config.channels (remembered.map UInt8.toNat) l

/-- The pins of the configuration that the device takes before it refuses one. -/
def taken (ok : Nat → Bool) (config : StreamConfig) (held : List Nat) : List Nat :=
  admitted ok maxStreamChannels held config.channels

/-- The channels a failed start leaves. -/
def outlasting (ok : Nat → Bool) (config : StreamConfig) (held : List Nat) : List Nat :=
  held.filter (fun p => p ∉ taken ok config held ∧ ¬ (taken ok config held = config.channels ∧ ok p))

/-- What start_stream() needs to succeed. -/
def Starts (ok : Nat → Bool) (config : StreamConfig) (held : List Nat) : Prop :=
  taken ok config held = config.channels ∧ outlasting ok config held = [] ∧ config.flagsKnown

theorem outlasting_all {held : List Nat} (all : taken ok config held = config.channels) :
    outlasting ok config held = held.filter (fun p => p ∉ config.channels ∧ ¬ ok p) := by
  unfold outlasting
  simp [all]

/-- A start that all pins got as far as, and its rollback. -/
theorem launched_all (streams : b.streams) {held : List Nat} (distinct : held.Nodup) (d : Device)
    (passes : Passes d config) (known : ∀ p ∈ held, p < d.info.nPins.toNat)
    (all : taken ok config held = config.channels) {added : List UInt8}
    (pinned : added.map UInt8.toNat = config.channels) :
    Triple (Serving b host (Idle b ok (addAll held config.channels))) (d.launchOrRollBack config added none)
      (fun _ st => Serving b host (Launched b ok (leftOver ok config d.info.nPins.toNat
          (addAll held config.channels))) st ∧ Starts ok config held)
      (fun _ st => Serving b host (Idle b ok (outlasting ok config held)) st ∧ ¬ Starts ok config held) := by
  have fresh : config.channels.Nodup := passes.distinct.map (fun _ _ same => UInt8.toNat_inj.mp same)
  have ranged : ∀ p ∈ held, p ∈ List.range d.info.nPins.toNat :=
    fun p inside => List.mem_range.mpr (known p inside)
  have perm := @Lib.dropped_addAll_perm _ _ ok _ _ _ distinct fresh ranged
  have size : (leftOver ok config d.info.nPins.toNat (addAll held config.channels)).length =
      config.pins.length ↔ outlasting ok config held = [] := by
    have total := perm.length_eq
    have same : config.channels.length = config.pins.length := List.length_map ..
    rw [outlasting_all all, ← List.length_eq_zero_iff]
    rw [List.length_append] at total
    unfold leftOver
    omega
  have able : ∀ p ∈ added, ok p.toNat := by
    intro p inside
    have joined : p.toNat ∈ taken ok config held := by
      rw [all, ← pinned]
      exact List.mem_map_of_mem inside
    exact Lib.admitted_allowed joined
  have back : (leftOver ok config d.info.nPins.toNat (addAll held config.channels)).filter
      (· ∉ added.map UInt8.toNat) = outlasting ok config held := by
    rw [pinned, outlasting_all all]
    exact Lib.dropped_takeBack ranged
  have inside : config.channels ⊆ addAll held config.channels := fun p wanted => Lib.mem_addAll.mpr (.inr wanted)
  have launched := @launch_idle b host _ ok config streams (Lib.addAll_nodup distinct) passes.distinct
    passes.some_ inside d
  refine .tryCatch (launched.conseq (fun _ h => h) (fun _ _ h => ⟨h.1, all, size.mp h.2.1, h.2.2⟩)
    (fun _ _ h => h)) (fun e => .fact (fun failed => ?_))
  rw [← back]
  refine (rollBack_idle streams (Lib.dropped_nodup (Lib.addAll_nodup distinct)) able e).conseq (fun _ h => h)
    (fun _ _ h => h.elim) (fun _ _ h => ⟨h, fun starts => failed ⟨size.mpr starts.2.1, starts.2.2⟩⟩)

/-- start_stream() behind its local checks: it starts, or leaves what outlasts it. -/
theorem startStream_serving (streams : b.streams) (distinct : l.Nodup) (d : Device) (passes : Passes d config)
    (known : ∀ p ∈ l, p < d.info.nPins.toNat) (remembered : List UInt8) :
    Triple (fun st => Serving b (remembered, false) (Ready b ok l) st ∧ d.checkConfig config st = .ok () st)
      (d.startStream config)
      (fun _ st => Serving b (config.pins, true) (Launched b ok (leftOver ok config d.info.nPins.toNat
          (addAll (stillHeld ok config remembered l) config.channels))) st ∧
        Starts ok config (stillHeld ok config remembered l))
      (fun _ st => Serving b (remembered, false)
          (Idle b ok (outlasting ok config (stillHeld ok config remembered l))) st ∧
        ¬ Starts ok config (stillHeld ok config remembered l)) := by
  have fresh : config.channels.Nodup := passes.distinct.map (fun _ _ same => UInt8.toNat_inj.mp same)
  have checked : Triple
      (fun st => Serving b (remembered, false) (Ready b ok l) st ∧ d.checkConfig config st = .ok () st)
      (d.checkConfig config) (fun _ => Serving b (remembered, false) (Ready b ok l)) (fun _ _ => False) := by
    rintro st ⟨serving, passed⟩
    rw [passed]
    exact serving
  refine .bind (checked.conseq (fun _ h => h) (fun _ _ h => h) (fun _ _ h => h.elim)) (fun _ => ?_)
  refine .bind ((readStreamStatus_exact streams (ready_steady b ok l) (fun _ h => h)).conseq
    (fun _ h => h) (fun _ _ h => h.1) (fun _ _ h => h.elim)) (fun status => ?_)
  have stopped : Triple
      (Serving b (remembered, false) (fun d => Ready b ok l d ∧ status.running = d.stream.running))
      (if status.running then sendOut .streamStop 0 0 else pure ())
      (fun _ => Serving b (remembered, false) (Idle b ok l)) (fun _ _ => False) := by
    refine .ite (fun _ => ?_) (fun still => .pure _ (fun _ h => h.weaken (fun d both => ?_)))
    · exact (stop_ready streams).conseq (fun _ h => h.weaken (fun _ both => both.1)) (fun _ _ h => h)
        (fun _ _ h => h)
    · exact ⟨both.1, both.2.symm.trans (Bool.eq_false_iff.mpr still)⟩
  refine .bind (stopped.conseq (fun _ h => h) (fun _ _ h => h) (fun _ _ h => h.elim)) (fun _ => ?_)
  refine .bind .get (fun st₀ => ?_)
  have cleared : Triple (fun st => st₀ = st ∧ Serving b (remembered, false) (Idle b ok l) st)
      (st₀.selected.forM (Device.deselectOther config))
      (fun _ => Serving b (remembered, false) (Idle b ok (stillHeld ok config remembered l)))
      (fun (_ : Error) _ => False) := by
    rintro st ⟨rfl, h⟩
    have mine : st₀.selected = remembered := congrArg Prod.fst h.known
    rw [mine]
    exact drop_loop remembered distinct (fun p _ l distinct => deselectOther_idle streams distinct p) st₀ h
  refine .bind (cleared.conseq (fun _ h => h) (fun _ _ h => h) (fun _ _ h => h.elim)) (fun _ => ?_)
  have distinct' : (stillHeld ok config remembered l).Nodup := Lib.dropped_nodup distinct
  have known' : ∀ p ∈ stillHeld ok config remembered l, p < d.info.nPins.toNat :=
    fun p inside => known p (List.mem_filter.mp inside).1
  generalize stillHeld ok config remembered l = held at *
  refine .bind ((selectPins_idle streams distinct' [] config.pins).conseq (fun _ h => h) (fun _ _ h => h)
    (fun _ _ h => h.elim)) (fun r => ?_)
  obtain ⟨added, failed⟩ := r
  refine .fact (fun outcome => ?_)
  obtain ⟨pinned, ended⟩ := outcome
  change added.map UInt8.toNat = taken ok config held at pinned
  change failed = none ↔ taken ok config held = config.channels at ended
  have started : Triple (Serving b (remembered, false) (Idle b ok (addAll held (taken ok config held))))
      (d.launchOrRollBack config added failed)
      (fun _ st => Serving b (remembered, false) (Launched b ok (leftOver ok config d.info.nPins.toNat
          (addAll held config.channels))) st ∧ Starts ok config held)
      (fun _ st => Serving b (remembered, false) (Idle b ok (outlasting ok config held)) st ∧
        ¬ Starts ok config held) := by
    cases failed with
    | none =>
      have all := ended.mp rfl
      rw [all] at pinned ⊢
      exact launched_all streams distinct' d passes known' all pinned
    | some e =>
      have refused : taken ok config held ≠ config.channels := by
        intro all
        exact absurd (ended.mpr all) (by simp)
      have able : ∀ p ∈ added, ok p.toNat := fun p inside =>
        Lib.admitted_allowed (pinned ▸ List.mem_map_of_mem inside : p.toNat ∈ taken ok config held)
      have back : (addAll held (taken ok config held)).filter (· ∉ added.map UInt8.toNat) =
          outlasting ok config held := by
        rw [pinned, Lib.addAll_takeBack]
        unfold outlasting
        simp [refused]
      rw [← back]
      exact (rollBack_idle streams (Lib.addAll_nodup distinct') able e).conseq (fun _ h => h)
        (fun _ _ h => h.elim) (fun _ _ h => ⟨h, fun starts => refused starts.1⟩)
  refine .bind started (fun startTUs => ?_)
  rintro st ⟨h, starts⟩
  exact ⟨⟨h.board, h.alone, h.sound, rfl, h.device⟩, starts⟩

end ArduinoDriver
