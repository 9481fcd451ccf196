import ArduinoDriver.Host.StreamCalls

namespace ArduinoDriver

open Lib (Program Conversation)

/-- The peer answers what it likes; the program may access what is there only. -/
def inBounds : Conversation DriverOp.Reply Unit where
  may _ op := match op with
    | .access index size => index < size
    | _ => True
  answers _ _ _ _ := True

/-- Whatever the device answers, every access is inside its buffer, and a value that is
returned is in `Q`. -/
def Driver.Safe {α : Type} (p : Driver α) (Q : α → Prop) : Prop :=
  p.Keeps inBounds (fun a _ => Q a) (fun _ _ => True) ()

/-- What the constructor ensures of the lengths the later reads rely on. -/
structure Device.WellFormed (d : Device) : Prop where
  few : d.info.nPins.toNat ≤ maxPins
  fewAnalog : d.info.nAin.toNat ≤ maxAin
  whole : d.caps.length = d.info.nPins.toNat

/-- What one bulk_in() delivers. -/
abbrev Chunk : Type := { bytes : List UInt8 // bytes.length ≤ chunkSize }

/-- A call that decodes what the device sends. -/
inductive Reading where
  | pin (call : PinCall)
  | allDigital
  | allAnalog
  | status
  | time
  | streamStatus
  | popEvents (maxEvents : UInt16)
  | pollEvents (rounds : Nat)
  | eventCounts
  /-- A stream whose worker gets `chunks`. -/
  | stream (config : StreamConfig) (chunks : List Chunk)

/-- The call, what it returns left out. -/
def Reading.perform (d : Device) : Reading → Driver Unit
  | .pin call => call.perform d
  | .allDigital => do let _ ← Driver.readAllDigital d
  | .allAnalog => do let _ ← Driver.readAllAnalog d
  | .status => do let _ ← Driver.status d
  | .time => do let _ ← Driver.readTime d
  | .streamStatus => do let _ ← Driver.pollStreamStatus
  | .popEvents maxEvents => do let _ ← Driver.popEventsOnce d maxEvents
  | .pollEvents rounds => do let _ ← Driver.pollEvents d rounds
  | .eventCounts => do let _ ← Driver.eventCounts d
  | .stream config chunks => do
    let handle ← Driver.startStream d config
    let _ ← Driver.passes (d.stream handle) (Worker.init, []) (chunks.map Subtype.val)
    Driver.endStream

/-- The constructor, and then calls whose errors the caller survives. -/
def Driver.session (options : DeviceOptions) (calls : List Reading) : Driver Unit := do
  let d ← construct options
  calls.forM (fun call => tryCatch (call.perform d) (fun _ => pure ()))

namespace Driver

variable {α β : Type} {p : Driver α} {f : α → Driver β} {Q Q' : α → Prop} {R : β → Prop}
  {bytes : List UInt8} {offset : Nat} {d : Device} {impl : StreamImpl}

theorem Safe.pure {a : α} (post : Q a) : Safe (Pure.pure a) Q := post

theorem Safe.throw {e : Error} : Safe (MonadExcept.throw e : Driver α) Q := trivial

theorem Safe.bind (h : p.Safe Q) (next : ∀ a, Q a → (f a).Safe R) : Safe (p >>= f) R :=
  Program.Keeps.bind h (fun a _ post => next a post)

theorem Safe.tryCatch {handler : Error → Driver α} (h : p.Safe Q) (caught : ∀ e, (handler e).Safe Q) :
    Safe (MonadExcept.tryCatch p handler) Q :=
  Program.Keeps.tryCatch h (fun e _ _ => caught e)

theorem Safe.ite {c : Prop} [Decidable c] {p' : Driver α} (then_ : c → p.Safe Q) (else_ : ¬ c → p'.Safe Q) :
    Safe (if c then p else p') Q :=
  Program.Keeps.ite then_ else_

theorem Safe.mono (h : p.Safe Q) (weaker : ∀ a, Q a → Q' a) : p.Safe Q' :=
  Program.Keeps.conseq h (fun a _ post => weaker a post) (fun _ _ h => h)

theorem Safe.done (h : p.Safe (fun _ => True)) : Safe (do let _ ← p : Driver Unit) (fun _ => True) :=
  h.bind (fun _ _ => trivial)

theorem Safe.forM {δ : Type} {body : δ → Driver PUnit} {l : List δ}
    (pass : ∀ x ∈ l, (body x).Safe (fun _ => True)) : Safe (l.forM body) (fun _ => True) :=
  Program.Keeps.forM (I := fun _ => True) (fun x inside _ _ => pass x inside) trivial

theorem Safe.each {δ : Type} {body : δ → Driver α} {l : List δ}
    (pass : ∀ x ∈ l, (body x).Safe (fun _ => True)) :
    Safe (Program.each body l) (fun as => as.length = l.length) :=
  Program.Keeps.conseq (Program.Keeps.each (I := fun _ => True) (fun x inside _ _ => pass x inside) trivial)
    (fun _ _ h => h.1) (fun _ _ h => h)

/-- An operation that is no access. -/
theorem Safe.perform {op : DriverOp} (allowed : inBounds.may () op) :
    Safe (Program.perform op : Driver op.Reply) (fun _ => True) :=
  ⟨allowed, fun _ _ _ => trivial⟩

theorem safe_refuseIf (bad : Prop) [Decidable bad] (e : Error) : (refuseIf bad e).Safe (fun _ => ¬ bad) :=
  .ite (fun _ => .throw) (fun good => .pure good)

theorem safe_transfer (s : SetupPacket) : (transfer s).Safe (fun _ => True) := by
  refine .bind (.perform trivial) (fun outcome _ => ?_)
  cases outcome with
  | ok reply => exact .pure trivial
  | error e => exact .throw

theorem safe_byteAt (inside : offset < bytes.length) : (byteAt bytes offset).Safe (fun _ => True) :=
  .bind (.perform inside) (fun _ _ => .pure trivial)

theorem safe_wordAt (inside : offset + 1 < bytes.length) : (wordAt bytes offset).Safe (fun _ => True) :=
  .bind (safe_byteAt (by omega)) (fun _ _ => .bind (safe_byteAt inside) (fun _ _ => .pure trivial))

theorem safe_longAt (inside : offset + 3 < bytes.length) : (longAt bytes offset).Safe (fun _ => True) :=
  .bind (safe_wordAt (by omega)) (fun _ _ => .bind (safe_wordAt inside) (fun _ _ => .pure trivial))

theorem safe_span {len size : Nat} (fits : len ≤ size) : (span len size).Safe (fun _ => True) := by
  refine .ite (fun _ => .pure trivial) (fun some_ => ?_)
  exact .bind (.perform (Nat.lt_of_lt_of_le (Nat.sub_one_lt some_) fits)) (fun _ _ => .pure trivial)

/-- raw_in() returns no more bytes than it asked for. -/
theorem safe_rawIn (req : Request) (index len : UInt16) :
    (rawIn req index len).Safe (fun reply => reply.length ≤ len.toNat) :=
  .bind (safe_transfer _) (fun _ _ => .ite (fun _ => .throw) (fun fits => .pure (Nat.not_lt.mp fits)))

theorem safe_sendOut (req : Request) (value index : UInt16) :
    (sendOut req value index).Safe (fun _ => True) := by
  refine .tryCatch (safe_transfer _).done (fun e => .ite (fun _ => .throw) (fun _ => ?_))
  refine .bind (safe_rawIn ..) (fun reply _ => .ite (fun _ => .throw) (fun whole => ?_))
  have inside : 2 < reply.length := by
    have enough : statusReplyLen ≤ reply.length := Nat.not_lt.mp whole
    exact Nat.lt_of_lt_of_le (by simp [statusReplyLen] : 2 < statusReplyLen) enough
  refine .bind (safe_byteAt inside) (fun reason _ => ?_)
  exact .ite (fun _ => .throw) (fun _ => .throw)

theorem safe_readInOnce {req : Request} {index len : UInt16} {minLen : Nat} {again : Driver (List UInt8)}
    (more : again.Safe (fun reply => minLen ≤ reply.length)) :
    (readInOnce req index len minLen again).Safe (fun reply => minLen ≤ reply.length) := by
  refine .bind (safe_rawIn ..) (fun reply _ => .ite (fun _ => .throw) (fun some_ => ?_))
  refine .bind (safe_byteAt (Nat.pos_of_ne_zero some_)) (fun status _ => .ite (fun _ => more) (fun _ => ?_))
  exact .ite (fun _ => .throw) (fun _ => .ite (fun _ => .throw) (fun long => .pure (Nat.not_lt.mp long)))

/-- read_in() returns no fewer bytes than it must. -/
theorem safe_readIn (d : Device) (req : Request) (index len : UInt16) (minLen : Nat) :
    (readIn d req index len minLen).Safe (fun reply => minLen ≤ reply.length) := by
  unfold readIn
  induction d.attempts - 1 with
  | zero => exact safe_readInOnce .throw
  | succ left ih => exact safe_readInOnce ih

theorem safe_checkNotStreaming (what : String) : (checkNotStreaming what).Safe (fun _ => True) :=
  .bind (.perform trivial) (fun _ _ => (safe_refuseIf _ _).mono (fun _ _ => trivial))

theorem safe_requireEvents (d : Device) (what : String) : (requireEvents d what).Safe (fun _ => True) :=
  (safe_refuseIf _ _).mono (fun _ _ => trivial)

theorem safe_checkMagic (bytes : List UInt8) (i : Nat) (magic : List UInt8)
    (long : i + magic.length ≤ bytes.length) : (checkMagic bytes i magic).Safe (fun _ => True) := by
  induction magic generalizing i with
  | nil => exact .pure trivial
  | cons expected magic ih =>
    rw [List.length_cons] at long
    refine .bind (safe_byteAt (by omega)) (fun byte _ => .bind (safe_refuseIf _ _) (fun _ _ => ?_))
    exact ih (i + 1) (by omega)

theorem safe_decodeInfo (bytes : List UInt8) : (decodeInfo bytes).Safe (fun _ => True) := by
  refine .bind (safe_refuseIf _ _) (fun _ short => ?_)
  have long : 24 ≤ bytes.length := Nat.not_lt.mp short
  refine .bind (safe_checkMagic bytes 0 usbioMagic (Nat.le_trans (by simp [usbioMagic]) long)) (fun _ _ => ?_)
  refine .bind (safe_wordAt (by omega)) (fun _ _ => .bind (safe_wordAt (by omega)) (fun _ _ => ?_))
  refine .bind (safe_byteAt (by omega)) (fun _ _ => .bind (safe_byteAt (by omega)) (fun _ _ => ?_))
  refine .bind (safe_byteAt (by omega)) (fun _ _ => .bind (safe_byteAt (by omega)) (fun _ _ => ?_))
  refine .bind (safe_byteAt (by omega)) (fun _ _ => .bind (safe_byteAt (by omega)) (fun _ _ => ?_))
  refine .bind (safe_wordAt (by omega)) (fun _ _ => .bind (safe_wordAt (by omega)) (fun _ _ => ?_))
  refine .bind (safe_wordAt (by omega)) (fun _ _ => .bind (safe_byteAt (by omega)) (fun _ _ => ?_))
  exact .bind (safe_byteAt (by omega)) (fun _ _ => .bind (safe_wordAt (by omega)) (fun _ _ => .pure trivial))

theorem safe_loadInfoOnce {again : Driver Info} (more : again.Safe (fun _ => True)) :
    (loadInfoOnce again).Safe (fun _ => True) := by
  refine .bind (safe_rawIn ..) (fun reply _ => .bind (safe_refuseIf _ _) (fun _ _ => ?_))
  refine .bind (safe_decodeInfo reply) (fun info _ => .bind (safe_refuseIf _ _) (fun _ _ => ?_))
  exact .ite (fun _ => .pure trivial) (fun _ => more)

/-- load_info() returns counts that fit the fixed buffers. -/
theorem safe_loadInfo (options : DeviceOptions) :
    (loadInfo options).Safe (fun info => info.nPins.toNat ≤ maxPins ∧ info.nAin.toNat ≤ maxAin) := by
  have loop : ∀ left, (loadInfoFrom options left).Safe (fun _ => True) := by
    intro left
    induction left with
    | zero => exact safe_loadInfoOnce .throw
    | succ left ih => exact safe_loadInfoOnce ih
  refine .bind (loop _) (fun info _ => .bind (safe_refuseIf _ _) (fun _ pins => ?_))
  refine .bind (safe_refuseIf _ _) (fun _ analog => .pure ⟨Nat.not_lt.mp pins, ?_⟩)
  exact Nat.not_lt.mp (fun many => analog (.inl many))

theorem safe_loadCaps {info : Info} (few : info.nPins.toNat ≤ maxPins) :
    (loadCaps info).Safe (fun table => table.1.length = info.nPins.toNat) := by
  refine .bind (safe_span few) (fun _ _ => .bind (safe_rawIn ..) (fun reply _ => ?_))
  refine .bind (safe_refuseIf _ _) (fun _ short => ?_)
  have table : Driver.Safe (Program.each (byteAt reply) (List.range info.nPins.toNat))
      (fun caps => caps.length = (List.range info.nPins.toNat).length) :=
    .each (fun pin inside => safe_byteAt (Nat.lt_of_lt_of_le (List.mem_range.mp inside) (Nat.not_lt.mp short)))
  refine .bind table (fun caps size => .bind (safe_refuseIf _ _) (fun _ _ => .pure ?_))
  rw [size, List.length_range]

/-- A Device the constructor returns is well formed. -/
theorem safe_construct (options : DeviceOptions) : (construct options).Safe Device.WellFormed := by
  refine .bind (safe_loadInfo options) (fun info counts => ?_)
  exact .bind (safe_loadCaps counts.1) (fun table size => .pure ⟨counts.1, counts.2, size⟩)

theorem safe_pinCaps (d : Device) (pin : UInt8) : (pinCaps d pin).Safe (fun _ => True) :=
  .bind (safe_refuseIf _ _) (fun _ known => safe_byteAt (Nat.not_le.mp known))

theorem safe_requireCaps (d : Device) (pin mask : UInt8) (feature : String) :
    (requireCaps d pin mask feature).Safe (fun _ => True) :=
  .bind (safe_pinCaps d pin) (fun _ _ => .bind (safe_refuseIf _ _) (fun _ _ => .pure trivial))

theorem safe_pinCall (d : Device) (call : PinCall) : (call.perform d).Safe (fun _ => True) := by
  cases call with
  | pinMode pin code =>
    refine .bind (safe_checkNotStreaming _) (fun _ _ => .bind (safe_pinCaps d pin) (fun caps _ => ?_))
    cases PinMode.ofCode? code.toUInt16 with
    | none => exact .throw
    | some mode =>
      exact .bind (safe_refuseIf _ _) (fun _ _ => .bind (safe_refuseIf _ _) (fun _ _ => safe_sendOut ..))
  | digitalWrite pin high =>
    exact .bind (safe_checkNotStreaming _) (fun _ _ => .bind (safe_requireCaps ..) (fun _ _ => safe_sendOut ..))
  | digitalRead pin =>
    refine .done (.bind (safe_checkNotStreaming _) (fun _ _ => .bind (safe_requireCaps ..) (fun _ _ => ?_)))
    refine .bind (safe_readIn ..) (fun reply long => ?_)
    exact .bind (safe_byteAt (Nat.lt_of_lt_of_le (by simp) long)) (fun _ _ => .pure trivial)
  | analogRead pin =>
    refine .done (.bind (safe_checkNotStreaming _) (fun _ _ => .bind (safe_requireCaps ..) (fun _ _ => ?_)))
    exact .bind (safe_readIn ..) (fun reply long => safe_wordAt (Nat.lt_of_lt_of_le (by simp) long))
  | pwmWrite pin duty =>
    refine .bind (safe_checkNotStreaming _) (fun _ _ => .bind (safe_requireCaps ..) (fun _ _ => ?_))
    exact .bind (safe_refuseIf _ _) (fun _ _ => safe_sendOut ..)
  | dacWrite pin value =>
    refine .bind (safe_checkNotStreaming _) (fun _ _ => .bind (safe_requireCaps ..) (fun _ _ => ?_))
    exact .bind (safe_refuseIf _ _) (fun _ _ => .bind (safe_refuseIf _ _) (fun _ _ => safe_sendOut ..))

theorem safe_readAllDigital (h : d.WellFormed) : (readAllDigital d).Safe (fun _ => True) := by
  have few := h.few
  refine .bind (safe_checkNotStreaming _) (fun _ _ => .bind (safe_span ?_) (fun _ _ => ?_))
  · unfold dioReadAllLen
    omega
  · refine .bind (safe_readIn ..) (fun reply long => Safe.mono (.each (fun pin inside => ?_)) (fun _ _ => trivial))
    have below := List.mem_range.mp inside
    refine .bind (safe_byteAt (Nat.lt_of_lt_of_le ?_ long)) (fun _ _ => .pure trivial)
    unfold dioReadAllLen
    omega

theorem safe_readAllAnalog (h : d.WellFormed) : (readAllAnalog d).Safe (fun _ => True) := by
  have few := h.fewAnalog
  refine .bind (safe_checkNotStreaming _) (fun _ _ => .bind (safe_span ?_) (fun _ _ => ?_))
  · unfold aiReadAllLen
    omega
  · refine .bind (safe_readIn ..) (fun reply long => Safe.mono (.each (fun i inside => ?_)) (fun _ _ => trivial))
    have below := List.mem_range.mp inside
    refine safe_wordAt (Nat.lt_of_lt_of_le ?_ long)
    unfold aiReadAllLen
    omega

theorem safe_status (d : Device) : (status d).Safe (fun _ => True) := by
  refine .bind (safe_checkNotStreaming _) (fun _ _ => .bind (safe_readIn ..) (fun reply long => ?_))
  have long' : 4 ≤ reply.length := long
  exact .bind (safe_byteAt (by omega)) (fun _ _ => .bind (safe_byteAt (by omega)) (fun _ _ => .pure trivial))

theorem safe_decodeTimeReply (long : 12 ≤ bytes.length) : (decodeTimeReply bytes).Safe (fun _ => True) := by
  refine .bind (safe_byteAt (by omega)) (fun _ _ => .bind (safe_longAt (by omega)) (fun _ _ => ?_))
  exact .bind (safe_longAt (by omega)) (fun _ _ => .pure trivial)

theorem safe_readTime (d : Device) : (readTime d).Safe (fun _ => True) :=
  .bind (safe_checkNotStreaming _)
    (fun _ _ => .bind (safe_readIn ..) (fun _ long => safe_decodeTimeReply long))

theorem safe_readStreamStatus : readStreamStatus.Safe (fun _ => True) := by
  refine .bind (safe_rawIn ..) (fun reply _ => .bind (safe_refuseIf _ _) (fun _ short => ?_))
  have long : 16 ≤ reply.length := Nat.not_lt.mp short
  refine .bind (safe_byteAt (by omega)) (fun _ _ => .bind (safe_byteAt (by omega)) (fun _ _ => ?_))
  refine .bind (safe_byteAt (by omega)) (fun _ _ => .bind (safe_byteAt (by omega)) (fun _ _ => ?_))
  refine .bind (safe_wordAt (by omega)) (fun _ _ => .bind (safe_longAt (by omega)) (fun _ _ => ?_))
  exact .bind (safe_longAt (by omega)) (fun _ _ => .pure trivial)

theorem safe_decodeEventHeader (long : eventHeaderLen ≤ bytes.length) :
    (decodeEventHeader bytes).Safe (fun _ => True) := by
  have long' : 4 ≤ bytes.length := long
  refine .bind (safe_byteAt (by omega)) (fun _ _ => .bind (safe_byteAt (by omega)) (fun _ _ => ?_))
  exact .bind (safe_byteAt (by omega)) (fun _ _ => .bind (safe_byteAt (by omega)) (fun _ _ => .pure trivial))

/-- An entry that is not cut off is decoded inside the reply. -/
theorem safe_decodeEvent {i n : Nat} (inside : i < n) (long : eventPopLen n ≤ bytes.length) :
    (decodeEvent bytes i).Safe (fun _ => True) := by
  have room : 4 + 8 * i + 8 ≤ bytes.length := by
    have := Nat.mul_le_mul_left 8 inside
    simp only [eventPopLen, eventHeaderLen, eventLen] at long
    omega
  refine .bind (safe_byteAt ?_) (fun _ _ => .bind (safe_byteAt ?_) (fun _ _ => ?_))
  · exact Nat.lt_of_lt_of_le (by simp only [eventHeaderLen, eventLen]; omega) room
  · exact Nat.lt_of_lt_of_le (by simp only [eventHeaderLen, eventLen]; omega) room
  · refine .bind (safe_wordAt ?_) (fun _ _ => .bind (safe_longAt ?_) (fun _ _ => .pure trivial))
    · exact Nat.lt_of_lt_of_le (by simp only [eventHeaderLen, eventLen]; omega) room
    · exact Nat.lt_of_lt_of_le (by simp only [eventHeaderLen, eventLen]; omega) room

theorem safe_decodeEventCount {i n : Nat} (inside : i < n) (long : eventCountsLen n ≤ bytes.length) :
    (decodeEventCount bytes i).Safe (fun _ => True) := by
  have room : 4 + 4 * i + 4 ≤ bytes.length := by
    have := Nat.mul_le_mul_left 4 inside
    simp only [eventCountsLen, eventHeaderLen, eventCountLen] at long
    omega
  refine .bind (safe_byteAt ?_) (fun _ _ => .bind (safe_byteAt ?_) (fun _ _ => ?_))
  · exact Nat.lt_of_lt_of_le (by simp only [eventHeaderLen, eventCountLen]; omega) room
  · exact Nat.lt_of_lt_of_le (by simp only [eventHeaderLen, eventCountLen]; omega) room
  · refine .bind (safe_wordAt ?_) (fun _ _ => .pure trivial)
    exact Nat.lt_of_lt_of_le (by simp only [eventHeaderLen, eventCountLen]; omega) room

theorem safe_popEventsOnce (d : Device) (maxEvents : UInt16) : (popEventsOnce d maxEvents).Safe (fun _ => True) := by
  refine .bind (safe_readIn ..) (fun reply long => .bind (safe_decodeEventHeader long) (fun header _ => ?_))
  refine .bind (safe_refuseIf _ _) (fun _ short => .bind (.each (fun i inside => ?_)) (fun _ _ => .pure trivial))
  exact safe_decodeEvent (List.mem_range.mp inside) (Nat.not_lt.mp short)

theorem safe_pollEvents (d : Device) (rounds : Nat) : (pollEvents d rounds).Safe (fun _ => True) := by
  have loop : ∀ rounds events total, (pollEventsFrom d rounds events total).Safe (fun _ => True) := by
    intro rounds
    induction rounds with
    | zero => exact fun _ _ => .pure trivial
    | succ rounds ih =>
      intro events total
      exact .bind (safe_popEventsOnce d 0) (fun _ _ => .ite (fun _ => ih _ _) (fun _ => .pure trivial))
  exact .bind (safe_checkNotStreaming _) (fun _ _ => .bind (safe_requireEvents d _) (fun _ _ => loop _ _ _))

theorem safe_eventCounts (d : Device) : (eventCounts d).Safe (fun _ => True) := by
  refine .bind (safe_checkNotStreaming _) (fun _ _ => .bind (safe_requireEvents d _) (fun _ _ => ?_))
  refine .bind (safe_readIn ..) (fun reply long => .bind (safe_decodeEventHeader long) (fun header _ => ?_))
  refine .bind (safe_refuseIf _ _) (fun _ short => Safe.mono (.each (fun i inside => ?_)) (fun _ _ => trivial))
  exact safe_decodeEventCount (List.mem_range.mp inside) (Nat.not_lt.mp short)

theorem safe_locked (h : p.Safe Q) : (locked p).Safe Q := by
  refine .bind (.perform trivial) (fun _ _ => .bind (.tryCatch h (fun e => ?_)) (fun a post => ?_))
  · exact .bind (.perform trivial) (fun _ _ => .throw)
  · exact .bind (.perform trivial) (fun _ _ => .pure post)

theorem safe_deselect (pin : UInt8) : (deselect pin).Safe (fun _ => True) :=
  .tryCatch (safe_sendOut ..) (fun _ => .pure trivial)

theorem safe_deselectOther (config : StreamConfig) (pin : UInt8) :
    (deselectOther config pin).Safe (fun _ => True) :=
  .ite (fun _ => .pure trivial) (fun _ => safe_deselect pin)

theorem safe_selectPins (added pins : List UInt8) : (selectPins added pins).Safe (fun _ => True) := by
  induction pins generalizing added with
  | nil => exact .pure trivial
  | cons pin pins ih =>
    have one : Driver.Safe (MonadExcept.tryCatch (do select true pin; return none) (fun e => return some e))
        (fun (_ : Option Error) => True) :=
      .tryCatch (.bind (safe_sendOut ..) (fun _ _ => .pure trivial)) (fun _ => .pure trivial)
    refine .bind one (fun r _ => ?_)
    cases r with
    | none => exact ih _
    | some e => exact .pure trivial

theorem safe_launchOrRollBack (d : Device) (config : StreamConfig) (added : List UInt8)
    (failed : Option Error) : (launchOrRollBack d config added failed).Safe (fun _ => True) := by
  have back : ∀ e, (rollBack added e).Safe (fun _ => True) :=
    fun e => .bind (.forM (fun pin _ => safe_deselect pin)) (fun _ _ => .throw)
  have clear : (clearStale d config).Safe (fun _ => True) := by
    refine .bind (.forM (fun p _ => safe_deselectOther config _)) (fun _ _ => ?_)
    exact .bind safe_readStreamStatus (fun _ _ => (safe_refuseIf _ _).mono (fun _ _ => trivial))
  cases failed with
  | some e => exact back e
  | none =>
    refine .tryCatch (.bind safe_readStreamStatus (fun status _ => ?_)) back
    refine .bind (.ite (fun _ => clear) (fun _ => .pure trivial)) (fun _ _ => ?_)
    refine .bind (safe_readIn ..) (fun reply long => .bind (safe_decodeTimeReply long) (fun _ _ => ?_))
    exact .bind (safe_sendOut ..) (fun _ _ => .pure trivial)

/-- A Stream has no more pins than an n_samples can count. -/
theorem safe_startStream (d : Device) (config : StreamConfig) :
    (startStream d config).Safe (fun handle => handle.config.pins.length < 2 ^ 16) := by
  have checked : (checkConfig d config).Safe (fun _ => config.pins.length < 2 ^ 16) := by
    refine .bind (safe_checkNotStreaming _) (fun _ _ => .bind (safe_refuseIf _ _) (fun _ _ => ?_))
    refine .bind (safe_refuseIf _ _) (fun _ _ => .bind (safe_refuseIf _ _) (fun _ few => ?_))
    have small : config.pins.length < 2 ^ 16 := by
      have := d.info.streamMaxChannels.toNat_lt
      omega
    refine .bind (.forM (fun pin _ => (safe_pinCaps d pin).done)) (fun _ _ => ?_)
    refine .bind (safe_refuseIf _ _) (fun _ _ => .bind (safe_refuseIf _ _) (fun _ _ => ?_))
    exact (safe_refuseIf _ _).mono (fun _ _ => small)
  refine .bind checked (fun _ small => safe_locked (.bind safe_readStreamStatus (fun status _ => ?_)))
  refine .bind (.ite (fun _ => safe_sendOut ..) (fun _ => .pure trivial)) (fun _ _ => ?_)
  refine .bind (.perform trivial) (fun selected _ => .bind (.forM (fun p _ => safe_deselectOther ..)) (fun _ _ => ?_))
  refine .bind (safe_selectPins _ _) (fun r _ => .bind (safe_launchOrRollBack ..) (fun _ _ => ?_))
  exact .bind (.perform trivial) (fun _ _ => .bind (.perform trivial) (fun _ _ => .pure small))

theorem safe_endStream : endStream.Safe (fun _ => True) := by
  refine safe_locked (.bind (.perform trivial) (fun streaming _ => .ite (fun _ => ?_) (fun _ => .pure trivial)))
  refine .bind (.tryCatch (safe_sendOut ..) (fun _ => .pure trivial)) (fun _ _ => ?_)
  exact .bind (.perform trivial) (fun _ _ => .pure trivial)

theorem safe_samples {header : StreamHeader} {head : List UInt8}
    (known : header.nSamples.toNat ≤ impl.config.pins.length)
    (long : streamHeaderLen + 2 * header.nSamples.toNat ≤ head.length) :
    (samples impl header head).Safe (fun _ => True) := by
  refine Safe.mono (.each (fun i inside => ?_)) (fun _ _ => trivial)
  have below := List.mem_range.mp inside
  refine .bind (safe_wordAt (by omega)) (fun _ _ => .bind (safe_byteAt (by omega)) (fun _ _ => .pure trivial))

/-- One iteration of the decode loop moves on by no more than what is there. -/
theorem safe_decodeStep (small : impl.config.pins.length < 2 ^ 16) (w : Worker) (head : List UInt8) :
    (decodeStep impl w head).Safe (fun r => ∀ next, r = some next → next.2 ≤ head.length) := by
  have nothing : (Pure.pure none : Driver (Option (Worker × Nat))).Safe
      (fun r => ∀ next, r = some next → next.2 ≤ head.length) := by
    refine .pure (fun next said => ?_)
    contradiction
  refine .ite (fun _ => nothing) (fun short => ?_)
  have whole : 12 ≤ head.length := Nat.not_lt.mp short
  have header : (decodeStreamHeader head).Safe (fun _ => True) := by
    refine .bind (safe_wordAt (by omega)) (fun _ _ => .bind (safe_wordAt (by omega)) (fun _ _ => ?_))
    exact .bind (safe_longAt (by omega)) (fun _ _ => .bind (safe_longAt (by omega)) (fun _ _ => .pure trivial))
  refine .bind header (fun header _ => .ite (fun _ => .pure (fun next said => ?_)) (fun real => ?_))
  · obtain rfl := Option.some.inj said
    exact Nat.le_trans (Nat.le_add_left 1 11) whole
  · refine .ite (fun _ => nothing) (fun cut => ?_)
    have counted : header.nSamples = impl.nSamplesExpected := not_not.mp (not_or.mp real).2
    have known : header.nSamples.toNat = impl.config.pins.length := by
      rw [counted]
      exact UInt16.toNat_ofNat_of_lt' small
    have long : streamHeaderLen + 2 * header.nSamples.toNat ≤ head.length := by
      unfold streamRecordLen at cut
      omega
    have taken : (takeRecord impl header w head).Safe (fun _ => True) :=
      .ite (fun _ => .pure trivial)
        (fun _ => .bind (safe_samples (Nat.le_of_eq known) long) (fun _ _ => .pure trivial))
    refine .bind taken (fun w' _ => .pure (fun next said => ?_))
    obtain rfl := Option.some.inj said
    exact Nat.not_lt.mp cut

theorem safe_decodeLoop (small : impl.config.pins.length < 2 ^ 16) (fuel : Nat) (w : Worker)
    {buffer : List UInt8} {pos : Nat} (inside : pos ≤ buffer.length) :
    (decodeLoop impl fuel w buffer pos).Safe (fun _ => True) := by
  induction fuel generalizing w pos with
  | zero => exact .bind (safe_span inside) (fun _ _ => .pure trivial)
  | succ fuel ih =>
    refine .bind (safe_decodeStep small w (buffer.drop pos)) (fun r moved => ?_)
    cases r with
    | none => exact .bind (safe_span inside) (fun _ _ => .pure trivial)
    | some next =>
      have step := moved next rfl
      rw [List.length_drop] at step
      exact ih next.1 (by omega)

theorem safe_passes (small : impl.config.pins.length < 2 ^ 16) (st : Worker × List UInt8)
    (chunks : List Chunk) : (passes impl st (chunks.map Subtype.val)).Safe (fun _ => True) := by
  induction chunks generalizing st with
  | nil => exact .pure trivial
  | cons chunk chunks ih =>
    have one : (pass impl st chunk.val).Safe (fun _ => True) :=
      .bind (safe_span chunk.property) (fun _ _ => safe_decodeLoop small _ _ (Nat.zero_le _))
    exact .bind one (fun st' _ => ih st')

theorem safe_reading (h : d.WellFormed) (call : Reading) : (call.perform d).Safe (fun _ => True) := by
  cases call with
  | pin call => exact safe_pinCall d call
  | allDigital => exact (safe_readAllDigital h).done
  | allAnalog => exact (safe_readAllAnalog h).done
  | status => exact (safe_status d).done
  | time => exact (safe_readTime d).done
  | streamStatus => exact (safe_locked safe_readStreamStatus).done
  | popEvents maxEvents => exact (safe_popEventsOnce d maxEvents).done
  | pollEvents rounds => exact (safe_pollEvents d rounds).done
  | eventCounts => exact (safe_eventCounts d).done
  | stream config chunks =>
    refine .bind (safe_startStream d config) (fun handle small => .bind (safe_passes small _ chunks) (fun _ _ => ?_))
    exact safe_endStream

end Driver

/-- Whatever the device and the transport answer, the constructor and any calls after it
access received bytes, the capability table and config.pins in range only. -/
theorem accesses_stay_in_bounds (options : DeviceOptions) (calls : List Reading) :
    (Driver.session options calls).Safe (fun _ => True) := by
  refine .bind (Driver.safe_construct options) (fun d wellFormed => .forM (fun call _ => ?_))
  exact .tryCatch (Driver.safe_reading wellFormed call) (fun _ => .pure trivial)

end ArduinoDriver
