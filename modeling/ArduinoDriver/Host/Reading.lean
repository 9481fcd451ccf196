import ArduinoDriver.Host.PinCalls

namespace ArduinoDriver

open Lib (Program)

namespace Driver

/-- The first `len` elements of a fixed buffer of `size`, as a span. -/
def span (len size : Nat) : Driver Unit :=
  if len = 0 then pure () else do let _ ← Program.perform (DriverOp.access (len - 1) size)

/-- read_u32le() of what a transfer delivered. -/
def longAt (bytes : List UInt8) (offset : Nat) : Driver UInt32 := do
  let low ← wordAt bytes offset
  let high ← wordAt bytes (offset + 2)
  return low.toUInt32 ||| (high.toUInt32 <<< 16)

/-- The loop of decode_info() over the magic, from byte `i` on. -/
def checkMagic (bytes : List UInt8) : Nat → List UInt8 → Driver Unit
  | _, [] => pure ()
  | i, expected :: rest => do
    let byte ← byteAt bytes i
    refuseIf (byte ≠ expected) ⟨.protocol, "GET_INFO reply does not carry the \"UIO1\" magic"⟩
    checkMagic bytes (i + 1) rest

def decodeInfo (bytes : List UInt8) : Driver Info := do
  refuseIf (bytes.length < infoLen)
    ⟨.protocol, s!"GET_INFO reply is too short: {bytes.length} of {infoLen} bytes"⟩
  checkMagic bytes 0 usbioMagic
  let protocolVersion ← wordAt bytes 4
  let boardId ← wordAt bytes 6
  let nPins ← byteAt bytes 8
  let nAin ← byteAt bytes 9
  let adcBits ← byteAt bytes 10
  let pwmBits ← byteAt bytes 11
  let dacBits ← byteAt bytes 12
  let queueDepth ← byteAt bytes 13
  let vrefMv ← wordAt bytes 14
  let ioMv ← wordAt bytes 16
  let flags ← wordAt bytes 18
  let streamMaxChannels ← byteAt bytes 20
  let eventMaxPins ← byteAt bytes 21
  let streamMinPeriodUs ← wordAt bytes 22
  return ⟨protocolVersion, boardId, nPins, nAin, adcBits, pwmBits, dacBits, queueDepth, vrefMv,
    ioMv, flags, streamMaxChannels, eventMaxPins, streamMinPeriodUs⟩

/-- One attempt of load_info(); `again` is what follows a device that is not ready. -/
def loadInfoOnce (again : Driver Info) : Driver Info := do
  let reply ← rawIn .getInfo 0 (UInt16.ofNat infoLen)
  refuseIf (reply.length < infoLen)
    ⟨.protocol, s!"GET_INFO: short reply ({reply.length} of {infoLen} bytes)"⟩
  let info ← decodeInfo reply
  let hex (v : UInt16) := (String.ofList (Nat.toDigits 16 (0x10000 + v.toNat))).toUpper.drop 1
  refuseIf (info.protocolVersion ≠ protocolVersion)
    ⟨.protocol, s!"unsupported protocol version 0x{hex info.protocolVersion} " ++
      s!"(this driver speaks 0x{hex protocolVersion})"⟩
  if info.nPins ≠ 0 then return info else again

/-- The loop of load_info(), with `left` more attempts after this one. -/
def loadInfoFrom (options : DeviceOptions) : Nat → Driver Info
  | 0 =>
    let attempts := max 1 options.readyMaxAttempts
    loadInfoOnce (throw ⟨.notReady, "device enumerated but the sketch has not called " ++
      s!"UsbIo.begin() (GET_INFO reported n_pins == 0 in {attempts} attempts over " ++
      s!"{(attempts - 1) * options.readyDelayMs} ms)"⟩)
  | left + 1 => loadInfoOnce (loadInfoFrom options left)

def loadInfo (options : DeviceOptions) : Driver Info := do
  let info ← loadInfoFrom options (max 1 options.readyMaxAttempts - 1)
  refuseIf (maxPins < info.nPins.toNat)
    ⟨.protocol, s!"GET_INFO: n_pins = {info.nPins} exceeds {maxPins}"⟩
  refuseIf (maxAin < info.nAin.toNat ∨ info.nPins < info.nAin)
    ⟨.protocol, s!"GET_INFO: n_ain = {info.nAin} is inconsistent (n_pins = {info.nPins}, " ++
      s!"limit {maxAin})"⟩
  return info

def loadCaps (info : Info) : Driver (List UInt8 × List UInt8) := do
  span info.nPins.toNat maxPins
  let reply ← rawIn .getPinCaps 0 info.nPins.toUInt16
  refuseIf (reply.length < info.nPins.toNat)
    ⟨.protocol, s!"GET_PIN_CAPS: short reply ({reply.length} of {info.nPins} bytes)"⟩
  let caps ← Program.each (byteAt reply) (List.range info.nPins.toNat)
  let analogPins := analogPinsOf caps
  refuseIf (analogPins.length ≠ info.nAin.toNat)
    ⟨.protocol, s!"GET_PIN_CAPS: {analogPins.length} pins carry the AIN capability but " ++
      s!"GET_INFO reports n_ain = {info.nAin}"⟩
  return (caps, analogPins)

/-- The constructor. -/
def construct (options : DeviceOptions) : Driver Device := do
  let info ← loadInfo options
  let (caps, analogPins) ← loadCaps info
  return ⟨info, caps, analogPins, options⟩

def readAllDigital (d : Device) : Driver (List Bool) := do
  checkNotStreaming "read_all_digital"
  let len := dioReadAllLen d.info.nPins.toNat
  span len (dioReadAllLen maxPins)
  let reply ← readIn d .dioReadAll 0 (UInt16.ofNat len) len
  Program.each (fun pin => do
    let packed ← byteAt reply (allHeaderLen + pin / 8)
    return (packed >>> UInt8.ofNat (pin % 8)) &&& 1 != 0) (List.range d.info.nPins.toNat)

def readAllAnalog (d : Device) : Driver (List UInt16) := do
  checkNotStreaming "read_all_analog"
  let len := aiReadAllLen d.info.nAin.toNat
  span len (aiReadAllLen maxAin)
  let reply ← readIn d .aiReadAll 0 (UInt16.ofNat len) len
  Program.each (fun i => wordAt reply (allHeaderLen + 2 * i)) (List.range d.info.nAin.toNat)

def decodeTimeReply (bytes : List UInt8) : Driver TimeReply := do
  let status ← byteAt bytes 0
  let millis ← longAt bytes 4
  let micros ← longAt bytes 8
  return ⟨Status.ofCode? status, millis, micros⟩

/-- read_time(), less the host's own clock. -/
def readTime (d : Device) : Driver TimeReply := do
  checkNotStreaming "read_time"
  let reply ← readIn d .getTime 0 (UInt16.ofNat timeReplyLen) timeReplyLen
  decodeTimeReply reply

def decodeStreamStatus (bytes : List UInt8) : Driver StreamStatus := do
  let status ← byteAt bytes 0
  let running ← byteAt bytes 1
  let nChannels ← byteAt bytes 2
  let flags ← byteAt bytes 3
  let periodUs ← wordAt bytes 4
  let seq ← longAt bytes 8
  let overruns ← longAt bytes 12
  return ⟨Status.ofCode? status, running != 0, nChannels, flags, periodUs, seq, overruns⟩

def readStreamStatus : Driver StreamStatus := do
  let reply ← rawIn .streamStatus 0 (UInt16.ofNat streamStatusLen)
  refuseIf (reply.length < streamStatusLen)
    ⟨.protocol, s!"GET_STREAM_STATUS: short reply ({reply.length} of {streamStatusLen} bytes)"⟩
  decodeStreamStatus reply

def decodeEventHeader (bytes : List UInt8) : Driver EventHeader := do
  let status ← byteAt bytes 0
  let count ← byteAt bytes 1
  let dropped ← byteAt bytes 2
  let pending ← byteAt bytes 3
  return ⟨Status.ofCode? status, count, dropped, pending⟩

def decodeEvent (bytes : List UInt8) (index : Nat) : Driver PinEvent := do
  let base := eventHeaderLen + eventLen * index
  let pin ← byteAt bytes base
  let edge ← byteAt bytes (base + 1)
  let seq ← wordAt bytes (base + 2)
  let tMs ← longAt bytes (base + 4)
  return ⟨pin, EdgeMode.ofCode? edge, seq, tMs⟩

def decodeEventCount (bytes : List UInt8) (index : Nat) : Driver EventCount := do
  let base := eventHeaderLen + eventCountLen * index
  let pin ← byteAt bytes base
  let mode ← byteAt bytes (base + 1)
  let count ← wordAt bytes (base + 2)
  return ⟨pin, EdgeMode.ofCode? mode, count⟩

def popEventsOnce (d : Device) (maxEvents : UInt16) : Driver (EventHeader × List PinEvent) := do
  let reply ← readIn d .eventPop maxEvents (UInt16.ofNat (eventPopLen maxEventsPerPop)) eventHeaderLen
  let header ← decodeEventHeader reply
  let expected := eventPopLen header.count.toNat
  refuseIf (reply.length < expected)
    ⟨.protocol,
      s!"EVENT_POP: short reply ({reply.length} of {expected} bytes for {header.count} events)"⟩
  let events ← Program.each (decodeEvent reply) (List.range header.count.toNat)
  return (header, events)

/-- The loop of poll_events(): at most `rounds` more passes, `none` when it wants
another one. `events` and `total` are its accumulators. -/
def pollEventsFrom (d : Device) : Nat → List PinEvent → Nat → Driver (Option (List PinEvent × UInt8))
  | 0, _, _ => return none
  | rounds + 1, events, total => do
    let (header, batch) ← popEventsOnce d 0
    let events := events ++ batch
    let total := min 255 (total + header.dropped.toNat)
    if header.pending ≠ 0 then pollEventsFrom d rounds events total
    else return some (events, UInt8.ofNat total)

/-- poll_events(), with a bound on the passes of its loop. -/
def pollEvents (d : Device) (rounds : Nat) : Driver (Option (List PinEvent × UInt8)) := do
  checkNotStreaming "poll_events"
  requireEvents d "poll_events"
  pollEventsFrom d rounds [] 0

def eventCounts (d : Device) : Driver (List EventCount) := do
  checkNotStreaming "event_counts"
  requireEvents d "event_counts"
  let reply ← readIn d .eventCounts 0 (UInt16.ofNat (eventCountsLen maxEventPins)) eventHeaderLen
  let header ← decodeEventHeader reply
  let expected := eventCountsLen header.count.toNat
  refuseIf (reply.length < expected)
    ⟨.protocol,
      s!"EVENT_COUNTS: short reply ({reply.length} of {expected} bytes for {header.count} pins)"⟩
  Program.each (decodeEventCount reply) (List.range header.count.toNat)

@[simp] theorem span_alone (len size : Nat) : (span len size).alone = pure () := by
  unfold span
  split <;> rfl

@[simp] theorem wordAt_alone (bytes : List UInt8) (offset : Nat) :
    (wordAt bytes offset).alone = pure (readU16 bytes offset) := rfl

@[simp] theorem longAt_alone (bytes : List UInt8) (offset : Nat) :
    (longAt bytes offset).alone = pure (readU32 bytes offset) := rfl

theorem checkMagic_alone (bytes : List UInt8) (i : Nat) (magic : List UInt8)
    (long : i + magic.length ≤ bytes.length) :
    (checkMagic bytes i magic).alone = ArduinoDriver.refuseIf ((bytes.drop i).take magic.length ≠ magic)
      ⟨.protocol, "GET_INFO reply does not carry the \"UIO1\" magic"⟩ := by
  induction magic generalizing i with
  | nil => simp [checkMagic, ArduinoDriver.refuseIf]
  | cons expected magic ih =>
    have inside : i < bytes.length := by
      simp only [List.length_cons] at long
      omega
    have rest := ih (i + 1) (by simp only [List.length_cons] at long; omega)
    have first : readU8 bytes i = bytes[i] := by simp [readU8, inside]
    simp only [checkMagic, Program.run_bind, byteAt_alone, refuseIf_alone, pure_bind, rest]
    rw [List.drop_eq_getElem_cons inside, List.length_cons, List.take_succ_cons, ← first]
    by_cases same : readU8 bytes i = expected
    · simp [ArduinoDriver.refuseIf, same]
    · simp [ArduinoDriver.refuseIf, same]
      rfl

theorem decodeInfo_alone (bytes : List UInt8) :
    (decodeInfo bytes).alone = Host.of (ArduinoDriver.decodeInfo bytes) := by
  unfold decodeInfo ArduinoDriver.decodeInfo
  by_cases short : bytes.length < infoLen
  · simp [short, ArduinoDriver.refuseIf, Host.of]
    rfl
  · have magic := checkMagic_alone bytes 0 usbioMagic (by
      have size : usbioMagic.length = 4 := rfl
      simp only [infoLen] at short
      omega)
    have size : usbioMagic.length = 4 := rfl
    rw [List.drop_zero, size] at magic
    simp only [Program.run_bind, refuseIf_alone, magic, wordAt_alone, byteAt_alone, pure_bind]
    by_cases other : bytes.take 4 ≠ usbioMagic
    · simp [short, other, ArduinoDriver.refuseIf, Host.of]
      rfl
    · simp [short, other, ArduinoDriver.refuseIf, Host.of]

/-- A guard in front of a decoder. -/
theorem host_of_ite {α : Type} (bad : Prop) [Decidable bad] (e : Error) (x : Except Error α) :
    Host.of (if bad then .error e else x) = (ArduinoDriver.refuseIf bad e >>= fun _ => Host.of x) := by
  unfold ArduinoDriver.refuseIf
  split <;> rfl

theorem each_alone {α β : Type} {f : β → Driver α} {value : β → α}
    (pass : ∀ x, (f x).alone = pure (value x)) (l : List β) :
    alone (Program.each f l) = pure (l.map value) :=
  Program.run_each pass l

theorem loadInfoOnce_alone (again : Driver Info) :
    (loadInfoOnce again).alone = Device.loadInfoOnce again.alone := by
  simp [loadInfoOnce, Device.loadInfoOnce, decodeInfo_alone]

theorem loadInfo_alone (options : DeviceOptions) : (loadInfo options).alone = Device.loadInfo options := by
  have loop : ∀ left, (loadInfoFrom options left).alone = Device.loadInfoFrom options left := by
    intro left
    induction left with
    | zero => exact loadInfoOnce_alone _
    | succ left ih =>
      unfold loadInfoFrom Device.loadInfoFrom
      rw [loadInfoOnce_alone, ih]
  simp [loadInfo, Device.loadInfo, loop]

theorem loadCaps_alone (info : Info) : (loadCaps info).alone = Device.loadCaps info := by
  have table : ∀ reply, alone (Program.each (byteAt reply) (List.range info.nPins.toNat)) =
      pure ((List.range info.nPins.toNat).map (readU8 reply)) := fun reply => each_alone (fun _ => rfl) _
  simp only [loadCaps, Device.loadCaps, decodeCaps, host_of_ite, Program.run_bind, span_alone, rawIn_alone,
    refuseIf_alone, table, pure_bind]
  rfl

/-- The constructor of a single thread is the one of `Host`. -/
theorem construct_alone (options : DeviceOptions) : (construct options).alone = Device.construct options := by
  simp [construct, Device.construct, loadInfo_alone, loadCaps_alone]

theorem readAllDigital_alone (d : Device) : (readAllDigital d).alone = d.readAllDigital := by
  have bits : ∀ reply, alone (Program.each (fun pin => do
      let packed ← byteAt reply (allHeaderLen + pin / 8)
      return (packed >>> UInt8.ofNat (pin % 8)) &&& 1 != 0) (List.range d.info.nPins.toNat)) =
        pure (decodeDigital d.info.nPins.toNat reply) := fun reply => each_alone (fun _ => rfl) _
  simp [readAllDigital, Device.readAllDigital, bits]

theorem readAllAnalog_alone (d : Device) : (readAllAnalog d).alone = d.readAllAnalog := by
  have samples : ∀ reply, alone (Program.each (fun i => wordAt reply (allHeaderLen + 2 * i))
      (List.range d.info.nAin.toNat)) = pure (decodeAnalog d.info.nAin.toNat reply) :=
    fun reply => each_alone (fun _ => rfl) _
  simp [readAllAnalog, Device.readAllAnalog, samples]

theorem readTime_alone (d : Device) : (readTime d).alone = d.readTime := by
  have decoded : ∀ reply, (decodeTimeReply reply).alone = pure (ArduinoDriver.decodeTimeReply reply) :=
    fun _ => rfl
  simp [readTime, Device.readTime, decoded]

@[simp] theorem readStreamStatus_alone : readStreamStatus.alone = Device.readStreamStatus := by
  have decoded : ∀ reply, (decodeStreamStatus reply).alone = pure (ArduinoDriver.decodeStreamStatus reply) :=
    fun _ => rfl
  simp [readStreamStatus, Device.readStreamStatus, decoded]

theorem popEventsOnce_alone (d : Device) (maxEvents : UInt16) :
    (popEventsOnce d maxEvents).alone = d.popEventsOnce maxEvents := by
  have header : ∀ reply, (decodeEventHeader reply).alone = pure (ArduinoDriver.decodeEventHeader reply) :=
    fun _ => rfl
  have entries : ∀ reply n, alone (Program.each (decodeEvent reply) (List.range n)) =
      pure ((List.range n).map (ArduinoDriver.decodeEvent reply)) := fun reply n => each_alone (fun _ => rfl) _
  simp [popEventsOnce, Device.popEventsOnce, decodeEvents, host_of_ite, header, entries]
  rfl

@[simp] theorem requireEvents_alone (d : Device) (what : String) :
    (requireEvents d what).alone = d.requireEvents what := by
  unfold requireEvents Device.requireEvents
  rw [refuseIf_alone]
  unfold ArduinoDriver.refuseIf Info.events
  cases hasFlag d.info.flags flagEvents <;> rfl

theorem eventCounts_alone (d : Device) : (eventCounts d).alone = d.eventCounts := by
  have header : ∀ reply, (decodeEventHeader reply).alone = pure (ArduinoDriver.decodeEventHeader reply) :=
    fun _ => rfl
  have entries : ∀ reply n, alone (Program.each (decodeEventCount reply) (List.range n)) =
      pure ((List.range n).map (ArduinoDriver.decodeEventCount reply)) := fun reply n => each_alone (fun _ => rfl) _
  simp [eventCounts, Device.eventCounts, ArduinoDriver.decodeEventCounts, host_of_ite, header, entries]
  rfl

end Driver

/-- The operations that only take an element from a buffer. -/
def Accesses : DriverOp → Prop
  | .access .. => True
  | _ => False

namespace Driver

variable {α γ : Type} {p : Driver α}

theorem accesses_refuseIf (bad : Prop) [Decidable bad] (e : Error) : (refuseIf bad e).Uses Accesses :=
  .ite trivial trivial

theorem accesses_byteAt (bytes : List UInt8) (offset : Nat) : (byteAt bytes offset).Uses Accesses :=
  .bind (.perform trivial) (fun _ => trivial)

theorem accesses_wordAt (bytes : List UInt8) (offset : Nat) : (wordAt bytes offset).Uses Accesses :=
  .bind (accesses_byteAt ..) (fun _ => .bind (accesses_byteAt ..) (fun _ => trivial))

theorem accesses_longAt (bytes : List UInt8) (offset : Nat) : (longAt bytes offset).Uses Accesses :=
  .bind (accesses_wordAt ..) (fun _ => .bind (accesses_wordAt ..) (fun _ => trivial))

theorem accesses_checkMagic (bytes : List UInt8) (i : Nat) (magic : List UInt8) :
    (checkMagic bytes i magic).Uses Accesses := by
  induction magic generalizing i with
  | nil => trivial
  | cons expected magic ih =>
    exact .bind (accesses_byteAt ..) (fun _ => .bind (accesses_refuseIf _ _) (fun _ => ih (i + 1)))

theorem accesses_decodeInfo (bytes : List UInt8) : (decodeInfo bytes).Uses Accesses := by
  refine .bind (accesses_refuseIf _ _) (fun _ => .bind (accesses_checkMagic ..) (fun _ => ?_))
  refine .bind (accesses_wordAt ..) (fun _ => .bind (accesses_wordAt ..) (fun _ => ?_))
  refine .bind (accesses_byteAt ..) (fun _ => .bind (accesses_byteAt ..) (fun _ => ?_))
  refine .bind (accesses_byteAt ..) (fun _ => .bind (accesses_byteAt ..) (fun _ => ?_))
  refine .bind (accesses_byteAt ..) (fun _ => .bind (accesses_byteAt ..) (fun _ => ?_))
  refine .bind (accesses_wordAt ..) (fun _ => .bind (accesses_wordAt ..) (fun _ => ?_))
  refine .bind (accesses_wordAt ..) (fun _ => .bind (accesses_byteAt ..) (fun _ => ?_))
  exact .bind (accesses_byteAt ..) (fun _ => .bind (accesses_wordAt ..) (fun _ => trivial))

theorem accesses_decodeTimeReply (bytes : List UInt8) : (decodeTimeReply bytes).Uses Accesses := by
  refine .bind (accesses_byteAt ..) (fun _ => .bind (accesses_longAt ..) (fun _ => ?_))
  exact .bind (accesses_longAt ..) (fun _ => trivial)

theorem accesses_decodeStreamStatus (bytes : List UInt8) : (decodeStreamStatus bytes).Uses Accesses := by
  refine .bind (accesses_byteAt ..) (fun _ => .bind (accesses_byteAt ..) (fun _ => ?_))
  refine .bind (accesses_byteAt ..) (fun _ => .bind (accesses_byteAt ..) (fun _ => ?_))
  refine .bind (accesses_wordAt ..) (fun _ => .bind (accesses_longAt ..) (fun _ => ?_))
  exact .bind (accesses_longAt ..) (fun _ => trivial)

theorem accesses_decodeEventHeader (bytes : List UInt8) : (decodeEventHeader bytes).Uses Accesses := by
  refine .bind (accesses_byteAt ..) (fun _ => .bind (accesses_byteAt ..) (fun _ => ?_))
  exact .bind (accesses_byteAt ..) (fun _ => .bind (accesses_byteAt ..) (fun _ => trivial))

theorem accesses_decodeEvent (bytes : List UInt8) (index : Nat) : (decodeEvent bytes index).Uses Accesses := by
  refine .bind (accesses_byteAt ..) (fun _ => .bind (accesses_byteAt ..) (fun _ => ?_))
  exact .bind (accesses_wordAt ..) (fun _ => .bind (accesses_longAt ..) (fun _ => trivial))

/-- What only takes elements from buffers ends anywhere as it does alone. -/
theorem computes {c : Lib.Conversation DriverOp.Reply γ} {E : Error → γ → Prop} {g : γ} {a : α}
    (h : p.Uses Accesses) (alone : p.alone = pure a) (free : ∀ i n, c.may g (.access i n))
    (still : ∀ i n r g', c.answers g (.access i n) r g' → g' = g) :
    p.Keeps c (fun a' g' => g' = g ∧ a' = a) E g := by
  let st : HostState :=
    ⟨⟨onePinBoard, boot onePinBoard, [], fun _ => ⟨[], stillEnv .busy, none, ""⟩⟩, [], false⟩
  replace alone : p.alone st = .ok a st := congrFun alone st
  induction p with
  | pure a' =>
    cases alone
    exact ⟨rfl, rfl⟩
  | throw e => contradiction
  | call op next ih =>
    cases op with
    | access i n =>
      refine ⟨free i n, fun r g' answered => ?_⟩
      obtain rfl := still i n r g' answered
      exact ih r (h.2 r) alone
    | _ => exact h.1.elim

end Driver

end ArduinoDriver
