import ArduinoDriver.Host.Link

namespace ArduinoDriver

/-- DeviceOptions, less busy_delay and the transfers' timeout. -/
structure DeviceOptions where
  busyMaxAttempts : Nat
  readyMaxAttempts : Nat
  readyDelayMs : Nat
  deriving Repr

/-- Device, as its constructor leaves it: the capability byte of each pin, and the pins
with analog inputs. Its StreamState is part of `HostState`. -/
structure Device where
  info : Info
  caps : List UInt8
  analogPins : List UInt8
  options : DeviceOptions
  deriving Repr

/-- Pins, rate and flags for start_stream(). -/
structure StreamConfig where
  pins : List UInt8
  period : Int
  flags : UInt8
  queueCapacity : Nat
  deriving Repr

/-- What start_stream() hands to the Stream it returns. -/
structure StreamHandle where
  config : StreamConfig
  startTUs : UInt32
  deriving Repr

def describeRequest (req : Request) (index : UInt16) : String :=
  match req with
  | .getInfo | .dioReadAll | .aiReadAll | .getStatus | .streamStop | .streamStatus | .getTime
  | .eventCounts | .reset => req.name
  | .streamStart =>
    let digits := (String.ofList (Nat.toDigits 16 index.toNat)).toUpper
    let pad := if index < 16 then "0" else ""
    s!"{req.name} (flags 0x{pad}{digits})"
  | .eventPop => s!"{req.name} (max {index})"
  | _ => s!"{req.name} (pin {index})"

/-- throw_for_status(): the exception for a status byte the device sent. -/
def statusError (code : UInt8) (context : String) : Error :=
  let unexpected : Error := ⟨.protocol, s!"{context}: unexpected status code {code}"⟩
  match Status.ofCode? code with
  | none => unexpected
  | some status =>
    let message := s!"{context} rejected by the device: {status.name} ({status.description})"
    match status with
    | .badPin => ⟨.invalidPin, message⟩
    | .badMode => ⟨.invalidMode, message⟩
    | .unsupported => ⟨.notSupported, message⟩
    | .badValue => ⟨.invalidValue, message⟩
    | .queueFull => ⟨.queueFull, message⟩
    | .busy => ⟨.deviceBusy, message⟩
    | .badCmd => ⟨.protocol, message⟩
    | .ok => unexpected

/-- `if (bad) throw e;`. -/
def refuseIf (bad : Prop) [Decidable bad] (e : Error) : Host Unit := if bad then throw e else pure ()

/-- raw_in(). -/
def rawIn (req : Request) (index : UInt16) (len : UInt16) : Host (List UInt8) := do
  let reply ← control (.inp req index len)
  if len.toNat < reply.length then
    throw ⟨.protocol, s!"{describeRequest req index}: transport returned {reply.length} bytes " ++
      s!"for a {len}-byte request"⟩
  else return reply

/-- send_out(). A STALL is told apart by GET_STATUS.last_error. -/
def sendOut (req : Request) (value index : UInt16) : Host Unit :=
  tryCatch (do let _ ← control (.out req value index)) fun e =>
    if e.kind ≠ .stall then throw e
    else do
      let reply ← rawIn .getStatus 0 (UInt16.ofNat statusReplyLen)
      if reply.length < statusReplyLen then
        throw ⟨.protocol, s!"{describeRequest req index} was rejected (STALL) and GET_STATUS " ++
          s!"answered {reply.length} of {statusReplyLen} bytes"⟩
      else if readU8 reply 2 = Status.ok.code then throw e
      else throw (statusError (readU8 reply 2) (describeRequest req index))

/-- One attempt of read_in(); `again` is what follows a BUSY. -/
def readInOnce (req : Request) (index len : UInt16) (minLen : Nat) (again : Host (List UInt8)) :
    Host (List UInt8) := do
  let reply ← rawIn req index len
  if reply.length = 0 then
    throw ⟨.protocol, s!"{describeRequest req index}: empty reply"⟩
  else if readU8 reply 0 = Status.busy.code then again
  else if readU8 reply 0 ≠ Status.ok.code then
    throw (statusError (readU8 reply 0) (describeRequest req index))
  else if reply.length < minLen then
    throw ⟨.protocol,
      s!"{describeRequest req index}: short reply ({reply.length} of {minLen} bytes)"⟩
  else return reply

/-- The loop of read_in(), with `left` more attempts after this one. -/
def readInFrom (req : Request) (index len : UInt16) (minLen attempts : Nat) :
    Nat → Host (List UInt8)
  | 0 => readInOnce req index len minLen
      (throw ⟨.deviceBusy,
        s!"{describeRequest req index}: device still busy after {attempts} attempts"⟩)
  | left + 1 => readInOnce req index len minLen (readInFrom req index len minLen attempts left)

namespace Device

def attempts (d : Device) : Nat := max 1 d.options.busyMaxAttempts

/-- read_in(). -/
def readIn (d : Device) (req : Request) (index len : UInt16) (minLen : Nat) :
    Host (List UInt8) :=
  readInFrom req index len minLen d.attempts (d.attempts - 1)

def checkNotStreaming (what : String) : Host Unit := do
  refuseIf (← get).streaming
    ⟨.deviceBusy, s!"{what}: a Stream is running on this device; only Stream::stats() and " ++
      "Stream::stop() may be used until it stops"⟩

/-- status(): last_error and queue_pending. -/
def status (d : Device) : Host (UInt8 × UInt8) := do
  checkNotStreaming "status"
  let reply ← d.readIn .getStatus 0 (UInt16.ofNat statusReplyLen) statusReplyLen
  return (readU8 reply 2, readU8 reply 1)

/-- One poll of sync(); `again` is what follows a count that is not zero. -/
def syncOnce (d : Device) (again : UInt8 → Host Unit) : Host Unit := do
  let (_, pending) ← d.status
  if pending = 0 then return else again pending

/-- The loop of sync(), with `left` more polls after this one. -/
def syncFrom (d : Device) : Nat → Host Unit
  | 0 => d.syncOnce (fun pending => throw ⟨.deviceBusy,
      s!"sync: {pending} commands still pending after {d.attempts} GET_STATUS polls"⟩)
  | left + 1 => d.syncOnce (fun _ => d.syncFrom left)

def sync (d : Device) : Host Unit := d.syncFrom (d.attempts - 1)

/-- pin_caps(), as far as start_stream() needs it: the range check. -/
def checkPin (d : Device) (pin : UInt8) : Host Unit :=
  refuseIf (d.info.nPins ≤ pin)
    ⟨.invalidPin, s!"pin {pin} is out of range: the {boardName d.info.boardId} has " ++
      s!"{d.info.nPins} pins (0..{d.info.nPins.toNat - 1})"⟩

def readStreamStatus : Host StreamStatus := do
  let reply ← rawIn .streamStatus 0 (UInt16.ofNat streamStatusLen)
  refuseIf (reply.length < streamStatusLen)
    ⟨.protocol, s!"GET_STREAM_STATUS: short reply ({reply.length} of {streamStatusLen} bytes)"⟩
  return decodeStreamStatus reply

/-- The checks start_stream() makes before it talks to the device. -/
def checkConfig (d : Device) (config : StreamConfig) : Host Unit := do
  checkNotStreaming "start_stream"
  refuseIf (!d.info.streaming)
    ⟨.notSupported,
      s!"the {boardName d.info.boardId} firmware does not report USBIO_FLAG_STREAMING"⟩
  refuseIf config.pins.isEmpty
    ⟨.invalidValue, "start_stream: the pin list must not be empty"⟩
  refuseIf (d.info.streamMaxChannels.toNat < config.pins.length)
    ⟨.invalidValue, s!"start_stream: {config.pins.length} pins exceeds " ++
      s!"stream_max_channels ({d.info.streamMaxChannels})"⟩
  config.pins.forM d.checkPin
  refuseIf (¬ config.pins.Nodup)
    ⟨.invalidValue, "start_stream: the pin list must not repeat a pin"⟩
  refuseIf (config.period < 0 ∨ 0xFFFF < config.period ∨
      (config.period ≠ 0 ∧ config.period < d.info.minStreamPeriodUs.toNat))
    ⟨.invalidValue, s!"start_stream: period {config.period} us is outside 0 (free running) or " ++
      s!"{d.info.minStreamPeriodUs}..65535 for this board" ++
      (if d.info.streamMinPeriodUs = 0 then
        " (its UsbIo firmware predates 0.4.0, which accepts periods down to 1 us: update it to " ++
        "stream faster than 10 kHz)"
      else "")⟩
  refuseIf (config.queueCapacity = 0)
    ⟨.invalidValue, "start_stream: queue_capacity must be > 0"⟩

/-- STREAM_SELECT of one pin. -/
def select (adds : Bool) (pin : UInt8) : Host Unit :=
  sendOut .streamSelect (if adds then 1 else 0) pin.toUInt16

/-- A best-effort removal: errors are swallowed. -/
def deselect (pin : UInt8) : Host Unit :=
  tryCatch (select false pin) (fun _ => pure ())

/-- A best-effort removal of a pin the configuration does not want. -/
def deselectOther (config : StreamConfig) (pin : UInt8) : Host Unit :=
  if pin ∈ config.pins then pure () else deselect pin

/-- The selecting loop of start_stream(): the pins added, oldest first, and the
error that ended it, if any. -/
def selectPins (added : List UInt8) : List UInt8 → Host (List UInt8 × Option Error)
  | [] => return (added, none)
  | pin :: pins => do
    match ← tryCatch (do select true pin; return none) (fun e => return some e) with
    | none => selectPins (added ++ [pin]) pins
    | some e => return (added, some e)

/-- The second removal of stale pins: every pin the configuration does not want. -/
def clearStale (d : Device) (config : StreamConfig) : Host Unit := do
  (List.range d.info.nPins.toNat).forM (fun p => deselectOther config (UInt8.ofNat p))
  let status ← readStreamStatus
  refuseIf (status.nChannels.toNat ≠ config.pins.length)
    ⟨.protocol, s!"start_stream: the device still reports {status.nChannels} selected channels " ++
      s!"instead of {config.pins.length} after clearing a stale selection; a pin changed mode " ++
      "while selected - reset() the device"⟩

/-- The try block of start_stream() behind its selecting loop: the count check, the
reading of the device clock and STREAM_START. -/
def launch (d : Device) (config : StreamConfig) : Host UInt32 := do
  let status ← readStreamStatus
  (if status.nChannels.toNat ≠ config.pins.length then d.clearStale config else pure ())
  let reply ← d.readIn .getTime 0 (UInt16.ofNat timeReplyLen) timeReplyLen
  sendOut .streamStart (UInt16.ofNat config.period.toNat) config.flags.toUInt16
  return (decodeTimeReply reply).micros

/-- The catch block of start_stream(). -/
def rollBack (added : List UInt8) (e : Error) : Host UInt32 := do
  added.reverse.forM deselect
  throw e

/-- The try block and its catch: `added` and `failed` are what the selecting loop
left. -/
def launchOrRollBack (d : Device) (config : StreamConfig) (added : List UInt8) :
    Option Error → Host UInt32
  | some e => rollBack added e
  | none => tryCatch (d.launch config) (rollBack added)

/-- start_stream(). -/
def startStream (d : Device) (config : StreamConfig) : Host StreamHandle := do
  d.checkConfig config
  let status ← readStreamStatus
  (if status.running then sendOut .streamStop 0 0 else pure ())
  let st ← get
  st.selected.forM (deselectOther config)
  let (added, failed) ← selectPins [] config.pins
  let startTUs ← d.launchOrRollBack config added failed
  modify (fun st => { st with selected := config.pins, streaming := true })
  return ⟨config, startTUs⟩

end Device

end ArduinoDriver
