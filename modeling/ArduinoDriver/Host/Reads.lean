import ArduinoDriver.Host.Device

namespace ArduinoDriver

/-- PinCaps::has(): every bit of the mask. -/
def pinHas (bits mask : UInt8) : Bool := bits &&& mask == mask

/-- The pins that carry the AIN capability. -/
def analogPinsOf (caps : List UInt8) : List UInt8 :=
  ((List.range caps.length).filter (fun pin => pinHas (readU8 caps pin) capAin)).map UInt8.ofNat

/-- What load_caps() makes of the reply: the table and the analog pins. -/
def decodeCaps (info : Info) (reply : List UInt8) : Except Error (List UInt8 × List UInt8) :=
  let caps := (List.range info.nPins.toNat).map (readU8 reply)
  let analogPins := analogPinsOf caps
  if reply.length < info.nPins.toNat then
    .error ⟨.protocol, s!"GET_PIN_CAPS: short reply ({reply.length} of {info.nPins} bytes)"⟩
  else if analogPins.length ≠ info.nAin.toNat then
    .error ⟨.protocol, s!"GET_PIN_CAPS: {analogPins.length} pins carry the AIN capability but " ++
      s!"GET_INFO reports n_ain = {info.nAin}"⟩
  else .ok (caps, analogPins)

/-- The loop of read_all_digital(). -/
def decodeDigital (nPins : Nat) (reply : List UInt8) : List Bool :=
  (List.range nPins).map fun pin =>
    (readU8 reply (allHeaderLen + pin / 8) >>> UInt8.ofNat (pin % 8)) &&& 1 != 0

/-- The loop of read_all_analog(). -/
def decodeAnalog (nAin : Nat) (reply : List UInt8) : List UInt16 :=
  (List.range nAin).map fun i => readU16 reply (allHeaderLen + 2 * i)

def dioReadAllLen (nPins : Nat) : Nat := allHeaderLen + (nPins + 7) / 8

def aiReadAllLen (nAin : Nat) : Nat := allHeaderLen + 2 * nAin

def eventPopLen (count : Nat) : Nat := eventHeaderLen + eventLen * count

def eventCountsLen (count : Nat) : Nat := eventHeaderLen + eventCountLen * count

/-- What pop_events_once() makes of the reply. -/
def decodeEvents (reply : List UInt8) : Except Error (EventHeader × List PinEvent) :=
  let header := decodeEventHeader reply
  let expected := eventPopLen header.count.toNat
  if reply.length < expected then
    .error ⟨.protocol,
      s!"EVENT_POP: short reply ({reply.length} of {expected} bytes for {header.count} events)"⟩
  else .ok (header, (List.range header.count.toNat).map (decodeEvent reply))

/-- What event_counts() makes of the reply. -/
def decodeEventCounts (reply : List UInt8) : Except Error (List EventCount) :=
  let header := decodeEventHeader reply
  let expected := eventCountsLen header.count.toNat
  if reply.length < expected then
    .error ⟨.protocol,
      s!"EVENT_COUNTS: short reply ({reply.length} of {expected} bytes for {header.count} pins)"⟩
  else .ok ((List.range header.count.toNat).map (decodeEventCount reply))

/-- A decoder that throws. -/
def Host.of {α : Type} : Except Error α → Host α
  | .ok x => pure x
  | .error e => throw e

namespace Device

/-- One attempt of load_info(); `again` is what follows a device that is not ready. -/
def loadInfoOnce (again : Host Info) : Host Info := do
  let reply ← rawIn .getInfo 0 (UInt16.ofNat infoLen)
  refuseIf (reply.length < infoLen)
    ⟨.protocol, s!"GET_INFO: short reply ({reply.length} of {infoLen} bytes)"⟩
  let info ← Host.of (decodeInfo reply)
  let hex (v : UInt16) := (String.ofList (Nat.toDigits 16 (0x10000 + v.toNat))).toUpper.drop 1
  refuseIf (info.protocolVersion ≠ protocolVersion)
    ⟨.protocol, s!"unsupported protocol version 0x{hex info.protocolVersion} " ++
      s!"(this driver speaks 0x{hex protocolVersion})"⟩
  if info.nPins ≠ 0 then return info else again

/-- The loop of load_info(), with `left` more attempts after this one. -/
def loadInfoFrom (options : DeviceOptions) : Nat → Host Info
  | 0 =>
    let attempts := max 1 options.readyMaxAttempts
    loadInfoOnce (throw ⟨.notReady, "device enumerated but the sketch has not called " ++
      s!"UsbIo.begin() (GET_INFO reported n_pins == 0 in {attempts} attempts over " ++
      s!"{(attempts - 1) * options.readyDelayMs} ms)"⟩)
  | left + 1 => loadInfoOnce (loadInfoFrom options left)

def loadInfo (options : DeviceOptions) : Host Info := do
  let info ← loadInfoFrom options (max 1 options.readyMaxAttempts - 1)
  refuseIf (maxPins < info.nPins.toNat)
    ⟨.protocol, s!"GET_INFO: n_pins = {info.nPins} exceeds {maxPins}"⟩
  refuseIf (maxAin < info.nAin.toNat ∨ info.nPins < info.nAin)
    ⟨.protocol, s!"GET_INFO: n_ain = {info.nAin} is inconsistent (n_pins = {info.nPins}, " ++
      s!"limit {maxAin})"⟩
  return info

def loadCaps (info : Info) : Host (List UInt8 × List UInt8) := do
  let reply ← rawIn .getPinCaps 0 info.nPins.toUInt16
  Host.of (decodeCaps info reply)

/-- The constructor. -/
def construct (options : DeviceOptions) : Host Device := do
  let info ← loadInfo options
  let (caps, analogPins) ← loadCaps info
  return ⟨info, caps, analogPins, options⟩

def readAllDigital (d : Device) : Host (List Bool) := do
  checkNotStreaming "read_all_digital"
  let len := dioReadAllLen d.info.nPins.toNat
  let reply ← d.readIn .dioReadAll 0 (UInt16.ofNat len) len
  return decodeDigital d.info.nPins.toNat reply

def readAllAnalog (d : Device) : Host (List UInt16) := do
  checkNotStreaming "read_all_analog"
  let len := aiReadAllLen d.info.nAin.toNat
  let reply ← d.readIn .aiReadAll 0 (UInt16.ofNat len) len
  return decodeAnalog d.info.nAin.toNat reply

def requireEvents (d : Device) (what : String) : Host Unit :=
  refuseIf (!hasFlag d.info.flags flagEvents)
    ⟨.notSupported, s!"{what}: the {boardName d.info.boardId} firmware does not report " ++
      "USBIO_FLAG_EVENTS"⟩

def popEventsOnce (d : Device) (maxEvents : UInt16) : Host (EventHeader × List PinEvent) := do
  let reply ← d.readIn .eventPop maxEvents (UInt16.ofNat (eventPopLen maxEventsPerPop)) eventHeaderLen
  Host.of (decodeEvents reply)

def eventCounts (d : Device) : Host (List EventCount) := do
  checkNotStreaming "event_counts"
  d.requireEvents "event_counts"
  let reply ← d.readIn .eventCounts 0 (UInt16.ofNat (eventCountsLen maxEventPins)) eventHeaderLen
  Host.of (decodeEventCounts reply)

/-- read_time(), less the host's own clock. -/
def readTime (d : Device) : Host TimeReply := do
  checkNotStreaming "read_time"
  let reply ← d.readIn .getTime 0 (UInt16.ofNat timeReplyLen) timeReplyLen
  return decodeTimeReply reply

end Device

end ArduinoDriver
