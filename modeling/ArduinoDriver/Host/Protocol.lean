import ArduinoDriver.Firmware.Protocol
import Mathlib.Algebra.Group.Nat.Defs

namespace ArduinoDriver

/-- The exception classes of the library. -/
inductive ErrorKind where
  | usb | stall | timeout | protocol | deviceBusy | invalidPin | invalidMode | invalidValue
  | notSupported | queueFull | notReady
  deriving DecidableEq, Repr

structure Error where
  kind : ErrorKind
  what : String
  deriving DecidableEq, Repr

/-- to_string(Request). -/
def Request.name : Request → String
  | .getInfo => "GET_INFO"
  | .getPinCaps => "GET_PIN_CAPS"
  | .pinMode => "PIN_MODE"
  | .dioRead => "DIO_READ"
  | .dioWrite => "DIO_WRITE"
  | .aiRead => "AI_READ"
  | .pwmWrite => "PWM_WRITE"
  | .dacWrite => "DAC_WRITE"
  | .dioReadAll => "DIO_READ_ALL"
  | .aiReadAll => "AI_READ_ALL"
  | .getStatus => "GET_STATUS"
  | .streamSelect => "STREAM_SELECT"
  | .streamStart => "STREAM_START"
  | .streamStop => "STREAM_STOP"
  | .streamStatus => "GET_STREAM_STATUS"
  | .getTime => "GET_TIME"
  | .eventConfig => "EVENT_CONFIG"
  | .eventPop => "EVENT_POP"
  | .eventCounts => "EVENT_COUNTS"
  | .reset => "RESET"

/-- static_cast<Status> of a status byte, where it names one. -/
def Status.ofCode? (c : UInt8) : Option Status :=
  [.ok, .busy, .badPin, .badMode, .badCmd, .unsupported, .queueFull, .badValue].find?
    (fun s : Status => s.code == c)

/-- to_string(Status). -/
def Status.name : Status → String
  | .ok => "OK"
  | .busy => "BUSY"
  | .badPin => "BAD_PIN"
  | .badMode => "BAD_MODE"
  | .badCmd => "BAD_CMD"
  | .unsupported => "UNSUPPORTED"
  | .queueFull => "QUEUE_FULL"
  | .badValue => "BAD_VALUE"

/-- describe(Status). -/
def Status.description : Status → String
  | .ok => "no error"
  | .busy => "queued commands still pending"
  | .badPin => "pin index out of range"
  | .badMode => "request not valid for the pin's current mode"
  | .badCmd => "unknown request"
  | .unsupported => "capability not available on this pin or board"
  | .queueFull => "command queue full"
  | .badValue => "value out of range"

def boardName (id : UInt16) : String :=
  match id with
  | 0x0101 => "UNO R4 Minima"
  | 0x0102 => "Nano R4"
  | 0x01FF => "Renesas board"
  | 0x0201 => "Portenta H7"
  | 0x0202 => "GIGA R1"
  | 0x0203 => "Nano 33 BLE"
  | 0x02FF => "mbed board"
  | 0x0301 => "Zero"
  | 0x0302 => "MKR"
  | 0x0303 => "Nano 33 IoT"
  | 0x03FF => "SAMD board"
  | 0x0401 => "Nano RP2040 Connect"
  | 0x04FF => "RP2040 board"
  | 0x0501 => "Nano ESP32"
  | 0x05FF => "ESP32 board"
  | _ => "unknown"

/-- Decoded usbio_info_t. -/
structure Info where
  protocolVersion : UInt16
  boardId : UInt16
  nPins : UInt8
  nAin : UInt8
  adcBits : UInt8
  pwmBits : UInt8
  dacBits : UInt8
  queueDepth : UInt8
  vrefMv : UInt16
  ioMv : UInt16
  flags : UInt16
  streamMaxChannels : UInt8
  eventMaxPins : UInt8
  streamMinPeriodUs : UInt16
  deriving DecidableEq, Repr

def streamLegacyMinPeriodUs : UInt16 := 100

def Info.streaming (info : Info) : Bool := hasFlag info.flags flagStreaming

def Info.minStreamPeriodUs (info : Info) : UInt16 :=
  if !info.streaming then 0
  else if info.streamMinPeriodUs ≠ 0 then info.streamMinPeriodUs
  else streamLegacyMinPeriodUs

abbrev infoLen : Nat := 24
abbrev allHeaderLen : Nat := 2
abbrev eventHeaderLen : Nat := 4
abbrev eventLen : Nat := 8
abbrev eventCountLen : Nat := 4
abbrev statusReplyLen : Nat := 4
abbrev timeReplyLen : Nat := 12
abbrev streamStatusLen : Nat := 16

def readU8 (bytes : List UInt8) (offset : Nat) : UInt8 := bytes.getD offset 0

def readU16 (bytes : List UInt8) (offset : Nat) : UInt16 :=
  (readU8 bytes offset).toUInt16 ||| ((readU8 bytes (offset + 1)).toUInt16 <<< 8)

def readU32 (bytes : List UInt8) (offset : Nat) : UInt32 :=
  (readU16 bytes offset).toUInt32 ||| ((readU16 bytes (offset + 2)).toUInt32 <<< 16)

/-- decode_info(). -/
def decodeInfo (bytes : List UInt8) : Except Error Info :=
  if bytes.length < infoLen then
    .error ⟨.protocol, s!"GET_INFO reply is too short: {bytes.length} of {infoLen} bytes"⟩
  else if bytes.take 4 ≠ usbioMagic then
    .error ⟨.protocol, "GET_INFO reply does not carry the \"UIO1\" magic"⟩
  else .ok {
    protocolVersion := readU16 bytes 4
    boardId := readU16 bytes 6
    nPins := readU8 bytes 8
    nAin := readU8 bytes 9
    adcBits := readU8 bytes 10
    pwmBits := readU8 bytes 11
    dacBits := readU8 bytes 12
    queueDepth := readU8 bytes 13
    vrefMv := readU16 bytes 14
    ioMv := readU16 bytes 16
    flags := readU16 bytes 18
    streamMaxChannels := readU8 bytes 20
    eventMaxPins := readU8 bytes 21
    streamMinPeriodUs := readU16 bytes 22 }

/-- Decoded usbio_stream_status_t; `status` is `none` for a code without a name. -/
structure StreamStatus where
  status : Option Status
  running : Bool
  nChannels : UInt8
  flags : UInt8
  periodUs : UInt16
  seq : UInt32
  overruns : UInt32
  deriving DecidableEq, Repr

/-- decode_stream_status(), on a reply of full length. -/
def decodeStreamStatus (bytes : List UInt8) : StreamStatus where
  status := Status.ofCode? (readU8 bytes 0)
  running := readU8 bytes 1 != 0
  nChannels := readU8 bytes 2
  flags := readU8 bytes 3
  periodUs := readU16 bytes 4
  seq := readU32 bytes 8
  overruns := readU32 bytes 12

/-- Decoded usbio_time_reply_t. -/
structure TimeReply where
  status : Option Status
  millis : UInt32
  micros : UInt32
  deriving DecidableEq, Repr

/-- decode_time_reply(), on a reply of full length. -/
def decodeTimeReply (bytes : List UInt8) : TimeReply where
  status := Status.ofCode? (readU8 bytes 0)
  millis := readU32 bytes 4
  micros := readU32 bytes 8

/-- Decoded header of an EVENT_POP or EVENT_COUNTS reply. -/
structure EventHeader where
  status : Option Status
  count : UInt8
  dropped : UInt8
  pending : UInt8
  deriving DecidableEq, Repr

/-- decode_event_header(), on a reply that holds a header. -/
def decodeEventHeader (bytes : List UInt8) : EventHeader where
  status := Status.ofCode? (readU8 bytes 0)
  count := readU8 bytes 1
  dropped := readU8 bytes 2
  pending := readU8 bytes 3

/-- Decoded usbio_event_t. -/
structure PinEvent where
  pin : UInt8
  edge : Option EdgeMode
  seq : UInt16
  tMs : UInt32
  deriving DecidableEq, Repr

/-- decode_event(). -/
def decodeEvent (bytes : List UInt8) (index : Nat) : PinEvent :=
  let base := eventHeaderLen + eventLen * index
  { pin := readU8 bytes base
    edge := EdgeMode.ofCode? (readU8 bytes (base + 1))
    seq := readU16 bytes (base + 2)
    tMs := readU32 bytes (base + 4) }

/-- Decoded usbio_event_count_t. -/
structure EventCount where
  pin : UInt8
  mode : Option EdgeMode
  count : UInt16
  deriving DecidableEq, Repr

/-- decode_event_count(). -/
def decodeEventCount (bytes : List UInt8) (index : Nat) : EventCount :=
  let base := eventHeaderLen + eventCountLen * index
  { pin := readU8 bytes base
    mode := EdgeMode.ofCode? (readU8 bytes (base + 1))
    count := readU16 bytes (base + 2) }

theorem or_shiftLeft {lo k : Nat} (hi : Nat) (small : lo < 2 ^ k) :
    lo ||| hi <<< k = lo + 2 ^ k * hi := by
  rw [Nat.or_comm, ← Nat.shiftLeft_add_eq_or_of_lt small, Nat.shiftLeft_eq, Nat.mul_comm,
    Nat.add_comm]

variable {front bytes : List UInt8} {offset k : Nat}

theorem readU16_toNat (bytes : List UInt8) (offset : Nat) :
    (readU16 bytes offset).toNat =
      (readU8 bytes offset).toNat + 256 * (readU8 bytes (offset + 1)).toNat := by
  have low := (readU8 bytes offset).toNat_lt
  have high := (readU8 bytes (offset + 1)).toNat_lt
  have fits : (readU8 bytes (offset + 1)).toNat <<< 8 < 65536 := by
    rw [Nat.shiftLeft_eq]
    omega
  have shifted : ((readU8 bytes (offset + 1)).toUInt16 <<< 8).toNat =
      (readU8 bytes (offset + 1)).toNat <<< 8 := by
    rw [UInt16.toNat_shiftLeft, UInt8.toNat_toUInt16]
    exact Nat.mod_eq_of_lt fits
  rw [readU16, UInt16.toNat_or, shifted, UInt8.toNat_toUInt16]
  exact or_shiftLeft _ low

theorem readU32_toNat (bytes : List UInt8) (offset : Nat) :
    (readU32 bytes offset).toNat =
      (readU16 bytes offset).toNat + 65536 * (readU16 bytes (offset + 2)).toNat := by
  have low := (readU16 bytes offset).toNat_lt
  have high := (readU16 bytes (offset + 2)).toNat_lt
  have fits : (readU16 bytes (offset + 2)).toNat <<< 16 < 4294967296 := by
    rw [Nat.shiftLeft_eq]
    omega
  have shifted : ((readU16 bytes (offset + 2)).toUInt32 <<< 16).toNat =
      (readU16 bytes (offset + 2)).toNat <<< 16 := by
    rw [UInt32.toNat_shiftLeft, UInt16.toNat_toUInt32]
    exact Nat.mod_eq_of_lt fits
  rw [readU32, UInt32.toNat_or, shifted, UInt16.toNat_toUInt32]
  exact or_shiftLeft _ low

/-- Reading sees only the bytes it reads. -/
theorem readU8_append (inside : offset < front.length) :
    readU8 (front ++ bytes) offset = readU8 front offset := by
  unfold readU8
  rw [List.getD_eq_getElem?_getD, List.getD_eq_getElem?_getD, List.getElem?_append_left inside]

theorem readU16_append (inside : offset + 1 < front.length) :
    readU16 (front ++ bytes) offset = readU16 front offset := by
  unfold readU16
  rw [readU8_append (by omega), readU8_append inside]

theorem readU32_append (inside : offset + 3 < front.length) :
    readU32 (front ++ bytes) offset = readU32 front offset := by
  unfold readU32
  rw [readU16_append (by omega), readU16_append inside]

/-- Reading behind a front does not see it. -/
theorem readU8_skip : readU8 (front ++ bytes) (front.length + k) = readU8 bytes k := by
  unfold readU8
  rw [List.getD_eq_getElem?_getD, List.getD_eq_getElem?_getD,
    List.getElem?_append_right (Nat.le_add_right ..), Nat.add_sub_cancel_left]

theorem readU16_skip : readU16 (front ++ bytes) (front.length + k) = readU16 bytes k := by
  unfold readU16
  rw [readU8_skip, Nat.add_assoc, readU8_skip]

theorem readU32_skip : readU32 (front ++ bytes) (front.length + k) = readU32 bytes k := by
  unfold readU32
  rw [readU16_skip, Nat.add_assoc, readU16_skip]

/-- The host reads what put_u16() wrote. -/
theorem readU16_putU16 (v : UInt16) : readU16 (putU16 v ++ bytes) 0 = v := by
  have small := v.toNat_lt
  have low : readU8 (putU16 v ++ bytes) 0 = v.toUInt8 := rfl
  have high : readU8 (putU16 v ++ bytes) (0 + 1) = (v >>> 8).toUInt8 := rfl
  apply UInt16.toNat_inj.mp
  rw [readU16_toNat, low, high, UInt16.toNat_toUInt8, UInt16.toNat_toUInt8,
    UInt16.toNat_shiftRight, Nat.shiftRight_eq_div_pow]
  change v.toNat % 256 + 256 * (v.toNat / 256 % 256) = v.toNat
  omega

theorem readU32_putU32 (v : UInt32) : readU32 (putU32 v ++ bytes) 0 = v := by
  have small := v.toNat_lt
  have b0 : readU8 (putU32 v ++ bytes) 0 = v.toUInt8 := rfl
  have b1 : readU8 (putU32 v ++ bytes) (0 + 1) = (v >>> 8).toUInt8 := rfl
  have b2 : readU8 (putU32 v ++ bytes) (0 + 2) = (v >>> 16).toUInt8 := rfl
  have b3 : readU8 (putU32 v ++ bytes) (0 + 2 + 1) = (v >>> 24).toUInt8 := rfl
  apply UInt32.toNat_inj.mp
  rw [readU32_toNat, readU16_toNat, readU16_toNat, b0, b1, b2, b3]
  simp only [UInt32.toNat_toUInt8, UInt32.toNat_shiftRight, Nat.shiftRight_eq_div_pow]
  change v.toNat % 256 + 256 * (v.toNat / 256 % 256) +
    65536 * (v.toNat / 65536 % 256 + 256 * (v.toNat / 16777216 % 256)) = v.toNat
  omega

theorem flatMap_putU16_length (values : List UInt16) :
    (values.flatMap putU16).length = 2 * values.length := by
  induction values with
  | nil => rfl
  | cons v values ih =>
    rw [List.flatMap_cons, List.length_append, ih, putU16_length, List.length_cons]
    omega

/-- The i-th of a row of values. -/
theorem readU16_flatMap {values : List UInt16} {i : Nat} (inside : i < values.length) :
    readU16 (values.flatMap putU16 ++ bytes) (2 * i) = values[i] := by
  induction values generalizing i with
  | nil => contradiction
  | cons v values ih =>
    rw [List.flatMap_cons, List.append_assoc]
    cases i with
    | zero => exact readU16_putU16 v
    | succ i =>
      have further : 2 * (i + 1) = (putU16 v).length + 2 * i := by
        rw [putU16_length]
        omega
      rw [further, readU16_skip, List.getElem_cons_succ]
      exact ih (Nat.lt_of_succ_lt_succ inside)

end ArduinoDriver
