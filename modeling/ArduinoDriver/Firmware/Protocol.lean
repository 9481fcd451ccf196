import Mathlib.Data.List.Basic

namespace ArduinoDriver

/-- bRequest codes (enum usbio_request). -/
inductive Request where
  | getInfo | getPinCaps | pinMode | dioRead | dioWrite | aiRead | pwmWrite | dacWrite
  | dioReadAll | aiReadAll | getStatus | streamSelect | streamStart | streamStop
  | streamStatus | getTime | eventConfig | eventPop | eventCounts | reset
  deriving DecidableEq, Repr

def Request.code : Request → UInt8
  | .getInfo => 0x00
  | .getPinCaps => 0x01
  | .pinMode => 0x02
  | .dioRead => 0x03
  | .dioWrite => 0x04
  | .aiRead => 0x05
  | .pwmWrite => 0x06
  | .dacWrite => 0x07
  | .dioReadAll => 0x10
  | .aiReadAll => 0x11
  | .getStatus => 0x20
  | .streamSelect => 0x30
  | .streamStart => 0x31
  | .streamStop => 0x32
  | .streamStatus => 0x33
  | .getTime => 0x21
  | .eventConfig => 0x40
  | .eventPop => 0x41
  | .eventCounts => 0x42
  | .reset => 0x7F

def Request.all : List Request :=
  [.getInfo, .getPinCaps, .pinMode, .dioRead, .dioWrite, .aiRead, .pwmWrite, .dacWrite,
   .dioReadAll, .aiReadAll, .getStatus, .streamSelect, .streamStart, .streamStop,
   .streamStatus, .getTime, .eventConfig, .eventPop, .eventCounts, .reset]

/-- The request a raw bRequest byte names, if any: the firmware's `switch`. -/
def Request.ofCode? (c : UInt8) : Option Request := Request.all.find? (fun r => r.code == c)

@[simp] theorem Request.ofCode_code (r : Request) : Request.ofCode? r.code = some r := by
  cases r <;> decide

theorem Request.code_of_ofCode {c : UInt8} {r : Request} (h : Request.ofCode? c = some r) :
    r.code = c := by
  simpa using List.find?_some h

/-- Status byte of IN replies and GET_STATUS.last_error (enum usbio_status). -/
inductive Status where
  | ok | busy | badPin | badMode | badCmd | unsupported | queueFull | badValue
  deriving DecidableEq, Repr

def Status.code : Status → UInt8
  | .ok => 0
  | .busy => 1
  | .badPin => 2
  | .badMode => 3
  | .badCmd => 4
  | .unsupported => 5
  | .queueFull => 6
  | .badValue => 7

/-- wValue of PIN_MODE (enum usbio_pin_mode). -/
inductive PinMode where
  | input | output | inputPullup | inputPulldown | analogIn | pwm | dac
  deriving DecidableEq, Repr

def PinMode.code : PinMode → UInt16
  | .input => 0
  | .output => 1
  | .inputPullup => 2
  | .inputPulldown => 3
  | .analogIn => 4
  | .pwm => 5
  | .dac => 6

/-- `none` from USBIO_MODE_COUNT on. -/
def PinMode.ofCode? (v : UInt16) : Option PinMode :=
  [.input, .output, .inputPullup, .inputPulldown, .analogIn, .pwm, .dac].find?
    (fun m : PinMode => m.code == v)

@[simp] theorem PinMode.ofCode_code (m : PinMode) : PinMode.ofCode? m.code = some m := by
  cases m <;> decide

theorem PinMode.code_of_ofCode {v : UInt16} {m : PinMode} (h : PinMode.ofCode? v = some m) :
    m.code = v := by
  simpa using List.find?_some h

/-- Low byte of EVENT_CONFIG's wValue (enum usbio_edge_mode). -/
inductive EdgeMode where
  | off | rising | falling | change
  deriving DecidableEq, Repr

def EdgeMode.code : EdgeMode → UInt8
  | .off => 0
  | .rising => 1
  | .falling => 2
  | .change => 3

/-- `none` from USBIO_EDGE_COUNT on. -/
def EdgeMode.ofCode? (v : UInt8) : Option EdgeMode :=
  [.off, .rising, .falling, .change].find? (fun e : EdgeMode => e.code == v)

@[simp] theorem EdgeMode.ofCode_code (e : EdgeMode) : EdgeMode.ofCode? e.code = some e := by
  cases e <;> decide

/-- Bits of the capability byte (enum usbio_pin_caps). -/
def capDio : UInt8 := 1
def capAin : UInt8 := 2
def capPwm : UInt8 := 4
def capDac : UInt8 := 8

def hasCap (caps cap : UInt8) : Bool := caps &&& cap != 0

/-- Bits of usbio_info_t.flags (enum usbio_info_flags). -/
def flagVendorInterface : UInt16 := 1
def flagPulldown : UInt16 := 2
def flagStreaming : UInt16 := 4
def flagEvents : UInt16 := 8

def hasFlag (flags flag : UInt16) : Bool := flags &&& flag != 0

/-- wIndex of STREAM_START (enum usbio_stream_flags). -/
def streamFlagDigital : UInt8 := 1
def streamFlagStopOnOverrun : UInt8 := 2

def hasStreamFlag (flags flag : UInt8) : Bool := flags &&& flag != 0

abbrev maxPins : Nat := 128
abbrev maxAin : Nat := 32
abbrev queueDepth : Nat := 32
abbrev maxReplyLen : Nat := 128
abbrev maxStreamChannels : Nat := 8
abbrev maxEventPins : Nat := 8
abbrev eventQueueDepth : Nat := 32
abbrev maxEventsPerPop : Nat := 7
abbrev streamRingDepth : Nat := 32
abbrev streamTxFailureLimit : Nat := 3

def streamMagic : UInt16 := 0x5355
def streamMinPeriodUs : UInt16 := 1
def streamFlushUs : UInt32 := 2000
def protocolVersion : UInt16 := 0x0001

/-- USBIO_MAGIC, the four characters `UIO1`. -/
def usbioMagic : List UInt8 := [0x55, 0x49, 0x4F, 0x31]

/-- sizeof(usbio_stream_header_t). -/
abbrev streamHeaderLen : Nat := 12

/-- Longest record: header, eight samples and the 16-byte bitmap of 128 pins
padded to an even length. -/
abbrev streamRecordMaxLen : Nat :=
  streamHeaderLen + 2 * maxStreamChannels + ((maxPins + 7) / 8 + 1) / 2 * 2

/-- put_u16(): little-endian, as every multi-byte field travels. -/
def putU16 (v : UInt16) : List UInt8 := [v.toUInt8, (v >>> 8).toUInt8]

def putU32 (v : UInt32) : List UInt8 :=
  [v.toUInt8, (v >>> 8).toUInt8, (v >>> 16).toUInt8, (v >>> 24).toUInt8]

@[simp] theorem putU16_length (v : UInt16) : (putU16 v).length = 2 := rfl

@[simp] theorem putU32_length (v : UInt32) : (putU32 v).length = 4 := rfl

/-- One raw SETUP packet, as the transport hands it over. -/
structure SetupPacket where
  bmRequestType : UInt8
  bRequest : UInt8
  wValue : UInt16
  wIndex : UInt16
  wLength : UInt16
  deriving DecidableEq, Repr

end ArduinoDriver
