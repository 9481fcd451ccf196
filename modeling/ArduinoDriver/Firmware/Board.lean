import ArduinoDriver.Firmware.Protocol
import Mathlib.Algebra.Group.Nat.Defs

namespace ArduinoDriver

/-- What a build fixes: UsbIoBoard.h for one architecture and variant, and the
transport's constants. The Prop fields are promised there: named_pin_count()
clamps to USBIO_MAX_PINS and no board is without pins, a resolution is a uint8_t,
dac_bits is asserted not to exceed pwm_bits, the transports that stream report
VENDOR_INTERFACE and STREAMING and the others nothing, and a bulk packet is one byte
short of 64 or 512. -/
structure Board where
  boardId : UInt16
  adcBits : Nat
  pwmBits : Nat
  dacBits : Nat
  vrefMv : UInt16
  ioMv : UInt16
  hasPulldown : Bool
  pinCount : Nat
  pinHasDio : Nat → Bool
  pinHasAin : Nat → Bool
  pinHasPwm : Nat → Bool
  pinHasDac : Nat → Bool
  /-- USBIO_HAS_STREAM_TRANSPORT. -/
  hasStreamTransport : Bool
  /-- usbio_transport_begin(). -/
  transportFlags : UInt16
  /-- usbio_transport_stream_packet_max(). -/
  packetMax : Nat
  pinCount_pos : 0 < pinCount
  pinCount_le : pinCount ≤ maxPins
  pwmBits_lt : pwmBits < 256
  dacBits_le : dacBits ≤ pwmBits
  transportFlags_eq : transportFlags =
    if hasStreamTransport then flagVendorInterface ||| flagStreaming else 0
  packetMax_eq : packetMax = 63 ∨ packetMax = 511

/-- A board of one pin that can do everything, on a streaming transport. -/
def onePinBoard : Board where
  boardId := 0
  adcBits := 10
  pwmBits := 8
  dacBits := 8
  vrefMv := 5000
  ioMv := 5000
  hasPulldown := false
  pinCount := 1
  pinHasDio := fun _ => true
  pinHasAin := fun _ => true
  pinHasPwm := fun _ => true
  pinHasDac := fun _ => true
  hasStreamTransport := true
  transportFlags := 5
  packetMax := 63
  pinCount_pos := by decide
  pinCount_le := by decide
  pwmBits_lt := by decide
  dacBits_le := by decide
  transportFlags_eq := by decide
  packetMax_eq := .inl rfl

/-- A board of two such pins. -/
def twoPinBoard : Board := { onePinBoard with pinCount := 2, pinCount_pos := by decide, pinCount_le := by decide }

def fullScale (bits : Nat) : Nat := if 16 ≤ bits then 0xFFFF else 2 ^ bits - 1

/-- Outcome of usbio_transport_stream_write(). -/
inductive WriteResult where
  | sent | busy | failed
  deriving DecidableEq, Repr

/-- What the Arduino core and the transport answer while one step runs. -/
structure Env where
  /-- digitalRead(pin) == HIGH. -/
  digitalRead : Nat → Bool
  analogRead : Nat → Int
  millis : UInt32
  micros : UInt32
  streamWrite : WriteResult

/-- All pads low, all clocks at zero. -/
def stillEnv (streamWrite : WriteResult) : Env := ⟨fun _ => false, fun _ => 0, 0, 0, streamWrite⟩

/-- read_analog(): negative readings become 0, the rest is capped at 16 bits. -/
def readAnalog (env : Env) (pin : Nat) : UInt16 :=
  if env.analogRead pin < 0 then 0
  else if 0xFFFF < env.analogRead pin then 0xFFFF
  else UInt16.ofNat (env.analogRead pin).toNat

/-- read_pin(). -/
def readPin (env : Env) (pin : Nat) : Bool := env.digitalRead pin

/-- (int32_t)(a - b) < 0, the wrapping order of micros() and millis(). -/
def before (a b : UInt32) : Bool := 0x80000000 ≤ a - b

theorem before_iff {a b : UInt32} : before a b = true ↔ 2 ^ 31 ≤ (a - b).toNat := by
  unfold before
  rw [decide_eq_true_iff, UInt32.le_iff_toNat_le]
  rfl

/-- The signed difference of two times less than half a turn apart. -/
theorem before_ofNat {time deadline : Nat} (near : deadline < time + 2 ^ 31)
    (near' : time < deadline + 2 ^ 31) :
    before (UInt32.ofNat time) (UInt32.ofNat deadline) = true ↔ time < deadline := by
  rw [before_iff, UInt32.toNat_sub, UInt32.toNat_ofNat', UInt32.toNat_ofNat']
  omega

end ArduinoDriver
