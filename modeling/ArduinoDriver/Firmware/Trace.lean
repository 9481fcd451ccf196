import ArduinoDriver.Firmware.Setup

namespace ArduinoDriver

/-- pinMode() arguments of the Arduino core. -/
inductive PadMode where
  | input | output | inputPullup | inputPulldown
  deriving DecidableEq, Repr

/-- Arduino calls that act on a pin. -/
inductive Call where
  | pinMode (pin : Nat) (mode : PadMode)
  | digitalWrite (pin : Nat) (high : Bool)
  | analogWrite (pin : Nat) (value : Nat)
  deriving DecidableEq, Repr

/-- What a step leaves behind for the statements: the outcome of each request and
the loop side's effects. No definition of the firmware reads it. -/
inductive Obs where
  /-- An OUT request was ACKed. -/
  | accepted (req : Request) (index value : UInt16)
  /-- An IN request was answered. -/
  | answered (req : Request) (index : UInt16) (reply : List UInt8)
  | stalled
  | disconnected
  | pollStarted
  | pollReturned
  | call (c : Call)
  /-- apply_mode(), or apply_reset() for a digital pin, put `pin` in `mode`. -/
  | applied (pin : Nat) (mode : PinMode)
  /-- poll() left its do-while with no RESET pending. -/
  | drained
  | skipped (c : Command)
  | executed (c : Command)
  /-- event_poll() accepted an edge; `queued` is false when the ring was full. -/
  | edge (ev : UsbioEvent) (queued : Bool)
  /-- stream_poll() tested for a pending START. -/
  | startTested
  /-- stream_poll() did the reset of a START. -/
  | streamReset
  | sampled (record : List UInt8)
  | overrun
  | wrote (packet : List UInt8) (result : WriteResult)
  /-- StreamTxFailureLimit was reached and `n` pending records were dropped. -/
  | dropped (n : Nat)
  deriving DecidableEq, Repr

/-- Newest first. -/
abbrev Log := List Obs

/-- How the log records a request that `handle_setup` answered with `r`. -/
def SetupPacket.obs (s : SetupPacket) (r : Option (List UInt8)) : Obs :=
  match r, Request.ofCode? s.bRequest with
  | some reply, some req =>
    if s.isIn then .answered req s.index reply else .accepted req s.index s.wValue
  | _, _ => .stalled

end ArduinoDriver
