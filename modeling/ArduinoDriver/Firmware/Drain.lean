import ArduinoDriver.Firmware.Trace

namespace ArduinoDriver

/-- Where poll() stands in its do-while; a step is one access to a field the
interrupt side can change, or one of apply_reset() and execute(). -/
inductive DrainPc where
  | resetTest
  | resetSeen
  | resetApply (seen : UInt8)
  | resetDone (seen : UInt8)
  | drainTest
  | copySlot
  | bumpTail (tail : UInt8) (c : Command)
  | epochTest (c : Command)
  | execute (c : Command)
  | outerTest
  deriving DecidableEq, Repr

/-- pinMode() argument of a digital mode; INPUT_PULLDOWN falls back to INPUT on
a board without pull-downs. -/
def padMode (b : Board) : PinMode → Option PadMode
  | .input => some .input
  | .output => some .output
  | .inputPullup => some .inputPullup
  | .inputPulldown => some (if b.hasPulldown then .inputPulldown else .input)
  | .analogIn | .pwm | .dac => none

/-- apply_mode(). A digital mode is followed by a first read of the pad, an
analog one by a first sample, an output one starts at 0. -/
def applyMode (b : Board) (env : Env) (d : UsbIoDevice) (pin : Nat) (mode : PinMode) :
    UsbIoDevice × Log :=
  match padMode b mode with
  | some pad =>
    ({ d with dio := Function.update d.dio pin (readPin env pin) },
      [.applied pin mode, .call (.pinMode pin pad)])
  | none =>
    if mode = .analogIn then
      ({ d with ain := Function.update d.ain pin (readAnalog env pin) }, [.applied pin mode])
    else (d, [.applied pin mode, .call (.analogWrite pin 0)])

/-- execute(). Only the four queued requests reach it. -/
def execute (b : Board) (env : Env) (d : UsbIoDevice) (c : Command) : UsbIoDevice × Log :=
  match c.cmd with
  | .pinMode =>
    match PinMode.ofCode? (c.value.toUInt8.toUInt16) with
    | some mode => applyMode b env d c.pin mode
    | none => (d, [])
  | .dioWrite =>
    ({ d with dio := Function.update d.dio c.pin (decide (c.value ≠ 0)) },
      [.call (.digitalWrite c.pin (decide (c.value ≠ 0)))])
  | .pwmWrite => (d, [.call (.analogWrite c.pin c.value.toNat)])
  | .dacWrite => (d, [.call (.analogWrite c.pin (c.value.toNat * 2 ^ (b.pwmBits - b.dacBits)))])
  | _ => (d, [])

/-- apply_reset(). -/
def applyReset (env : Env) (d : UsbIoDevice) : UsbIoDevice :=
  { d with
    dio := fun p =>
      if p < d.nPins then (if hasCap (d.caps p) capDio then readPin env p else false) else d.dio p
    ain := fun p => if p < d.nPins then 0 else d.ain p
    ainCursor := 0 }

/-- The calls of apply_reset(), newest first. -/
def resetLog (d : UsbIoDevice) : Log :=
  ((List.range d.nPins).filter (fun p => hasCap (d.caps p) capDio)).reverse.flatMap
    (fun p => [.applied p .input, .call (.pinMode p .input)])

/-- One step of poll()'s do-while; `none` once it is left. -/
def drainStep (b : Board) (env : Env) (d : UsbIoDevice) :
    DrainPc → UsbIoDevice × Option DrainPc × Log
  | .resetTest => (d, some (if d.resetDone ≠ d.resetRequests then .resetSeen else .drainTest), [])
  | .resetSeen => (d, some (.resetApply d.resetRequests), [])
  | .resetApply seen => (applyReset env d, some (.resetDone seen), resetLog d)
  | .resetDone seen => ({ d with resetDone := seen }, some .resetTest, [])
  | .drainTest => (d, some (if d.tail ≠ d.head then .copySlot else .outerTest), [])
  | .copySlot => (d, some (.bumpTail d.tail (d.queue (ringSlot queueDepth d.tail))), [])
  | .bumpTail tail c => ({ d with tail := tail + 1 }, some (.epochTest c), [])
  | .epochTest c =>
    if c.epoch = d.epoch then (d, some (.execute c), []) else (d, some .drainTest, [.skipped c])
  | .execute c =>
    let r := execute b env d c
    (r.1, some .drainTest, .executed c :: r.2)
  | .outerTest =>
    if d.resetDone ≠ d.resetRequests then (d, some .resetTest, []) else (d, none, [.drained])

end ArduinoDriver
