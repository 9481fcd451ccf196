import ArduinoDriver.Firmware.Trace

namespace ArduinoDriver

/-- Where poll() stands in refresh_shadow(). -/
inductive ShadowPc where
  | enter
  | pin (p : Nat)
  | analog (i : Nat)
  deriving DecidableEq, Repr

/-- One step of refresh_shadow(), a pin of either loop at a time. -/
def shadowStep (env : Env) (d : UsbIoDevice) : ShadowPc → UsbIoDevice × Option ShadowPc
  | .enter => (d, if d.nPins = 0 then none else some (.pin 0))
  | .pin p =>
    if p < d.nPins then
      (if modeIsInput (d.mode p) then
        { d with dio := Function.update d.dio p (readPin env p) } else d, some (.pin (p + 1)))
    else (d, some (.analog 0))
  | .analog i =>
    if i < d.nPins then
      let p := d.ainCursor
      let d₁ := { d with ainCursor := (p + 1) % d.nPins }
      if d.mode p = some .analogIn then
        ({ d₁ with ain := Function.update d.ain p (readAnalog env p) }, none)
      else (d₁, some (.analog (i + 1)))
    else (d, none)

end ArduinoDriver
