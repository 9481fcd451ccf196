import ArduinoDriver.Firmware.Drain
import ArduinoDriver.Firmware.Events
import ArduinoDriver.Firmware.Shadow
import ArduinoDriver.Firmware.Streaming
import ArduinoDriver.Lib.Reach

namespace ArduinoDriver

/-- Where poll() stands; `idle` while it is not executing. -/
inductive Pc where
  | idle
  | drain (pc : DrainPc)
  | shadow (pc : ShadowPc)
  | event (pc : EventPc)
  | stream (pc : StreamPc)
  deriving DecidableEq, Repr

/-- The device with the position of poll() and the log of the run so far. -/
structure Machine where
  dev : UsbIoDevice
  pc : Pc
  log : Log

/-- The interrupt side acts at once; the loop side takes one step of poll(). -/
inductive Act where
  | setup (env : Env) (s : SetupPacket)
  | disconnect
  | loop (env : Env)

/-- Right after begin(). -/
def boot (b : Board) : Machine := ⟨begin b .init, .idle, []⟩

def afterEvent (b : Board) : Pc := if b.hasStreamTransport then .stream .startTest else .idle

def returnLog (pc : Pc) : Log := if pc = .idle then [.pollReturned] else []

/-- One step of poll(). -/
def loopStep (b : Board) (env : Env) (m : Machine) : Machine :=
  match m.pc with
  | .idle => { m with pc := .drain .resetTest, log := .pollStarted :: m.log }
  | .drain pc =>
    let r := drainStep b env m.dev pc
    ⟨r.1, (r.2.1.map Pc.drain).getD (.shadow .enter), r.2.2 ++ m.log⟩
  | .shadow pc =>
    let r := shadowStep env m.dev pc
    { m with dev := r.1, pc := (r.2.map Pc.shadow).getD (.event .readClock) }
  | .event pc =>
    let r := eventStep env m.dev pc
    let next := (r.2.1.map Pc.event).getD (afterEvent b)
    ⟨{ m.dev with event := r.1 }, next, returnLog next ++ r.2.2 ++ m.log⟩
  | .stream pc =>
    let r := streamStep b env m.dev pc
    let next := (r.2.1.map Pc.stream).getD .idle
    ⟨{ m.dev with stream := r.1 }, next, returnLog next ++ r.2.2 ++ m.log⟩

def setupStep (b : Board) (env : Env) (s : SetupPacket) (m : Machine) : Machine :=
  let r := handleSetup b env m.dev s
  { m with dev := r.1, log := s.obs r.2 :: m.log }

def step (b : Board) (m : Machine) : Act → Machine
  | .setup env s => setupStep b env s m
  | .disconnect => { m with dev := handleUsbDisconnected m.dev, log := .disconnected :: m.log }
  | .loop env => loopStep b env m

def run (b : Board) (m : Machine) (acts : List Act) : Machine := acts.foldl (step b) m

/-- An OUT request arriving on its own. -/
def request (req : Request) (value index : UInt16) : Act :=
  .setup (stillEnv .busy) (.out req value index)

/-- All pads high, 5 ms after the start. -/
def highEnv : Env := { stillEnv .sent with digitalRead := fun _ => true, millis := 5 }

/-- Pin 0 is armed, scanned low and then high. -/
def oneEdge : List Act :=
  [request .pinMode 0 0, request .eventConfig 3 0] ++
    List.replicate 32 (.loop (stillEnv .sent)) ++ List.replicate 33 (.loop highEnv)

/-- Machines reached from begin() by any interleaving. -/
def Reachable (b : Board) : Machine → Prop := Lib.Reach (step b) (fun _ _ => True) (boot b)

end ArduinoDriver
