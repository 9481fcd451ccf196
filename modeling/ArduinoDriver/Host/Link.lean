import ArduinoDriver.Firmware.Machine
import ArduinoDriver.Host.Protocol

namespace ArduinoDriver

/-- What happens around one control transfer. -/
structure Transfer where
  /-- Steps of the device since the transfer before. -/
  before : List Act
  /-- What the core answers while handle_setup() runs. -/
  env : Env
  /-- The transfer fails for the host; the flag tells whether the device got it. -/
  failure : Option (Error × Bool)
  /-- what() of the transport's StallError. -/
  stallText : String

/-- The bus with the device at its other end: everything the device has done since
`start`, oldest first, and what is still to happen around transfers. -/
structure Link where
  board : Board
  start : Machine
  acts : List Act
  plan : Nat → Transfer

def Link.machine (l : Link) : Machine := run l.board l.start l.acts

/-- The state a host call works on: the link and StreamState. -/
structure HostState where
  link : Link
  selected : List UInt8
  streaming : Bool

abbrev Host := EStateM Error HostState

def Link.idled (l : Link) : Link :=
  { l with acts := l.acts ++ (l.plan 0).before, plan := fun n => l.plan (n + 1) }

def Link.received (l : Link) (s : SetupPacket) : Link :=
  { l.idled with acts := l.idled.acts ++ [.setup (l.plan 0).env s] }

/-- What handle_setup() answers to the next transfer. -/
def Link.reply (l : Link) (s : SetupPacket) : Option (List UInt8) :=
  (handleSetup l.board (l.plan 0).env l.idled.machine.dev s).2

/-- One control transfer: control_in() or control_out() of the transport. -/
def control (s : SetupPacket) : Host (List UInt8) := fun st =>
  let l := st.link
  match (l.plan 0).failure with
  | some (e, false) => .error e { st with link := l.idled }
  | some (e, true) => .error e { st with link := l.received s }
  | none =>
    match l.reply s with
    | some reply => .ok reply { st with link := l.received s }
    | none => .error ⟨.stall, (l.plan 0).stallText⟩ { st with link := l.received s }

theorem run_append (b : Board) (m : Machine) (acts more : List Act) :
    run b m (acts ++ more) = run b (run b m acts) more := by
  unfold run
  rw [List.foldl_append]

variable {l : Link} {s : SetupPacket}

theorem Link.idled_machine : l.idled.machine = run l.board l.machine (l.plan 0).before :=
  run_append l.board l.start l.acts (l.plan 0).before

theorem Link.received_machine :
    (l.received s).machine = step l.board l.idled.machine (.setup (l.plan 0).env s) :=
  run_append l.board l.start l.idled.acts [.setup (l.plan 0).env s]

end ArduinoDriver
