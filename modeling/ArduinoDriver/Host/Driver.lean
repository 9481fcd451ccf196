import ArduinoDriver.Host.Reads
import ArduinoDriver.Lib.Program

namespace ArduinoDriver

open Lib (Program)

/-- What a call of the driver does besides computing: the steps another thread can come
between, and every element it takes from a buffer. -/
inductive DriverOp where
  /-- control_in() or control_out() of the transport. -/
  | transfer (s : SetupPacket)
  /-- Element `index` of a buffer that holds `size`. -/
  | access (index size : Nat)
  /-- StreamState::streaming. -/
  | loadStreaming
  | storeStreaming (value : Bool)
  /-- StreamState::mutex. -/
  | lock
  | unlock
  /-- StreamState::selected. -/
  | loadSelected
  | storeSelected (pins : List UInt8)
  deriving DecidableEq

abbrev DriverOp.Reply : DriverOp → Type
  | .transfer _ => Except Error (List UInt8)
  | .loadStreaming => Bool
  | .loadSelected => List UInt8
  | .access .. | .storeStreaming _ | .lock | .unlock | .storeSelected _ => Unit

abbrev Driver := Program DriverOp.Reply Error

/-- The step on a host of one thread, whose transfers are those of its link. -/
def HostState.perform : (op : DriverOp) → HostState → op.Reply × HostState
  | .transfer s, st => match control s st with
    | .ok reply st' => (.ok reply, st')
    | .error e st' => (.error e, st')
  | .loadStreaming, st => (st.streaming, st)
  | .storeStreaming value, st => ((), { st with streaming := value })
  | .loadSelected, st => (st.selected, st)
  | .storeSelected pins, st => ((), { st with selected := pins })
  | .access .., st | .lock, st | .unlock, st => ((), st)

/-- The call made by a single thread. -/
abbrev Driver.alone {α : Type} (p : Driver α) : Host α := p.run HostState.perform

namespace Driver

def transfer (s : SetupPacket) : Driver (List UInt8) := do
  let outcome : Except Error (List UInt8) ← Program.perform (DriverOp.transfer s)
  match outcome with
  | .ok reply => return reply
  | .error e => throw e

/-- read_u8() of what a transfer delivered. -/
def byteAt (bytes : List UInt8) (offset : Nat) : Driver UInt8 := do
  let _ ← Program.perform (DriverOp.access offset bytes.length)
  return readU8 bytes offset

def loadStreaming : Driver Bool := Program.perform DriverOp.loadStreaming

/-- `if (bad) throw e;`. -/
def refuseIf (bad : Prop) [Decidable bad] (e : Error) : Driver Unit := if bad then throw e else pure ()

/-- raw_in(). -/
def rawIn (req : Request) (index len : UInt16) : Driver (List UInt8) := do
  let reply ← transfer (.inp req index len)
  if len.toNat < reply.length then
    throw ⟨.protocol, s!"{describeRequest req index}: transport returned {reply.length} bytes " ++
      s!"for a {len}-byte request"⟩
  else return reply

/-- What follows a STALL in send_out(). -/
def explain (req : Request) (index : UInt16) (stalled : Error) : Driver Unit := do
  let reply ← rawIn .getStatus 0 (UInt16.ofNat statusReplyLen)
  if reply.length < statusReplyLen then
    throw ⟨.protocol, s!"{describeRequest req index} was rejected (STALL) and GET_STATUS " ++
      s!"answered {reply.length} of {statusReplyLen} bytes"⟩
  else
    let reason ← byteAt reply 2
    if reason = Status.ok.code then throw stalled
    else throw (statusError reason (describeRequest req index))

/-- send_out(). -/
def sendOut (req : Request) (value index : UInt16) : Driver Unit :=
  tryCatch (do let _ ← transfer (.out req value index)) fun e =>
    if e.kind ≠ .stall then throw e else explain req index e

/-- One attempt of read_in(); `again` is what follows a BUSY. -/
def readInOnce (req : Request) (index len : UInt16) (minLen : Nat) (again : Driver (List UInt8)) :
    Driver (List UInt8) := do
  let reply ← rawIn req index len
  if reply.length = 0 then
    throw ⟨.protocol, s!"{describeRequest req index}: empty reply"⟩
  else
    let status ← byteAt reply 0
    if status = Status.busy.code then again
    else if status ≠ Status.ok.code then throw (statusError status (describeRequest req index))
    else if reply.length < minLen then
      throw ⟨.protocol,
        s!"{describeRequest req index}: short reply ({reply.length} of {minLen} bytes)"⟩
    else return reply

/-- The loop of read_in(), with `left` more attempts after this one. -/
def readInFrom (req : Request) (index len : UInt16) (minLen attempts : Nat) :
    Nat → Driver (List UInt8)
  | 0 => readInOnce req index len minLen
      (throw ⟨.deviceBusy,
        s!"{describeRequest req index}: device still busy after {attempts} attempts"⟩)
  | left + 1 => readInOnce req index len minLen (readInFrom req index len minLen attempts left)

/-- read_in(). -/
def readIn (d : Device) (req : Request) (index len : UInt16) (minLen : Nat) :
    Driver (List UInt8) :=
  readInFrom req index len minLen d.attempts (d.attempts - 1)

def checkNotStreaming (what : String) : Driver Unit := do
  refuseIf (← loadStreaming)
    ⟨.deviceBusy, s!"{what}: a Stream is running on this device; only Stream::stats() and " ++
      "Stream::stop() may be used until it stops"⟩

/-- status(): last_error and queue_pending. -/
def status (d : Device) : Driver (UInt8 × UInt8) := do
  checkNotStreaming "status"
  let reply ← readIn d .getStatus 0 (UInt16.ofNat statusReplyLen) statusReplyLen
  let pending ← byteAt reply 1
  let lastError ← byteAt reply 2
  return (lastError, pending)

variable {α : Type}

@[simp] theorem transfer_alone (s : SetupPacket) : (transfer s).alone = control s := by
  funext st
  have answered : HostState.perform (.transfer s) st = match control s st with
      | .ok reply st' => (.ok reply, st')
      | .error e st' => (.error e, st') := rfl
  simp only [transfer, Program.run_bind, Program.run_perform]
  change EStateM.bind _ _ st = _
  unfold EStateM.bind
  dsimp only
  rw [answered]
  cases control s st <;> rfl

@[simp] theorem byteAt_alone (bytes : List UInt8) (offset : Nat) :
    (byteAt bytes offset).alone = pure (readU8 bytes offset) := rfl

@[simp] theorem refuseIf_alone (bad : Prop) [Decidable bad] (e : Error) :
    (refuseIf bad e).alone = ArduinoDriver.refuseIf bad e :=
  Program.run_ite ..

@[simp] theorem rawIn_alone (req : Request) (index len : UInt16) :
    (rawIn req index len).alone = ArduinoDriver.rawIn req index len := by
  simp [rawIn, ArduinoDriver.rawIn]

@[simp] theorem sendOut_alone (req : Request) (value index : UInt16) :
    (sendOut req value index).alone = ArduinoDriver.sendOut req value index := by
  simp [sendOut, explain, ArduinoDriver.sendOut]

theorem readInOnce_alone (req : Request) (index len : UInt16) (minLen : Nat)
    (again : Driver (List UInt8)) :
    (readInOnce req index len minLen again).alone =
      ArduinoDriver.readInOnce req index len minLen again.alone := by
  simp [readInOnce, ArduinoDriver.readInOnce]

@[simp] theorem readIn_alone (d : Device) (req : Request) (index len : UInt16) (minLen : Nat) :
    (readIn d req index len minLen).alone = d.readIn req index len minLen := by
  unfold readIn Device.readIn
  induction d.attempts - 1 with
  | zero => exact readInOnce_alone ..
  | succ left ih =>
    unfold readInFrom ArduinoDriver.readInFrom
    rw [readInOnce_alone, ih]

@[simp] theorem checkNotStreaming_alone (what : String) :
    (checkNotStreaming what).alone = Device.checkNotStreaming what := by
  simp [checkNotStreaming, Device.checkNotStreaming]
  rfl

theorem status_alone (d : Device) : (status d).alone = d.status := by
  simp [status, Device.status]

end Driver

end ArduinoDriver
