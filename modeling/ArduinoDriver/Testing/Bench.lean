import ArduinoDriver.Firmware.FullCapacity
import ArduinoDriver.Firmware.Identity
import ArduinoDriver.Firmware.Watchlog
import ArduinoDriver.Testing.FakeTransport

namespace ArduinoDriver

/-- A fake board with the capability table and the flags of the firmware's. -/
def Board.fakeBoard (b : Board) : FakeBoard where
  boardId := b.boardId
  caps := (List.range b.pinCount).map (boot b).dev.caps
  adcBits := UInt8.ofNat b.adcBits
  pwmBits := UInt8.ofNat b.pwmBits
  dacBits := UInt8.ofNat b.dacBits
  queueDepth := UInt8.ofNat ArduinoDriver.queueDepth
  vrefMv := b.vrefMv
  ioMv := b.ioMv
  flags := (boot b).dev.flags
  nAinOverride := none
  streamMaxChannels := 8
  eventMaxPins := 8
  streamMinPeriodUs := 1

/-- The firmware and the fake side by side. Both are fed the same levels and the same millis();
`pads` is what digitalRead() gives, which is not the level fed where the board drives the pad. -/
structure Bench where
  machine : Machine
  fake : FakeTransport
  pads : Nat → Bool
  fed : Nat → Bool
  millis : UInt32

def Bench.start (b : Board) : Bench := ⟨boot b, .init b.fakeBoard, fun _ => false, fun _ => false, 0⟩

/-- What else a step of poll() may read; `underAnalog` is what digitalRead() gives of a pad that
analogWrite() drives, which is up to the core. -/
structure PollRead where
  analogRead : Nat → Int
  underAnalog : Nat → Bool
  micros : UInt32
  streamWrite : WriteResult

def PollRead.still : PollRead := ⟨fun _ => 0, fun _ => false, 0, .busy⟩

/-- A mode applied to a pad: OUTPUT leaves the level it had, as the cores do, and an input takes
the level fed to it. -/
def PinMode.padLevel (mode : PinMode) (level fed underAnalog : Bool) : Bool :=
  match mode with
  | .output => level
  | .pwm | .dac => underAnalog
  | .input | .inputPullup | .inputPulldown | .analogIn => fed

/-- The pads after one command. -/
def Command.driven (c : Command) (pads fed underAnalog : Nat → Bool) : Nat → Bool :=
  match c.cmd with
  | .pinMode =>
    match PinMode.ofCode? c.value.toUInt8.toUInt16 with
    | some mode =>
      Function.update pads c.pin (mode.padLevel (pads c.pin) (fed c.pin) (underAnalog c.pin))
    | none => pads
  | .dioWrite => Function.update pads c.pin (decide (c.value ≠ 0))
  | .pwmWrite | .dacWrite => Function.update pads c.pin (underAnalog c.pin)
  | _ => pads

/-- The pads after apply_reset(). -/
def UsbIoDevice.driven (d : UsbIoDevice) (pads fed : Nat → Bool) : Nat → Bool := fun p =>
  if p < d.nPins ∧ hasCap (d.caps p) capDio then fed p else pads p

/-- The pads behind the calls that a step from here makes of the core, before it reads any. -/
def Bench.driven (t : Bench) (r : PollRead) : Nat → Bool :=
  match t.machine.pc with
  | .drain (.resetApply _) => t.machine.dev.driven t.pads t.fed
  | .drain (.execute c) => c.driven t.pads t.fed r.underAnalog
  | _ => t.pads

def Bench.env (t : Bench) (r : PollRead) : Env :=
  ⟨t.driven r, r.analogRead, t.millis, r.micros, r.streamWrite⟩

def Bench.pollStep (b : Board) (t : Bench) (r : PollRead) : Bench :=
  { t with machine := loopStep b (t.env r) t.machine, pads := t.driven r }

/-- poll() until it returns, as far as the readings go. -/
def Bench.poll (b : Board) : Bench → List PollRead → Bench
  | t, [] => t
  | t, r :: rs =>
    if (t.pollStep b r).machine.pc = .idle then t.pollStep b r else (t.pollStep b r).poll b rs

/-- poll() returns within the readings. -/
def Bench.completes (b : Board) : Bench → List PollRead → Bool
  | _, [] => false
  | t, r :: rs => (t.pollStep b r).machine.pc == .idle || (t.pollStep b r).completes b rs

/-- poll() is about to stop a running stream on its own: a full record ring with
STOP_ON_OVERRUN, or StreamTxFailureLimit failed writes. -/
def Bench.givesUp (t : Bench) : Bool :=
  t.machine.dev.stream.running &&
    match t.machine.pc with
    | .stream (.stopRunning _) | .stream .failStop => true
    | _ => false

/-- The stream is not given up before poll() returns. -/
def Bench.streamsOn (b : Board) : Bench → List PollRead → Bool
  | _, [] => true
  | t, r :: rs =>
    !t.givesUp && ((t.pollStep b r).machine.pc == .idle || (t.pollStep b r).streamsOn b rs)

/-- What is fed to both: a control request to the device, or a level change of a pin. -/
inductive Stimulus where
  | out (bRequest : UInt8) (wValue wIndex : UInt16)
  | inp (bRequest : UInt8) (wValue wIndex wLength : UInt16)
  | level (pin : Nat) (high : Bool)
  deriving DecidableEq, Repr

def outPacket (bRequest : UInt8) (wValue wIndex : UInt16) : SetupPacket :=
  ⟨0x40, bRequest, wValue, wIndex, 0⟩

def inPacket (bRequest : UInt8) (wValue wIndex wLength : UInt16) : SetupPacket :=
  ⟨0xC0, bRequest, wValue, wIndex, wLength⟩

/-- The board drives the pad. -/
def drivesPad : Option PinMode → Bool
  | some .output | some .pwm | some .dac => true
  | _ => false

def Bench.feed (b : Board) (t : Bench) : Stimulus → Bench
  | .out bRequest wValue wIndex => { t with
      machine := setupStep b (t.env .still) (outPacket bRequest wValue wIndex) t.machine
      fake := (t.fake.controlOut bRequest wValue wIndex).1 }
  | .inp bRequest wValue wIndex wLength => { t with
      machine := setupStep b (t.env .still) (inPacket bRequest wValue wIndex wLength) t.machine
      fake := (t.fake.controlIn bRequest wIndex wLength).1 }
  | .level pin high => { t with
      pads := if drivesPad (t.machine.dev.mode pin) then t.pads else Function.update t.pads pin high
      fed := Function.update t.fed pin high
      fake := t.fake.setDigital pin high }

/-- A stimulus is followed by a poll(); time passes and poll() runs in between as well. -/
inductive BenchAct where
  | clock (ms : UInt32)
  | poll (readings : List PollRead)
  | stimulus (s : Stimulus) (readings : List PollRead)

def Bench.step (b : Board) (t : Bench) : BenchAct → Bench
  | .clock ms => { t with millis := ms, fake := t.fake.setMillis ms }
  | .poll readings => t.poll b readings
  | .stimulus s readings => (t.feed b s).poll b readings

/-- set_digital() is for an existing pin that is not an output. -/
def Bench.feedable (b : Board) (t : Bench) : Stimulus → Bool
  | .level pin _ => decide (pin < b.pinCount) && t.machine.dev.mode pin != some .output
  | _ => true

/-- Every poll() runs to completion. -/
def Bench.complete (b : Board) (t : Bench) : BenchAct → Bool
  | .clock _ => true
  | .poll readings => t.completes b readings
  | .stimulus s readings => t.feedable b s && (t.feed b s).completes b readings

/-- PIN_MODE puts a selected pin in another mode while the stream runs. -/
def UsbIoDevice.modeStopsStream (b : Board) (d : UsbIoDevice) (wValue : UInt16) (pin : Nat) : Bool :=
  d.stream.running && (d.stream.channelIndex pin).isSome &&
    match PinMode.ofCode? wValue with
    | some mode => modeAllowed b (d.caps pin) mode
    | none => false

/-- The stamp of the next arm is 1 to 127 after that of slot `j`. -/
def EventState.recent (e : EventState) (j : Nat) : Bool :=
  let x := e.armSeq + 1 - (e.watch j).armSeq
  x != 0 && x < 0x80

/-- An arm whose stamp tells: the slot was not last scanned with the same one, the other watches
are recent, and a watched pin is already the last in their order. -/
def EventState.armsClearly (e : EventState) (pin : Nat) : Bool :=
  let i := e.armSlot pin
  (e.watch i).seenSeq != e.armSeq + 1 &&
    (List.range maxEventPins).all fun j => j == i || !(e.watch j).active ||
      (e.recent j && ((e.watchIndex pin).isNone || e.armedAfter i j))

/-- An EVENT_CONFIG that is accepted and arms. -/
def UsbIoDevice.configArms (d : UsbIoDevice) (wValue : UInt16) (pin : Nat) : Bool :=
  hasCap (d.caps pin) capDio && modeIsInput (d.mode pin) &&
    (match EdgeMode.ofCode? wValue.toUInt8 with
      | some edge => edge != .off
      | none => false) &&
    ((d.event.watchIndex pin).isSome || decide (d.event.nWatched.toNat < maxEventPins))

/-- Less than 2^31 ms since the deadline of the watch in slot `i`, or since its first scan. -/
def Bench.inReach (t : Bench) (i : Nat) (w : FakeWatch) : Bool :=
  match w.lastAcceptMs with
  | some last => decide ((t.millis - last).toNat < 2 ^ 31 + w.debounceMs.toNat)
  | none => decide ((t.millis - (t.machine.dev.event.watch i).debounceUntil).toNat < 2 ^ 31)

/-- An edge neither so late that the firmware's clock comparison wraps nor accepted while
discarded events take up the last free places of the ring. -/
def Bench.edgeTells (t : Bench) (pin : Nat) (high : Bool) : Bool :=
  match t.machine.dev.event.watchIndex pin, t.fake.findWatch pin with
  | some i, some w =>
    t.fed pin == high || !edgeMatches w.edge high ||
      (t.inReach i w && (before t.millis (t.machine.dev.event.watch i).debounceUntil ||
        !(t.machine.dev.event.full && t.machine.dev.event.hasTombstone)))
  | _, _ => true

/-- An OUTPUT pin is at the level fed to it. -/
def Bench.atFed (t : Bench) (pin : Nat) : Bool :=
  t.machine.dev.mode pin != some .output || t.pads pin == t.fed pin

/-- An accepted PIN_MODE releases an OUTPUT pin at the level fed to it only, and makes no OUTPUT
of a pin under analogWrite(). -/
def Bench.modeTells (b : Board) (t : Bench) (wValue : UInt16) (pin : Nat) : Bool :=
  match PinMode.ofCode? wValue with
  | some mode => !modeAllowed b (t.machine.dev.caps pin) mode ||
      if mode = .output then t.machine.dev.mode pin != some .pwm && t.machine.dev.mode pin != some .dac
      else t.atFed pin
  | none => true

/-- The stimuli the fake follows the firmware in. -/
def Bench.followed (b : Board) (t : Bench) : Stimulus → Bool
  | .out bRequest wValue wIndex =>
    match Request.ofCode? bRequest with
    | some .pinMode =>
      !t.machine.dev.modeStopsStream b wValue wIndex.toNat && t.modeTells b wValue wIndex.toNat
    | some .reset => (List.range t.machine.dev.nPins).all t.atFed
    | some .eventConfig =>
      !t.machine.dev.configArms wValue wIndex.toNat || t.machine.dev.event.armsClearly wIndex.toNat
    | _ => true
  | .inp .. => true
  | .level pin high => t.edgeTells pin high

/-- Complete polls that keep the stream, after stimuli the fake follows. -/
def Bench.faithful (b : Board) (t : Bench) (act : BenchAct) : Bool :=
  t.complete b act &&
    match act with
    | .clock _ => true
    | .poll readings => t.streamsOn b readings
    | .stimulus s readings => t.followed b s && (t.feed b s).streamsOn b readings

end ArduinoDriver
