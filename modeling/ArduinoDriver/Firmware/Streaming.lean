import ArduinoDriver.Firmware.Trace

namespace ArduinoDriver

/-- usbio_stream_header_t. -/
def streamHeader (nSamples : UInt16) (seq tUs : UInt32) : List UInt8 :=
  putU16 streamMagic ++ putU16 nSamples ++ putU32 seq ++ putU32 tUs

/-- A reading of one channel: the ADC for an ANALOG_IN pin, else the level. -/
def readChannel (env : Env) (d : UsbIoDevice) (pin : Nat) : UInt16 :=
  if d.mode pin = some .analogIn then readAnalog env pin else if readPin env pin then 1 else 0

/-- The record grown by the bitmap and, at an odd length, by a zero byte. -/
def padBitmap (buf bits : List UInt8) : List UInt8 :=
  if (buf.length + bits.length) % 2 = 1 then buf ++ bits ++ [0] else buf ++ bits

def StreamState.full (s : StreamState) : Bool := streamRingDepth ≤ (s.head - s.tail).toNat

/-- The record at the ring's tail. -/
def StreamState.front (s : StreamState) : List UInt8 := s.ring (ringSlot streamRingDepth s.tail)

/-- What stream_poll() resets for a START. -/
def StreamState.restart (s : StreamState) (now : UInt32) : StreamState :=
  { s with
    head := 0, tail := 0, seq := 0, overruns := 0, txFailures := 0
    packet := [], packetRecords := 0, recordLen := 0, deadlineUs := now }

def StreamState.push (s : StreamState) (record : List UInt8) : StreamState :=
  { s with
    ring := Function.update s.ring (ringSlot streamRingDepth s.head) record
    head := s.head + 1 }

/-- One record moved from the ring to the end of the packet. -/
def StreamState.pack (s : StreamState) (now : UInt32) : StreamState :=
  { s with
    packetSinceUs := if s.packet = [] then now else s.packetSinceUs
    packet := s.packet ++ s.front
    recordLen := s.front.length
    packetRecords := s.packetRecords + 1
    tail := s.tail + 1 }

/-- After SENT: a fresh packet. -/
def StreamState.sent (s : StreamState) : StreamState :=
  { s with txFailures := 0, packet := [], packetRecords := 0 }

/-- After StreamTxFailureLimit failures: the packet and the ring are dropped and
counted as overruns. -/
def StreamState.dropBacklog (s : StreamState) : StreamState :=
  { s with
    overruns := s.overruns + s.packetRecords.toUInt32 + (s.head - s.tail).toUInt32
    tail := s.head, packet := [], packetRecords := 0, txFailures := 0 }

/-- Where poll() stands in stream_poll() and stream_sample(); `now` is the
sampling time, `buf` the record so far, `bits` its bitmap. -/
inductive StreamPc where
  | startTest
  | startDone
  | startReset
  | runTest
  | dueTest
  | sampleHeader (now : UInt32)
  | channelTest (now : UInt32) (buf : List UInt8) (i : Nat)
  | channelRead (now : UInt32) (buf : List UInt8) (i : Nat)
  | digitalTest (now : UInt32) (buf : List UInt8)
  | bitmapPin (now : UInt32) (buf bits : List UInt8) (p : Nat)
  | bumpSeq (now : UInt32) (buf : List UInt8)
  | roomTest (now : UInt32) (buf : List UInt8)
  | bumpOverruns (now : UInt32)
  | stopFlagTest (now : UInt32)
  | stopRunning (now : UInt32)
  | pushRecord (now : UInt32) (buf : List UInt8)
  | periodTest (now : UInt32)
  | advance (now : UInt32)
  | catchUp (now : UInt32)
  | packRecord
  | flushTest
  | writeCall
  | writeResult (packet : List UInt8)
  | failStop
  | failDrop
  deriving DecidableEq, Repr

/-- One step of stream_poll() or stream_sample(); `none` once stream_poll()
returns. -/
def streamStep (b : Board) (env : Env) (d : UsbIoDevice) :
    StreamPc → StreamState × Option StreamPc × Log
  | .startTest =>
    let s := d.stream
    (s, some (if s.startDone ≠ s.startRequests then .startDone else .runTest), [.startTested])
  | .startDone =>
    let s := d.stream
    ({ s with startDone := s.startRequests }, some .startReset, [])
  | .startReset => (d.stream.restart env.micros, some .runTest, [.streamReset])
  | .runTest => (d.stream, some (if d.stream.running then .dueTest else .packRecord), [])
  | .dueTest =>
    let s := d.stream
    (s, some (if s.periodUs = 0 ∨ !before env.micros s.deadlineUs then .sampleHeader env.micros
      else .packRecord), [])
  | .sampleHeader now =>
    let s := d.stream
    (s, some (.channelTest now (streamHeader s.nChannels.toUInt16 s.seq now) 0), [])
  | .channelTest now buf i =>
    (d.stream, some (if i < d.stream.nChannels.toNat then .channelRead now buf i
      else .digitalTest now buf), [])
  | .channelRead now buf i =>
    (d.stream, some (.channelTest now (buf ++ putU16 (readChannel env d (d.stream.channels i)))
      (i + 1)), [])
  | .digitalTest now buf =>
    (d.stream, some (if hasStreamFlag d.stream.flags streamFlagDigital then
      .bitmapPin now buf (List.replicate (bitmapLen d.nPins) 0) 0 else .bumpSeq now buf), [])
  | .bitmapPin now buf bits p =>
    (d.stream, some (if p < d.nPins then .bitmapPin now buf (ArduinoDriver.bitmapPin d bits p) (p + 1)
      else .bumpSeq now (padBitmap buf bits)), [])
  | .bumpSeq now buf =>
    ({ d.stream with seq := d.stream.seq + 1 }, some (.roomTest now buf), [])
  | .roomTest now buf =>
    (d.stream, some (if d.stream.full then .bumpOverruns now else .pushRecord now buf), [])
  | .bumpOverruns now =>
    ({ d.stream with overruns := d.stream.overruns + 1 }, some (.stopFlagTest now), [.overrun])
  | .stopFlagTest now =>
    (d.stream, some (if hasStreamFlag d.stream.flags streamFlagStopOnOverrun then .stopRunning now
      else .periodTest now), [])
  | .stopRunning now => ({ d.stream with running := false }, some (.periodTest now), [])
  | .pushRecord now buf => (d.stream.push buf, some (.periodTest now), [.sampled buf])
  | .periodTest now =>
    (d.stream, some (if d.stream.periodUs ≠ 0 then .advance now else .packRecord), [])
  | .advance now =>
    let s := d.stream
    ({ s with deadlineUs := s.deadlineUs + s.periodUs.toUInt32 }, some (.catchUp now), [])
  | .catchUp now =>
    let s := d.stream
    -- a whole period late: the schedule restarts from `now`
    (if before now s.deadlineUs then s else { s with deadlineUs := now + s.periodUs.toUInt32 },
      some .packRecord, [])
  | .packRecord =>
    let s := d.stream
    if s.tail ≠ s.head then
      if b.packetMax < s.packet.length + s.front.length then (s, some .flushTest, [])
      else (s.pack env.micros, some .packRecord, [])
    else (s, some .flushTest, [])
  | .flushTest =>
    let s := d.stream
    let full := decide (b.packetMax - s.packet.length < s.recordLen)
    if s.packet = [] then (s, none, [])
    else if !full && s.running && decide (env.micros - s.packetSinceUs < streamFlushUs) then
      (s, none, [])
    else (s, some .writeCall, [])
  | .writeCall => (d.stream, some (.writeResult d.stream.packet), [])
  | .writeResult packet =>
    let s := d.stream
    match env.streamWrite with
    | .busy => (s, none, [.wrote packet .busy])
    | .failed =>
      ({ s with txFailures := s.txFailures + 1 },
        if s.txFailures + 1 < streamTxFailureLimit then none else some .failStop,
        [.wrote packet .failed])
    | .sent => (s.sent, none, [.wrote packet .sent])
  | .failStop => ({ d.stream with running := false }, some .failDrop, [])
  | .failDrop =>
    let s := d.stream
    (s.dropBacklog, none, [.dropped (s.packetRecords.toNat + (s.head - s.tail).toNat)])

end ArduinoDriver
