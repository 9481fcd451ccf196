import ArduinoDriver.Firmware.In
import ArduinoDriver.Host.Device

namespace ArduinoDriver

/-- One sample of a record; the volts are computed from `raw`. -/
structure Sample where
  pin : UInt8
  raw : UInt16
  tUs : UInt32
  deriving DecidableEq, Repr

/-- StreamStats, less device_overruns, which the status poll fills in. -/
structure StreamStats where
  recordsReceived : Nat
  seqGaps : Nat
  hostDrops : Nat
  resyncs : Nat
  staleRecords : Nat
  deriving DecidableEq, Repr

structure StreamHeader where
  magic : UInt16
  nSamples : UInt16
  seq : UInt32
  tUs : UInt32
  deriving DecidableEq, Repr

/-- decode_stream_header(). -/
def decodeStreamHeader (bytes : List UInt8) : StreamHeader where
  magic := readU16 bytes 0
  nSamples := readU16 bytes 2
  seq := readU32 bytes 4
  tUs := readU32 bytes 8

def streamDigitalBitmapLen (nPins : Nat) : Nat := bitmapLen nPins + bitmapLen nPins % 2

def streamRecordLen (nSamples : Nat) (digital : Bool) (nPins : Nat) : Nat :=
  streamHeaderLen + 2 * nSamples + if digital then streamDigitalBitmapLen nPins else 0

/-- What Stream::Impl fixes when it is made. -/
structure StreamImpl where
  config : StreamConfig
  nPins : Nat
  digital : Bool
  startTUs : UInt32
  deriving Repr

def Device.stream (d : Device) (h : StreamHandle) : StreamImpl where
  config := h.config
  nPins := d.info.nPins.toNat
  digital := hasStreamFlag h.config.flags streamFlagDigital
  startTUs := h.startTUs

/-- What changes while the worker decodes, the buffered bytes apart. `handed` are the
calls of deliver(), the argument of each callback, oldest first. -/
structure Worker where
  lastSeq : Option UInt32
  hunting : Bool
  stats : StreamStats
  ready : List (List Sample)
  handed : List (List Sample)
  deriving DecidableEq, Repr

def Worker.init : Worker := ⟨none, false, ⟨0, 0, 0, 0, 0⟩, [], []⟩

/-- The loop of deliver(): the oldest records go until there is room for one. Also
counts them. -/
def makeRoom (capacity : Nat) : List (List Sample) → List (List Sample) × Nat
  | [] => ([], 0)
  | oldest :: ready =>
    if capacity ≤ (oldest :: ready).length then
      ((makeRoom capacity ready).1, (makeRoom capacity ready).2 + 1)
    else (oldest :: ready, 0)

/-- The records a sequence number tells lost: a jump of 2^31 or more is backwards. -/
def seqGap (lastSeq : Option UInt32) (seq : UInt32) : Nat :=
  match lastSeq with
  | none => 0
  | some last => if seq - (last + 1) < 0x80000000 then (seq - (last + 1)).toNat else 0

namespace StreamImpl

variable (impl : StreamImpl)

def nSamplesExpected : UInt16 := UInt16.ofNat impl.config.pins.length

/-- Length of the records of this stream. -/
def recordLen : Nat := streamRecordLen impl.nSamplesExpected.toNat impl.digital impl.nPins

def deliver (w : Worker) (samples : List Sample) : Worker :=
  let room := makeRoom impl.config.queueCapacity w.ready
  { w with
    ready := room.1 ++ [samples]
    stats := { w.stats with hostDrops := w.stats.hostDrops + room.2 }
    handed := w.handed ++ [samples] }

/-- Sampled before start_t_us, modulo the wrap of micros(). -/
def isStale (tUs : UInt32) : Bool :=
  let age := impl.startTUs - tUs
  age != 0 && decide (age < 0x80000000)

/-- The samples of the record at the front of `head`. -/
def samples (head : List UInt8) : List Sample :=
  let header := decodeStreamHeader head
  (List.range header.nSamples.toNat).map fun i =>
    ⟨impl.config.pins.getD i 0, readU16 head (streamHeaderLen + 2 * i), header.tUs⟩

/-- A record that is kept: numbered, counted and delivered. -/
def acceptRecord (w : Worker) (head : List UInt8) : Worker :=
  let seq := (decodeStreamHeader head).seq
  impl.deliver
    { w with
      lastSeq := some seq
      stats := { w.stats with
        seqGaps := w.stats.seqGaps + seqGap w.lastSeq seq
        recordsReceived := w.stats.recordsReceived + 1 } }
    (impl.samples head)

def sync (w : Worker) : Worker :=
  if w.hunting then
    { w with hunting := false, stats := { w.stats with resyncs := w.stats.resyncs + 1 } }
  else w

/-- A whole record at the front of `head`. -/
def takeRecord (w : Worker) (head : List UInt8) : Worker :=
  let w := sync w
  if impl.isStale (decodeStreamHeader head).tUs then
    { w with stats := { w.stats with staleRecords := w.stats.staleRecords + 1 } }
  else impl.acceptRecord w head

/-- One iteration of the decode loop on the bytes from `pos` on, and by how much it
moves `pos`; `none` where the loop ends. -/
def decodeStep (w : Worker) (head : List UInt8) : Option (Worker × Nat) :=
  if head.length < streamHeaderLen then none
  else
    let header := decodeStreamHeader head
    if header.magic ≠ streamMagic ∨ header.nSamples ≠ impl.nSamplesExpected then
      some ({ w with hunting := true }, 1)
    else
      let recordLen := streamRecordLen header.nSamples.toNat impl.digital impl.nPins
      if head.length < recordLen then none
      else some (impl.takeRecord w head, recordLen)

/-- At most `fuel` iterations of the decode loop; what is left is what the buffer
keeps. -/
def decodeLoop : Nat → Worker → List UInt8 → Nat → Worker × List UInt8
  | 0, w, buffer, pos => (w, buffer.drop pos)
  | fuel + 1, w, buffer, pos =>
    match impl.decodeStep w (buffer.drop pos) with
    | none => (w, buffer.drop pos)
    | some (w', n) => decodeLoop fuel w' buffer (pos + n)

/-- What worker_main() does with the bytes of one bulk_in(). -/
def pass (st : Worker × List UInt8) (chunk : List UInt8) : Worker × List UInt8 :=
  let buffer := st.2 ++ chunk
  impl.decodeLoop buffer.length st.1 buffer 0

end StreamImpl

end ArduinoDriver
