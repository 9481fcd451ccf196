import ArduinoDriver.Firmware.EventRing
import ArduinoDriver.Firmware.Replies
import ArduinoDriver.Host.Reads

namespace ArduinoDriver

variable {b : Board} {env : Env} {d : UsbIoDevice} {m : Machine} {bytes : List UInt8} {p q i k : Nat}
  {α : Type}

/-- The answer to an IN request of the driver, cut at the length it asks for. -/
def replyTo (b : Board) (env : Env) (d : UsbIoDevice) (req : Request) (index : UInt16) (len : Nat) :
    Option (List UInt8) :=
  (handleSetup b env d (.inp req index (UInt16.ofNat len))).2

/-- An answer that fits is not cut. -/
theorem replyTo_whole {req : Request} {index : UInt16} {len : Nat} (small : len < 2 ^ 16)
    (said : (replyBytes b env d req.code index (UInt16.ofNat len)).2 = some bytes)
    (fits : bytes.length ≤ len) : replyTo b env d req index len = some bytes := by
  have asked : (UInt16.ofNat len).toNat = len := UInt16.toNat_ofNat_of_lt' small
  rw [replyTo, handleSetup_inp, handleIn, said, Option.map_some, asked, List.take_of_length_le fits]

/-- Byte `k` of the i-th of a row of entries of one size. -/
theorem readU8_flatMap {f : α → List UInt8} {size : Nat} (sizes : ∀ x, (f x).length = size)
    {entries : List α} (inside : i < entries.length) (within : k < size) :
    readU8 (entries.flatMap f) (size * i + k) = readU8 (f entries[i]) k := by
  induction entries generalizing i with
  | nil => contradiction
  | cons x entries ih =>
    rw [List.flatMap_cons]
    cases i with
    | zero =>
      rw [Nat.mul_zero, Nat.zero_add]
      exact readU8_append (by rw [sizes]; exact within)
    | succ i =>
      have further : size * (i + 1) + k = (f x).length + (size * i + k) := by
        rw [sizes, Nat.mul_succ]
        omega
      rw [further, readU8_skip, List.getElem_cons_succ]
      exact ih (Nat.lt_of_succ_lt_succ inside)

section Entries

variable {f : α → List UInt8} {size : Nat} {entries : List α}

/-- The same behind a header. -/
theorem readU8_entry (header : List UInt8) (sizes : ∀ x, (f x).length = size) (inside : i < entries.length)
    (within : k < size) :
    readU8 (header ++ entries.flatMap f) (header.length + size * i + k) = readU8 (f entries[i]) k := by
  rw [Nat.add_assoc, readU8_skip, readU8_flatMap sizes inside within]

theorem readU16_entry (header : List UInt8) (sizes : ∀ x, (f x).length = size) (inside : i < entries.length)
    (within : k + 1 < size) :
    readU16 (header ++ entries.flatMap f) (header.length + size * i + k) =
      readU16 (f entries[i]) k := by
  unfold readU16
  rw [readU8_entry header sizes inside (by omega), Nat.add_assoc _ k 1, readU8_entry header sizes inside within]

theorem readU32_entry (header : List UInt8) (sizes : ∀ x, (f x).length = size) (inside : i < entries.length)
    (within : k + 3 < size) :
    readU32 (header ++ entries.flatMap f) (header.length + size * i + k) =
      readU32 (f entries[i]) k := by
  unfold readU32
  rw [readU16_entry header sizes inside (by omega), Nat.add_assoc _ k 2,
    readU16_entry header sizes inside (by omega)]

end Entries

/-- GET_INFO as the host has it. -/
def Board.info (b : Board) (d : UsbIoDevice) : Info where
  protocolVersion := protocolVersion
  boardId := b.boardId
  nPins := UInt8.ofNat d.nPins
  nAin := UInt8.ofNat d.nAin
  adcBits := UInt8.ofNat b.adcBits
  pwmBits := UInt8.ofNat b.pwmBits
  dacBits := UInt8.ofNat b.dacBits
  queueDepth := UInt8.ofNat queueDepth
  vrefMv := b.vrefMv
  ioMv := b.ioMv
  flags := d.flags
  streamMaxChannels := if hasFlag d.flags flagStreaming then UInt8.ofNat maxStreamChannels else 0
  eventMaxPins := if hasFlag d.flags flagEvents then UInt8.ofNat maxEventPins else 0
  streamMinPeriodUs := if hasFlag d.flags flagStreaming then streamMinPeriodUs else 0

theorem decodeInfo_infoBytes (b : Board) (d : UsbIoDevice) :
    decodeInfo (infoBytes b d) = .ok (b.info d) := by
  have long : ¬ (infoBytes b d).length < infoLen := by simp [infoBytes, usbioMagic]
  have magic : ¬ (infoBytes b d).take 4 ≠ usbioMagic := not_not.mpr rfl
  unfold decodeInfo
  rw [if_neg long, if_neg magic]
  have version : readU16 (infoBytes b d) 4 = protocolVersion := @readU16_putU16 [] _
  have boardId : readU16 (infoBytes b d) 6 = b.boardId := @readU16_putU16 [] _
  have vref : readU16 (infoBytes b d) 14 = b.vrefMv := @readU16_putU16 [] _
  have io : readU16 (infoBytes b d) 16 = b.ioMv := @readU16_putU16 [] _
  have flags : readU16 (infoBytes b d) 18 = d.flags := @readU16_putU16 [] _
  have period : readU16 (infoBytes b d) 22 = _ := @readU16_putU16 [] _
  rw [version, boardId, vref, io, flags, period]
  rfl

theorem hasCap_ain (caps : UInt8) : pinHas caps capAin = hasCap caps capAin := by
  have each : ∀ n < 256, pinHas (UInt8.ofNat n) capAin = hasCap (UInt8.ofNat n) capAin := by
    decide +kernel
  have same := each caps.toNat caps.toNat_lt
  rwa [UInt8.ofNat_toNat] at same

/-- The analog pins, in the order in which the host and AI_READ_ALL list them. -/
def UsbIoDevice.analogPins (d : UsbIoDevice) : List Nat :=
  (List.range d.nPins).filter fun p => hasCap (d.caps p) capAin

theorem Begun.analogPins (begun : Begun b d) : d.analogPins.length = d.nAin := by
  rw [← begun.counted]
  exact List.countP_eq_length_filter.symm

theorem readU8_table (f : Nat → UInt8) {n : Nat} (below : p < n) :
    readU8 ((List.range n).map f) p = f p := by
  rw [readU8, List.getD_eq_getElem?_getD, List.getElem?_map, List.getElem?_range below]
  rfl

theorem analogPinsOf_table (d : UsbIoDevice) :
    analogPinsOf ((List.range d.nPins).map d.caps) = d.analogPins.map UInt8.ofNat := by
  unfold analogPinsOf UsbIoDevice.analogPins
  rw [List.length_map, List.length_range]
  congr 1
  refine List.filter_congr (fun p inside => ?_)
  rw [readU8_table d.caps (List.mem_range.mp inside), hasCap_ain]

theorem Begun.nPins_toNat (begun : Begun b d) : (UInt8.ofNat d.nPins).toNat = d.nPins := by
  have few : d.nPins ≤ 128 := begun.nPins ▸ b.pinCount_le
  rw [UInt8.toNat_ofNat']
  omega

theorem Begun.nAin_toNat (begun : Begun b d) : (UInt8.ofNat d.nAin).toNat = d.nAin := by
  have few : d.nAin ≤ 32 := begun.few
  rw [UInt8.toNat_ofNat']
  omega

/-- load_caps() accepts the table and has the analog pins. -/
theorem decodeCaps_table (begun : Begun b d) :
    decodeCaps (b.info d) ((List.range d.nPins).map d.caps) =
      .ok ((List.range d.nPins).map d.caps, d.analogPins.map UInt8.ofNat) := by
  have pins : (b.info d).nPins.toNat = d.nPins := begun.nPins_toNat
  have analog : (b.info d).nAin.toNat = d.nAin := begun.nAin_toNat
  have table : (List.range d.nPins).map (readU8 ((List.range d.nPins).map d.caps)) =
      (List.range d.nPins).map d.caps :=
    List.map_congr_left (fun p inside => readU8_table d.caps (List.mem_range.mp inside))
  unfold decodeCaps
  rw [pins, analog, table]
  dsimp only
  rw [analogPinsOf_table, if_neg (by simp), if_neg (by simp [begun.analogPins])]

/-- Bit `q` of a bitmap, the way read_all_digital() tests it. -/
def bitOf (bytes : List UInt8) (q : Nat) : Bool :=
  (readU8 bytes (q / 8) >>> UInt8.ofNat (q % 8)) &&& 1 != 0

theorem bit_testBit (x : UInt8) {i : Nat} (hi : i < 8) :
    (x >>> UInt8.ofNat i &&& 1 != 0) = x.toNat.testBit i := by
  have amount : (UInt8.ofNat i).toNat % 8 = i := by
    rw [UInt8.toNat_ofNat']
    omega
  have bit : (x >>> UInt8.ofNat i &&& 1).toNat = 1 &&& x.toNat >>> i := by
    rw [UInt8.toNat_and, UInt8.toNat_shiftRight, amount, Nat.and_comm]
    rfl
  rw [Nat.testBit, ← bit, Bool.eq_iff_iff, bne_iff_ne, bne_iff_ne, ne_eq, ne_eq, ← UInt8.toNat_inj]
  rfl

theorem or_bit (x : UInt8) {i j : Nat} (hi : i < 8) (hj : j < 8) :
    ((x ||| (1 <<< UInt8.ofNat j)) >>> UInt8.ofNat i &&& 1 != 0) =
      ((x >>> UInt8.ofNat i &&& 1 != 0) || i == j) := by
  have amount : (UInt8.ofNat j).toNat % 8 = j := by
    rw [UInt8.toNat_ofNat']
    omega
  have single : (1 <<< UInt8.ofNat j : UInt8).toNat.testBit i = (i == j) := by
    have mask : (1 <<< UInt8.ofNat j : UInt8).toNat = 2 ^ j % 2 ^ 8 := by
      rw [UInt8.toNat_shiftLeft, amount, UInt8.toNat_one, Nat.one_shiftLeft]
    rw [mask, Nat.testBit_mod_two_pow, Nat.testBit_two_pow, decide_eq_true hi, Bool.true_and,
      Bool.eq_iff_iff, decide_eq_true_iff, beq_iff_eq]
    exact eq_comm
  rw [bit_testBit _ hi, bit_testBit _ hi, UInt8.toNat_or, Nat.testBit_or, single]

theorem setBit_bit (inside : p / 8 < bytes.length) : bitOf (setBit bytes p) q = (bitOf bytes q || q == p) := by
  have low := Nat.mod_lt q (show 0 < 8 by simp)
  have low' := Nat.mod_lt p (show 0 < 8 by simp)
  have read : readU8 (setBit bytes p) (q / 8) =
      if p / 8 = q / 8 then readU8 bytes (q / 8) ||| (1 <<< UInt8.ofNat (p % 8))
      else readU8 bytes (q / 8) := by
    unfold readU8 setBit
    rw [List.getD_eq_getElem?_getD, List.getD_eq_getElem?_getD, List.getElem?_modify]
    split
    · rename_i same
      rw [← same, List.getElem?_eq_getElem inside]
      rfl
    · simp
  unfold bitOf
  rw [read]
  split
  · rename_i same
    rw [or_bit _ low low']
    congr 1
    rw [Bool.eq_iff_iff, beq_iff_eq, beq_iff_eq]
    omega
  · rename_i other
    have apart : (q == p) = false := by
      rw [beq_eq_false_iff_ne]
      rintro rfl
      exact other rfl
    rw [apart, Bool.or_false]

/-- The bitmap has a bit for each pin in a digital mode whose shadow is HIGH. -/
theorem digitalBitmap_bit (d : UsbIoDevice) (inside : q < d.nPins) :
    bitOf (digitalBitmap d) q = (modeIsDigital (d.mode q) && d.dio q) := by
  have scanned : ∀ (pins : List Nat) (bytes : List UInt8), (∀ p ∈ pins, p / 8 < bytes.length) →
      bitOf (pins.foldl (bitmapPin d) bytes) q =
        (bitOf bytes q || (decide (q ∈ pins) && (modeIsDigital (d.mode q) && d.dio q))) := by
    intro pins
    induction pins with
    | nil => simp
    | cons p pins ih =>
      intro bytes room
      rw [List.foldl_cons, ih _ (fun p' inside => by
        rw [bitmapPin_length]
        exact room p' (List.mem_cons_of_mem _ inside))]
      unfold bitmapPin
      by_cases same : q = p
      · subst same
        split
        · rename_i high
          rw [setBit_bit (room q List.mem_cons_self), high]
          simp
        · rename_i low
          simp [Bool.not_eq_true _ ▸ low]
      · split
        · have apart : (q == p) = false := beq_eq_false_iff_ne.mpr same
          rw [setBit_bit (room p List.mem_cons_self), apart]
          simp [same]
        · simp [same]
  have blank : bitOf (List.replicate (bitmapLen d.nPins) 0) q = false := by
    unfold bitOf readU8
    rw [List.getD_eq_getElem?_getD, List.getElem?_replicate]
    split <;> simp
  rw [digitalBitmap, scanned, blank]
  · simp [inside]
  · intro p below
    have := List.mem_range.mp below
    rw [List.length_replicate, bitmapLen]
    omega

theorem decodeDigital_bitmap (d : UsbIoDevice) :
    decodeDigital d.nPins (allHeader d ++ digitalBitmap d) =
      (List.range d.nPins).map fun p => modeIsDigital (d.mode p) && d.dio p := by
  refine List.map_congr_left (fun p inside => ?_)
  rw [← digitalBitmap_bit d (List.mem_range.mp inside), bitOf]
  have skipped : readU8 (allHeader d ++ digitalBitmap d) (allHeaderLen + p / 8) =
      readU8 (digitalBitmap d) (p / 8) := @readU8_skip (allHeader d) _ _
  rw [skipped]

/-- What AI_READ_ALL reports of a pin. -/
def UsbIoDevice.sampleOf (d : UsbIoDevice) (p : Nat) : UInt16 :=
  if d.mode p = some .analogIn then d.ain p else 0

theorem aiAllSamples_eq (d : UsbIoDevice) :
    aiAllSamples d = (d.analogPins.map d.sampleOf).flatMap putU16 := by
  unfold aiAllSamples UsbIoDevice.analogPins UsbIoDevice.sampleOf
  induction List.range d.nPins with
  | nil => rfl
  | cons p pins ih =>
    rw [List.flatMap_cons, ih, List.filter_cons]
    split <;> simp

theorem decodeAnalog_samples (begun : Begun b d) :
    decodeAnalog d.nAin (allHeader d ++ aiAllSamples d) = d.analogPins.map d.sampleOf := by
  have long := begun.analogPins
  refine List.ext_getElem (by simp [decodeAnalog, long]) (fun i below below' => ?_)
  have inside : i < (d.analogPins.map d.sampleOf).length := below'
  have skipped : readU16 (allHeader d ++ aiAllSamples d) (allHeaderLen + 2 * i) =
      readU16 (aiAllSamples d) (2 * i) := @readU16_skip (allHeader d) _ _
  have read := @readU16_flatMap [] _ _ inside
  rw [List.append_nil, ← aiAllSamples_eq] at read
  simp only [decodeAnalog, List.getElem_map, List.getElem_range, skipped] at read ⊢
  exact read

/-- An event as the host has it. -/
def UsbioEvent.decoded (ev : UsbioEvent) : PinEvent :=
  ⟨UInt8.ofNat ev.pin, some ev.edge, ev.seq, ev.tMs⟩

theorem decodeEvent_bytes {header : List UInt8} (size : header.length = eventHeaderLen)
    {events : List UsbioEvent} (inside : i < events.length) :
    decodeEvent (header ++ events.flatMap UsbioEvent.bytes) i = events[i].decoded := by
  have sizes := UsbioEvent.bytes_length
  have pin := readU8_entry header sizes inside (show 0 < eventLen by simp)
  have edge := readU8_entry header sizes inside (show 1 < eventLen by simp [eventLen])
  have seq := readU16_entry header sizes inside (show 2 + 1 < eventLen by simp [eventLen])
  have time := readU32_entry header sizes inside (show 4 + 3 < eventLen by simp)
  have seq_bytes : readU16 events[i].bytes 2 = events[i].seq :=
    @readU16_putU16 (putU32 events[i].tMs) _
  have time_bytes : readU32 events[i].bytes 4 = events[i].tMs := @readU32_putU32 [] _
  rw [size] at pin edge seq time
  unfold decodeEvent UsbioEvent.decoded
  dsimp only
  rw [← Nat.add_zero (eventHeaderLen + eventLen * i), pin, Nat.add_zero, edge, seq, time, seq_bytes,
    time_bytes]
  congr 1
  exact EdgeMode.ofCode_code _

/-- A watch as the host has it. -/
def EventWatch.decoded (w : EventWatch) : EventCount :=
  ⟨UInt8.ofNat w.pin, some w.edgeMode, w.count⟩

theorem decodeEventCount_bytes {header : List UInt8} (size : header.length = eventHeaderLen)
    {watches : List EventWatch} (inside : i < watches.length) :
    decodeEventCount (header ++ watches.flatMap EventWatch.countBytes) i = watches[i].decoded := by
  have sizes := EventWatch.countBytes_length
  have pin := readU8_entry header sizes inside (show 0 < eventCountLen by simp)
  have mode := readU8_entry header sizes inside (show 1 < eventCountLen by simp [eventCountLen])
  have count := readU16_entry header sizes inside (show 2 + 1 < eventCountLen by simp)
  have count_bytes : readU16 watches[i].countBytes 2 = watches[i].count := @readU16_putU16 [] _
  rw [size] at pin mode count
  unfold decodeEventCount EventWatch.decoded
  dsimp only
  rw [← Nat.add_zero (eventHeaderLen + eventCountLen * i), pin, Nat.add_zero, mode, count, count_bytes]
  congr 1
  exact EdgeMode.ofCode_code _

/-- pop_events_once() has the oldest queued events and the header's counts. -/
theorem decodeEvents_pop (e : EventState) (index : UInt16) :
    decodeEvents (e.pop index).2 =
      .ok (⟨some .ok, UInt8.ofNat (e.queued.take (popCap index)).length, e.dropped,
          UInt8.ofNat (e.queued.drop (popCap index)).length⟩,
        (e.queued.take (popCap index)).map UsbioEvent.decoded) := by
  have few : (e.queued.take (popCap index)).length ≤ 7 :=
    (List.length_take_le ..).trans (popCap_le index)
  rw [EventState.pop_reply]
  generalize e.queued.take (popCap index) = taken at few
  generalize UInt8.ofNat (e.queued.drop (popCap index)).length = left
  have header : decodeEventHeader (eventHeader (UInt8.ofNat taken.length) e.dropped left ++
      taken.flatMap UsbioEvent.bytes) = ⟨some .ok, UInt8.ofNat taken.length, e.dropped, left⟩ := rfl
  have count : (UInt8.ofNat taken.length).toNat = taken.length := by
    rw [UInt8.toNat_ofNat']
    omega
  have long : (eventHeader (UInt8.ofNat taken.length) e.dropped left ++
      taken.flatMap UsbioEvent.bytes).length = eventPopLen taken.length := by
    simp only [List.length_append, eventHeader_length, List.length_flatMap, UsbioEvent.bytes_length,
      List.map_const', List.sum_replicate, Nat.nsmul_eq_mul, eventPopLen]
    exact congrArg (4 + ·) (Nat.mul_comm ..)
  unfold decodeEvents
  rw [header]
  dsimp only
  rw [count, long, if_neg (Nat.lt_irrefl _)]
  congr 2
  refine List.ext_getElem (by simp) (fun i _ below => ?_)
  have inside : i < taken.length := by simpa using below
  rw [List.getElem_map, List.getElem_range, List.getElem_map]
  exact decodeEvent_bytes rfl inside

/-- event_counts() has the active slots, in the order of EVENT_COUNTS. -/
theorem decodeEventCounts_bytes (e : EventState) :
    decodeEventCounts e.countsBytes = .ok (e.armOrder.map fun i => (e.watch i).decoded) := by
  have few : e.armOrder.length ≤ 8 := by
    rw [e.armOrder_length]
    exact Lib.Table.count_le
  have bytes : e.countsBytes = eventHeader (UInt8.ofNat e.armOrder.length) 0 0 ++
      (e.armOrder.map e.watch).flatMap EventWatch.countBytes := by
    rw [List.flatMap_map]
    rfl
  rw [bytes]
  generalize e.armOrder = order at few
  have header : decodeEventHeader (eventHeader (UInt8.ofNat order.length) 0 0 ++
      (order.map e.watch).flatMap EventWatch.countBytes) =
      ⟨some .ok, UInt8.ofNat order.length, 0, 0⟩ := rfl
  have count : (UInt8.ofNat order.length).toNat = order.length := by
    rw [UInt8.toNat_ofNat']
    omega
  have long : (eventHeader (UInt8.ofNat order.length) 0 0 ++
      (order.map e.watch).flatMap EventWatch.countBytes).length = eventCountsLen order.length := by
    simp only [List.length_append, eventHeader_length, List.length_flatMap,
      EventWatch.countBytes_length, List.map_const', List.sum_replicate, Nat.nsmul_eq_mul,
      List.length_map, eventCountsLen]
    exact congrArg (4 + ·) (Nat.mul_comm ..)
  unfold decodeEventCounts
  rw [header]
  dsimp only
  rw [count, long, if_neg (Nat.lt_irrefl _)]
  congr 1
  refine List.ext_getElem (by simp) (fun i _ below => ?_)
  have inside : i < (order.map e.watch).length := by simpa using below
  rw [List.getElem_map, List.getElem_range, decodeEventCount_bytes rfl inside]
  simp

theorem decodeStreamStatus_bytes (s : StreamState) :
    decodeStreamStatus (streamStatusBytes s) =
      ⟨some .ok, s.running, s.nChannels, s.flags, s.periodUs, if s.seq = 0 then 0 else s.seq - 1,
        s.overruns⟩ := by
  have period : readU16 (streamStatusBytes s) 4 = s.periodUs :=
    @readU16_putU16 (putU16 0 ++ putU32 (if s.seq = 0 then 0 else s.seq - 1) ++ putU32 s.overruns) _
  have seq : readU32 (streamStatusBytes s) 8 = if s.seq = 0 then 0 else s.seq - 1 :=
    @readU32_putU32 (putU32 s.overruns) _
  have overruns : readU32 (streamStatusBytes s) 12 = s.overruns := @readU32_putU32 [] _
  have running : (readU8 (streamStatusBytes s) 1 != 0) = s.running := by
    change ((if s.running then (1 : UInt8) else 0) != 0) = s.running
    cases s.running <;> rfl
  unfold decodeStreamStatus
  rw [period, seq, overruns, running]
  rfl

theorem decodeTimeReply_bytes (env : Env) :
    decodeTimeReply (timeBytes env) = ⟨some .ok, env.millis, env.micros⟩ := by
  have millis : readU32 (timeBytes env) 4 = env.millis := @readU32_putU32 (putU32 env.micros) _
  have micros : readU32 (timeBytes env) 8 = env.micros := @readU32_putU32 [] _
  unfold decodeTimeReply
  rw [millis, micros]
  rfl

/-- In every state reached by any interleaving the host's decoders read the state back from
the replies, cut at the lengths the driver asks for. -/
theorem replies_decode_to_state (b : Board) (acts : List Act) (env : Env) (index : UInt16) :
    let d := (run b (boot b) acts).dev
    let e := d.event
    let said := replyTo b env d
    let status := (if d.busy then Status.busy else Status.ok).code
    let taken := e.queued.take (popCap index)
    (said .getInfo 0 infoLen).map decodeInfo = some (.ok (b.info d)) ∧
    (b.info d).nPins.toNat = d.nPins ∧ (b.info d).nAin.toNat = d.analogPins.length ∧
    (said .getPinCaps 0 d.nPins).map (decodeCaps (b.info d)) =
      some (.ok ((List.range d.nPins).map d.caps, d.analogPins.map UInt8.ofNat)) ∧
    (said .dioReadAll 0 (dioReadAllLen d.nPins)).map
        (fun reply => (readU8 reply 0, decodeDigital d.nPins reply)) =
      some (status, (List.range d.nPins).map fun p => modeIsDigital (d.mode p) && d.dio p) ∧
    (said .aiReadAll 0 (aiReadAllLen d.nAin)).map
        (fun reply => (readU8 reply 0, decodeAnalog d.nAin reply)) =
      some (status, d.analogPins.map fun p => if d.mode p = some .analogIn then d.ain p else 0) ∧
    (said .streamStatus 0 streamStatusLen).map decodeStreamStatus =
      (if b.hasStreamTransport && hasFlag d.flags flagStreaming then
        some ⟨some .ok, d.stream.running, d.stream.nChannels, d.stream.flags, d.stream.periodUs,
          if d.stream.seq = 0 then 0 else d.stream.seq - 1, d.stream.overruns⟩
      else none) ∧
    (said .getTime 0 timeReplyLen).map decodeTimeReply = some ⟨some .ok, env.millis, env.micros⟩ ∧
    (said .eventPop index (eventPopLen maxEventsPerPop)).map decodeEvents =
      some (.ok (⟨some .ok, UInt8.ofNat taken.length, e.dropped,
          UInt8.ofNat (e.queued.length - popCap index)⟩,
        taken.map fun ev => ⟨UInt8.ofNat ev.pin, some ev.edge, ev.seq, ev.tMs⟩)) ∧
    (said .eventCounts 0 (eventCountsLen maxEventPins)).map decodeEventCounts =
      some (.ok (e.armOrder.map fun i =>
        ⟨UInt8.ofNat (e.watch i).pin, some (e.watch i).edgeMode, (e.watch i).count⟩)) ∧
    e.armOrder.Perm ((List.range maxEventPins).filter fun i => (e.watch i).active) ∧
    e.queued.length ≤ eventQueueDepth ∧ d.nPins ≤ maxPins ∧
    (∀ i, (e.watch i).pin < d.nPins) ∧ ∀ ev ∈ e.queued, ev.pin < d.nPins := by
  intro d e said status taken
  have reached : Lib.Reach (step b) (fun _ _ => True) (boot b) (run b (boot b) acts) :=
    Lib.Reach.refl.foldl (fun _ _ => trivial) acts
  have begun : Begun b d := reach_begun reached
  have known : e.Known d.nPins := (reach_known reached).state
  have inv : Invariant b d := (run_ok (boot_ok b) acts).dev
  have few : d.nPins ≤ 128 := begun.nPins ▸ b.pinCount_le
  have few_analog : d.nAin ≤ 32 := begun.few
  have header : allHeaderLen = 2 := rfl
  have samples : (aiAllSamples d).length = 2 * d.nAin := by
    rw [aiAllSamples_length, begun.counted]
  refine ⟨?_, begun.nPins_toNat, begun.nAin_toNat.trans begun.analogPins.symm, ?_, ?_, ?_, ?_, ?_,
    ?_, ?_, armOrder_perm e, liveFrom_length.trans inv.events, few, known.watched, ?_⟩
  · have whole : said .getInfo 0 infoLen = some (infoBytes b d) :=
      replyTo_whole (by decide) rfl (by simp [infoBytes, usbioMagic])
    rw [whole, Option.map_some, decodeInfo_infoBytes]
  · have asked : (UInt16.ofNat d.nPins).toNat = d.nPins :=
      UInt16.toNat_ofNat_of_lt' (Nat.lt_of_le_of_lt few (by decide))
    have bytes : (replyBytes b env d Request.getPinCaps.code 0 (UInt16.ofNat d.nPins)).2 =
        some ((List.range d.nPins).map d.caps) := by
      change some (pinCapsBytes d 0 (UInt16.ofNat d.nPins).toNat) = _
      rw [asked, pinCapsBytes, Nat.sub_zero, Nat.min_self]
      simp only [Nat.zero_add]
    have whole : said .getPinCaps 0 d.nPins = some ((List.range d.nPins).map d.caps) :=
      replyTo_whole (by omega) bytes (by simp)
    rw [whole, Option.map_some, decodeCaps_table begun]
  · have whole : said .dioReadAll 0 (dioReadAllLen d.nPins) =
        some (allHeader d ++ digitalBitmap d) :=
      replyTo_whole (by rw [dioReadAllLen]; omega) rfl (by
        simp only [allHeader, List.length_append, List.length_cons, List.length_nil,
          digitalBitmap_length, bitmapLen, dioReadAllLen]
        omega)
    rw [whole, Option.map_some, decodeDigital_bitmap]
    rfl
  · have whole : said .aiReadAll 0 (aiReadAllLen d.nAin) = some (allHeader d ++ aiAllSamples d) :=
      replyTo_whole (by rw [aiReadAllLen]; omega) rfl (by
        simp only [allHeader, List.length_append, List.length_cons, List.length_nil, samples,
          aiReadAllLen]
        omega)
    rw [whole, Option.map_some, decodeAnalog_samples begun]
    rfl
  · by_cases streams : (b.hasStreamTransport && hasFlag d.flags flagStreaming) = true
    · have bytes : (replyBytes b env d Request.streamStatus.code 0 (UInt16.ofNat streamStatusLen)).2 =
          some (streamStatusBytes d.stream) := by
        simp [replyBytes, streams]
      have whole : said .streamStatus 0 streamStatusLen = some (streamStatusBytes d.stream) :=
        replyTo_whole (by decide) bytes (by simp [streamStatusBytes])
      rw [whole, Option.map_some, decodeStreamStatus_bytes, if_pos streams]
    · have refused : said .streamStatus 0 streamStatusLen = none := by
        simp only [said, replyTo, handleSetup_inp, handleIn, replyBytes, Request.ofCode_code, streams,
          Bool.false_eq_true, if_false, Option.map_none]
      rw [refused, Option.map_none, if_neg streams]
  · have whole : said .getTime 0 timeReplyLen = some (timeBytes env) :=
      replyTo_whole (by decide) rfl (by simp [timeBytes])
    rw [whole, Option.map_some, decodeTimeReply_bytes]
  · have whole : said .eventPop index (eventPopLen maxEventsPerPop) = some (e.pop index).2 :=
      replyTo_whole (by decide) rfl (e.pop_length index)
    rw [whole, Option.map_some, decodeEvents_pop, List.length_drop]
    rfl
  · have whole : said .eventCounts 0 (eventCountsLen maxEventPins) = some e.countsBytes :=
      replyTo_whole (by decide) rfl e.countsBytes_length
    rw [whole, Option.map_some, decodeEventCounts_bytes]
    rfl
  · exact fun ev queued => known.queued queued

end ArduinoDriver
