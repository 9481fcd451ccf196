import ArduinoDriver.Host.Reading
import ArduinoDriver.Host.Stream

namespace ArduinoDriver

open Lib (Program)

/-- Bytes one bulk_in() asks for. -/
abbrev chunkSize : Nat := 4096

namespace Driver

variable {α : Type}

/-- A lock_guard on StreamState::mutex around `body`. -/
def locked (body : Driver α) : Driver α := do
  let _ ← Program.perform DriverOp.lock
  let a ← tryCatch body fun e => do
    let _ ← Program.perform DriverOp.unlock
    throw e
  let _ ← Program.perform DriverOp.unlock
  return a

/-- The checks start_stream() makes before it takes the mutex. -/
def checkConfig (d : Device) (config : StreamConfig) : Driver Unit := do
  checkNotStreaming "start_stream"
  refuseIf (!d.info.streaming)
    ⟨.notSupported,
      s!"the {boardName d.info.boardId} firmware does not report USBIO_FLAG_STREAMING"⟩
  refuseIf config.pins.isEmpty
    ⟨.invalidValue, "start_stream: the pin list must not be empty"⟩
  refuseIf (d.info.streamMaxChannels.toNat < config.pins.length)
    ⟨.invalidValue, s!"start_stream: {config.pins.length} pins exceeds " ++
      s!"stream_max_channels ({d.info.streamMaxChannels})"⟩
  config.pins.forM (fun pin => do let _ ← pinCaps d pin)
  refuseIf (¬ config.pins.Nodup)
    ⟨.invalidValue, "start_stream: the pin list must not repeat a pin"⟩
  refuseIf (config.period < 0 ∨ 0xFFFF < config.period ∨
      (config.period ≠ 0 ∧ config.period < d.info.minStreamPeriodUs.toNat))
    ⟨.invalidValue, s!"start_stream: period {config.period} us is outside 0 (free running) or " ++
      s!"{d.info.minStreamPeriodUs}..65535 for this board" ++
      (if d.info.streamMinPeriodUs = 0 then
        " (its UsbIo firmware predates 0.4.0, which accepts periods down to 1 us: update it to " ++
        "stream faster than 10 kHz)"
      else "")⟩
  refuseIf (config.queueCapacity = 0)
    ⟨.invalidValue, "start_stream: queue_capacity must be > 0"⟩

/-- STREAM_SELECT of one pin. -/
def select (adds : Bool) (pin : UInt8) : Driver Unit :=
  sendOut .streamSelect (if adds then 1 else 0) pin.toUInt16

/-- A best-effort removal: errors are swallowed. -/
def deselect (pin : UInt8) : Driver Unit := tryCatch (select false pin) (fun _ => pure ())

/-- A best-effort removal of a pin the configuration does not want. -/
def deselectOther (config : StreamConfig) (pin : UInt8) : Driver Unit :=
  if pin ∈ config.pins then pure () else deselect pin

/-- The selecting loop of start_stream(): the pins added, oldest first, and the
error that ended it, if any. -/
def selectPins (added : List UInt8) : List UInt8 → Driver (List UInt8 × Option Error)
  | [] => return (added, none)
  | pin :: pins => do
    match ← tryCatch (do select true pin; return none) (fun e => return some e) with
    | none => selectPins (added ++ [pin]) pins
    | some e => return (added, some e)

/-- The second removal of stale pins: every pin the configuration does not want. -/
def clearStale (d : Device) (config : StreamConfig) : Driver Unit := do
  (List.range d.info.nPins.toNat).forM (fun p => deselectOther config (UInt8.ofNat p))
  let status ← readStreamStatus
  refuseIf (status.nChannels.toNat ≠ config.pins.length)
    ⟨.protocol, s!"start_stream: the device still reports {status.nChannels} selected channels " ++
      s!"instead of {config.pins.length} after clearing a stale selection; a pin changed mode " ++
      "while selected - reset() the device"⟩

/-- The try block of start_stream() behind its selecting loop. -/
def launch (d : Device) (config : StreamConfig) : Driver UInt32 := do
  let status ← readStreamStatus
  (if status.nChannels.toNat ≠ config.pins.length then clearStale d config else pure ())
  let reply ← readIn d .getTime 0 (UInt16.ofNat timeReplyLen) timeReplyLen
  let time ← decodeTimeReply reply
  sendOut .streamStart (UInt16.ofNat config.period.toNat) config.flags.toUInt16
  return time.micros

/-- The catch block of start_stream(). -/
def rollBack (added : List UInt8) (e : Error) : Driver UInt32 := do
  added.reverse.forM deselect
  throw e

/-- The try block and its catch: `added` and `failed` are what the selecting loop
left. -/
def launchOrRollBack (d : Device) (config : StreamConfig) (added : List UInt8) :
    Option Error → Driver UInt32
  | some e => rollBack added e
  | none => tryCatch (launch d config) (rollBack added)

/-- start_stream() from the mutex on. -/
def startLocked (d : Device) (config : StreamConfig) : Driver StreamHandle := do
  let status ← readStreamStatus
  (if status.running then sendOut .streamStop 0 0 else pure ())
  let selected : List UInt8 ← Program.perform DriverOp.loadSelected
  selected.forM (deselectOther config)
  let (added, failed) ← selectPins [] config.pins
  let startTUs ← launchOrRollBack d config added failed
  let _ ← Program.perform (DriverOp.storeSelected config.pins)
  let _ ← Program.perform (DriverOp.storeStreaming true)
  return ⟨config, startTUs⟩

/-- start_stream(). -/
def startStream (d : Device) (config : StreamConfig) : Driver StreamHandle := do
  checkConfig d config
  locked (startLocked d config)

/-- end_stream(). -/
def endStream : Driver Unit := locked do
  if ← loadStreaming then do
    tryCatch (sendOut .streamStop 0 0) (fun _ => pure ())
    let _ ← Program.perform (DriverOp.storeStreaming false)
  else pure ()

/-- poll_stream_status(). -/
def pollStreamStatus : Driver StreamStatus := locked readStreamStatus

def decodeStreamHeader (bytes : List UInt8) : Driver StreamHeader := do
  let magic ← wordAt bytes 0
  let nSamples ← wordAt bytes 2
  let seq ← longAt bytes 4
  let tUs ← longAt bytes 8
  return ⟨magic, nSamples, seq, tUs⟩

/-- The samples of the record at the front of `head`. -/
def samples (impl : StreamImpl) (header : StreamHeader) (head : List UInt8) : Driver (List Sample) :=
  Program.each (fun i => do
    let raw ← wordAt head (streamHeaderLen + 2 * i)
    let pin ← byteAt impl.config.pins i
    return ⟨pin, raw, header.tUs⟩) (List.range header.nSamples.toNat)

/-- A whole record at the front of `head`. -/
def takeRecord (impl : StreamImpl) (header : StreamHeader) (w : Worker) (head : List UInt8) :
    Driver Worker := do
  let w := StreamImpl.sync w
  if impl.isStale header.tUs then
    return { w with stats := { w.stats with staleRecords := w.stats.staleRecords + 1 } }
  else
    let samples ← samples impl header head
    return impl.deliver
      { w with
        lastSeq := some header.seq
        stats := { w.stats with
          seqGaps := w.stats.seqGaps + seqGap w.lastSeq header.seq
          recordsReceived := w.stats.recordsReceived + 1 } }
      samples

/-- One iteration of the decode loop on the bytes from `pos` on, and by how much it
moves `pos`; `none` where the loop ends. -/
def decodeStep (impl : StreamImpl) (w : Worker) (head : List UInt8) : Driver (Option (Worker × Nat)) :=
  if head.length < streamHeaderLen then return none
  else do
    let header ← decodeStreamHeader head
    if header.magic ≠ streamMagic ∨ header.nSamples ≠ impl.nSamplesExpected then
      return some ({ w with hunting := true }, 1)
    else
      let recordLen := streamRecordLen header.nSamples.toNat impl.digital impl.nPins
      if head.length < recordLen then return none
      else
        let w ← takeRecord impl header w head
        return some (w, recordLen)

/-- At most `fuel` iterations of the decode loop, and the erase() behind it. -/
def decodeLoop (impl : StreamImpl) : Nat → Worker → List UInt8 → Nat → Driver (Worker × List UInt8)
  | 0, w, buffer, pos => do
    span pos buffer.length
    return (w, buffer.drop pos)
  | fuel + 1, w, buffer, pos => do
    match ← decodeStep impl w (buffer.drop pos) with
    | none => do
      span pos buffer.length
      return (w, buffer.drop pos)
    | some (w', n) => decodeLoop impl fuel w' buffer (pos + n)

/-- What worker_main() does with the bytes of one bulk_in(). -/
def pass (impl : StreamImpl) (st : Worker × List UInt8) (chunk : List UInt8) :
    Driver (Worker × List UInt8) := do
  span chunk.length chunkSize
  let buffer := st.2 ++ chunk
  decodeLoop impl buffer.length st.1 buffer 0

/-- The bulk_in() calls of worker_main(), one after the other. -/
def passes (impl : StreamImpl) (st : Worker × List UInt8) : List (List UInt8) → Driver (Worker × List UInt8)
  | [] => return st
  | chunk :: chunks => do passes impl (← pass impl st chunk) chunks

@[simp] theorem locked_alone (body : Driver α) : (locked body).alone = body.alone := by
  funext st
  unfold locked
  simp only [Program.run_bind, Program.run_tryCatch]
  change EStateM.bind _ _ st = _
  unfold EStateM.bind
  dsimp only [Program.run_perform, HostState.perform]
  change EStateM.bind (EStateM.tryCatch _ _) _ st = _
  unfold EStateM.bind EStateM.tryCatch
  cases outcome : body.run HostState.perform st with
  | ok a st' =>
    change _ = body.run HostState.perform st
    rw [outcome]
    rfl
  | error e st' =>
    change _ = body.run HostState.perform st
    rw [outcome]
    rfl

/-- pin_caps() of a complete table is the range check of start_stream(). -/
theorem pinCaps_alone (d : Device) (whole : d.caps.length = d.info.nPins.toNat) (pin : UInt8) :
    Driver.alone (do let _ ← pinCaps d pin) = d.checkPin pin := by
  have less : d.caps.length ≤ pin.toNat ↔ d.info.nPins ≤ pin := by
    rw [whole]
    exact UInt8.le_iff_toNat_le.symm
  have same : outOfRange d pin = ⟨.invalidPin, s!"pin {pin} is out of range: the {boardName d.info.boardId} has " ++
      s!"{d.info.nPins} pins (0..{d.info.nPins.toNat - 1})"⟩ := by
    unfold outOfRange
    rw [whole]
    rfl
  unfold pinCaps Device.checkPin
  simp only [Program.run_bind, refuseIf_alone, same]
  unfold ArduinoDriver.refuseIf
  by_cases unknown : d.info.nPins ≤ pin
  · rw [if_pos unknown, if_pos (less.mpr unknown)]
    funext st
    rfl
  · rw [if_neg unknown, if_neg (less.not.mpr unknown)]
    funext st
    rfl

theorem checkConfig_alone (d : Device) (whole : d.caps.length = d.info.nPins.toNat) (config : StreamConfig) :
    (checkConfig d config).alone = d.checkConfig config := by
  have pins := pinCaps_alone d whole
  simp only [checkConfig, Device.checkConfig, List.forM_eq_forM, Program.run_bind, checkNotStreaming_alone,
    refuseIf_alone, Program.run_forM, pins]

@[simp] theorem select_alone (adds : Bool) (pin : UInt8) : (select adds pin).alone = Device.select adds pin :=
  sendOut_alone ..

@[simp] theorem deselect_alone (pin : UInt8) : (deselect pin).alone = Device.deselect pin := by
  simp [deselect, Device.deselect]

@[simp] theorem deselectOther_alone (config : StreamConfig) (pin : UInt8) :
    (deselectOther config pin).alone = Device.deselectOther config pin := by
  simp [deselectOther, Device.deselectOther]

@[simp] theorem selectPins_alone (added pins : List UInt8) :
    (selectPins added pins).alone = Device.selectPins added pins := by
  induction pins generalizing added with
  | nil => rfl
  | cons pin pins ih =>
    simp only [selectPins, Device.selectPins, Program.run_bind, Program.run_tryCatch, select_alone,
      Program.run_pure]
    congr 1
    funext r
    cases r with
    | none => exact ih _
    | some e => rfl

@[simp] theorem clearStale_alone (d : Device) (config : StreamConfig) :
    (clearStale d config).alone = d.clearStale config := by
  simp [clearStale, Device.clearStale]

theorem launch_alone (d : Device) (config : StreamConfig) : (launch d config).alone = d.launch config := by
  have decoded : ∀ reply, (decodeTimeReply reply).alone = pure (ArduinoDriver.decodeTimeReply reply) :=
    fun _ => rfl
  simp [launch, Device.launch, decoded]

theorem rollBack_alone (added : List UInt8) (e : Error) : (rollBack added e).alone = Device.rollBack added e := by
  simp [rollBack, Device.rollBack]

@[simp] theorem launchOrRollBack_alone (d : Device) (config : StreamConfig) (added : List UInt8)
    (failed : Option Error) :
    (launchOrRollBack d config added failed).alone = d.launchOrRollBack config added failed := by
  cases failed with
  | some e => exact rollBack_alone added e
  | none => simp [launchOrRollBack, Device.launchOrRollBack, launch_alone, rollBack_alone]

/-- start_stream() of a single thread is the one of `Host`. -/
theorem startStream_alone (d : Device) (whole : d.caps.length = d.info.nPins.toNat) (config : StreamConfig) :
    (startStream d config).alone = d.startStream config := by
  simp only [startStream, startLocked, Device.startStream, Program.run_bind, checkConfig_alone d whole,
    locked_alone, readStreamStatus_alone, Program.run_ite, sendOut_alone, Program.run_pure, selectPins_alone,
    launchOrRollBack_alone, List.forM_eq_forM, Program.run_forM, deselectOther_alone]
  rfl

theorem decodeStep_alone (impl : StreamImpl) (w : Worker) (head : List UInt8) :
    (decodeStep impl w head).alone = pure (impl.decodeStep w head) := by
  have header : (decodeStreamHeader head).alone = pure (ArduinoDriver.decodeStreamHeader head) := rfl
  have collected : ∀ header, (samples impl header head).alone = pure ((List.range header.nSamples.toNat).map
      (fun i => ⟨impl.config.pins.getD i 0, readU16 head (streamHeaderLen + 2 * i), header.tUs⟩)) :=
    fun header => each_alone (fun _ => rfl) _
  unfold decodeStep StreamImpl.decodeStep takeRecord StreamImpl.takeRecord StreamImpl.acceptRecord StreamImpl.samples
  split
  · rfl
  · simp only [Program.run_bind, header, pure_bind]
    split
    · rfl
    · split
      · rfl
      · simp only [Program.run_bind]
        split
        · rfl
        · simp [collected]

/-- What a single thread makes of a chunk is what `StreamImpl.pass` makes of it. -/
theorem pass_alone (impl : StreamImpl) (st : Worker × List UInt8) (chunk : List UInt8) :
    (pass impl st chunk).alone = pure (impl.pass st chunk) := by
  have loop : ∀ fuel w buffer pos,
      (decodeLoop impl fuel w buffer pos).alone = pure (impl.decodeLoop fuel w buffer pos) := by
    intro fuel
    induction fuel with
    | zero => simp [decodeLoop, StreamImpl.decodeLoop]
    | succ fuel ih =>
      intro w buffer pos
      simp only [decodeLoop, StreamImpl.decodeLoop, Program.run_bind, decodeStep_alone, pure_bind]
      cases impl.decodeStep w (buffer.drop pos) with
      | none => simp
      | some next => exact ih next.1 buffer (pos + next.2)
  simp [pass, StreamImpl.pass, loop]

end Driver

end ArduinoDriver
