import ArduinoDriver.Firmware.StreamAccounting
import ArduinoDriver.Lib.History

namespace ArduinoDriver

/-- Where stream_write() stands, with the bytes it was passed. -/
inductive WritePc where
  | returned
  | flagTest (data : List UInt8)
  | copy (data : List UInt8)
  | raiseFlag (data : List UInt8)
  | writeStart (data : List UInt8)
  | lowerFlag (data : List UInt8)
  deriving DecidableEq, Repr

/-- The send side of UsbIoMbedModule with the endpoint of the mbed core. -/
structure BulkWriter where
  txBuffer : List UInt8
  txInProgress : Bool
  /-- The core is in state Configured. -/
  configured : Bool
  /-- How many bytes of _tx_buffer the transfer in flight sends. -/
  transfer : Option Nat
  pc : WritePc

/-- The constructor. -/
def BulkWriter.init (epSize : Nat) : BulkWriter := ⟨List.replicate epSize 0, false, false, none, .returned⟩

/-- poll() calls stream_write() and goes on with it; the callbacks of the USB interrupt. -/
inductive WriteAct where
  | call (data : List UInt8)
  | advance
  | streamSendDone
  | setConfiguration
  | stateChange (configured : Bool)
  deriving DecidableEq, Repr

/-- The core's write_start() arms a transfer. -/
def BulkWriter.canArm (s : BulkWriter) : Bool := s.configured && s.transfer.isNone

/-- One step of stream_write(), with what it returns. -/
def BulkWriter.advance (s : BulkWriter) : BulkWriter × Option WriteResult :=
  match s.pc with
  | .returned => (s, none)
  | .flagTest data =>
    if s.txInProgress ∨ s.txBuffer.length < data.length then ({ s with pc := .returned }, some .busy)
    else ({ s with pc := .copy data }, none)
  | .copy data =>
    ({ s with txBuffer := data ++ s.txBuffer.drop data.length, pc := .raiseFlag data }, none)
  | .raiseFlag data => ({ s with txInProgress := true, pc := .writeStart data }, none)
  | .writeStart data =>
    if s.canArm then ({ s with transfer := some data.length, pc := .returned }, some .sent)
    else ({ s with pc := .lowerFlag data }, none)
  | .lowerFlag _ => ({ s with txInProgress := false, pc := .returned }, some .busy)

/-- A transfer that ends, or is aborted, with the flag lowered. -/
def BulkWriter.release (s : BulkWriter) : BulkWriter := { s with transfer := none, txInProgress := false }

def BulkWriter.step (s : BulkWriter) : WriteAct → BulkWriter
  | .call data => if s.pc = .returned then { s with pc := .flagTest data } else s
  | .advance => s.advance.1
  -- the core calls back once for each transfer that completes
  | .streamSendDone => if s.transfer.isSome then s.release else s
  -- endpoint_add() aborts what is in flight
  | .setConfiguration => s.release
  | .stateChange true => { s with configured := true }
  | .stateChange false => { s.release with configured := false }

/-- A call that has returned: the bytes passed, the transfers it armed, the result. -/
structure WriteCall where
  data : List UInt8
  armed : Nat
  result : WriteResult
  deriving DecidableEq, Repr

/-- A transfer that has completed: the bytes passed to the call that armed it and those sent. -/
structure Sending where
  passed : List UInt8
  sent : List UInt8
  deriving DecidableEq, Repr

structure Sendings where
  /-- The transfers the call under way has armed. -/
  armed : Nat
  calls : List WriteCall
  /-- The bytes passed for the transfer in flight. -/
  flying : List UInt8
  completed : List Sending

def Sendings.empty : Sendings := ⟨0, [], [], []⟩

def WritePc.data : WritePc → List UInt8
  | .returned => []
  | .flagTest data | .copy data | .raiseFlag data | .writeStart data | .lowerFlag data => data

/-- The step arms a transfer. -/
def BulkWriter.arms (s : BulkWriter) : Bool :=
  match s.pc with
  | .writeStart _ => s.canArm
  | _ => false

def sending (s : BulkWriter) (act : WriteAct) (g : Sendings) : Sendings :=
  match act with
  | .call _ => if s.pc = .returned then { g with armed := 0 } else g
  | .advance =>
    let armed := if s.arms then g.armed + 1 else g.armed
    { g with
      armed := armed
      flying := if s.arms then s.pc.data else g.flying
      calls := s.advance.2.toList.map (fun result => ⟨s.pc.data, armed, result⟩) ++ g.calls }
  | .streamSendDone => match s.transfer with
    | some n => { g with completed := ⟨g.flying, s.txBuffer.take n⟩ :: g.completed }
    | none => g
  | _ => g

/-- What the writer promises at every moment. -/
structure SafeWriter (s : BulkWriter) (g : Sendings) : Prop where
  unwritten : ∀ data, s.pc = .copy data → s.transfer = none
  armed : ∀ call ∈ g.calls, call.armed = if call.result = .sent then 1 else 0
  whole : ∀ x ∈ g.completed, x.sent = x.passed
  flag : s.pc = .returned → s.txInProgress = s.transfer.isSome

/-- The step that breaks it: write_start() arms a transfer with the flag lowered again, by a
callback since it was raised. -/
def armsUnflagged (s : BulkWriter) : WriteAct → Bool
  | .advance => s.arms && !s.txInProgress
  | _ => false

/-- The flag, the transfer and the buffer at a point of stream_write(). -/
def WritePc.Holds (s : BulkWriter) : WritePc → Prop
  | .returned | .flagTest _ => s.txInProgress = s.transfer.isSome
  | .copy data => s.txInProgress = false ∧ s.transfer = none ∧ data.length ≤ s.txBuffer.length
  | .raiseFlag data => s.txInProgress = false ∧ s.transfer = none ∧ s.txBuffer.take data.length = data
  | .writeStart data => s.transfer = none ∧ s.txBuffer.take data.length = data
  | .lowerFlag _ => s.transfer = none

structure Writes (s : BulkWriter) (g : Sendings) : Prop where
  place : s.pc.Holds s
  unarmed : s.pc ≠ .returned → g.armed = 0
  flying : ∀ n, s.transfer = some n → s.txBuffer.take n = g.flying
  armed : ∀ call ∈ g.calls, call.armed = if call.result = .sent then 1 else 0
  whole : ∀ x ∈ g.completed, x.sent = x.passed

variable {s : BulkWriter} {g : Sendings} {act : WriteAct} {r : BulkWriter × Sendings}

theorem Writes.safe (h : Writes s g) : SafeWriter s g := by
  have place := h.place
  refine ⟨fun data at_copy => ?_, h.armed, h.whole, fun returned => ?_⟩
  · rw [at_copy] at place
    exact place.2.1
  · rw [returned] at place
    exact place

/-- Once nothing is in flight and the flag is lowered, every point of stream_write() is as before. -/
theorem Writes.release (h : Writes s g) : Writes s.release g := by
  have place := h.place
  refine ⟨?_, h.unarmed, fun n flies => absurd flies (by simp [BulkWriter.release]), h.armed, h.whole⟩
  change s.pc.Holds s.release
  cases at_pc : s.pc with
  | returned | flagTest => rfl
  | copy data =>
    rw [at_pc] at place
    exact ⟨rfl, rfl, place.2.2⟩
  | raiseFlag data =>
    rw [at_pc] at place
    exact ⟨rfl, rfl, place.2.2⟩
  | writeStart data =>
    rw [at_pc] at place
    exact ⟨rfl, place.2⟩
  | lowerFlag data => rfl

/-- Where the core stands matters to write_start() only. -/
theorem Writes.configure (h : Writes s g) (configured : Bool) :
    Writes { s with configured := configured } g := by
  have place := h.place
  refine ⟨?_, h.unarmed, h.flying, h.armed, h.whole⟩
  change s.pc.Holds { s with configured := configured }
  cases at_pc : s.pc <;> rw [at_pc] at place <;> exact place

theorem Writes.advance (h : Writes s g) (flagged : armsUnflagged s .advance = false) :
    Writes s.advance.1 (sending s .advance g) := by
  obtain ⟨buffer, flag, configured, transfer, pc⟩ := s
  have place := h.place
  have flying := h.flying
  cases pc with
  | returned => exact h
  | flagTest data =>
    have same : flag = transfer.isSome := place
    have unarmed : g.armed = 0 := h.unarmed (by simp)
    by_cases refuses : flag = true ∨ buffer.length < data.length
    · simp only [BulkWriter.advance, sending, BulkWriter.arms, WritePc.data, if_pos refuses]
      refine ⟨same, fun away => absurd rfl away, flying, fun call inside => ?_, h.whole⟩
      rcases List.mem_cons.mp inside with rfl | old
      · exact unarmed
      · exact h.armed call old
    · simp only [BulkWriter.advance, sending, BulkWriter.arms, WritePc.data, if_neg refuses]
      obtain ⟨lowered, fits⟩ := not_or.mp refuses
      rw [Bool.not_eq_true] at lowered
      rw [lowered] at same
      exact ⟨⟨lowered, Option.not_isSome_iff_eq_none.mp (by simp [← same]), Nat.not_lt.mp fits⟩,
        fun _ => unarmed, flying, h.armed, h.whole⟩
  | copy data =>
    obtain ⟨lowered, none_, fits⟩ := place
    refine ⟨⟨lowered, none_, ?_⟩, fun _ => h.unarmed (by simp), fun n flies => ?_, h.armed, h.whole⟩
    · exact List.take_left
    · exact absurd (none_.symm.trans flies) (by simp)
  | raiseFlag data =>
    obtain ⟨_, none_, copied⟩ := place
    exact ⟨⟨none_, copied⟩, fun _ => h.unarmed (by simp), flying, h.armed, h.whole⟩
  | writeStart data =>
    obtain ⟨none_, copied⟩ := place
    have unarmed : g.armed = 0 := h.unarmed (by simp)
    obtain rfl : transfer = none := none_
    cases configured with
    | true =>
      have raised : flag = true := by simpa [armsUnflagged, BulkWriter.arms, BulkWriter.canArm] using flagged
      refine ⟨raised, fun away => absurd rfl away, fun n flies => ?_, fun call inside => ?_, h.whole⟩
      · obtain rfl := Option.some.inj flies
        exact copied
      · rcases List.mem_cons.mp inside with rfl | old
        · exact congrArg (· + 1) unarmed
        · exact h.armed call old
    | false => exact ⟨rfl, fun _ => unarmed, flying, h.armed, h.whole⟩
  | lowerFlag data =>
    have none_ : transfer = none := place
    have unarmed : g.armed = 0 := h.unarmed (by simp)
    refine ⟨?_, fun away => absurd rfl away, flying, fun call inside => ?_, h.whole⟩
    · change false = transfer.isSome
      rw [none_]
      rfl
    · rcases List.mem_cons.mp inside with rfl | old
      · exact unarmed
      · exact h.armed call old

theorem step_writes (h : Writes s g) (flagged : armsUnflagged s act = false) :
    Writes (s.step act) (sending s act g) := by
  cases act with
  | call data =>
    unfold BulkWriter.step sending
    dsimp only
    by_cases returned : s.pc = .returned
    · rw [if_pos returned, if_pos returned]
      have place := h.place
      rw [returned] at place
      exact ⟨place, fun _ => rfl, h.flying, h.armed, h.whole⟩
    · rw [if_neg returned, if_neg returned]
      exact h
  | advance => exact h.advance flagged
  | streamSendDone =>
    unfold BulkWriter.step sending
    cases flies : s.transfer with
    | none => exact h
    | some n =>
      have released := h.release
      refine ⟨released.place, released.unarmed, released.flying, h.armed, fun x inside => ?_⟩
      rcases List.mem_cons.mp inside with rfl | old
      · exact h.flying n flies
      · exact h.whole x old
  | setConfiguration => exact h.release
  | stateChange configured =>
    cases configured with
    | true => exact h.configure true
    | false => exact h.release.configure false

theorem init_writes (epSize : Nat) : Writes (.init epSize) .empty :=
  ⟨rfl, fun _ => rfl, fun n flies => absurd flies (by simp [BulkWriter.init]),
    fun call inside => absurd inside List.not_mem_nil, fun x inside => absurd inside List.not_mem_nil⟩

/-- An unflagged transfer is in flight when stream_write() returns, with the flag lowered. -/
theorem unflagged_breaks (unflagged : armsUnflagged s .advance = true) :
    ¬ SafeWriter (s.step .advance) (sending s .advance g) := by
  obtain ⟨buffer, flag, configured, transfer, pc⟩ := s
  intro safe
  cases pc with
  | writeStart data =>
    obtain ⟨⟨rfl, rfl⟩, rfl⟩ : (configured = true ∧ transfer = none) ∧ flag = false := by
      simpa [armsUnflagged, BulkWriter.arms, BulkWriter.canArm] using unflagged
    exact Bool.false_ne_true (safe.flag rfl)
  | _ => simp [armsUnflagged, BulkWriter.arms] at unflagged

/-- In every run in which write_start() never arms a transfer with the flag lowered, the writer
keeps its promises, and the first time it does breaks them. -/
theorem bulk_writer_keeps_packets (epSize : Nat) (r : BulkWriter × Sendings)
    (reached : Lib.Reach (Lib.recording BulkWriter.step sending)
      (fun r act => armsUnflagged r.1 act = false) (.init epSize, .empty) r) :
    SafeWriter r.1 r.2 ∧
      ∀ act, SafeWriter (r.1.step act) (sending r.1 act r.2) ↔ armsUnflagged r.1 act = false := by
  have writes : Writes r.1 r.2 := by
    refine reached.invariant (I := fun r : BulkWriter × Sendings => Writes r.1 r.2) (init_writes epSize) ?_
    rintro ⟨s, g⟩ act h flagged
    exact step_writes h flagged
  refine ⟨writes.safe, fun act => ⟨fun safe => ?_, fun flagged => (step_writes writes flagged).safe⟩⟩
  cases act with
  | advance =>
    rw [← Bool.not_eq_true]
    exact fun unflagged => unflagged_breaks unflagged safe
  | _ => rfl

/-- One packet on a configured endpoint. -/
def onePacket : List WriteAct :=
  [.stateChange true, .call [1]] ++ List.replicate 4 .advance ++ [.streamSendDone]

def written (acts : List WriteAct) : BulkWriter × Sendings :=
  acts.foldl (Lib.recording BulkWriter.step sending) (.init 64, .empty)

theorem bulk_writer_keeps_packets_one_packet :
    (written onePacket).2.completed = [⟨[1], [1]⟩] ∧ SafeWriter (written onePacket).1 (written onePacket).2 :=
  ⟨by decide +kernel, (bulk_writer_keeps_packets 64 _ (Lib.Follows.reach (by decide +kernel))).1⟩

/-- A configuration set again between the raise of the flag and write_start(). -/
def reconfigured : List WriteAct :=
  [.stateChange true, .call [1]] ++ List.replicate 3 .advance ++ [.setConfiguration, .advance]

/-- It leaves the transfer in flight with the flag lowered. -/
theorem reconfigured_writer_forgets_packet :
    ¬ ∀ (epSize : Nat) (r : BulkWriter × Sendings),
      Lib.Reach (Lib.recording BulkWriter.step sending) (fun _ _ => True) (.init epSize, .empty) r →
      SafeWriter r.1 r.2 := by
  intro claim
  have safe := claim 64 (written reconfigured) (Lib.Reach.refl.foldl (fun _ _ => trivial) _)
  have flag := safe.flag
  revert flag
  decide +kernel

/-- A packet that stream_poll() hands over is never too long for the buffer. -/
theorem device_packet_fits {b : Board} {m : Machine} {packet : List UInt8} {result : WriteResult}
    (reached : Reachable b m) (wrote : Obs.wrote packet result ∈ m.log) :
    packet.length ≤ (BulkWriter.init (b.packetMax + 1)).txBuffer.length := by
  have fits := (reached.audited.wrote packet result wrote).fits
  simp only [BulkWriter.init, List.length_replicate]
  omega

end ArduinoDriver
