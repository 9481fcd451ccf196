import ArduinoDriver.Firmware.Invariant
import Mathlib.Algebra.BigOperators.Group.List.Basic

namespace ArduinoDriver

variable {b : Board} {env : Env} {d : UsbIoDevice}

@[simp] theorem setBit_length (bytes : List UInt8) (p : Nat) :
    (setBit bytes p).length = bytes.length := by
  simp [setBit]

@[simp] theorem bitmapPin_length (d : UsbIoDevice) (bytes : List UInt8) (p : Nat) :
    (bitmapPin d bytes p).length = bytes.length := by
  unfold bitmapPin
  split
  · exact setBit_length bytes p
  · rfl

@[simp] theorem digitalBitmap_length (d : UsbIoDevice) :
    (digitalBitmap d).length = bitmapLen d.nPins := by
  have kept : ∀ (pins : List Nat) (bytes : List UInt8),
      (pins.foldl (bitmapPin d) bytes).length = bytes.length := by
    intro pins
    induction pins with
    | nil => simp
    | cons p pins ih =>
      intro bytes
      rw [List.foldl_cons, ih, bitmapPin_length]
  rw [digitalBitmap, kept, List.length_replicate]

theorem aiAllSamples_length (d : UsbIoDevice) :
    (aiAllSamples d).length = 2 * Lib.Table.count d.nPins (fun p => hasCap (d.caps p) capAin) := by
  unfold aiAllSamples Lib.Table.count
  induction List.range d.nPins with
  | nil => rfl
  | cons p pins ih =>
    rw [List.flatMap_cons, List.length_append, List.countP_cons, ih]
    split
    · simp only [putU16_length]
      omega
    · simp

@[simp] theorem UsbioEvent.bytes_length (ev : UsbioEvent) : ev.bytes.length = 8 := rfl

@[simp] theorem EventWatch.countBytes_length (w : EventWatch) : w.countBytes.length = 4 := rfl

@[simp] theorem eventHeader_length (count dropped pending : UInt8) :
    (eventHeader count dropped pending).length = 4 := rfl

/-- EVENT_POP takes no more events than it has room for. -/
theorem popEvents_length (ring : Nat → UsbioEvent) (tail : UInt8) (room n : Nat) :
    (popEvents ring tail room n).2.length ≤ room := by
  induction n generalizing tail room with
  | zero => exact Nat.zero_le _
  | succ n ih =>
    unfold popEvents
    split
    · exact Nat.zero_le _
    · dsimp only
      split
      · exact ih (tail + 1) room
      · have := ih (tail + 1) (room - 1)
        simp only [List.length_cons]
        omega

theorem popCap_le (index : UInt16) : popCap index ≤ maxEventsPerPop := by
  unfold popCap
  split
  · exact Nat.le_refl _
  · omega

theorem EventState.pop_length (e : EventState) (index : UInt16) :
    (e.pop index).2.length ≤ 4 + 8 * maxEventsPerPop := by
  have := popEvents_length e.ring e.tail (popCap index) (e.head - e.tail).toNat
  have := popCap_le index
  simp only [EventState.pop, List.length_append, eventHeader_length, List.length_flatMap,
    UsbioEvent.bytes_length, List.map_const', List.sum_replicate, Nat.nsmul_eq_mul]
  omega

theorem insertArmed_perm (e : EventState) (key : Nat) (sorted : List Nat) :
    (e.insertArmed key sorted).Perm (key :: sorted) := by
  induction sorted with
  | nil => exact .refl _
  | cons j sorted ih =>
    unfold EventState.insertArmed
    split
    · exact (ih.cons j).trans (.swap ..)
    · exact .refl _

/-- EVENT_COUNTS lists the active slots, each once. -/
theorem armOrder_perm (e : EventState) :
    e.armOrder.Perm ((List.range maxEventPins).filter fun i => (e.watch i).active) := by
  have sorts : ∀ slots sorted : List Nat,
      (slots.foldl (fun sorted key => e.insertArmed key sorted) sorted).Perm (slots ++ sorted) := by
    intro slots
    induction slots with
    | nil => exact fun sorted => .refl _
    | cons i slots ih =>
      intro sorted
      exact (ih _).trans (((insertArmed_perm e i sorted).append_left slots).trans List.perm_middle)
  have sorted := sorts ((List.range maxEventPins).filter fun i => (e.watch i).active) []
  rw [List.append_nil] at sorted
  exact (List.reverse_perm _).trans sorted

theorem EventState.armOrder_length (e : EventState) :
    e.armOrder.length = activeCount e.watch := by
  rw [(armOrder_perm e).length_eq]
  exact (List.countP_eq_length_filter ..).symm

theorem EventState.countsBytes_length (e : EventState) :
    e.countsBytes.length ≤ 4 + 4 * maxEventPins := by
  have := @Lib.Table.count_le maxEventPins (fun i => (e.watch i).active)
  have := e.armOrder_length
  simp only [EventState.countsBytes, List.length_append, eventHeader_length, List.length_flatMap,
    EventWatch.countBytes_length, List.map_const', List.sum_replicate, Nat.nsmul_eq_mul]
  unfold activeCount at this
  omega

/-- What the replies take: 64 bytes and the tables of all pins bound them. -/
theorem replyBytes_length_le {limit : Nat} (enough : 64 ≤ limit) (pins : d.nPins ≤ limit)
    (analog : 2 + 2 * Lib.Table.count d.nPins (fun p => hasCap (d.caps p) capAin) ≤ limit)
    {bRequest : UInt8} {index wLength : UInt16} {reply : List UInt8}
    (said : (replyBytes b env d bRequest index wLength).2 = some reply) : reply.length ≤ limit := by
  unfold replyBytes at said
  split at said
  case h_9 =>
    split at said
    · obtain rfl := Option.some.inj said
      exact Nat.le_trans (by simp [streamStatusBytes]) enough
    · contradiction
  case h_12 => contradiction
  all_goals obtain rfl := Option.some.inj said
  case h_1 => exact Nat.le_trans (by simp [infoBytes, usbioMagic]) enough
  case h_2 =>
    simp only [pinCapsBytes, List.length_map, List.length_range]
    omega
  case h_3 => exact Nat.le_trans (by simp [statusBytes]) enough
  case h_4 => exact Nat.le_trans (by simp [timeBytes]) enough
  case h_5 => exact Nat.le_trans (by simp [dioBytes]) enough
  case h_6 => exact Nat.le_trans (by simp [aiBytes]) enough
  case h_7 =>
    simp only [List.length_append, digitalBitmap_length, allHeader, bitmapLen, List.length_cons,
      List.length_nil]
    omega
  case h_8 =>
    simp only [List.length_append, aiAllSamples_length, allHeader, List.length_cons,
      List.length_nil]
    omega
  case h_10 => exact (d.event.pop_length index).trans (Nat.le_trans (by simp [maxEventsPerPop]) enough)
  case h_11 => exact d.event.countsBytes_length.trans (Nat.le_trans (by simp [maxEventPins]) enough)

/-- _reply is large enough for every reply. -/
theorem replyBytes_length (h : Invariant b d) {bRequest : UInt8} {index wLength : UInt16}
    {reply : List UInt8} (said : (replyBytes b env d bRequest index wLength).2 = some reply) :
    reply.length ≤ maxReplyLen := by
  have limit : maxReplyLen = 128 := rfl
  have pins : d.nPins ≤ 128 := h.pins ▸ b.pinCount_le
  have analog : Lib.Table.count d.nPins (fun p => hasCap (d.caps p) capAin) ≤ 32 := h.analog
  exact replyBytes_length_le (by omega) (by omega) (by omega) said

/-- A reply is what was written to _reply, cut at wLength. -/
theorem handleSetup_reply {s : SetupPacket} {reply : List UInt8}
    (said : (handleSetup b env d s).2 = some reply) :
    reply = [] ∨ ∃ full, (replyBytes b env d s.bRequest s.index s.wLength).2 = some full ∧
      reply = full.take s.wLength.toNat := by
  have dispatched : (dispatch b env d s).2 = some reply → reply = [] ∨
      ∃ full, (replyBytes b env d s.bRequest s.index s.wLength).2 = some full ∧
        reply = full.take s.wLength.toNat := by
    unfold dispatch
    intro said
    split at said
    · obtain ⟨full, eq, rfl⟩ := Option.map_eq_some_iff.mp said
      exact .inr ⟨full, eq, rfl⟩
    · dsimp only at said
      split at said
      · exact .inl (Option.some.inj said).symm
      · contradiction
  unfold handleSetup at said
  split at said
  · contradiction
  · split at said
    · exact dispatched said
    · split at said
      · split at said
        · exact dispatched said
        · contradiction
      · contradiction

/-- In every state reached by any interleaving: the representation invariant,
find_free_event_slot() never takes its fallback, and every reply fits _reply and
wLength. -/
theorem run_keeps_representation (b : Board) (acts : List Act) :
    let d := (run b (boot b) acts).dev
    Invariant b d ∧
    (d.event.nWatched.toNat < maxEventPins →
      Lib.Table.find maxEventPins (fun i => !(d.event.watch i).active) = some d.event.freeSlot) ∧
    ∀ env s,
      (∀ full, (replyBytes b env d s.bRequest s.index s.wLength).2 = some full →
        full.length ≤ maxReplyLen) ∧
      ∀ reply, (handleSetup b env d s).2 = some reply →
        reply.length ≤ maxReplyLen ∧ reply.length ≤ s.wLength.toNat := by
  intro d
  have inv : Invariant b d := (run_ok (boot_ok b) acts).dev
  refine ⟨inv, fun room => (inv.watches.freeSlot room).1, ?_⟩
  intro env s
  refine ⟨fun full said => replyBytes_length inv said, ?_⟩
  intro reply said
  rcases handleSetup_reply said with rfl | ⟨full, written, rfl⟩
  · simp
  · have := replyBytes_length inv written
    rw [List.length_take]
    omega

end ArduinoDriver
