import ArduinoDriver.Firmware.Accounts

namespace ArduinoDriver

variable {b : Board} {env : Env} {d d' : UsbIoDevice} {s : SetupPacket} {reply : List UInt8}
  {e e' : EventState}

/-- What left the ring are the events that the reply holds whole. -/
def EventState.PopsDelivered (e e' : EventState) (reply : List UInt8) : Prop :=
  ∃ taken, e.queued = taken ++ e'.queued ∧ taken.flatMap UsbioEvent.bytes <+: reply.drop 4 ∧
    (reply.drop 4).length < 8 * taken.length + 8

/-- A request that is answered destroys only what its reply delivers. -/
def DestroysDelivered (d d' : UsbIoDevice) (bRequest : UInt8) (reply : List UInt8) : Prop :=
  match Request.ofCode? bRequest with
  | some .eventPop =>
    d.event.PopsDelivered d'.event reply ∧ (d'.event.dropped ≠ d.event.dropped → 2 < reply.length)
  | some .getStatus => d'.lastError ≠ d.lastError → 2 < reply.length
  | _ => d'.event = d.event ∧ d'.lastError = d.lastError

/-- wLength leaves room for what the request destroys. -/
def SetupPacket.Roomy (s : SetupPacket) (d : UsbIoDevice) : Prop :=
  match Request.ofCode? s.bRequest with
  | some .eventPop =>
    (d.event.queued = [] ∨
      4 + 8 * min (popCap s.index) d.event.queued.length ≤ s.wLength.toNat) ∧
    (d.event.dropped = 0 ∨ 2 < s.wLength.toNat)
  | some .getStatus => d.lastError = .ok ∨ 2 < s.wLength.toNat
  | _ => True

theorem popCap_pos (index : UInt16) : 0 < popCap index := by
  unfold popCap
  split
  · simp
  · next proper =>
    have nonzero : index.toNat ≠ 0 := fun zero => proper (.inl (UInt16.toNat_inj.mp zero))
    omega

theorem flatMap_bytes_length (events : List UsbioEvent) :
    (events.flatMap UsbioEvent.bytes).length = 8 * events.length := by
  simp [Nat.mul_comm]

/-- The ring after a pop is short of the events taken, and only these. -/
theorem EventState.pop_taken {index : UInt16} {taken : List UsbioEvent}
    (split : e.queued = taken ++ (e.pop index).1.queued) : taken = e.queued.take (popCap index) := by
  rw [e.pop_queued] at split
  exact List.append_cancel_right (split.symm.trans (List.take_append_drop ..).symm)

/-- The clamp spares the events of a pop exactly when it cuts none of them. -/
theorem EventState.pop_delivered_iff (e : EventState) (index : UInt16) (wLength : Nat) :
    e.PopsDelivered (e.pop index).1 ((e.pop index).2.take wLength) ↔
      (e.queued = [] ∨ 4 + 8 * min (popCap index) e.queued.length ≤ wLength) := by
  have body : ((e.pop index).2.take wLength).drop 4 =
      ((e.queued.take (popCap index)).flatMap UsbioEvent.bytes).take (wLength - 4) := by
    rw [e.pop_reply, List.drop_take]
    rfl
  have size := flatMap_bytes_length (e.queued.take (popCap index))
  rw [List.length_take] at size
  constructor
  · rintro ⟨taken, split, whole, _⟩
    have longer := whole.length_le
    rw [body, EventState.pop_taken split, List.length_take, size] at longer
    have cap := popCap_pos index
    rcases Nat.eq_zero_or_pos e.queued.length with empty | some_
    · exact .inl (List.length_eq_zero_iff.mp empty)
    · exact .inr (by omega)
  · intro room
    refine ⟨e.queued.take (popCap index), ?_, ?_, ?_⟩
    · rw [e.pop_queued, List.take_append_drop]
    · rw [body]
      rcases room with empty | room
      · simp [empty]
      · have fits : ((e.queued.take (popCap index)).flatMap UsbioEvent.bytes).length ≤ wLength - 4 := by
          rw [size]
          omega
        exact ⟨[], by rw [List.append_nil, List.take_of_length_le fits]⟩
    · rw [body, List.length_take, List.length_take, size]
      omega

/-- An answered IN request destroys only what it delivers exactly when the events an EVENT_POP
takes all fit in wLength, as does the dropped count if there is one to clear, or the error a
GET_STATUS clears; the other requests destroy nothing. -/
theorem destroys_delivered_iff (b : Board) (env : Env) (d d' : UsbIoDevice) (s : SetupPacket)
    (reply : List UInt8) (asks : s.isIn = true)
    (answered : handleSetup b env d s = (d', some reply)) :
    DestroysDelivered d d' s.bRequest reply ↔ s.Roomy d := by
  have served := handleSetup_in asks answered
  unfold handleIn replyBytes at served
  unfold DestroysDelivered SetupPacket.Roomy
  cases named : Request.ofCode? s.bRequest with
  | none =>
    simp only [named] at served
    exact absurd (congrArg Prod.snd served) (by simp)
  | some req =>
    simp only [named] at served
    cases req with
    | eventPop =>
      obtain ⟨rfl, same⟩ := Prod.mk.inj served
      obtain rfl := Option.some.inj same
      refine and_congr (d.event.pop_delivered_iff s.index s.wLength.toNat) ?_
      have long : 4 ≤ (d.event.pop s.index).2.length := by
        rw [d.event.pop_reply, List.length_append, eventHeader_length]
        omega
      rw [List.length_take]
      change ((0 : UInt8) ≠ d.event.dropped → _) ↔ _
      constructor
      · intro told
        by_cases clear : d.event.dropped = 0
        · exact .inl clear
        · have := told (Ne.symm clear)
          omega
      · rintro (clear | room) lost
        · exact absurd clear.symm lost
        · omega
    | getStatus =>
      obtain ⟨rfl, same⟩ := Prod.mk.inj served
      obtain rfl := Option.some.inj same
      have long : (statusBytes d).length = 4 := rfl
      rw [List.length_take, long]
      change (Status.ok ≠ d.lastError → _) ↔ _
      constructor
      · intro told
        by_cases clear : d.lastError = .ok
        · exact .inl clear
        · have := told (Ne.symm clear)
          omega
      · rintro (clear | room) lost
        · exact absurd clear.symm lost
        · omega
    | streamStatus =>
      dsimp only at served
      split at served
      · obtain ⟨rfl, _⟩ := Prod.mk.inj served
        exact iff_of_true ⟨rfl, rfl⟩ trivial
      · exact absurd (congrArg Prod.snd served) (by simp)
    | getInfo | getPinCaps | getTime | dioRead | aiRead | dioReadAll | aiReadAll | eventCounts =>
      obtain ⟨rfl, _⟩ := Prod.mk.inj served
      exact iff_of_true ⟨rfl, rfl⟩ trivial
    | _ => exact absurd (congrArg Prod.snd served) (by simp)

/-- EVENT_POP of a full reply, read with `wLength`. -/
def popPacket (wLength : UInt16) : SetupPacket := .inp .eventPop 0 wLength

theorem popPacket_answered (b : Board) (env : Env) (d : UsbIoDevice) (wLength : UInt16) :
    handleSetup b env d (popPacket wLength) =
      ({ d with event := (d.event.pop 0).1 }, some ((d.event.pop 0).2.take wLength.toNat)) :=
  handleSetup_inp ..

/-- One queued edge, and room for seven. -/
theorem destroys_delivered_iff_whole :
    let d := (run onePinBoard (boot onePinBoard) oneEdge).dev
    DestroysDelivered d { d with event := (d.event.pop 0).1 } (popPacket 60).bRequest
      ((d.event.pop 0).2.take 60) ↔ (popPacket 60).Roomy d :=
  destroys_delivered_iff onePinBoard (stillEnv .sent) _ _ (popPacket 60) _ (by decide)
    (popPacket_answered ..)

/-- A read of the header alone loses the edge. -/
theorem short_pop_loses_an_event :
    ¬ ∀ (b : Board) (m : Machine), Reachable b m →
      ∀ (env : Env) (s : SetupPacket) (d' : UsbIoDevice) (reply : List UInt8), s.isIn = true →
        handleSetup b env m.dev s = (d', some reply) →
        DestroysDelivered m.dev d' s.bRequest reply := by
  intro claim
  have reached : Reachable onePinBoard (run onePinBoard (boot onePinBoard) oneEdge) :=
    Lib.Reach.refl.foldl (fun _ _ => trivial) oneEdge
  obtain ⟨⟨taken, split, whole, _⟩, _⟩ := claim _ _ reached (stillEnv .sent) (popPacket 4) _ _
    (by decide) (popPacket_answered ..)
  have queued : (run onePinBoard (boot onePinBoard) oneEdge).dev.event.queued.length = 1 := by
    decide +kernel
  have left : ((run onePinBoard (boot onePinBoard) oneEdge).dev.event.pop 0).1.queued = [] := by
    decide +kernel
  have cut : ((((run onePinBoard (boot onePinBoard) oneEdge).dev.event.pop 0).2.take
      (4 : UInt16).toNat).drop 4) = [] := by
    decide +kernel
  have one : taken.length = 1 := by
    rw [← queued, split, left, List.append_nil]
  have none_ := whole.length_le
  rw [cut, flatMap_bytes_length, one] at none_
  exact absurd none_ (by simp)

end ArduinoDriver
