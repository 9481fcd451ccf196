import ArduinoDriver.Firmware.Invariant
import Mathlib.Data.List.Nodup

namespace ArduinoDriver

/-- How a pin is watched. -/
def EventState.watching (e : EventState) (pin : Nat) : Option (EdgeMode × UInt8) :=
  (e.watchIndex pin).map fun i => ((e.watch i).edgeMode, (e.watch i).debounceMs)

variable {e e' : EventState} {pin i : Nat} {w : EventWatch}

/-- Slots that agree on who watches a pin find the same one. -/
theorem EventState.watchIndex_congr (same : ∀ j < maxEventPins,
    ((e'.watch j).active && (e'.watch j).pin == pin) =
      ((e.watch j).active && (e.watch j).pin == pin)) :
    e'.watchIndex pin = e.watchIndex pin :=
  Lib.Table.find_congr same

/-- A change to slot `i` alone shows at the pins the slot is for, before or after. -/
theorem EventState.watching_elsewhere (others : ∀ j, j ≠ i → e'.watch j = e.watch j)
    (before : (e.watch i).active → (e.watch i).pin ≠ pin)
    (after : (e'.watch i).active → (e'.watch i).pin ≠ pin) :
    e'.watching pin = e.watching pin := by
  have index : e'.watchIndex pin = e.watchIndex pin := by
    refine watchIndex_congr (fun j _ => ?_)
    by_cases same : j = i
    · subst j
      have off : ∀ w : EventWatch, (w.active → w.pin ≠ pin) →
          (w.active && w.pin == pin) = false := by
        intro w silent
        cases on : w.active with
        | false => rfl
        | true => simpa using silent on
      rw [off _ before, off _ after]
    · rw [others j same]
  unfold watching
  rw [index]
  cases found : e.watchIndex pin with
  | none => rfl
  | some j =>
    obtain ⟨_, on, at_pin⟩ := watchIndex_eq_some found
    have other : j ≠ i := by
      rintro rfl
      exact before on at_pin
    simp only [Option.map_some, others j other]

theorem EventState.watching_slot (inside : i < maxEventPins) (on : (e.watch i).active)
    (at_pin : (e.watch i).pin = pin)
    (alone : ∀ j < maxEventPins, (e.watch j).active → (e.watch j).pin = pin → j = i) :
    e.watching pin = some ((e.watch i).edgeMode, (e.watch i).debounceMs) := by
  have found : e.watchIndex pin = some i := by
    refine Lib.Table.find_unique inside (by simp [on, at_pin]) ?_
    intro j below fits
    simp only [Bool.and_eq_true, beq_iff_eq] at fits
    exact alone j below fits.1 fits.2
  simp only [watching, found, Option.map_some]

theorem EventState.watching_none
    (silent : ∀ j < maxEventPins, (e.watch j).active → (e.watch j).pin ≠ pin) :
    e.watching pin = none := by
  simp only [watching, watchIndex_eq_none.mpr silent, Option.map_none]

variable {nPins : Nat} {caps : Nat → UInt8} {mode : Nat → Option PinMode}

/-- Unwatching removes the pin's watch and no other. -/
theorem WatchTable.unwatch_watching (h : WatchTable nPins caps mode e.watch e.nWatched)
    (found : e.watchIndex pin = some i) :
    (e.unwatch i).watching = Function.update e.watching pin none := by
  obtain ⟨inside, on, at_pin⟩ := EventState.watchIndex_eq_some found
  have others : ∀ j, j ≠ i → (e.unwatch i).watch j = e.watch j :=
    fun j other => Function.update_of_ne other ..
  have off : ((e.unwatch i).watch i).active = false := by simp [EventState.unwatch, EventState.setWatch]
  funext q
  by_cases same : q = pin
  · subst q
    rw [Function.update_self]
    refine EventState.watching_none (fun j below onj => ?_)
    by_cases slot : j = i
    · subst j
      rw [off] at onj
      contradiction
    · rw [others j slot] at onj ⊢
      intro at_pinj
      exact slot (h.distinct j below i inside onj on (at_pinj.trans at_pin.symm))
  · rw [Function.update_of_ne same]
    refine EventState.watching_elsewhere others (fun _ at_q => same (at_q.symm.trans at_pin)) ?_
    rw [off]
    simp

/-- Arming a slot watches the pin and changes no other watch. -/
theorem WatchTable.arm_watching {edge : EdgeMode} {debounceMs : UInt8} {n : UInt8}
    (inside : i < maxEventPins) (own : (e.watch i).active → (e.watch i).pin = pin)
    (alone : ∀ j < maxEventPins, j ≠ i → (e.watch j).active → (e.watch j).pin ≠ pin) :
    EventState.watching { e.arm i pin edge debounceMs with nWatched := n } =
      Function.update e.watching pin (some (edge, debounceMs)) := by
  have others : ∀ j, j ≠ i → (e.arm i pin edge debounceMs).watch j = e.watch j :=
    fun j other => Function.update_of_ne other ..
  have slot : (e.arm i pin edge debounceMs).watch i = { e.watch i with
      pin := pin, edgeMode := edge, debounceMs := debounceMs, armSeq := e.armSeq + 1
      active := true } := Function.update_self ..
  funext q
  by_cases same : q = pin
  · subst q
    rw [Function.update_self]
    have armed : EventState.watching { e.arm i pin edge debounceMs with nWatched := n } pin =
        some (((e.arm i pin edge debounceMs).watch i).edgeMode,
          ((e.arm i pin edge debounceMs).watch i).debounceMs) := by
      refine EventState.watching_slot inside (by rw [slot]) (by rw [slot]) ?_
      intro j below onj at_pin
      by_contra other
      rw [others j other] at onj at_pin
      exact alone j below other onj at_pin
    rw [armed, slot]
  · rw [Function.update_of_ne same]
    refine EventState.watching_elsewhere others (fun on at_q => same (at_q.symm.trans (own on))) ?_
    rw [show (EventState.watch { e.arm i pin edge debounceMs with nWatched := n } i) = _ from slot]
    exact fun _ at_q => same at_q.symm

theorem requestReset_watching (d : UsbIoDevice) : (requestReset d).event.watching = fun _ => none := by
  funext pin
  refine EventState.watching_none (fun j inside on => ?_)
  simp [requestReset, inside] at on

/-- The counter of the table counts the pins watched. -/
theorem WatchTable.watched_pins (h : WatchTable nPins caps mode e.watch e.nWatched) :
    e.nWatched.toNat = (List.range nPins).countP fun pin => (e.watching pin).isSome := by
  let slots := (List.range maxEventPins).filter fun i => (e.watch i).active
  let pins := slots.map fun i => (e.watch i).pin
  have active : ∀ i, i ∈ slots ↔ i < maxEventPins ∧ (e.watch i).active := by
    intro i
    simp [slots]
  have nodup : pins.Nodup := by
    refine List.Nodup.map_on ?_ (List.nodup_range.filter _)
    intro i ini j inj same
    obtain ⟨hi, oni⟩ := (active i).mp ini
    obtain ⟨hj, onj⟩ := (active j).mp inj
    exact h.distinct i hi j hj oni onj same
  have watched : ∀ pin, pin ∈ pins ↔
      pin ∈ (List.range nPins).filter fun pin => (e.watching pin).isSome := by
    intro pin
    rw [List.mem_filter, List.mem_range, List.mem_map]
    constructor
    · rintro ⟨i, ini, rfl⟩
      obtain ⟨hi, oni⟩ := (active i).mp ini
      refine ⟨h.known i hi oni, ?_⟩
      rw [EventState.watching_slot hi oni rfl
        (fun j hj onj same => h.distinct j hj i hi onj oni same)]
      rfl
    · rintro ⟨_, seen⟩
      cases found : e.watchIndex pin with
      | none =>
        rw [EventState.watching, found] at seen
        contradiction
      | some i =>
        obtain ⟨hi, oni, at_pin⟩ := EventState.watchIndex_eq_some found
        exact ⟨i, (active i).mpr ⟨hi, oni⟩, at_pin⟩
  have perm : pins.Perm ((List.range nPins).filter fun pin => (e.watching pin).isSome) :=
    (List.perm_ext_iff_of_nodup nodup (List.nodup_range.filter _)).mpr watched
  rw [h.counted, List.countP_eq_length_filter, ← perm.length_eq, List.length_map]
  exact List.countP_eq_length_filter

end ArduinoDriver
