import ArduinoDriver.Firmware.Phases
import ArduinoDriver.Lib.Reconcile

namespace ArduinoDriver

/-- _stream_channels[0.._stream_n_channels). -/
def StreamState.selection (s : StreamState) : List Nat :=
  (List.range s.nChannels.toNat).map s.channels

variable {b : Board} {env : Env} {d d' : UsbIoDevice} {o : Obs} {m : Machine} {s : StreamState}

@[simp] theorem StreamState.selection_length : s.selection.length = s.nChannels.toNat := by
  simp [selection]

theorem StreamState.selection_getElem {i : Nat} (inside : i < s.selection.length) :
    s.selection[i] = s.channels i := by
  simp [selection]

theorem StreamState.channelIndex_selection {pin : Nat} :
    s.channelIndex pin = none ↔ pin ∉ s.selection := by
  rw [channelIndex_eq_none]
  simp [selection]

theorem StreamState.selection_add (pin : Nat) (room : s.nChannels.toNat < maxStreamChannels) :
    (s.addChannel pin).selection = s.selection ++ [pin] := by
  have limit : maxStreamChannels = 8 := rfl
  have count : (s.nChannels + 1).toNat = s.nChannels.toNat + 1 := by
    simp only [UInt8.toNat_add, UInt8.toNat_one]
    omega
  change (List.range (s.nChannels + 1).toNat).map
    (Function.update s.channels s.nChannels.toNat pin) = _
  rw [count, List.range_succ, List.map_append, List.map_singleton, Function.update_self]
  congr 1
  apply List.map_congr_left
  intro i inside
  exact Function.update_of_ne (Nat.ne_of_lt (List.mem_range.mp inside)) ..

/-- Removing a channel keeps the order of the others. -/
theorem StreamState.selection_remove {i pin : Nat} (found : s.channelIndex pin = some i)
    (distinct : s.selection.Nodup) :
    (s.removeChannel i).selection = s.selection.filter (· ≠ pin) := by
  obtain ⟨inside, at_i⟩ := StreamState.channelIndex_eq_some found
  have long : i < s.selection.length := by simpa using inside
  have count : (s.nChannels - 1).toNat = s.nChannels.toNat - 1 := by
    have := s.nChannels.toNat_lt
    simp only [UInt8.toNat_sub, UInt8.toNat_one]
    omega
  have erased : s.selection.filter (· ≠ pin) = s.selection.eraseIdx i := by
    have element : s.selection[i] = pin := (selection_getElem long).trans at_i
    rw [← distinct.erase_getElem i long, element, distinct.erase_eq_filter]
    congr 1
    funext a
    rw [Bool.eq_iff_iff]
    simp
  rw [erased]
  apply List.ext_getElem
  · rw [List.length_eraseIdx_of_lt long, selection_length, selection_length]
    exact count
  · intro j below _
    have below' : j < s.nChannels.toNat - 1 := by
      rw [selection_length] at below
      exact count ▸ below
    have length : s.selection.length = s.nChannels.toNat := selection_length
    rw [selection_getElem below]
    change shiftDown s.channels i s.nChannels.toNat j = _
    rw [List.getElem_eraseIdx]
    unfold shiftDown
    split
    · rename_i shifts
      rw [dif_neg (by omega), selection_getElem (by omega)]
    · rename_i stays
      rw [dif_pos (by omega), selection_getElem (by omega)]

/-- What STREAM_SELECT makes of the selection. -/
def selecting (adds : Bool) (l : List Nat) (pin : Nat) : List Nat :=
  if adds then Lib.addLast l pin else l.filter (· ≠ pin)

/-- The outcomes of handle_stream_select(). -/
theorem handleStreamSelect_cases (d : UsbIoDevice) (value index : UInt16) :
    (∃ reason, handleStreamSelect d value index = stall d reason) ∨
    (value ≠ 0 ∧ index.toNat ∈ d.stream.selection ∧
      handleStreamSelect d value index = (d, true)) ∨
    (value ≠ 0 ∧ index.toNat ∉ d.stream.selection ∧ d.stream.nChannels.toNat < maxStreamChannels ∧
      handleStreamSelect d value index =
        ({ d with stream := d.stream.addChannel index.toNat }, true)) ∨
    (value = 0 ∧ index.toNat ∉ d.stream.selection ∧
      handleStreamSelect d value index = (d, true)) ∨
    (value = 0 ∧ ∃ i, d.stream.channelIndex index.toNat = some i ∧
      handleStreamSelect d value index =
        ({ d with stream := d.stream.removeChannel i }, true)) := by
  have absent := @StreamState.channelIndex_selection d.stream index.toNat
  unfold handleStreamSelect
  dsimp only
  split
  · exact .inl ⟨_, rfl⟩
  · split
    · exact .inl ⟨_, rfl⟩
    · split
      · exact .inl ⟨_, rfl⟩
      · split
        · exact .inl ⟨_, rfl⟩
        · split
          · exact .inl ⟨_, rfl⟩
          · cases found : d.stream.channelIndex index.toNat with
            | none =>
              have missing := absent.mp found
              split
              · rename_i adds
                rw [if_neg (by simp)]
                split
                · exact .inl ⟨_, rfl⟩
                · rename_i room
                  exact .inr (.inr (.inl ⟨adds, missing, Nat.not_le.mp room, rfl⟩))
              · rename_i removes
                exact .inr (.inr (.inr (.inl ⟨not_not.mp removes, missing, rfl⟩)))
            | some i =>
              have inside : index.toNat ∈ d.stream.selection := by
                by_contra outside
                rw [absent.mpr outside] at found
                contradiction
              split
              · rename_i adds
                exact .inr (.inl ⟨adds, inside, rfl⟩)
              · rename_i removes
                exact .inr (.inr (.inr (.inr ⟨not_not.mp removes, i, rfl, rfl⟩)))

/-- handle_stream_select() adds or removes the pin when it accepts, and changes
nothing of the selection when it refuses. -/
theorem handleStreamSelect_selection (value index : UInt16) (distinct : d.stream.selection.Nodup) :
    (handleStreamSelect d value index).1.stream.selection =
      if (handleStreamSelect d value index).2 then
        selecting (decide (value ≠ 0)) d.stream.selection index.toNat
      else d.stream.selection := by
  unfold selecting
  rcases handleStreamSelect_cases d value index with ⟨reason, eq⟩ | ⟨adds, inside, eq⟩ |
    ⟨adds, absent, room, eq⟩ | ⟨removes, absent, eq⟩ | ⟨removes, i, found, eq⟩
  · rw [eq]
    rfl
  · rw [eq, if_pos rfl, if_pos (by simpa using adds), Lib.addLast, if_pos inside]
  · rw [eq, if_pos rfl, if_pos (by simpa using adds), Lib.addLast, if_neg absent]
    exact StreamState.selection_add _ room
  · rw [eq, if_pos rfl, if_neg (by simpa using removes)]
    refine (List.filter_eq_self.mpr ?_).symm
    intro a inside
    have other : a ≠ index.toNat := by
      rintro rfl
      exact absent inside
    simpa using other
  · rw [eq, if_pos rfl, if_neg (by simpa using removes)]
    exact StreamState.selection_remove found distinct

/-- No step of poll() touches the selection. -/
theorem loopStep_selection (b : Board) (env : Env) (m : Machine) :
    (loopStep b env m).dev.stream.selection = m.dev.stream.selection := by
  by_cases other : m.pc.offStream
  · rw [(loopStep_offStream b env m other).1]
  · obtain ⟨d, pc, log⟩ := m
    cases pc with
    | stream pc =>
      cases pc with
      | catchUp | writeResult =>
        simp only [loopStep, streamStep]
        split <;> rfl
      | flushTest =>
        simp only [loopStep, streamStep]
        split
        · rfl
        · split <;> rfl
      | packRecord =>
        simp only [loopStep, streamStep]
        split
        · split <;> rfl
        · rfl
      | _ => rfl
    | _ => exact absurd rfl other

/-- Requests that leave the selection alone. -/
def Obs.offSelection : Obs → Bool
  | .accepted .reset _ _ | .accepted .streamSelect _ _ => false
  | _ => true

theorem Served.selection (served : Served b env d d' o) (off : o.offSelection) :
    d'.stream.selection = d.stream.selection := by
  cases served with
  | moded index value mode named known allowed room =>
    simp only [recordMode]
    split <;> rfl
  | reset | added | removed => contradiction
  | _ => rfl

end ArduinoDriver
