import ArduinoDriver.Firmware.EventRing
import ArduinoDriver.Firmware.Validation

namespace ArduinoDriver

variable {b : Board} {m : Machine} {e e' : EventState} {i : Nat}

/-- Slots that watch the same pins in the same way. -/
theorem EventState.watching_congr (same : ∀ i, (e'.watch i).active = (e.watch i).active ∧
    (e'.watch i).pin = (e.watch i).pin ∧ (e'.watch i).edgeMode = (e.watch i).edgeMode ∧
    (e'.watch i).debounceMs = (e.watch i).debounceMs) : e'.watching = e.watching := by
  funext pin
  have index : e'.watchIndex pin = e.watchIndex pin := by
    apply watchIndex_congr
    intro j _
    rw [(same j).1, (same j).2.1]
  unfold watching
  rw [index]
  cases e.watchIndex pin with
  | none => rfl
  | some j => simp only [Option.map_some, (same j).2.2.1, (same j).2.2.2]

theorem EventState.setWatch_watching {w : EventWatch} (active : w.active = (e.watch i).active)
    (pin : w.pin = (e.watch i).pin) (edge : w.edgeMode = (e.watch i).edgeMode)
    (debounce : w.debounceMs = (e.watch i).debounceMs) : (e.setWatch i w).watching = e.watching := by
  apply EventState.watching_congr
  intro j
  by_cases here : j = i
  · subst here
    rw [setWatch_watch]
    exact ⟨active, pin, edge, debounce⟩
  · have other : (e.setWatch i w).watch j = e.watch j := Function.update_of_ne here ..
    rw [other]
    exact ⟨rfl, rfl, rfl, rfl⟩

/-- event_poll() changes no watch. -/
theorem eventStep_watching (env : Env) (d : UsbIoDevice) (pc : EventPc) :
    (eventStep env d pc).1.watching = d.event.watching := by
  cases pc with
  | takeSeq | takeBaseline | bumpCount | openWindow => exact EventState.setWatch_watching rfl rfl rfl rfl
  | compareLevel now i pin =>
    simp only [eventStep]
    split
    · rfl
    · exact EventState.setWatch_watching rfl rfl rfl rfl
  | readActive | roomTest | dropTest | seqTest | changeTest | directionTest | debounceTest =>
    simp only [eventStep]
    repeat' split
    all_goals rfl
  | _ => rfl

theorem loopStep_watching (b : Board) (env : Env) (m : Machine) :
    (loopStep b env m).dev.event.watching = m.dev.event.watching := by
  by_cases scanning : ∃ pc, m.pc = .event pc
  · obtain ⟨pc, at_pc⟩ := scanning
    unfold loopStep
    rw [at_pc]
    exact eventStep_watching env m.dev pc
  · rw [loopStep_event_frame b env m (fun pc at_pc => scanning ⟨pc, at_pc⟩)]

theorem polls_watching {acts : List Act} (polls : ∀ a ∈ acts, ∃ env, a = .loop env) :
    (run b m acts).dev.event.watching = m.dev.event.watching := by
  induction acts generalizing m with
  | nil => rfl
  | cons a acts ih =>
    obtain ⟨env, rfl⟩ := polls a (List.mem_cons_self ..)
    exact (ih (fun a inside => polls a (List.mem_cons_of_mem _ inside))).trans (loopStep_watching b env m)

/-- What an EVENT_CONFIG that is accepted makes of the watches. -/
def rewatched (f : Nat → Option (EdgeMode × UInt8)) (pin : Nat) (value : UInt16) :
    Nat → Option (EdgeMode × UInt8) :=
  match EdgeMode.ofCode? value.toUInt8 with
  | some .off => Function.update f pin none
  | some edge => Function.update f pin (some (edge, (value >>> 8).toUInt8))
  | none => f

theorem effect_watch {k : Contract} {index value : UInt16} :
    (k.effect .eventConfig index value).watch = rewatched k.intent.watch index.toNat value := by
  unfold Contract.effect rewatched
  cases EdgeMode.ofCode? value.toUInt8 with
  | none => rfl
  | some edge => cases edge <;> rfl

/-- EVENT_CONFIG: refused, it leaves the watches; accepted, it was for a pin of the board. -/
theorem eventConfig_watching (reached : Reachable b m) (env : Env) (index value : UInt16) :
    (handleSetup b env m.dev (.out .eventConfig value index)).2 = none ∧
        (handleSetup b env m.dev (.out .eventConfig value index)).1.event.watching =
          m.dev.event.watching ∨
      (handleSetup b env m.dev (.out .eventConfig value index)).2 = some [] ∧
        (handleSetup b env m.dev (.out .eventConfig value index)).1.event.watching =
          rewatched m.dev.event.watching index.toNat value ∧ index.toNat < b.pinCount := by
  have begun := reach_begun reached
  have meets := @handleOut_meets b m.dev index value .eventConfig Request.eventConfig.code
    (reach_ok reached).dev begun (Request.ofCode_code .eventConfig)
  rw [handleSetup_out]
  unfold Meets Outcome at meets
  cases verdict : firstFailure ((m.dev.contract b).rows .eventConfig index value) with
  | some reason =>
    rw [verdict] at meets
    rw [meets]
    exact .inl ⟨rfl, rfl⟩
  | none =>
    rw [verdict] at meets
    rw [meets.1]
    refine .inr ⟨rfl, ?_, ?_⟩
    · have watch := congrArg Intent.watch meets.2
      rw [effect_watch] at watch
      exact watch
    · by_contra outside
      rw [← begun.nPins] at outside
      have events : (m.dev.contract b).events = true := begun.events
      have unknown : decide (index.toNat < (m.dev.contract b).nPins) = false := decide_eq_false outside
      simp [Contract.rows, firstFailure, events, unknown] at verdict

/-- EVENT_CONFIG with OFF is accepted for every pin of the board. -/
theorem eventOff_accepted (reached : Reachable b m) (env : Env) {index : UInt16}
    (known : index.toNat < b.pinCount) :
    (handleSetup b env m.dev (.out .eventConfig 0 index)).2 = some [] := by
  have begun := reach_begun reached
  have meets := @handleOut_meets b m.dev index 0 .eventConfig Request.eventConfig.code
    (reach_ok reached).dev begun (Request.ofCode_code .eventConfig)
  have events : (m.dev.contract b).events = true := begun.events
  have inside : index.toNat < m.dev.nPins := by
    rw [begun.nPins]
    exact known
  have known_ : decide (index.toNat < (m.dev.contract b).nPins) = true := decide_eq_true inside
  have rows : (m.dev.contract b).rows .eventConfig index 0 =
      [((m.dev.contract b).events, .unsupported),
        (decide (index.toNat < (m.dev.contract b).nPins), .badPin)] := rfl
  have passes : firstFailure ((m.dev.contract b).rows .eventConfig index 0) = none := by
    rw [rows, events, known_]
    rfl
  unfold Meets Outcome at meets
  rw [passes] at meets
  rw [handleSetup_out, meets.1]
  rfl

/-- GET_STATUS changes no watch. -/
theorem getStatus_watching (b : Board) (env : Env) (d : UsbIoDevice) (len : UInt16) :
    (handleSetup b env d (.inp .getStatus 0 len)).1.event.watching = d.event.watching := by
  rw [handleSetup_inp]
  rfl

end ArduinoDriver
