import ArduinoDriver.Firmware.Invariant

namespace ArduinoDriver

/-- Log entries of the phases of poll() before stream_poll(). -/
def Obs.offStream : Obs → Bool
  | .pollStarted | .pollReturned | .call _ | .applied .. | .drained | .skipped _ | .executed _
  | .edge .. => true
  | _ => false

theorem execute_offStream (b : Board) (env : Env) (d : UsbIoDevice) (c : Command) :
    ∀ o ∈ (execute b env d c).2, o.offStream := by
  unfold execute
  split
  · split
    · unfold applyMode
      split
      · simp [Obs.offStream]
      · split <;> simp [Obs.offStream]
    · simp
  · simp [Obs.offStream]
  · simp [Obs.offStream]
  · simp [Obs.offStream]
  · simp

theorem drainStep_offStream (b : Board) (env : Env) (d : UsbIoDevice) (pc : DrainPc) :
    ∀ o ∈ (drainStep b env d pc).2.2, o.offStream := by
  cases pc with
  | resetApply seen =>
    intro o inside
    obtain ⟨p, _, written⟩ := List.mem_flatMap.mp inside
    revert written
    simp only [List.mem_cons, List.not_mem_nil, or_false]
    rintro (rfl | rfl) <;> rfl
  | epochTest c =>
    simp only [drainStep]
    split <;> simp [Obs.offStream]
  | execute c =>
    intro o inside
    rcases List.mem_cons.mp inside with rfl | inside
    · rfl
    · exact execute_offStream b env d c o inside
  | outerTest =>
    simp only [drainStep]
    split <;> simp [Obs.offStream]
  | _ => simp [drainStep]

theorem eventStep_offStream (env : Env) (d : UsbIoDevice) (pc : EventPc) :
    ∀ o ∈ (eventStep env d pc).2.2, o.offStream := by
  cases pc with
  | readActive | compareLevel | roomTest =>
    simp only [eventStep]
    split <;> simp [Obs.offStream]
  | _ => simp [eventStep, Obs.offStream]

theorem returnLog_offStream (pc : Pc) : ∀ o ∈ returnLog pc, o.offStream := by
  unfold returnLog
  split <;> simp [Obs.offStream]

theorem drainStep_stream (b : Board) (env : Env) (d : UsbIoDevice) (pc : DrainPc) :
    (drainStep b env d pc).1.stream = d.stream := by
  cases pc with
  | epochTest | outerTest =>
    simp only [drainStep]
    split <;> rfl
  | execute c =>
    obtain ⟨dio, ain, eq⟩ := execute_frame b env d c
    simp only [drainStep, eq]
  | _ => rfl

theorem shadowStep_stream (env : Env) (d : UsbIoDevice) (pc : ShadowPc) :
    (shadowStep env d pc).1.stream = d.stream := by
  cases pc with
  | enter => rfl
  | pin p =>
    simp only [shadowStep]
    split
    · split <;> rfl
    · rfl
  | analog i =>
    simp only [shadowStep]
    split
    · split <;> rfl
    · rfl

/-- The position of poll() is not inside stream_poll(). -/
def Pc.offStream : Pc → Bool
  | .stream _ => false
  | _ => true

/-- The phases before stream_poll() leave the stream alone. -/
theorem loopStep_offStream (b : Board) (env : Env) (m : Machine) (other : m.pc.offStream) :
    (loopStep b env m).dev.stream = m.dev.stream ∧
    ((loopStep b env m).pc.offStream ∨ (loopStep b env m).pc = .stream .startTest) ∧
    ∃ news, (loopStep b env m).log = news ++ m.log ∧ ∀ o ∈ news, o.offStream := by
  obtain ⟨d, pc, log⟩ := m
  cases pc with
  | idle => exact ⟨rfl, .inl rfl, [.pollStarted], rfl, by simp [Obs.offStream]⟩
  | drain pc =>
    refine ⟨drainStep_stream b env d pc, ?_, _, rfl, drainStep_offStream b env d pc⟩
    simp only [loopStep]
    cases (drainStep b env d pc).2.1 <;> exact .inl rfl
  | shadow pc =>
    refine ⟨shadowStep_stream env d pc, ?_, [], rfl, by simp⟩
    simp only [loopStep]
    cases (shadowStep env d pc).2 <;> exact .inl rfl
  | event pc =>
    refine ⟨rfl, ?_, _, rfl, ?_⟩
    · simp only [loopStep, afterEvent]
      cases (eventStep env d pc).2.1 with
      | none =>
        simp only [Option.map_none, Option.getD_none]
        split
        · exact .inr rfl
        · exact .inl rfl
      | some next => exact .inl rfl
    · intro o inside
      rcases List.mem_append.mp inside with returned | inside
      · exact returnLog_offStream _ o returned
      · exact eventStep_offStream env d pc o inside
  | stream pc => contradiction

/-- What holds at the positions outside stream_poll() and at its entry holds after such a step. -/
theorem loopStep_enters {b : Board} {env : Env} {m : Machine} {P : Pc → Prop} (other : m.pc.offStream)
    (outside : ∀ pc, pc.offStream → P pc) (entry : P (.stream .startTest)) : P (loopStep b env m).pc := by
  rcases (loopStep_offStream b env m other).2.1 with away | enters
  · exact outside _ away
  · rw [enters]
    exact entry

end ArduinoDriver
