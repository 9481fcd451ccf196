import ArduinoDriver.Firmware.Fifo

namespace ArduinoDriver

/-- A step of the interrupt side. -/
def Act.interrupts : Act → Bool
  | .loop _ => false
  | _ => true

/-- The queue after a RESET that left the machine in `m`, as the host sees it from there on. -/
structure QueueCleared (b : Board) (m : Machine) : Prop where
  /-- What is counted was accepted after the RESET. -/
  pending : ∀ acts, (run b m acts).dev.commands <:+ Lib.trail (step b) (takesIn b) m acts
  /-- And that count is what GET_STATUS says. -/
  reported : ∀ acts env (s : SetupPacket) index reply,
    s.obs (handleSetup b env (run b m acts).dev s).2 = .answered .getStatus index reply →
    1 < s.wLength.toNat → reply[1]? = some (UInt8.ofNat (run b m acts).dev.commands.length)
  /-- Without a poll(), a valid request is taken as long as 32 have not been. -/
  room : ∀ acts env s, acts.all Act.interrupts → (Lib.trail (step b) (takesIn b) m acts).length < queueDepth →
    Queueable b (run b m acts).dev s → (handleSetup b env (run b m acts).dev s).2 ≠ none

variable {b : Board} {env : Env} {d : UsbIoDevice} {m : Machine} {s : SetupPacket} {index value : UInt16}

theorem UsbIoDevice.commands_length (d : UsbIoDevice) : d.commands.length = d.queuePending.toNat :=
  Lib.Ring.contents_length

theorem handleSetup_getStatus {reply : List UInt8}
    (said : s.obs (handleSetup b env d s).2 = .answered .getStatus index reply)
    (long : 1 < s.wLength.toNat) : reply[1]? = some (UInt8.ofNat d.commands.length) := by
  obtain ⟨_, named, _, full, written, rfl⟩ := handleSetup_answered said
  have status : full = statusBytes d := by
    unfold replyBytes at written
    rw [named] at written
    exact (Option.some.inj written).symm
  rw [List.getElem?_take, if_pos long, status, d.commands_length, UInt8.ofNat_toNat]
  rfl

/-- Past its other checks a request is refused for want of room only. -/
theorem Queueable.answered (inv : Invariant b d) (begun : Begun b d) (valid : Queueable b d s)
    (room : d.queuePending.toNat < queueDepth) : (handleSetup b env d s).2 ≠ none := by
  obtain ⟨index, admitted, ⟨req, named, queued⟩, passes⟩ := valid
  have taken : (d.contract b).refusal s.bRequest s.wValue index s.wLength = none := by
    obtain ⟨checks, _, eq, eq'⟩ := (d.contract b).rows_queued queued index s.wValue
    unfold Contract.refusal at passes ⊢
    split at passes
    · contradiction
    · rename_i short
      rw [if_neg short]
      rw [named] at passes ⊢
      dsimp only at passes ⊢
      rw [eq', firstFailure_append] at passes
      rw [eq, firstFailure_append, (Option.or_eq_none_iff.mp passes).1]
      have found : decide ((d.contract b).pending < queueDepth) = true := decide_eq_true room
      rw [found]
      rfl
  have outcome := handleOut_outcome inv begun s.bRequest s.wValue index s.wLength
  rw [taken] at outcome
  rw [admitted.handled]
  simp [ArduinoDriver.answered, outcome.1]

/-- Only poll() pops. -/
theorem pops_interrupts (m : Machine) (acts : List Act) (still : acts.all Act.interrupts) :
    Lib.trail (step b) pops m acts = [] := by
  induction acts generalizing m with
  | nil => rfl
  | cons act acts ih =>
    obtain ⟨first, rest⟩ := (Bool.and_eq_true _ _).mp still
    cases act with
    | loop env => contradiction
    | _ => exact ih _ rest

/-- From an empty queue on, what is in it is what was taken in and not popped. -/
theorem QueueCleared.of_empty (reached : Reachable b m) (empty : m.dev.commands = []) :
    QueueCleared b m := by
  have later : ∀ acts, Reachable b (run b m acts) := fun acts => reached.foldl (fun _ _ => trivial) acts
  have balance : ∀ acts, Lib.trail (step b) (takesIn b) m acts =
      Lib.trail (step b) pops m acts ++ (run b m acts).dev.commands := by
    intro acts
    have ⟨ok, queued⟩ := reach_queued reached
    have conserved := @Lib.trail_conserved _ _ _ (step b) (takesIn b) pops (fun m => m.dev.commands)
      (fun m => m.Ok b ∧ Queued m)
      (fun _ act known => ⟨step_ok act known.1, step_queued known.2 known.1⟩)
      (fun _ act known => step_commands known.2 known.1 act) _ ⟨ok, queued⟩ acts
    rw [empty, List.nil_append] at conserved
    exact conserved
  refine ⟨fun acts => ⟨_, (balance acts).symm⟩, fun acts env s index reply said long =>
    handleSetup_getStatus said long, fun acts env s still few valid => ?_⟩
  refine valid.answered (reach_queued (later acts)).1.dev (reach_begun (later acts)) ?_
  rw [balance acts, pops_interrupts m acts still, List.nil_append] at few
  rwa [← UsbIoDevice.commands_length]

/-- RESET clears the queue when there is nothing in it. -/
theorem reset_clears_queue_iff (b : Board) (env : Env) (s : SetupPacket) (m : Machine) (index value : UInt16)
    (reached : Reachable b m)
    (accepted : s.obs (handleSetup b env m.dev s).2 = .accepted .reset index value) :
    QueueCleared b (step b m (.setup env s)) ↔ m.dev.queuePending = 0 := by
  have left : (step b m (.setup env s)).dev.commands = m.dev.commands := by
    have kept := (handleSetup_served b env m.dev s).commands
    rw [accepted] at kept
    exact kept.symm.trans (List.append_nil _)
  have pending := m.dev.commands_length
  constructor
  · intro cleared
    have counted := cleared.pending []
    have none_left : m.dev.commands = [] := left.symm.trans (List.suffix_nil.mp counted)
    rw [none_left] at pending
    exact UInt8.toNat_inj.mp pending.symm
  · intro empty
    rw [empty] at pending
    exact .of_empty (.tail _ reached trivial) (left.trans (List.eq_nil_of_length_eq_zero pending))

theorem reset_clears_queue_iff_booted :
    QueueCleared onePinBoard (step onePinBoard (boot onePinBoard) (request .reset 0 0)) :=
  (reset_clears_queue_iff onePinBoard (stillEnv .busy) (.out .reset 0 0) (boot onePinBoard) 0 0 .refl
    (by decide +kernel)).mpr rfl

/-- After a PIN_MODE and a RESET one command is counted. -/
theorem reset_leaves_cancelled_commands :
    ¬ ∀ (b : Board) (env : Env) (s : SetupPacket) (m : Machine) (index value : UInt16), Reachable b m →
      s.obs (handleSetup b env m.dev s).2 = .accepted .reset index value →
      QueueCleared b (step b m (.setup env s)) := by
  intro claim
  have cleared := claim onePinBoard (stillEnv .busy) (.out .reset 0 0)
    (run onePinBoard (boot onePinBoard) [request .pinMode 0 0]) 0 0
    (Lib.Reach.refl.foldl (fun _ _ => trivial) _) (by decide +kernel)
  have none_left := (cleared.pending []).length_le
  revert none_left
  decide +kernel

end ArduinoDriver
