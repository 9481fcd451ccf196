import ArduinoDriver.Firmware.Intentions
import ArduinoDriver.Firmware.Validation
import ArduinoDriver.Lib.Trail

namespace ArduinoDriver

/-- The command an accepted request stands for, `epoch` being that of its arrival. -/
def Obs.commands (epoch : UInt8) : Obs → List Command
  | .accepted req index value =>
    if req.isQueued then [⟨req, index.toNat, epoch, storedValue req value⟩] else []
  | _ => []

/-- The commands a step takes in. -/
def takesIn (b : Board) (m : Machine) : Act → List Command
  | .setup env s => (s.obs (handleSetup b env m.dev s).2).commands m.dev.epoch
  | _ => []

/-- The command a step of the drain loop copies out of its slot. -/
def copiesOut (m : Machine) : Act → List Command
  | .loop _ =>
    match m.pc with
    | .drain .copySlot => [m.dev.queue (ringSlot queueDepth m.dev.tail)]
    | _ => []
  | _ => []

/-- The command a step of the drain loop pops by bumping _tail. -/
def pops (m : Machine) : Act → List Command
  | .loop _ =>
    match m.pc with
    | .drain (.bumpTail _ c) => [c]
    | _ => []
  | _ => []

/-- The copy poll() holds of the command at _tail. -/
def Pc.copy : Pc → List Command
  | .drain (.bumpTail _ c) => [c]
  | _ => []

variable {b : Board} {env : Env} {d d' : UsbIoDevice} {o : Obs} {m : Machine}
  {index value wLength : UInt16} {bRequest : UInt8} {req : Request}

/-- A request appends its command to the queue and touches no other entry. -/
theorem Served.commands (served : Served b env d d' o) :
    d.commands ++ o.commands d.epoch = d'.commands := by
  cases served with
  | moded index value mode named known allowed room =>
    exact (Lib.Ring.contents_push (by decide) (by decide) room _).symm
  | written req mode index value writes known intended room =>
    have queued : req.isQueued := by
      cases req <;> first | rfl | contradiction
    simp only [Obs.commands, queued, if_true]
    exact (Lib.Ring.contents_push (by decide) (by decide) room _).symm
  | unchanged req index value settled =>
    rcases settled with rfl | rfl <;> exact List.append_nil _
  | _ => exact List.append_nil _

/-- Bumping _tail pops the front command, the one copied. -/
theorem bumpTail_commands {tail : UInt8} {c : Command} (copied : Pc.Copied d (.drain (.bumpTail tail c)))
    (ok : DrainPc.Ok d (.bumpTail tail c)) :
    d.commands = c :: UsbIoDevice.commands { d with tail := tail + 1 } := by
  obtain ⟨rfl, more⟩ := ok
  have front : d.queue (ringSlot queueDepth d.tail) = c := copied
  rw [← front]
  exact Lib.Ring.contents_pop more

theorem step_commands (queued : Queued m) (ok : m.Ok b) (act : Act) :
    m.dev.commands ++ takesIn b m act = pops m act ++ (step b m act).dev.commands := by
  cases act with
  | setup env s => exact (handleSetup_served b env m.dev s).commands
  | disconnect => exact List.append_nil _
  | loop env =>
    rw [show takesIn b m (.loop env) = [] from rfl, List.append_nil]
    by_cases other : m.pc.offDrain
    · have none_popped : pops m (.loop env) = [] := by
        unfold pops
        cases at_pc : m.pc with
        | drain pc =>
          rw [at_pc] at other
          contradiction
        | _ => rfl
      rw [none_popped]
      exact (loopStep_offDrain b env m other).1.commands.symm
    · obtain ⟨d, pc, log⟩ := m
      cases pc with
      | drain pc =>
        cases pc with
        | bumpTail tail c => exact bumpTail_commands queued.copied ok.pc
        | epochTest c | outerTest =>
          simp only [step, loopStep, drainStep]
          split <;> rfl
        | execute c =>
          obtain ⟨dio, ain, eq⟩ := execute_frame b env d c
          simp only [step, loopStep, drainStep, eq]
          rfl
        | _ => rfl
      | _ => exact absurd rfl other

/-- What poll() copies it either holds or has popped. -/
theorem step_copy (act : Act) :
    m.pc.copy ++ copiesOut m act = pops m act ++ (step b m act).pc.copy := by
  cases act with
  | setup env s => exact List.append_nil _
  | disconnect => exact List.append_nil _
  | loop env =>
    obtain ⟨d, pc, log⟩ := m
    cases pc with
    | idle => rfl
    | drain pc =>
      cases pc with
      | resetTest | drainTest | epochTest | outerTest =>
        simp only [step, loopStep, drainStep]
        split <;> rfl
      | _ => rfl
    | shadow pc =>
      simp only [step, loopStep]
      cases (shadowStep env d pc).2 <;> rfl
    | event pc =>
      simp only [step, loopStep, afterEvent]
      cases (eventStep env d pc).2.1 with
      | none => cases b.hasStreamTransport <;> rfl
      | some next => rfl
    | stream pc =>
      simp only [step, loopStep]
      cases (streamStep b env d pc).2.1 <;> rfl

/-- The copy poll() holds is the front of the queue. -/
theorem Machine.copy_prefix (queued : Queued m) (ok : m.Ok b) : m.pc.copy <+: m.dev.commands := by
  obtain ⟨d, pc, log⟩ := m
  cases pc with
  | drain pc =>
    cases pc with
    | bumpTail tail c =>
      rw [show Machine.dev ⟨d, _, log⟩ = d from rfl, bumpTail_commands queued.copied ok.pc]
      exact ⟨_, rfl⟩
    | _ => exact List.nil_prefix
  | _ => exact List.nil_prefix

theorem boot_commands (b : Board) : (boot b).dev.commands = [] := by
  obtain ⟨caps, nAin, eq, _⟩ := boot_dev b
  rw [eq]
  exact Lib.Ring.contents_self

/-- The table as it would decide with nothing queued. -/
def Contract.unqueued (k : Contract) : Contract := { k with pending := 0 }

theorem firstFailure_append {rows more : List (Bool × Status)} :
    firstFailure (rows ++ more) = (firstFailure rows).or (firstFailure more) := by
  induction rows with
  | nil => rfl
  | cons row rows ih =>
    obtain ⟨holds, reason⟩ := row
    cases holds with
    | false => rfl
    | true => exact ih

theorem firstFailure_mem {rows : List (Bool × Status)} {reason : Status}
    (failed : firstFailure rows = some reason) : ∃ row ∈ rows, row.2 = reason := by
  induction rows with
  | nil => contradiction
  | cons row rows ih =>
    obtain ⟨holds, first⟩ := row
    cases holds with
    | false => exact ⟨_, List.mem_cons_self, Option.some.inj failed⟩
    | true =>
      obtain ⟨row, inside, eq⟩ := ih failed
      exact ⟨row, List.mem_cons_of_mem _ inside, eq⟩

/-- The queue's room is the last row of a queued request, whose other rows do not look
at the queue. -/
theorem Contract.rows_queued (k : Contract) (queued : req.isQueued) (index value : UInt16) :
    ∃ checks, (∀ row ∈ checks, row.2 ≠ .queueFull) ∧
      k.rows req index value = checks ++ [(decide (k.pending < queueDepth), .queueFull)] ∧
      k.unqueued.rows req index value = checks ++ [(true, .queueFull)] := by
  cases req with
  | pinMode => exact ⟨[_, _, _], by simp, rfl, rfl⟩
  | dioWrite => exact ⟨[_, _], by simp, rfl, rfl⟩
  | pwmWrite => exact ⟨[_, _, _], by simp, rfl, rfl⟩
  | dacWrite => exact ⟨[_, _, _], by simp, rfl, rfl⟩
  | _ => contradiction

theorem Contract.rows_unqueued (k : Contract) (other : ¬ req.isQueued) :
    ∀ row ∈ k.rows req index value, row.2 ≠ .queueFull := by
  cases req with
  | pinMode | dioWrite | pwmWrite | dacWrite => exact absurd rfl other
  | eventConfig =>
    unfold Contract.rows
    dsimp only
    split <;> simp
  | _ => simp [Contract.rows]

/-- The table says QUEUE_FULL to what it would take with room in the queue. -/
theorem Contract.refusal_queueFull (k : Contract) :
    k.refusal bRequest value index wLength = some .queueFull ↔
      (∃ req, Request.ofCode? bRequest = some req ∧ req.isQueued) ∧
      k.unqueued.refusal bRequest value index wLength = none ∧ queueDepth ≤ k.pending := by
  unfold Contract.refusal
  by_cases long : wLength ≠ 0
  · simp only [if_pos long, Option.some.injEq, reduceCtorEq, false_and, and_false]
  · simp only [if_neg long]
    cases named : Request.ofCode? bRequest with
    | none => simp
    | some req =>
      dsimp only
      by_cases queued : req.isQueued
      · obtain ⟨checks, others, eq, eq'⟩ := k.rows_queued queued index value
        rw [eq, eq', firstFailure_append, firstFailure_append]
        cases failed : firstFailure checks with
        | some reason =>
          obtain ⟨row, inside, rfl⟩ := firstFailure_mem failed
          simp [others row inside]
        | none => simp [firstFailure, queued]
      · constructor
        · intro full
          obtain ⟨row, inside, eq⟩ := firstFailure_mem full
          exact absurd eq (k.rows_unqueued queued row inside)
        · rintro ⟨⟨_, same, queued'⟩, _⟩
          obtain rfl := Option.some.inj same
          exact absurd queued' queued

theorem handleIn_refusal (refused : (handleIn b env d bRequest index wLength).2 = none) :
    (handleIn b env d bRequest index wLength).1.lastError ≠ .queueFull := by
  unfold handleIn replyBytes at *
  cases named : Request.ofCode? bRequest with
  | none => simp [stall]
  | some req =>
    rw [named] at refused
    cases req
    case streamStatus =>
      by_cases streams : (b.hasStreamTransport && hasFlag d.flags flagStreaming) = true
      · simp [streams] at refused
      · simp [streams, stall]
    all_goals first | contradiction | simp [stall]

/-- handle_setup() stalled a request for want of room in the queue. -/
def RefusedFull (b : Board) (env : Env) (d : UsbIoDevice) (s : SetupPacket) : Prop :=
  (handleSetup b env d s).2 = none ∧ (handleSetup b env d s).1.lastError = .queueFull

/-- The packet asks for something to be queued and passes every other check. -/
def Queueable (b : Board) (d : UsbIoDevice) (s : SetupPacket) : Prop :=
  ∃ index, s.Admitted d index ∧
    (∃ req, Request.ofCode? s.bRequest = some req ∧ req.isQueued) ∧
    (d.contract b).unqueued.refusal s.bRequest s.wValue index s.wLength = none

/-- Only handle_out() refuses with QUEUE_FULL. -/
theorem RefusedFull.admitted {s : SetupPacket} (vendor : s.isVendor = true)
    (full : RefusedFull b env d s) : ∃ index, s.Admitted d index := by
  obtain ⟨refused, reason⟩ := full
  have direction : dispatch b env d s = handleSetup b env d s → s.isIn = false := by
    intro same
    rw [← same] at refused reason
    unfold dispatch at refused reason
    cases inward : s.isIn with
    | false => rfl
    | true =>
      rw [inward, if_pos rfl] at refused reason
      exact absurd reason (handleIn_refusal refused)
  unfold handleSetup at refused reason direction
  rw [vendor, Bool.not_true, if_neg Bool.false_ne_true] at refused reason direction
  by_cases device : s.bmRequestType &&& 0x1F = 0
  · rw [if_pos device] at direction
    exact ⟨s.wIndex, vendor, direction rfl, .inl ⟨device, rfl⟩⟩
  · rw [if_neg device] at refused reason direction
    by_cases interface : s.bmRequestType &&& 0x1F = 1
    · rw [if_pos interface] at refused reason direction
      by_cases owned : hasFlag d.flags flagVendorInterface
      · rw [if_pos owned] at direction
        exact ⟨s.wIndex >>> 8, vendor, direction rfl, .inr ⟨interface, owned, rfl⟩⟩
      · rw [if_neg owned] at reason
        contradiction
    · rw [if_neg interface] at reason
      contradiction

theorem refusedFull_iff (inv : Invariant b d) (begun : Begun b d) {s : SetupPacket}
    (vendor : s.isVendor = true) :
    RefusedFull b env d s ↔ Queueable b d s ∧ queueDepth ≤ d.queuePending.toNat := by
  have decides : ∀ {index}, s.Admitted d index → (RefusedFull b env d s ↔
      (d.contract b).refusal s.bRequest s.wValue index s.wLength = some .queueFull) := by
    intro index admitted
    have outcome := handleOut_outcome inv begun s.bRequest s.wValue index s.wLength
    unfold RefusedFull
    rw [admitted.handled]
    cases verdict : (d.contract b).refusal s.bRequest s.wValue index s.wLength with
    | some reason =>
      rw [verdict] at outcome
      dsimp only at outcome
      rw [outcome]
      simp [answered, stall]
    | none =>
      rw [verdict] at outcome
      simp [answered, outcome.1]
  constructor
  · intro full
    obtain ⟨index, admitted⟩ := full.admitted vendor
    obtain ⟨queued, passes, room⟩ := Contract.refusal_queueFull _ |>.mp ((decides admitted).mp full)
    exact ⟨⟨index, admitted, queued, passes⟩, room⟩
  · rintro ⟨⟨index, admitted, queued, passes⟩, room⟩
    exact (decides admitted).mpr (Contract.refusal_queueFull _ |>.mpr ⟨queued, passes, room⟩)

/-- The command queue is a FIFO whatever the interleaving: poll() copies out a prefix
of what was accepted, and QUEUE_FULL means that 32 accepted commands are not popped. -/
theorem queue_is_fifo (b : Board) (acts : List Act) :
    Lib.trail (step b) copiesOut (boot b) acts <+: Lib.trail (step b) (takesIn b) (boot b) acts ∧
    ∀ (env : Env) (s : SetupPacket), s.isVendor = true →
      (RefusedFull b env (run b (boot b) acts).dev s ↔
        Queueable b (run b (boot b) acts).dev s ∧
        (Lib.trail (step b) (takesIn b) (boot b) acts).length =
          (Lib.trail (step b) pops (boot b) acts).length + queueDepth) := by
  have reached : Reachable b (run b (boot b) acts) :=
    Lib.Reach.foldl .refl (fun _ _ => trivial) acts
  obtain ⟨ok, queued⟩ := reach_queued reached
  have accepted : (boot b).dev.commands ++ Lib.trail (step b) (takesIn b) (boot b) acts =
      Lib.trail (step b) pops (boot b) acts ++ (run b (boot b) acts).dev.commands :=
    @Lib.trail_conserved _ _ _ (step b) (takesIn b) pops (fun m => m.dev.commands)
      (fun m => m.Ok b ∧ Queued m)
      (fun _ act known => ⟨step_ok act known.1, step_queued known.2 known.1⟩)
      (fun _ act known => step_commands known.2 known.1 act) _ ⟨boot_ok b, boot_queued b⟩ acts
  have copied : (boot b).pc.copy ++ Lib.trail (step b) copiesOut (boot b) acts =
      Lib.trail (step b) pops (boot b) acts ++ (run b (boot b) acts).pc.copy :=
    @Lib.trail_conserved _ _ _ (step b) copiesOut pops (fun m => m.pc.copy) (fun _ => True)
      (fun _ _ _ => trivial) (fun _ act _ => step_copy act) _ trivial acts
  rw [boot_commands, List.nil_append] at accepted
  rw [show (boot b).pc.copy = [] from rfl, List.nil_append] at copied
  constructor
  · rw [accepted, copied]
    exact (List.prefix_append_right_inj _).mpr (Machine.copy_prefix queued ok)
  · intro env s vendor
    have pending : (run b (boot b) acts).dev.commands.length =
        (run b (boot b) acts).dev.queuePending.toNat := Lib.Ring.contents_length
    have few : (run b (boot b) acts).dev.queuePending.toNat ≤ queueDepth := ok.dev.queue
    have full : queueDepth ≤ (run b (boot b) acts).dev.queuePending.toNat ↔
        (Lib.trail (step b) (takesIn b) (boot b) acts).length =
          (Lib.trail (step b) pops (boot b) acts).length + queueDepth := by
      rw [accepted, List.length_append, pending]
      omega
    rw [refusedFull_iff ok.dev (reach_begun reached) vendor, full]

/-- With one PIN_MODE waiting there is room for another. -/
theorem queue_is_fifo_pinMode :
    RefusedFull onePinBoard (stillEnv .busy)
        (run onePinBoard (boot onePinBoard) [request .pinMode 0 0]).dev (.out .pinMode 2 0) ↔
      Queueable onePinBoard (run onePinBoard (boot onePinBoard) [request .pinMode 0 0]).dev
          (.out .pinMode 2 0) ∧
        (Lib.trail (step onePinBoard) (takesIn onePinBoard) (boot onePinBoard)
            [request .pinMode 0 0]).length =
          (Lib.trail (step onePinBoard) pops (boot onePinBoard) [request .pinMode 0 0]).length +
            queueDepth :=
  (queue_is_fifo onePinBoard [request .pinMode 0 0]).2 (stillEnv .busy) (.out .pinMode 2 0)
    (by decide)

end ArduinoDriver
