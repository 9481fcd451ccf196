import ArduinoDriver.Firmware.ReadOrder
import ArduinoDriver.Host.Device
import ArduinoDriver.Lib.Hoare

namespace ArduinoDriver

open Lib (Triple)

/-- A link to a device that has been `start` and runs on board `b`. -/
def Link.From (b : Board) (start : Machine) (l : Link) : Prop := l.board = b ∧ l.start = start

/-- The last thing the device did was to answer `s` with `reply`. -/
def Link.Answered (b : Board) (start : Machine) (s : SetupPacket) (reply : List UInt8) (l' : Link) :
    Prop :=
  ∃ l : Link, l.From b start ∧ l' = l.received s ∧ l.reply s = some reply

variable {b : Board} {start : Machine}

theorem Link.Answered.from {s : SetupPacket} {reply : List UInt8} {l : Link}
    (h : l.Answered b start s reply) : l.From b start := by
  obtain ⟨_, ⟨rfl, rfl⟩, rfl, _⟩ := h
  exact ⟨rfl, rfl⟩

theorem control_answered (s : SetupPacket) :
    Triple (fun st => st.link.From b start) (control s)
      (fun reply st => st.link.Answered b start s reply) (fun _ st => st.link.From b start) := by
  rintro st ⟨rfl, rfl⟩
  unfold control
  dsimp only
  rcases (st.link.plan 0).failure with _ | ⟨e, _ | _⟩
  · cases answer : st.link.reply s with
    | none => exact ⟨rfl, rfl⟩
    | some reply => exact ⟨st.link, ⟨rfl, rfl⟩, rfl, answer⟩
  · exact ⟨rfl, rfl⟩
  · exact ⟨rfl, rfl⟩

theorem rawIn_answered (req : Request) (index len : UInt16) :
    Triple (fun st => st.link.From b start) (rawIn req index len)
      (fun reply st => st.link.Answered b start (.inp req index len) reply)
      (fun _ st => st.link.From b start) := by
  refine .bind (control_answered _) (fun reply => ?_)
  exact .ite (fun _ => .throw _ (fun _ h => h.from)) (fun _ => .pure _ (fun _ h => h))

/-- What a call leaves behind when it returns a full reply whose status is OK. -/
def Link.Read (b : Board) (start : Machine) (req : Request) (index len : UInt16) (minLen : Nat)
    (reply : List UInt8) (l : Link) : Prop :=
  l.Answered b start (.inp req index len) reply ∧ minLen ≤ reply.length

theorem readInOnce_read {req : Request} {index len : UInt16} {minLen : Nat}
    {again : Host (List UInt8)}
    (more : Triple (fun st => st.link.From b start) again
      (fun reply st => st.link.Read b start req index len minLen reply)
      (fun _ st => st.link.From b start)) :
    Triple (fun st => st.link.From b start) (readInOnce req index len minLen again)
      (fun reply st => st.link.Read b start req index len minLen reply)
      (fun _ st => st.link.From b start) := by
  refine .bind (rawIn_answered req index len) (fun reply => ?_)
  refine .ite (fun _ => .throw _ (fun _ h => h.from)) (fun _ => ?_)
  refine .ite (fun _ => more.conseq (fun _ h => h.from) (fun _ _ h => h) (fun _ _ h => h))
    (fun _ => ?_)
  refine .ite (fun _ => .throw _ (fun _ h => h.from)) (fun _ => ?_)
  exact .ite (fun _ => .throw _ (fun _ h => h.from))
    (fun long => .pure _ (fun _ h => ⟨h, Nat.not_lt.mp long⟩))

theorem readIn_read (d : Device) (req : Request) (index len : UInt16) (minLen : Nat) :
    Triple (fun st => st.link.From b start) (d.readIn req index len minLen)
      (fun reply st => st.link.Read b start req index len minLen reply)
      (fun _ st => st.link.From b start) := by
  unfold Device.readIn
  induction d.attempts - 1 with
  | zero => exact readInOnce_read (.throw _ (fun _ h => h))
  | succ left ih => exact readInOnce_read ih

theorem refuseIf_keeps {P : HostState → Prop} {bad : Prop} [Decidable bad] (e : Error) :
    Triple P (refuseIf bad e) (fun _ st => P st ∧ ¬ bad) (fun _ => P) :=
  .ite (fun _ => .throw _ (fun _ h => h)) (fun good => .pure _ (fun _ h => ⟨h, good⟩))

theorem checkNotStreaming_keeps {P : HostState → Prop} (what : String) :
    Triple P (Device.checkNotStreaming what) (fun _ => P) (fun _ => P) := by
  refine .bind .get (fun st => ?_)
  exact (refuseIf_keeps _).conseq (fun _ h => h.2) (fun _ _ h => h.1) (fun _ _ h => h)

/-- status() returns what the last GET_STATUS answered. -/
theorem status_answered (d : Device) :
    Triple (fun st => st.link.From b start) d.status
      (fun r st => ∃ reply, st.link.Answered b start (.inp .getStatus 0 4) reply ∧
        reply[1]? = some r.2)
      (fun _ st => st.link.From b start) := by
  refine .bind (checkNotStreaming_keeps _) (fun _ => ?_)
  refine .bind (readIn_read d .getStatus 0 4 statusReplyLen) (fun reply => .pure _ (fun st h => ?_))
  refine ⟨reply, h.1, ?_⟩
  have long : 1 < reply.length := Nat.lt_of_lt_of_le (by simp [statusReplyLen]) h.2
  change reply[1]? = some (reply.getD 1 0)
  rw [List.getD_eq_getElem?_getD, List.getElem?_eq_getElem long, Option.getD_some]

theorem syncOnce_answered (d : Device) {again : UInt8 → Host Unit}
    (more : ∀ pending, Triple (fun st => st.link.From b start) (again pending)
      (fun _ st => ∃ reply, st.link.Answered b start (.inp .getStatus 0 4) reply ∧
        reply[1]? = some 0)
      (fun _ st => st.link.From b start)) :
    Triple (fun st => st.link.From b start) (d.syncOnce again)
      (fun _ st => ∃ reply, st.link.Answered b start (.inp .getStatus 0 4) reply ∧
        reply[1]? = some 0)
      (fun _ st => st.link.From b start) := by
  refine .bind (status_answered d) (fun r => .ite (fun idle => .pure _ ?_) (fun _ => ?_))
  · intro st h
    rwa [idle] at h
  · refine (more r.2).conseq ?_ (fun _ _ h => h) (fun _ _ h => h)
    rintro st ⟨_, h, _⟩
    exact h.from

/-- sync() returns on a GET_STATUS that answered an empty queue. -/
theorem sync_answered (d : Device) :
    Triple (fun st => st.link.From b start) d.sync
      (fun _ st => ∃ reply, st.link.Answered b start (.inp .getStatus 0 4) reply ∧
        reply[1]? = some 0)
      (fun _ st => st.link.From b start) := by
  unfold Device.sync
  induction d.attempts - 1 with
  | zero => exact syncOnce_answered d (fun _ => .throw _ (fun _ h => h))
  | succ left ih => exact syncOnce_answered d (fun _ => ih)

theorem inp_answered {req : Request} {index len : UInt16} {reply : List UInt8} :
    (SetupPacket.inp req index len).obs (some reply) = .answered req index reply := by
  have isIn : (0xC0 : UInt8) &&& 0x80 = 0x80 := rfl
  have toDevice : (0xC0 : UInt8) &&& 0x1F = 0 := rfl
  simp [SetupPacket.obs, SetupPacket.inp, SetupPacket.isIn, SetupPacket.index, isIn, toDevice]

/-- No reply that tells of an idle device overtakes a command: in every run that
keeps the read order, the commands accepted and not cancelled are done, an output
reads as it was last written, and sync() has waited for them. -/
theorem idle_replies_follow_commands (b : Board) :
    (∀ (m : Machine) (env : Env) (s : SetupPacket) (req : Request) (index : UInt16)
        (reply : List UInt8),
      Lib.Reach (step b) keepsReadOrder (boot b) m → keepsReadOrder m (.setup env s) →
      s.obs (handleSetup b env m.dev s).2 = .answered req index reply → req.repliesIdle reply →
      m.log.pipeline.Settled ∧
      (req = .dioRead → ∀ v x, m.dev.mode index.toNat = some .output →
        m.log.wished index.toNat = some v → reply[1]? = some x → x = if v then 1 else 0)) ∧
    (∀ (d : Device) (st st' : HostState), st.link.board = b → st.link.start = boot b →
      d.sync st = .ok () st' →
      Lib.Follows (step b) keepsReadOrder (boot b) st'.link.acts →
      st'.link.machine.log.pipeline.Settled) := by
  have idle : ∀ (m : Machine) (env : Env) (s : SetupPacket) (req : Request) (index : UInt16)
      (reply : List UInt8),
      Lib.Reach (step b) keepsReadOrder (boot b) m → keepsReadOrder m (.setup env s) →
      s.obs (handleSetup b env m.dev s).2 = .answered req index reply → req.repliesIdle reply →
      m.log.pipeline.Settled ∧
      (req = .dioRead → ∀ v x, m.dev.mode index.toNat = some .output →
        m.log.wished index.toNat = some v → reply[1]? = some x → x = if v then 1 else 0) := by
    intro m env s req index reply reached keeps answered isIdle
    have shadowed : Shadowed m :=
      reached.invariant_with (fun _ before => reach_queued before) (boot_shadowed b)
        (fun _ _ known h keeps => step_shadowed h known.2 known.1 keeps.2)
    exact idle_reply_settled shadowed (reach_queued reached).2 keeps answered isIdle
  refine ⟨idle, ?_⟩
  intro d st st' board start returned keeps
  obtain ⟨reply, ⟨l, ⟨rfl, from_boot⟩, link, answer⟩, empty⟩ :=
    (sync_answered d).returns (⟨board, start⟩ : st.link.From b (boot b)) returned
  rw [link] at keeps
  obtain ⟨before, last, _⟩ := Lib.Follows.append keeps
  have machine : l.idled.machine = l.idled.acts.foldl (step l.board) (boot l.board) :=
    congrArg (fun m => l.idled.acts.foldl (step l.board) m) from_boot
  rw [← machine] at last
  have reached := before.reach
  rw [← machine] at reached
  have answered : (SetupPacket.inp .getStatus 0 4).obs
      (handleSetup l.board (l.plan 0).env l.idled.machine.dev (.inp .getStatus 0 4)).2 =
        .answered .getStatus 0 reply :=
    (congrArg _ answer).trans inp_answered
  obtain ⟨settled, _⟩ := idle _ _ _ _ _ _ reached last answered (by simp [Request.repliesIdle, empty])
  rw [link, Link.received_machine]
  change (Log.pipeline (_ :: l.idled.machine.log)).Settled
  rw [answered]
  exact settled

/-- An OUTPUT written HIGH. -/
def highOutput : List Act := [request .pinMode 1 0, request .dioWrite 1 0]

def onePoll : List Act := List.replicate 33 (.loop (stillEnv .sent))

/-- A host whose device runs poll() once before each transfer. -/
def polledHost : HostState :=
  ⟨⟨onePinBoard, boot onePinBoard, highOutput, fun _ => ⟨onePoll, stillEnv .sent, none, ""⟩⟩,
    [], false⟩

/-- The driver's view of that device. -/
def onePinDevice : Device :=
  ⟨⟨1, 0x0101, 1, 1, 10, 8, 8, 32, 5000, 5000, 12, 8, 8, 1⟩, [15], [0], ⟨50, 40, 50⟩⟩

theorem idle_replies_follow_commands_one_poll :
    let m := run onePinBoard (boot onePinBoard) (highOutput ++ onePoll)
    (m.log.pipeline.Settled ∧
      (Request.dioRead = .dioRead → ∀ v x, m.dev.mode 0 = some .output →
        m.log.wished 0 = some v → [(0 : UInt8), 1][1]? = some x → x = if v then 1 else 0)) ∧
    ∃ st', onePinDevice.sync polledHost = .ok () st' ∧
      st'.link.machine.log.pipeline.Settled := by
  refine ⟨(idle_replies_follow_commands onePinBoard).1 _ (stillEnv .busy) (.inp .dioRead 0 2)
    .dioRead 0 [0, 1] (Lib.Follows.reach (by decide +kernel)) (by decide +kernel)
    (by decide +kernel) (by decide), ?_⟩
  have follows : Lib.Follows (step onePinBoard) keepsReadOrder (boot onePinBoard)
      (match onePinDevice.sync polledHost with
        | .ok _ st' => st'.link.acts
        | .error _ st' => st'.link.acts) := by decide +kernel
  have returns : (match onePinDevice.sync polledHost with
      | .ok _ _ => true
      | .error _ _ => false) = true := by decide +kernel
  cases run : onePinDevice.sync polledHost with
  | ok _ st' =>
    rw [run] at follows
    exact ⟨st', rfl, (idle_replies_follow_commands onePinBoard).2 _ _ _ rfl rfl run follows⟩
  | error _ _ =>
    rw [run] at returns
    contradiction

/-- A DIO_READ between the queue pop of a DIO_WRITE and its execution: OK, and the
old level. -/
theorem read_overtakes_write :
    ¬ ∀ (b : Board) (m : Machine) (env : Env) (s : SetupPacket) (req : Request) (index : UInt16)
        (reply : List UInt8), Reachable b m →
      s.obs (handleSetup b env m.dev s).2 = .answered req index reply → req.repliesIdle reply →
      m.log.pipeline.Settled ∧
      (req = .dioRead → ∀ v x, m.dev.mode index.toNat = some .output →
        m.log.wished index.toNat = some v → reply[1]? = some x → x = if v then 1 else 0) := by
  intro claim
  have overtaken := (claim onePinBoard
    (run onePinBoard (boot onePinBoard)
      (highOutput ++ List.replicate 11 (.loop (stillEnv .sent))))
    (stillEnv .busy) (.inp .dioRead 0 2) .dioRead 0 [0, 0]
    (Lib.Follows.reach (by decide +kernel)) (by decide +kernel) (by decide)).2 rfl true 0
    (by decide +kernel) (by decide +kernel) rfl
  contradiction

end ArduinoDriver
