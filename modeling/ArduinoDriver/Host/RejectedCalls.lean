import ArduinoDriver.Firmware.Invariant
import ArduinoDriver.Firmware.Rejection
import ArduinoDriver.Host.Construct
import ArduinoDriver.Host.Process

namespace ArduinoDriver

open Lib (Program System Move Reach Conversation)

/-- A call of the threads: one OUT request, or status(). -/
inductive DeviceCall where
  | pinMode (pin code : UInt8)
  | digitalWrite (pin : UInt8) (high : Bool)
  | pwmWrite (pin : UInt8) (duty : UInt16)
  | dacWrite (pin : UInt8) (value : UInt16)
  | configureEvent (pin edge : UInt8) (debounce : Int)
  | status
  deriving DecidableEq

def DeviceCall.perform (d : Device) : DeviceCall → Driver Unit
  | .pinMode pin code => Driver.pinMode d pin code
  | .digitalWrite pin high => Driver.digitalWrite d pin high
  | .pwmWrite pin duty => Driver.pwmWrite d pin duty
  | .dacWrite pin value => Driver.dacWrite d pin value
  | .configureEvent pin edge debounce => Driver.configureEvent d pin edge debounce
  | .status => do let _ ← Driver.status d

/-- The request of a call, as its errors name it. -/
def DeviceCall.describe : DeviceCall → String
  | .pinMode pin _ => describeRequest .pinMode pin.toUInt16
  | .digitalWrite pin _ => describeRequest .dioWrite pin.toUInt16
  | .pwmWrite pin _ => describeRequest .pwmWrite pin.toUInt16
  | .dacWrite pin _ => describeRequest .dacWrite pin.toUInt16
  | .configureEvent pin _ _ => describeRequest .eventConfig pin.toUInt16
  | .status => describeRequest .getStatus 0

/-- How far the device is with the request of a call: it has none yet, has accepted it,
has refused it for the reason it recorded, or has been asked for that reason since. -/
inductive Standing where
  | unasked
  | accepted
  | refused (reason : Status)
  | explained (reason : Status)
  deriving DecidableEq

/-- What the next transfer makes of a standing. -/
def Standing.next (l : Link) (s : SetupPacket) : Standing → Standing
  | .unasked => if (l.reply s).isSome then .accepted else .refused (l.received s).machine.dev.lastError
  | .refused reason | .explained reason => .explained reason
  | .accepted => .accepted

/-- A call that has ended. -/
structure EndedCall where
  call : DeviceCall
  standing : Standing
  outcome : Except Error Unit

/-- A process with the standing of every thread's call and the calls that have ended.
`waiting` is the thread that has yet to ask why its request was refused. -/
structure Counter where
  process : Process
  standing : Nat → Standing
  waiting : Option Nat
  ended : List EndedCall

/-- Who is waiting after the transfer of thread `t`. -/
def Counter.waits (c : Counter) (t : Nat) (s : SetupPacket) : Option Nat :=
  match c.standing t, (c.process.host.link.reply s).isSome with
  | .unasked, false => some t
  | .refused _, _ => none
  | _, _ => c.waiting

def Counter.act (t : Nat) (_ : DeviceCall) (op : DriverOp) (c : Counter) : Option (op.Reply × Counter) :=
  match c.process.perform op with
  | none => none
  | some (r, process) =>
    some (r, match op with
      | .transfer s => { c with
          process := process
          standing := Function.update c.standing t ((c.standing t).next c.process.host.link s)
          waiting := c.waits t s }
      | _ => { c with process := process })

/-- The calls threads make on one Device. -/
def deviceCalls (d : Device) : System DriverOp.Reply Error Unit DeviceCall Counter Empty where
  body := DeviceCall.perform d
  enter t _ c := some { c with standing := Function.update c.standing t .unasked }
  act := Counter.act
  leave t call outcome c := { c with ended := ⟨call, c.standing t, outcome⟩ :: c.ended }
  happen _ c := c

/-- A refused request is reported for its own reason, an accepted one not at all. -/
def EndedCall.Reported (e : EndedCall) : Prop :=
  match e.standing with
  | .unasked => True
  | .accepted => e.outcome = .ok ()
  | .refused reason | .explained reason => e.outcome = .error (statusError reason.code e.call.describe)

/-- While a thread waits to ask why its request was refused, no other thread's request is
refused, and no other thread's GET_STATUS is served. -/
def Undisturbed (t : Nat) (_ : DeviceCall) (op : DriverOp) (c : Counter) : Prop :=
  match op with
  | .transfer s => c.waiting = none ∨ c.waiting = some t ∨
      (c.process.host.link.reply s).isSome = true ∧ s.bRequest ≠ Request.getStatus.code
  | _ => True

/-- The calls on a device of which nothing is known yet. -/
def Counter.opened (process : Process) : Counter := ⟨process, fun _ => .unasked, none, []⟩

/-- GET_STATUS, as the driver sends it. -/
abbrev statusRequest : SetupPacket := .inp .getStatus 0 (UInt16.ofNat statusReplyLen)

def SetupPacket.IsOut (s : SetupPacket) : Prop := ∃ req value index, s = .out req value index

/-- What a call may send from its standing on, and how it is answered. -/
def explaining : Conversation DriverOp.Reply Standing where
  may g op := match op, g with
    | .transfer s, .unasked => s.IsOut ∨ s = statusRequest
    | .transfer s, .refused _ => s = statusRequest
    | .transfer _, _ => False
    | _, _ => True
  answers g op r g' := match op, r, g with
    | .transfer s, r, .unasked =>
      (∃ reply, r = .ok reply ∧ g' = .accepted ∧
        (s = statusRequest → reply.length = statusReplyLen ∧ readU8 reply 0 = Status.ok.code)) ∨
      s.IsOut ∧ ∃ text reason, r = .error ⟨.stall, text⟩ ∧ reason ≠ Status.ok ∧ g' = .refused reason
    | .transfer _, r, .refused reason =>
      reason ≠ .ok ∧ g' = .explained reason ∧
        ∃ reply, r = .ok reply ∧ reply.length = statusReplyLen ∧ readU8 reply 2 = reason.code
    | .transfer _, _, _ => False
    | _, _, g => g' = g

/-- A check of the host's own. -/
def Driver.Local {α : Type} (p : Driver α) : Prop :=
  p.Keeps explaining (fun _ g => g = .unasked) (fun _ g => g = .unasked) .unasked

/-- A call that returns when its request, `what`, is accepted, and otherwise throws the
reason, unless it never asked. -/
def Driver.Told {α : Type} (p : Driver α) (what : String) : Prop :=
  p.Keeps explaining (fun _ g => g = .accepted)
    (fun e g => g = .unasked ∨ ∃ reason, g = .explained reason ∧ e = statusError reason.code what) .unasked

namespace Driver

variable {α β : Type} {p : Driver α} {f : α → Driver β} {what : String}

theorem Local.pure {a : α} : Local (Pure.pure a) := rfl

theorem Local.throw {e : Error} : Local (MonadExcept.throw e : Driver α) := rfl

theorem Local.bind (h : p.Local) (next : ∀ a, (f a).Local) : Local (p >>= f) := by
  refine Program.Keeps.bind h (fun a g same => ?_)
  subst same
  exact next a

theorem Local.told (h : p.Local) (next : ∀ a, (f a).Told what) : Told (p >>= f) what := by
  refine Program.Keeps.bind (h.conseq (fun _ _ same => same) (fun _ _ same => .inl same)) (fun a g same => ?_)
  subst same
  exact next a

theorem Told.throw {e : Error} : Told (MonadExcept.throw e : Driver α) what := .inl rfl

theorem local_refuseIf (bad : Prop) [Decidable bad] (e : Error) : (refuseIf bad e).Local :=
  Program.Keeps.ite (fun _ => .throw rfl) (fun _ => .pure rfl)

theorem local_checkNotStreaming (name : String) : (checkNotStreaming name).Local :=
  .bind ⟨trivial, fun _ _ same => same⟩ (fun _ => local_refuseIf _ _)

theorem local_byteAt (bytes : List UInt8) (offset : Nat) : (byteAt bytes offset).Local :=
  .bind ⟨trivial, fun _ _ same => same⟩ (fun _ => .pure)

theorem local_pinCaps (d : Device) (pin : UInt8) : (pinCaps d pin).Local :=
  .bind (local_refuseIf _ _) (fun _ => local_byteAt _ _)

theorem local_requireCaps (d : Device) (pin mask : UInt8) (feature : String) :
    (requireCaps d pin mask feature).Local :=
  .bind (local_pinCaps d pin) (fun _ => .bind (local_refuseIf _ _) (fun _ => .pure))

/-- GET_STATUS tells the reason of the STALL before it. -/
theorem explain_told (req : Request) (index : UInt16) (stalled : Error) {reason : Status} (known : reason ≠ .ok) :
    (explain req index stalled).Keeps explaining (fun _ g => g = .accepted)
      (fun e g => g = .unasked ∨
        ∃ reason, g = .explained reason ∧ e = statusError reason.code (describeRequest req index))
      (.refused reason) := by
  refine ⟨rfl, fun r g answered => ?_⟩
  obtain ⟨_, rfl, reply, rfl, size, said⟩ := answered
  have other : reason.code ≠ Status.ok.code := by
    cases reason <;> first | contradiction | decide
  have whole : ¬ (UInt16.ofNat statusReplyLen).toNat < reply.length := by
    rw [size]
    decide
  refine Program.Keeps.bind (Program.Keeps.ite (fun long => absurd long whole) (fun _ => ?_))
    (fun reply' g' same => ?_) (Q := fun a g => a = reply ∧ g = .explained reason)
  · exact ⟨rfl, rfl⟩
  · obtain ⟨rfl, rfl⟩ := same
    refine Program.Keeps.ite (fun short => absurd short (by omega)) (fun _ => ?_)
    refine ⟨trivial, fun _ g' same => ?_⟩
    subst same
    refine Program.Keeps.ite (fun fine => absurd (said ▸ fine) other) (fun _ => ?_)
    exact .inr ⟨reason, rfl, by rw [said]⟩

theorem sendOut_told (req : Request) (value index : UInt16) :
    (sendOut req value index).Told (describeRequest req index) := by
  refine Program.Keeps.tryCatch
    (E := fun e g => e.kind = .stall ∧ ∃ reason, reason ≠ Status.ok ∧ g = .refused reason)
    ⟨.inl ⟨req, value, index, rfl⟩, fun r g answered => ?_⟩ (fun e g failed => ?_)
  · rcases answered with ⟨reply, rfl, rfl, _⟩ | ⟨_, text, reason, rfl, known, rfl⟩
    · exact rfl
    · exact ⟨rfl, reason, known, rfl⟩
  · obtain ⟨kind, reason, known, rfl⟩ := failed
    exact Program.Keeps.ite (fun other => absurd kind other) (fun _ => explain_told req index e known)

theorem pinMode_told (d : Device) (pin code : UInt8) :
    (pinMode d pin code).Told (describeRequest .pinMode pin.toUInt16) := by
  refine (local_checkNotStreaming _).told (fun _ => (local_pinCaps d pin).told (fun caps => ?_))
  cases PinMode.ofCode? code.toUInt16 with
  | none => exact .throw
  | some mode =>
    exact (local_refuseIf _ _).told (fun _ => (local_refuseIf _ _).told (fun _ => sendOut_told ..))

theorem digitalWrite_told (d : Device) (pin : UInt8) (high : Bool) :
    (digitalWrite d pin high).Told (describeRequest .dioWrite pin.toUInt16) :=
  (local_checkNotStreaming _).told (fun _ => (local_requireCaps ..).told (fun _ => sendOut_told ..))

theorem pwmWrite_told (d : Device) (pin : UInt8) (duty : UInt16) :
    (pwmWrite d pin duty).Told (describeRequest .pwmWrite pin.toUInt16) :=
  (local_checkNotStreaming _).told (fun _ => (local_requireCaps ..).told (fun _ =>
    (local_refuseIf _ _).told (fun _ => sendOut_told ..)))

theorem dacWrite_told (d : Device) (pin : UInt8) (value : UInt16) :
    (dacWrite d pin value).Told (describeRequest .dacWrite pin.toUInt16) :=
  (local_checkNotStreaming _).told (fun _ => (local_requireCaps ..).told (fun _ =>
    (local_refuseIf _ _).told (fun _ => (local_refuseIf _ _).told (fun _ => sendOut_told ..))))

theorem configureEvent_told (d : Device) (pin edge : UInt8) (debounce : Int) :
    (configureEvent d pin edge debounce).Told (describeRequest .eventConfig pin.toUInt16) :=
  (local_checkNotStreaming _).told (fun _ => (local_refuseIf _ _).told (fun _ => (local_pinCaps d pin).told (fun _ =>
    (local_refuseIf _ _).told (fun _ => (local_refuseIf _ _).told (fun _ => sendOut_told ..)))))

/-- GET_STATUS of a call of its own is answered at once. -/
theorem status_told (d : Device) : (do let _ ← status d : Driver Unit).Told what := by
  have once : ∀ again : Driver (List UInt8),
      (readInOnce .getStatus 0 (UInt16.ofNat statusReplyLen) statusReplyLen again).Told what := by
    intro again
    refine ⟨.inr rfl, fun r g answered => ?_⟩
    rcases answered with ⟨reply, rfl, rfl, whole⟩ | ⟨⟨req, value, index, out⟩, _⟩
    · obtain ⟨size, fine⟩ := whole rfl
      have exact_ : ¬ (UInt16.ofNat statusReplyLen).toNat < reply.length := by
        rw [size]
        decide
      have some_ : reply.length ≠ 0 := by
        rw [size]
        decide
      refine Program.Keeps.bind (Program.Keeps.ite (fun long => absurd long exact_) (fun _ => ?_))
        (fun reply' g' same => ?_) (Q := fun a g => a = reply ∧ g = .accepted)
      · exact ⟨rfl, rfl⟩
      · obtain ⟨rfl, rfl⟩ := same
        refine Program.Keeps.ite (fun none_ => absurd none_ some_) (fun _ => ⟨trivial, fun _ g' same => ?_⟩)
        subst same
        refine Program.Keeps.ite (fun busy => absurd (fine.symm.trans busy) (by decide)) (fun _ => ?_)
        refine Program.Keeps.ite (fun bad => absurd fine bad) (fun _ => ?_)
        exact Program.Keeps.ite (fun short => absurd short (by omega)) (fun _ => .pure rfl)
    · have kind := congrArg SetupPacket.bmRequestType out
      exact absurd kind (by simp [SetupPacket.inp, SetupPacket.out])
  refine Program.Keeps.bind ?_ (fun _ _ same => same)
  refine (local_checkNotStreaming _).told (fun _ => ?_)
  refine Program.Keeps.bind (Q := fun _ g => g = .accepted) ?_ (fun reply g same => ?_)
  · unfold readIn
    cases d.attempts - 1 <;> exact once _
  · subst same
    refine ⟨trivial, fun _ g same => ?_⟩
    subst same
    refine ⟨trivial, fun _ g same => ?_⟩
    exact same

end Driver

theorem DeviceCall.told (d : Device) (call : DeviceCall) : (call.perform d).Told call.describe := by
  cases call with
  | pinMode pin code => exact Driver.pinMode_told d pin code
  | digitalWrite pin high => exact Driver.digitalWrite_told d pin high
  | pwmWrite pin duty => exact Driver.pwmWrite_told d pin duty
  | dacWrite pin value => exact Driver.dacWrite_told d pin value
  | configureEvent pin edge debounce => exact Driver.configureEvent_told d pin edge debounce
  | status => exact Driver.status_told d

variable {b : Board} {env : Env} {d d' : UsbIoDevice} {m : Machine} {l : Link} {s : SetupPacket}
  {req : Request} {value index : UInt16}

theorem loopStep_lastError (b : Board) (env : Env) (m : Machine) :
    (loopStep b env m).dev.lastError = m.dev.lastError := by
  obtain ⟨d, pc, log⟩ := m
  cases pc with
  | drain pc =>
    cases pc with
    | epochTest | outerTest =>
      simp only [loopStep, drainStep]
      split <;> rfl
    | execute c =>
      obtain ⟨dio, ain, eq⟩ := execute_frame b env d c
      simp only [loopStep, drainStep, eq]
    | _ => rfl
  | shadow pc =>
    cases pc with
    | enter => rfl
    | pin | analog =>
      simp only [loopStep, shadowStep]
      split
      · split <;> rfl
      · rfl
  | _ => rfl

/-- Only a request touches last_error. -/
theorem run_lastError {acts : List Act} (silent : ∀ a ∈ acts, ∀ env s, a ≠ .setup env s) :
    (run b m acts).dev.lastError = m.dev.lastError := by
  induction acts generalizing m with
  | nil => rfl
  | cons a acts ih =>
    refine (ih (m := step b m a) (fun a inside => silent a (List.mem_cons_of_mem _ inside))).trans ?_
    cases a with
    | setup env s => exact absurd rfl (silent _ (List.mem_cons_self ..) env s)
    | disconnect => rfl
    | loop env => exact loopStep_lastError b env m

theorem Served.accepted_lastError (served : Served b env d d' (.accepted req index value)) :
    d'.lastError = d.lastError := by
  cases served <;> rfl

theorem Link.Sole.idled (h : l.Sole) : l.idled.machine.dev.lastError = l.machine.dev.lastError := by
  rw [Link.idled_machine]
  exact run_lastError (h 0)

/-- An OUT request that is accepted leaves last_error as it is. -/
theorem Link.Sole.accepted (h : l.Sole) (out : s.IsOut) (answered : (l.reply s).isSome = true) :
    (l.received s).machine.dev.lastError = l.machine.dev.lastError := by
  obtain ⟨req, value, index, rfl⟩ := out
  obtain ⟨reply, said⟩ := Option.isSome_iff_exists.mp answered
  have served := handleSetup_served l.board (l.plan 0).env l.idled.machine.dev (.out req value index)
  unfold Link.reply at said
  rw [said] at served
  have seen : (SetupPacket.out req value index).obs (some reply) = .accepted req index value := by
    have isOut : (0x40 : UInt8) &&& 0x80 = 0 := by decide
    have toDevice : (0x40 : UInt8) &&& 0x1F = 0 := by decide
    simp [SetupPacket.obs, SetupPacket.isIn, SetupPacket.index, SetupPacket.out, isOut, toDevice]
  rw [seen] at served
  rw [Link.received_machine]
  exact (Served.accepted_lastError served).trans h.idled

/-- One that is not has a reason. -/
theorem Link.refused_reason (out : s.IsOut) (stalled : (l.reply s).isSome = false) :
    (l.received s).machine.dev.lastError ≠ .ok := by
  obtain ⟨req, value, index, rfl⟩ := out
  unfold Link.reply at stalled
  rw [Link.received_machine]
  change (handleSetup l.board (l.plan 0).env l.idled.machine.dev (.out req value index)).1.lastError ≠ .ok
  rw [handleSetup_out] at stalled ⊢
  exact handleOut_reasoned _ _ _ _ _ _ (by simpa using stalled)

/-- GET_STATUS is always answered. -/
theorem Link.Sole.status (h : l.Sole) : ∃ reply, l.reply statusRequest = some reply ∧
    reply.length = statusReplyLen ∧ readU8 reply 0 = Status.ok.code ∧
    readU8 reply 2 = l.machine.dev.lastError.code := by
  refine ⟨statusBytes l.idled.machine.dev, ?_, rfl, rfl, ?_⟩
  · unfold Link.reply statusRequest
    rw [handleSetup_inp]
    rfl
  · rw [← h.idled]
    rfl

/-- The bus of the process: no transfer fails, and no one else sends requests. -/
structure Private (l : Link) : Prop where
  sound : ∀ n, (l.plan n).failure = none
  sole : l.Sole

theorem Private.received (h : Private l) : Private (l.received s) :=
  ⟨fun n => h.sound (n + 1), fun n => h.sole (n + 1)⟩

/-- The counter agrees with where the threads are, and with the reason a waiting thread
is going to find. -/
structure Counter.Orderly (c : Counter) (places : Nat → Option (DeviceCall × Standing)) : Prop where
  bus : Private c.process.host.link
  standing : ∀ t call g, places t = some (call, g) → c.standing t = g
  cell : ∀ t call reason, places t = some (call, .refused reason) →
    c.waiting = some t ∧ reason ≠ .ok ∧ c.process.host.link.machine.dev.lastError = reason
  reported : ∀ e ∈ c.ended, e.Reported

/-- Each call at its standing. -/
def explained (d : Device) : (deviceCalls d).Discipline Standing where
  conversation := explaining
  returns _ _ g := g = .accepted
  throws call e g := g = .unasked ∨ ∃ reason, g = .explained reason ∧ e = statusError reason.code call.describe
  inv := Counter.Orderly

variable {c c' : Counter} {places : Nat → Option (DeviceCall × Standing)} {t : Nat} {call : DeviceCall}
  {g : Standing}

/-- A thread moves on, and the waiting ones find what they would have found. -/
theorem Counter.Orderly.moves (inv : c.Orderly places) (bus : Private c'.process.host.link)
    (ended : c'.ended = c.ended) (standing : c'.standing = Function.update c.standing t g)
    (mine : ∀ reason, g = .refused reason →
      c'.waiting = some t ∧ reason ≠ .ok ∧ c'.process.host.link.machine.dev.lastError = reason)
    (others : ∀ u, u ≠ t → c.waiting = some u → c'.waiting = some u ∧
      c'.process.host.link.machine.dev.lastError = c.process.host.link.machine.dev.lastError) :
    c'.Orderly (Function.update places t (some (call, g))) where
  bus := bus
  standing u call' g' place := by
    by_cases same : u = t
    · subst same
      simp only [Function.update_self, Option.some.injEq, Prod.mk.injEq] at place
      rw [standing, Function.update_self]
      exact place.2
    · rw [Function.update_of_ne same] at place
      rw [standing, Function.update_of_ne same]
      exact inv.standing u call' g' place
  cell u call' reason place := by
    by_cases same : u = t
    · subst same
      simp only [Function.update_self, Option.some.injEq, Prod.mk.injEq] at place
      exact mine reason place.2
    · rw [Function.update_of_ne same] at place
      obtain ⟨waits, other, found⟩ := inv.cell u call' reason place
      obtain ⟨waits', found'⟩ := others u same waits
      exact ⟨waits', other, found'.trans found⟩
  reported := by
    rw [ended]
    exact inv.reported

theorem Counter.act_transfer (bus : Private c.process.host.link) :
    Counter.act t call (.transfer s) c = some
      ((match c.process.host.link.reply s with
        | some reply => .ok reply
        | none => .error ⟨.stall, (c.process.host.link.plan 0).stallText⟩),
        { c with
          process := ⟨{ c.process.host with link := c.process.host.link.received s }, c.process.held⟩
          standing := Function.update c.standing t ((c.standing t).next c.process.host.link s)
          waiting := c.waits t s }) := by
  have served := HostState.perform_served s (bus.sound 0)
  exact congrArg (fun r : Except Error (List UInt8) × HostState => some (r.1, { c with
    process := ⟨r.2, c.process.held⟩
    standing := Function.update c.standing t ((c.standing t).next c.process.host.link s)
    waiting := c.waits t s })) served

/-- Every other operation leaves the bus alone. -/
theorem Counter.act_still {op : DriverOp} {r : op.Reply} (call : DeviceCall) (still : ∀ s, op ≠ .transfer s)
    (acted : Counter.act t call op c = some (r, c')) :
    ∃ process : Process, c' = { c with process := process } ∧ process.host.link = c.process.host.link := by
  cases op with
  | transfer s => exact absurd rfl (still s)
  | lock =>
    have taken : Process.perform .lock c.process =
        if c.process.held then none else some ((), { c.process with held := true }) := rfl
    unfold Counter.act at acted
    rw [taken] at acted
    cases held : c.process.held with
    | true =>
      rw [held] at acted
      contradiction
    | false =>
      rw [held] at acted
      cases acted
      exact ⟨_, rfl, rfl⟩
  | _ =>
    cases acted
    exact ⟨_, rfl, rfl⟩

/-- The transfers of a call, and what they tell it. -/
theorem Counter.Orderly.transfer (inv : c.Orderly places) (place : places t = some (call, g))
    (sends : explaining.may g (.transfer s)) (quiet : Undisturbed t call (.transfer s) c)
    {r : Except Error (List UInt8)} (acted : Counter.act t call (.transfer s) c = some (r, c')) :
    ∃ g', explaining.answers g (.transfer s) r g' ∧ c'.Orderly (Function.update places t (some (call, g'))) := by
  rw [Counter.act_transfer inv.bus] at acted
  have status := inv.bus.sole.status
  cases acted
  have at_ := inv.standing t call g place
  cases g with
  | unasked =>
    cases answer : c.process.host.link.reply s with
    | some reply =>
      have served : (c.process.host.link.reply s).isSome = true := by rw [answer]; rfl
      refine ⟨.accepted, .inl ⟨reply, rfl, rfl, ?_⟩, ?_⟩
      · rintro rfl
        obtain ⟨reply', said, size, fine, _⟩ := status
        cases said.symm.trans answer
        exact ⟨size, fine⟩
      · refine inv.moves inv.bus.received rfl ?_ (fun _ h => by cases h) (fun u other waits => ?_)
        · dsimp only
          rw [at_, Standing.next, if_pos served]
        · have out : s.IsOut := by
            rcases sends with out | rfl
            · exact out
            · rcases quiet with none_ | mine | ⟨_, asks⟩
              · cases none_.symm.trans waits
              · cases mine.symm.trans waits
                exact absurd rfl other
              · exact absurd rfl asks
          have same := inv.bus.sole.accepted out served
          unfold Counter.waits
          rw [at_, served]
          exact ⟨waits, same⟩
    | none =>
      have stalled : (c.process.host.link.reply s).isSome = false := by rw [answer]; rfl
      have out : s.IsOut := by
        rcases sends with out | rfl
        · exact out
        · obtain ⟨reply, said, _⟩ := status
          cases said.symm.trans answer
      have reason := Link.refused_reason out stalled
      refine ⟨.refused (c.process.host.link.received s).machine.dev.lastError,
        .inr ⟨out, _, _, rfl, reason, rfl⟩, ?_⟩
      refine inv.moves inv.bus.received rfl ?_ (fun found same => ?_) (fun u other waits => ?_)
      · dsimp only
        rw [at_, Standing.next, if_neg (by rw [stalled]; decide)]
      · cases same
        refine ⟨?_, reason, rfl⟩
        unfold Counter.waits
        rw [at_, stalled]
      · rcases quiet with none_ | mine | ⟨served, _⟩
        · cases none_.symm.trans waits
        · cases mine.symm.trans waits
          exact absurd rfl other
        · rw [stalled] at served
          contradiction
  | refused reason =>
    cases sends
    obtain ⟨mine, other, found⟩ := inv.cell t call reason place
    obtain ⟨reply, said, size, _, told⟩ := status
    refine ⟨.explained reason, ⟨other, rfl, reply, ?_, size, found ▸ told⟩, ?_⟩
    · rw [said]
    · refine inv.moves inv.bus.received rfl ?_ (fun _ h => by cases h) (fun u differs waits => ?_)
      · dsimp only
        rw [at_]
        rfl
      · cases mine.symm.trans waits
        exact absurd rfl differs
  | accepted | explained reason => exact sends.elim

theorem explained_kept (d : Device) : (explained d).Kept Undisturbed (fun _ _ => True) where
  enter := by
    intro t call c c' places inv here entered
    cases entered
    exact ⟨.unasked, inv.moves inv.bus rfl rfl (fun _ h => by cases h) (fun u _ waits => ⟨waits, rfl⟩),
      call.told d⟩
  act := by
    intro t call op c c' places g r inv place sends quiet acted
    by_cases still : ∀ s, op ≠ .transfer s
    · obtain ⟨process, rfl, same⟩ := Counter.act_still call still acted
      have stays : explaining.answers g op r g := by
        cases op with
        | transfer s => exact absurd rfl (still s)
        | _ => rfl
      refine ⟨g, stays, inv.moves (same.symm ▸ inv.bus) rfl ?_ (fun reason here => ?_)
        (fun u _ waits => ⟨waits, ?_⟩)⟩
      · rw [← inv.standing t call g place, Function.update_eq_self]
      · subst here
        obtain ⟨waits, other, found⟩ := inv.cell t call reason place
        exact ⟨waits, other, by rw [same]; exact found⟩
      · rw [same]
    · simp only [not_forall, not_not] at still
      obtain ⟨s, rfl⟩ := still
      exact inv.transfer place sends quiet acted
  leave := by
    intro t call c places g outcome inv place ends
    refine ⟨inv.bus, fun u call' g' at_ => ?_, fun u call' reason at_ => ?_, fun e inside => ?_⟩
    · by_cases same : u = t
      · subst same
        rw [Function.update_self] at at_
        contradiction
      · rw [Function.update_of_ne same] at at_
        exact inv.standing u call' g' at_
    · by_cases same : u = t
      · subst same
        rw [Function.update_self] at at_
        contradiction
      · rw [Function.update_of_ne same] at at_
        exact inv.cell u call' reason at_
    · rcases List.mem_cons.mp inside with rfl | before
      · have standing := inv.standing t call g place
        unfold EndedCall.Reported
        dsimp only
        rw [standing]
        cases outcome with
        | ok a =>
          cases ends
          rfl
        | error e =>
          rcases ends with rfl | ⟨reason, rfl, rfl⟩
          · trivial
          · rfl
      · exact inv.reported e before
  happen := by
    intro event
    cases event

/-- A call whose request is refused throws the reason the device recorded for it, and one
whose request is accepted returns, as long as no thread is disturbed while it asks. -/
theorem rejected_calls_report_their_reason (d : Device) (l : Link) (selected : List UInt8) (streaming : Bool)
    (bus : Private l) {w : Lib.Pool DriverOp.Reply Error Unit DeviceCall Counter}
    (reached : Reach (deviceCalls d).step (System.permits Undisturbed (fun _ _ => True))
      (System.idle (.opened (.opened l selected streaming))) w) :
    ∀ e ∈ w.shared.ended, e.Reported := by
  have start : (Counter.opened (.opened l selected streaming)).Orderly (fun _ => none) := by
    refine ⟨bus, ?_, ?_, ?_⟩
    · intro t call g place
      cases place
    · intro t call reason place
      cases place
    · intro e inside
      cases inside
  obtain ⟨places, inv, _⟩ := (explained_kept d).reach reached start
  exact inv.reported

instance Undisturbed.decidable (t : Nat) (call : DeviceCall) :
    (op : DriverOp) → (c : Counter) → Decidable (Undisturbed t call op c)
  | .transfer s, c => inferInstanceAs (Decidable (c.waiting = none ∨ c.waiting = some t ∨
      (c.process.host.link.reply s).isSome = true ∧ s.bRequest ≠ Request.getStatus.code))
  | .access .., _ | .loadStreaming, _ | .storeStreaming _, _ | .lock, _ | .unlock, _ | .loadSelected, _
  | .storeSelected _, _ => inferInstanceAs (Decidable True)

/-- The one pin board after begin(), on a bus of its own. -/
def quietLink : Link := ⟨onePinBoard, boot onePinBoard, [], fun _ => ⟨[], stillEnv .busy, none, "STALL"⟩⟩

theorem quietLink_private : Private quietLink :=
  ⟨fun _ => rfl, fun _ _ inside => by cases inside⟩

/-- Thread 0 writes to a pin that is no OUTPUT, and thread 1 asks for the status: `turns` are
the threads in the order they get to go on. -/
def overlappingCalls (turns : List Nat) : List (Move DeviceCall Empty) :=
  [.begin 0 (.digitalWrite 0 true), .begin 1 .status] ++ turns.map .go

abbrev idleCalls : Lib.Pool DriverOp.Reply Error Unit DeviceCall Counter :=
  System.idle (.opened (.opened quietLink [] false))

def afterCalls (turns : List Nat) : Lib.Pool DriverOp.Reply Error Unit DeviceCall Counter :=
  (overlappingCalls turns).foldl (deviceCalls onePinDevice).step idleCalls

/-- The write is explained before status() is served. -/
def politeTurns : List Nat := List.replicate 6 0 ++ List.replicate 6 1

/-- status() is served between the STALL of the write and its GET_STATUS. -/
def rudeTurns : List Nat := List.replicate 3 0 ++ List.replicate 6 1 ++ List.replicate 3 0

instance EndedCall.Reported.decidable (e : EndedCall) : Decidable e.Reported := by
  unfold EndedCall.Reported
  exact match e.standing with
    | .unasked => inferInstanceAs (Decidable True)
    | .accepted => inferInstanceAs (Decidable (e.outcome = .ok ()))
    | .refused reason | .explained reason =>
      inferInstanceAs (Decidable (e.outcome = .error (statusError reason.code e.call.describe)))

theorem rejected_calls_report_their_reason_polite :
    Private quietLink ∧ (afterCalls politeTurns).shared.ended.length = 2 ∧
    ∀ e ∈ (afterCalls politeTurns).shared.ended, e.Reported :=
  ⟨quietLink_private, by decide +kernel,
    rejected_calls_report_their_reason onePinDevice quietLink [] false quietLink_private
      (@Lib.Follows.reach _ _ _ _ _ (overlappingCalls politeTurns) (by decide +kernel))⟩

/-- GET_STATUS of another thread takes the reason away: the call throws the bare STALL. -/
theorem concurrent_status_takes_the_reason :
    ¬ ∀ (d : Device) (l : Link) (selected : List UInt8) (streaming : Bool), Private l →
      ∀ w, Reach (deviceCalls d).step (fun _ _ => True) (System.idle (.opened (.opened l selected streaming))) w →
        ∀ e ∈ w.shared.ended, e.Reported := by
  intro claim
  have reported := claim onePinDevice quietLink [] false quietLink_private (afterCalls rudeTurns)
    (Reach.refl.foldl (fun _ _ => trivial) _)
  revert reported
  decide +kernel

end ArduinoDriver
