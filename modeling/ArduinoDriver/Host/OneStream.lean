import ArduinoDriver.Host.Construct
import ArduinoDriver.Host.Exchanges
import ArduinoDriver.Host.Process

namespace ArduinoDriver

open Lib (Program System Move Reach Conversation)

/-- start_stream(), or stop() of the Stream with number `k`. -/
inductive StreamCall where
  | start (config : StreamConfig)
  | stop (k : Nat)

def StreamCall.perform (d : Device) : StreamCall → Driver (Option StreamHandle)
  | .start config => do
    let handle ← Driver.startStream d config
    return some handle
  | .stop _ => do
    Driver.endStream
    return none

/-- What a start_stream() has come to: whether it has made its busy test, whether another
Stream was live at some time since, and the requests it has sent. -/
structure Attempt where
  tested : Bool
  overlaps : Bool
  sent : List SetupPacket
  deriving DecidableEq

def Attempt.fresh : Attempt := ⟨false, false, []⟩

/-- A start_stream() that has ended. -/
structure EndedStart where
  attempt : Attempt
  outcome : Except Error (Option StreamHandle)

/-- A process with its Streams, numbered as they start: those not stopped yet, those
whose stop() has been called, and the threads in a start_stream() that found the busy
flag clear. -/
structure Streams where
  process : Process
  count : Nat
  live : List Nat
  claimed : List Nat
  clear : List Nat
  attempts : Nat → Attempt
  ended : List EndedStart

/-- Every other start_stream() past its busy test sees a new Stream. -/
def Streams.overlapped (s : Streams) (t : Nat) : Nat → Attempt := fun u =>
  if u ≠ t ∧ (s.attempts u).tested then { s.attempts u with overlaps := true } else s.attempts u

/-- What an operation of a call means to the Streams. -/
def Streams.note (s : Streams) (t : Nat) : StreamCall → DriverOp → Streams
  | .start _, .loadStreaming => { s with
      clear := if s.process.host.streaming then s.clear else t :: s.clear
      attempts := Function.update s.attempts t ⟨true, !s.live.isEmpty, []⟩ }
  | .start _, .transfer p => { s with
      attempts := Function.update s.attempts t
        { s.attempts t with sent := (s.attempts t).sent ++ [p] } }
  | .start _, .storeStreaming true => { s with
      count := s.count + 1
      live := s.count :: s.live
      attempts := s.overlapped t }
  | .stop k, .storeStreaming false => { s with live := s.live.filter (· ≠ k) }
  | _, _ => s

def Streams.act (t : Nat) (call : StreamCall) (op : DriverOp) (s : Streams) : Option (op.Reply × Streams) :=
  match s.process.perform op with
  | none => none
  | some (r, process) => some (r, { s.note t call op with process := process })

/-- A Stream is stopped once: call_once holds back every later stop(). -/
def Streams.enter (_ : Nat) : StreamCall → Streams → Option Streams
  | .start _, s => some s
  | .stop k, s => if k < s.count ∧ k ∉ s.claimed then some { s with claimed := k :: s.claimed } else none

def Streams.leave (t : Nat) (call : StreamCall) (outcome : Except Error (Option StreamHandle)) (s : Streams) :
    Streams :=
  match call with
  | .start _ => { s with
      clear := s.clear.filter (· ≠ t)
      attempts := Function.update s.attempts t .fresh
      ended := ⟨s.attempts t, outcome⟩ :: s.ended }
  | .stop k => { s with live := s.live.filter (· ≠ k) }

/-- start_stream() and stop() from any number of threads on one Device. -/
def streamCalls (d : Device) :
    System DriverOp.Reply Error (Option StreamHandle) StreamCall Streams Empty where
  body := StreamCall.perform d
  enter := Streams.enter
  act := Streams.act
  leave := Streams.leave
  happen _ s := s

/-- A start_stream() that another Stream overlaps sends nothing, and throws DeviceBusy. -/
def EndedStart.Refused (e : EndedStart) : Prop :=
  e.attempt.overlaps = true → e.attempt.sent = [] ∧ ∃ err, e.outcome = .error err ∧ err.kind = .deviceBusy

/-- At most one Stream is live, and none is disturbed. -/
structure Streams.Exclusive (s : Streams) : Prop where
  single : s.live.length ≤ 1
  undisturbed : ∀ t, (s.attempts t).overlaps = true → (s.attempts t).sent = []
  refused : ∀ e ∈ s.ended, e.Refused

/-- No start_stream() sets the busy flag while another one that found it clear goes on. -/
def Unrivalled (t : Nat) (call : StreamCall) (op : DriverOp) (s : Streams) : Prop :=
  match call, op with
  | .start _, .storeStreaming true => ∀ u ∈ s.clear, u = t
  | _, _ => True

/-- A Device on which no Stream has been started. -/
def Streams.unstarted (process : Process) : Streams := ⟨process, 0, [], [], [], fun _ => .fresh, []⟩

/-- Where a call is: a start_stream() before its busy test, behind it, holding the mutex,
holding it with the flag set, and past it; a stop() before the mutex, holding it, holding
it with the flag cleared, and past it. -/
inductive Stage where
  | called | busy | clear | starting | started | left
  | asked | stopping | stopped | gone
  deriving DecidableEq

/-- The operations of each stage, and where they lead. -/
def stages : Conversation DriverOp.Reply Stage where
  may g op := match g, op with
    | .called, .loadStreaming => True
    | .clear, .access .. | .clear, .lock => True
    | .starting, .transfer _ | .starting, .access .. | .starting, .loadSelected
    | .starting, .storeSelected _ | .starting, .storeStreaming true | .starting, .unlock => True
    | .started, .unlock => True
    | .asked, .lock => True
    | .stopping, .loadStreaming | .stopping, .transfer _ | .stopping, .access ..
    | .stopping, .storeStreaming false => True
    | .stopped, .unlock => True
    | _, _ => False
  answers g op r g' := match g, op, r with
    | .called, .loadStreaming, busy => g' = if busy then .busy else .clear
    | .clear, .lock, _ => g' = .starting
    | .starting, .storeStreaming _, _ => g' = .started
    | .starting, .unlock, _ | .started, .unlock, _ => g' = .left
    | .asked, .lock, _ => g' = .stopping
    | .stopping, .loadStreaming, busy => busy = true ∧ g' = .stopping
    | .stopping, .storeStreaming _, _ => g' = .stopped
    | .stopped, .unlock, _ => g' = .gone
    | g, _, _ => g' = g

/-- The operations that touch nothing the threads share. -/
def Exchanges : DriverOp → Prop
  | .transfer _ | .access .. => True
  | _ => False

namespace Driver

variable {α : Type}

variable {p : Driver α}

theorem exchanges_of_plain (h : p.Uses PlainExchanges) : p.Uses Exchanges :=
  h.mono (fun op plain => by cases op <;> trivial)

variable {β : Type} {f : α → Driver β}

theorem starting_stay (h : p.Uses Exchanges) :
    p.Keeps stages (fun _ g => g = .starting) (fun _ g => g = .starting) .starting := by
  refine Program.Keeps.stay h (fun op calm => ?_)
  cases op with
  | transfer s => exact ⟨trivial, fun _ _ same => same⟩
  | access index size => exact ⟨trivial, fun _ _ same => same⟩
  | _ => exact calm.elim

theorem stopping_stay (h : p.Uses Exchanges) :
    p.Keeps stages (fun _ g => g = .stopping) (fun _ g => g = .stopping) .stopping := by
  refine Program.Keeps.stay h (fun op calm => ?_)
  cases op with
  | transfer s => exact ⟨trivial, fun _ _ same => same⟩
  | access index size => exact ⟨trivial, fun _ _ same => same⟩
  | _ => exact calm.elim

/-- A part of a call that stays where it is, and what comes next. -/
theorem Stays.bind {g : Stage} {R : β → Stage → Prop} {E : Error → Stage → Prop}
    (h : p.Keeps stages (fun _ g' => g' = g) (fun _ g' => g' = g) g) (fail : ∀ e, E e g)
    (next : ∀ a, (f a).Keeps stages R E g) : (p >>= f).Keeps stages R E g := by
  refine Program.Keeps.bind (h.conseq (fun _ _ same => same) (fun e g' same => ?_)) (fun a g' same => ?_)
  · subst same
    exact fail e
  · subst same
    exact next a

/-- The busy test comes first: a Stream that runs is found before anything is sent. -/
theorem checkConfig_stages (d : Device) (config : StreamConfig) :
    (checkConfig d config).Keeps stages (fun _ g => g = .clear)
      (fun e g => g = .busy ∧ e.kind = .deviceBusy ∨ g = .clear) .called := by
  have refuse : ∀ (bad : Prop) [Decidable bad] (e : Error), (refuseIf bad e).Keeps stages
      (fun _ g => g = .clear) (fun _ g => g = .clear) .clear :=
    fun bad _ e => Program.Keeps.ite (fun _ => .throw rfl) (fun _ => .pure rfl)
  have known : ∀ pin, Program.Keeps stages (fun _ g => g = .clear) (fun _ g => g = .clear)
      (do let _ ← pinCaps d pin : Driver Unit) .clear := by
    intro pin
    refine Stays.bind (Stays.bind (refuse _ _) (fun _ => rfl) (fun _ => ?_)) (fun _ => rfl) (fun _ => .pure rfl)
    refine ⟨trivial, fun _ g same => ?_⟩
    exact same
  have fail : ∀ e : Error, Stage.clear = .busy ∧ e.kind = .deviceBusy ∨ Stage.clear = .clear := fun _ => .inr rfl
  have pins : (config.pins.forM (fun pin => do let _ ← pinCaps d pin) : Driver PUnit).Keeps stages
      (fun _ g => g = .clear) (fun _ g => g = .clear) .clear := by
    refine Program.Keeps.forM (I := fun g : Stage => g = .clear) (fun pin _ g same => ?_) rfl
    subst same
    exact known pin
  refine Program.Keeps.bind (Q := fun _ g => g = .clear) ?_ (fun _ g same => ?_)
  · refine ⟨trivial, fun busy g same => ?_⟩
    subst same
    cases busy with
    | false => exact rfl
    | true => exact .inl ⟨rfl, rfl⟩
  · subst same
    refine Stays.bind (refuse _ _) fail (fun _ => Stays.bind (refuse _ _) fail (fun _ => ?_))
    refine Stays.bind (refuse _ _) fail (fun _ => Stays.bind pins fail (fun _ => ?_))
    refine Stays.bind (refuse _ _) fail (fun _ => Stays.bind (refuse _ _) fail (fun _ => ?_))
    exact (refuse _ _).conseq (fun _ _ same => same) (fun _ _ same => .inr same)

/-- The flag is set last, and not where anything failed. -/
theorem startLocked_stages (d : Device) (config : StreamConfig) :
    (startLocked d config).Keeps stages (fun _ g => g = .started) (fun _ g => g = .starting) .starting := by
  have fail : ∀ e : Error, Stage.starting = .starting := fun _ => rfl
  refine Stays.bind (starting_stay (exchanges_of_plain exchanges_readStreamStatus)) fail (fun status => ?_)
  refine Stays.bind (starting_stay (exchanges_of_plain (.ite exchanges_stop trivial))) fail (fun _ => ?_)
  refine Program.Keeps.step trivial (fun selected g same => ?_)
  subst same
  refine Stays.bind (starting_stay (exchanges_of_plain (.forM (exchanges_deselectOther config)))) fail (fun _ => ?_)
  refine Stays.bind (starting_stay (exchanges_of_plain (exchanges_selectPins ..))) fail (fun picked => ?_)
  obtain ⟨added, failed⟩ := picked
  refine Stays.bind (starting_stay (exchanges_of_plain (exchanges_launchOrRollBack ..))) fail (fun startTUs => ?_)
  refine Program.Keeps.step trivial (fun _ g same => ?_)
  subst same
  exact Program.Keeps.step trivial (fun _ g same => same)

theorem startStream_stages (d : Device) (config : StreamConfig) :
    (startStream d config).Keeps stages (fun _ g => g = .left)
      (fun e g => g = .busy ∧ e.kind = .deviceBusy ∨ g = .clear ∨ g = .left) .called := by
  refine Program.Keeps.bind ((checkConfig_stages d config).conseq (fun _ _ h => h) ?_) (fun _ g same => ?_)
  · rintro e g (busy | same)
    · exact .inl busy
    · exact .inr (.inl same)
  · subst same
    refine Program.Keeps.step trivial (fun _ g same => ?_)
    subst same
    refine Program.Keeps.bind (Q := fun _ g => g = .started)
      ((startLocked_stages d config).tryCatch (fun e g same => ?_)) (fun handle g same => ?_)
    · subst same
      exact Program.Keeps.step trivial (fun _ g same => .inr (.inr same))
    · subst same
      exact Program.Keeps.step trivial (fun _ g same => same)

theorem endStream_stages : endStream.Keeps stages (fun _ g => g = .gone) (fun _ _ => False) .asked := by
  refine Program.Keeps.step trivial (fun _ g same => ?_)
  subst same
  refine Program.Keeps.bind (Q := fun _ g => g = .stopped)
    (Program.Keeps.tryCatch (E := fun _ _ => False) ?_ (fun _ _ never => never.elim)) (fun _ g same => ?_)
  · refine Program.Keeps.step trivial (fun busy g same => ?_)
    obtain ⟨rfl, rfl⟩ := same
    refine Program.Keeps.bind (Q := fun _ g => g = .stopping) ?_ (fun _ g same => ?_)
    · refine (stopping_stay (exchanges_of_plain exchanges_stop)).tryCatch (fun e g same => ?_)
      exact same
    · subst same
      exact Program.Keeps.step trivial (fun _ g same => same)
  · subst same
    exact Program.Keeps.step trivial (fun _ g same => same)

end Driver

/-- The stages in which a thread holds the mutex. -/
def Stage.inside : Stage → Bool
  | .starting | .started | .stopping | .stopped => true
  | _ => false

/-- What a thread relies on at a stage of its call. -/
def Streams.Fits (s : Streams) (t : Nat) : StreamCall → Stage → Prop
  | .start _, .called => s.attempts t = .fresh
  | .start _, .busy => (s.attempts t).sent = []
  | .start _, .clear | .start _, .starting => t ∈ s.clear ∧ (s.attempts t).overlaps = false ∧ s.live = []
  | .start _, .started | .start _, .left => t ∈ s.clear ∧ (s.attempts t).overlaps = false
  | .stop k, .asked | .stop k, .stopping => k ∈ s.claimed ∧ k ∈ s.live ∧ s.attempts t = .fresh
  | .stop k, .stopped | .stop k, .gone => k ∈ s.claimed ∧ k ∉ s.live ∧ s.attempts t = .fresh
  | _, _ => False

/-- The flag tells whether a Stream is live, and a Stream that was started is until stop()
is called for it. -/
structure Streams.Sane (s : Streams) : Prop where
  single : s.live.length ≤ 1
  flag : s.process.host.streaming = !s.live.isEmpty
  begun : ∀ k ∈ s.claimed, k < s.count
  running : ∀ k < s.count, k ∉ s.claimed → k ∈ s.live
  refused : ∀ e ∈ s.ended, e.Refused

/-- Two places no two threads are at together. -/
def Clash (p q : StreamCall × Stage) : Prop :=
  p.2.inside = true ∧ q.2.inside = true ∨ ∃ k, p.1 = .stop k ∧ q.1 = .stop k

/-- Each thread has what its stage promises, one at a time holds the mutex, and one at a
time stops a Stream. -/
structure Streams.Ordered (s : Streams) (places : Nat → Option (StreamCall × Stage)) : Prop where
  sane : s.Sane
  fits : ∀ t p, places t = some p → s.Fits t p.1 p.2
  held : ∀ t p, places t = some p → p.2.inside = true → s.process.held = true
  apart : ∀ t u p q, places t = some p → places u = some q → Clash p q → t = u
  idle : ∀ t, places t = none → s.attempts t = .fresh

variable {d : Device} {s s' : Streams} {places : Nat → Option (StreamCall × Stage)} {t : Nat}
  {call : StreamCall} {g g' : Stage} {config : StreamConfig} {k : Nat} {op : DriverOp}

/-- Each thread at its stage. -/
def staged (d : Device) : (streamCalls d).Discipline Stage where
  conversation := stages
  returns call _ g := match call with
    | .start _ => g = .left
    | .stop _ => g = .gone
  throws call e g := match call with
    | .start _ => g = .busy ∧ e.kind = .deviceBusy ∨ g = .clear ∨ g = .left
    | .stop _ => False
  inv := Streams.Ordered

theorem Clash.symm {p q : StreamCall × Stage} (h : Clash p q) : Clash q p := by
  rcases h with ⟨left, right⟩ | ⟨k, left, right⟩
  · exact .inl ⟨right, left⟩
  · exact .inr ⟨k, right, left⟩

/-- Thread `t` is at `p` now: the others may rely on what they relied on, and `p` clashes
with none of them. -/
theorem Streams.Ordered.moves {p : StreamCall × Stage} (inv : s.Ordered places) (sane : s'.Sane)
    (mine : s'.Fits t p.1 p.2) (holds : p.2.inside = true → s'.process.held = true)
    (clear : ∀ u q, u ≠ t → places u = some q → ¬ Clash p q)
    (others : ∀ u q, u ≠ t → places u = some q →
      s'.Fits u q.1 q.2 ∧ (q.2.inside = true → s'.process.held = true))
    (idle : ∀ u, u ≠ t → s.attempts u = .fresh → s'.attempts u = .fresh) :
    s'.Ordered (Function.update places t (some p)) := by
  have at_t : ∀ {q}, Function.update places t (some p) t = some q → q = p := by
    intro q here
    rw [Function.update_self] at here
    exact (Option.some.inj here).symm
  have at_other : ∀ {u}, u ≠ t → Function.update places t (some p) u = places u :=
    fun other => Function.update_of_ne other ..
  refine ⟨sane, fun u q here => ?_, fun u q here in_ => ?_, fun u v q r here there clash => ?_, fun u here => ?_⟩
  · by_cases same : u = t
    · subst same
      obtain rfl := at_t here
      exact mine
    · exact (others u q same (at_other same ▸ here)).1
  · by_cases same : u = t
    · subst same
      obtain rfl := at_t here
      exact holds in_
    · exact (others u q same (at_other same ▸ here)).2 in_
  · by_cases same : u = t
    · by_cases same' : v = t
      · exact same.trans same'.symm
      · subst same
        obtain rfl := at_t here
        exact absurd clash (clear v r same' (at_other same' ▸ there))
    · by_cases same' : v = t
      · subst same'
        obtain rfl := at_t there
        exact absurd clash.symm (clear u q same (at_other same ▸ here))
      · exact inv.apart u v q r (at_other same ▸ here) (at_other same' ▸ there) clash
  · by_cases same : u = t
    · subst same
      rw [Function.update_self] at here
      contradiction
    · exact idle u same (inv.idle u (at_other same ▸ here))

/-- Thread `t` goes on in its call, and neither takes nor gives the mutex. -/
theorem Streams.Ordered.goes (inv : s.Ordered places) (place : places t = some (call, g)) (sane : s'.Sane)
    (mine : s'.Fits t call g') (inside : g'.inside = g.inside) (held : s'.process.held = s.process.held)
    (others : ∀ u q, u ≠ t → places u = some q → s.Fits u q.1 q.2 → s'.Fits u q.1 q.2)
    (idle : ∀ u, u ≠ t → s.attempts u = .fresh → s'.attempts u = .fresh) :
    s'.Ordered (Function.update places t (some (call, g'))) := by
  refine inv.moves sane mine (fun in_ => ?_) (fun u q other here clash => other ?_)
    (fun u q other here => ⟨others u q other here (inv.fits u q here), fun in_ => ?_⟩) idle
  · rw [held]
    exact inv.held t _ place (inside ▸ in_)
  · refine (inv.apart t u _ q place here ?_).symm
    rcases clash with both | stops
    · exact .inl ⟨inside ▸ both.1, both.2⟩
    · exact .inr stops
  · rw [held]
    exact inv.held u q here in_

/-- What a thread relies on is kept by anything that keeps these four. -/
theorem Streams.Fits.frame {u : Nat} (h : s.Fits u call g) (attempt : s'.attempts u = s.attempts u)
    (clear : u ∈ s.clear → u ∈ s'.clear) (live : s'.live = s.live)
    (claimed : ∀ k ∈ s.claimed, k ∈ s'.claimed) : s'.Fits u call g := by
  cases call with
  | start config =>
    cases g with
    | called => exact attempt.trans h
    | busy => exact (congrArg Attempt.sent attempt).trans h
    | clear | starting => exact ⟨clear h.1, (congrArg Attempt.overlaps attempt).trans h.2.1, live.trans h.2.2⟩
    | started | left => exact ⟨clear h.1, (congrArg Attempt.overlaps attempt).trans h.2⟩
    | _ => exact h.elim
  | stop k =>
    cases g with
    | asked | stopping => exact ⟨claimed k h.1, live ▸ h.2.1, attempt.trans h.2.2⟩
    | stopped | gone => exact ⟨claimed k h.1, live ▸ h.2.1, attempt.trans h.2.2⟩
    | _ => exact h.elim

theorem Streams.Sane.process {w : Process} (h : s.Sane) (same : w.host.streaming = s.process.host.streaming) :
    ({ s with process := w } : Streams).Sane :=
  ⟨h.single, same.trans h.flag, h.begun, h.running, h.refused⟩

/-- Thread `t` takes the mutex. -/
theorem Streams.Ordered.takes (inv : s.Ordered places) (place : places t = some (call, g))
    (free : s.process.held = false) (mine : s.Fits t call g') :
    ({ s with process := { s.process with held := true } } : Streams).Ordered
      (Function.update places t (some (call, g'))) := by
  refine inv.moves (inv.sane.process rfl) mine (fun _ => rfl) (fun u q other here clash => ?_)
    (fun u q other here => ⟨inv.fits u q here, fun _ => rfl⟩) (fun u _ same => same)
  rcases clash with both | stops
  · have held := inv.held u q here both.2
    rw [free] at held
    contradiction
  · exact other (inv.apart t u _ q place here (.inr stops)).symm

/-- Thread `t` releases it. -/
theorem Streams.Ordered.gives (inv : s.Ordered places) (place : places t = some (call, g))
    (was : g.inside = true) (out : g'.inside = false) (mine : s.Fits t call g') :
    ({ s with process := { s.process with held := false } } : Streams).Ordered
      (Function.update places t (some (call, g'))) := by
  refine inv.moves (inv.sane.process rfl) mine (fun in_ => ?_) (fun u q other here clash => ?_)
    (fun u q other here => ⟨inv.fits u q here, fun in_ => ?_⟩) (fun u _ same => same)
  · rw [out] at in_
    contradiction
  · rcases clash with both | stops
    · rw [out] at both
      cases both.1
    · exact other (inv.apart t u _ q place here (.inr stops)).symm
  · exact absurd (inv.apart t u _ q place here (.inl ⟨was, in_⟩)).symm other

/-- Thread `t` does something that concerns itself only. -/
theorem Streams.Ordered.still {w : Process} (inv : s.Ordered places) (place : places t = some (call, g))
    (streaming : w.host.streaming = s.process.host.streaming) (held : w.held = s.process.held) :
    ({ s with process := w } : Streams).Ordered (Function.update places t (some (call, g))) :=
  inv.goes place (inv.sane.process streaming) (inv.fits t _ place) rfl held (fun _ _ _ _ fits => fits)
    (fun _ _ same => same)

theorem Process.perform_transfer {p : SetupPacket} {w w' : Process} {r : Except Error (List UInt8)}
    (performed : w.perform (.transfer p) = some (r, w')) :
    w'.host.streaming = w.host.streaming ∧ w'.held = w.held := by
  cases performed
  refine ⟨?_, rfl⟩
  unfold HostState.perform control
  dsimp only
  cases (w.host.link.plan 0).failure with
  | none => cases w.host.link.reply p <;> rfl
  | some failure =>
    obtain ⟨e, got⟩ := failure
    cases got <;> rfl

theorem Process.perform_lock {w w' : Process} {r : Unit} (performed : w.perform .lock = some (r, w')) :
    w.held = false ∧ w' = { w with held := true } := by
  have taken : w.perform .lock = if w.held then none else some ((), { w with held := true }) := rfl
  rw [taken] at performed
  cases held : w.held with
  | true =>
    rw [held] at performed
    contradiction
  | false =>
    rw [held] at performed
    cases performed
    exact ⟨rfl, rfl⟩

/-- The busy test. -/
theorem Streams.Ordered.tests (inv : s.Ordered places) (place : places t = some (.start config, .called)) :
    (s.note t (.start config) .loadStreaming).Ordered (Function.update places t
      (some (.start config, if s.process.host.streaming then .busy else .clear))) := by
  have flag := inv.sane.flag
  refine inv.goes place ?_ ?_ ?_ rfl (fun u q other here fits => ?_) (fun u other same => ?_)
  · exact ⟨inv.sane.single, flag, inv.sane.begun, inv.sane.running, inv.sane.refused⟩
  · cases busy : s.process.host.streaming with
    | true =>
      change (Function.update s.attempts t _ t).sent = []
      rw [Function.update_self]
    | false =>
      rw [busy, eq_comm, Bool.not_eq_false', List.isEmpty_iff] at flag
      refine ⟨?_, ?_, flag⟩
      · simp [Streams.note, busy]
      · simp [Streams.note, flag]
  · cases s.process.host.streaming <;> rfl
  · obtain ⟨call, g⟩ := q
    have joined : ∀ v ∈ s.clear, v ∈ (s.note t (.start config) .loadStreaming).clear := by
      intro v inside
      unfold Streams.note
      dsimp only
      split
      · exact inside
      · exact List.mem_cons_of_mem _ inside
    exact fits.frame (Function.update_of_ne other ..) (joined u) rfl (fun _ h => h)
  · exact (Function.update_of_ne other ..).trans same

/-- A request is sent. -/
theorem Streams.Ordered.sends {p : SetupPacket} {w : Process} (inv : s.Ordered places)
    (place : places t = some (.start config, .starting)) (streaming : w.host.streaming = s.process.host.streaming)
    (held : w.held = s.process.held) :
    ({ s.note t (.start config) (.transfer p) with process := w } : Streams).Ordered
      (Function.update places t (some (.start config, .starting))) := by
  obtain ⟨inside, alone, none_⟩ := inv.fits t _ place
  refine inv.goes place ?_ ⟨inside, ?_, none_⟩ rfl held (fun u q other here fits => ?_) (fun u other same => ?_)
  · exact ⟨inv.sane.single, streaming.trans inv.sane.flag, inv.sane.begun, inv.sane.running, inv.sane.refused⟩
  · change (Function.update s.attempts t _ t).overlaps = false
    rw [Function.update_self]
    exact alone
  · exact fits.frame (Function.update_of_ne other ..) (fun h => h) rfl (fun _ h => h)
  · exact (Function.update_of_ne other ..).trans same

/-- The flag is set: the only start_stream() past its busy test has its Stream. -/
theorem Streams.Ordered.sets (inv : s.Ordered places) (place : places t = some (.start config, .starting))
    (unrivalled : ∀ u ∈ s.clear, u = t) :
    ({ s.note t (.start config) (.storeStreaming true) with
        process := { s.process with host := { s.process.host with streaming := true } } } : Streams).Ordered
      (Function.update places t (some (.start config, .started))) := by
  obtain ⟨inside, alone, none_⟩ := inv.fits t _ place
  have mine : s.overlapped t t = s.attempts t := if_neg (fun both => both.1 rfl)
  have untouched : ∀ u, s.attempts u = .fresh → s.overlapped t u = .fresh := by
    intro u fresh
    unfold Streams.overlapped
    rw [fresh]
    exact if_neg (fun both => Bool.noConfusion both.2)
  refine inv.goes place ?_ ⟨inside, ?_⟩ rfl rfl (fun u q other here fits => ?_) (fun u other same => ?_)
  · refine ⟨?_, rfl, fun k claimed => Nat.lt_succ_of_lt (inv.sane.begun k claimed), fun k below unclaimed => ?_,
      inv.sane.refused⟩
    · change (s.count :: s.live).length ≤ 1
      rw [none_]
      exact Nat.le_refl 1
    · rcases Nat.lt_succ_iff_lt_or_eq.mp below with before | rfl
      · exact List.mem_cons_of_mem _ (inv.sane.running k before unclaimed)
      · exact List.mem_cons_self ..
  · exact (congrArg Attempt.overlaps mine).trans alone
  · obtain ⟨call, g⟩ := q
    cases call with
    | start config' =>
      cases g with
      | called => exact untouched u fits
      | busy =>
        change (s.overlapped t u).sent = []
        unfold Streams.overlapped
        split
        · exact fits
        · exact fits
      | clear | starting | started | left => exact absurd (unrivalled u fits.1) other
      | _ => exact fits.elim
    | stop k =>
      cases g with
      | asked | stopping => exact ⟨fits.1, List.mem_cons_of_mem _ fits.2.1, untouched u fits.2.2⟩
      | stopped | gone =>
        refine ⟨fits.1, fun inside => ?_, untouched u fits.2.2⟩
        rcases List.mem_cons.mp inside with rfl | before
        · exact Nat.lt_irrefl _ (inv.sane.begun _ fits.1)
        · exact fits.2.1 before
      | _ => exact fits.elim
  · exact untouched u same

/-- Taking the only live Stream away leaves none. -/
theorem Streams.Sane.only (h : s.Sane) (live : k ∈ s.live) : s.live = [k] := by
  have single := h.single
  match listed : s.live with
  | [] =>
    rw [listed] at live
    cases live
  | [j] =>
    rw [listed] at live
    rw [List.mem_singleton.mp live]
  | i :: j :: l =>
    rw [listed] at single
    simp at single

/-- The flag is cleared by the stop() of the one live Stream. -/
theorem Streams.Ordered.clears (inv : s.Ordered places) (place : places t = some (.stop k, .stopping)) :
    ({ s.note t (.stop k) (.storeStreaming false) with
        process := { s.process with host := { s.process.host with streaming := false } } } : Streams).Ordered
      (Function.update places t (some (.stop k, .stopped))) := by
  obtain ⟨claimed, live, fresh⟩ := inv.fits t _ place
  have only := inv.sane.only live
  have left : s.live.filter (· ≠ k) = [] := by
    rw [only]
    simp
  refine inv.goes place ⟨?_, ?_, inv.sane.begun, fun j below unclaimed => ?_, inv.sane.refused⟩
    ⟨claimed, ?_, fresh⟩ rfl rfl
    (fun u q other here fits => ?_) (fun _ _ same => same)
  · change (s.live.filter (· ≠ k)).length ≤ 1
    rw [left]
    exact Nat.zero_le 1
  · change false = !(s.live.filter (· ≠ k)).isEmpty
    rw [left]
    rfl
  · have running := inv.sane.running j below unclaimed
    rw [only] at running
    rw [List.mem_singleton.mp running] at unclaimed
    exact absurd claimed unclaimed
  · change k ∉ s.live.filter (· ≠ k)
    rw [left]
    exact List.not_mem_nil
  · obtain ⟨call, g⟩ := q
    cases call with
    | start config' =>
      cases g with
      | called | busy | started | left => exact fits
      | clear | starting => exact ⟨fits.1, fits.2.1, left⟩
      | _ => exact fits.elim
    | stop j =>
      cases g with
      | asked | stopping =>
        have same := fits.2.1
        rw [only] at same
        rw [List.mem_singleton.mp same] at here
        exact absurd (inv.apart t u _ _ place here (.inr ⟨k, rfl, rfl⟩)).symm other
      | stopped | gone =>
        refine ⟨fits.1, ?_, fits.2.2⟩
        change j ∉ s.live.filter (· ≠ k)
        rw [left]
        exact List.not_mem_nil
      | _ => exact fits.elim

theorem staged_enter {s'' : Streams} (inv : s.Ordered places) (here : places t = none)
    (entered : Streams.enter t call s = some s'') :
    ∃ g, s''.Ordered (Function.update places t (some (call, g))) ∧
      (call.perform d).Keeps stages ((staged d).returns call) ((staged d).throws call) g := by
  cases call with
  | start config =>
    cases entered
    refine ⟨.called, ?_, ?_⟩
    · refine inv.moves inv.sane (inv.idle t here) (fun in_ => by cases in_) (fun u q other there clash => ?_)
        (fun u q other there => ⟨inv.fits u q there, inv.held u q there⟩) (fun _ _ same => same)
      rcases clash with ⟨in_, _⟩ | ⟨k, stops, _⟩
      · cases in_
      · cases stops
    · exact Program.Keeps.bind (Driver.startStream_stages d config) (fun handle g same => same)
  | stop k =>
    unfold Streams.enter at entered
    dsimp only at entered
    split at entered
    · rename_i fresh
      cases entered
      have live := inv.sane.running k fresh.1 fresh.2
      refine ⟨.asked, ?_, ?_⟩
      · refine inv.moves ⟨inv.sane.single, inv.sane.flag, fun j claimed => ?_, fun j below unclaimed => ?_,
          inv.sane.refused⟩ ⟨List.mem_cons_self .., live, inv.idle t here⟩ (fun in_ => by cases in_)
          (fun u q other there clash => ?_)
          (fun u q other there => ⟨?_, inv.held u q there⟩) (fun _ _ same => same)
        · rcases List.mem_cons.mp claimed with rfl | before
          · exact fresh.1
          · exact inv.sane.begun j before
        · exact inv.sane.running j below (fun before => unclaimed (List.mem_cons_of_mem _ before))
        · rcases clash with ⟨in_, _⟩ | ⟨j, mine, theirs⟩
          · cases in_
          · cases mine
            obtain ⟨call, g⟩ := q
            cases theirs
            have fits := inv.fits u _ there
            cases g with
            | asked | stopping | stopped | gone => exact fresh.2 fits.1
            | _ => exact fits.elim
        · exact (inv.fits u q there).frame rfl (fun h => h) rfl (fun j before => List.mem_cons_of_mem _ before)
      · exact Program.Keeps.bind Driver.endStream_stages (fun _ g same => same)
    · contradiction

/-- The call of thread `t` has ended. -/
theorem Streams.Ordered.exits (inv : s.Ordered places) (sane : s'.Sane) (held : s'.process.held = s.process.held)
    (mine : s'.attempts t = .fresh)
    (others : ∀ u q, u ≠ t → places u = some q → s.Fits u q.1 q.2 → s'.Fits u q.1 q.2)
    (idle : ∀ u, u ≠ t → s.attempts u = .fresh → s'.attempts u = .fresh) :
    s'.Ordered (Function.update places t none) := by
  have at_other : ∀ {u q}, Function.update places t none u = some q → u ≠ t ∧ places u = some q := by
    intro u q here
    by_cases same : u = t
    · subst same
      rw [Function.update_self] at here
      contradiction
    · rw [Function.update_of_ne same] at here
      exact ⟨same, here⟩
  refine ⟨sane, fun u q here => ?_, fun u q here in_ => ?_, fun u v q r here there clash => ?_, fun u here => ?_⟩
  · obtain ⟨other, here⟩ := at_other here
    exact others u q other here (inv.fits u q here)
  · rw [held]
    exact inv.held u q (at_other here).2 in_
  · exact inv.apart u v q r (at_other here).2 (at_other there).2 clash
  · by_cases same : u = t
    · subst same
      exact mine
    · rw [Function.update_of_ne same] at here
      exact idle u same (inv.idle u here)

/-- A start_stream() that ends was refused, or no Stream overlapped it. -/
theorem ended_refused {outcome : Except Error (Option StreamHandle)} (fits : s.Fits t (.start config) g)
    (ends : (staged d).ends (.start config) g outcome) : EndedStart.Refused ⟨s.attempts t, outcome⟩ := by
  have alone : (s.attempts t).overlaps = false → EndedStart.Refused ⟨s.attempts t, outcome⟩ := by
    intro none_ some_
    change (s.attempts t).overlaps = true at some_
    rw [none_] at some_
    contradiction
  cases outcome with
  | ok handle =>
    cases ends
    exact alone fits.2
  | error e =>
    rcases ends with ⟨rfl, kind⟩ | rfl | rfl
    · exact fun _ => ⟨fits, e, rfl, kind⟩
    · exact alone fits.2.1
    · exact alone fits.2

theorem staged_leave {outcome : Except Error (Option StreamHandle)} (inv : s.Ordered places)
    (place : places t = some (call, g)) (ends : (staged d).ends call g outcome) :
    (Streams.leave t call outcome s).Ordered (Function.update places t none) := by
  have fits := inv.fits t _ place
  cases call with
  | start config =>
    refine inv.exits ⟨inv.sane.single, inv.sane.flag, inv.sane.begun, inv.sane.running, fun e inside => ?_⟩ rfl
      (Function.update_self ..) (fun u q other here fits' => ?_) (fun u other same => ?_)
    · rcases List.mem_cons.mp inside with rfl | before
      · exact ended_refused fits ends
      · exact inv.sane.refused e before
    · refine fits'.frame (Function.update_of_ne other ..) (fun inside => ?_) rfl (fun _ h => h)
      exact List.mem_filter.mpr ⟨inside, decide_eq_true other⟩
    · exact (Function.update_of_ne other ..).trans same
  | stop k =>
    -- a stop() that has ended has cleared the flag, and no later Stream bears its number
    have settled : k ∉ s.live ∧ s.attempts t = .fresh := by
      cases outcome with
      | ok _ =>
        cases ends
        exact fits.2
      | error e => exact ends.elim
    obtain ⟨absent, fresh⟩ := settled
    have same : s.live.filter (· ≠ k) = s.live :=
      List.filter_eq_self.mpr (fun j inside => decide_eq_true (fun eq => absent (eq ▸ inside)))
    refine inv.exits ⟨?_, ?_, inv.sane.begun, fun j below unclaimed => ?_, inv.sane.refused⟩ rfl
      fresh (fun u q other here fits' => fits'.frame rfl (fun h => h) same (fun _ h => h)) (fun _ _ same => same)
    · change (s.live.filter (· ≠ k)).length ≤ 1
      rw [same]
      exact inv.sane.single
    · change s.process.host.streaming = !(s.live.filter (· ≠ k)).isEmpty
      rw [same]
      exact inv.sane.flag
    · change j ∈ s.live.filter (· ≠ k)
      rw [same]
      exact inv.sane.running j below unclaimed

theorem Streams.act_some {r : op.Reply} (acted : Streams.act t call op s = some (r, s')) :
    ∃ w, s.process.perform op = some (r, w) ∧ s' = { s.note t call op with process := w } := by
  unfold Streams.act at acted
  split at acted
  · contradiction
  · rename_i r' w performed
    cases acted
    exact ⟨w, performed, rfl⟩

/-- Every operation keeps the order. -/
theorem staged_act {r : op.Reply} (inv : s.Ordered places) (place : places t = some (call, g))
    (allowed : stages.may g op) (unrivalled : Unrivalled t call op s)
    (acted : Streams.act t call op s = some (r, s')) :
    ∃ g', stages.answers g op r g' ∧ s'.Ordered (Function.update places t (some (call, g'))) := by
  have fits := inv.fits t _ place
  cases call with
  | start config =>
    cases g with
    | called =>
      cases op with
      | loadStreaming =>
        cases acted
        exact ⟨_, rfl, inv.tests place⟩
      | _ => exact allowed.elim
    | clear =>
      cases op with
      | access index size =>
        cases acted
        exact ⟨_, rfl, inv.still place rfl rfl⟩
      | lock =>
        obtain ⟨w, performed, rfl⟩ := Streams.act_some acted
        obtain ⟨free, rfl⟩ := Process.perform_lock performed
        exact ⟨_, rfl, inv.takes place free fits⟩
      | _ => exact allowed.elim
    | starting =>
      cases op with
      | transfer p =>
        obtain ⟨w, performed, rfl⟩ := Streams.act_some acted
        obtain ⟨streaming, held⟩ := Process.perform_transfer performed
        exact ⟨_, rfl, inv.sends place streaming held⟩
      | access index size =>
        cases acted
        exact ⟨_, rfl, inv.still place rfl rfl⟩
      | loadSelected =>
        cases acted
        exact ⟨_, rfl, inv.still place rfl rfl⟩
      | storeSelected pins =>
        cases acted
        exact ⟨_, rfl, inv.still place rfl rfl⟩
      | storeStreaming value =>
        cases value with
        | false => exact allowed.elim
        | true =>
          cases acted
          exact ⟨_, rfl, inv.sets place unrivalled⟩
      | unlock =>
        cases acted
        exact ⟨_, rfl, inv.gives place rfl rfl ⟨fits.1, fits.2.1⟩⟩
      | _ => exact allowed.elim
    | started =>
      cases op with
      | unlock =>
        cases acted
        exact ⟨_, rfl, inv.gives place rfl rfl fits⟩
      | _ => exact allowed.elim
    | busy | left => cases op <;> exact allowed.elim
    | _ => exact fits.elim
  | stop k =>
    cases g with
    | asked =>
      cases op with
      | lock =>
        obtain ⟨w, performed, rfl⟩ := Streams.act_some acted
        obtain ⟨free, rfl⟩ := Process.perform_lock performed
        exact ⟨_, rfl, inv.takes place free fits⟩
      | _ => exact allowed.elim
    | stopping =>
      cases op with
      | loadStreaming =>
        cases acted
        refine ⟨_, ⟨?_, rfl⟩, inv.still place rfl rfl⟩
        exact inv.sane.flag.trans (by rw [inv.sane.only fits.2.1]; rfl)
      | transfer p =>
        obtain ⟨w, performed, rfl⟩ := Streams.act_some acted
        obtain ⟨streaming, held⟩ := Process.perform_transfer performed
        exact ⟨_, rfl, inv.still place streaming held⟩
      | access index size =>
        cases acted
        exact ⟨_, rfl, inv.still place rfl rfl⟩
      | storeStreaming value =>
        cases value with
        | true => exact allowed.elim
        | false =>
          cases acted
          exact ⟨_, rfl, inv.clears place⟩
      | _ => exact allowed.elim
    | stopped =>
      cases op with
      | unlock =>
        cases acted
        exact ⟨_, rfl, inv.gives place rfl rfl fits⟩
      | _ => exact allowed.elim
    | gone => cases op <;> exact allowed.elim
    | _ => exact fits.elim

theorem staged_kept (d : Device) : (staged d).Kept Unrivalled (fun _ _ => True) where
  enter := staged_enter
  act inv place allowed unrivalled acted := staged_act inv place allowed unrivalled acted
  leave := staged_leave
  happen := by
    intro event
    cases event

/-- What order means for the Streams. -/
theorem Streams.Ordered.exclusive (inv : s.Ordered places) : s.Exclusive := by
  refine ⟨inv.sane.single, fun t overlaps => ?_, inv.sane.refused⟩
  cases here : places t with
  | none =>
    rw [inv.idle t here] at overlaps
    contradiction
  | some p =>
    obtain ⟨call, g⟩ := p
    have fits := inv.fits t _ here
    have alone : (s.attempts t).overlaps = false → (s.attempts t).sent = [] := by
      intro none_
      rw [none_] at overlaps
      contradiction
    cases call with
    | start config =>
      cases g with
      | called =>
        have fresh : s.attempts t = .fresh := fits
        rw [fresh]
        rfl
      | busy => exact fits
      | clear | starting => exact alone fits.2.1
      | started | left => exact alone fits.2
      | _ => exact fits.elim
    | stop k =>
      cases g with
      | asked | stopping | stopped | gone =>
        rw [fits.2.2]
        rfl
      | _ => exact fits.elim

/-- Whatever start_stream() and stop() do in turn, one Stream at most is live and no other
start_stream() touches it, as long as none that found the flag clear is still going on
when another sets it. -/
theorem one_stream_at_a_time (d : Device) (l : Link) (selected : List UInt8)
    {w : Lib.Pool DriverOp.Reply Error (Option StreamHandle) StreamCall Streams}
    (reached : Reach (streamCalls d).step (System.permits Unrivalled (fun _ _ => True))
      (System.idle (.unstarted (.opened l selected false))) w) :
    w.shared.Exclusive := by
  have start : (Streams.unstarted (.opened l selected false)).Ordered (fun _ => none) := by
    refine ⟨⟨Nat.zero_le 1, rfl, ?_, ?_, ?_⟩, ?_, ?_, ?_, fun _ _ => rfl⟩
    · intro k inside
      cases inside
    · intro k below
      cases below
    · intro e inside
      cases inside
    · intro t p here
      cases here
    · intro t p here
      cases here
    · intro t u p q here
      cases here
  obtain ⟨places, inv, _⟩ := (staged_kept d).reach reached start
  exact inv.exclusive

instance Unrivalled.decidable (t : Nat) : (call : StreamCall) → (op : DriverOp) → (s : Streams) →
    Decidable (Unrivalled t call op s)
  | .start _, .storeStreaming true, s => inferInstanceAs (Decidable (∀ u ∈ s.clear, u = t))
  | .start _, .storeStreaming false, _ | .stop _, _, _ => inferInstanceAs (Decidable True)
  | .start _, .transfer _, _ | .start _, .access .., _ | .start _, .loadStreaming, _ | .start _, .lock, _
  | .start _, .unlock, _ | .start _, .loadSelected, _ | .start _, .storeSelected _, _ =>
    inferInstanceAs (Decidable True)

/-- The one pin board with its pin an INPUT, on a bus of its own. -/
def inputLink : Link :=
  ⟨onePinBoard, boot onePinBoard, [request .pinMode 0 0], fun _ => ⟨[], stillEnv .busy, none, "STALL"⟩⟩

def streamingDevice : Device := onePinBoard.device ⟨1, 1, 0⟩

def pinZeroStream : StreamConfig := ⟨[0], 0, 0, 1⟩

abbrev noStreams : Lib.Pool DriverOp.Reply Error (Option StreamHandle) StreamCall Streams :=
  System.idle (.unstarted (.opened inputLink [] false))

def afterMoves (moves : List (Move StreamCall Empty)) :
    Lib.Pool DriverOp.Reply Error (Option StreamHandle) StreamCall Streams :=
  moves.foldl (streamCalls streamingDevice).step noStreams

/-- Thread `t` makes a call and goes on to its end. -/
def wholeCall (t : Nat) (call : StreamCall) : List (Move StreamCall Empty) :=
  .begin t call :: List.replicate 60 (.go t)

/-- Thread 1 finds the Stream of thread 0 and, once that is stopped, starts its own. -/
def inTurn : List (Move StreamCall Empty) :=
  wholeCall 0 (.start pinZeroStream) ++ wholeCall 1 (.start pinZeroStream) ++ wholeCall 0 (.stop 0) ++
    wholeCall 1 (.start pinZeroStream)

/-- Both threads find the flag clear before either starts. -/
def bothClear : List (Move StreamCall Empty) :=
  [.begin 0 (.start pinZeroStream), .begin 1 (.start pinZeroStream), .go 0, .go 1] ++
    List.replicate 60 (.go 0) ++ List.replicate 60 (.go 1)

theorem one_stream_at_a_time_in_turn :
    (afterMoves inTurn).shared.live = [1] ∧ (afterMoves inTurn).shared.ended.length = 3 ∧
    (afterMoves inTurn).shared.Exclusive :=
  ⟨by decide +kernel, by decide +kernel,
    one_stream_at_a_time streamingDevice inputLink []
      (@Lib.Follows.reach _ _ _ _ _ inTurn (by decide +kernel))⟩

/-- Two start_stream() that both find the flag clear leave two Streams live, the second
having stopped the first on the device. -/
theorem two_streams_at_a_time :
    ¬ ∀ (d : Device) (l : Link) (selected : List UInt8),
      ∀ w, Reach (streamCalls d).step (fun _ _ => True) (System.idle (.unstarted (.opened l selected false))) w →
        w.shared.Exclusive := by
  intro claim
  have exclusive := claim streamingDevice inputLink [] (afterMoves bothClear)
    (Reach.refl.foldl (fun _ _ => trivial) _)
  have two : (afterMoves bothClear).shared.live.length = 2 := by decide +kernel
  have single := exclusive.single
  omega

end ArduinoDriver
