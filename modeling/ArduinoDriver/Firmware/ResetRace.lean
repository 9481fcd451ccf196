import ArduinoDriver.Firmware.Intentions

namespace ArduinoDriver

def Obs.setMode (p : Nat) : Obs → Option PinMode → Option PinMode
  | .applied pin mode, x => if pin = p then some mode else x
  | _, x => x

/-- The mode last applied to the hardware. -/
def Log.applied (log : Log) (p : Nat) : Option PinMode := log.foldr (Obs.setMode p) none

def Obs.setLevel (p : Nat) : Obs → Option Bool → Option Bool
  | .applied pin _, x => if pin = p then none else x
  | .call (.digitalWrite pin high), x => if pin = p then some high else x
  | _, x => x

/-- The level last driven since that mode was applied. -/
def Log.driven (log : Log) (p : Nat) : Option Bool := log.foldr (Obs.setLevel p) none

def Obs.countReset : Obs → Nat → Nat
  | .drained, _ => 0
  | .accepted .reset _ _, n => n + 1
  | _, n => n

/-- RESETs accepted since poll() last left its do-while. -/
def Log.resets (log : Log) : Nat := log.foldr Obs.countReset 0

/-- Steps that let no command overtake a RESET and keep the RESETs of one round of
poll() below the reach of its 8-bit counters. -/
def keepsResets (b : Board) (m : Machine) (act : Act) : Prop :=
  overtakesReset m act = false ∧ (step b m act).log.resets < 256

instance (b : Board) (m : Machine) (act : Act) : Decidable (keepsResets b m act) :=
  inferInstanceAs (Decidable (_ ∧ _))

def Pc.executing : Pc → Bool
  | .drain (.execute _) => true
  | _ => false

/-- poll() is about to execute a command a RESET has cancelled meanwhile. -/
def Machine.runsCancelled (m : Machine) : Bool :=
  m.pc.executing && decide (0 < m.log.pipeline.stale)

/-- The mode of pin `p` the fresh commands start from. -/
def Machine.baseMode (m : Machine) (p : Nat) : Option PinMode :=
  if hasCap (m.dev.caps p) capDio then
    (if m.dev.resetPending then some .input else m.log.applied p)
  else if m.runsCancelled then none
  else m.log.applied p

/-- The level of pin `p` the fresh commands start from. -/
def Machine.baseLevel (m : Machine) (p : Nat) : Option Bool :=
  if m.dev.resetPending then none else m.log.driven p

/-- The cancelled commands of the backlog. -/
def Machine.cancelled (m : Machine) : List Command := m.backlog.take m.log.pipeline.stale

/-- What poll() has established about RESETs at a point of its do-while. -/
def DrainPc.ResetOk (d : UsbIoDevice) (log : Log) : DrainPc → Prop
  | .resetSeen => d.resetPending
  | .resetApply seen => d.resetPending ∧ (d.resetRequests - seen).toNat ≤ log.resets
  | .resetDone seen => (d.resetPending ∧ (d.resetRequests - seen).toNat ≤ log.resets) ∧
    ∀ p < d.nPins, hasCap (d.caps p) capDio → log.applied p = some .input ∧ log.driven p = none
  | .execute c => (0 < log.pipeline.stale → d.resetPending) ∧
    (log.pipeline.stale = 0 → d.resetPending → c.harmless d)
  | .outerTest => d.resetPending = false → log.pipeline.stale = 0
  | _ => True

def Pc.ResetOk (d : UsbIoDevice) (log : Log) : Pc → Prop
  | .drain pc => pc.ResetOk d log
  | _ => True

/-- How the pads follow the intended modes: the fresh commands lead from what the
hardware shows, or will show after apply_reset(), to what is intended. -/
structure Following (m : Machine) : Prop where
  count : (m.dev.resetRequests - m.dev.resetDone).toNat ≤ m.log.resets
  lockstep : m.dev.epoch = m.dev.resetRequests
  aged : ∀ c ∈ m.cancelled, 1 ≤ (m.dev.epoch - c.epoch).toNat ∧
    (m.dev.epoch - c.epoch).toNat ≤ m.log.resets
  reset : m.pc.ResetOk m.dev m.log
  mode : ∀ p mode, m.dev.mode p = some mode →
    m.fresh.foldl (Command.setMode p) (m.baseMode p) = some mode
  level : ∀ p v, m.dev.mode p = some .output → m.log.wished p = some v →
    m.fresh.foldl (Command.setLevel p) (m.baseLevel p) = some v

variable {b : Board} {env : Env} {d d' : UsbIoDevice} {o : Obs} {log news : Log}
  {m m' : Machine} {c : Command}

theorem Machine.baseMode_due {p : Nat} (digital : hasCap (m.dev.caps p) capDio)
    (pending : m.dev.resetPending) : m.baseMode p = some .input := by
  rw [baseMode, if_pos digital, if_pos pending]

theorem Machine.baseMode_applied {p : Nat}
    (served : ¬ (hasCap (m.dev.caps p) capDio ∧ m.dev.resetPending)) (calm : ¬ m.runsCancelled) :
    m.baseMode p = m.log.applied p := by
  unfold baseMode
  by_cases digital : hasCap (m.dev.caps p) capDio
  · rw [if_pos digital, if_neg (fun pending => served ⟨digital, pending⟩)]
  · rw [if_neg digital, if_neg calm]

theorem Machine.baseMode_doomed {p : Nat} (other : ¬ hasCap (m.dev.caps p) capDio)
    (runs : m.runsCancelled) : m.baseMode p = none := by
  rw [baseMode, if_neg other, if_pos runs]

theorem Machine.baseLevel_due {p : Nat} (pending : m.dev.resetPending) : m.baseLevel p = none :=
  if_pos pending

theorem Machine.baseLevel_driven {p : Nat} (served : ¬ m.dev.resetPending) :
    m.baseLevel p = m.log.driven p :=
  if_neg served

section Inert

variable (off : ∀ o ∈ news, o.offCommands)
include off

theorem applied_append (p : Nat) : Log.applied (news ++ log) p = log.applied p := by
  apply Lib.Journal.foldr_inert
  intro o inside x
  have := off o inside
  unfold Obs.setMode
  split <;> first | contradiction | rfl

theorem driven_append (p : Nat) : Log.driven (news ++ log) p = log.driven p := by
  apply Lib.Journal.foldr_inert
  intro o inside x
  have := off o inside
  unfold Obs.setLevel
  split <;> first | contradiction | rfl

theorem resets_append : Log.resets (news ++ log) = log.resets := by
  apply Lib.Journal.foldr_inert
  intro o inside n
  have := off o inside
  unfold Obs.countReset
  split <;> first | contradiction | rfl

end Inert

/-- A step that changes neither what is pending nor what was applied. -/
theorem Following.kept (h : Following m) (same : SameResets m'.dev m.dev)
    (fresh : m'.fresh = m.fresh) (cancelled : ∀ c ∈ m'.cancelled, c ∈ m.cancelled)
    (applied : ∀ p, m'.log.applied p = m.log.applied p)
    (driven : ∀ p, m'.log.driven p = m.log.driven p)
    (wished : ∀ p, m'.log.wished p = m.log.wished p) (resets : m'.log.resets = m.log.resets)
    (runs : m'.runsCancelled = m.runsCancelled) (reset : m'.pc.ResetOk m'.dev m'.log) :
    Following m' := by
  have baseMode : ∀ p, m'.baseMode p = m.baseMode p := by
    intro p
    unfold Machine.baseMode
    rw [same.caps, same.pending, applied, runs]
  have baseLevel : ∀ p, m'.baseLevel p = m.baseLevel p := by
    intro p
    unfold Machine.baseLevel
    rw [same.pending, driven]
  refine ⟨?_, ?_, ?_, reset, ?_, ?_⟩
  · rw [same.requests, same.done, resets]
    exact h.count
  · rw [same.epoch, same.requests]
    exact h.lockstep
  · intro c inside
    rw [same.epoch, resets]
    exact h.aged c (cancelled c inside)
  · intro p mode intended
    rw [same.mode] at intended
    rw [fresh, baseMode]
    exact h.mode p mode intended
  · intro p v output wish
    rw [same.mode] at output
    rw [wished] at wish
    rw [fresh, baseLevel]
    exact h.level p v output wish

theorem Pc.ResetOk.congr {log' : Log} {pc : Pc} (h : pc.ResetOk d log)
    (pending : d'.resetPending = d.resetPending) (requests : d'.resetRequests = d.resetRequests)
    (caps : d'.caps = d.caps) (nPins : d'.nPins = d.nPins) (resets : log'.resets = log.resets)
    (stale : log'.pipeline.stale = log.pipeline.stale)
    (applied : ∀ p, log'.applied p = log.applied p) (driven : ∀ p, log'.driven p = log.driven p) :
    pc.ResetOk d' log' := by
  cases pc with
  | drain pc =>
    cases pc with
    | resetSeen =>
      change d'.resetPending = true
      rw [pending]
      exact h
    | resetApply seen =>
      change d'.resetPending = true ∧ (d'.resetRequests - seen).toNat ≤ log'.resets
      rw [pending, requests, resets]
      exact h
    | resetDone seen =>
      refine ⟨?_, ?_⟩
      · rw [pending, requests, resets]
        exact h.1
      · intro p
        rw [nPins, caps, applied, driven]
        exact h.2 p
    | execute c =>
      change (0 < log'.pipeline.stale → d'.resetPending = true) ∧
        (log'.pipeline.stale = 0 → d'.resetPending = true → c.harmless d' = true)
      unfold Command.harmless
      rw [stale, pending, caps]
      exact h
    | outerTest =>
      change d'.resetPending = false → log'.pipeline.stale = 0
      rw [pending, stale]
      exact h
    | _ => trivial
  | _ => trivial

theorem Pc.ResetOk.append {pc : Pc} (h : pc.ResetOk d log) (off : ∀ o ∈ news, o.offCommands)
    (same : SameResets d' d) : pc.ResetOk d' (news ++ log) :=
  h.congr same.pending same.requests same.caps same.nPins (resets_append off)
    (by rw [pipeline_append off]) (applied_append off) (driven_append off)

/-- A step that is not about commands, outside the do-while or between its steps. -/
theorem Following.quiet (news : Log) (h : Following m) (log_eq : m'.log = news ++ m.log)
    (off : ∀ o ∈ news, o.offCommands) (same : SameCommands m'.dev m.dev)
    (held : m'.pc.held = m.pc.held) (runs : m'.runsCancelled = m.runsCancelled)
    (reset : m'.pc.ResetOk m'.dev m'.log) : Following m' := by
  have backlog : m'.backlog = m.backlog := by
    unfold Machine.backlog
    rw [held, same.commands]
  have pipeline : m'.log.pipeline = m.log.pipeline := by rw [log_eq, pipeline_append off]
  refine h.kept same.resets ?_ ?_ ?_ ?_ ?_ ?_ runs reset
  · unfold Machine.fresh
    rw [backlog, pipeline]
  · unfold Machine.cancelled
    rw [backlog, pipeline]
    exact fun _ inside => inside
  · intro p
    rw [log_eq, applied_append off]
  · intro p
    rw [log_eq, driven_append off]
  · intro p
    rw [log_eq, wished_append off]
  · rw [log_eq, resets_append off]

theorem Pc.executing_offDrain {pc : Pc} (other : pc.offDrain) : pc.executing = false := by
  cases pc with
  | drain pc => contradiction
  | _ => rfl

theorem Pc.resetOk_offDrain {pc : Pc} (other : pc.offDrain) : pc.ResetOk d log := by
  cases pc with
  | drain pc => contradiction
  | _ => trivial

theorem Machine.mem_backlog {m : Machine} (inside : c ∈ m.backlog) :
    c ∈ m.cancelled ∨ c ∈ m.fresh := by
  rw [← List.take_append_drop m.log.pipeline.stale m.backlog] at inside
  exact List.mem_append.mp inside

/-- RESET from the interrupt side: every DIO pin is meant to be an INPUT, which
apply_reset() is now due to make it. -/
theorem Following.request {index value : UInt16} (h : Following m) (queued : Queued m)
    (ok : m.Ok b) (pc : m'.pc = m.pc) (log_eq : m'.log = .accepted .reset index value :: m.log)
    (dev : m'.dev = requestReset m.dev) (few : m'.log.resets < 256) : Following m' := by
  have resets : m'.log.resets = m.log.resets + 1 := by
    rw [log_eq]
    rfl
  have more : ∀ x : UInt8, (m.dev.resetRequests - x).toNat ≤ m.log.resets →
      (m.dev.resetRequests + 1 - x).toNat = (m.dev.resetRequests - x).toNat + 1 := by
    intro x le
    exact Lib.Ring.count_head (by omega)
  have counted := more _ h.count
  have pending : (requestReset m.dev).resetPending = true := by
    change (m.dev.resetDone != m.dev.resetRequests + 1) = true
    rw [bne_iff_ne]
    intro same
    rw [← same, UInt8.sub_self] at counted
    simp at counted
  have fresh := (queued.reset pc log_eq dev).2
  have stale : m'.log.pipeline.stale = m.backlog.length := by
    have stale := queued.carries.stale_cancel
    rw [List.length_map] at stale
    rw [log_eq]
    exact stale
  refine ⟨?_, ?_, ?_, ?_, ?_, ?_⟩
  · rw [dev, resets]
    change (m.dev.resetRequests + 1 - m.dev.resetDone).toNat ≤ _
    have := h.count
    omega
  · rw [dev]
    change m.dev.epoch + 1 = m.dev.resetRequests + 1
    rw [h.lockstep]
  · intro c inside
    have waiting : c ∈ m.backlog := by
      have same : m'.backlog = m.backlog := by
        unfold Machine.backlog
        rw [pc, dev]
        rfl
      rw [← same]
      exact List.mem_of_mem_take inside
    rw [dev, resets]
    change 1 ≤ (m.dev.epoch + 1 - c.epoch).toNat ∧ (m.dev.epoch + 1 - c.epoch).toNat ≤ _
    rcases Machine.mem_backlog waiting with old | new
    · have aged := h.aged c old
      have := @Lib.Ring.count_head c.epoch m.dev.epoch (by omega)
      omega
    · rw [queued.current c new, UInt8.add_comm, UInt8.add_sub_cancel]
      exact ⟨by simp, by simp⟩
  · have reset := h.reset
    rw [pc, dev]
    cases eq : m.pc with
    | drain pc =>
      rw [eq] at reset
      cases pc with
      | resetSeen => exact pending
      | resetApply seen =>
        refine ⟨pending, ?_⟩
        rw [resets]
        change (m.dev.resetRequests + 1 - seen).toNat ≤ _
        rw [more seen reset.2]
        exact Nat.succ_le_succ reset.2
      | resetDone seen =>
        refine ⟨⟨pending, ?_⟩, ?_⟩
        · rw [resets]
          change (m.dev.resetRequests + 1 - seen).toNat ≤ _
          rw [more seen reset.1.2]
          exact Nat.succ_le_succ reset.1.2
        · rw [log_eq]
          exact reset.2
      | execute c =>
        refine ⟨fun _ => pending, ?_⟩
        intro current
        rw [stale] at current
        unfold Machine.backlog at current
        rw [eq] at current
        simp [Pc.held, DrainPc.held] at current
      | outerTest =>
        intro settled
        rw [pending] at settled
        contradiction
      | _ => trivial
    | _ => trivial
  · intro p mode intended
    rw [dev] at intended
    obtain ⟨rfl, digital⟩ := requestReset_mode ok.dev intended
    have digital' : hasCap (m'.dev.caps p) capDio := by
      rw [dev]
      exact digital
    rw [fresh, List.foldl_nil, Machine.baseMode_due digital' (by rw [dev]; exact pending)]
  · intro p v output
    rw [dev] at output
    have input := (requestReset_mode ok.dev output).1
    contradiction

/-- The intentions a command adds are the ones it carries. -/
theorem Following.accept (h : Following m) (queued : Queued m) (enters : Enters m m' c) :
    Following m' := by
  obtain ⟨req, index, value, isQueued, log_eq⟩ := enters.log
  have resets : m'.log.resets = m.log.resets := by
    rw [log_eq]
    cases req <;> first | contradiction | rfl
  have applied : ∀ p, m'.log.applied p = m.log.applied p := by
    rw [log_eq]
    exact fun _ => rfl
  have driven : ∀ p, m'.log.driven p = m.log.driven p := by
    rw [log_eq]
    exact fun _ => rfl
  have runs : m'.runsCancelled = m.runsCancelled := by
    unfold Machine.runsCancelled
    rw [enters.pc, enters.stale]
  have baseMode : ∀ p, m'.baseMode p = m.baseMode p := by
    intro p
    unfold Machine.baseMode
    rw [enters.caps, enters.pending, applied, runs]
  have baseLevel : ∀ p, m'.baseLevel p = m.baseLevel p := by
    intro p
    unfold Machine.baseLevel
    rw [enters.pending, driven]
  refine ⟨?_, ?_, ?_, ?_, ?_, ?_⟩
  · rw [enters.requests, enters.done, resets]
    exact h.count
  · rw [enters.epoch, enters.requests]
    exact h.lockstep
  · intro c' inside
    rw [enters.epoch, resets]
    apply h.aged
    have le := queued.carries.stale_le
    rw [List.length_map] at le
    unfold Machine.cancelled at inside
    rwa [enters.backlog, enters.stale, List.take_append_of_le_length le] at inside
  · rw [enters.pc]
    exact h.reset.congr enters.pending enters.requests enters.caps enters.nPins resets
      enters.stale applied driven
  · intro p md intended
    rw [enters.fresh, baseMode, List.foldl_append, List.foldl_cons, List.foldl_nil,
      Command.setMode]
    rcases enters.mode p md intended with decides | ⟨ignores, before⟩
    · rw [decides, Option.some_or]
    · rw [ignores, Option.none_or]
      exact h.mode p md before
  · intro p v output wish
    rw [enters.fresh, baseLevel, List.foldl_append, List.foldl_cons, List.foldl_nil]
    rcases enters.level p v output wish with decides | ⟨before, wish', ignores⟩
    · exact decides _
    · rw [ignores]
      exact h.level p v before wish'

/-- What the interrupt side does keeps the pads following. -/
theorem Following.served {m : Machine} (h : Following m) (queued : Queued m) (ok : m.Ok b)
    (served : Served b env m.dev d' o) (few : Log.resets (o :: m.log) < 256) :
    Following ⟨d', m.pc, o :: m.log⟩ := by
  rcases served.intake queued ok with ⟨same, _, off⟩ | ⟨index, value, rfl, rfl⟩ | ⟨c, enters, _⟩
  · have only : ∀ o' ∈ [o], o'.offCommands := by simpa using off
    refine h.quiet [o] rfl only same rfl ?_ (h.reset.append only same.resets)
    unfold Machine.runsCancelled
    rw [show Log.pipeline (o :: m.log) = m.log.pipeline from pipeline_append only]
  · exact h.request queued ok rfl rfl rfl few
  · exact h.accept queued enters

/-- The calls of apply_reset() put every DIO pin in INPUT and no other. -/
theorem resetLog_applied (d : UsbIoDevice) (log : Log) (p : Nat) :
    Log.applied (resetLog d ++ log) p =
      (if p < d.nPins ∧ hasCap (d.caps p) capDio then some .input else log.applied p) ∧
    Log.driven (resetLog d ++ log) p =
      (if p < d.nPins ∧ hasCap (d.caps p) capDio then none else log.driven p) := by
  have walk : ∀ pins : List Nat, ∀ news : Log,
      news = pins.flatMap (fun q => [.applied q .input, .call (.pinMode q .input)]) →
      Log.applied (news ++ log) p = (if p ∈ pins then some .input else log.applied p) ∧
      Log.driven (news ++ log) p = (if p ∈ pins then none else log.driven p) := by
    intro pins
    induction pins with
    | nil =>
      rintro _ rfl
      exact ⟨rfl, rfl⟩
    | cons q pins ih =>
      rintro _ rfl
      obtain ⟨applied, driven⟩ := ih _ rfl
      constructor
      · change (if q = p then some PinMode.input else
          Log.applied (pins.flatMap (fun q => [.applied q .input, .call (.pinMode q .input)]) ++ log) p) = _
        rw [applied]
        by_cases same : q = p
        · simp [same]
        · simp [same, Ne.symm same]
      · change (if q = p then none else
          Log.driven (pins.flatMap (fun q => [.applied q .input, .call (.pinMode q .input)]) ++ log) p) = _
        rw [driven]
        by_cases same : q = p
        · simp [same]
        · simp [same, Ne.symm same]
  have reached := walk _ _ (rfl : resetLog d = _)
  simpa only [List.mem_reverse, List.mem_filter, List.mem_range] using reached

theorem resets_pads (pads : ∀ o ∈ news, o.isPad) : Log.resets (news ++ log) = log.resets := by
  apply Lib.Journal.foldr_inert
  intro o inside n
  have := pads o inside
  cases o <;> first | rfl | contradiction

/-- A step of the do-while that moves on and does nothing else. -/
theorem Following.moves {pc next : DrainPc} (h : Following ⟨d, .drain pc, log⟩)
    (held : next.held = pc.held)
    (runs : Machine.runsCancelled ⟨d, .drain next, log⟩ =
      Machine.runsCancelled ⟨d, .drain pc, log⟩)
    (reset : next.ResetOk d log) : Following ⟨d, .drain next, log⟩ :=
  h.quiet [] rfl (by simp) (.refl d) held runs reset

/-- apply_reset() puts the DIO pins in INPUT while the RESET is still pending. -/
theorem Following.applyReset {seen : UInt8} (h : Following ⟨d, .drain (.resetApply seen), log⟩) :
    Following (loopStep b env ⟨d, .drain (.resetApply seen), log⟩) := by
  obtain ⟨pending, counted⟩ := h.reset
  have pads := resetLog_pads d
  have resets : Log.resets (resetLog d ++ log) = log.resets := resets_pads pads
  have pipeline : Log.pipeline (resetLog d ++ log) = log.pipeline := pipeline_pads pads
  have fresh : (loopStep b env ⟨d, .drain (.resetApply seen), log⟩).fresh =
      Machine.fresh ⟨d, .drain (.resetApply seen), log⟩ :=
    congrArg (Lib.Pipeline.fresh · d.commands) pipeline
  refine ⟨?_, h.lockstep, ?_, ⟨⟨pending, ?_⟩, ?_⟩, ?_, ?_⟩
  · exact h.count.trans_eq resets.symm
  · intro c inside
    have cancelled : c ∈ Machine.cancelled ⟨d, .drain (.resetApply seen), log⟩ := by
      unfold Machine.cancelled at inside ⊢
      rw [← pipeline]
      exact inside
    have aged := h.aged c cancelled
    exact ⟨aged.1, aged.2.trans_eq resets.symm⟩
  · exact counted.trans_eq resets.symm
  · intro p known digital
    obtain ⟨applied, driven⟩ := resetLog_applied d log p
    exact ⟨applied.trans (if_pos ⟨known, digital⟩), driven.trans (if_pos ⟨known, digital⟩)⟩
  · intro p mode intended
    rw [fresh]
    have base : (loopStep b env ⟨d, .drain (.resetApply seen), log⟩).baseMode p =
        Machine.baseMode ⟨d, .drain (.resetApply seen), log⟩ p := by
      by_cases digital : hasCap (d.caps p) capDio
      · exact Eq.trans (Machine.baseMode_due digital pending)
          (Machine.baseMode_due digital pending).symm
      · refine (Machine.baseMode_applied (fun due => digital due.1)
          (by simp [Machine.runsCancelled, loopStep, ArduinoDriver.drainStep, Pc.executing])).trans ?_
        rw [Machine.baseMode_applied (fun due => digital due.1)
          (by simp [Machine.runsCancelled, Pc.executing])]
        exact (resetLog_applied d log p).1.trans (if_neg (fun both => digital both.2))
    rw [base]
    exact h.mode p mode intended
  · intro p v output wish
    have base : (loopStep b env ⟨d, .drain (.resetApply seen), log⟩).baseLevel p =
        Machine.baseLevel ⟨d, .drain (.resetApply seen), log⟩ p :=
      Eq.trans (Machine.baseLevel_due pending) (Machine.baseLevel_due pending).symm
    rw [fresh, base]
    exact h.level p v output ((wished_pads pads p).symm.trans wish)

/-- Once the RESET is marked done the pads show what it promised. -/
theorem Following.markDone {seen : UInt8} (h : Following ⟨d, .drain (.resetDone seen), log⟩)
    (ok : Machine.Ok b ⟨d, .drain (.resetDone seen), log⟩) :
    Following (loopStep b env ⟨d, .drain (.resetDone seen), log⟩) := by
  obtain ⟨⟨pending, counted⟩, applied⟩ := h.reset
  have known : ∀ p mode, d.mode p = some mode → p < d.nPins := by
    intro p mode intended
    by_contra outside
    rw [ok.dev.beyond p (Nat.not_lt.mp outside)] at intended
    contradiction
  refine ⟨counted, h.lockstep, h.aged, trivial, ?_, ?_⟩
  · intro p mode intended
    have base : (loopStep b env ⟨d, .drain (.resetDone seen), log⟩).baseMode p =
        Machine.baseMode ⟨d, .drain (.resetDone seen), log⟩ p := by
      by_cases digital : hasCap (d.caps p) capDio
      · refine (if_pos digital).trans (Eq.trans ?_ (Machine.baseMode_due digital pending).symm)
        split
        · rfl
        · exact (applied p (known p mode intended) digital).1
      · exact (if_neg digital).trans (if_neg digital).symm
    rw [base]
    exact h.mode p mode intended
  · intro p v output wish
    have digital : hasCap (d.caps p) capDio := ok.dev.modes p .output output
    have base : (loopStep b env ⟨d, .drain (.resetDone seen), log⟩).baseLevel p =
        Machine.baseLevel ⟨d, .drain (.resetDone seen), log⟩ p := by
      refine Eq.trans ?_ (Machine.baseLevel_due pending).symm
      unfold Machine.baseLevel
      split
      · rfl
      · exact (applied p (known p .output output) digital).2
    rw [base]
    exact h.level p v output wish

/-- The entries of apply_mode(): the mode, and a call that drives no level. -/
theorem applyMode_log (b : Board) (env : Env) (d : UsbIoDevice) (pin : Nat) (mode : PinMode) :
    ∃ calls, (applyMode b env d pin mode).2 = .applied pin mode :: calls ∧
      ∀ o ∈ calls, (∃ pad, o = .call (.pinMode pin pad)) ∨ o = .call (.analogWrite pin 0) := by
  unfold applyMode
  split
  · exact ⟨_, rfl, by simp⟩
  · split
    · exact ⟨[], rfl, by simp⟩
    · exact ⟨_, rfl, by simp⟩

/-- The entries of execute(): a mode applied, or calls, of which only
digitalWrite() drives a level. -/
theorem execute_entries (b : Board) (env : Env) (d : UsbIoDevice) (c : Command) :
    (c.cmd = .pinMode ∧ ∃ mode calls, PinMode.ofCode? c.value.toUInt8.toUInt16 = some mode ∧
      (execute b env d c).2 = .applied c.pin mode :: calls ∧
      ∀ o ∈ calls, (∃ pad, o = .call (.pinMode c.pin pad)) ∨ o = .call (.analogWrite c.pin 0)) ∨
    (c.cmd = .pinMode ∧ PinMode.ofCode? c.value.toUInt8.toUInt16 = none ∧
      execute b env d c = (d, [])) ∨
    (c.cmd = .dioWrite ∧
      (execute b env d c).2 = [.call (.digitalWrite c.pin (decide (c.value ≠ 0)))]) ∨
    (c.cmd ≠ .pinMode ∧ c.cmd ≠ .dioWrite ∧ (execute b env d c).1 = d ∧
      ∀ o ∈ (execute b env d c).2, ∃ n, o = .call (.analogWrite c.pin n)) := by
  unfold execute
  split
  · rename_i cmd
    cases named : PinMode.ofCode? c.value.toUInt8.toUInt16 with
    | none => exact .inr (.inl ⟨cmd, rfl, rfl⟩)
    | some mode =>
      obtain ⟨calls, eq, inert⟩ := applyMode_log b env d c.pin mode
      exact .inl ⟨cmd, mode, calls, rfl, eq, inert⟩
  · rename_i cmd
    exact .inr (.inr (.inl ⟨cmd, rfl⟩))
  · rename_i cmd
    exact .inr (.inr (.inr ⟨by simp [cmd], by simp [cmd], rfl, by simp⟩))
  · rename_i cmd
    exact .inr (.inr (.inr ⟨by simp [cmd], by simp [cmd], rfl, by simp⟩))
  · rename_i not_mode not_write _ _
    exact .inr (.inr (.inr ⟨not_mode, not_write, rfl, by simp⟩))

theorem calls_inert {calls log : Log} {pin : Nat}
    (inert : ∀ o ∈ calls, (∃ pad, o = .call (.pinMode pin pad)) ∨ ∃ n, o = .call (.analogWrite pin n))
    (p : Nat) :
    Log.applied (calls ++ log) p = log.applied p ∧ Log.driven (calls ++ log) p = log.driven p := by
  constructor
  · apply Lib.Journal.foldr_inert
    intro o inside x
    rcases inert o inside with ⟨pad, rfl⟩ | ⟨n, rfl⟩ <;> rfl
  · apply Lib.Journal.foldr_inert
    intro o inside x
    rcases inert o inside with ⟨pad, rfl⟩ | ⟨n, rfl⟩ <;> rfl

/-- What execute() reports of pin `p`. -/
theorem execute_log (b : Board) (env : Env) (d : UsbIoDevice) (c : Command) (log : Log) (p : Nat) :
    Log.applied ((execute b env d c).2 ++ log) p = c.setMode p (log.applied p) ∧
    (c.setLevel p (log.driven p) = none ∨
      Log.driven ((execute b env d c).2 ++ log) p = c.setLevel p (log.driven p)) := by
  unfold Command.setMode Command.mode? Command.setLevel
  rcases execute_entries b env d c with ⟨cmd, mode, calls, named, eq, inert⟩ |
    ⟨cmd, named, eq⟩ | ⟨cmd, eq⟩ | ⟨not_mode, not_write, _, inert⟩
  · obtain ⟨applied, driven⟩ := calls_inert
      (fun o inside => (inert o inside).imp_right (fun eq => ⟨0, eq⟩)) p
    rw [eq, cmd, named]
    refine ⟨?_, .inr ?_⟩
    · change (if c.pin = p then some mode else Log.applied (calls ++ log) p) = _
      rw [applied]
      by_cases same : c.pin = p <;> simp [same]
    · change (if c.pin = p then none else Log.driven (calls ++ log) p) = _
      rw [driven]
  · rw [eq, cmd, named]
    refine ⟨?_, ?_⟩
    · split <;> rfl
    · by_cases same : c.pin = p
      · exact .inl (by simp [same])
      · exact .inr (by simp [same])
  · rw [eq, cmd]
    refine ⟨?_, .inr rfl⟩
    rw [if_neg (by simp)]
    rfl
  · obtain ⟨applied, driven⟩ := calls_inert (fun o inside => .inr (inert o inside)) p
    rw [applied, driven, if_neg (fun both => not_mode both.2)]
    refine ⟨rfl, .inr ?_⟩
    split
    · split
      · rename_i cmd
        exact absurd cmd not_mode
      · rename_i cmd
        exact absurd cmd not_write
      · rfl
    · rfl

theorem cancelled_of_rest {n : Nat} {rest : List Command} {c' : Command}
    (inside : c' ∈ rest.take (n - 1)) : c' ∈ (c :: rest).take n := by
  cases n with
  | zero => simp at inside
  | succ n => exact List.mem_cons_of_mem _ inside

/-- A command that is executed moves the pads as it moves the intentions, unless
a RESET is to come or has cancelled it. -/
theorem Following.execute (h : Following ⟨d, .drain (.execute c), log⟩)
    (queued : Queued ⟨d, .drain (.execute c), log⟩)
    (ok : Machine.Ok b ⟨d, .drain (.execute c), log⟩) :
    Following (loopStep b env ⟨d, .drain (.execute c), log⟩) := by
  obtain ⟨pending_of_stale, harmless⟩ := h.reset
  obtain ⟨dio, ain, dev⟩ := execute_frame b env d c
  obtain ⟨_, first, behind⟩ := queued.execute b env
  have pads := execute_pads b env d c
  have after : loopStep b env ⟨d, .drain (.execute c), log⟩ =
      ⟨{ d with dio := dio, ain := ain }, .drain .drainTest,
        (.executed c :: (ArduinoDriver.execute b env d c).2) ++ log⟩ := by
    simp only [loopStep, drainStep, dev, Option.map_some, Option.getD_some]
  have resets : Log.resets ((.executed c :: (ArduinoDriver.execute b env d c).2) ++ log) =
      log.resets :=
    show Log.resets ((ArduinoDriver.execute b env d c).2 ++ log) = _ from resets_pads pads
  rw [after] at first behind ⊢
  refine ⟨?_, h.lockstep, ?_, trivial, ?_, ?_⟩
  · exact h.count.trans_eq resets.symm
  · intro c' inside
    have earlier : c' ∈ Machine.cancelled ⟨d, .drain (.execute c), log⟩ := by
      unfold Machine.cancelled at inside ⊢
      rw [executed_pipeline, Lib.Pipeline.stale_finish] at inside
      exact cancelled_of_rest inside
    have aged := h.aged c' earlier
    exact ⟨aged.1, aged.2.trans_eq resets.symm⟩
  · intro p mode intended
    have goal := h.mode p mode intended
    obtain ⟨applied, _⟩ := execute_log b env d c log p
    by_cases due : hasCap (d.caps p) capDio ∧ d.resetPending
    · rw [Machine.baseMode_due due.1 due.2] at goal ⊢
      rcases Nat.eq_zero_or_pos log.pipeline.stale with current | stale
      · rwa [first current, List.foldl_cons,
          (Command.harmless_digital (harmless current due.2) due.1).1] at goal
      · rwa [behind stale]
    · rw [Machine.baseMode_applied due (by simp [Machine.runsCancelled, Pc.executing])]
      rcases Nat.eq_zero_or_pos log.pipeline.stale with current | stale
      · rw [Machine.baseMode_applied due (by simp [Machine.runsCancelled, current]),
          first current, List.foldl_cons, ← applied] at goal
        exact goal
      · have other : ¬ hasCap (d.caps p) capDio := fun digital =>
          due ⟨digital, pending_of_stale stale⟩
        rw [Machine.baseMode_doomed other (by simp [Machine.runsCancelled, Pc.executing, stale])]
          at goal
        rw [behind stale]
        exact (setMode_overwrites p).replay goal _
  · intro p v output wish
    have goal := h.level p v output ((wished_pads pads p).symm.trans wish)
    have digital : hasCap (d.caps p) capDio := ok.dev.modes p .output output
    obtain ⟨_, driven⟩ := execute_log b env d c log p
    by_cases pending : d.resetPending
    · rw [Machine.baseLevel_due pending] at goal ⊢
      rcases Nat.eq_zero_or_pos log.pipeline.stale with current | stale
      · rwa [first current, List.foldl_cons,
          (Command.harmless_digital (harmless current pending) digital).2] at goal
      · rwa [behind stale]
    · have current : log.pipeline.stale = 0 := by
        by_contra stale
        exact pending (pending_of_stale (Nat.pos_of_ne_zero stale))
      rw [Machine.baseLevel_driven pending] at goal ⊢
      rw [first current, List.foldl_cons] at goal
      rcases driven with unknown | driven
      · rw [unknown] at goal
        exact (setLevel_overwrites p).replay goal _
      · rw [← driven] at goal
        exact goal

/-- poll() takes the command it has copied. -/
theorem Following.bump {tail : UInt8} (h : Following ⟨d, .drain (.bumpTail tail c), log⟩)
    (queued : Queued ⟨d, .drain (.bumpTail tail c), log⟩)
    (ok : Machine.Ok b ⟨d, .drain (.bumpTail tail c), log⟩) :
    Following (loopStep b env ⟨d, .drain (.bumpTail tail c), log⟩) := by
  obtain ⟨_, backlog, fresh⟩ := queued.bump env ok
  refine h.kept ⟨rfl, rfl, rfl, rfl, rfl, rfl⟩ fresh ?_ (fun _ => rfl) (fun _ => rfl)
    (fun _ => rfl) rfl rfl trivial
  intro c' inside
  unfold Machine.cancelled at inside ⊢
  rw [backlog] at inside
  exact inside

/-- The epoch test tells a cancelled command from a fresh one. -/
theorem Following.epochTest (h : Following ⟨d, .drain (.epochTest c), log⟩)
    (queued : Queued ⟨d, .drain (.epochTest c), log⟩)
    (keeps : overtakesReset ⟨d, .drain (.epochTest c), log⟩ (.loop env) = false) :
    Following (loopStep b env ⟨d, .drain (.epochTest c), log⟩) := by
  by_cases current : c.epoch = d.epoch
  · have stale : log.pipeline.stale = 0 := by
      by_contra stale
      have cancelled : c ∈ Machine.cancelled ⟨d, .drain (.epochTest c), log⟩ := by
        unfold Machine.cancelled
        obtain ⟨n, eq⟩ := Nat.exists_eq_succ_of_ne_zero stale
        change c ∈ (c :: d.commands).take log.pipeline.stale
        rw [eq]
        exact List.mem_cons_self ..
      have aged := (h.aged c cancelled).1
      rw [current, UInt8.sub_self] at aged
      contradiction
    have next : loopStep b env ⟨d, .drain (.epochTest c), log⟩ = ⟨d, .drain (.execute c), log⟩ := by
      simp only [loopStep, drainStep, if_pos current, Option.map_some, Option.getD_some,
        List.nil_append]
    rw [next]
    refine h.moves rfl ?_ ⟨?_, ?_⟩
    · simp [Machine.runsCancelled, stale, Pc.executing]
    · rw [stale]
      exact fun gone => absurd gone (Nat.lt_irrefl 0)
    · intro _ pending
      simpa [overtakesReset, current, pending] using keeps
  · have next : loopStep b env ⟨d, .drain (.epochTest c), log⟩ =
        ⟨d, .drain .drainTest, [.skipped c] ++ log⟩ := by
      simp only [loopStep, drainStep, if_neg current, Option.map_some, Option.getD_some]
    rw [next]
    refine h.kept ⟨rfl, rfl, rfl, rfl, rfl, rfl⟩ (queued.skip current).2 ?_ (fun _ => rfl)
      (fun _ => rfl) (fun _ => rfl) rfl rfl trivial
    intro c' inside
    unfold Machine.cancelled at inside ⊢
    rw [show Log.pipeline ([.skipped c] ++ log) = log.pipeline.finish c.order false from rfl,
      Lib.Pipeline.stale_finish] at inside
    exact cancelled_of_rest inside

/-- Leaving the do-while starts a new round: nothing cancelled waits then. -/
theorem Following.drained (h : Following ⟨d, .drain .outerTest, log⟩)
    (served : d.resetPending = false) : Following ⟨d, .shadow .enter, .drained :: log⟩ := by
  have stale : log.pipeline.stale = 0 := h.reset served
  have done : d.resetDone = d.resetRequests := by simpa [UsbIoDevice.resetPending] using served
  refine ⟨?_, h.lockstep, ?_, trivial, h.mode, h.level⟩
  · change (d.resetRequests - d.resetDone).toNat ≤ 0
    rw [done, UInt8.sub_self]
    exact Nat.le_refl 0
  · intro c inside
    unfold Machine.cancelled at inside
    rw [show Log.pipeline (.drained :: log) = log.pipeline from rfl, stale, List.take_zero]
      at inside
    contradiction

/-- A step of the do-while. -/
theorem Following.drainStep {pc : DrainPc} (h : Following ⟨d, .drain pc, log⟩)
    (queued : Queued ⟨d, .drain pc, log⟩) (ok : Machine.Ok b ⟨d, .drain pc, log⟩)
    (keeps : overtakesReset ⟨d, .drain pc, log⟩ (.loop env) = false) :
    Following (loopStep b env ⟨d, .drain pc, log⟩) := by
  have pending_iff : d.resetDone ≠ d.resetRequests ↔ d.resetPending := by
    simp [UsbIoDevice.resetPending]
  cases pc with
  | resetTest =>
    simp only [loopStep, ArduinoDriver.drainStep]
    split
    · exact h.moves rfl rfl (pending_iff.mp ‹_›)
    · exact h.moves rfl rfl trivial
  | resetSeen =>
    refine h.moves rfl rfl ⟨h.reset, ?_⟩
    rw [UInt8.sub_self]
    exact Nat.zero_le _
  | resetApply seen => exact h.applyReset
  | resetDone seen => exact h.markDone ok
  | drainTest =>
    simp only [loopStep, ArduinoDriver.drainStep]
    split
    · exact h.moves rfl rfl trivial
    · rename_i empty
      refine h.moves rfl rfl (fun _ => ?_)
      have le := queued.carries.stale_le
      have nothing : Machine.backlog ⟨d, .drain .drainTest, log⟩ = [] :=
        Lib.Ring.contents_eq_nil.mpr (not_not.mp empty)
      rw [nothing] at le
      exact Nat.le_zero.mp le
  | copySlot => exact h.moves rfl rfl trivial
  | bumpTail tail c => exact h.bump queued ok
  | epochTest c => exact h.epochTest queued keeps
  | execute c => exact h.execute queued ok
  | outerTest =>
    simp only [loopStep, ArduinoDriver.drainStep]
    split
    · exact h.moves rfl rfl trivial
    · exact h.drained (by simpa [UsbIoDevice.resetPending] using not_not.mp ‹_›)

/-- One step of the machine. -/
theorem step_following {act : Act} (h : Following m) (queued : Queued m) (ok : m.Ok b)
    (keeps : keepsResets b m act) : Following (step b m act) := by
  cases act with
  | setup env s => exact h.served queued ok (handleSetup_served b env m.dev s) keeps.2
  | disconnect =>
    have only : ∀ o ∈ [Obs.disconnected], o.offCommands := by simp [Obs.offCommands]
    have same : SameCommands (handleUsbDisconnected m.dev) m.dev :=
      ⟨rfl, rfl, rfl, rfl, rfl, rfl, rfl, rfl, rfl⟩
    exact h.quiet [.disconnected] rfl only same rfl rfl (h.reset.append only same.resets)
  | loop env =>
    by_cases other : m.pc.offDrain
    · obtain ⟨same, _, next, news, log_eq, off⟩ := loopStep_offDrain b env m other
      have held : (loopStep b env m).pc.held = m.pc.held := by
        rw [Pc.held_offDrain other]
        rcases next with next | next
        · exact Pc.held_offDrain next
        · rw [next]
          rfl
      have runs : (loopStep b env m).runsCancelled = m.runsCancelled := by
        have calm : (loopStep b env m).pc.executing = false := by
          rcases next with next | next
          · exact Pc.executing_offDrain next
          · rw [next]
            rfl
        unfold Machine.runsCancelled
        rw [calm, Pc.executing_offDrain other, Bool.false_and, Bool.false_and]
      have reset : (loopStep b env m).pc.ResetOk (loopStep b env m).dev (loopStep b env m).log := by
        rcases next with next | next
        · exact Pc.resetOk_offDrain next
        · rw [next]
          trivial
      exact h.quiet news log_eq off same held runs reset
    · obtain ⟨d, pc, log⟩ := m
      cases pc with
      | drain pc => exact h.drainStep queued ok keeps.1
      | _ => exact absurd rfl other

theorem boot_following (b : Board) : Following (boot b) := by
  obtain ⟨caps, nAin, eq, _⟩ := boot_dev b
  have backlog : (boot b).backlog = [] := by
    unfold Machine.backlog UsbIoDevice.commands
    rw [eq]
    exact Lib.Ring.contents_self
  refine ⟨?_, ?_, ?_, trivial, ?_, ?_⟩
  · rw [eq]
    exact show ((0 : UInt8) - 0).toNat ≤ 0 by simp
  · rw [eq]
    rfl
  · unfold Machine.cancelled
    rw [backlog, List.take_nil]
    simp
  · intro p mode intended
    rw [eq] at intended
    contradiction
  · intro p v _ wish
    contradiction

/-- In every run in which no command overtakes a RESET, an idle device shows the
intended modes and levels on its pads. -/
theorem idle_pads_follow_requests (b : Board) (m : Machine)
    (reached : Lib.Reach (step b) (keepsResets b) (boot b) m) (idle : m.pc = .idle)
    (free : m.dev.busy = false) (p : Nat) (mode : PinMode) (intended : m.dev.mode p = some mode) :
    m.log.applied p = some mode ∧
    ∀ v, mode = .output → m.log.wished p = some v → m.log.driven p = some v := by
  have following : Following m :=
    reached.invariant_with (fun _ before => reach_queued before) (boot_following b)
      (fun _ _ known h keeps => step_following h known.2 known.1 keeps)
  obtain ⟨empty, served⟩ : m.dev.queuePending = 0 ∧ m.dev.resetDone = m.dev.resetRequests := by
    simpa [UsbIoDevice.busy] using free
  have calm : ¬ m.dev.resetPending := by simp [UsbIoDevice.resetPending, served]
  have fresh : m.fresh = [] := Machine.fresh_eq_nil empty (by simp [idle, Pc.held])
  constructor
  · have follows := following.mode p mode intended
    rwa [fresh, Machine.baseMode_applied (fun due => calm due.2)
      (by simp [Machine.runsCancelled, idle, Pc.executing])] at follows
  · rintro v rfl wish
    have follows := following.level p v intended wish
    rwa [fresh, Machine.baseLevel_driven calm] at follows

/-- A poll() that finds a RESET, a PIN_MODE and a DIO_WRITE waiting. -/
theorem idle_pads_follow_requests_one_poll :
    let m := run onePinBoard (boot onePinBoard)
      ([request .reset 0 0, request .pinMode 1 0, request .dioWrite 1 0] ++
        List.replicate 37 (.loop (stillEnv .sent)))
    m.log.applied 0 = some .output ∧
    ∀ v, PinMode.output = .output → m.log.wished 0 = some v → m.log.driven 0 = some v :=
  idle_pads_follow_requests onePinBoard _ (Lib.Follows.reach (by decide +kernel))
    (by decide +kernel) (by decide +kernel) 0 .output (by decide +kernel)

/-- The same RESET and PIN_MODE arriving once poll() has left its reset loop: the
PIN_MODE is executed first, and apply_reset() then takes it back. -/
theorem pinMode_overtakes_reset :
    ¬ ∀ (b : Board) (m : Machine),
      Lib.Reach (step b) (fun u act => (step b u act).log.resets < 256) (boot b) m →
      m.pc = .idle → m.dev.busy = false → ∀ p mode, m.dev.mode p = some mode →
      m.log.applied p = some mode ∧
      ∀ v, mode = .output → m.log.wished p = some v → m.log.driven p = some v := by
  intro claim
  have intended := claim onePinBoard
    (run onePinBoard (boot onePinBoard)
      (List.replicate 2 (.loop (stillEnv .sent)) ++
        [request .reset 0 0, request .pinMode 1 0] ++
        List.replicate 33 (.loop (stillEnv .sent))))
    (Lib.Follows.reach (by decide +kernel)) (by decide +kernel) (by decide +kernel)
    0 .output (by decide +kernel)
  revert intended
  decide +kernel

end ArduinoDriver
