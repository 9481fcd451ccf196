import ArduinoDriver.Firmware.EventRing
import ArduinoDriver.Firmware.Sampling

namespace ArduinoDriver

/-- Some number of poll()'s steps, whatever the core answers, lead from one state to
the other. -/
def Leads (b : Board) (m m' : Machine) : Prop :=
  ∃ count, ∀ envs first, run b m (polls envs first count) = m'

/-- poll() is executing, and not in a call that may change a pad. -/
def Pc.offPads : Pc → Bool
  | .idle | .drain (.resetApply _) | .drain (.execute _) => false
  | _ => true

variable {b : Board} {d : UsbIoDevice} {log : Log} {now : UInt32} {i : Nat} {m m₁ m' : Machine}

/-- The same, step by step, before poll() returns and off the calls that drive a pad. -/
inductive Proceeds (b : Board) : Machine → Machine → Prop
  | refl (m : Machine) : Proceeds b m m
  | step {m m₁ m' : Machine} (rest : Proceeds b m₁ m') (quiet : m.pc.offPads = true)
      (one : ∀ env, loopStep b env m = m₁) : Proceeds b m m'

theorem Proceeds.leads (h : Proceeds b m m') : Leads b m m' := by
  induction h with
  | refl m => exact ⟨0, fun _ _ => rfl⟩
  | step _ _ one ih =>
    obtain ⟨count, steps⟩ := ih
    refine ⟨count + 1, fun envs first => ?_⟩
    rw [run_polls_succ, one]
    exact steps envs (first + 1)

theorem Proceeds.trans (h : Proceeds b m m₁) (h' : Proceeds b m₁ m') : Proceeds b m m' := by
  induction h with
  | refl m => exact h'
  | step _ quiet one ih => exact (ih h').step quiet one

/-- A step of event_poll() that writes fields of its own. -/
theorem Proceeds.writes {pc next : EventPc} {e : EventState}
    (h : Proceeds b ⟨{ d with event := e }, .event next, log⟩ m')
    (one : ∀ env, eventStep env d pc = (e, some next, [])) : Proceeds b ⟨d, .event pc, log⟩ m' := by
  refine h.step rfl (fun env => ?_)
  simp only [loopStep, one]
  rfl

/-- A step of event_poll() that only reads. -/
theorem Proceeds.reads {pc next : EventPc} (h : Proceeds b ⟨d, .event next, log⟩ m')
    (one : ∀ env, eventStep env d pc = (d.event, some next, [])) :
    Proceeds b ⟨d, .event pc, log⟩ m' :=
  Proceeds.writes (e := d.event) h one

/-- push_event() with no request in between. -/
theorem push_steps (d : UsbIoDevice) (log : Log) (ev : UsbioEvent) :
    ∃ log', Proceeds b ⟨d, .event (.roomTest now i ev), log⟩
      ⟨{ d with event := d.event.push ev }, .event (.readActive now (i + 1)), log'⟩ := by
  unfold EventState.push
  by_cases full : d.event.full
  · rw [if_pos full]
    have roomTest : ∀ env, loopStep b env ⟨d, .event (.roomTest now i ev), log⟩ =
        ⟨d, .event (.dropTest now i), .edge ev false :: log⟩ := by
      intro env
      simp only [loopStep, eventStep, if_pos full]
      rfl
    by_cases more : d.event.dropped < 0xFF
    · rw [if_pos more]
      have dropTest : ∀ env, eventStep env d (.dropTest now i) = (d.event, some (.dropLoad now i), []) := by
        intro env
        simp only [eventStep, if_pos more]
      have dropStore : Proceeds b ⟨d, .event (.dropStore now i d.event.dropped), .edge ev false :: log⟩ _ :=
        Proceeds.writes (.refl _) (fun _ => rfl)
      exact ⟨_, ((dropStore.reads (fun _ => rfl)).reads dropTest).step rfl roomTest⟩
    · rw [if_neg more]
      have dropTest : ∀ env, eventStep env d (.dropTest now i) =
          (d.event, some (.readActive now (i + 1)), []) := by
        intro env
        simp only [eventStep, if_neg more]
      exact ⟨_, ((Proceeds.refl _).reads dropTest).step rfl roomTest⟩
  · rw [if_neg full]
    have roomTest : ∀ env, eventStep env d (.roomTest now i ev) =
        (d.event, some (.fillSlot now i ev), []) := by
      intro env
      simp only [eventStep, if_neg full]
    have bumpHead : ∀ env, loopStep b env
        ⟨{ d with event := d.event.fill ev }, .event (.bumpHead now i ev), log⟩ =
        ⟨{ d with event := { d.event.fill ev with head := d.event.head + 1 } },
          .event (.readActive now (i + 1)), .edge ev true :: log⟩ := fun _ => rfl
    exact ⟨_, (((Proceeds.refl _).step rfl bumpHead).writes (fun _ => rfl)).reads roomTest⟩

theorem edgeMatches_iff {mode : EdgeMode} {rising : Bool} :
    edgeMatches mode rising = true ↔ mode = .change ∨ mode = edgeOf rising := by
  unfold edgeMatches edgeOf
  cases rising <;> simp

/-- A slot once it has counted an edge. -/
def EventWatch.counting (w : EventWatch) (now : UInt32) : EventWatch :=
  { w with count := w.count + 1, debounceUntil := now + w.debounceMs.toUInt32 }

/-- What a changed level does to the slot and the ring. -/
def EventState.report (e : EventState) (i pin : Nat) (rising : Bool) (now : UInt32) : EventState :=
  if !edgeMatches (e.watch i).edgeMode rising || before now (e.watch i).debounceUntil then e
  else (e.setWatch i ((e.watch i).counting now)).push
    ⟨pin, edgeOf rising, (e.watch i).count + 1, now⟩

/-- The rest of a slot's scan once its level has changed. -/
theorem change_steps (d : UsbIoDevice) (log : Log) (pin : Nat) (rising : Bool) :
    ∃ log', Proceeds b ⟨d, .event (.changeTest now i pin rising), log⟩
      ⟨{ d with event := d.event.report i pin rising now },
        .event (.readActive now (i + 1)), log'⟩ := by
  unfold EventState.report
  generalize slot : d.event.watch i = w
  by_cases fits : edgeMatches w.edgeMode rising
  · -- both tests of the mode end at the debounce test
    have arrives : ∀ {m'}, Proceeds b ⟨d, .event (.debounceTest now i pin rising), log⟩ m' →
        Proceeds b ⟨d, .event (.changeTest now i pin rising), log⟩ m' := by
      intro m' h
      by_cases change : w.edgeMode = .change
      · refine h.reads (fun env => ?_)
        simp only [eventStep, slot, if_pos change]
      · have direction := (edgeMatches_iff.mp fits).resolve_left change
        have directionTest : Proceeds b ⟨d, .event (.directionTest now i pin rising), log⟩ m' := by
          refine h.reads (fun env => ?_)
          simp only [eventStep, slot, if_pos direction]
        refine directionTest.reads (fun env => ?_)
        simp only [eventStep, slot, if_neg change]
    by_cases early : before now w.debounceUntil
    · rw [if_pos (by rw [early, Bool.or_true])]
      refine ⟨log, arrives ((Proceeds.refl _).reads (fun env => ?_))⟩
      simp only [eventStep, slot, if_pos early]
    · rw [if_neg (by simp [fits, early])]
      obtain ⟨log', pushed⟩ := @push_steps b now i
        { d with event := d.event.setWatch i (w.counting now) } log
        ⟨pin, edgeOf rising, w.count + 1, now⟩
      have openWindow : Proceeds b ⟨{ d with event := d.event.setWatch i { w with count := w.count + 1 } },
          .event (.openWindow now i pin rising), log⟩ _ :=
        Proceeds.writes pushed (fun env => by
          simp only [eventStep, setWatch_watch, setWatch_setWatch]
          rfl)
      have bumpCount : Proceeds b ⟨d, .event (.bumpCount now i pin rising), log⟩ _ :=
        Proceeds.writes openWindow (fun env => by simp only [eventStep, slot])
      refine ⟨log', arrives (bumpCount.reads (fun env => ?_))⟩
      simp only [eventStep, slot, if_neg early]
  · rw [if_pos (by simp [fits])]
    have other : ¬ (w.edgeMode = .change ∨ w.edgeMode = edgeOf rising) := fun or =>
      fits (edgeMatches_iff.mpr or)
    have directionTest : Proceeds b ⟨d, .event (.directionTest now i pin rising), log⟩
        ⟨d, .event (.readActive now (i + 1)), log⟩ := by
      refine (Proceeds.refl _).reads (fun env => ?_)
      simp only [eventStep, slot, if_neg (fun direction => other (.inr direction))]
    refine ⟨log, directionTest.reads (fun env => ?_)⟩
    simp only [eventStep, slot, if_neg (fun change => other (.inl change))]

/-- One slot of event_poll() with no request in between. -/
theorem scan_steps (inside : i < maxEventPins) (d : UsbIoDevice) (log : Log) :
    ∃ log', Proceeds b ⟨d, .event (.readActive now i), log⟩
      ⟨{ d with event := scanWatch d.dio now d.event i }, .event (.readActive now (i + 1)), log'⟩ := by
  unfold scanWatch
  generalize slot : d.event.watch i = w
  dsimp only
  by_cases off : w.active = false
  · rw [if_pos (by rw [off]; rfl)]
    refine ⟨log, (Proceeds.refl _).reads (fun env => ?_)⟩
    simp only [eventStep, if_pos inside, slot, off, Bool.false_eq_true, if_false]
  · have on : w.active = true := by simpa using off
    rw [if_neg (by rw [on]; decide)]
    -- the slot's pin is read before anything else
    have arrives : ∀ {m'}, Proceeds b ⟨d, .event (.seqTest now i w.pin), log⟩ m' →
        Proceeds b ⟨d, .event (.readActive now i), log⟩ m' := by
      intro m' h
      have readPin : Proceeds b ⟨d, .event (.readPin now i), log⟩ m' := by
        refine h.reads (fun env => ?_)
        simp only [eventStep, slot]
      refine readPin.reads (fun env => ?_)
      simp only [eventStep, if_pos inside, slot, on, if_true]
    by_cases fresh : w.seenSeq ≠ w.armSeq
    · rw [if_pos fresh]
      have takeBaseline : Proceeds b
          ⟨{ d with event := d.event.setWatch i { w with seenSeq := w.armSeq } },
            .event (.takeBaseline now i w.pin), log⟩
          ⟨{ d with event := d.event.setWatch i (w.baseline (d.dio w.pin) now) },
            .event (.readActive now (i + 1)), log⟩ :=
        Proceeds.writes (.refl _) (fun env => by
          simp only [eventStep, setWatch_watch, setWatch_setWatch]
          rfl)
      have takeSeq : Proceeds b ⟨d, .event (.takeSeq now i w.pin), log⟩ _ :=
        Proceeds.writes takeBaseline (fun env => by simp only [eventStep, slot])
      refine ⟨log, arrives (takeSeq.reads (fun env => ?_))⟩
      simp only [eventStep, slot, if_pos fresh]
    · rw [if_neg fresh]
      have seqTest : ∀ {m'}, Proceeds b ⟨d, .event (.compareLevel now i w.pin), log⟩ m' →
          Proceeds b ⟨d, .event (.readActive now i), log⟩ m' := by
        intro m' h
        refine arrives (h.reads (fun env => ?_))
        simp only [eventStep, slot, if_neg fresh]
      by_cases same : d.dio w.pin = w.prevLevel
      · rw [if_pos same]
        refine ⟨log, seqTest ((Proceeds.refl _).reads (fun env => ?_))⟩
        simp only [eventStep, slot, if_pos same]
      · rw [if_neg same]
        let d' := { d with event := d.event.setWatch i { w with prevLevel := d.dio w.pin } }
        obtain ⟨log', changed⟩ := @change_steps b now i d' log w.pin (d.dio w.pin)
        have compareLevel : Proceeds b ⟨d, .event (.compareLevel now i w.pin), log⟩ _ :=
          Proceeds.writes changed (fun env => by
            simp only [eventStep, slot, if_neg same])
        have arrived := seqTest compareLevel
        unfold EventState.report at arrived
        simp only [d', setWatch_watch, setWatch_setWatch, EventWatch.counting] at arrived
        exact ⟨log', arrived⟩

/-- The slots from `i` on, up to the end of event_poll(). -/
theorem slots_steps (left i : Nat) (rest : i + left = maxEventPins) (d : UsbIoDevice) (log : Log) :
    ∃ log', Proceeds b ⟨d, .event (.readActive now i), log⟩
      ⟨{ d with event := (List.range' i left).foldl (scanWatch d.dio now) d.event },
        afterEvent b, log'⟩ := by
  induction left generalizing i d log with
  | zero =>
    have last : ¬ i < maxEventPins := by omega
    refine ⟨returnLog (afterEvent b) ++ [] ++ log, (Proceeds.refl _).step rfl (fun env => ?_)⟩
    simp only [loopStep, eventStep, if_neg last]
    rfl
  | succ left ih =>
    obtain ⟨log₁, first⟩ := @scan_steps b now i (by omega) d log
    obtain ⟨log', others⟩ := ih (i + 1) (by omega)
      { d with event := scanWatch d.dio now d.event i } log₁
    exact ⟨log', first.trans others⟩

/-- event_poll() with no request in between. -/
theorem event_steps (b : Board) (d : UsbIoDevice) (log : Log) (envs : Nat → Env) :
    ∃ count log', run b ⟨d, .event .readClock, log⟩ (polls envs 0 count) =
      ⟨{ d with event := eventPoll d (envs 0).millis }, afterEvent b, log'⟩ := by
  unfold eventPoll
  by_cases none_yet : d.nPins = 0
  · refine ⟨1, returnLog (afterEvent b) ++ [] ++ log, ?_⟩
    rw [run_polls_succ]
    simp only [loopStep, eventStep, if_pos none_yet]
    rfl
  · obtain ⟨log', slots⟩ := @slots_steps b (envs 0).millis maxEventPins 0 (Nat.zero_add _) d log
    obtain ⟨count, steps⟩ := slots.leads
    refine ⟨count + 1, log', ?_⟩
    rw [run_polls_succ]
    simp only [loopStep, eventStep, if_neg none_yet, List.range_eq_range']
    exact steps envs (0 + 1)

end ArduinoDriver
