import ArduinoDriver.Firmware.StreamSession
import ArduinoDriver.Lib.History
import ArduinoDriver.Lib.Schedule

namespace ArduinoDriver

open Lib (Schedule.after Schedule.samples)

/-- A step taken at the true time of its first component, in microseconds. -/
abbrev TimedAct : Type := Nat × Act

def timedStep (b : Board) (m : Machine) (a : TimedAct) : Machine := step b m a.2

/-- The times at which stream_poll() compared micros() with its deadline, and those of them
from which it went on to stream_sample(), oldest first. -/
structure Timetable where
  polls : List Nat
  samples : List Nat

def Timetable.empty : Timetable := ⟨[], []⟩

/-- The latest poll, or the start of the stream. -/
def Timetable.latest (start : Nat) (g : Timetable) : Nat := g.polls.getLastD start

/-- The polls along a run. -/
def timetable (b : Board) (m : Machine) (a : TimedAct) (g : Timetable) : Timetable :=
  match a.2, m.pc with
  | .loop env, .stream .dueTest =>
    { polls := g.polls ++ [a.1]
      samples := if (loopStep b env m).pc = .stream (.sampleHeader env.micros)
        then g.samples ++ [a.1] else g.samples }
  | _, _ => g

/-- micros() is the true time modulo 2^32 when stream_poll() reads it for the comparison, and
less than 2^31 - 65536 after the time before. -/
def keepsTime (start : Nat) (r : Machine × Timetable) : TimedAct → Prop
  | (t, .loop env) => r.1.pc = .stream .dueTest →
    env.micros = UInt32.ofNat t ∧ r.2.latest start ≤ t ∧ t - r.2.latest start < 2 ^ 31 - 65536
  | _ => True

/-- A step of a stream that stays running. -/
def runsOn (b : Board) (start : Nat) (r : Machine × Timetable) (a : TimedAct) : Prop :=
  (timedStep b r.1 a).dev.stream.running = true ∧ keepsTime start r a

instance (start : Nat) (r : Machine × Timetable) : (a : TimedAct) → Decidable (keepsTime start r a)
  | (t, .loop env) => inferInstanceAs (Decidable (r.1.pc = .stream .dueTest →
      env.micros = UInt32.ofNat t ∧ r.2.latest start ≤ t ∧ t - r.2.latest start < 2 ^ 31 - 65536))
  | (_, .setup ..) | (_, .disconnect) => inferInstanceAs (Decidable True)

instance (b : Board) (start : Nat) (r : Machine × Timetable) (a : TimedAct) :
    Decidable (runsOn b start r a) :=
  inferInstanceAs (Decidable (_ ∧ _))

/-- The deadline of the record being taken, found passed at `now`, has not been moved. -/
def Timetable.Taking (g : Timetable) (start period : Nat) (deadlineUs now : UInt32) : Prop :=
  ∃ polls t, g.polls = polls ++ [t] ∧ now = UInt32.ofNat t ∧
    deadlineUs = UInt32.ofNat (Schedule.after period start polls) ∧
    Schedule.after period start polls ≤ t ∧ t < Schedule.after period start polls + 2 ^ 31

/-- The deadline is that of the schedule, and at most a period after the latest poll. -/
structure Timetable.Waiting (g : Timetable) (start period : Nat) (deadlineUs : UInt32) : Prop where
  word : deadlineUs = UInt32.ofNat (Schedule.after period start g.polls)
  ahead : g.latest start ≤ Schedule.after period start g.polls
  near : Schedule.after period start g.polls ≤ g.latest start + period

/-- The deadline at a point of stream_poll(). -/
def StreamPc.OnTime (g : Timetable) (start : Nat) (period : UInt16) (deadlineUs : UInt32) :
    StreamPc → Prop
  | .startDone | .startReset => False
  | .sampleHeader now | .channelTest now _ _ | .channelRead now _ _ | .digitalTest now _
  | .bitmapPin now _ _ _ | .bumpSeq now _ | .roomTest now _ | .bumpOverruns now | .stopFlagTest now
  | .stopRunning now | .pushRecord now _ | .periodTest now | .advance now =>
    g.Taking start period.toNat deadlineUs now
  | .catchUp now =>
    ∃ deadline, deadlineUs = deadline + period.toUInt32 ∧ g.Taking start period.toNat deadline now
  | _ => g.Waiting start period.toNat deadlineUs

def Pc.OnTime (g : Timetable) (start : Nat) (period : UInt16) (deadlineUs : UInt32) : Pc → Prop
  | .stream pc => pc.OnTime g start period deadlineUs
  | _ => g.Waiting start period.toNat deadlineUs

/-- What holds while the stream runs. -/
structure OnSchedule (start : Nat) (period : UInt16) (m : Machine) (g : Timetable) : Prop where
  running : m.dev.stream.running = true
  periodUs : m.dev.stream.periodUs = period
  seen : m.dev.stream.startDone = m.dev.stream.startRequests
  samples : g.samples = Schedule.samples period.toNat start g.polls
  place : m.pc.OnTime g start period m.dev.stream.deadlineUs

variable {b : Board} {env : Env} {d d' : UsbIoDevice} {o : Obs} {m : Machine} {g : Timetable} {log : Log}
  {start t : Nat} {period : UInt16} {pc : StreamPc} {deadlineUs now : UInt32} {r : Machine × Timetable}

theorem Timetable.latest_append (g : Timetable) (start t : Nat) (samples : List Nat) :
    Timetable.latest start ⟨g.polls ++ [t], samples⟩ = t := by
  unfold Timetable.latest
  rw [List.getLastD_concat]

/-- A poll before the deadline leaves it. -/
theorem Timetable.Waiting.early (h : g.Waiting start period.toNat deadlineUs)
    (early : t < Schedule.after period.toNat start g.polls) (later : g.latest start ≤ t)
    (samples : List Nat) :
    Timetable.Waiting ⟨g.polls ++ [t], samples⟩ start period.toNat deadlineUs := by
  have same : Schedule.after period.toNat start (g.polls ++ [t]) =
      Schedule.after period.toNat start g.polls := by
    rw [Lib.Schedule.after_append, Lib.Schedule.next_early early]
  refine ⟨?_, ?_, ?_⟩
  · rw [same]
    exact h.word
  · rw [same, g.latest_append]
    exact early.le
  · rw [same, g.latest_append]
    have := h.near
    omega

/-- The deadline of a poll is compared as the true times are. -/
theorem Timetable.Waiting.before_iff (h : g.Waiting start period.toNat deadlineUs)
    (later : g.latest start ≤ t) (gap : t - g.latest start < 2 ^ 31 - 65536) :
    before (UInt32.ofNat t) deadlineUs = true ↔ t < Schedule.after period.toNat start g.polls := by
  have small := period.toNat_lt
  have ahead := h.ahead
  have near := h.near
  rw [h.word]
  exact before_ofNat (by omega) (by omega)

theorem ofNat_add (n : Nat) (period : UInt16) :
    UInt32.ofNat n + period.toUInt32 = UInt32.ofNat (n + period.toNat) := by
  apply UInt32.toNat_inj.mp
  simp only [UInt32.toNat_add, UInt32.toNat_ofNat', UInt16.toNat_toUInt32]
  omega

/-- The deadline after a record. -/
theorem Timetable.Taking.caughtUp (positive : 0 < period.toNat)
    (h : g.Taking start period.toNat deadlineUs now) :
    g.Waiting start period.toNat (if before now (deadlineUs + period.toUInt32) then
      deadlineUs + period.toUInt32 else now + period.toUInt32) := by
  obtain ⟨polls, t, all, rfl, rfl, due, near⟩ := h
  have small := period.toNat_lt
  have compared : before (UInt32.ofNat t)
      (UInt32.ofNat (Schedule.after period.toNat start polls + period.toNat)) = true ↔
      t < Schedule.after period.toNat start polls + period.toNat :=
    before_ofNat (by omega) (by omega)
  have moved : Schedule.after period.toNat start g.polls =
      if t < Schedule.after period.toNat start polls + period.toNat then
        Schedule.after period.toNat start polls + period.toNat else t + period.toNat := by
    rw [all, Lib.Schedule.after_append, Lib.Schedule.next, if_neg (Nat.not_lt.mpr due)]
  have latest : g.latest start = t := by
    unfold Timetable.latest
    rw [all, List.getLastD_concat]
  rw [ofNat_add, ofNat_add]
  by_cases ahead : t < Schedule.after period.toNat start polls + period.toNat
  · rw [if_pos (compared.mpr ahead)]
    rw [if_pos ahead] at moved
    refine ⟨by rw [moved], ?_, ?_⟩ <;> rw [moved, latest] <;> omega
  · rw [if_neg (fun early => ahead (compared.mp early))]
    rw [if_neg ahead] at moved
    refine ⟨by rw [moved], ?_, ?_⟩ <;> rw [moved, latest]
    · omega

/-- What the requests leave as it is while the stream runs. -/
theorem Served.schedule (served : Served b env d d' o) (running : d.stream.running = true) :
    d'.stream.deadlineUs = d.stream.deadlineUs ∧ d'.stream.periodUs = d.stream.periodUs ∧
      d'.stream.startDone = d.stream.startDone ∧ d'.stream.startRequests = d.stream.startRequests := by
  cases served with
  | started index value idle =>
    rw [running] at idle
    contradiction
  | moded index value mode =>
    unfold recordMode
    dsimp only
    split <;> exact ⟨rfl, rfl, rfl, rfl⟩
  | _ => exact ⟨rfl, rfl, rfl, rfl⟩

/-- A step that the timetable does not note. -/
theorem OnSchedule.keeps {m' : Machine} (h : OnSchedule start period m g)
    (running : m'.dev.stream.running = true) (periodUs : m'.dev.stream.periodUs = m.dev.stream.periodUs)
    (done : m'.dev.stream.startDone = m.dev.stream.startDone)
    (requests : m'.dev.stream.startRequests = m.dev.stream.startRequests)
    (place : m'.pc.OnTime g start period m'.dev.stream.deadlineUs) : OnSchedule start period m' g :=
  ⟨running, periodUs.trans h.periodUs, done.trans (h.seen.trans requests.symm), h.samples, place⟩

theorem dueTest_onSchedule (positive : 0 < period.toNat)
    (h : OnSchedule start period ⟨d, .stream .dueTest, log⟩ g)
    (clock : env.micros = UInt32.ofNat t) (later : g.latest start ≤ t)
    (gap : t - g.latest start < 2 ^ 31 - 65536) :
    OnSchedule start period (loopStep b env ⟨d, .stream .dueTest, log⟩)
      (timetable b ⟨d, .stream .dueTest, log⟩ (t, .loop env) g) := by
  have waiting : g.Waiting start period.toNat d.stream.deadlineUs := h.place
  have some_ : ¬ d.stream.periodUs = 0 := by
    rw [h.periodUs]
    rintro rfl
    exact Nat.lt_irrefl 0 positive
  have compared := waiting.before_iff later gap
  rw [← clock] at compared
  by_cases early : t < Schedule.after period.toNat start g.polls
  · have stepped : loopStep b env ⟨d, .stream .dueTest, log⟩ = ⟨d, .stream .packRecord, log⟩ := by
      simp [loopStep, streamStep, some_, compared.mpr early, returnLog]
    have noted : timetable b ⟨d, .stream .dueTest, log⟩ (t, .loop env) g =
        ⟨g.polls ++ [t], g.samples⟩ := by
      simp [timetable, stepped]
    rw [stepped, noted]
    refine ⟨h.running, h.periodUs, h.seen, ?_, waiting.early early later g.samples⟩
    rw [Lib.Schedule.samples_append, if_pos early, List.append_nil]
    exact h.samples
  · have past : before env.micros d.stream.deadlineUs = false :=
      Bool.eq_false_iff.mpr (fun before_ => early (compared.mp before_))
    have stepped : loopStep b env ⟨d, .stream .dueTest, log⟩ =
        ⟨d, .stream (.sampleHeader env.micros), log⟩ := by
      simp [loopStep, streamStep, past, returnLog]
    have noted : timetable b ⟨d, .stream .dueTest, log⟩ (t, .loop env) g =
        ⟨g.polls ++ [t], g.samples ++ [t]⟩ := by
      simp [timetable, stepped]
    rw [stepped, noted]
    have ahead := waiting.ahead
    refine ⟨h.running, h.periodUs, h.seen, ?_, g.polls, t, rfl, clock, waiting.word,
      Nat.le_of_not_lt early, by omega⟩
    rw [Lib.Schedule.samples_append, if_neg early]
    exact congrArg (· ++ [t]) h.samples

/-- The other steps of stream_poll(). -/
theorem streamStep_onSchedule (positive : 0 < period.toNat) (away : pc ≠ .dueTest)
    (h : OnSchedule start period ⟨d, .stream pc, log⟩ g)
    (running : (loopStep b env ⟨d, .stream pc, log⟩).dev.stream.running = true) :
    OnSchedule start period (loopStep b env ⟨d, .stream pc, log⟩) g := by
  have place : pc.OnTime g start period d.stream.deadlineUs := h.place
  have some_ : ¬ d.stream.periodUs = 0 := by
    rw [h.periodUs]
    rintro rfl
    exact Nat.lt_irrefl 0 positive
  cases pc with
  | dueTest => exact absurd rfl away
  | startDone | startReset => exact place.elim
  | startTest =>
    have seen : d.stream.startDone = d.stream.startRequests := h.seen
    have stepped : (loopStep b env ⟨d, .stream .startTest, log⟩).pc = .stream .runTest := by
      simp [loopStep, streamStep, seen]
    refine h.keeps running rfl rfl rfl ?_
    rw [stepped]
    exact place
  | runTest | roomTest | stopFlagTest | channelTest | digitalTest | bitmapPin =>
    refine h.keeps running rfl rfl rfl ?_
    simp only [loopStep, streamStep, Option.map_some, Option.getD_some]
    split <;> exact place
  | periodTest now =>
    refine h.keeps running rfl rfl rfl ?_
    simp only [loopStep, streamStep, Option.map_some, Option.getD_some]
    rw [if_pos some_]
    exact place
  | advance now =>
    refine h.keeps running rfl rfl rfl ⟨d.stream.deadlineUs, ?_, place⟩
    change d.stream.deadlineUs + d.stream.periodUs.toUInt32 = _
    rw [h.periodUs]
  | catchUp now =>
    obtain ⟨deadline, word, taking⟩ := place
    have caughtUp := taking.caughtUp positive
    rw [← word, ← h.periodUs] at caughtUp
    refine ⟨running, ?_, ?_, h.samples, ?_⟩
    · simp only [loopStep, streamStep]
      split <;> exact h.periodUs
    · simp only [loopStep, streamStep]
      split <;> exact h.seen
    · simp only [loopStep, streamStep, Option.map_some, Option.getD_some]
      rw [h.periodUs] at caughtUp
      split <;> rename_i compared
      · rw [if_pos compared] at caughtUp
        exact caughtUp
      · rw [if_neg compared] at caughtUp
        change g.Waiting start period.toNat (now + d.stream.periodUs.toUInt32)
        rw [h.periodUs]
        exact caughtUp
  | packRecord | flushTest =>
    simp only [loopStep, streamStep] at running ⊢
    repeat' split
    all_goals exact h.keeps h.running rfl rfl rfl place
  | writeResult packet =>
    simp only [loopStep, streamStep] at running ⊢
    cases env.streamWrite with
    | busy | sent => exact h.keeps h.running rfl rfl rfl place
    | failed =>
      dsimp only
      split <;> exact h.keeps h.running rfl rfl rfl place
  | _ => exact h.keeps running rfl rfl rfl place

theorem Pc.onTime_offStream {pc : Pc} {deadlineUs : UInt32} (off : pc.offStream) :
    pc.OnTime g start period deadlineUs ↔ g.Waiting start period.toNat deadlineUs := by
  cases pc with
  | stream pc => contradiction
  | _ => exact Iff.rfl

theorem timetable_offStream {t : Nat} (off : m.pc.offStream) : timetable b m (t, .loop env) g = g := by
  obtain ⟨d, pc, log⟩ := m
  cases pc with
  | stream pc => contradiction
  | _ => rfl

theorem step_onSchedule (positive : 0 < period.toNat) {a : TimedAct} (h : OnSchedule start period m g)
    (on : runsOn b start (m, g) a) : OnSchedule start period (timedStep b m a) (timetable b m a g) := by
  obtain ⟨t, act⟩ := a
  obtain ⟨running, clock⟩ := on
  cases act with
  | setup env s =>
    obtain ⟨deadline, periodUs, done, requests⟩ := (handleSetup_served b env m.dev s).schedule h.running
    refine h.keeps running periodUs done requests ?_
    change m.pc.OnTime g start period (handleSetup b env m.dev s).1.stream.deadlineUs
    rw [deadline]
    exact h.place
  | disconnect => exact h.keeps running rfl rfl rfl h.place
  | loop env =>
    by_cases other : m.pc.offStream
    · have stream := (loopStep_offStream b env m other).1
      have waiting := (Pc.onTime_offStream other).mp h.place
      rw [timetable_offStream other]
      change OnSchedule start period (loopStep b env m) g
      refine h.keeps running (by rw [stream]) (by rw [stream]) (by rw [stream]) ?_
      rw [stream]
      exact loopStep_enters other (fun _ off => (Pc.onTime_offStream off).mpr waiting) waiting
    · obtain ⟨d, pc, log⟩ := m
      cases pc with
      | stream pc =>
        by_cases test : pc = .dueTest
        · subst test
          obtain ⟨word, later, gap⟩ := clock rfl
          exact dueTest_onSchedule positive h word later gap
        · have kept : timetable b ⟨d, .stream pc, log⟩ (t, .loop env) g = g := by
            cases pc with
            | dueTest => exact absurd rfl test
            | _ => rfl
          rw [kept]
          exact streamStep_onSchedule positive test h running
      | _ => exact absurd rfl other

theorem startReset_onSchedule (resets : m.pc = .stream .startReset)
    (latest : m.dev.stream.startDone = m.dev.stream.startRequests)
    (running : m.dev.stream.running = true) (clock : env.micros = UInt32.ofNat start) :
    OnSchedule start m.dev.stream.periodUs (loopStep b env m) .empty := by
  obtain ⟨d, pc, log⟩ := m
  obtain rfl : pc = .stream .startReset := resets
  refine ⟨running, rfl, latest, rfl, ?_⟩
  change Timetable.Waiting .empty start _ env.micros
  exact ⟨clock, Nat.le_refl _, Nat.le_add_right _ _⟩

/-- The sampling contract of a stream with this period that has been running since `start`. -/
structure KeepsSchedule (period start : Nat) (r : Machine × Timetable) : Prop where
  /-- A poll samples exactly when its deadline is not after it. -/
  samples : r.2.samples = Schedule.samples period start r.2.polls
  deadline : r.1.pc = .idle →
    r.1.dev.stream.deadlineUs = UInt32.ofNat (Schedule.after period start r.2.polls)
  /-- With a record the deadline moves past it, by a period at most, and on by one at least. -/
  moved : ∀ polls t later, r.2.polls = polls ++ t :: later → Schedule.after period start polls ≤ t →
    t < Schedule.after period start (polls ++ [t]) ∧
      Schedule.after period start (polls ++ [t]) ≤ t + period ∧
      Schedule.after period start polls + period ≤ Schedule.after period start (polls ++ [t])
  /-- A closed window holds fewer than width / period + 2 records. -/
  window : ∀ first width, r.2.samples.countP (fun s => decide (first ≤ s ∧ s ≤ first + width)) * period <
    width + 2 * period
  apart : ∀ gap, (r.2.polls.IsChain fun u v => v ≤ u + gap) →
    r.2.samples.IsChain fun s s' => s' < s + period + gap

/-- From the reset that stream_poll() does for the last START, as long as the stream runs. -/
theorem sampling_keeps_schedule (b : Board) (env : Env) (m : Machine) (start : Nat)
    (resets : m.pc = .stream .startReset)
    (latest : m.dev.stream.startDone = m.dev.stream.startRequests)
    (running : m.dev.stream.running = true) (paced : m.dev.stream.periodUs ≠ 0)
    (clock : env.micros = UInt32.ofNat start) (r : Machine × Timetable)
    (reached : Lib.Reach (Lib.recording (timedStep b) (timetable b)) (runsOn b start)
      (loopStep b env m, .empty) r) :
    KeepsSchedule m.dev.stream.periodUs.toNat start r := by
  have positive : 0 < m.dev.stream.periodUs.toNat :=
    Nat.pos_of_ne_zero (fun none_ => paced (UInt16.toNat_inj.mp none_))
  have begun := @startReset_onSchedule b env m start resets latest running clock
  have on : OnSchedule start m.dev.stream.periodUs r.1 r.2 := by
    refine reached.invariant (I := fun r => OnSchedule start m.dev.stream.periodUs r.1 r.2) begun ?_
    rintro ⟨m, g⟩ a h allowed
    exact step_onSchedule positive h allowed
  refine ⟨on.samples, fun idle => ?_, fun polls t later all due => ?_, fun first width => ?_,
    fun gap gaps => ?_⟩
  · have place := on.place
    rw [idle] at place
    exact place.word
  · rw [Lib.Schedule.after_append]
    exact Lib.Schedule.next_due positive due
  · rw [on.samples]
    exact Lib.Schedule.window_lt positive first width
  · rw [on.samples]
    exact Lib.Schedule.samples_apart positive gaps

/-- The reset for a stream of one pin, 5 us a period. -/
def pacedReset : Machine :=
  run onePinBoard (boot onePinBoard)
    (selected ++ [request .streamStart 5 0] ++ List.replicate 26 (.loop (stillEnv .sent)))

/-- A step of poll() at a true time. -/
def tick (t : Nat) : TimedAct := (t, .loop { stillEnv .sent with micros := UInt32.ofNat t })

/-- A step every microsecond, from just before micros() wraps. -/
def ticks : List TimedAct := (List.range 100).map (fun i => tick (2 ^ 32 - 3 + i))

theorem sampling_keeps_schedule_wrapped :
    KeepsSchedule 5 (2 ^ 32 - 3) (ticks.foldl (Lib.recording (timedStep onePinBoard) (timetable onePinBoard))
      (loopStep onePinBoard { stillEnv .sent with micros := UInt32.ofNat (2 ^ 32 - 3) } pacedReset, .empty)) :=
  sampling_keeps_schedule onePinBoard _ pacedReset (2 ^ 32 - 3) (by decide +kernel) (by decide +kernel)
    (by decide +kernel) (by decide +kernel) rfl _ (Lib.Follows.reach (by decide +kernel))

end ArduinoDriver
