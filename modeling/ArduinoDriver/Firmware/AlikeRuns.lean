import ArduinoDriver.Firmware.AlikeStreams
import ArduinoDriver.Firmware.AlikeWatches
import ArduinoDriver.Firmware.BulkWriter

namespace ArduinoDriver

/-- The position, less that inside push_event() and, where no stream is live, that in stream_poll(). -/
def Pc.settled (live : Bool) : Pc → Pc
  | .event pc => .event pc.settled
  | .stream pc => if live then .stream pc else .idle
  | pc => pc

/-- The slot of the watch table that poll() is scanning. -/
def Pc.scan (pc : Pc) : Option (Nat × ScanStage) := pc.event?.bind EventPc.scan

/-- The streams go on alike. -/
def SameStream (m m' : Machine) : Prop :=
  Copies m.pc.reads m.dev.stream m'.dev.stream ∧ m'.pc.settled true = m.pc.settled true

/-- No record has been produced in either since the connection was lost, or the streams go on alike. -/
inductive StreamsAlike (m m' : Machine) : Prop where
  | pristine (here : Pristine m.dev.stream m.pc) (there : Pristine m'.dev.stream m'.pc)
      (settings : SameSettings m.dev.stream m'.dev.stream)
      (started : m.dev.stream.running = true →
        m'.dev.stream.flags = m.dev.stream.flags ∧ m'.dev.stream.periodUs = m.dev.stream.periodUs)
      (place : m'.pc.settled m.dev.stream.running = m.pc.settled m.dev.stream.running)
  | live (same : SameStream m m')

/-- Two runs that the replies for events and the stream do not tell apart. -/
structure Alike (δ : UInt8) (m m' : Machine) : Prop where
  rest : SameRest m.dev m'.dev
  watches : WatchesAlike δ m.pc.scan m.dev.event m'.dev.event
  streams : StreamsAlike m m'

/-- What stream_write() of the one transport that calls handle_usb_disconnected() returns. -/
def Env.Returned (env : Env) : Prop := ∃ w : BulkWriter, w.advance.2 = some env.streamWrite

variable {b : Board} {env : Env} {d : UsbIoDevice} {m m' n n' : Machine} {δ : UInt8} {pc pc' : Pc}
  {live : Bool} {s s' : StreamState} {packet : SetupPacket}

theorem BulkWriter.never_failed (w : BulkWriter) : w.advance.2 ≠ some .failed := by
  unfold BulkWriter.advance
  cases w.pc with
  | flagTest data | writeStart data =>
    dsimp only
    split <;> simp
  | _ => simp

/-- It is never FAILED. -/
theorem Env.returned_iff : env.Returned ↔ env.streamWrite ≠ .failed := by
  constructor
  · intro ⟨w, returned⟩ failed
    exact w.never_failed (returned.trans (congrArg some failed))
  · intro accepted
    cases written : env.streamWrite with
    | sent =>
      refine ⟨{ BulkWriter.init 0 with configured := true, pc := .writeStart [] }, ?_⟩
      rw [written]
      rfl
    | busy =>
      refine ⟨{ BulkWriter.init 0 with pc := .lowerFlag [] }, ?_⟩
      rw [written]
      rfl
    | failed => exact absurd written accepted

instance (env : Env) : Decidable env.Returned := decidable_of_iff _ Env.returned_iff.symm

theorem Pc.scan_of_settled (same : pc'.settled live = pc.settled live) : pc'.scan = pc.scan := by
  have own : ∀ pc : Pc, (pc.settled live).scan = pc.scan := by
    intro pc
    cases pc with
    | event pc =>
      have twice : pc.settled.settled = pc.settled := by cases pc <;> rfl
      exact settled_scan twice
    | stream pc => cases live <;> rfl
    | _ => rfl
  rw [← own, same, own]

/-- What the stream has to do with the position. -/
theorem Pc.settled_stream (same : pc'.settled true = pc.settled true) :
    pc'.reads = pc.reads ∧ (Pristine s pc → Pristine s pc') := by
  cases pc with
  | stream pc =>
    obtain rfl : pc' = .stream pc := by
      cases pc' <;> first | contradiction | exact same
    exact ⟨rfl, id⟩
  | _ =>
    cases pc' with
    | stream pc' => contradiction
    | _ => exact ⟨rfl, fun h => ⟨h.seq, h.overruns, h.place⟩⟩

theorem StreamsAlike.settings (h : StreamsAlike m m') : SameSettings m.dev.stream m'.dev.stream := by
  cases h with
  | pristine _ _ settings => exact settings
  | live same => exact same.1.settings

theorem StreamsAlike.scan (h : StreamsAlike m m') : m'.pc.scan = m.pc.scan := by
  cases h with
  | pristine _ _ _ _ place => exact Pc.scan_of_settled place
  | live same => exact Pc.scan_of_settled same.2

theorem StreamsAlike.place (h : StreamsAlike m m') : ∃ live, m'.pc.settled live = m.pc.settled live := by
  cases h with
  | pristine _ _ _ _ place => exact ⟨_, place⟩
  | live same => exact ⟨_, same.2⟩

/-- Such runs get the same verdicts. -/
theorem Alike.view (h : Alike δ m m') : SameView m.dev m'.dev := by
  have settings := h.streams.settings
  constructor
  · intro pin
    rw [h.watches.watchIndex]
  · exact h.watches.nWatched
  · exact settings.running
  · exact settings.nChannels
  · intro pin
    rw [settings.channelIndex]

/-- Where the verdicts are the same, so is what is asked of the events and of the stream. -/
theorem SetupPacket.obs_requests {r r' : Option (List UInt8)} (same : r'.isSome = r.isSome) :
    (packet.obs r').eventRequest = (packet.obs r).eventRequest ∧
      (packet.obs r').streamRequest = (packet.obs r).streamRequest := by
  rcases found_alike same with ⟨rfl, rfl⟩ | ⟨reply, reply', rfl, rfl⟩
  · exact ⟨rfl, rfl⟩
  · unfold SetupPacket.obs
    cases Request.ofCode? packet.bRequest with
    | none => exact ⟨rfl, rfl⟩
    | some req =>
      dsimp only
      cases packet.isIn with
      | false => exact ⟨rfl, rfl⟩
      | true => cases req <;> exact ⟨rfl, rfl⟩

/-- Each pin that the request arms is armed alike in both. A START finds the streams alike, or comes
outside stream_poll() and makes both counts of STARTs differ. -/
structure Anew (b : Board) (env : Env) (packet : SetupPacket) (m m' : Machine) : Prop where
  arms : ∀ req ∈ (packet.obs (handleSetup b env m.dev packet).2).eventRequest, ∀ pin ∈ req.arms,
    ArmsAlike m.dev.event m'.dev.event pin
  starts : ∀ req ∈ (packet.obs (handleSetup b env m.dev packet).2).streamRequest, req.starts = true →
    SameStream m m' ∨ m.dev.stream.Heeds m.pc ∧ m'.dev.stream.Heeds m'.pc

theorem Pc.settled_stopped (same : pc'.settled live = pc.settled live) :
    pc'.settled false = pc.settled false := by
  have own : ∀ pc : Pc, (pc.settled live).settled false = pc.settled false := by
    intro pc
    cases pc with
    | event pc => cases pc <;> rfl
    | stream pc => cases live <;> rfl
    | _ => rfl
  rw [← own, same, own]

theorem Pc.settled_offStream (same : pc'.settled false = pc.settled false) (off : pc.offStream = true)
    (off' : pc'.offStream = true) : pc'.settled live = pc.settled live := by
  have own : ∀ pc : Pc, pc.offStream = true → pc.settled live = pc.settled false := by
    intro pc off
    cases pc with
    | stream pc => contradiction
    | _ => rfl
  rw [own pc' off', same, own pc off]

theorem StreamState.perform_running {req : StreamRequest} (starts : req.starts = false)
    (runs : (s.perform req).running = true) :
    s.running = true ∧ (s.perform req).flags = s.flags ∧ (s.perform req).periodUs = s.periodUs := by
  cases req with
  | select pin add =>
    cases add with
    | true =>
      simp only [StreamState.perform] at runs ⊢
      split at runs
      · rename_i found
        rw [if_pos found]
        exact ⟨runs, rfl, rfl⟩
      · rename_i found
        rw [if_neg found]
        exact ⟨runs, rfl, rfl⟩
    | false =>
      simp only [StreamState.perform] at runs ⊢
      generalize s.channelIndex pin = found at runs ⊢
      cases found with
      | none => exact ⟨runs, rfl, rfl⟩
      | some i => exact ⟨runs, rfl, rfl⟩
  | leave pin =>
    simp only [StreamState.perform] at runs ⊢
    split at runs
    · contradiction
    · rename_i kept
      rw [if_neg kept]
      exact ⟨runs, rfl, rfl⟩
  | start | stop | clear => contradiction

/-- Steps that leave the stream alone, and lead nowhere that matters. -/
theorem StreamsAlike.congr (h : StreamsAlike m m') (stream : n.dev.stream = m.dev.stream)
    (place : ∀ live, n.pc.settled live = m.pc.settled live) (stream' : n'.dev.stream = m'.dev.stream)
    (place' : ∀ live, n'.pc.settled live = m'.pc.settled live) : StreamsAlike n n' := by
  obtain ⟨reads, kept⟩ := Pc.settled_stream (s := m.dev.stream) (place true)
  obtain ⟨_, kept'⟩ := Pc.settled_stream (s := m'.dev.stream) (place' true)
  cases h with
  | pristine here there settings started together =>
    refine .pristine ?_ ?_ ?_ ?_ ?_
    · rw [stream]
      exact kept here
    · rw [stream']
      exact kept' there
    · rw [stream, stream']
      exact settings
    · rw [stream, stream']
      exact started
    · rw [stream, place, place']
      exact together
  | live same =>
    refine .live ⟨?_, ?_⟩
    · rw [stream, stream', reads]
      exact same.1
    · rw [place, place']
      exact same.2

/-- A request served by both. -/
theorem StreamsAlike.perform {req : StreamRequest} (h : StreamsAlike m m')
    (starts : req.starts = true →
      SameStream m m' ∨ m.dev.stream.Heeds m.pc ∧ m'.dev.stream.Heeds m'.pc)
    (at_pc : n.pc = m.pc) (stream : n.dev.stream = m.dev.stream.perform req)
    (at_pc' : n'.pc = m'.pc) (stream' : n'.dev.stream = m'.dev.stream.perform req) :
    StreamsAlike n n' := by
  have goes_on : SameStream m m' → SameStream n n' := by
    intro same
    unfold SameStream
    rw [at_pc, at_pc', stream, stream']
    exact ⟨same.1.perform req, same.2⟩
  cases h with
  | live same => exact .live (goes_on same)
  | pristine here there settings started place =>
    -- a START may find the streams alike already
    by_cases live : req.starts = true ∧ SameStream m m'
    · exact .live (goes_on live.2)
    have heeds : req.starts = true → m.dev.stream.Heeds m.pc ∧ m'.dev.stream.Heeds m'.pc := by
      intro begins
      exact (starts begins).resolve_left (fun same => live ⟨begins, same⟩)
    have after := settings.perform req
    refine .pristine ?_ ?_ ?_ ?_ ?_
    · rw [at_pc, stream]
      exact here.perform (fun begins => (heeds begins).1)
    · rw [at_pc', stream']
      exact there.perform (fun begins => (heeds begins).2)
    · rw [stream, stream']
      exact after
    · rw [stream, stream']
      intro runs
      cases begins : req.starts with
      | true =>
        cases req <;> first | contradiction | exact ⟨rfl, rfl⟩
      | false =>
        obtain ⟨ran, flags, periodUs⟩ := StreamState.perform_running begins runs
        obtain ⟨_, flags', periodUs'⟩ := StreamState.perform_running begins (after.running.trans runs)
        rw [flags, flags', periodUs, periodUs']
        exact started ran
    · rw [at_pc, at_pc', stream]
      cases begins : req.starts with
      | true =>
        obtain ⟨heeds, heeds'⟩ := heeds begins
        exact Pc.settled_offStream (Pc.settled_stopped place) heeds.1 heeds'.1
      | false =>
        cases runs : (m.dev.stream.perform req).running with
        | false => exact Pc.settled_stopped place
        | true =>
          rw [(StreamState.perform_running begins runs).1] at place
          exact place

theorem Alike.setup (h : Alike δ m m') (anew : Anew b env packet m m') :
    Alike δ (step b m (.setup env packet)) (step b m' (.setup env packet)) := by
  obtain ⟨verdict, rest⟩ := @handleSetup_agree b env m.dev m'.dev packet h.rest (fun _ => h.view)
  obtain ⟨events, streams⟩ := @SetupPacket.obs_requests packet _ _ verdict
  have served := handleSetup_served b env m.dev packet
  have served' := handleSetup_served b env m'.dev packet
  have event' := served'.event
  have stream' := served'.stream
  rw [events] at event'
  rw [streams] at stream'
  refine ⟨rest, ?_, ?_⟩
  · change WatchesAlike δ m.pc.scan (handleSetup b env m.dev packet).1.event (handleSetup b env m'.dev packet).1.event
    rw [served.event, event']
    cases asked : (packet.obs (handleSetup b env m.dev packet).2).eventRequest with
    | none => exact h.watches
    | some req => exact h.watches.perform (anew.arms req asked)
  · have stream := served.stream
    cases asked : (packet.obs (handleSetup b env m.dev packet).2).streamRequest with
    | none =>
      rw [asked] at stream stream'
      exact h.streams.congr stream (fun _ => rfl) stream' (fun _ => rfl)
    | some req =>
      rw [asked] at stream stream'
      exact h.streams.perform (anew.starts req asked) rfl stream rfl stream'

theorem Alike.disconnect (h : Alike δ m m') : Alike δ (step b m .disconnect) (step b m' .disconnect) := by
  refine ⟨h.rest.disconnected, h.watches, ?_⟩
  have starts : StreamRequest.clear.starts = true →
      SameStream m m' ∨ m.dev.stream.Heeds m.pc ∧ m'.dev.stream.Heeds m'.pc := by
    intro begins
    contradiction
  exact h.streams.perform starts rfl rfl rfl rfl

/-- A step of poll() outside stream_poll(), at the same point. -/
theorem StreamsAlike.outside (h : StreamsAlike m m') (off : m.pc.offStream = true)
    (off' : m'.pc.offStream = true) (accepted : env.streamWrite ≠ .failed)
    (place : ∀ live, (loopStep b env m').pc.settled live = (loopStep b env m).pc.settled live) :
    StreamsAlike (loopStep b env m) (loopStep b env m') := by
  have stream := (loopStep_offStream b env m off).1
  have stream' := (loopStep_offStream b env m' off').1
  have away : ∀ m : Machine, m.pc.offStream = true → m.pc = .stream .startReset →
      m.dev.stream.running = false := by
    intro m off at_reset
    rw [at_reset] at off
    contradiction
  cases h with
  | pristine here there settings started _ =>
    refine .pristine (loopStep_pristine here accepted (away m off)).1
      (loopStep_pristine there accepted (away m' off')).1 ?_ ?_ (place _)
    · rw [stream, stream']
      exact settings
    · rw [stream, stream']
      exact started
  | live same =>
    refine .live ⟨?_, place true⟩
    have outside : ∀ pc : Pc, pc.offStream = true → pc.reads = none := by
      intro pc off
      cases pc with
      | stream pc => contradiction
      | _ => rfl
    have copies := same.1
    rw [outside m.pc off] at copies
    rw [stream, stream', loopStep_enters off (P := fun pc => pc.reads = none) outside rfl]
    exact copies

/-- A START that both streams see empties both. -/
theorem restart_copies (settings : SameSettings s s') (flags : s'.flags = s.flags)
    (periodUs : s'.periodUs = s.periodUs) (seen : s.startDone = s.startRequests)
    (seen' : s'.startDone = s'.startRequests) (now : UInt32) :
    Copies none (s.restart now) (s'.restart now) := by
  refine ⟨s'.channels, s'.ring, s'.packetSinceUs, s'.startRequests, s'.startDone, ?_, ?_⟩
  · unfold StreamState.restart StreamState.recast
    rw [settings.running, settings.nChannels, flags, periodUs]
  · refine ⟨?_, ?_, fun filled => absurd rfl filled, ?_⟩
    · intro i here
      exact settings.channels i (here.resolve_right (fun reading => by contradiction))
    · intro k below
      have none_ : k < ((0 : UInt8) - 0).toNat := below
      exact absurd none_ (Nat.not_lt_zero k)
    · change s'.startRequests - s'.startDone = s.startRequests - s.startDone
      rw [seen, seen', UInt8.sub_self, UInt8.sub_self]

theorem settled_next (next : Option StreamPc) : ((next.map Pc.stream).getD .idle).settled false = .idle := by
  cases next <;> rfl

/-- A step of stream_poll(), at the same point. -/
theorem StreamsAlike.inside {pc : StreamPc} (h : StreamsAlike m m') (rest : SameRest m.dev m'.dev)
    (at_pc : m.pc = .stream pc) (at_pc' : m'.pc = .stream pc) (accepted : env.streamWrite ≠ .failed) :
    StreamsAlike (loopStep b env m) (loopStep b env m') := by
  obtain ⟨d, _, log⟩ := m
  obtain ⟨_, _, log'⟩ := m'
  obtain rfl : _ = Pc.stream pc := at_pc
  obtain rfl : _ = Pc.stream pc := at_pc'
  obtain ⟨e, s, l, rfl⟩ := rest
  cases h with
  | live same =>
    obtain ⟨next, copies⟩ := @streamStep_copies b env d s pc e l same.1
    exact .live ⟨copies, congrArg (fun next => ((next.map Pc.stream).getD .idle).settled true) next⟩
  | pristine here there settings started _ =>
    have runs' : s.running = d.stream.running := settings.running
    -- the reset of a START that both have accepted makes the streams copies of each other
    by_cases begins : pc = .startReset ∧ d.stream.running = true
    · obtain ⟨rfl, runs⟩ := begins
      obtain ⟨flags, periodUs⟩ := started runs
      exact .live ⟨restart_copies settings flags periodUs (here.place runs) (there.place (runs'.trans runs)) _, rfl⟩
    · have held : Pc.stream pc = .stream .startReset → d.stream.running = false := by
        intro at_reset
        exact Bool.not_eq_true _ |>.mp (fun runs => begins ⟨Pc.stream.inj at_reset, runs⟩)
      obtain ⟨pristine, set⟩ := @loopStep_pristine b env ⟨d, .stream pc, log⟩ here accepted held
      obtain ⟨pristine', set'⟩ := @loopStep_pristine b env ⟨d.reseat e s l, .stream pc, log'⟩ there accepted
        (fun at_reset => runs'.trans (held at_reset))
      refine .pristine pristine pristine' (settings.keep set set') ?_ ?_
      · rw [set.running, set.flags, set.periodUs, set'.flags, set'.periodUs]
        exact started
      · rw [set.running]
        cases runs : d.stream.running with
        | false => exact (settled_next _).trans (settled_next _).symm
        | true =>
          have place : pc.Untouched d.stream := here.place
          have place' : pc.Untouched s := there.place
          cases pc with
          | startTest =>
            have test : d.stream.startDone ≠ d.stream.startRequests := place runs
            have test' : (d.reseat e s l).stream.startDone ≠ (d.reseat e s l).stream.startRequests :=
              place' (runs'.trans runs)
            simp only [loopStep, streamStep, if_pos test, if_pos test']
          | startDone => rfl
          | startReset => exact absurd ⟨rfl, runs⟩ begins
          | runTest | packRecord | flushTest | writeCall | writeResult packet =>
            exact absurd (runs.symm.trans place) (by simp)
          | _ => exact absurd place id

theorem Pc.settled_inj {pc : StreamPc} {other : Pc} (same : other.settled true = (Pc.stream pc).settled true) :
    other = .stream pc := by
  cases other <;> first | contradiction | exact same

/-- The run stays, or goes on in stream_poll(). -/
def Drifts (b : Board) (m n : Machine) : Prop :=
  n = m ∨ ∃ env pc, env.streamWrite ≠ .failed ∧ m.pc = .stream pc ∧ n = loopStep b env m

theorem Drifts.kept (drifts : Drifts b m n) (pristine : Pristine m.dev.stream m.pc)
    (stopped : m.dev.stream.running = false) :
    Pristine n.dev.stream n.pc ∧ n.dev.stream.SetAs m.dev.stream ∧
      n.pc.settled false = m.pc.settled false := by
  rcases drifts with rfl | ⟨env, pc, accepted, at_pc, rfl⟩
  · exact ⟨pristine, ⟨rfl, rfl, rfl, rfl, rfl⟩, rfl⟩
  · obtain ⟨after, set⟩ := loopStep_pristine (b := b) pristine accepted (fun _ => stopped)
    refine ⟨after, set, ?_⟩
    obtain ⟨d, _, log⟩ := m
    obtain rfl : _ = Pc.stream pc := at_pc
    exact settled_next _

/-- Two runs at different points go on in stream_poll() each by itself when no stream is live. -/
theorem StreamsAlike.drift (h : StreamsAlike m m') (apart : m.pc ≠ m'.pc) (first : Drifts b m n)
    (second : Drifts b m' n') : StreamsAlike n n' := by
  by_cases same : m'.pc.settled true = m.pc.settled true
  · -- then neither is there
    rcases first with rfl | ⟨_, pc, _, at_pc, _⟩
    · rcases second with rfl | ⟨_, pc, _, at_pc, _⟩
      · exact h
      · rw [at_pc] at same apart
        exact absurd (Pc.settled_inj same.symm) apart
    · rw [at_pc] at same apart
      exact absurd (Pc.settled_inj same).symm apart
  · cases h with
    | live alike => exact absurd alike.2 same
    | pristine here there settings started place =>
      have stopped : m.dev.stream.running = false := by
        by_contra runs
        rw [Bool.not_eq_false _ |>.mp runs] at place
        exact same place
      have stopped' := settings.running.trans stopped
      obtain ⟨after, set, at_n⟩ := first.kept here stopped
      obtain ⟨after', set', at_n'⟩ := second.kept there stopped'
      refine .pristine after after' (settings.keep set set') ?_ ?_
      · intro runs
        rw [set.running, stopped] at runs
        contradiction
      · rw [set.running, stopped, at_n, at_n']
        exact Pc.settled_stopped place

/-- The run does nothing with the rest of the device, and writes no watch. -/
structure Keeps (m n : Machine) : Prop where
  rest : SameRest m.dev n.dev
  watch : n.dev.event.watch = m.dev.event.watch
  serial : n.dev.event.armSeq = m.dev.event.armSeq
  nWatched : n.dev.event.nWatched = m.dev.event.nWatched
  scan : n.pc.scan = m.pc.scan

theorem Keeps.refl (m : Machine) : Keeps m m := ⟨.refl _, rfl, rfl, rfl, rfl⟩

theorem Alike.keeps (h : Alike δ m m') (first : Keeps m n) (second : Keeps m' n')
    (streams : StreamsAlike n n') : Alike δ n n' := by
  refine ⟨(first.rest.symm.trans h.rest).trans second.rest, ?_, streams⟩
  rw [first.scan]
  exact h.watches.congr first.watch first.serial first.nWatched second.watch second.serial second.nWatched

theorem Keeps.drift {pc : StreamPc} (at_pc : m.pc = .stream pc) : Keeps m (loopStep b env m) := by
  obtain ⟨d, _, log⟩ := m
  obtain rfl : _ = Pc.stream pc := at_pc
  refine ⟨⟨_, _, _, rfl⟩, rfl, rfl, rfl, ?_⟩
  simp only [loopStep]
  cases (streamStep b env d pc).2.1 <;> rfl

/-- A step inside push_event(). -/
theorem Keeps.push {pc : EventPc} (at_pc : m.pc = .event pc) (pushing : pc.settled ≠ pc) :
    Keeps m (loopStep b env m) ∧ (loopStep b env m).dev.stream = m.dev.stream ∧
      ∀ live, (loopStep b env m).pc.settled live = m.pc.settled live := by
  obtain ⟨d, _, log⟩ := m
  obtain rfl : _ = Pc.event pc := at_pc
  obtain ⟨watch, serial, many, outside, next, leads, settled, scan⟩ := @eventStep_pushing env d pc pushing
  have at_next : (loopStep b env ⟨d, .event pc, log⟩).pc = .event next := by
    simp only [loopStep, leads]
    rfl
  refine ⟨⟨⟨_, _, _, rfl⟩, watch, serial, many, ?_⟩, rfl, ?_⟩
  · rw [at_next]
    exact scan.trans outside.symm
  · intro live
    rw [at_next]
    exact congrArg Pc.event settled

theorem settled_between {pc : EventPc} (pushing : pc.settled ≠ pc) : pc.settled.between = true := by
  cases pc <;> first | rfl | exact absurd rfl pushing

/-- A run that is alone inside a slot is in push_event(). -/
theorem pushing_of_apart {pc : EventPc} {other : Pc} (apart : other ≠ .event pc)
    (place : other.settled live = (Pc.event pc).settled live) (inside : pc.between = false) :
    pc.settled ≠ pc := by
  intro still
  cases other with
  | event pc' =>
    have same : pc'.settled = pc := (Pc.event.inj place).trans still
    have pushing : pc'.settled ≠ pc' := by
      intro still'
      exact apart (congrArg Pc.event (still'.symm.trans same))
    have between := settled_between pushing
    rw [same, inside] at between
    contradiction
  | stream pc' => cases live <;> contradiction
  | _ => contradiction

/-- A step of event_poll(), at the same point. -/
theorem Alike.scan {pc : EventPc} (h : Alike δ m m') (at_pc : m.pc = .event pc) (at_pc' : m'.pc = .event pc)
    (accepted : env.streamWrite ≠ .failed) : Alike δ (loopStep b env m) (loopStep b env m') := by
  have rest := @loopStep_rest b env m m' h.rest (at_pc.trans at_pc'.symm)
  have streams := h.streams
  have watches := h.watches
  obtain ⟨d, _, log⟩ := m
  obtain ⟨d', _, log'⟩ := m'
  obtain rfl : _ = Pc.event pc := at_pc
  obtain rfl : _ = Pc.event pc := at_pc'
  obtain ⟨e, s, l, rfl⟩ := h.rest
  obtain ⟨alike, next⟩ := @eventStep_alike env d e s l δ pc watches
  have scans : ∀ next : Option EventPc, ((next.map Pc.event).getD (afterEvent b)).scan = next.bind EventPc.scan := by
    intro next
    cases next with
    | none =>
      unfold afterEvent
      split <;> rfl
    | some next => rfl
  have settles : ∀ live (next next' : Option EventPc), next'.map EventPc.settled = next.map EventPc.settled →
      ((next'.map Pc.event).getD (afterEvent b)).settled live =
        ((next.map Pc.event).getD (afterEvent b)).settled live := by
    intro live next next' same
    cases next with
    | none => rw [Option.map_eq_none_iff.mp same]
    | some next =>
      obtain ⟨_, rfl, here⟩ := Option.map_eq_some_iff.mp same
      exact congrArg Pc.event here
  refine ⟨rest, ?_, streams.outside rfl rfl accepted (fun live => settles live _ _ next)⟩
  change WatchesAlike δ (Pc.scan (((eventStep env d pc).2.1.map Pc.event).getD (afterEvent b))) _ _
  rw [scans]
  exact alike

/-- A step of poll() before event_poll(), at the same point. -/
theorem Alike.early (h : Alike δ m m') (same : m.pc = m'.pc) (early : m.pc.late = false)
    (accepted : env.streamWrite ≠ .failed) : Alike δ (loopStep b env m) (loopStep b env m') := by
  obtain ⟨rest, next⟩ := @loopStep_early b env m m' h.rest same early
  have outside : ∀ m : Machine, m.pc.late = false → m.pc.event? = none ∧ m.pc.offStream = true ∧
      ∀ pc, m.pc ≠ .event pc := by
    intro m early
    cases at_pc : m.pc with
    | event pc | stream pc =>
      rw [at_pc] at early
      contradiction
    | _ => exact ⟨rfl, rfl, fun pc here => by contradiction⟩
  obtain ⟨away, off, other⟩ := outside m early
  obtain ⟨_, off', other'⟩ := outside m' (same ▸ early)
  refine ⟨rest, ?_, h.streams.outside off off' accepted (fun live => congrArg _ next)⟩
  have before_ : m.pc.scan = none := by
    unfold Pc.scan
    rw [away, Option.bind_none]
  have after : (loopStep b env m).pc.scan = none := by
    unfold Pc.scan
    rcases loopStep_eventPc b env m away with gone | enters
    · rw [gone, Option.bind_none]
    · rw [enters]
      rfl
  have watches := h.watches
  rw [before_] at watches
  rw [after, loopStep_event_frame b env m other, loopStep_event_frame b env m' other']
  exact watches

/-- A step of poll(), at the same point. -/
theorem Alike.loop (h : Alike δ m m') (same : m.pc = m'.pc) (accepted : env.streamWrite ≠ .failed) :
    Alike δ (loopStep b env m) (loopStep b env m') := by
  cases at_pc : m.pc with
  | event pc => exact h.scan at_pc (same.symm.trans at_pc) accepted
  | stream pc =>
    exact h.keeps (.drift at_pc) (.drift (same.symm.trans at_pc))
      (h.streams.inside h.rest at_pc (same.symm.trans at_pc) accepted)
  | _ => exact h.early same (by rw [at_pc]; rfl) accepted

/-- The position is inside a slot of event_poll(), or in stream_poll(). -/
def Pc.aside : Pc → Bool
  | .event pc => !pc.between
  | .stream _ => true
  | _ => false

/-- Both runs go on in poll() at the same point. Where they stand at two points, one of them goes on
alone, inside a slot or in stream_poll(). -/
def PairMove.polls (p : Machine × Machine) : PairMove → Prop
  | .both (.loop env) => p.1.pc = p.2.pc ∧ env.Returned
  | .first (.loop env) => p.1.pc ≠ p.2.pc ∧ p.1.pc.aside = true ∧ env.Returned
  | .second (.loop env) => p.1.pc ≠ p.2.pc ∧ p.2.pc.aside = true ∧ env.Returned
  | _ => False

instance (p : Machine × Machine) (move : PairMove) : Decidable (move.polls p) :=
  match move with
  | .both (.loop env) => inferInstanceAs (Decidable (p.1.pc = p.2.pc ∧ env.Returned))
  | .first (.loop env) => inferInstanceAs (Decidable (p.1.pc ≠ p.2.pc ∧ p.1.pc.aside = true ∧ env.Returned))
  | .second (.loop env) => inferInstanceAs (Decidable (p.1.pc ≠ p.2.pc ∧ p.2.pc.aside = true ∧ env.Returned))
  | .both (.setup ..) | .both .disconnect | .first (.setup ..) | .first .disconnect | .second (.setup ..)
  | .second .disconnect => .isFalse id

/-- The same continuation of both runs. -/
def Together (b : Board) (p : Machine × Machine) : PairMove → Prop
  | .both (.setup env packet) => Anew b env packet p.1 p.2
  | .both .disconnect => True
  | move => move.polls p

theorem PairMove.polls.together {p : Machine × Machine} {move : PairMove} (polls : move.polls p) :
    Together b p move := by
  cases move with
  | both act =>
    cases act with
    | loop env => exact polls
    | setup env packet | disconnect => exact absurd polls id
  | first act | second act => exact polls

/-- A step of the first run alone. -/
theorem Alike.first (h : Alike δ m m') (apart : m.pc ≠ m'.pc) (aside : m.pc.aside = true)
    (accepted : env.streamWrite ≠ .failed) : Alike δ (loopStep b env m) m' := by
  cases at_pc : m.pc with
  | event pc =>
    have place : ∃ live, m'.pc.settled live = (Pc.event pc).settled live := by
      rw [← at_pc]
      exact h.streams.place
    obtain ⟨live, place⟩ := place
    rw [at_pc] at apart aside
    have pushing := pushing_of_apart (Ne.symm apart) place (Bool.not_eq_true' _ |>.mp aside)
    obtain ⟨keeps, stream, settled⟩ := @Keeps.push b env m pc at_pc pushing
    exact h.keeps keeps (.refl m') (h.streams.congr stream settled rfl (fun _ => rfl))
  | stream pc =>
    exact h.keeps (.drift at_pc) (.refl m')
      (h.streams.drift apart (.inr ⟨env, pc, accepted, at_pc, rfl⟩) (.inl rfl))
  | _ =>
    rw [at_pc] at aside
    contradiction

/-- And of the second. -/
theorem Alike.second (h : Alike δ m m') (apart : m.pc ≠ m'.pc) (aside : m'.pc.aside = true)
    (accepted : env.streamWrite ≠ .failed) : Alike δ m (loopStep b env m') := by
  cases at_pc : m'.pc with
  | event pc =>
    have place : ∃ live, (Pc.event pc).settled live = m.pc.settled live := by
      rw [← at_pc]
      exact h.streams.place
    obtain ⟨live, place⟩ := place
    rw [at_pc] at apart aside
    have pushing := pushing_of_apart apart place.symm (Bool.not_eq_true' _ |>.mp aside)
    obtain ⟨keeps, stream, settled⟩ := @Keeps.push b env m' pc at_pc pushing
    exact h.keeps (.refl m) keeps (h.streams.congr rfl (fun _ => rfl) stream settled)
  | stream pc =>
    exact h.keeps (.refl m) (.drift at_pc)
      (h.streams.drift apart (.inl rfl) (.inr ⟨env, pc, accepted, at_pc, rfl⟩))
  | _ =>
    rw [at_pc] at aside
    contradiction

theorem settled_of_between {pc : EventPc} (between : pc.between = true) : pc.settled = pc := by
  cases pc <;> first | rfl | contradiction

/-- Of two runs at different points one is inside a slot or in stream_poll(). -/
theorem aside_of_apart (apart : pc ≠ pc') (place : pc'.settled live = pc.settled live) :
    pc.aside = true ∨ pc'.aside = true := by
  cases pc with
  | stream pc => exact .inl rfl
  | event pc =>
    cases between : pc.between with
    | false => exact .inl (congrArg (!·) between)
    | true =>
      cases pc' with
      | stream pc' => exact .inr rfl
      | event pc' =>
        have same : pc'.settled = pc := (Pc.event.inj place).trans (settled_of_between between)
        refine .inr ?_
        by_contra outside
        have between' : pc'.between = true := by simpa [Pc.aside] using outside
        exact apart (congrArg Pc.event (same.symm.trans (settled_of_between between')))
      | _ => contradiction
  | _ =>
    cases pc' with
    | stream pc' => exact .inr rfl
    | event pc' => contradiction
    | _ => exact absurd place.symm apart

/-- One of two such runs, or both, can always go on in poll(). -/
theorem Alike.goes_on (h : Alike δ m m') (returned : env.Returned) :
    ∃ move ∈ [PairMove.both (.loop env), .first (.loop env), .second (.loop env)], move.polls (m, m') := by
  by_cases same : m.pc = m'.pc
  · exact ⟨.both (.loop env), by simp, same, returned⟩
  · obtain ⟨live, place⟩ := h.streams.place
    rcases aside_of_apart same place with aside | aside
    · exact ⟨.first (.loop env), by simp, same, aside, returned⟩
    · exact ⟨.second (.loop env), by simp, same, aside, returned⟩

/-- Two runs that are alike stay so. -/
theorem Alike.move {p : Machine × Machine} {move : PairMove} (h : Alike δ p.1 p.2) (allowed : Together b p move) :
    Alike δ (move.step b p).1 (move.step b p).2 := by
  cases move with
  | both act =>
    cases act with
    | setup env packet => exact h.setup allowed
    | loop env => exact h.loop allowed.1 (Env.returned_iff.mp allowed.2)
    | disconnect => exact Alike.disconnect (b := b) h
  | first act =>
    cases act with
    | loop env => exact h.first allowed.1 allowed.2.1 (Env.returned_iff.mp allowed.2.2)
    | setup env packet | disconnect => exact absurd allowed id
  | second act =>
    cases act with
    | loop env => exact h.second allowed.1 allowed.2.1 (Env.returned_iff.mp allowed.2.2)
    | setup env packet | disconnect => exact absurd allowed id

end ArduinoDriver
