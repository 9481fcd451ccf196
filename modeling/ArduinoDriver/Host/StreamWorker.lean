import ArduinoDriver.Host.BulkRing
import ArduinoDriver.Host.RecordQueue
import ArduinoDriver.Host.StreamCalls

namespace ArduinoDriver

/-- What worker_main() records when the device has stopped on its own. -/
def deviceStoppedText : String :=
  "the device stopped streaming (STREAM_STOP, RESET or PIN_MODE on a streamed pin from another " ++
    "session, an overrun with StopOnOverrun, or the device giving up on an endpoint the host did " ++
    "not drain)"

/-- What an Error thrown by the ring says; `describe` is describe_usb_error(). -/
def bulkFailureText (describe : LibusbError → String) (code : LibusbError) : String :=
  "bulk IN transfer failed: " ++ describe code

/-- Where worker_main() stands. -/
inductive WorkerPc where
  /-- At the condition of its loop. -/
  | top
  /-- In bulk_in(), before its first look at the ring. -/
  | reading
  /-- In bulk_in(), behind a look that has found nothing. -/
  | waiting
  /-- In the decode loop. -/
  | decoding
  /-- At the status poll. -/
  | polling
  /-- `running` is false. -/
  | ended
  deriving DecidableEq, Repr

/-- A Stream and the ring its worker reads from. `buffer` begins at `pos`, `taken` are the bytes
that bulk_in() has returned to this worker, and `seen` those that the ring had been given when
bulk_in() last found nothing in it. -/
structure StreamRun where
  ring : RingRun
  pc : WorkerPc
  worker : Worker
  buffer : List UInt8
  deviceStopped : Bool
  stopRequested : Bool
  error : String
  deviceOverruns : UInt32
  taken : List UInt8
  seen : List UInt8

/-- A new Stream; an earlier one may have used the ring. -/
def StreamRun.start (ring : RingRun) : StreamRun :=
  ⟨ring, .top, .init, [], false, false, "", 0, [], []⟩

/-- Steps of the worker, of libusb, and of the threads that read() and stop(). -/
inductive StreamRunAct where
  /-- The loop's condition. -/
  | loop
  /-- The first bulk_in() makes the ring; completions come at any time. -/
  | ring (act : RingAct)
  /-- The locked look of bulk_in() at the ring, the first or, with the deadline still to come and
  events pumped, another. -/
  | look (again : Bool)
  /-- The deadline of bulk_in() is over. -/
  | expire
  /-- One iteration of the decode loop, its locked sections and deliver(). A read() between
  these sees what one before them sees. -/
  | decode
  /-- A poll, if one is due, that may throw. -/
  | poll (answer : Option (Option StreamStatus))
  | read (room : Nat)
  | stop
  deriving DecidableEq, Repr

namespace StreamRun

variable (impl : StreamImpl) (describe : LibusbError → String)

def enabled (s : StreamRun) : StreamRunAct → Prop
  | .loop => s.pc = .top
  | .ring (.complete i status bytes answer thread) =>
    s.ring.enabled (.complete i status bytes answer thread)
  | .ring (.submit answer) => s.pc = .reading ∧ s.ring.enabled (.submit answer)
  | .ring .note => s.pc = .reading ∧ s.ring.enabled .note
  | .ring _ => False
  | .look again => s.pc = (if again then .waiting else .reading) ∧ s.ring.phase = .working
  | .expire => s.pc = .waiting
  | .decode => s.pc = .decoding
  | .poll _ => s.pc = .polling
  | .read _ | .stop => True

instance (s : StreamRun) : (act : StreamRunAct) → Decidable (s.enabled act)
  | .loop => inferInstanceAs (Decidable (s.pc = .top))
  | .ring (.complete i status bytes answer thread) =>
    inferInstanceAs (Decidable (s.ring.enabled (.complete i status bytes answer thread)))
  | .ring (.submit answer) =>
    inferInstanceAs (Decidable (s.pc = .reading ∧ s.ring.enabled (.submit answer)))
  | .ring .note => inferInstanceAs (Decidable (s.pc = .reading ∧ s.ring.enabled .note))
  | .ring .leave | .ring (.read _) | .ring .close | .ring .free => inferInstanceAs (Decidable False)
  | .look again => inferInstanceAs
    (Decidable (s.pc = (if again then .waiting else .reading) ∧ s.ring.phase = .working))
  | .expire => inferInstanceAs (Decidable (s.pc = .waiting))
  | .decode => inferInstanceAs (Decidable (s.pc = .decoding))
  | .poll _ => inferInstanceAs (Decidable (s.pc = .polling))
  | .read _ | .stop => inferInstanceAs (Decidable True)

/-- bulk_in() throws, returns bytes, or comes to test its deadline. -/
def look (s : StreamRun) : StreamRun :=
  match (s.ring.ring.read chunkSize).2 with
  | some (.error code) =>
    { s with ring := s.ring.read chunkSize, error := bulkFailureText describe code, pc := .ended }
  | some (.ok bytes) =>
    { s with
      ring := s.ring.read chunkSize
      buffer := s.buffer ++ bytes
      taken := s.taken ++ bytes
      pc := .decoding }
  | none => { s with seen := s.ring.completed, pc := .waiting }

/-- bulk_in() returns 0. -/
def expire (s : StreamRun) : StreamRun :=
  if s.deviceStopped then { s with error := deviceStoppedText, pc := .ended }
  else { s with pc := .decoding }

def decode (s : StreamRun) : StreamRun :=
  match impl.decodeStep s.worker s.buffer with
  | none => { s with pc := .polling }
  | some (w, n) => { s with worker := w, buffer := s.buffer.drop n }

/-- What a poll tells; one that throws is tried again. -/
def polled (s : StreamRun) : Option StreamStatus → StreamRun
  | some st => { s with
      deviceOverruns := st.overruns
      deviceStopped := s.deviceStopped || !st.running }
  | none => s

def step (s : StreamRun) : StreamRunAct → StreamRun
  | .loop => { s with pc := if s.stopRequested then .ended else .reading }
  | .ring act => { s with ring := s.ring.step act }
  | .look _ => s.look describe
  | .expire => s.expire
  | .decode => s.decode impl
  | .poll (some answer) => { s.polled answer with pc := .top }
  | .poll none => { s with pc := .top }
  | .read room => { s with worker := { s.worker with ready := (readRecords room s.worker.ready).2 } }
  | .stop => { s with stopRequested := true }

/-- Streams reached by any interleaving, from a ring that may have been used before. -/
def Reachable (first : RingRun) : StreamRun → Prop :=
  Lib.Reach (step impl describe) enabled (.start first)

end StreamRun

variable {impl : StreamImpl} {w v : Worker}

/-- What decoding has made of the bytes, less what read() changes. -/
def Worker.decoded (w : Worker) : Worker :=
  { w with ready := [], stats := { w.stats with hostDrops := 0 } }

namespace StreamImpl

theorem sync_decoded (w : Worker) : (sync w).decoded = sync w.decoded := by
  unfold sync
  by_cases hunting : w.hunting = true
  · have also : w.decoded.hunting = true := hunting
    rw [if_pos hunting, if_pos also]
    rfl
  · have also : ¬ w.decoded.hunting = true := hunting
    rw [if_neg hunting, if_neg also]

theorem acceptRecord_decoded (w : Worker) (head : List UInt8) :
    (impl.acceptRecord w head).decoded = (impl.acceptRecord w.decoded head).decoded := rfl

theorem takeRecord_decoded (w : Worker) (head : List UInt8) :
    (impl.takeRecord w head).decoded = (impl.takeRecord w.decoded head).decoded := by
  unfold takeRecord
  by_cases stale : impl.isStale (decodeStreamHeader head).tUs = true
  · rw [if_pos stale, if_pos stale, ← sync_decoded]
    rfl
  · rw [if_neg stale, if_neg stale, ← sync_decoded]
    exact acceptRecord_decoded ..

/-- No iteration of the decode loop depends on what read() changes. -/
theorem decodeStep_decoded (w v : Worker) (head : List UInt8) (same : w.decoded = v.decoded) :
    (impl.decodeStep w head).map (Prod.map Worker.decoded id) =
      (impl.decodeStep v head).map (Prod.map Worker.decoded id) := by
  rcases Nat.lt_or_ge head.length streamHeaderLen with short | enough
  · rw [decodeStep_short short, decodeStep_short short]
  · by_cases opens : impl.Opens head
    · rw [decodeStep_opens enough opens, decodeStep_opens enough opens]
      by_cases short : head.length < impl.recordLen
      · rw [if_pos short, if_pos short]
      · have taken : (impl.takeRecord w head).decoded = (impl.takeRecord v head).decoded := by
          rw [takeRecord_decoded, same, ← takeRecord_decoded]
        rw [if_neg short, if_neg short]
        exact congrArg (fun u => some (u, impl.recordLen)) taken
    · rw [decodeStep_hunt enough opens, decodeStep_hunt enough opens]
      have hunts : ({ w with hunting := true } : Worker).decoded =
          ({ v with hunting := true } : Worker).decoded := by
        exact congrArg (fun u : Worker => { u with hunting := true }) same
      exact congrArg (fun u => some (u, 1)) hunts

theorem run_decoded (w v : Worker) (bytes : List UInt8) (same : w.decoded = v.decoded) :
    Prod.map Worker.decoded id (impl.decoder.run w bytes) =
      Prod.map Worker.decoded id (impl.decoder.run v bytes) :=
  Lib.Incremental.run_view Worker.decoded decodeStep_decoded w v bytes same

/-- Decoding on hands over more, and takes nothing back. -/
theorem decodeStep_handed {head : List UInt8} {n : Nat} (steps : impl.decodeStep w head = some (v, n)) :
    w.handed <+: v.handed := by
  obtain ⟨_, ⟨_, same, _⟩ | ⟨_, _, same, _⟩⟩ := decodeStep_cases steps
  · subst same
    exact List.prefix_refl _
  · rw [same]
    have synced : (sync w).handed = w.handed := by
      unfold sync
      split <;> rfl
    unfold takeRecord
    by_cases stale : impl.isStale (decodeStreamHeader head).tUs = true
    · rw [if_pos stale]
      exact ⟨[], (List.append_nil _).trans synced.symm⟩
    · rw [if_neg stale, ← synced]
      exact List.prefix_append ..

theorem run_handed (w : Worker) (bytes : List UInt8) :
    w.handed <+: (impl.decoder.run w bytes).1.handed := by
  apply Lib.Incremental.run_keeps (I := fun v => w.handed <+: v.handed) ?_ w bytes (List.prefix_refl _)
  intro u head u' n steps before
  exact before.trans (decodeStep_handed steps)

end StreamImpl

namespace StreamRun

variable {describe : LibusbError → String} {first : RingRun} {s : StreamRun}

/-- The worker has decoded, or is decoding, exactly what bulk_in() has returned. -/
structure Decodes (impl : StreamImpl) (first : RingRun) (s : StreamRun) : Prop where
  ring : s.ring.Reachable
  taken : s.ring.handed = first.handed ++ s.taken
  decoded : Prod.map Worker.decoded id (impl.decoder.run s.worker s.buffer) =
    Prod.map Worker.decoded id (impl.decoder.run .init s.taken)
  waits : s.pc ≠ .decoding → impl.decodeStep s.worker s.buffer = none

theorem decodes_start (used : first.Reachable) : Decodes impl first (.start first) := by
  have short : ([] : List UInt8).length < streamHeaderLen := Nat.succ_pos _
  constructor
  · exact used
  · exact (List.append_nil _).symm
  · rfl
  · intro idle
    exact StreamImpl.decodeStep_short short

/-- A read of the ring hands over what it returns. -/
theorem read_handed (r : RingRun) (size : Nat) :
    (r.read size).handed = r.handed ++ match (r.ring.read size).2 with
      | some (.ok bytes) => bytes
      | _ => [] := rfl

theorem read_nothing {r : RingRun} {size : Nat} (nothing : (r.ring.read size).2 = none) :
    r.ring.fatalError = none ∧ r.ring.queue = [] := by
  unfold BulkRing.read at nothing
  cases pending : r.ring.fatalError with
  | some code =>
    rw [pending] at nothing
    contradiction
  | none =>
    rw [pending] at nothing
    dsimp only at nothing
    by_cases empty : r.ring.queue.isEmpty = true
    · exact ⟨rfl, List.isEmpty_iff.mp empty⟩
    · rw [if_neg empty] at nothing
      contradiction

/-- Where the worker may look at the ring, it is not decoding and has not ended. -/
theorem looks_at {again : Bool} (at_look : s.pc = if again then .waiting else .reading) :
    s.pc ≠ .decoding ∧ s.pc ≠ .ended := by
  rw [at_look]
  cases again <;> simp

theorem decodes_look (inv : Decodes impl first s) (idle : s.pc ≠ .decoding)
    (working : s.ring.phase = .working) : Decodes impl first (s.look describe) := by
  have settled := inv.waits idle
  have used : (s.ring.read chunkSize).Reachable :=
    @Lib.Reach.tail _ _ _ _ _ _ (RingAct.read chunkSize) inv.ring working
  unfold look
  cases came : (s.ring.ring.read chunkSize).2 with
  | none => exact ⟨inv.ring, inv.taken, inv.decoded, fun _ => settled⟩
  | some result =>
    have handed := read_handed s.ring chunkSize
    rw [came] at handed
    cases result with
    | error code =>
      refine ⟨used, ?_, inv.decoded, fun _ => settled⟩
      simpa [inv.taken] using handed
    | ok bytes =>
      refine ⟨used, ?_, ?_, fun still => absurd rfl still⟩
      · simpa [inv.taken] using handed
      · have before := inv.decoded
        rw [Lib.Incremental.run_wait settled] at before
        obtain ⟨same, left⟩ := Prod.mk.inj before
        have rest : s.buffer = (impl.decoder.run .init s.taken).2 := left
        dsimp only
        rw [Lib.Incremental.run_append Worker.init, Lib.Incremental.feed, ← rest]
        exact StreamImpl.run_decoded _ _ _ same

theorem decodes_expire (inv : Decodes impl first s) (waiting : s.pc = .waiting) :
    Decodes impl first s.expire := by
  have settled : impl.decodeStep s.worker s.buffer = none := by
    apply inv.waits
    rw [waiting]
    intro same
    contradiction
  unfold expire
  split <;> exact ⟨inv.ring, inv.taken, inv.decoded, fun _ => settled⟩

theorem decodes_decode (inv : Decodes impl first s) (busy : s.pc = .decoding) :
    Decodes impl first (s.decode impl) := by
  unfold decode
  cases steps : impl.decodeStep s.worker s.buffer with
  | none => exact ⟨inv.ring, inv.taken, inv.decoded, fun _ => steps⟩
  | some r =>
    obtain ⟨w, n⟩ := r
    have more : impl.decoder.run s.worker s.buffer = impl.decoder.run w (s.buffer.drop n) :=
      Lib.Incremental.run_step steps
    exact ⟨inv.ring, inv.taken, more ▸ inv.decoded, fun idle => absurd busy idle⟩

/-- read() changes nothing that decoding looks at. -/
theorem decodes_read (inv : Decodes impl first s) (ready : List (List Sample)) :
    Decodes impl first { s with worker := { s.worker with ready := ready } } := by
  have same : ({ s.worker with ready := ready } : Worker).decoded = s.worker.decoded := rfl
  refine ⟨inv.ring, inv.taken, (StreamImpl.run_decoded _ _ _ same).trans inv.decoded, ?_⟩
  intro idle
  have alike := @StreamImpl.decodeStep_decoded impl _ _ s.buffer same
  rw [inv.waits idle] at alike
  exact Option.map_eq_none_iff.mp alike

theorem Reachable.decodes (used : first.Reachable) (reached : Reachable impl describe first s) :
    Decodes impl first s := by
  apply Lib.Reach.invariant reached (decodes_start used)
  intro u act inv allowed
  cases act with
  | loop =>
    have idle : u.pc ≠ .decoding := by
      intro same
      rw [enabled, same] at allowed
      contradiction
    exact ⟨inv.ring, inv.taken, inv.decoded, fun _ => inv.waits idle⟩
  | ring act =>
    have kept : (u.ring.step act).handed = u.ring.handed ∧ u.ring.enabled act := by
      cases act with
      | complete i status bytes answer thread =>
        refine ⟨?_, allowed⟩
        simp only [RingRun.step, RingRun.complete]
        split <;> rfl
      | leave => exact absurd allowed id
      | submit answer =>
        refine ⟨?_, allowed.2⟩
        simp only [RingRun.step, RingRun.submit]
        split <;> rfl
      | note =>
        refine ⟨?_, allowed.2⟩
        simp only [RingRun.step, RingRun.note]
        split <;> rfl
      | read size => exact absurd allowed id
      | close => exact absurd allowed id
      | free => exact absurd allowed id
    exact ⟨.tail act inv.ring kept.2, kept.1.trans inv.taken, inv.decoded, inv.waits⟩
  | look again => exact decodes_look inv (looks_at allowed.1).1 allowed.2
  | expire => exact decodes_expire inv allowed
  | decode => exact decodes_decode inv allowed
  | poll answer =>
    have idle : u.pc ≠ .decoding := by
      intro same
      rw [enabled, same] at allowed
      contradiction
    rcases answer with _ | _ | st
    · exact ⟨inv.ring, inv.taken, inv.decoded, fun _ => inv.waits idle⟩
    · exact ⟨inv.ring, inv.taken, inv.decoded, fun _ => inv.waits idle⟩
    · exact ⟨inv.ring, inv.taken, inv.decoded, fun _ => inv.waits idle⟩
  | read room => exact decodes_read inv _
  | stop => exact ⟨inv.ring, inv.taken, inv.decoded, inv.waits⟩

/-- A ring forgets no byte of a completed transfer. -/
theorem completed_grows (r : RingRun) (act : RingAct) : r.completed <+: (r.step act).completed := by
  cases act with
  | complete i status bytes answer thread =>
    simp only [RingRun.step, RingRun.complete]
    split
    · exact List.prefix_refl _
    · exact List.prefix_append ..
  | submit answer =>
    simp only [RingRun.step, RingRun.submit]
    split <;> exact List.prefix_refl _
  | note =>
    simp only [RingRun.step, RingRun.note]
    split <;> exact List.prefix_refl _
  | _ => exact List.prefix_refl _

/-- What the last look that found nothing has seen: behind it, all that bulk_in() has returned. -/
structure Looked (first : RingRun) (s : StreamRun) : Prop where
  bytes : s.pc = .waiting → first.handed ++ s.taken = s.seen
  before : s.seen <+: s.ring.completed

theorem looked_look (dec : Decodes impl first s) (inv : Looked first s) :
    Looked first (s.look describe) := by
  have whole := (RingRun.Reachable.accounted dec.ring).bytes
  unfold look
  cases came : (s.ring.ring.read chunkSize).2 with
  | none =>
    refine ⟨fun _ => ?_, List.prefix_refl _⟩
    rw [(read_nothing came).2, List.append_nil, dec.taken] at whole
    exact whole
  | some result =>
    cases result with
    | error code => exact ⟨fun waiting => absurd waiting (by simp), inv.before⟩
    | ok bytes => exact ⟨fun waiting => absurd waiting (by simp), inv.before⟩

theorem Reachable.looked (used : first.Reachable) (reached : Reachable impl describe first s) :
    Looked first s := by
  have start : Looked first (.start first) :=
    ⟨fun waiting => absurd waiting (by simp [StreamRun.start]), List.nil_prefix⟩
  apply Lib.Reach.invariant_with reached (fun u known => Reachable.decodes used known) start
  intro u act dec inv allowed
  have moved : ∀ pc, pc ≠ .waiting → ∀ error,
      Looked first { u with pc := pc, error := error } := by
    intro pc other error
    exact ⟨fun waiting => absurd waiting other, inv.before⟩
  cases act with
  | loop =>
    rw [step]
    split <;> exact moved _ (by simp) _
  | ring act => exact ⟨inv.bytes, inv.before.trans (completed_grows u.ring act)⟩
  | look again => exact looked_look dec inv
  | expire =>
    rw [step, expire]
    split <;> exact moved _ (by simp) _
  | decode =>
    have busy : u.pc ≠ .waiting := by
      rw [enabled] at allowed
      rw [allowed]
      intro same
      contradiction
    rw [step, decode]
    split
    · exact moved _ (by simp) _
    · exact ⟨fun waiting => absurd waiting busy, inv.before⟩
  | poll answer =>
    rcases answer with _ | _ | st
    · exact moved _ (by simp) _
    · exact moved _ (by simp) _
    · exact ⟨fun waiting => absurd waiting (by simp [step]), inv.before⟩
  | read room => exact ⟨inv.bytes, inv.before⟩
  | stop => exact ⟨inv.bytes, inv.before⟩

/-- Whatever the interleaving of completions, reads, polls and stop(), the bytes bulk_in() has
returned to this worker are, with what the ring's queue holds, those of the transfers that have
completed, from where the ring stood before; what is handed to the callback is, in order, the start
of what one parse of these bytes gives, and all of it outside the decode loop, the numbers counted
and the last sequence number included. -/
theorem worker_decodes (used : first.Reachable) (reached : Reachable impl describe first s) :
    first.handed ++ s.taken ++ s.ring.ring.queue = s.ring.completed ∧
      s.worker.handed <+: (impl.decoder.run .init s.taken).1.handed ∧
      (s.pc ≠ .decoding →
        s.worker.decoded = (impl.decoder.run .init s.taken).1.decoded ∧
        s.buffer = (impl.decoder.run .init s.taken).2) := by
  have inv := reached.decodes used
  have result : (impl.decoder.run s.worker s.buffer).1.decoded =
      (impl.decoder.run .init s.taken).1.decoded := congrArg Prod.fst inv.decoded
  have left : (impl.decoder.run s.worker s.buffer).2 = (impl.decoder.run .init s.taken).2 := by
    simpa using congrArg Prod.snd inv.decoded
  refine ⟨?_, ?_, ?_⟩
  · rw [← inv.taken]
    exact (RingRun.Reachable.accounted inv.ring).bytes
  · have same := congrArg Worker.handed result
    change (impl.decoder.run s.worker s.buffer).1.handed =
      (impl.decoder.run Worker.init s.taken).1.handed at same
    rw [← same]
    exact StreamImpl.run_handed ..
  · intro idle
    have settled : impl.decoder.run s.worker s.buffer = (s.worker, s.buffer) :=
      Lib.Incremental.run_wait (inv.waits idle)
    rw [settled] at result left
    exact ⟨result, left⟩

/-- A Stream that makes the ring, decodes a record and is told that the device has stopped. -/
def oneRecordRun : List StreamRunAct :=
  .loop :: (List.range ringSize).flatMap (fun _ => [.ring (.submit none), .ring .note]) ++
    [.ring (.complete 0 .completed [0x55, 0x53, 1, 0, 0, 0, 0, 0, 5, 0, 0, 0, 7, 0] none .own),
      .look false, .decode, .decode, .poll (some (some ⟨none, false, 1, 0, 0, 1, 0⟩)), .loop]

def afterRun (acts : List StreamRunAct) : StreamRun :=
  acts.foldl (step onePinStream (fun _ => "")) (.start .start)

theorem worker_decodes_one_record :
    let s := afterRun oneRecordRun
    s.worker.handed.length = 1 ∧
      s.worker.decoded = (onePinStream.decoder.run .init s.taken).1.decoded :=
  ⟨by decide +kernel, ((worker_decodes .refl (@Lib.Follows.reach _ _ _ _ _ oneRecordRun
    (by decide +kernel))).2.2 (by decide +kernel)).1⟩

theorem bulkFailureText_ne (code : LibusbError) : bulkFailureText describe code ≠ "" := by
  intro same
  have empty := (String.append_eq_empty_iff.mp same).1
  revert empty
  decide +kernel

theorem deviceStoppedText_ne : deviceStoppedText ≠ "" := by
  decide +kernel

/-- What bulk_in() throws is the code the ring holds. -/
theorem read_throws {ring : BulkRing} {size : Nat} {code : LibusbError}
    (throws : (ring.read size).2 = some (.error code)) : ring.fatalError = some code := by
  unfold BulkRing.read at throws
  cases pending : ring.fatalError with
  | some noted =>
    rw [pending] at throws
    cases throws
    rfl
  | none =>
    rw [pending] at throws
    dsimp only at throws
    split at throws <;> cases throws

/-- How a look at the ring can end the worker. -/
theorem look_ends (gone : (s.look describe).pc = .ended) :
    ∃ code, s.ring.ring.fatalError = some code ∧
      (s.look describe).error = bulkFailureText describe code := by
  unfold look at gone ⊢
  cases came : (s.ring.ring.read chunkSize).2 with
  | none =>
    rw [came] at gone
    contradiction
  | some result =>
    rw [came] at gone
    cases result with
    | error code => exact ⟨code, read_throws came, rfl⟩
    | ok bytes => contradiction

/-- How the end of bulk_in()'s wait can end it. -/
theorem expire_ends (gone : s.expire.pc = .ended) :
    s.deviceStopped = true ∧ s.expire = { s with error := deviceStoppedText, pc := .ended } := by
  unfold expire at gone ⊢
  by_cases stopped : s.deviceStopped = true
  · rw [if_pos stopped]
    exact ⟨stopped, rfl⟩
  · rw [if_neg stopped] at gone
    contradiction

/-- error() is empty while the worker runs, and after it was asked to end. -/
structure Ends (s : StreamRun) : Prop where
  alive : s.pc ≠ .ended → s.error = ""
  asked : s.pc = .ended → s.error = "" → s.stopRequested = true

theorem ends_look (silent : s.error = "") : Ends (s.look describe) := by
  constructor
  · intro still
    unfold look at still ⊢
    cases came : (s.ring.ring.read chunkSize).2 with
    | none => exact silent
    | some result =>
      rw [came] at still
      cases result with
      | error code => exact absurd rfl still
      | ok bytes => exact silent
  · intro gone empty
    obtain ⟨code, _, text⟩ := look_ends gone
    exact absurd (text.symm.trans empty) (bulkFailureText_ne code)

theorem ends_expire (silent : s.error = "") : Ends s.expire := by
  constructor
  · intro still
    unfold expire at still ⊢
    by_cases stopped : s.deviceStopped = true
    · rw [if_pos stopped] at still
      exact absurd rfl still
    · rw [if_neg stopped]
      exact silent
  · intro gone empty
    rw [(expire_ends gone).2] at empty
    exact absurd empty deviceStoppedText_ne

theorem Reachable.ends (reached : Reachable impl describe first s) : Ends s := by
  apply Lib.Reach.invariant reached ⟨fun _ => rfl, fun gone _ => absurd gone (by simp [start])⟩
  intro u act inv allowed
  cases act with
  | loop =>
    have silent : u.error = "" := by
      apply inv.alive
      rw [enabled] at allowed
      rw [allowed]
      intro same
      contradiction
    refine ⟨fun _ => silent, fun gone _ => ?_⟩
    rw [step] at gone ⊢
    by_cases asked : u.stopRequested = true
    · exact asked
    · rw [if_neg asked] at gone
      contradiction
  | ring act => exact ⟨inv.alive, inv.asked⟩
  | look again => exact ends_look (inv.alive (looks_at allowed.1).2)
  | expire =>
    rw [enabled] at allowed
    have silent : u.error = "" := by
      apply inv.alive
      rw [allowed]
      intro same
      contradiction
    exact ends_expire silent
  | decode =>
    rw [enabled] at allowed
    have silent : u.error = "" := by
      apply inv.alive
      rw [allowed]
      intro same
      contradiction
    rw [step, decode]
    cases impl.decodeStep u.worker u.buffer with
    | none => exact ⟨fun _ => silent, fun gone _ => absurd gone (by simp)⟩
    | some r => exact ⟨fun _ => silent, fun gone _ => absurd gone (by simp [allowed])⟩
  | poll answer =>
    rw [enabled] at allowed
    have silent : u.error = "" := by
      apply inv.alive
      rw [allowed]
      intro same
      contradiction
    rcases answer with _ | _ | st
    · exact ⟨fun _ => silent, fun gone _ => absurd gone (by simp [step])⟩
    · exact ⟨fun _ => silent, fun gone _ => absurd gone (by simp [step])⟩
    · exact ⟨fun _ => silent, fun gone _ => absurd gone (by simp [step])⟩
  | read room => exact ⟨inv.alive, inv.asked⟩
  | stop => exact ⟨inv.alive, fun _ _ => rfl⟩

/-- An ended worker does nothing any more. -/
theorem ended_step (gone : s.pc = .ended) (act : StreamRunAct) (allowed : s.enabled act) :
    let after := s.step impl describe act
    after.pc = .ended ∧ after.error = s.error ∧ after.taken = s.taken ∧
      after.worker.decoded = s.worker.decoded := by
  cases act with
  | ring act => exact ⟨gone, rfl, rfl, rfl⟩
  | read room => exact ⟨gone, rfl, rfl, rfl⟩
  | stop => exact ⟨gone, rfl, rfl, rfl⟩
  | look again => exact absurd gone (looks_at allowed.1).2
  | _ =>
    rw [enabled, gone] at allowed
    contradiction

/-- The worker ends in one of three ways: at its loop's condition, once stop() has been called;
on the failure that the ring throws, whose text it keeps; or when a poll has found the device
stopped and bulk_in() returns nothing, and then every byte that the ring had been given when
bulk_in() last looked is decoded. What comes between that look and the deadline is not. error()
is empty as long as it runs and after the first of these, and nothing changes behind its end. -/
theorem worker_ends (used : first.Reachable) (reached : Reachable impl describe first s) :
    (s.pc ≠ .ended → s.error = "" ∧
      ∀ act, s.enabled act → (s.step impl describe act).pc = .ended →
        let after := s.step impl describe act
        (s.stopRequested = true ∧ after.error = "") ∨
        (∃ code, s.ring.ring.fatalError = some code ∧
          after.error = bulkFailureText describe code) ∨
        (s.deviceStopped = true ∧ after.error = deviceStoppedText ∧
          first.handed ++ after.taken = s.seen ∧ s.seen <+: s.ring.completed ∧
          after.worker.decoded = (impl.decoder.run .init after.taken).1.decoded)) ∧
      (s.pc = .ended →
        (s.error = "" → s.stopRequested = true) ∧
        ∀ act, s.enabled act →
          let after := s.step impl describe act
          after.pc = .ended ∧ after.error = s.error ∧ after.taken = s.taken ∧
            after.worker.decoded = s.worker.decoded) := by
  constructor
  · intro alive
    have silent := reached.ends.alive alive
    refine ⟨silent, ?_⟩
    intro act allowed gone
    cases act with
    | loop =>
      by_cases asked : s.stopRequested = true
      · exact .inl ⟨asked, silent⟩
      · rw [step, if_neg asked] at gone
        contradiction
    | look again => exact .inr (.inl (look_ends gone))
    | expire =>
      rw [enabled] at allowed
      obtain ⟨asked, same⟩ := expire_ends gone
      have looked := reached.looked used
      have settled : impl.decoder.run s.worker s.buffer = (s.worker, s.buffer) := by
        apply Lib.Incremental.run_wait
        apply (reached.decodes used).waits
        rw [allowed]
        intro same
        contradiction
      have whole := congrArg Prod.fst (reached.decodes used).decoded
      rw [settled] at whole
      refine .inr (.inr ⟨asked, ?_⟩)
      rw [step, same]
      exact ⟨rfl, looked.bytes allowed, looked.before, whole⟩
    | decode =>
      rw [enabled] at allowed
      rw [step, decode] at gone
      cases steps : impl.decodeStep s.worker s.buffer with
      | none =>
        rw [steps] at gone
        contradiction
      | some r =>
        rw [steps] at gone
        exact absurd gone alive
    | poll answer => cases answer <;> contradiction
    | ring act => exact absurd gone alive
    | read room => exact absurd gone alive
    | stop => exact absurd gone alive
  · intro gone
    exact ⟨reached.ends.asked gone, fun act allowed => ended_step gone act allowed⟩

/-- It then looks at an empty ring. -/
def drainedRun : List StreamRunAct := oneRecordRun ++ [.look false]

theorem worker_ends_drained :
    let s := afterRun drainedRun
    let after := s.step onePinStream (fun _ => "") .expire
    s.error = "" ∧ ((s.stopRequested = true ∧ after.error = "") ∨
      (∃ code, s.ring.ring.fatalError = some code ∧ after.error = bulkFailureText (fun _ => "") code) ∨
      (s.deviceStopped = true ∧ after.error = deviceStoppedText ∧
        RingRun.start.handed ++ after.taken = s.seen ∧ s.seen <+: s.ring.completed ∧
        after.worker.decoded = (onePinStream.decoder.run .init after.taken).1.decoded)) :=
  have ends := (worker_ends .refl (@Lib.Follows.reach _ _ _ _ _ drainedRun
    (by decide +kernel))).1 (by decide +kernel)
  ⟨ends.1, ends.2 .expire (by decide +kernel) (by decide +kernel)⟩

/-- The steps that making the ring still takes. -/
def makingLeft : RingPhase → Nat
  | .making i => 2 * (ringSize - i)
  | .submitting i _ => 2 * (ringSize - (i + 1)) + 1
  | _ => 0

/-- How many steps the worker can still take, once stop() has been called. -/
def left (s : StreamRun) : Nat :=
  match s.pc with
  | .top => 1
  | .polling => 2
  | .decoding => 3 + s.buffer.length
  | .waiting => 4 + s.buffer.length + chunkSize
  | .reading => 5 + s.buffer.length + chunkSize + makingLeft s.ring.phase
  | .ended => 0

/-- The worker goes on, other than by pumping events until the deadline of bulk_in(). -/
def advances : StreamRunAct → Bool
  | .loop | .ring (.submit _) | .ring .note | .look false | .expire | .decode | .poll _ => true
  | _ => false

theorem read_size {ring : BulkRing} {size : Nat} {bytes : List UInt8}
    (came : (ring.read size).2 = some (.ok bytes)) : bytes.length ≤ size := by
  unfold BulkRing.read at came
  cases pending : ring.fatalError with
  | some code =>
    rw [pending] at came
    cases came
  | none =>
    rw [pending] at came
    dsimp only at came
    split at came
    · cases came
    · cases came
      exact List.length_take_le ..

theorem look_left {again : Bool} (at_look : s.pc = if again then .waiting else .reading) :
    (s.look describe).left + (!again).toNat ≤ s.left := by
  have now : 4 + s.buffer.length + chunkSize + (!again).toNat ≤ s.left := by
    rw [left, at_look]
    cases again with
    | true => exact Nat.le_refl _
    | false =>
      simp only [Bool.not_false, Bool.toNat_true, Bool.false_eq_true, if_false]
      omega
  refine Nat.le_trans (Nat.add_le_add_right ?_ _) now
  unfold look
  cases came : (s.ring.ring.read chunkSize).2 with
  | none => exact Nat.le_refl _
  | some result =>
    cases result with
    | error code =>
      simp only [left]
      omega
    | ok bytes =>
      have size := read_size came
      simp only [left, List.length_append]
      omega

theorem expire_left (waiting : s.pc = .waiting) : s.expire.left + 1 ≤ s.left := by
  have now : s.left = 4 + s.buffer.length + chunkSize := by rw [left, waiting]
  rw [now]
  unfold expire
  split
  · simp only [left]
    omega
  · simp only [left]
    omega

theorem decode_left (decoding : s.pc = .decoding) : (s.decode impl).left + 1 ≤ s.left := by
  have now : s.left = 3 + s.buffer.length := by rw [left, decoding]
  rw [now]
  unfold decode
  cases steps : impl.decodeStep s.worker s.buffer with
  | none =>
    simp only [left]
    omega
  | some r =>
    obtain ⟨w, n⟩ := r
    have shorter : (s.buffer.drop n).length < s.buffer.length :=
      @Lib.Incremental.drop_shorter _ _ impl.decoder _ _ _ _ steps
    simp only [left, decoding]
    omega

/-- Making the ring takes as many steps as are left to make it. -/
theorem making_left {r : RingRun} (reached : r.Reachable) (act : RingAct) (allowed : r.enabled act)
    (makes : advances (.ring act) = true) :
    makingLeft (r.step act).phase + 1 ≤ makingLeft r.phase := by
  have held := reached.held
  cases act with
  | submit answer =>
    cases phase : r.phase with
    | making i =>
      have below : i < ringSize := held.inside i (by simp [phase, RingPhase.slot])
      simp only [RingRun.step, RingRun.submit, phase, makingLeft]
      omega
    | _ => simp [RingRun.enabled, phase, RingPhase.isMaking] at allowed
  | note =>
    cases phase : r.phase with
    | submitting i answer =>
      simp only [RingRun.step, RingRun.note, phase]
      split
      · simp only [makingLeft]
        omega
      · simp only [makingLeft]
        omega
    | _ => simp [RingRun.enabled, phase, RingPhase.isSubmitting] at allowed
  | _ => contradiction

/-- Once stop() has been called, each step of the worker leaves fewer. -/
theorem step_left (ring : s.ring.Reachable) (asked : s.stopRequested = true) (act : StreamRunAct)
    (allowed : s.enabled act) :
    (s.step impl describe act).left + (advances act).toNat ≤ s.left := by
  cases act with
  | loop =>
    rw [enabled] at allowed
    rw [step, if_pos asked]
    simp only [left, allowed, advances, Bool.toNat_true]
    omega
  | ring act =>
    have makes : ∀ reading : s.pc = .reading, advances (.ring act) = true → s.ring.enabled act →
        (s.step impl describe (.ring act)).left + 1 ≤ s.left := by
      intro reading goes may
      have fewer := making_left ring act may goes
      simp only [step, left, reading]
      omega
    cases act with
    | submit answer => exact makes allowed.1 rfl allowed.2
    | note => exact makes allowed.1 rfl allowed.2
    | complete i status bytes answer thread =>
      obtain ⟨_, _, _, _, same, _⟩ := @RingRun.complete_held s.ring i status bytes answer thread
      rw [step, left, left]
      dsimp only
      rw [RingRun.step, same]
      exact Nat.le_refl _
    | leave => exact absurd allowed id
    | read size => exact absurd allowed id
    | close => exact absurd allowed id
    | free => exact absurd allowed id
  | look again =>
    have fewer := @look_left describe s again allowed.1
    cases again with
    | true => exact fewer
    | false => exact fewer
  | expire => exact expire_left allowed
  | decode => exact decode_left allowed
  | poll answer =>
    rw [enabled] at allowed
    cases answer with
    | none =>
      simp only [step, left, allowed, advances, Bool.toNat_true]
      omega
    | some told =>
      simp only [step, left, allowed, advances, Bool.toNat_true]
      omega
  | read room => exact Nat.le_refl _
  | stop => exact Nat.le_refl _

theorem step_asked (asked : s.stopRequested = true) (act : StreamRunAct) :
    (s.step impl describe act).stopRequested = true := by
  cases act with
  | look again =>
    rw [step, look]
    split <;> exact asked
  | expire =>
    rw [step, expire]
    split <;> exact asked
  | decode =>
    rw [step, decode]
    split <;> exact asked
  | poll answer => rcases answer with _ | _ | st <;> exact asked
  | stop => rfl
  | _ => exact asked

/-- The ring of a Stream is being made or in use. -/
theorem Reachable.inUse (fresh : first.phase.ends = false)
    (reached : Reachable impl describe first s) : s.ring.phase.ends = false := by
  apply Lib.Reach.invariant reached fresh
  intro u act inv allowed
  cases act with
  | ring act =>
    cases act with
    | submit answer =>
      simp only [step, RingRun.step, RingRun.submit]
      split
      · rfl
      · exact inv
    | note =>
      simp only [step, RingRun.step, RingRun.note]
      split
      · dsimp only
        split <;> rfl
      · exact inv
    | complete i status bytes answer thread =>
      obtain ⟨_, _, _, _, same, _⟩ := @RingRun.complete_held u.ring i status bytes answer thread
      rw [step, RingRun.step, same]
      exact inv
    | leave => exact absurd allowed id
    | read size => exact absurd allowed id
    | close => exact absurd allowed id
    | free => exact absurd allowed id
  | look again =>
    rw [step, look]
    split <;> exact inv
  | expire =>
    rw [step, expire]
    split <;> exact inv
  | decode =>
    rw [step, decode]
    split <;> exact inv
  | poll answer => rcases answer with _ | _ | st <;> exact inv
  | _ => exact inv

theorem left_eq_zero : s.left = 0 ↔ s.pc = .ended := by
  cases pc : s.pc <;> simp [left, pc]

theorem advances_enabled (inUse : s.ring.phase.ends = false) (alive : s.pc ≠ .ended) :
    ∃ act, advances act = true ∧ s.enabled act := by
  cases pc : s.pc with
  | top => exact ⟨.loop, rfl, pc⟩
  | reading =>
    cases phase : s.ring.phase with
    | making i => exact ⟨.ring (.submit none), rfl, pc, by simp [RingRun.enabled, phase, RingPhase.isMaking]⟩
    | submitting i answer =>
      exact ⟨.ring .note, rfl, pc, by simp [RingRun.enabled, phase, RingPhase.isSubmitting]⟩
    | working => exact ⟨.look false, rfl, pc, phase⟩
    | _ =>
      rw [phase] at inUse
      contradiction
  | waiting => exact ⟨.expire, rfl, pc⟩
  | decoding => exact ⟨.decode, rfl, pc⟩
  | polling => exact ⟨.poll none, rfl, pc⟩
  | ended => exact absurd pc alive

/-- stop() waits for a bounded number of steps of the worker: from its request on, whatever
arrives and whatever is read meanwhile, the worker takes at most `left` steps besides pumping
events, it has ended when none is left, and until then it has one to take. -/
theorem stop_ends_worker (used : first.Reachable) (fresh : first.phase.ends = false)
    (reached : Reachable impl describe first s) (asked : s.stopRequested = true)
    (acts : List StreamRunAct) (follows : Lib.Follows (step impl describe) enabled s acts) :
    let after := acts.foldl (step impl describe) s
    acts.countP advances + after.left ≤ s.left ∧ (after.left = 0 ↔ after.pc = .ended) ∧
      (after.pc ≠ .ended → ∃ act, advances act = true ∧ after.enabled act) := by
  induction acts generalizing s with
  | nil =>
    refine ⟨Nat.le_of_eq (Nat.zero_add _), left_eq_zero, ?_⟩
    exact advances_enabled (reached.inUse fresh)
  | cons act acts ih =>
    obtain ⟨allowed, rest⟩ := follows
    have fewer := @step_left impl describe s (reached.decodes used).ring asked act allowed
    have after := ih (.tail act reached allowed) (step_asked asked act) rest
    refine ⟨?_, after.2⟩
    have more := after.1
    rw [List.countP_cons, List.foldl_cons]
    cases goes : advances act with
    | true =>
      rw [goes, Bool.toNat_true] at fewer
      rw [if_pos rfl]
      omega
    | false =>
      rw [goes, Bool.toNat_false] at fewer
      rw [if_neg (by simp)]
      omega

/-- stop() in the first bulk_in(). -/
theorem stop_ends_worker_reading :
    let s := afterRun [.loop, .stop]
    let after := afterRun [.loop, .stop, .ring (.submit none), .ring .note]
    [StreamRunAct.ring (.submit none), .ring .note].countP advances + after.left ≤ s.left :=
  (stop_ends_worker .refl rfl (@Lib.Follows.reach _ _ _ _ _ [StreamRunAct.loop, .stop]
    (by decide +kernel)) rfl [.ring (.submit none), .ring .note] (by decide +kernel)).1

end StreamRun

end ArduinoDriver
