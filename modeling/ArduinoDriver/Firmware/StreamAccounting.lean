import ArduinoDriver.Firmware.Phases
import ArduinoDriver.Lib.Journal

namespace ArduinoDriver

/-- What the log says of the streaming session that began with the last reset
done for a START. -/
structure Account where
  /-- The records stream_sample() accepted, less those dropped with the backlog. -/
  kept : List (List UInt8)
  /-- The packets the transport answered SENT for. -/
  sent : List (List UInt8)
  overruns : Nat

def Account.empty : Account := ⟨[], [], 0⟩

def Obs.account : Obs → Account → Account
  | .streamReset, _ => .empty
  | .sampled record, a => { a with kept := a.kept ++ [record] }
  | .overrun, a => { a with overruns := a.overruns + 1 }
  | .wrote packet .sent, a => { a with sent := a.sent ++ [packet] }
  | .dropped n, a =>
    { a with kept := a.kept.take (a.kept.length - n), overruns := a.overruns + n }
  | _, a => a

def Log.account (log : Log) : Account := log.foldr Obs.account .empty

/-- The ring's records, oldest first. -/
def StreamState.records (s : StreamState) : List (List UInt8) :=
  Lib.Ring.contents streamRingDepth s.ring s.tail s.head

/-- 1 while stream_sample() holds a record it has numbered but not placed. -/
def StreamPc.inFlight : StreamPc → Nat
  | .roomTest .. | .bumpOverruns .. | .pushRecord .. => 1
  | _ => 0

def Pc.inFlight : Pc → Nat
  | .stream pc => pc.inFlight
  | _ => 0

/-- What stream_poll() has assembled at a point of its run: a record longer than
its header, a packet that is not empty. -/
def StreamPc.Formed (s : StreamState) : StreamPc → Prop
  | .channelTest _ buf _ | .channelRead _ buf _ | .digitalTest _ buf | .bitmapPin _ buf _ _
  | .bumpSeq _ buf | .roomTest _ buf | .pushRecord _ buf => streamHeaderLen ≤ buf.length
  | .writeCall => s.packet ≠ []
  | .writeResult packet => s.packet ≠ [] ∧ packet = s.packet
  | _ => True

def Pc.Formed (s : StreamState) : Pc → Prop
  | .stream pc => pc.Formed s
  | _ => True

/-- The balance of the session: `groups` are the records of each packet sent,
`pending` those of the packet being filled, `flying` the record on its way. -/
structure Balanced (s : StreamState) (a : Account) (flying : Nat)
    (groups : List (List (List UInt8))) (pending : List (List UInt8)) : Prop where
  packets : a.sent = groups.map List.flatten
  packet : s.packet = pending.flatten
  kept : a.kept = groups.flatten ++ (pending ++ s.records)
  counted : s.packetRecords.toNat = pending.length
  seq : s.seq = UInt32.ofNat
    (groups.flatten.length + s.packetRecords.toNat + (s.head - s.tail).toNat + flying) + s.overruns
  overruns : s.overruns = UInt32.ofNat a.overruns
  long : ∀ record ∈ a.kept, streamHeaderLen ≤ record.length
  filled : ∀ group ∈ groups, group ≠ []

/-- A packet of whole records the device sampled. -/
structure WholePacket (b : Board) (log : Log) (packet : List UInt8) : Prop where
  nonempty : packet ≠ []
  fits : packet.length ≤ b.packetMax
  whole : ∃ records : List (List UInt8), packet = records.flatten ∧
    ∀ record ∈ records, Obs.sampled record ∈ log

/-- The books of a machine. -/
structure Audited (b : Board) (m : Machine) : Prop where
  balanced : ∃ groups pending,
    Balanced m.dev.stream m.log.account m.pc.inFlight groups pending
  formed : m.pc.Formed m.dev.stream
  sampled : ∀ record ∈ m.log.account.kept, Obs.sampled record ∈ m.log
  wrote : ∀ packet result, Obs.wrote packet result ∈ m.log → WholePacket b m.log packet

/-- A stream whose ring, packet and counters are those of another. -/
structure SameBooks (s' s : StreamState) : Prop where
  ring : s'.ring = s.ring
  head : s'.head = s.head
  tail : s'.tail = s.tail
  packet : s'.packet = s.packet
  counted : s'.packetRecords = s.packetRecords
  seq : s'.seq = s.seq
  overruns : s'.overruns = s.overruns

variable {b : Board} {env : Env} {d d' : UsbIoDevice} {o : Obs} {log : Log}
  {s s' : StreamState} {a : Account} {flying : Nat} {groups : List (List (List UInt8))}
  {pending : List (List UInt8)}

theorem SameBooks.records (h : SameBooks s' s) : s'.records = s.records := by
  unfold StreamState.records
  rw [h.ring, h.head, h.tail]

theorem Balanced.congr (h : Balanced s a flying groups pending) (same : SameBooks s' s) :
    Balanced s' a flying groups pending where
  packets := h.packets
  packet := by rw [same.packet, h.packet]
  kept := by rw [same.records, h.kept]
  counted := by rw [same.counted, h.counted]
  seq := by rw [same.seq, same.counted, same.head, same.tail, same.overruns, h.seq]
  overruns := by rw [same.overruns, h.overruns]
  long := h.long
  filled := h.filled

@[simp] theorem StreamState.records_length (s : StreamState) :
    s.records.length = (s.head - s.tail).toNat :=
  Lib.Ring.contents_length

theorem StreamState.dropBacklog_overruns (s : StreamState) : s.dropBacklog.overruns =
    s.overruns + UInt32.ofNat (s.packetRecords.toNat + (s.head - s.tail).toNat) := by
  change s.overruns + s.packetRecords.toUInt32 + (s.head - s.tail).toUInt32 = _
  rw [UInt32.ofNat_add, UInt32.add_assoc]
  congr 2 <;> simp

theorem flatten_length_ge {records : List (List UInt8)} {n : Nat}
    (long : ∀ record ∈ records, n ≤ record.length) : n * records.length ≤ records.flatten.length := by
  induction records with
  | nil => simp
  | cons record records ih =>
    have first := long record (by simp)
    have rest := ih (fun r inside => long r (by simp [inside]))
    simp only [List.length_cons, List.flatten_cons, List.length_append, Nat.mul_add, Nat.mul_one]
    omega

namespace Balanced

theorem restart (s : StreamState) (now : UInt32) : Balanced (s.restart now) .empty 0 [] [] where
  packets := rfl
  packet := rfl
  kept := by simp [Account.empty, StreamState.records, StreamState.restart]
  counted := rfl
  seq := by simp [StreamState.restart]
  overruns := rfl
  long := by simp [Account.empty]
  filled := by simp

/-- stream_sample() numbers its record. -/
theorem number (h : Balanced s a 0 groups pending) :
    Balanced { s with seq := s.seq + 1 } a 1 groups pending :=
  { h with
    seq := by
      dsimp only
      have one : UInt32.ofNat 1 = 1 := rfl
      rw [h.seq, UInt32.ofNat_add _ 1, one, Nat.add_zero]
      ac_rfl }

/-- The numbered record finds no room. -/
theorem overrun (h : Balanced s a 1 groups pending) :
    Balanced { s with overruns := s.overruns + 1 } { a with overruns := a.overruns + 1 } 0
      groups pending :=
  { h with
    seq := by
      dsimp only
      have one : UInt32.ofNat 1 = 1 := rfl
      rw [h.seq, UInt32.ofNat_add _ 1, one, Nat.add_zero]
      ac_rfl
    overruns := by
      dsimp only
      rw [h.overruns, UInt32.ofNat_add]
      rfl }

/-- The numbered record goes into the ring. -/
theorem push {record : List UInt8} (h : Balanced s a 1 groups pending)
    (room : (s.head - s.tail).toNat < streamRingDepth) (long : streamHeaderLen ≤ record.length) :
    Balanced (s.push record) { a with kept := a.kept ++ [record] } 0 groups pending :=
  { h with
    kept := by
      dsimp only
      rw [h.kept]
      have grown : (s.push record).records = s.records ++ [record] :=
        Lib.Ring.contents_push (by decide) (by decide) room record
      rw [grown]
      simp only [List.append_assoc]
    seq := by
      have limit : streamRingDepth = 32 := rfl
      have count : (s.head + 1 - s.tail).toNat = (s.head - s.tail).toNat + 1 :=
        Lib.Ring.count_head (by omega)
      change s.seq = UInt32.ofNat (_ + s.packetRecords.toNat + (s.head + 1 - s.tail).toNat + 0) + _
      rw [count, h.seq]
      rfl
    long := by
      intro record' inside
      rcases List.mem_append.mp inside with old | new
      · exact h.long record' old
      · rw [List.mem_singleton.mp new]
        exact long }

/-- One record moves from the ring to the packet. -/
theorem pack {now : UInt32} (h : Balanced s a 0 groups pending) (more : s.tail ≠ s.head)
    (fits : s.packet.length + s.front.length ≤ b.packetMax) :
    Balanced (s.pack now) a 0 groups (pending ++ [s.front]) := by
  have popped : s.records = s.front :: (s.pack now).records := Lib.Ring.contents_pop more
  have long : ∀ record ∈ pending ++ [s.front], streamHeaderLen ≤ record.length := by
    intro record inside
    apply h.long
    rw [h.kept, popped]
    rcases List.mem_append.mp inside with old | new
    · simp [old]
    · simp [List.mem_singleton.mp new]
  have few := flatten_length_ge long
  have header : streamHeaderLen = 12 := rfl
  rw [List.flatten_append, List.length_append, ← h.packet, List.length_append,
    List.length_singleton, List.flatten_singleton, header] at few
  have counted : (s.packetRecords + 1).toNat = s.packetRecords.toNat + 1 := by
    have := b.packetMax_eq
    have := h.counted
    simp only [UInt8.toNat_add, UInt8.toNat_one]
    omega
  have left := Lib.Ring.count_tail more
  exact { h with
    packet := by
      change s.packet ++ s.front = _
      simp [h.packet]
    kept := by
      rw [h.kept, popped]
      simp only [List.append_assoc, List.singleton_append]
    counted := by
      change (s.packetRecords + 1).toNat = _
      rw [counted, h.counted, List.length_append, List.length_singleton]
    seq := by
      change s.seq = UInt32.ofNat (_ + (s.packetRecords + 1).toNat +
        (s.head - (s.tail + 1)).toNat + 0) + s.overruns
      rw [h.seq, counted]
      congr 2
      omega }

/-- The transport took the packet. -/
theorem sent (h : Balanced s a 0 groups pending) (nonempty : s.packet ≠ []) :
    Balanced s.sent { a with sent := a.sent ++ [s.packet] } 0 (groups ++ [pending]) [] :=
  { h with
    packets := by
      dsimp only
      rw [h.packets, h.packet, List.map_append, List.map_singleton]
    packet := rfl
    kept := by
      have same : s.sent.records = s.records := rfl
      rw [same, h.kept, List.flatten_append, List.flatten_singleton, List.nil_append,
        List.append_assoc]
    counted := rfl
    seq := by
      change s.seq = UInt32.ofNat (_ + 0 + (s.head - s.tail).toNat + 0) + s.overruns
      rw [h.seq, List.flatten_append, List.length_append, List.flatten_singleton, h.counted]
      rfl
    filled := by
      intro group inside
      rcases List.mem_append.mp inside with old | new
      · exact h.filled group old
      · rw [List.mem_singleton.mp new]
        rintro rfl
        exact nonempty h.packet }

/-- The backlog is dropped and counted. -/
theorem drop (h : Balanced s a 0 groups pending) :
    let n := s.packetRecords.toNat + (s.head - s.tail).toNat
    Balanced s.dropBacklog
      { a with kept := a.kept.take (a.kept.length - n), overruns := a.overruns + n } 0 groups [] := by
  intro n
  have n_eq : n = (pending ++ s.records).length := by
    rw [List.length_append, StreamState.records_length, ← h.counted]
  have left : a.kept.take (a.kept.length - n) = groups.flatten := by
    rw [n_eq, h.kept, List.length_append, Nat.add_sub_cancel, List.take_left]
  have empty : s.dropBacklog.records = [] := Lib.Ring.contents_self
  have overruns : s.dropBacklog.overruns = s.overruns + UInt32.ofNat n := s.dropBacklog_overruns
  exact {
    packets := h.packets
    packet := rfl
    kept := by
      dsimp only
      rw [left, empty, List.append_nil, List.append_nil]
    counted := rfl
    seq := by
      have gone : (s.dropBacklog.head - s.dropBacklog.tail).toNat = 0 := by
        simp [StreamState.dropBacklog]
      rw [overruns, gone]
      change s.seq = UInt32.ofNat (_ + 0 + 0 + 0) + (_ + _)
      have all : groups.flatten.length + s.packetRecords.toNat + (s.head - s.tail).toNat + 0 =
        groups.flatten.length + n := by omega
      rw [h.seq, all, UInt32.ofNat_add]
      simp only [Nat.add_zero]
      ac_rfl
    overruns := by
      dsimp only
      rw [overruns, h.overruns, ← UInt32.ofNat_add]
    long := by
      intro record inside
      exact h.long record (List.mem_of_mem_take inside)
    filled := h.filled }

end Balanced

theorem WholePacket.mono {packet : List UInt8} {news : Log} (h : WholePacket b log packet) :
    WholePacket b (news ++ log) packet := by
  obtain ⟨records, eq, sampled⟩ := h.whole
  exact ⟨h.nonempty, h.fits, records, eq, fun record inside => by simp [sampled record inside]⟩

/-- Log entries the books do not read. -/
def Obs.offBooks : Obs → Bool
  | .streamReset | .sampled _ | .overrun | .wrote .. | .dropped _ => false
  | _ => true

theorem Obs.account_offBooks {o : Obs} (off : o.offBooks) (a : Account) : o.account a = a := by
  cases o <;> first | rfl | contradiction

theorem account_append {news : Log} (off : ∀ o ∈ news, o.offBooks) :
    Log.account (news ++ log) = log.account :=
  Lib.Journal.foldr_inert (fun o inside a => Obs.account_offBooks (off o inside) a)

theorem SameBooks.refl (s : StreamState) : SameBooks s s :=
  ⟨rfl, rfl, rfl, rfl, rfl, rfl, rfl⟩

/-- The books after a step that reports `news`. -/
theorem Audited.advance {m m' : Machine} (news : Log) (h : Audited b m)
    (log_eq : m'.log = news ++ m.log)
    (balanced : ∃ groups pending,
      Balanced m'.dev.stream (Log.account (news ++ m.log)) m'.pc.inFlight groups pending)
    (formed : m'.pc.Formed m'.dev.stream)
    (sampled : ∀ record ∈ (Log.account (news ++ m.log)).kept,
      record ∈ m.log.account.kept ∨ Obs.sampled record ∈ news)
    (wrote : ∀ packet result, Obs.wrote packet result ∈ news → WholePacket b m.log packet) :
    Audited b m' := by
  rw [← log_eq] at balanced sampled
  refine ⟨balanced, formed, ?_, ?_⟩
  · intro record inside
    rw [log_eq]
    rcases sampled record inside with old | new
    · exact List.mem_append_right _ (h.sampled record old)
    · exact List.mem_append_left _ new
  · intro packet result inside
    rw [log_eq] at inside ⊢
    rcases List.mem_append.mp inside with new | old
    · exact (wrote packet result new).mono
    · exact (h.wrote packet result old).mono

/-- The books stay good when a step leaves the ring, the packet and the counters
alone and reports nothing they read. -/
theorem Audited.untouched {m m' : Machine} (news : Log) (h : Audited b m)
    (log_eq : m'.log = news ++ m.log) (off : ∀ o ∈ news, o.offBooks)
    (same : SameBooks m'.dev.stream m.dev.stream) (flying : m'.pc.inFlight = m.pc.inFlight)
    (formed : m'.pc.Formed m'.dev.stream) : Audited b m' := by
  obtain ⟨groups, pending, balanced⟩ := h.balanced
  refine h.advance news log_eq ⟨groups, pending, ?_⟩ formed ?_ ?_
  · rw [account_append off, flying]
    exact balanced.congr same
  · intro record inside
    rw [account_append off] at inside
    exact .inl inside
  · intro packet result inside
    have := off _ inside
    contradiction

/-- The packet at hand is made of whole records. -/
theorem Audited.wholePacket {m : Machine} (h : Audited b m) (ok : m.Ok b)
    (nonempty : m.dev.stream.packet ≠ []) : WholePacket b m.log m.dev.stream.packet := by
  obtain ⟨groups, pending, balanced⟩ := h.balanced
  refine ⟨nonempty, ok.dev.packet, pending, balanced.packet, ?_⟩
  intro record inside
  apply h.sampled
  rw [balanced.kept]
  simp [inside]

theorem padBitmap_length (buf bits : List UInt8) : buf.length ≤ (padBitmap buf bits).length := by
  unfold padBitmap
  split <;> simp only [List.length_append] <;> omega

/-- stream_poll() keeps the books. -/
theorem streamStep_audited {pc : StreamPc} (ok : Machine.Ok b ⟨d, .stream pc, log⟩)
    (h : Audited b ⟨d, .stream pc, log⟩) : Audited b (loopStep b env ⟨d, .stream pc, log⟩) := by
  obtain ⟨groups, pending, balanced⟩ := h.balanced
  cases pc with
  | startTest =>
    refine h.untouched [.startTested] rfl (by simp [Obs.offBooks]) (.refl _) ?_ ?_ <;>
      simp only [loopStep, streamStep] <;> split <;> trivial
  | startReset =>
    exact h.advance [.streamReset] rfl ⟨[], [], Balanced.restart d.stream env.micros⟩ trivial
      (by simp [Log.account, Obs.account, Account.empty]) (by simp)
  | runTest | stopFlagTest | periodTest =>
    refine h.untouched [] rfl (by simp) (.refl _) ?_ ?_ <;>
      simp only [loopStep, streamStep] <;> split <;> trivial
  | dueTest =>
    refine h.untouched [] rfl (by simp) (.refl _) ?_ ?_ <;>
      simp only [loopStep, streamStep] <;> split <;> trivial
  | sampleHeader now =>
    exact h.untouched [] rfl (by simp) (.refl _) rfl (Nat.le_refl _)
  | channelTest now buf i =>
    have long : streamHeaderLen ≤ buf.length := h.formed
    refine h.untouched [] rfl (by simp) (.refl _) ?_ ?_ <;>
      simp only [loopStep, streamStep] <;> split <;> trivial
  | channelRead now buf i =>
    have long : streamHeaderLen ≤ buf.length := h.formed
    refine h.untouched [] rfl (by simp) (.refl _) rfl ?_
    change streamHeaderLen ≤ (buf ++ _).length
    rw [List.length_append]
    omega
  | digitalTest now buf =>
    have long : streamHeaderLen ≤ buf.length := h.formed
    refine h.untouched [] rfl (by simp) (.refl _) ?_ ?_ <;>
      simp only [loopStep, streamStep] <;> split <;> trivial
  | bitmapPin now buf bits p =>
    have long : streamHeaderLen ≤ buf.length := h.formed
    have padded : streamHeaderLen ≤ (padBitmap buf bits).length :=
      long.trans (padBitmap_length buf bits)
    refine h.untouched [] rfl (by simp) (.refl _) ?_ ?_ <;>
      simp only [loopStep, streamStep] <;> split <;> trivial
  | bumpSeq now buf =>
    exact h.advance [] rfl ⟨groups, pending, balanced.number⟩ h.formed (fun _ => .inl) (by simp)
  | roomTest now buf =>
    have long : streamHeaderLen ≤ buf.length := h.formed
    refine h.untouched [] rfl (by simp) (.refl _) ?_ ?_ <;>
      simp only [loopStep, streamStep] <;> split <;> trivial
  | bumpOverruns now =>
    exact h.advance [.overrun] rfl ⟨groups, pending, balanced.overrun⟩ trivial (fun _ => .inl)
      (by simp)
  | pushRecord now buf =>
    refine h.advance [.sampled buf] rfl ⟨groups, pending, balanced.push ok.pc h.formed⟩ trivial ?_
      (by simp)
    intro record inside
    rcases List.mem_append.mp inside with old | new
    · exact .inl old
    · rw [List.mem_singleton.mp new]
      exact .inr (by simp)
  | packRecord =>
    by_cases more : d.stream.tail ≠ d.stream.head
    · by_cases fits : b.packetMax < d.stream.packet.length + d.stream.front.length
      · refine h.untouched [] ?_ (by simp) ?_ ?_ ?_ <;>
          simp only [loopStep, streamStep, if_pos more, if_pos fits]
        · rfl
        · exact .refl _
        · rfl
        · trivial
      · refine h.advance [] ?_ ?_ ?_ (fun _ => .inl) (by simp) <;>
          simp only [loopStep, streamStep, if_pos more, if_neg fits]
        · rfl
        · exact ⟨groups, _, balanced.pack more (Nat.not_lt.mp fits)⟩
        · trivial
    · refine h.untouched [] ?_ (by simp) ?_ ?_ ?_ <;>
        simp only [loopStep, streamStep, if_neg more]
      · rfl
      · exact .refl _
      · rfl
      · trivial
  | flushTest =>
    by_cases empty : d.stream.packet = []
    · refine h.untouched [.pollReturned] ?_ (by simp [Obs.offBooks]) ?_ ?_ ?_ <;>
        simp only [loopStep, streamStep, if_pos empty]
      · rfl
      · exact .refl _
      · rfl
      · trivial
    · simp only [loopStep, streamStep, if_neg empty]
      split
      · exact h.untouched [.pollReturned] rfl (by simp [Obs.offBooks]) (.refl _) rfl trivial
      · exact h.untouched [] rfl (by simp) (.refl _) rfl empty
  | writeCall =>
    exact h.untouched [] rfl (by simp) (.refl _) rfl ⟨h.formed, rfl⟩
  | writeResult packet =>
    have nonempty : d.stream.packet ≠ [] := h.formed.1
    obtain rfl : packet = d.stream.packet := h.formed.2
    have whole := h.wholePacket ok nonempty
    have only : ∀ result packet' result', Obs.wrote packet' result' ∈
        [Obs.pollReturned, .wrote d.stream.packet result] → WholePacket b log packet' := by
      intro result packet' result' inside
      simp only [List.mem_cons, reduceCtorEq, Obs.wrote.injEq, List.not_mem_nil, or_false,
        false_or] at inside
      rw [inside.1]
      exact whole
    simp only [loopStep, streamStep]
    cases env.streamWrite with
    | busy =>
      exact h.advance [.pollReturned, .wrote _ .busy] rfl ⟨groups, pending, balanced⟩ trivial
        (fun _ => .inl) (only .busy)
    | failed =>
      have kept : Balanced { d.stream with txFailures := d.stream.txFailures + 1 }
          log.account 0 groups pending := balanced.congr ⟨rfl, rfl, rfl, rfl, rfl, rfl, rfl⟩
      dsimp only
      split
      · exact h.advance [.pollReturned, .wrote _ .failed] rfl ⟨groups, pending, kept⟩ trivial
          (fun _ => .inl) (only .failed)
      · exact h.advance [.wrote _ .failed] rfl ⟨groups, pending, kept⟩ trivial
          (fun _ => .inl) (fun packet' result' inside =>
            only .failed packet' result' (List.mem_cons_of_mem _ inside))
    | sent =>
      exact h.advance [.pollReturned, .wrote _ .sent] rfl
        ⟨groups ++ [pending], [], balanced.sent nonempty⟩ trivial (fun _ => .inl) (only .sent)
  | failDrop =>
    refine h.advance [.pollReturned, .dropped _] rfl ⟨groups, [], balanced.drop⟩ trivial ?_ (by simp)
    intro record inside
    exact .inl (List.mem_of_mem_take inside)
  | catchUp now =>
    refine h.untouched [] rfl (by simp) ?_ rfl trivial
    simp only [loopStep, streamStep]
    split
    · exact .refl _
    · exact ⟨rfl, rfl, rfl, rfl, rfl, rfl, rfl⟩
  | startDone | stopRunning | advance | failStop =>
    exact h.untouched [] rfl (by simp) ⟨rfl, rfl, rfl, rfl, rfl, rfl, rfl⟩ rfl trivial

/-- The interrupt side leaves the ring, the packet and the counters alone. -/
theorem Served.sameBooks (served : Served b env d d' o) :
    SameBooks d'.stream d.stream ∧ o.offBooks := by
  cases served with
  | moded index value mode =>
    refine ⟨?_, rfl⟩
    unfold recordMode
    dsimp only
    split <;> exact ⟨rfl, rfl, rfl, rfl, rfl, rfl, rfl⟩
  | added | removed | started | stopped | reset =>
    exact ⟨⟨rfl, rfl, rfl, rfl, rfl, rfl, rfl⟩, rfl⟩
  | _ => exact ⟨.refl _, rfl⟩

theorem Pc.Formed.congr {pc : Pc} (h : pc.Formed s) (packet : s'.packet = s.packet) :
    pc.Formed s' := by
  cases pc with
  | stream pc =>
    cases pc with
    | writeCall =>
      change s'.packet ≠ []
      rw [packet]
      exact h
    | writeResult written =>
      change s'.packet ≠ [] ∧ written = s'.packet
      rw [packet]
      exact h
    | _ => exact h
  | _ => trivial

theorem Obs.offBooks_of_offStream (off : o.offStream) : o.offBooks := by
  cases o <;> first | rfl | contradiction

theorem loopStep_audited {m : Machine} (ok : m.Ok b) (h : Audited b m) :
    Audited b (loopStep b env m) := by
  by_cases other : m.pc.offStream
  · obtain ⟨stream, pc, news, log_eq, off⟩ := loopStep_offStream b env m other
    have still : m.pc.inFlight = 0 := by
      cases eq : m.pc <;> first | rfl | (rw [eq] at other; contradiction)
    refine h.untouched news log_eq (fun o inside => Obs.offBooks_of_offStream (off o inside))
      (stream ▸ .refl _) ?_ ?_
    · rw [still]
      rcases pc with pc | pc
      · cases eq : (loopStep b env m).pc <;> first | rfl | (rw [eq] at pc; contradiction)
      · rw [pc]
        rfl
    · rcases pc with pc | pc
      · cases eq : (loopStep b env m).pc <;> first | trivial | (rw [eq] at pc; contradiction)
      · rw [pc]
        trivial
  · obtain ⟨d, pc, log⟩ := m
    cases pc with
    | stream pc => exact streamStep_audited ok h
    | _ => exact absurd rfl other

theorem step_audited {m : Machine} (act : Act) (ok : m.Ok b) (h : Audited b m) :
    Audited b (step b m act) := by
  cases act with
  | setup env s =>
    have ⟨same, off⟩ := (handleSetup_served b env m.dev s).sameBooks
    exact h.untouched [_] rfl (by simpa using off) same rfl (h.formed.congr same.packet)
  | disconnect =>
    have same : SameBooks (handleUsbDisconnected m.dev).stream m.dev.stream :=
      ⟨rfl, rfl, rfl, rfl, rfl, rfl, rfl⟩
    exact h.untouched [.disconnected] rfl (by simp [Obs.offBooks]) same rfl
      (h.formed.congr same.packet)
  | loop env => exact loopStep_audited ok h

/-- Only the push reports a record. -/
theorem streamStep_sampled {record : List UInt8} {pc : StreamPc}
    (inside : Obs.sampled record ∈ (streamStep b env d pc).2.2) : ∃ now, pc = .pushRecord now record := by
  cases pc with
  | pushRecord now buf =>
    obtain rfl : record = buf := by simpa [streamStep] using inside
    exact ⟨now, rfl⟩
  | packRecord | flushTest | writeResult =>
    simp only [streamStep] at inside
    repeat' split at inside
    all_goals simp at inside
  | _ => simp [streamStep] at inside

theorem returnLog_sampled {pc : Pc} {record : List UInt8} : Obs.sampled record ∉ returnLog pc :=
  fun inside => absurd (returnLog_offStream pc _ inside) (by simp [Obs.offStream])

theorem boot_audited (b : Board) : Audited b (boot b) := by
  have stream : (boot b).dev.stream = StreamState.init := by
    obtain ⟨caps, nAin, eq, _⟩ := boot_dev b
    rw [eq]
    rfl
  refine ⟨⟨[], [], ?_⟩, trivial, ?_, ?_⟩
  · rw [stream]
    exact Balanced.restart .init 0
  · simp [boot, Log.account, Account.empty]
  · simp [boot]

theorem Reachable.audited (reached : Reachable b m) : Audited b m := by
  have both : Audited b m ∧ m.Ok b := by
    refine reached.invariant (I := fun m => Audited b m ∧ m.Ok b) ⟨boot_audited b, boot_ok b⟩ ?_
    exact fun _ act h _ => ⟨step_audited act h.2 h.1, step_ok act h.2⟩
  exact both.1

/-- After every poll() the records sampled since the last reset for a START are
those of the SENT packets, of the packet being filled and of the ring, in order,
and the sequence number counts them and the overruns. Every packet written is
made of whole records and fits the transport. -/
theorem run_accounts_for_records (b : Board) (acts : List Act) :
    let m := run b (boot b) acts
    let s := m.dev.stream
    let a := m.log.account
    (m.pc = .idle → ∃ (sent : List (List (List UInt8))) (pending : List (List UInt8)),
      a.sent = sent.map List.flatten ∧
      s.packet = pending.flatten ∧
      s.packetRecords.toNat = pending.length ∧
      a.kept = sent.flatten ++ (pending ++ s.records) ∧
      s.seq = UInt32.ofNat (sent.flatten.length + s.packetRecords.toNat + s.records.length) +
        s.overruns ∧
      s.overruns = UInt32.ofNat a.overruns) ∧
    ∀ packet result, Obs.wrote packet result ∈ m.log → WholePacket b m.log packet := by
  intro m s a
  have reached : Reachable b m := Lib.Reach.refl.foldl (fun _ _ => trivial) acts
  have audited : Audited b m := reached.audited
  refine ⟨?_, audited.wrote⟩
  intro idle
  obtain ⟨sent, pending, balanced⟩ := audited.balanced
  rw [idle] at balanced
  refine ⟨sent, pending, balanced.packets, balanced.packet, balanced.counted, balanced.kept, ?_,
    balanced.overruns⟩
  rw [StreamState.records_length]
  exact balanced.seq

end ArduinoDriver
