import ArduinoDriver.Firmware.Transports
import ArduinoDriver.Host.Bounds
import ArduinoDriver.Host.Exchanges

namespace ArduinoDriver

open Lib (Program)

/-- enum class Recipient. -/
inductive Recipient where
  | device | interface
  deriving DecidableEq, Repr

/-- bm_request_type(). -/
def bmRequestType (out : Bool) : Recipient → UInt8
  | .interface => if out then 0x41 else 0xC1
  | .device => if out then 0x40 else 0xC0

/-- interface_index(). -/
def interfaceIndex (index : UInt16) (itf : UInt8) : UInt16 := (index <<< 8) ||| itf.toUInt16

/-- A LibusbTransport, and at the other end a board on its stack, with the rest of its core. `itf`
is the number of the vendor interface, where the stack has one. -/
structure Cable where
  recipient : Recipient
  stack : Stack
  itf : UInt8
  rest : RestOfCore
  board : Board

/-- HostState with the board itself in place of the link to it. -/
structure Wired where
  attached : Attached
  plan : Nat → Transfer
  selected : List UInt8
  streaming : Bool

namespace Cable

variable (c : Cable)

/-- wire_index(), where it does not throw. -/
def wireIndex (index : UInt16) : UInt16 :=
  match c.recipient with
  | .device => index
  | .interface => interfaceIndex index c.itf

/-- The packet libusb sends for control_in() or control_out(). -/
def wire (s : SetupPacket) : SetupPacket :=
  { s with bmRequestType := bmRequestType (!s.isIn) c.recipient, wIndex := c.wireIndex s.wIndex }

/-- What happens at the device up to the next transfer. -/
def carry (acts : List Act) (w : Wired) : Wired :=
  { w with
    attached := acts.foldl (c.stack.step c.itf c.rest c.board) w.attached
    plan := fun n => w.plan (n + 1) }

/-- One control transfer. -/
def control (s : SetupPacket) (w : Wired) : Except Error (List UInt8) × Wired :=
  let t := w.plan 0
  let received := c.carry (t.before ++ [.setup t.env (c.wire s)]) w
  match t.failure with
  | some (e, false) => (.error e, c.carry t.before w)
  | some (e, true) => (.error e, received)
  | none =>
    match received.attached.answers.head?.join with
    | some reply => (.ok reply, received)
    | none => (.error ⟨.stall, t.stallText⟩, received)

/-- The step on a host of one thread at the cable. -/
def perform : (op : DriverOp) → Wired → op.Reply × Wired
  | .transfer s, w => c.control s w
  | .loadStreaming, w => (w.streaming, w)
  | .storeStreaming value, w => ((), { w with streaming := value })
  | .loadSelected, w => (w.selected, w)
  | .storeSelected pins, w => ((), { w with selected := pins })
  | .access .., w | .lock, w | .unlock, w => ((), w)

/-- A transfer with what goes by the transport taken out of it. -/
def heard (t : Transfer) : Transfer := { t with before := t.before.filter (c.stack.counts c.itf) }

/-- The same host on a link whose packets are handle_setup()'s. -/
def plain (w : Wired) : HostState :=
  ⟨⟨c.board, w.attached.machine, [], fun n => c.heard (w.plan n)⟩, w.selected, w.streaming⟩

/-- The board runs the stack, and has the interface that the host addresses. -/
structure Works : Prop where
  runs : c.stack.Runs c.board
  alone : c.stack.Alone c.itf c.rest
  offered : c.recipient = .interface → c.stack.hasInterface = true

end Cable

/-- The two hosts have the same device before them, with the same to come. -/
structure Wired.Like (c : Cable) (w : Wired) (st : HostState) : Prop where
  board : st.link.board = c.board
  machine : st.link.machine = w.attached.machine
  plan : st.link.plan = fun n => c.heard (w.plan n)
  selected : st.selected = w.selected
  streaming : st.streaming = w.streaming
  reached : Reachable c.board w.attached.machine

/-- Every transfer is such a request. -/
def PlainTransfers : DriverOp → Prop
  | .transfer s => s.Plain
  | _ => True

variable {c : Cable} {env : Env} {d : UsbIoDevice} {s : SetupPacket} {w : Wired} {st : HostState}

theorem form_vendor (out : Bool) (recipient : Recipient) :
    bmRequestType out recipient &&& 0x60 = 0x40 := by
  cases recipient <;> cases out <;> rfl

theorem form_in (out : Bool) (recipient : Recipient) :
    (bmRequestType out recipient &&& 0x80 != 0) = !out := by
  cases recipient <;> cases out <;> rfl

theorem form_device (out : Bool) : bmRequestType out .device &&& 0x1F = 0 := by
  cases out <;> rfl

theorem form_interface (out : Bool) : bmRequestType out .interface &&& 0x1F = 1 := by
  cases out <;> rfl

theorem low_byte (index : UInt16) (itf : UInt8) : interfaceIndex index itf &&& 0xFF = itf.toUInt16 := by
  have small := itf.toNat_lt
  have mask : ∀ x : UInt16, (x &&& 0xFF).toNat = x.toNat % 2 ^ 8 := by
    intro x
    rw [UInt16.toNat_and]
    exact Nat.and_two_pow_sub_one_eq_mod x.toNat 8
  have shift : (8 : UInt16).toNat % 16 = 8 := rfl
  have empty : index.toNat <<< 8 % 2 ^ 16 % 2 ^ 8 = 0 := by
    rw [Nat.shiftLeft_eq]
    omega
  apply UInt16.toNat_inj.mp
  rw [interfaceIndex, mask, UInt16.toNat_or, UInt16.toNat_shiftLeft, shift, Nat.or_mod_two_pow, empty,
    Nat.zero_or, UInt8.toNat_toUInt16]
  exact Nat.mod_eq_of_lt small

theorem high_byte {index : UInt16} (byte : index ≤ 0xFF) (itf : UInt8) :
    interfaceIndex index itf >>> 8 = index := by
  have small := itf.toNat_lt
  have shift : (8 : UInt16).toNat % 16 = 8 := rfl
  have below : index.toNat ≤ 255 := UInt16.le_iff_toNat_le.mp byte
  have back : (index.toNat <<< 8 % 2 ^ 16) >>> 8 = index.toNat := by
    rw [Nat.shiftLeft_eq, Nat.shiftRight_eq_div_pow]
    omega
  have gone : itf.toNat >>> 8 = 0 := by
    rw [Nat.shiftRight_eq_div_pow]
    omega
  apply UInt16.toNat_inj.mp
  rw [interfaceIndex, UInt16.toNat_shiftRight, UInt16.toNat_or, UInt16.toNat_shiftLeft, shift,
    Nat.shiftRight_or_distrib, UInt8.toNat_toUInt16, back, gone, Nat.or_zero]

theorem SetupPacket.Plain.device (plain : s.Plain) :
    s.bmRequestType &&& 0x1F = 0 ∧ s.isVendor = true := by
  rcases plain.1 with out | inp
  · rw [SetupPacket.isVendor, out]
    exact ⟨rfl, rfl⟩
  · rw [SetupPacket.isVendor, inp]
    exact ⟨rfl, rfl⟩

theorem wire_isIn : (c.wire s).isIn = s.isIn := by
  rw [SetupPacket.isIn, Cable.wire, form_in, Bool.not_not]

theorem wire_isVendor : (c.wire s).isVendor = true := by
  rw [SetupPacket.isVendor, Cable.wire, form_vendor]
  rfl

/-- The form a request is sent in leaves the index it is about. -/
theorem wire_index (plain : s.Plain) : (c.wire s).index = s.index := by
  have here : s.index = s.wIndex := if_pos plain.device.1
  rw [here, SetupPacket.index, Cable.wire, Cable.wireIndex]
  cases form : c.recipient with
  | device => exact if_pos (form_device _)
  | interface =>
    have other : ¬ bmRequestType (!s.isIn) .interface &&& 0x1F = 0 := by
      rw [form_interface]
      simp
    exact (if_neg other).trans (high_byte plain.2 c.itf)

/-- No transport lets a request of the driver go by. -/
theorem wire_taken : c.stack.takes c.itf (c.wire s) = true := by
  rw [Stack.takes, wire_isVendor, Bool.true_and, SetupPacket.addressed, Cable.wire, Cable.wireIndex]
  cases form : c.recipient with
  | device => simp [form_device]
  | interface => simp [low_byte]

/-- A board with a vendor interface does with either form the same. -/
theorem wire_handled (plain : s.Plain) (b : Board)
    (owned : c.recipient = .interface → hasFlag d.flags flagVendorInterface = true) :
    handleSetup b env d (c.wire s) = handleSetup b env d s := by
  have dispatched : dispatch b env d (c.wire s) = dispatch b env d s := by
    unfold dispatch
    rw [wire_isIn, wire_index plain]
    rfl
  have directly : handleSetup b env d s = dispatch b env d s := by
    rw [handleSetup, plain.device.2, if_neg (by simp), if_pos plain.device.1]
  rw [directly, ← dispatched, handleSetup, wire_isVendor, if_neg (by simp)]
  cases form : c.recipient with
  | device =>
    have device : (c.wire s).bmRequestType &&& 0x1F = 0 := by
      rw [Cable.wire, form]
      exact form_device _
    rw [if_pos device]
  | interface =>
    have interface : (c.wire s).bmRequestType &&& 0x1F = 1 := by
      rw [Cable.wire, form]
      exact form_interface _
    have other : ¬ (c.wire s).bmRequestType &&& 0x1F = 0 := by
      rw [interface]
      simp
    rw [if_neg other, if_pos interface, if_pos (owned form)]

theorem wire_obs (plain : s.Plain) (reply : Option (List UInt8)) :
    (c.wire s).obs reply = s.obs reply := by
  unfold SetupPacket.obs
  rw [wire_isIn, wire_index plain]
  rfl

theorem Cable.Works.owned (works : c.Works) {m : Machine} (reached : Reachable c.board m) :
    c.recipient = .interface → hasFlag m.dev.flags flagVendorInterface = true := by
  intro form
  exact works.runs.interface (works.offered form) (reach_begun reached)

/-- The board does with the packet as it would with the request in its plain form. -/
theorem wire_step (works : c.Works) (plain : s.Plain) {m : Machine} (reached : Reachable c.board m) :
    step c.board m (.setup env (c.wire s)) = step c.board m (.setup env s) := by
  simp only [step, setupStep]
  rw [wire_handled plain c.board (works.owned reached), wire_obs plain]

/-- The cable carries a request and its answer. -/
theorem carry_packet (works : c.Works) (plain : s.Plain) {acts : List Act}
    (reached : Reachable c.board (c.carry acts w).attached.machine) :
    (c.carry (acts ++ [.setup env (c.wire s)]) w).attached =
      ⟨step c.board (c.carry acts w).attached.machine (.setup env s),
        (handleSetup c.board env (c.carry acts w).attached.machine.dev s).2 ::
          (c.carry acts w).attached.answers⟩ := by
  have last : (c.carry (acts ++ [.setup env (c.wire s)]) w).attached =
      c.stack.step c.itf c.rest c.board (c.carry acts w).attached (.setup env (c.wire s)) := by
    simp only [Cable.carry, List.foldl_append, List.foldl_cons, List.foldl_nil]
  rw [last, Stack.step_direct works.runs works.alone reached, Stack.direct, if_pos wire_taken,
    wire_step works plain reached, wire_handled plain c.board (works.owned reached)]

theorem Wired.Like.carry (like : w.Like c st) (works : c.Works) :
    (c.carry (w.plan 0).before w).Like c { st with link := st.link.idled } := by
  have arrives := (Stack.run_direct works.runs works.alone (w.plan 0).before like.reached).2
  have next : (st.link.plan 0).before = (w.plan 0).before.filter (c.stack.counts c.itf) := by
    rw [like.plan]
    rfl
  have same : st.link.idled.machine = (c.carry (w.plan 0).before w).attached.machine := by
    rw [Link.idled_machine, like.board, like.machine, next]
    exact arrives.symm
  refine ⟨like.board, same, ?_, like.selected, like.streaming, ?_⟩
  · funext n
    exact congrFun like.plan (n + 1)
  · change Reachable c.board ((w.plan 0).before.foldl _ w.attached).machine
    rw [arrives]
    exact Lib.Reach.foldl like.reached (fun _ _ => trivial) _

/-- A transfer over the cable: the same answer, and the same device behind it. -/
theorem Wired.Like.received (like : w.Like c st) (works : c.Works) (plain : s.Plain) :
    (c.carry ((w.plan 0).before ++ [.setup (w.plan 0).env (c.wire s)]) w).Like c
        { st with link := st.link.received s } ∧
      (c.carry ((w.plan 0).before ++ [.setup (w.plan 0).env (c.wire s)]) w).attached.answers.head?.join =
        st.link.reply s := by
  have idle := like.carry works
  have told := @carry_packet c (w.plan 0).env s w works plain (w.plan 0).before idle.reached
  have env_ : (st.link.plan 0).env = (w.plan 0).env := by
    rw [like.plan]
    rfl
  constructor
  · refine ⟨like.board, ?_, idle.plan, like.selected, like.streaming, ?_⟩
    · rw [told, Link.received_machine, like.board, env_]
      exact congrArg (fun m => step c.board m (.setup (w.plan 0).env s)) idle.machine
    · rw [told]
      exact .tail (.setup (w.plan 0).env s) idle.reached trivial
  · rw [told, Link.reply, like.board, env_]
    have same : st.link.idled.machine = (c.carry (w.plan 0).before w).attached.machine := idle.machine
    rw [same]
    rfl

/-- A request of the driver ends over the cable as over the plain link. -/
theorem Wired.Like.control (like : w.Like c st) (works : c.Works) (plain : s.Plain) :
    (c.control s w).1 = (HostState.perform (.transfer s) st).1 ∧
      (c.control s w).2.Like c (HostState.perform (.transfer s) st).2 := by
  obtain ⟨arrived, told⟩ := like.received works plain
  have idle := like.carry works
  have failure : (st.link.plan 0).failure = (w.plan 0).failure := by
    rw [like.plan]
    rfl
  have text : (st.link.plan 0).stallText = (w.plan 0).stallText := by
    rw [like.plan]
    rfl
  simp only [Cable.control, HostState.perform, ArduinoDriver.control]
  rw [failure, text, told]
  cases (w.plan 0).failure with
  | some failed =>
    obtain ⟨e, got⟩ := failed
    cases got with
    | false => exact ⟨rfl, idle⟩
    | true => exact ⟨rfl, arrived⟩
  | none =>
    cases st.link.reply s with
    | none => exact ⟨rfl, arrived⟩
    | some reply => exact ⟨rfl, arrived⟩

/-- No operation of the driver tells the two hosts apart. -/
theorem Wired.Like.perform (works : c.Works) {op : DriverOp} (plain : PlainTransfers op)
    (like : w.Like c st) :
    (c.perform op w).1 = (HostState.perform op st).1 ∧
      (c.perform op w).2.Like c (HostState.perform op st).2 := by
  cases op with
  | transfer s => exact like.control works plain
  | loadStreaming => exact ⟨like.streaming.symm, like⟩
  | loadSelected => exact ⟨like.selected.symm, like⟩
  | storeStreaming value =>
    exact ⟨rfl, like.board, like.machine, like.plan, like.selected, rfl, like.reached⟩
  | storeSelected pins =>
    exact ⟨rfl, like.board, like.machine, like.plan, rfl, like.streaming, like.reached⟩
  | access index size => exact ⟨rfl, like⟩
  | lock => exact ⟨rfl, like⟩
  | unlock => exact ⟨rfl, like⟩

namespace Driver

variable {α : Type} {p : Driver α}

theorem plain_of_exchanges (h : p.Uses PlainExchanges) : p.Uses PlainTransfers :=
  h.mono (fun op exchanges => by cases op <;> trivial)

theorem plain_checkNotStreaming (what : String) : (checkNotStreaming what).Uses PlainTransfers :=
  .bind (.perform trivial) (fun _ => plain_of_exchanges (exchanges_refuseIf _ _))

theorem accesses_span (len size : Nat) : (span len size).Uses Accesses :=
  .ite trivial (.bind (.perform trivial) (fun _ => trivial))

theorem accesses_pinCaps (d : Device) (pin : UInt8) : (pinCaps d pin).Uses Accesses :=
  .bind (accesses_refuseIf _ _) (fun _ => accesses_byteAt ..)

theorem accesses_requireCaps (d : Device) (pin mask : UInt8) (feature : String) :
    (requireCaps d pin mask feature).Uses Accesses :=
  .bind (accesses_pinCaps d pin) (fun _ => .bind (accesses_refuseIf _ _) (fun _ => trivial))

theorem exchanges_loadInfoOnce {again : Driver Info} (more : again.Uses PlainExchanges) :
    (loadInfoOnce again).Uses PlainExchanges := by
  refine .bind (exchanges_rawIn .getInfo (Nat.zero_le _) _) (fun reply => ?_)
  refine .bind (exchanges_refuseIf _ _) (fun _ => ?_)
  refine .bind (exchanges_of_accesses (accesses_decodeInfo reply)) (fun info => ?_)
  exact .bind (exchanges_refuseIf _ _) (fun _ => .ite trivial more)

theorem exchanges_construct (options : DeviceOptions) : (construct options).Uses PlainExchanges := by
  have loop : ∀ left, (loadInfoFrom options left).Uses PlainExchanges := by
    intro left
    induction left with
    | zero => exact exchanges_loadInfoOnce trivial
    | succ left ih => exact exchanges_loadInfoOnce ih
  have info : (loadInfo options).Uses PlainExchanges :=
    .bind (loop _) (fun _ => .bind (exchanges_refuseIf _ _) (fun _ =>
      .bind (exchanges_refuseIf _ _) (fun _ => trivial)))
  refine .bind info (fun info => .bind ?_ (fun _ => trivial))
  refine .bind (exchanges_of_accesses (accesses_span ..)) (fun _ => ?_)
  refine .bind (exchanges_rawIn .getPinCaps (Nat.zero_le _) _) (fun reply => ?_)
  refine .bind (exchanges_refuseIf _ _) (fun _ => ?_)
  refine .bind (exchanges_of_accesses (.each (fun _ => accesses_byteAt ..))) (fun caps => ?_)
  exact .bind (exchanges_refuseIf _ _) (fun _ => trivial)

/-- A call that looks at the flag and then only exchanges. -/
theorem plain_checked {what : String} {rest : Driver α} (h : rest.Uses PlainExchanges) :
    (do checkNotStreaming what; rest : Driver α).Uses PlainTransfers :=
  .bind (plain_checkNotStreaming what) (fun _ => plain_of_exchanges h)

theorem plain_pinCall (d : Device) (call : PinCall) : (call.perform d).Uses PlainTransfers := by
  cases call with
  | pinMode pin code =>
    refine plain_checked (.bind (exchanges_of_accesses (accesses_pinCaps d pin)) (fun caps => ?_))
    cases PinMode.ofCode? code.toUInt16 with
    | none => trivial
    | some mode =>
      refine .bind (exchanges_refuseIf _ _) (fun _ => .bind (exchanges_refuseIf _ _) (fun _ => ?_))
      exact exchanges_sendOut .pinMode code.toUInt16 (pin_byte pin)
  | digitalWrite pin high =>
    refine plain_checked (.bind (exchanges_of_accesses (accesses_requireCaps ..)) (fun _ => ?_))
    exact exchanges_sendOut .dioWrite _ (pin_byte pin)
  | digitalRead pin =>
    refine .bind (plain_checked ?_) (fun _ => trivial)
    refine .bind (exchanges_of_accesses (accesses_requireCaps ..)) (fun _ => ?_)
    refine .bind (exchanges_readIn d .dioRead (pin_byte pin) _ _) (fun reply => ?_)
    exact .bind (exchanges_of_accesses (accesses_byteAt ..)) (fun _ => trivial)
  | analogRead pin =>
    refine .bind (plain_checked ?_) (fun _ => trivial)
    refine .bind (exchanges_of_accesses (accesses_requireCaps ..)) (fun _ => ?_)
    refine .bind (exchanges_readIn d .aiRead (pin_byte pin) _ _) (fun reply => ?_)
    exact exchanges_of_accesses (accesses_wordAt ..)
  | pwmWrite pin duty =>
    refine plain_checked (.bind (exchanges_of_accesses (accesses_requireCaps ..)) (fun _ => ?_))
    exact .bind (exchanges_refuseIf _ _) (fun _ => exchanges_sendOut .pwmWrite duty (pin_byte pin))
  | dacWrite pin value =>
    refine plain_checked (.bind (exchanges_of_accesses (accesses_requireCaps ..)) (fun _ => ?_))
    refine .bind (exchanges_refuseIf _ _) (fun _ => .bind (exchanges_refuseIf _ _) (fun _ => ?_))
    exact exchanges_sendOut .dacWrite value (pin_byte pin)

theorem plain_readAllDigital (d : Device) : (readAllDigital d).Uses PlainTransfers := by
  refine plain_checked (.bind (exchanges_of_accesses (accesses_span ..)) (fun _ => ?_))
  refine .bind (exchanges_readIn d .dioReadAll (Nat.zero_le _) _ _) (fun reply => ?_)
  refine exchanges_of_accesses (.each (fun pin => ?_))
  exact .bind (accesses_byteAt ..) (fun _ => trivial)

theorem plain_readAllAnalog (d : Device) : (readAllAnalog d).Uses PlainTransfers := by
  refine plain_checked (.bind (exchanges_of_accesses (accesses_span ..)) (fun _ => ?_))
  refine .bind (exchanges_readIn d .aiReadAll (Nat.zero_le _) _ _) (fun reply => ?_)
  exact exchanges_of_accesses (.each (fun i => accesses_wordAt ..))

theorem plain_status (d : Device) : (status d).Uses PlainTransfers := by
  refine plain_checked (.bind (exchanges_readIn d .getStatus (Nat.zero_le _) _ _) (fun reply => ?_))
  exact exchanges_of_accesses (.bind (accesses_byteAt ..) (fun _ => .bind (accesses_byteAt ..) (fun _ => trivial)))

theorem plain_readTime (d : Device) : (readTime d).Uses PlainTransfers :=
  plain_checked (.bind (exchanges_readIn d .getTime (Nat.zero_le _) _ _)
    (fun reply => exchanges_of_accesses (accesses_decodeTimeReply reply)))

theorem exchanges_popEventsOnce (d : Device) {maxEvents : UInt16} (byte : maxEvents ≤ 0xFF) :
    (popEventsOnce d maxEvents).Uses PlainExchanges := by
  refine .bind (exchanges_readIn d .eventPop byte _ _) (fun reply => ?_)
  refine .bind (exchanges_of_accesses (accesses_decodeEventHeader reply)) (fun header => ?_)
  refine .bind (exchanges_refuseIf _ _) (fun _ => .bind (exchanges_of_accesses ?_) (fun _ => trivial))
  exact .each (fun i => accesses_decodeEvent reply i)

theorem plain_pollEvents (d : Device) (rounds : Nat) : (pollEvents d rounds).Uses PlainTransfers := by
  have loop : ∀ rounds events total, (pollEventsFrom d rounds events total).Uses PlainExchanges := by
    intro rounds
    induction rounds with
    | zero =>
      intro events total
      trivial
    | succ rounds ih =>
      intro events total
      exact .bind (exchanges_popEventsOnce d (Nat.zero_le _)) (fun _ => .ite (ih _ _) trivial)
  exact plain_checked (.bind (exchanges_refuseIf _ _) (fun _ => loop _ _ _))

theorem plain_eventCounts (d : Device) : (eventCounts d).Uses PlainTransfers := by
  refine plain_checked (.bind (exchanges_refuseIf _ _) (fun _ => ?_))
  refine .bind (exchanges_readIn d .eventCounts (Nat.zero_le _) _ _) (fun reply => ?_)
  refine .bind (exchanges_of_accesses (accesses_decodeEventHeader reply)) (fun header => ?_)
  refine .bind (exchanges_refuseIf _ _) (fun _ => exchanges_of_accesses (.each (fun i => ?_)))
  refine .bind (accesses_byteAt ..) (fun _ => .bind (accesses_byteAt ..) (fun _ => ?_))
  exact .bind (accesses_wordAt ..) (fun _ => trivial)

theorem plain_locked (h : p.Uses PlainTransfers) : (locked p).Uses PlainTransfers := by
  refine .bind (.perform trivial) (fun _ => .bind (.tryCatch h (fun e => ?_)) (fun a => ?_))
  · exact .bind (.perform trivial) (fun _ => trivial)
  · exact .bind (.perform trivial) (fun _ => trivial)

theorem plain_startStream (d : Device) (config : StreamConfig) :
    (startStream d config).Uses PlainTransfers := by
  have checked : (checkConfig d config).Uses PlainTransfers := by
    refine plain_checked (exchanges_of_accesses ?_)
    refine .bind (accesses_refuseIf _ _) (fun _ => .bind (accesses_refuseIf _ _) (fun _ => ?_))
    refine .bind (accesses_refuseIf _ _) (fun _ => .bind (.forM (fun pin => ?_)) (fun _ => ?_))
    · exact .bind (accesses_pinCaps d pin) (fun _ => trivial)
    · refine .bind (accesses_refuseIf _ _) (fun _ => .bind (accesses_refuseIf _ _) (fun _ => ?_))
      exact accesses_refuseIf _ _
  refine .bind checked (fun _ => plain_locked ?_)
  refine .bind (plain_of_exchanges exchanges_readStreamStatus) (fun status => ?_)
  refine .bind (plain_of_exchanges (.ite exchanges_stop trivial)) (fun _ => ?_)
  refine .bind (.perform trivial) (fun selected => ?_)
  refine .bind (plain_of_exchanges (.forM (exchanges_deselectOther config))) (fun _ => ?_)
  refine .bind (plain_of_exchanges (exchanges_selectPins ..)) (fun r => ?_)
  refine .bind (plain_of_exchanges (exchanges_launchOrRollBack ..)) (fun _ => ?_)
  exact .bind (.perform trivial) (fun _ => .bind (.perform trivial) (fun _ => trivial))

theorem plain_endStream : endStream.Uses PlainTransfers := by
  refine plain_locked (.bind (.perform trivial) (fun streaming => .ite ?_ trivial))
  refine .bind (.tryCatch (plain_of_exchanges exchanges_stop) (fun _ => trivial)) (fun _ => ?_)
  exact .bind (.perform trivial) (fun _ => trivial)

theorem accesses_decodeStep (impl : StreamImpl) (w : Worker) (head : List UInt8) :
    (decodeStep impl w head).Uses Accesses := by
  have header : (decodeStreamHeader head).Uses Accesses := by
    refine .bind (accesses_wordAt ..) (fun _ => .bind (accesses_wordAt ..) (fun _ => ?_))
    exact .bind (accesses_longAt ..) (fun _ => .bind (accesses_longAt ..) (fun _ => trivial))
  have taken : ∀ header, (takeRecord impl header w head).Uses Accesses := by
    intro header
    refine .ite trivial (.bind (.each (fun i => ?_)) (fun _ => trivial))
    exact .bind (accesses_wordAt ..) (fun _ => .bind (accesses_byteAt ..) (fun _ => trivial))
  refine .ite trivial (.bind header (fun header => .ite trivial (.ite trivial ?_)))
  exact .bind (taken header) (fun _ => trivial)

theorem accesses_passes (impl : StreamImpl) (st : Worker × List UInt8) (chunks : List (List UInt8)) :
    (passes impl st chunks).Uses Accesses := by
  have loop : ∀ fuel w buffer pos, (decodeLoop impl fuel w buffer pos).Uses Accesses := by
    intro fuel
    induction fuel with
    | zero =>
      intro w buffer pos
      exact .bind (accesses_span ..) (fun _ => trivial)
    | succ fuel ih =>
      intro w buffer pos
      refine .bind (accesses_decodeStep impl w _) (fun r => ?_)
      cases r with
      | none => exact .bind (accesses_span ..) (fun _ => trivial)
      | some next => exact ih _ _ _
  induction chunks generalizing st with
  | nil => trivial
  | cons chunk chunks ih =>
    exact .bind (.bind (accesses_span ..) (fun _ => loop _ _ _ _)) (fun st' => ih st')

end Driver

/-- A request of the call fits the index byte of the interface form. poll_events() and wait_event()
ask for 0 events, or 1. -/
def Reading.Fits : Reading → Prop
  | .popEvents maxEvents => maxEvents ≤ 0xFF
  | _ => True

theorem plain_reading (d : Device) {call : Reading} (fits : call.Fits) :
    (call.perform d).Uses PlainTransfers := by
  cases call with
  | pin call => exact Driver.plain_pinCall d call
  | allDigital => exact .bind (Driver.plain_readAllDigital d) (fun _ => trivial)
  | allAnalog => exact .bind (Driver.plain_readAllAnalog d) (fun _ => trivial)
  | status => exact .bind (Driver.plain_status d) (fun _ => trivial)
  | time => exact .bind (Driver.plain_readTime d) (fun _ => trivial)
  | streamStatus =>
    have told := Driver.plain_of_exchanges Driver.exchanges_readStreamStatus
    exact .bind (Driver.plain_locked told) (fun _ => trivial)
  | popEvents maxEvents =>
    exact Driver.plain_of_exchanges (.bind (Driver.exchanges_popEventsOnce d fits) (fun _ => trivial))
  | pollEvents rounds => exact .bind (Driver.plain_pollEvents d rounds) (fun _ => trivial)
  | eventCounts => exact .bind (Driver.plain_eventCounts d) (fun _ => trivial)
  | stream config chunks =>
    refine .bind (Driver.plain_startStream d config) (fun handle => ?_)
    have decoded := Driver.accesses_passes (d.stream handle) (.init, []) (chunks.map Subtype.val)
    refine .bind (Driver.plain_of_exchanges (Driver.exchanges_of_accesses decoded)) (fun _ => ?_)
    exact Driver.plain_endStream

/-- The constructor, and any calls after it. -/
theorem plain_session (options : DeviceOptions) {calls : List Reading} (fits : ∀ call ∈ calls, call.Fits) :
    (Driver.session options calls).Uses PlainTransfers := by
  refine .bind (Driver.plain_of_exchanges (Driver.exchanges_construct options)) (fun d => ?_)
  induction calls with
  | nil => trivial
  | cons call calls ih =>
    have first := plain_reading d (fits call (List.mem_cons_self ..))
    refine .bind (.tryCatch first (fun _ => trivial)) (fun _ => ih (fun later inside => ?_))
    exact fits later (List.mem_cons_of_mem _ inside)

/-- Over any stack, and in either form of addressing, what the driver does after the board's begin()
ends as it does on a link whose packets are handle_setup()'s: with the same value or error, and the device in the same
state. What the driver does is the constructor and any calls. -/
theorem Cable.carries {c : Cable} (works : c.Works) :
    (∀ options calls, (∀ call ∈ calls, call.Fits) → (Driver.session options calls).Uses PlainTransfers) ∧
      ∀ {α : Type} (p : Driver α) (w : Wired), p.Uses PlainTransfers →
        Reachable c.board w.attached.machine →
          Program.SameOutcome (Wired.Like c) (p.run c.perform w) (p.run HostState.perform (c.plain w)) := by
  constructor
  · intro options calls fits
    exact plain_session options fits
  · intro α p w plain reached
    have start : w.Like c (c.plain w) := ⟨rfl, rfl, rfl, rfl, rfl, reached⟩
    apply Program.run_sameOutcome plain _ start
    intro op allowed w' st' like
    exact like.perform works allowed

/-- GET_PIN_CAPS in the interface form, for vendor interface 2 of an mbed board. -/
theorem Cable.carries_pinCaps :
    ∃ w', (Driver.rawIn .getPinCaps 0 1).run
      (Cable.perform ⟨.interface, .mbed, 2, cdcCore, onePinBoard⟩)
      ⟨.boot onePinBoard, fun _ => ⟨[], stillEnv .sent, none, ""⟩, [], false⟩ = .ok [0xF] w' := by
  let c : Cable := ⟨.interface, .mbed, 2, cdcCore, onePinBoard⟩
  let w : Wired := ⟨.boot onePinBoard, fun _ => ⟨[], stillEnv .sent, none, ""⟩, [], false⟩
  have works : c.Works := by
    refine ⟨⟨by decide, fun other => ?_⟩, cdcCore_alone .mbed rfl, fun _ => rfl⟩
    contradiction
  have same := (Cable.carries works).2 (Driver.rawIn .getPinCaps 0 1) w
    (Driver.plain_of_exchanges (Driver.exchanges_rawIn .getPinCaps (Nat.zero_le _) 1)) .refl
  have plainly : ∃ st', (Driver.rawIn .getPinCaps 0 1).run HostState.perform (c.plain w) = .ok [0xF] st' :=
    ⟨_, rfl⟩
  obtain ⟨st', plainly⟩ := plainly
  rw [plainly] at same
  change ∃ w', (Driver.rawIn .getPinCaps 0 1).run c.perform w = .ok [0xF] w'
  cases outcome : (Driver.rawIn .getPinCaps 0 1).run c.perform w with
  | ok reply w' =>
    rw [outcome] at same
    rw [same.1]
    exact ⟨w', rfl⟩
  | error e w' =>
    rw [outcome] at same
    exact same.elim

end ArduinoDriver
