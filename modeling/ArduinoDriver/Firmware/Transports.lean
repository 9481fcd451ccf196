import ArduinoDriver.Firmware.Identity
import ArduinoDriver.Firmware.Replies
import Mathlib.Data.FinEnum

namespace ArduinoDriver

variable {b : Board} {env : Env} {d : UsbIoDevice} {s : SetupPacket} {itf : UInt8}

/-- The USB stacks, each with its file of the transport. -/
inductive Stack where
  | mbed | samd | renesas | rp2040 | esp32
  deriving DecidableEq, Repr

/-- The stack plugs in a vendor interface of its own. -/
def Stack.hasInterface : Stack → Bool
  | .mbed | .samd => true
  | .renesas | .rp2040 | .esp32 => false

/-- usbio_transport_begin(). -/
def Stack.begin (stack : Stack) : UInt16 :=
  if stack.hasInterface then flagVendorInterface ||| flagStreaming else 0

/-- What a transport makes of a SETUP packet. -/
inductive Ep0Answer where
  /-- It declines: the core offers the packet to its other modules, or handles it itself. -/
  | declined
  | stall
  /-- The bytes of the data stage, a ZLP when there are none. -/
  | send (bytes : List UInt8)
  /-- The status stage alone. -/
  | ack
  deriving DecidableEq, Repr

/-- What the host gets of it, `none` for a STALL; `rest` is what the rest of the core makes of the
packet when the transport declines. -/
def Ep0Answer.delivered (rest : Option (List UInt8)) : Ep0Answer → Option (List UInt8)
  | .declined => rest
  | .stall => none
  | .send bytes => some bytes
  | .ack => some []

/-- The fields mbed splits bmRequestType into. -/
structure SplitRequestType where
  toHost : Bool
  type : UInt8
  recipient : UInt8

def splitRequestType (bm : UInt8) : SplitRequestType :=
  ⟨bm &&& 0x80 != 0, (bm >>> 5) &&& 0x03, bm &&& 0x1F⟩

/-- The raw byte that callback_request() rebuilds. -/
def SplitRequestType.raw (t : SplitRequestType) : UInt8 :=
  (if t.toHost then (0x80 : UInt8) else 0) ||| (t.type <<< 5) ||| (t.recipient &&& 0x1F)

namespace UsbIoMbedModule

/-- is_ours(). -/
def isOurs (itf : UInt8) (s : SetupPacket) : Bool :=
  let t := splitRequestType s.bmRequestType
  t.type == 2 && (t.recipient != 1 || s.wIndex &&& 0xFF == itf.toUInt16)

/-- callback_request(). -/
def callbackRequest (itf : UInt8) (b : Board) (env : Env) (d : UsbIoDevice) (s : SetupPacket) :
    UsbIoDevice × Ep0Answer :=
  if !isOurs itf s then (d, .declined)
  else
    let t := splitRequestType s.bmRequestType
    match handleSetup b env d { s with bmRequestType := t.raw } with
    | (d', none) => (d', .stall)
    | (d', some reply) => (d', if t.toHost then .send reply else .ack)

end UsbIoMbedModule

namespace UsbIoSamdModule

/-- Ep0CacheSize. -/
def ep0CacheSize : Nat := 64

/-- setup(). -/
def setup (itf : UInt8) (b : Board) (env : Env) (d : UsbIoDevice) (s : SetupPacket) :
    UsbIoDevice × Ep0Answer :=
  if s.bmRequestType &&& 0x60 ≠ 0x40 then (d, .declined)
  else if s.bmRequestType &&& 0x1F = 0x01 ∧ s.wIndex &&& 0xFF ≠ itf.toUInt16 then (d, .declined)
  else
    let toHost := s.bmRequestType &&& 0x80 == 0x80
    match handleSetup b env d s with
    | (d', none) => (d', .declined)
    | (d', some reply) =>
      if toHost ∧ 0 < reply.length then (d', .send (reply.take ep0CacheSize)) else (d', .send [])

end UsbIoSamdModule

/-- tud_vendor_control_xfer_cb() of the Renesas and RP2040 cores, SETUP stage. -/
def tudVendorControlXfer (b : Board) (env : Env) (d : UsbIoDevice) (s : SetupPacket) :
    UsbIoDevice × Ep0Answer :=
  if (splitRequestType s.bmRequestType).type ≠ 2 then (d, .declined)
  else match handleSetup b env d s with
    | (d', none) => (d', .declined)
    | (d', some reply) => (d', if (splitRequestType s.bmRequestType).toHost then .send reply else .ack)

/-- on_request() of the ESP32 core, SETUP stage: sendResponse() without data is the status stage. -/
def onRequest (b : Board) (env : Env) (d : UsbIoDevice) (s : SetupPacket) : UsbIoDevice × Ep0Answer :=
  if s.bmRequestType &&& 0x60 ≠ 0x40 then (d, .declined)
  else
    let toHost := s.bmRequestType &&& 0x80 != 0
    match handleSetup b env d s with
    | (d', none) => (d', .declined)
    | (d', some reply) => (d', if toHost then .send reply else .ack)

/-- A SETUP packet on a stack whose module has interface number `itf`, if it has one. -/
def Stack.onSetup (stack : Stack) (itf : UInt8) (b : Board) (env : Env) (d : UsbIoDevice)
    (s : SetupPacket) : UsbIoDevice × Ep0Answer :=
  match stack with
  | .mbed => UsbIoMbedModule.callbackRequest itf b env d s
  | .samd => UsbIoSamdModule.setup itf b env d s
  | .renesas | .rp2040 => tudVendorControlXfer b env d s
  | .esp32 => onRequest b env d s

/-- The packet is none for another interface of the same device. -/
def SetupPacket.addressed (s : SetupPacket) (stack : Stack) (itf : UInt8) : Bool :=
  !stack.hasInterface || s.bmRequestType &&& 0x1F != 1 || s.wIndex &&& 0xFF == itf.toUInt16

theorem raw_split (bm : UInt8) : (splitRequestType bm).raw = bm := by
  revert bm
  decide +kernel

theorem split_vendor (s : SetupPacket) :
    ((splitRequestType s.bmRequestType).type == 2) = s.isVendor := by
  unfold SetupPacket.isVendor
  generalize s.bmRequestType = bm
  revert bm
  decide +kernel

theorem isIn_iff (bm : UInt8) : (bm &&& 0x80 == 0x80) = (bm &&& 0x80 != 0) := by
  revert bm
  decide +kernel

/-- An OUT request has no data stage to the host. -/
theorem handleSetup_out_empty (out : s.isIn = false) {reply : List UInt8}
    (said : (handleSetup b env d s).2 = some reply) : reply = [] := by
  have dispatched : (dispatch b env d s).2 = some reply → reply = [] := by
    intro told
    unfold dispatch at told
    rw [out] at told
    simp only [Bool.false_eq_true, if_false] at told
    split at told
    · exact (Option.some.inj told).symm
    · contradiction
  unfold handleSetup at said
  split at said
  · contradiction
  · split at said
    · exact dispatched said
    · split at said
      · split at said
        · exact dispatched said
        · contradiction
      · contradiction

/-- What is not a vendor request, or is for another interface, goes by. -/
theorem onSetup_declined (stack : Stack)
    (other : (s.isVendor && s.addressed stack itf) = false) :
    stack.onSetup itf b env d s = (d, .declined) := by
  have kind := split_vendor s
  cases vendor : s.isVendor with
  | false =>
    have type : ¬ s.bmRequestType &&& 0x60 = 0x40 := by simpa [SetupPacket.isVendor] using vendor
    rw [vendor] at kind
    cases stack with
    | mbed => simp [Stack.onSetup, UsbIoMbedModule.callbackRequest, UsbIoMbedModule.isOurs, kind]
    | samd => simp [Stack.onSetup, UsbIoSamdModule.setup, type]
    | esp32 => simp [Stack.onSetup, onRequest, type]
    | _ =>
      have differs : ¬ (splitRequestType s.bmRequestType).type = 2 := by simpa using kind
      simp [Stack.onSetup, tudVendorControlXfer, differs]
  | true =>
    rw [vendor, Bool.true_and] at other
    have type : s.bmRequestType &&& 0x60 = 0x40 := by simpa [SetupPacket.isVendor] using vendor
    cases stack with
    | mbed =>
      have foreign : UsbIoMbedModule.isOurs itf s = false := by
        simp only [UsbIoMbedModule.isOurs, kind, vendor, Bool.true_and]
        simpa [SetupPacket.addressed, Stack.hasInterface, splitRequestType] using other
      simp [Stack.onSetup, UsbIoMbedModule.callbackRequest, foreign]
    | samd =>
      have foreign : s.bmRequestType &&& 0x1F = 0x01 ∧ s.wIndex &&& 0xFF ≠ itf.toUInt16 := by
        simpa [SetupPacket.addressed, Stack.hasInterface] using other
      simp [Stack.onSetup, UsbIoSamdModule.setup, type, foreign]
    | _ => simp [SetupPacket.addressed, Stack.hasInterface] at other

/-- What a transport makes of the core's answer. -/
def Stack.cut (stack : Stack) (reply : List UInt8) : List UInt8 :=
  if stack = .samd then reply.take UsbIoSamdModule.ep0CacheSize else reply

/-- The answer of the stacks that send the reply as it is. -/
theorem delivered_answer (fails : Ep0Answer) (stalls : fails.delivered none = none) {toHost : Bool}
    (direction : toHost = s.isIn) :
    let r : UsbIoDevice × Ep0Answer := match handleSetup b env d s with
      | (d', none) => (d', fails)
      | (d', some reply) => (d', if toHost then .send reply else .ack)
    r.1 = (handleSetup b env d s).1 ∧ r.2.delivered none = (handleSetup b env d s).2 := by
  cases told : handleSetup b env d s with
  | mk d' reply =>
    cases reply with
    | none => exact ⟨rfl, stalls⟩
    | some reply =>
      refine ⟨rfl, ?_⟩
      rw [direction]
      cases asks : s.isIn with
      | true => rfl
      | false =>
        rw [handleSetup_out_empty asks (congrArg Prod.snd told)]
        rfl

/-- A request for this device is handle_setup()'s, and so is its answer, where nobody else takes
what the transport declines. -/
theorem onSetup_ours (stack : Stack) (vendor : s.isVendor = true)
    (addressed : s.addressed stack itf = true) :
    (stack.onSetup itf b env d s).1 = (handleSetup b env d s).1 ∧
      (stack.onSetup itf b env d s).2.delivered none = (handleSetup b env d s).2.map stack.cut := by
  have kind := split_vendor s
  rw [vendor] at kind
  have type : s.bmRequestType &&& 0x60 = 0x40 := by simpa [SetupPacket.isVendor] using vendor
  have same : (splitRequestType s.bmRequestType).type = 2 := by simpa using kind
  have whole : ∀ stack : Stack, stack ≠ .samd → stack.cut = id := by
    intro stack other
    funext reply
    exact if_neg other
  cases stack with
  | mbed =>
    have ours : UsbIoMbedModule.isOurs itf s = true := by
      simp only [UsbIoMbedModule.isOurs, kind, Bool.true_and]
      simpa [SetupPacket.addressed, Stack.hasInterface, splitRequestType] using addressed
    rw [whole .mbed (by simp), Option.map_id, Stack.onSetup]
    simp only [UsbIoMbedModule.callbackRequest, ours, raw_split]
    exact delivered_answer .stall rfl rfl
  | samd =>
    have ours : ¬ (s.bmRequestType &&& 0x1F = 0x01 ∧ s.wIndex &&& 0xFF ≠ itf.toUInt16) := by
      have either := addressed
      simp only [SetupPacket.addressed, Stack.hasInterface, Bool.not_true, Bool.false_or,
        Bool.or_eq_true, bne_iff_ne, beq_iff_eq] at either
      intro foreign
      rcases either with device | here
      · exact device foreign.1
      · exact foreign.2 here
    simp only [Stack.onSetup, UsbIoSamdModule.setup]
    rw [if_neg (not_not.mpr type), if_neg ours]
    cases told : handleSetup b env d s with
    | mk d' reply =>
      cases reply with
      | none => exact ⟨rfl, rfl⟩
      | some reply =>
        dsimp only
        by_cases data : (s.bmRequestType &&& 0x80 == 0x80) = true ∧ 0 < reply.length
        · rw [if_pos data]
          exact ⟨rfl, rfl⟩
        · rw [if_neg data]
          refine ⟨rfl, ?_⟩
          have empty : reply = [] := by
            cases asks : s.isIn with
            | false => exact handleSetup_out_empty asks (congrArg Prod.snd told)
            | true =>
              rw [isIn_iff] at data
              have none_ : ¬ 0 < reply.length := by
                intro some_
                exact data ⟨asks, some_⟩
              exact List.length_eq_zero_iff.mp (by omega)
          rw [empty]
          rfl
  | esp32 =>
    rw [whole .esp32 (by simp), Option.map_id, Stack.onSetup]
    simp only [onRequest]
    rw [if_neg (not_not.mpr type)]
    exact delivered_answer .declined rfl rfl
  | renesas =>
    rw [whole .renesas (by simp), Option.map_id, Stack.onSetup]
    simp only [tudVendorControlXfer]
    rw [if_neg (not_not.mpr same)]
    exact delivered_answer .declined rfl rfl
  | rp2040 =>
    rw [whole .rp2040 (by simp), Option.map_id, Stack.onSetup]
    simp only [tudVendorControlXfer]
    rw [if_neg (not_not.mpr same)]
    exact delivered_answer .declined rfl rfl

/-- A board of the stack. On SAMD all its pins fit the row of EP0's cache. -/
structure Stack.Runs (stack : Stack) (b : Board) : Prop where
  flags : b.transportFlags = stack.begin
  small : stack = .samd →
    b.pinCount ≤ UsbIoSamdModule.ep0CacheSize ∧ 2 + 2 * (boot b).dev.nAin ≤ UsbIoSamdModule.ep0CacheSize

theorem reach_nAin {guard : Machine → Act → Prop} {m : Machine}
    (reached : Lib.Reach (step b) guard (boot b) m) : m.dev.nAin = (boot b).dev.nAin := by
  apply Lib.Reach.invariant (I := fun m => m.dev.nAin = (boot b).dev.nAin) reached rfl
  intro u act same _
  exact (step_identity b u act).nAin.trans same

/-- No transport cuts a reply short. -/
theorem Stack.Runs.whole {stack : Stack} (runs : stack.Runs b) {m : Machine} (reached : Reachable b m)
    {reply : List UInt8} (said : (handleSetup b env m.dev s).2 = some reply) :
    stack.cut reply = reply := by
  unfold Stack.cut
  by_cases samd : stack = .samd
  · rw [if_pos samd]
    obtain ⟨pins, analog⟩ := runs.small samd
    have begun := reach_begun reached
    have row : UsbIoSamdModule.ep0CacheSize = 64 := rfl
    apply List.take_of_length_le
    rcases handleSetup_reply said with empty | ⟨full, written, cut⟩
    · rw [empty]
      exact Nat.zero_le _
    · have fits : full.length ≤ 64 := by
        apply replyBytes_length_le (Nat.le_refl _) ?_ ?_ written
        · rw [begun.nPins]
          omega
        · rw [begun.counted, reach_nAin reached]
          omega
      rw [cut, List.length_take]
      omega
  · exact if_neg samd

/-- A board whose stack has a vendor interface reports it. -/
theorem Stack.Runs.interface {stack : Stack} (runs : stack.Runs b) (offers : stack.hasInterface = true)
    (begun : Begun b d) : hasFlag d.flags flagVendorInterface = true := by
  have carried : b.transportFlags = flagVendorInterface ||| flagStreaming := by
    rw [runs.flags, Stack.begin, if_pos offers]
  rw [begun.flags, carried]
  cases b.hasPulldown <;> decide

/-- A board at its cable: the machine, and what the host got for each packet, the last first. -/
structure Attached where
  machine : Machine
  answers : List (Option (List UInt8))

/-- Right after begin(). -/
def Attached.boot (b : Board) : Attached := ⟨ArduinoDriver.boot b, []⟩

/-- The packet is one for handle_setup(). -/
def Stack.takes (stack : Stack) (itf : UInt8) (s : SetupPacket) : Bool :=
  s.isVendor && s.addressed stack itf

/-- The rest of a core, its other modules and its own handling of requests: what the host gets
from it when the transport has declined the packet, which is the n-th of the run. -/
abbrev RestOfCore : Type := Nat → SetupPacket → Option (List UInt8)

/-- Nobody else answers a vendor request for this device: what the transport refuses by declining,
the core STALLs. -/
def Stack.Alone (stack : Stack) (itf : UInt8) (rest : RestOfCore) : Prop :=
  ∀ n s, stack.takes itf s = true → rest n s = none

/-- The core gives every packet to the transport; the log notes those that reach handle_setup(). -/
def Stack.step (stack : Stack) (itf : UInt8) (rest : RestOfCore) (b : Board) (a : Attached) :
    Act → Attached
  | .setup env s =>
    let r := stack.onSetup itf b env a.machine.dev s
    let told := r.2.delivered (rest a.answers.length s)
    let noted := if stack.takes itf s then [s.obs told] else []
    ⟨{ a.machine with dev := r.1, log := noted ++ a.machine.log }, told :: a.answers⟩
  | act => { a with machine := ArduinoDriver.step b a.machine act }

/-- What the transport is for: handle_setup() answers the packets for it, and the rest of the core
the others. -/
def Stack.direct (stack : Stack) (itf : UInt8) (rest : RestOfCore) (b : Board) (a : Attached) :
    Act → Attached
  | .setup env s =>
    if stack.takes itf s then
      ⟨ArduinoDriver.step b a.machine (.setup env s),
        (handleSetup b env a.machine.dev s).2 :: a.answers⟩
    else { a with answers := rest a.answers.length s :: a.answers }
  | act => { a with machine := ArduinoDriver.step b a.machine act }

/-- The act is no packet that goes by. -/
def Stack.counts (stack : Stack) (itf : UInt8) : Act → Bool
  | .setup _ s => stack.takes itf s
  | _ => true

theorem Stack.step_direct {stack : Stack} {rest : RestOfCore} (runs : stack.Runs b)
    (alone : stack.Alone itf rest) {a : Attached} (reached : Reachable b a.machine) (act : Act) :
    stack.step itf rest b a act = stack.direct itf rest b a act := by
  cases act with
  | loop env => rfl
  | disconnect => rfl
  | setup env s =>
    cases ours : stack.takes itf s with
    | false =>
      have past : stack.onSetup itf b env a.machine.dev s = (a.machine.dev, .declined) :=
        onSetup_declined stack ours
      simp only [Stack.step, Stack.direct, past, ours]
      rfl
    | true =>
      obtain ⟨vendor, addressed⟩ := Bool.and_eq_true_iff.mp ours
      obtain ⟨device, told⟩ := @onSetup_ours b env a.machine.dev s itf stack vendor addressed
      have whole : (handleSetup b env a.machine.dev s).2.map stack.cut =
          (handleSetup b env a.machine.dev s).2 := by
        cases said : (handleSetup b env a.machine.dev s).2 with
        | none => rfl
        | some reply => exact congrArg some (runs.whole reached said)
      rw [whole] at told
      simp only [Stack.step, Stack.direct, ours, alone _ s ours, device, told]
      rfl

/-- A step moves the machine by what handle_setup() gets of it. -/
theorem Stack.direct_machine (stack : Stack) (itf : UInt8) (rest : RestOfCore) (b : Board)
    (a : Attached) (act : Act) :
    (stack.direct itf rest b a act).machine =
      if stack.counts itf act then ArduinoDriver.step b a.machine act else a.machine := by
  cases act with
  | setup env s =>
    cases ours : stack.takes itf s with
    | true => simp [Stack.direct, Stack.counts, ours]
    | false => simp [Stack.direct, Stack.counts, ours]
  | loop env => rfl
  | disconnect => rfl

theorem Stack.run_direct {stack : Stack} {rest : RestOfCore} (runs : stack.Runs b)
    (alone : stack.Alone itf rest) (acts : List Act) {a : Attached} (reached : Reachable b a.machine) :
    acts.foldl (stack.step itf rest b) a = acts.foldl (stack.direct itf rest b) a ∧
      (acts.foldl (stack.step itf rest b) a).machine =
        run b a.machine (acts.filter (stack.counts itf)) := by
  induction acts generalizing a with
  | nil => exact ⟨rfl, rfl⟩
  | cons act acts ih =>
    have same := Stack.step_direct runs alone reached act
    have moved := Stack.direct_machine stack itf rest b a act
    have next : Reachable b (stack.direct itf rest b a act).machine := by
      rw [moved]
      split
      · exact .tail act reached trivial
      · exact reached
    obtain ⟨agree, arrives⟩ := ih next
    rw [List.foldl_cons, List.foldl_cons, same]
    refine ⟨agree, arrives.trans ?_⟩
    rw [moved, List.filter_cons]
    split
    · rfl
    · rfl

/-- A core whose CDC module answers every request for interface 3. -/
def cdcCore : RestOfCore := fun _ s =>
  if s.wIndex &&& 0xFF = 3 ∧ s.bmRequestType &&& 0x1F = 1 then some [7] else none

theorem cdcCore_alone (stack : Stack) (offers : stack.hasInterface = true) : stack.Alone 2 cdcCore := by
  intro n s ours
  apply if_neg
  intro cdc
  simp [Stack.takes, SetupPacket.addressed, offers, cdc.1, cdc.2] at ours

end ArduinoDriver
