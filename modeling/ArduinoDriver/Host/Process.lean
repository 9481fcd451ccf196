import ArduinoDriver.Host.PinCalls
import ArduinoDriver.Lib.Threads

namespace ArduinoDriver

open Lib (System)

/-- What the threads that use a Device share, with StreamState::mutex. The mutex of the
control transfers is not seen: it is held for one transfer only. -/
structure Process where
  host : HostState
  held : Bool

/-- The step, made by one of many threads; `none` while it has to wait. -/
def Process.perform : (op : DriverOp) → Process → Option (op.Reply × Process)
  | .lock, w => if w.held then none else some ((), { w with held := true })
  | .unlock, w => some ((), { w with held := false })
  | .transfer s, w =>
    let r := HostState.perform (.transfer s) w.host
    some (r.1, { w with host := r.2 })
  | .access .., w => some ((), w)
  | .loadStreaming, w => some (w.host.streaming, w)
  | .storeStreaming value, w => some ((), { w with host := { w.host with streaming := value } })
  | .loadSelected, w => some (w.host.selected, w)
  | .storeSelected pins, w => some ((), { w with host := { w.host with selected := pins } })

/-- No request reaches the device but those of this process. -/
def Link.Sole (l : Link) : Prop := ∀ n, ∀ a ∈ (l.plan n).before, ∀ env s, a ≠ .setup env s

/-- A process that has the one Device of a board on a bus. -/
def Process.opened (l : Link) (selected : List UInt8) (streaming : Bool) : Process :=
  ⟨⟨l, selected, streaming⟩, false⟩

/-- A transfer that does not fail is one exchange with handle_setup(). -/
theorem HostState.perform_served (s : SetupPacket) {st : HostState} (served : (st.link.plan 0).failure = none) :
    HostState.perform (.transfer s) st =
      ((match st.link.reply s with
        | some reply => .ok reply
        | none => .error ⟨.stall, (st.link.plan 0).stallText⟩), { st with link := st.link.received s }) := by
  unfold HostState.perform control
  dsimp only
  rw [served]
  cases st.link.reply s <;> rfl

end ArduinoDriver
