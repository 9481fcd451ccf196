import ArduinoDriver.Firmware.Invariant

namespace ArduinoDriver

/-- The fields begin() sets once and for all. -/
structure SameIdentity (d' d : UsbIoDevice) : Prop where
  nPins : d'.nPins = d.nPins
  nAin : d'.nAin = d.nAin
  flags : d'.flags = d.flags
  caps : d'.caps = d.caps

variable {b : Board} {env : Env} {d d' : UsbIoDevice} {o : Obs} {m : Machine}

theorem SameIdentity.refl (d : UsbIoDevice) : SameIdentity d d := ⟨rfl, rfl, rfl, rfl⟩

theorem Served.identity (served : Served b env d d' o) : SameIdentity d' d := by
  cases served <;> exact ⟨rfl, rfl, rfl, rfl⟩

theorem drainStep_identity (b : Board) (env : Env) (d : UsbIoDevice) (pc : DrainPc) :
    SameIdentity (drainStep b env d pc).1 d := by
  cases pc with
  | epochTest | outerTest =>
    simp only [drainStep]
    split <;> exact .refl d
  | execute c =>
    obtain ⟨dio, ain, eq⟩ := execute_frame b env d c
    simp only [drainStep, eq]
    exact ⟨rfl, rfl, rfl, rfl⟩
  | _ => exact ⟨rfl, rfl, rfl, rfl⟩

theorem shadowStep_identity (env : Env) (d : UsbIoDevice) (pc : ShadowPc) :
    SameIdentity (shadowStep env d pc).1 d := by
  cases pc with
  | enter => exact .refl d
  | pin | analog =>
    simp only [shadowStep]
    split
    · split <;> exact ⟨rfl, rfl, rfl, rfl⟩
    · exact .refl d

theorem step_identity (b : Board) (m : Machine) (act : Act) :
    SameIdentity (step b m act).dev m.dev := by
  cases act with
  | setup env s => exact (handleSetup_served b env m.dev s).identity
  | disconnect => exact ⟨rfl, rfl, rfl, rfl⟩
  | loop env =>
    obtain ⟨d, pc, log⟩ := m
    cases pc with
    | drain pc => exact drainStep_identity b env d pc
    | shadow pc => exact shadowStep_identity env d pc
    | _ => exact ⟨rfl, rfl, rfl, rfl⟩

/-- What every state keeps of begin(): the flags, and a count of the analog pins that
is no more than 32. -/
structure Begun (b : Board) (d : UsbIoDevice) : Prop where
  nPins : d.nPins = b.pinCount
  flags : d.flags = (if b.hasPulldown then flagPulldown else 0) ||| flagEvents ||| b.transportFlags
  few : d.nAin ≤ maxAin
  counted : Lib.Table.count d.nPins (fun p => hasCap (d.caps p) capAin) = d.nAin

theorem reach_begun {guard : Machine → Act → Prop}
    (reached : Lib.Reach (step b) guard (boot b) m) : Begun b m.dev := by
  refine reached.invariant (I := fun m => Begun b m.dev) ?_ (fun u act begun _ => ?_)
  · obtain ⟨caps, nAin, eq, few, counted⟩ := boot_dev b
    rw [eq]
    exact ⟨rfl, rfl, few, counted⟩
  · obtain ⟨nPins, nAin, flags, caps⟩ := step_identity b u act
    refine ⟨nPins.trans begun.nPins, flags.trans begun.flags, nAin ▸ begun.few, ?_⟩
    rw [nPins, caps, nAin]
    exact begun.counted

theorem or_events (x y : UInt16) : (x ||| flagEvents ||| y) &&& flagEvents = flagEvents := by
  unfold flagEvents
  apply UInt16.toBitVec_inj.mp
  ext i inside
  simp
  grind

/-- begin() always sets USBIO_FLAG_EVENTS. -/
theorem Begun.events (begun : Begun b d) : hasFlag d.flags flagEvents = true := by
  rw [begun.flags, hasFlag, or_events]
  decide

theorem Begun.pulldown (begun : Begun b d) : hasFlag d.flags flagPulldown = b.hasPulldown := by
  rw [begun.flags, b.transportFlags_eq]
  cases b.hasPulldown <;> cases b.hasStreamTransport <;> decide

/-- A build that streams says so. -/
theorem Begun.streaming (begun : Begun b d) : hasFlag d.flags flagStreaming = b.hasStreamTransport := by
  rw [begun.flags, b.transportFlags_eq]
  cases b.hasPulldown <;> cases b.hasStreamTransport <;> decide

end ArduinoDriver
