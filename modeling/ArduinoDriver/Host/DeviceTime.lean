import ArduinoDriver.Host.ReadBack
import ArduinoDriver.Lib.Clock

namespace ArduinoDriver

/-- The period of micros(). -/
def microsWrap : UInt64 := (1 : UInt64) <<< 32

/-- millis() in microseconds, which 64 bits hold. -/
def coarseMicros (millis : UInt32) : UInt64 := millis.toUInt64 * 1000

/-- The micros() reading in the epoch that millis() is in. -/
def candidateMicros (millis micros : UInt32) : UInt64 :=
  coarseMicros millis / microsWrap * microsWrap + micros.toUInt64

/-- The test of the branch that takes an epoch back. -/
def epochAhead (millis micros : UInt32) : Bool :=
  coarseMicros millis < candidateMicros millis micros &&
    microsWrap / 2 < candidateMicros millis micros - coarseMicros millis

def epochBehind (millis micros : UInt32) : Bool :=
  candidateMicros millis micros < coarseMicros millis &&
    microsWrap / 2 < coarseMicros millis - candidateMicros millis micros

def reconstructMicros64 (millis micros : UInt32) : UInt64 :=
  if epochAhead millis micros then candidateMicros millis micros - microsWrap
  else if epochBehind millis micros then candidateMicros millis micros + microsWrap
  else candidateMicros millis micros

/-- DeviceTime, less the host's own clock. -/
structure DeviceTime where
  millis : UInt32
  micros : UInt32
  micros64 : UInt64
  deriving DecidableEq, Repr

/-- What read_time() makes of a reply. -/
def TimeReply.deviceTime (t : TimeReply) : DeviceTime :=
  ⟨t.millis, t.micros, reconstructMicros64 t.millis t.micros⟩

section

variable {millis micros : UInt32}

theorem microsWrap_toNat : microsWrap.toNat = 2 ^ 32 := rfl

theorem coarseMicros_toNat : (coarseMicros millis).toNat = 1000 * millis.toNat := by
  have small := millis.toNat_lt
  rw [coarseMicros, UInt64.toNat_mul, UInt32.toNat_toUInt64]
  change millis.toNat * 1000 % 2 ^ 64 = _
  omega

theorem candidateMicros_toNat :
    (candidateMicros millis micros).toNat =
      Lib.Clock.sameTurn (2 ^ 32) (1000 * millis.toNat) micros.toNat := by
  have small := millis.toNat_lt
  have small' := micros.toNat_lt
  have turn : (coarseMicros millis / microsWrap * microsWrap).toNat =
      1000 * millis.toNat / 2 ^ 32 * 2 ^ 32 := by
    rw [UInt64.toNat_mul, UInt64.toNat_div, coarseMicros_toNat, microsWrap_toNat]
    omega
  rw [candidateMicros, UInt64.toNat_add, turn, UInt32.toNat_toUInt64, Lib.Clock.sameTurn]
  omega

/-- The guarded difference of the source is never taken below zero. -/
theorem half_past {a b : UInt64} :
    (a < b && microsWrap / 2 < b - a) = decide (a.toNat + 2 ^ 31 < b.toNat) := by
  have half : (microsWrap / 2).toNat = 2 ^ 31 := rfl
  rw [Bool.eq_iff_iff, Bool.and_eq_true, decide_eq_true_eq, decide_eq_true_eq, decide_eq_true_eq,
    UInt64.lt_iff_toNat_lt, UInt64.lt_iff_toNat_lt, half]
  constructor
  · rintro ⟨past, far⟩
    rw [UInt64.toNat_sub_of_le _ _ (Nat.le_of_lt past)] at far
    omega
  · intro far
    have past : a.toNat < b.toNat := by omega
    rw [UInt64.toNat_sub_of_le _ _ (Nat.le_of_lt past)]
    omega

theorem epochAhead_eq :
    epochAhead millis micros = Lib.Clock.ahead (2 ^ 32) (1000 * millis.toNat) micros.toNat := by
  rw [epochAhead, half_past, coarseMicros_toNat, candidateMicros_toNat]
  rfl

theorem epochBehind_eq :
    epochBehind millis micros = Lib.Clock.behind (2 ^ 32) (1000 * millis.toNat) micros.toNat := by
  rw [epochBehind, half_past, coarseMicros_toNat, candidateMicros_toNat]
  rfl

/-- Unless an epoch is taken back that the candidate does not have, 64 bits compute what the
unbounded clock does. -/
theorem reconstructMicros64_toNat
    (room : epochAhead millis micros = true → 2 ^ 32 ≤ (candidateMicros millis micros).toNat) :
    (reconstructMicros64 millis micros).toNat =
      Lib.Clock.resolve (2 ^ 32) (1000 * millis.toNat) micros.toNat := by
  have small : (candidateMicros millis micros).toNat + 2 ^ 32 < 2 ^ 64 := by
    have low := millis.toNat_lt
    have low' := micros.toNat_lt
    rw [candidateMicros_toNat, Lib.Clock.sameTurn]
    omega
  unfold reconstructMicros64 Lib.Clock.resolve
  rw [← epochAhead_eq, ← epochBehind_eq, ← candidateMicros_toNat]
  split
  next past => exact UInt64.toNat_sub_of_le _ _ (room past)
  next =>
    split
    next => rw [UInt64.toNat_add, microsWrap_toNat, Nat.mod_eq_of_lt small]
    next => rfl

/-- An epoch is taken back only where there is one. -/
theorem epochAhead_room {time : Nat} (near : |(1000 * millis.toNat : Int) - time| < 2 ^ 31)
    (past : epochAhead millis (UInt32.ofNat time) = true) :
    2 ^ 32 ≤ (candidateMicros millis (UInt32.ofNat time)).toNat := by
  obtain ⟨below, above⟩ := abs_lt.mp near
  rw [epochAhead_eq, UInt32.toNat_ofNat'] at past
  rw [candidateMicros_toNat, UInt32.toNat_ofNat']
  exact Lib.Clock.wrap_le_of_ahead (by omega) (by omega) past

theorem reconstructMicros64_near {time : Nat} (near : |(1000 * millis.toNat : Int) - time| < 2 ^ 31) :
    (reconstructMicros64 millis (UInt32.ofNat time)).toNat = time := by
  obtain ⟨below, above⟩ := abs_lt.mp near
  rw [reconstructMicros64_toNat (epochAhead_room near), UInt32.toNat_ofNat']
  exact Lib.Clock.resolve_mod (by omega) (by omega)

/-- GET_TIME's two readings give back the device's time, also when they are not of one instant, and
an epoch is taken back only where there is one. -/
theorem reconstructMicros64_exact (time : Nat) (millis : UInt32)
    (near : |(1000 * millis.toNat : Int) - time| < 2 ^ 31) :
    (reconstructMicros64 millis (UInt32.ofNat time)).toNat = time ∧
      (epochAhead millis (UInt32.ofNat time) = true →
        2 ^ 32 ≤ (candidateMicros millis (UInt32.ofNat time)).toNat) :=
  ⟨reconstructMicros64_near near, epochAhead_room near⟩

/-- 50 us after micros() first wrapped. -/
theorem reconstructMicros64_exact_wrapped :
    (reconstructMicros64 4294967 (UInt32.ofNat (2 ^ 32 + 50))).toNat = 2 ^ 32 + 50 :=
  (reconstructMicros64_exact (2 ^ 32 + 50) 4294967 (by decide)).1

/-- A reply of one instant of the first 2^32 ms. -/
theorem deviceTime_exact (env : Env) (time : Nat) (inRange : time < 1000 * 2 ^ 32)
    (millis : env.millis = UInt32.ofNat (time / 1000)) (micros : env.micros = UInt32.ofNat time) :
    (decodeTimeReply (timeBytes env)).deviceTime.micros64.toNat = time := by
  rw [decodeTimeReply_bytes, millis, micros]
  apply reconstructMicros64_near
  rw [UInt32.toNat_ofNat', Nat.mod_eq_of_lt (by omega), abs_lt]
  omega

end

end ArduinoDriver
