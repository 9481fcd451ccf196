import ArduinoDriver.Lib.Reconcile

namespace ArduinoDriver.Lib

variable {α : Type} [DecidableEq α]

/-- Appends one element after the other, each only where it is not there yet. -/
def addAll (l wanted : List α) : List α := wanted.foldl addLast l

/-- Everything of `taken` is allowed, and `l` holds at most `cap` elements with it. -/
def Fits (allowed : α → Bool) (cap : Nat) (l taken : List α) : Prop :=
  (∀ a ∈ taken, allowed a) ∧ (addAll l taken).length ≤ cap

/-- `taken` is the longest beginning of `wanted` that fits. -/
def LongestFit (allowed : α → Bool) (cap : Nat) (l wanted taken : List α) : Prop :=
  taken <+: wanted ∧ Fits allowed cap l taken ∧
    ∀ a, taken ++ [a] <+: wanted → ¬ Fits allowed cap l (taken ++ [a])

/-- A table of `cap` places takes one element after the other until it refuses one. -/
def admitted (allowed : α → Bool) (cap : Nat) : List α → List α → List α
  | _, [] => []
  | l, a :: wanted =>
    if allowed a ∧ (a ∈ l ∨ l.length < cap) then
      a :: admitted allowed cap (addLast l a) wanted
    else []

/-- What removing the unwanted ones among `gone` leaves: one that is not allowed cannot
be removed. -/
def dropped (allowed : α → Bool) (wanted gone l : List α) : List α :=
  l.filter (fun a => a ∈ wanted ∨ a ∉ gone ∨ ¬ allowed a)

variable {allowed : α → Bool} {cap : Nat} {l wanted gone taken : List α} {a : α}

@[simp] theorem mem_addLast {b : α} : b ∈ addLast l a ↔ b ∈ l ∨ b = a := by
  unfold addLast
  split
  · rename_i inside
    constructor
    · exact .inl
    · rintro (held | rfl)
      · exact held
      · exact inside
  · simp

theorem addLast_nodup (distinct : l.Nodup) : (addLast l a).Nodup := by
  unfold addLast
  split
  · exact distinct
  · rename_i absent
    exact List.nodup_append.mpr ⟨distinct, List.nodup_singleton a, by
      intro b held c single same
      rw [List.mem_singleton.mp single] at same
      exact absent (same ▸ held)⟩

theorem addAll_append (l first rest : List α) : addAll l (first ++ rest) = addAll (addAll l first) rest :=
  List.foldl_append

@[simp] theorem mem_addAll {b : α} : b ∈ addAll l wanted ↔ b ∈ l ∨ b ∈ wanted := by
  induction wanted generalizing l with
  | nil => simp [addAll]
  | cons a wanted ih =>
    change b ∈ addAll (addLast l a) wanted ↔ _
    rw [ih, mem_addLast, List.mem_cons]
    tauto

theorem addAll_nodup (distinct : l.Nodup) : (addAll l wanted).Nodup := by
  induction wanted generalizing l with
  | nil => exact distinct
  | cons a wanted ih => exact ih (addLast_nodup distinct)

theorem length_le_addAll (l wanted : List α) : l.length ≤ (addAll l wanted).length := by
  induction wanted generalizing l with
  | nil => exact Nat.le_refl _
  | cons a wanted ih =>
    have one : l.length ≤ (addLast l a).length := by
      unfold addLast
      split <;> simp
    exact Nat.le_trans one (ih (addLast l a))

theorem Fits.of_append {more : List α} (h : Fits allowed cap l (taken ++ more)) : Fits allowed cap l taken := by
  obtain ⟨every, few⟩ := h
  refine ⟨fun a inside => every a (List.mem_append_left _ inside), ?_⟩
  rw [addAll_append] at few
  exact Nat.le_trans (length_le_addAll _ more) few

theorem fits_cons : Fits allowed cap l (a :: taken) ↔ allowed a ∧ Fits allowed cap (addLast l a) taken := by
  unfold Fits
  simp only [List.forall_mem_cons, and_assoc]
  rfl

/-- There is only one longest beginning. -/
theorem LongestFit.unique {other : List α} (h : LongestFit allowed cap l wanted taken)
    (h' : LongestFit allowed cap l wanted other) : taken = other := by
  obtain ⟨first, fits, longest⟩ := h
  obtain ⟨first', fits', longest'⟩ := h'
  rcases List.prefix_or_prefix_of_prefix first first' with ⟨more, rfl⟩ | ⟨more, rfl⟩
  · cases more with
    | nil => simp
    | cons a more =>
      have split_ : taken ++ a :: more = (taken ++ [a]) ++ more := by simp
      rw [split_] at first' fits'
      exact absurd fits'.of_append (longest a ((List.prefix_append _ more).trans first'))
  · cases more with
    | nil => simp
    | cons a more =>
      have split_ : other ++ a :: more = (other ++ [a]) ++ more := by simp
      rw [split_] at first fits
      exact absurd fits.of_append (longest' a ((List.prefix_append _ more).trans first))

theorem addLast_length_le (few : l.length ≤ cap) : (addLast l a).length ≤ cap ↔ a ∈ l ∨ l.length < cap := by
  unfold addLast
  by_cases inside : a ∈ l
  · simp [inside, few]
  · simp only [inside, if_false, List.length_append, List.length_singleton, false_or]
    exact Nat.succ_le_iff

/-- Taking one after the other takes the longest beginning that fits. -/
theorem admitted_longest (few : l.length ≤ cap) :
    LongestFit allowed cap l wanted (admitted allowed cap l wanted) := by
  induction wanted generalizing l with
  | nil =>
    refine ⟨List.prefix_refl _, ⟨by simp [admitted], few⟩, ?_⟩
    intro a longer
    simp [admitted] at longer
  | cons a wanted ih =>
    unfold admitted
    split
    · rename_i taken
      have room := (addLast_length_le few).mpr taken.2
      obtain ⟨first, fits, longest⟩ := ih room
      refine ⟨List.cons_prefix_cons.mpr ⟨rfl, first⟩, fits_cons.mpr ⟨taken.1, fits⟩, ?_⟩
      intro b longer both
      exact longest b (List.cons_prefix_cons.mp longer).2 (fits_cons.mp both).2
    · rename_i refused
      refine ⟨List.nil_prefix, ⟨by simp, few⟩, ?_⟩
      intro b longer both
      have same : b = a := (List.cons_prefix_cons.mp longer).1
      subst same
      obtain ⟨ok, fits⟩ := fits_cons.mp both
      exact refused ⟨ok, (addLast_length_le few).mp (fits.2)⟩

theorem admitted_allowed (inside : a ∈ admitted allowed cap l wanted) : allowed a := by
  induction wanted generalizing l with
  | nil => simp [admitted] at inside
  | cons b wanted ih =>
    unfold admitted at inside
    split at inside
    · rename_i taken
      rcases List.mem_cons.mp inside with rfl | later
      · exact taken.1
      · exact ih later
    · simp at inside

/-- Everything wanted is taken exactly when all of it fits. -/
theorem admitted_all (few : l.length ≤ cap) :
    admitted allowed cap l wanted = wanted ↔ Fits allowed cap l wanted := by
  have longest := @admitted_longest _ _ allowed cap l wanted few
  constructor
  · intro all
    rw [all] at longest
    exact longest.2.1
  · intro fits
    refine longest.unique ⟨List.prefix_refl _, fits, ?_⟩
    intro a longer
    have longest := longer.length_le
    simp only [List.length_append, List.length_singleton] at longest
    omega

/-- Taking back what was added leaves what `l` had besides. -/
theorem addAll_takeBack :
    (addAll l taken).filter (· ∉ taken) = l.filter (· ∉ taken) := by
  have step : ∀ more : List α, (∀ a ∈ more, a ∈ taken) →
      (addAll l more).filter (· ∉ taken) = l.filter (· ∉ taken) := by
    intro more inside
    induction more generalizing l with
    | nil => rfl
    | cons a more ih =>
      have asked : a ∈ taken := inside a (List.mem_cons_self ..)
      have one : (addLast l a).filter (· ∉ taken) = l.filter (· ∉ taken) := by
        unfold addLast
        split
        · rfl
        · simp [asked]
      exact (ih (fun b later => inside b (List.mem_cons_of_mem _ later))).trans one
  exact step taken (fun _ inside => inside)

theorem dropped_cons : dropped allowed wanted (a :: gone) l =
    dropped allowed wanted gone (dropped allowed wanted [a] l) := by
  unfold dropped
  rw [List.filter_filter]
  apply List.filter_congr
  intro b _
  rw [Bool.eq_iff_iff]
  simp only [List.mem_cons, Bool.and_eq_true, decide_eq_true_eq]
  tauto

theorem dropped_nodup (distinct : l.Nodup) : (dropped allowed wanted gone l).Nodup := distinct.filter _

theorem dropped_nil : dropped allowed wanted [] l = l := by
  unfold dropped
  rw [List.filter_eq_self]
  simp

/-- With all that is wanted added, removing everything else leaves the wanted ones and
the others that cannot be removed. -/
theorem dropped_addAll_perm (distinct : l.Nodup) (asked : wanted.Nodup) (all : ∀ a ∈ l, a ∈ gone) :
    (dropped allowed wanted gone (addAll l wanted)).Perm
      (wanted ++ l.filter (fun a => a ∉ wanted ∧ ¬ allowed a)) := by
  have fresh : (wanted ++ l.filter (fun a => a ∉ wanted ∧ ¬ allowed a)).Nodup := by
    refine List.nodup_append.mpr ⟨asked, distinct.filter _, ?_⟩
    intro a inside b left same
    subst same
    have out := (List.mem_filter.mp left).2
    simp only [decide_eq_true_eq] at out
    exact out.1 inside
  refine (List.perm_ext_iff_of_nodup (dropped_nodup (addAll_nodup distinct)) fresh).mpr (fun a => ?_)
  have known := all a
  unfold dropped
  simp only [List.mem_filter, mem_addAll, List.mem_append, decide_eq_true_eq]
  tauto

/-- Taking back the wanted ones too leaves what cannot be removed. -/
theorem dropped_takeBack (all : ∀ a ∈ l, a ∈ gone) :
    (dropped allowed wanted gone (addAll l wanted)).filter (· ∉ wanted) =
      l.filter (fun a => a ∉ wanted ∧ ¬ allowed a) := by
  unfold dropped
  rw [List.filter_comm, addAll_takeBack, List.filter_filter]
  apply List.filter_congr
  intro a inside
  have known := all a inside
  rw [Bool.eq_iff_iff]
  simp only [Bool.and_eq_true, decide_eq_true_eq]
  tauto

end ArduinoDriver.Lib
