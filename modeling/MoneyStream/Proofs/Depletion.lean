import Mathlib.Order.Bounds.Defs
import MoneyStream.Proofs.Accrual
/-! # The depletion second

A record predicts the second its deposits run out in closed form. The current leg must earn a
target: the deposits, or on a rebased record the deposits plus what had been earned at the
resume less the snapshot. The closed form takes the first active second at which the earned
units reach it (the leg's start, the cliff, or the cliff plus the seconds the rate needs,
rounded up in checked 128-bit arithmetic) and moves it to wall-clock time past the start and the
paused seconds, unless that leaves the word or passes the auto-pause deadline.

`depletionTime_eq_first_depleted` says that this agrees with a search over the vested amount: on
a record that is not paused, and whose paused seconds fit in the time before its current leg,
the predicted second is the first second from the leg's start on at which the deposits have
vested, and there is none exactly when no second of a 64-bit clock gets there.
-/
namespace MoneyStream

namespace Stream

variable (s : Stream)

/-- The earned units the current leg must reach for the deposits to have vested. -/
def legTarget : Nat :=
  if s.isRebased then
    s.totalDeposits.toNat + s.earnedUnits (s.activeSeconds s.resumeTime) - s.snapshotUnits.toNat
  else s.totalDeposits.toNat

def legStartActive : UInt64 := if s.isRebased then s.activeSeconds s.resumeTime else 0

/-- The instant the current leg starts: the later of the start and the last resume, moved into
the vesting window. -/
def legStartTime : UInt64 := s.effectiveTime (max s.start s.resumeTime)

/-- The wall-clock second at which the record reaches `active` active seconds: the start and the
paused seconds past them, if that is a word and not past the auto-pause deadline. -/
def reachesActive (active : UInt64) : Option UInt64 := do
  let base ← Word.add? s.start s.pausedSeconds
  let depletion ← Word.add? base active
  match s.autoPauseDeadline with
  | some deadline => if depletion > deadline then none else some depletion
  | none => some depletion

theorem depletionTime_eq :
    s.depletionTime = (s.activeSecondsToEarn s.legTarget s.legStartActive).bind s.reachesActive := by
  unfold depletionTime legTarget legStartActive reachesActive
  by_cases hr : s.isRebased <;> simp only [hr, if_true, if_false, Bool.false_eq_true] <;> rfl

theorem rateSeconds_eq_some {units : Nat} {k : UInt64} (h : s.rateSeconds units = some k) :
    0 < s.terms.rateAmount.toNat ∧ 0 < s.terms.rateInterval.toNat ∧
      k.toNat = (units * s.terms.rateInterval.toNat + (s.terms.rateAmount.toNat - 1)) /
        s.terms.rateAmount.toNat := by
  simp only [rateSeconds] at h
  split at h
  · cases h
  · rename_i h0
    simp only [Word.mulWide?, Word.addWide?, Option.bind_eq_bind, Option.bind_eq_some_iff] at h
    obtain ⟨scaled,hs,rounded,hr,hk⟩ := h
    split at hs <;> cases hs
    split at hr <;> cases hr
    exact ⟨by omega,by omega,Word.toNat_of_ofNat?_eq_some hk⟩

theorem linearUnits_eq_div (hr : 0 < s.terms.rateAmount.toNat) (hi : 0 < s.terms.rateInterval.toNat)
    (y : UInt64) :
    s.linearUnits y = s.terms.rateAmount.toNat * y.toNat / s.terms.rateInterval.toNat := by
  have hne : ¬ (s.terms.rateAmount = 0 ∨ s.terms.rateInterval = 0) := by
    rintro (h0 | h0) <;> simp [h0] at hr hi
  simp only [linearUnits, if_neg hne]

theorem le_linearUnits_iff_of_rateSeconds {units : Nat} {k : UInt64} (h : s.rateSeconds units = some k)
    (y : UInt64) : units ≤ s.linearUnits y ↔ k.toNat ≤ y.toNat := by
  obtain ⟨hr,hi,hk⟩ := s.rateSeconds_eq_some h
  rw [s.linearUnits_eq_div hr hi, Nat.le_div_iff_mul_le hi, hk, Nat.div_le_iff_le_mul_add_pred hr]
  omega

theorem linearUnits_lt_of_rateSeconds_eq_none {units : Nat} (hu : 0 < units)
    (h : s.rateSeconds units = none) (y : UInt64) : s.linearUnits y < units := by
  by_cases h0 : s.terms.rateAmount = 0 ∨ s.terms.rateInterval = 0
  · simp only [linearUnits, if_pos h0]
    exact hu
  have hr : 0 < s.terms.rateAmount.toNat := Word.toNat_pos fun h' => h0 (.inl h')
  have hi : 0 < s.terms.rateInterval.toNat := Word.toNat_pos fun h' => h0 (.inr h')
  rw [s.linearUnits_eq_div hr hi]
  by_contra hle
  rw [Nat.not_lt, Nat.le_div_iff_mul_le hi] at hle
  simp only [rateSeconds] at h
  have hrw := s.terms.rateAmount.toNat_lt
  set r := s.terms.rateAmount.toNat
  set i := s.terms.rateInterval.toNat
  -- a word of seconds at a word of rate releases less than `2 ^ 128`, so no check fails
  have hry : r * y.toNat ≤ (2 ^ 64 - 1) * (2 ^ 64 - 1) :=
    Nat.mul_le_mul (by omega) (by have := y.toNat_lt; omega)
  have hceil : (units * i + (r - 1)) / r ≤ y.toNat :=
    (Nat.div_le_iff_le_mul_add_pred hr).mpr (by omega)
  have h1 : Word.mulWide? units i = some (units * i) := if_pos (by unfold Word.wideSize; omega)
  have h2 : Word.addWide? (units * i) (r - 1) = some (units * i + (r - 1)) :=
    if_pos (by unfold Word.wideSize; omega)
  have h3 : Word.ofNat? ((units * i + (r - 1)) / r) = some ((units * i + (r - 1)) / r).toUInt64 :=
    if_pos (by have := y.toNat_lt; unfold UInt64.size; omega)
  have hne : ¬ (r = 0 ∨ i = 0) := by omega
  simp only [if_neg hne, h1, h2, h3, Option.bind_eq_bind, Option.bind_some] at h
  cases h

theorem le_earnedUnits_iff {target : Nat} (hc : s.cliffUnits.toNat < target) (x : UInt64) :
    target ≤ s.earnedUnits x ↔ s.terms.cliffSeconds.toNat ≤ x.toNat ∧
      target - s.cliffUnits.toNat ≤ s.linearUnits (x - s.terms.cliffSeconds) := by
  rw [earnedUnits_eq]
  split
  · rename_i h
    constructor
    · intro h'
      omega
    · rintro ⟨h',-⟩
      omega
  · rename_i h
    constructor
    · intro h'
      exact ⟨by omega,by omega⟩
    · rintro ⟨-,h'⟩
      omega

/-- The active second a leg needs is the first one, from the leg's start on, at which the earned
units reach the target. -/
theorem activeSecondsToEarn_le {target : Nat} {legStart a x : UInt64}
    (h : s.activeSecondsToEarn target legStart = some a) (hx0 : legStart.toNat ≤ x.toNat)
    (hx : target ≤ s.earnedUnits x) : a.toNat ≤ x.toNat := by
  simp only [activeSecondsToEarn, ge_iff_le] at h
  split at h
  · cases h
    exact hx0
  · rename_i hshort
    split at h
    · rename_i hcliff
      cases h
      by_contra hlt
      rw [earnedUnits_eq, if_pos (by omega)] at hx
      omega
    · rename_i hcliff
      simp only [Option.bind_eq_bind, Option.bind_eq_some_iff, Option.pure_def,
        Option.some.injEq] at h
      obtain ⟨k,hk,act,hact,rfl⟩ := h
      obtain ⟨-,hsum⟩ := Word.add?_eq_some_iff.mp hact
      obtain ⟨hcx,hlin⟩ := (s.le_earnedUnits_iff (by omega) x).mp hx
      have hkx := (s.le_linearUnits_iff_of_rateSeconds hk _).mp hlin
      rw [UInt64.toNat_sub_of_le _ _ (UInt64.le_iff_toNat_le.mpr hcx)] at hkx
      rw [Word.toNat_max]
      omega

theorem activeSecondsToEarn_isLeast {target : Nat} {legStart a : UInt64}
    (h : s.activeSecondsToEarn target legStart = some a) :
    IsLeast {x : UInt64 | legStart ≤ x ∧ target ≤ s.earnedUnits x} a := by
  obtain ⟨hearn,hle⟩ := s.earnedUnits_of_activeSecondsToEarn h
  refine ⟨⟨UInt64.le_iff_toNat_le.mpr hle,hearn⟩,?_⟩
  rintro x ⟨hx0,hx⟩
  exact UInt64.le_iff_toNat_le.mpr (s.activeSecondsToEarn_le h (UInt64.le_iff_toNat_le.mp hx0) hx)

theorem earnedUnits_lt_of_activeSecondsToEarn_eq_none {target : Nat} {legStart : UInt64}
    (h : s.activeSecondsToEarn target legStart = none) (x : UInt64) : s.earnedUnits x < target := by
  simp only [activeSecondsToEarn, ge_iff_le] at h
  split at h
  · cases h
  · split at h
    · cases h
    · rename_i hcliff
      rw [Nat.not_le] at hcliff
      by_contra hle
      rw [Nat.not_lt] at hle
      obtain ⟨hcx,hlin⟩ := (s.le_earnedUnits_iff hcliff x).mp hle
      cases hk : s.rateSeconds (target - s.cliffUnits.toNat) with
      | none => exact absurd hlin (Nat.not_le.mpr (s.linearUnits_lt_of_rateSeconds_eq_none (by omega) hk _))
      | some k =>
        -- the rate needs more seconds past the cliff than a word holds
        have hkx := (s.le_linearUnits_iff_of_rateSeconds hk _).mp hlin
        rw [UInt64.toNat_sub_of_le _ _ (UInt64.le_iff_toNat_le.mpr hcx)] at hkx
        simp only [hk, Option.bind_eq_bind, Option.bind_some, Option.bind_eq_none_iff, Option.pure_def,
          reduceCtorEq, imp_false] at h
        have hov := Word.add?_eq_none_iff.mp (Option.eq_none_iff_forall_ne_some.mpr h)
        have := x.toNat_lt
        omega

theorem effectiveTime_le_deadline {deadline : UInt64} (h : s.autoPauseDeadline = some deadline)
    (t : UInt64) : (s.effectiveTime t).toNat ≤ deadline.toNat := by
  simp only [effectiveTime, h, Word.toNat_min]
  omega

theorem effectiveTime_le {t : UInt64} (h : s.start.toNat ≤ t.toNat) : (s.effectiveTime t).toNat ≤ t.toNat := by
  have hs := Word.toNat_addSat s.start s.terms.autoPauseSeconds
  rw [effectiveTime_toNat]
  split <;> omega

theorem effectiveTime_effectiveTime (t : UInt64) : s.effectiveTime (s.effectiveTime t) = s.effectiveTime t := by
  have hs := Word.toNat_addSat s.start s.terms.autoPauseSeconds
  have ht := t.toNat_lt
  apply UInt64.toNat_inj.mp
  rw [effectiveTime_toNat, effectiveTime_toNat s t]
  split <;> omega

theorem effectiveTime_max_start (t : UInt64) : s.effectiveTime (max s.start t) = s.effectiveTime t := by
  apply UInt64.toNat_inj.mp
  rw [effectiveTime_toNat, effectiveTime_toNat s t, Word.toNat_max]
  split <;> omega

theorem activeSeconds_effectiveTime (t : UInt64) : s.activeSeconds (s.effectiveTime t) = s.activeSeconds t := by
  unfold activeSeconds
  rw [effectiveTime_effectiveTime]

theorem legStartTime_eq : s.legStartTime = if s.isRebased then s.effectiveTime s.resumeTime else s.start := by
  unfold legStartTime
  rw [effectiveTime_max_start]
  split
  · rfl
  · rename_i hr
    have hle : s.resumeTime.toNat ≤ s.start.toNat := by simpa [isRebased, UInt64.lt_iff_toNat_lt] using hr
    apply UInt64.toNat_inj.mp
    have hs := Word.toNat_addSat s.start s.terms.autoPauseSeconds
    have hlt := s.start.toNat_lt
    rw [effectiveTime_toNat]
    split <;> omega

theorem start_le_legStartTime : s.start.toNat ≤ s.legStartTime.toNat := s.start_le_effectiveTime _

variable {s}

theorem activeSeconds_add (hP : s.start.toNat + s.pausedSeconds.toNat ≤ s.legStartTime.toNat)
    {t : UInt64} (ht : s.legStartTime ≤ t) :
    s.start.toNat + s.pausedSeconds.toNat + (s.activeSeconds t).toNat = (s.effectiveTime t).toNat := by
  have hmono := s.effectiveTime_mono (UInt64.le_iff_toNat_le.mp ht)
  rw [legStartTime, effectiveTime_effectiveTime] at hmono
  rw [activeSeconds_toNat]
  rw [← legStartTime] at hmono
  omega

theorem legStartActive_add (hP : s.start.toNat + s.pausedSeconds.toNat ≤ s.legStartTime.toNat) :
    s.start.toNat + s.pausedSeconds.toNat + s.legStartActive.toNat = s.legStartTime.toNat := by
  unfold legStartActive
  have hL := s.legStartTime_eq
  split
  · rename_i hr
    rw [if_pos hr] at hL
    rw [hL] at hP ⊢
    rw [activeSeconds_toNat]
    omega
  · rename_i hr
    rw [if_neg hr] at hL
    rw [hL] at hP ⊢
    simp only [UInt64.toNat_zero]
    omega

theorem legStartActive_le_activeSeconds (hP : s.start.toNat + s.pausedSeconds.toNat ≤ s.legStartTime.toNat)
    {t : UInt64} (ht : s.legStartTime ≤ t) : s.legStartActive.toNat ≤ (s.activeSeconds t).toNat := by
  have h1 := activeSeconds_add hP ht
  have h2 := legStartActive_add hP
  have hmono := s.effectiveTime_mono (UInt64.le_iff_toNat_le.mp ht)
  rw [legStartTime, effectiveTime_effectiveTime, ← legStartTime] at hmono
  omega

/-- From the leg's start on, the deposits have vested exactly when the earned units have reached
the leg's target. -/
theorem totalDeposits_le_vestedUnitsRaw_iff (hp : s.state ≠ .paused) {t : UInt64} (ht : s.legStartTime ≤ t) :
    s.totalDeposits.toNat ≤ s.vestedUnitsRaw t ↔ s.legTarget ≤ s.earnedUnits (s.activeSeconds t) := by
  have hst : s.start.toNat ≤ t.toNat := s.start_le_legStartTime.trans (UInt64.le_iff_toNat_le.mp ht)
  rw [s.vestedUnitsRaw_of_running hp hst]
  unfold legTarget
  have hL := s.legStartTime_eq
  by_cases hr : s.isRebased
  · have hrt : ¬ s.resumeTime.toNat ≤ s.start.toNat := by simpa [isRebased, UInt64.lt_iff_toNat_lt] using hr
    rw [if_pos hr] at hL ⊢
    rw [if_neg hrt]
    have hmono : s.earnedUnits (s.activeSeconds s.resumeTime) ≤ s.earnedUnits (s.activeSeconds t) := by
      rw [← activeSeconds_effectiveTime]
      apply s.earnedUnits_mono
      apply s.activeSeconds_mono
      rw [← hL]
      exact UInt64.le_iff_toNat_le.mp ht
    omega
  · have hrt : s.resumeTime.toNat ≤ s.start.toNat := by simpa [isRebased, UInt64.lt_iff_toNat_lt] using hr
    rw [if_neg hr, if_pos hrt]

theorem reachesActive_eq_some {a d : UInt64} (h : s.reachesActive a = some d) :
    s.start.toNat + s.pausedSeconds.toNat + a.toNat = d.toNat ∧
      ∀ deadline, s.autoPauseDeadline = some deadline → d.toNat ≤ deadline.toNat := by
  simp only [reachesActive, Option.bind_eq_bind, Option.bind_eq_some_iff] at h
  obtain ⟨base,hb,dep,hd,hm⟩ := h
  have hbase := (Word.add?_eq_some_iff.mp hb).2
  have hdep := (Word.add?_eq_some_iff.mp hd).2
  cases hdl : s.autoPauseDeadline with
  | none =>
    rw [hdl] at hm
    cases hm
    exact ⟨by omega,by simp⟩
  | some deadline =>
    rw [hdl] at hm
    simp only [gt_iff_lt, UInt64.lt_iff_toNat_lt] at hm
    split at hm
    · cases hm
    · rename_i hle
      cases hm
      refine ⟨by omega,?_⟩
      rintro dl ⟨⟩
      omega

theorem reachesActive_eq_none {a : UInt64} (h : s.reachesActive a = none) :
    2 ^ 64 ≤ s.start.toNat + s.pausedSeconds.toNat + a.toNat ∨ ∃ deadline,
      s.autoPauseDeadline = some deadline ∧ deadline.toNat < s.start.toNat + s.pausedSeconds.toNat + a.toNat := by
  simp only [reachesActive, Option.bind_eq_bind] at h
  cases hb : Word.add? s.start s.pausedSeconds with
  | none => exact .inl (by have := Word.add?_eq_none_iff.mp hb; omega)
  | some base =>
    have hbase := (Word.add?_eq_some_iff.mp hb).2
    rw [hb, Option.bind_some] at h
    cases hd : Word.add? base a with
    | none => exact .inl (by have := Word.add?_eq_none_iff.mp hd; omega)
    | some dep =>
      have hdep := (Word.add?_eq_some_iff.mp hd).2
      rw [hd, Option.bind_some] at h
      cases hdl : s.autoPauseDeadline with
      | none => rw [hdl] at h; cases h
      | some deadline =>
        rw [hdl] at h
        simp only [gt_iff_lt, UInt64.lt_iff_toNat_lt] at h
        split at h
        · rename_i hlt
          exact .inr ⟨deadline,rfl,by omega⟩
        · cases h

theorem effectiveTime_eq_self {t : UInt64} (hs : s.start.toNat ≤ t.toNat)
    (hd : ∀ deadline, s.autoPauseDeadline = some deadline → t.toNat ≤ deadline.toNat) :
    s.effectiveTime t = t := by
  apply UInt64.toNat_inj.mp
  unfold effectiveTime
  cases hdl : s.autoPauseDeadline with
  | none => simp only [Word.toNat_max]; omega
  | some deadline =>
    have := hd deadline hdl
    simp only [Word.toNat_min, Word.toNat_max]
    omega

theorem legStartTime_le_of_depletionTime {d : UInt64} (h : s.depletionTime = some d) :
    s.legStartTime.toNat ≤ d.toNat := by
  rw [depletionTime_eq, Option.bind_eq_some_iff] at h
  obtain ⟨a,ha,hd⟩ := h
  obtain ⟨-,hleg⟩ := s.earnedUnits_of_activeSecondsToEarn ha
  obtain ⟨hsum,-⟩ := reachesActive_eq_some hd
  rw [legStartTime_eq]
  unfold legStartActive at hleg
  split
  · rename_i hr
    rw [if_pos hr, activeSeconds_toNat] at hleg
    omega
  · omega

theorem depletionTime_isLeast (hp : s.state ≠ .paused)
    (hP : s.start.toNat + s.pausedSeconds.toNat ≤ s.legStartTime.toNat) {d : UInt64}
    (h : s.depletionTime = some d) :
    IsLeast {t : UInt64 | s.legStartTime ≤ t ∧ s.totalDeposits.toNat ≤ s.vestedUnitsRaw t} d := by
  have hLd : s.legStartTime ≤ d := UInt64.le_iff_toNat_le.mpr (legStartTime_le_of_depletionTime h)
  rw [depletionTime_eq, Option.bind_eq_some_iff] at h
  obtain ⟨a,ha,hd⟩ := h
  obtain ⟨hearn,-⟩ := s.earnedUnits_of_activeSecondsToEarn ha
  obtain ⟨hsum,hdl⟩ := reachesActive_eq_some hd
  have hact : s.activeSeconds d = a := by
    have h1 := activeSeconds_add hP hLd
    have h2 := s.effectiveTime_eq_self (t := d) (by omega) hdl
    rw [h2] at h1
    exact UInt64.toNat_inj.mp (by omega)
  refine ⟨⟨hLd,(totalDeposits_le_vestedUnitsRaw_iff hp hLd).mpr (hact ▸ hearn)⟩,?_⟩
  rintro t ⟨hLt,ht⟩
  have hat := s.activeSecondsToEarn_le ha (legStartActive_le_activeSeconds hP hLt)
    ((totalDeposits_le_vestedUnitsRaw_iff hp hLt).mp ht)
  have h1 := activeSeconds_add hP hLt
  have h2 := s.effectiveTime_le (s.start_le_legStartTime.trans (UInt64.le_iff_toNat_le.mp hLt))
  exact UInt64.le_iff_toNat_le.mpr (by omega)

theorem vestedUnitsRaw_lt_of_depletionTime_eq_none (hp : s.state ≠ .paused)
    (hP : s.start.toNat + s.pausedSeconds.toNat ≤ s.legStartTime.toNat) (h : s.depletionTime = none)
    {t : UInt64} (ht : s.legStartTime ≤ t) : s.vestedUnitsRaw t < s.totalDeposits.toNat := by
  by_contra hle
  have hearn := (totalDeposits_le_vestedUnitsRaw_iff hp ht).mp (Nat.not_lt.mp hle)
  rw [depletionTime_eq] at h
  cases ha : s.activeSecondsToEarn s.legTarget s.legStartActive with
  | none => exact absurd hearn (Nat.not_le.mpr (s.earnedUnits_lt_of_activeSecondsToEarn_eq_none ha _))
  | some a =>
    rw [ha, Option.bind_some] at h
    have hat := s.activeSecondsToEarn_le ha (legStartActive_le_activeSeconds hP ht) hearn
    have h1 := activeSeconds_add hP ht
    have h2 := s.effectiveTime_le (s.start_le_legStartTime.trans (UInt64.le_iff_toNat_le.mp ht))
    have htlt := t.toNat_lt
    rcases reachesActive_eq_none h with hov | ⟨deadline,hdl,hlt⟩
    · omega
    · have := s.effectiveTime_le_deadline hdl t
      omega

theorem depletionTime_eq_some_iff (hp : s.state ≠ .paused)
    (hP : s.start.toNat + s.pausedSeconds.toNat ≤ s.legStartTime.toNat) (d : UInt64) :
    s.depletionTime = some d ↔
      IsLeast {t : UInt64 | s.legStartTime ≤ t ∧ s.totalDeposits.toNat ≤ s.vestedUnitsRaw t} d := by
  constructor
  · exact depletionTime_isLeast hp hP
  · intro hd
    cases h : s.depletionTime with
    | none =>
      exact absurd hd.1.2 (Nat.not_le.mpr (vestedUnitsRaw_lt_of_depletionTime_eq_none hp hP h hd.1.1))
    | some d' =>
      have hd' := depletionTime_isLeast hp hP h
      exact congrArg some (UInt64.le_antisymm (hd'.2 hd.1) (hd.2 hd'.1))

theorem depletionTime_eq_none_iff (hp : s.state ≠ .paused)
    (hP : s.start.toNat + s.pausedSeconds.toNat ≤ s.legStartTime.toNat) :
    s.depletionTime = none ↔ ∀ t, s.legStartTime ≤ t → s.vestedUnitsRaw t < s.totalDeposits.toNat := by
  constructor
  · exact fun h t ht => vestedUnitsRaw_lt_of_depletionTime_eq_none hp hP h ht
  · intro hnone
    cases h : s.depletionTime with
    | none => rfl
    | some d =>
      have hd := (depletionTime_isLeast hp hP h).1
      exact absurd hd.2 (Nat.not_le.mpr (hnone d hd.1))

/-- The closed form agrees with a search over the vested amount. On a record that is not paused,
whose paused seconds fit in the time from the start to its current leg, the predicted depletion
second is the first second, from the leg's start on, at which the deposits have vested; and
there is none exactly when no second of a 64-bit clock gets there. -/
theorem depletionTime_eq_first_depleted (hp : s.state ≠ .paused)
    (hP : s.start.toNat + s.pausedSeconds.toNat ≤ (s.effectiveTime (max s.start s.resumeTime)).toNat) :
    (∀ d, s.depletionTime = some d ↔ IsLeast {t : UInt64 | s.effectiveTime (max s.start s.resumeTime) ≤ t ∧
        s.totalDeposits.toNat ≤ s.vestedUnitsRaw t} d) ∧
      (s.depletionTime = none ↔ ∀ t, s.effectiveTime (max s.start s.resumeTime) ≤ t →
        s.vestedUnitsRaw t < s.totalDeposits.toNat) :=
  ⟨depletionTime_eq_some_iff hp hP,depletionTime_eq_none_iff hp hP⟩

theorem first_depleted_second_of_hourly_stream :
    let s : Stream := { (default : Stream) with
      initialized := true, state := .active, start := 1000000, totalDeposits := 1000,
      terms := { (default : Terms) with rateAmount := 100, rateInterval := 3600 } }
    s.state ≠ .paused ∧
      s.start.toNat + s.pausedSeconds.toNat ≤ (s.effectiveTime (max s.start s.resumeTime)).toNat ∧
      IsLeast {t : UInt64 | s.effectiveTime (max s.start s.resumeTime) ≤ t ∧
        s.totalDeposits.toNat ≤ s.vestedUnitsRaw t} 1036000 := by
  intro s
  have hp : s.state ≠ .paused := by decide
  have hP : s.start.toNat + s.pausedSeconds.toNat ≤ (s.effectiveTime (max s.start s.resumeTime)).toNat := by
    decide
  exact ⟨hp,hP,((depletionTime_eq_first_depleted hp hP).1 1036000).mp (by decide)⟩

end Stream

end MoneyStream
