import Mathlib.Data.UInt
import MoneyStream.Vesting
/-! # Accrual arithmetic

The vesting figures read as natural numbers. The effective instant is the instant clamped to
the vesting window; active seconds and earned units never go down as time goes on; the clamped
vested amount lies between the withdrawals and the deposits; and the depletion second a record
predicts is one at which its deposits have vested.
-/
namespace MoneyStream

namespace Word

@[simp] theorem toNat_max (a b : UInt64) : (max a b).toNat = max a.toNat b.toNat :=
  UInt64.toNat_max a b

@[simp] theorem toNat_min (a b : UInt64) : (min a b).toNat = min a.toNat b.toNat :=
  UInt64.toNat_min a b

theorem toNat_pos {a : UInt64} (h : a ≠ 0) : 0 < a.toNat := by
  have h0 : a.toNat ≠ 0 := fun h0 => h (UInt64.toNat_inj.mp (by simpa using h0))
  omega

theorem min_eq_or (a b : UInt64) : min a b = a ∨ min a b = b := by
  have h := toNat_min a b
  rcases Nat.le_total a.toNat b.toNat with hab | hab
  · exact .inl (UInt64.toNat_inj.mp (by omega))
  · exact .inr (UInt64.toNat_inj.mp (by omega))

theorem toNat_maxValue : maxValue.toNat = 2 ^ 64 - 1 := rfl

theorem toNat_toUInt64 {n : Nat} (h : n < 2 ^ 64) : n.toUInt64.toNat = n := by
  simp only [Nat.toUInt64_eq, UInt64.toNat_ofNat']
  omega

@[simp] theorem toNat_ofNatSat (n : Nat) : (ofNatSat n).toNat = min n (2 ^ 64 - 1) := by
  unfold ofNatSat UInt64.size
  split
  · rename_i h
    rw [toNat_toUInt64 h]
    omega
  · rw [toNat_maxValue]
    omega

theorem toNat_addSat (a b : UInt64) : (addSat a b).toNat = min (a.toNat + b.toNat) (2 ^ 64 - 1) := by
  unfold addSat UInt64.size
  split
  · rename_i h
    rw [UInt64.toNat_add]
    omega
  · rw [toNat_maxValue]
    omega

theorem add?_eq_some_iff {a b c : UInt64} :
    add? a b = some c ↔ a.toNat + b.toNat < 2 ^ 64 ∧ c.toNat = a.toNat + b.toNat := by
  unfold add? UInt64.size
  split
  · rename_i h
    have h64 : a.toNat + b.toNat < 2 ^ 64 := h
    simp only [Option.some.injEq, h64, true_and]
    constructor
    · rintro rfl
      rw [UInt64.toNat_add]
      omega
    · intro hc
      apply UInt64.toNat_inj.mp
      rw [hc, UInt64.toNat_add]
      omega
  · rename_i h
    simp only [reduceCtorEq, false_iff, not_and]
    omega

theorem add?_of_lt {a b : UInt64} (h : a.toNat + b.toNat < 2 ^ 64) : add? a b = some (a + b) := by
  unfold add?
  exact if_pos h

theorem add?_eq_none_iff {a b : UInt64} : add? a b = none ↔ 2 ^ 64 ≤ a.toNat + b.toNat := by
  unfold add? UInt64.size
  split <;> simp <;> omega

theorem toNat_of_ofNat?_eq_some {n : Nat} {w : UInt64} (h : ofNat? n = some w) : w.toNat = n := by
  unfold ofNat? UInt64.size at h
  split at h
  · rename_i hn
    cases h
    exact toNat_toUInt64 hn
  · cases h

end Word

namespace Stream

variable (s : Stream)

/-- The effective instant is the instant clamped to the window: not before the start, and not
after the deadline, which itself stops at the largest word. -/
theorem effectiveTime_toNat (t : UInt64) : (s.effectiveTime t).toNat =
    if s.terms.autoPauseSeconds = 0 then max t.toNat s.start.toNat
    else min (max t.toNat s.start.toNat)
      (min (s.start.toNat + s.terms.autoPauseSeconds.toNat) (2 ^ 64 - 1)) := by
  by_cases h : s.terms.autoPauseSeconds = 0
  · simp [effectiveTime, autoPauseDeadline, h]
  · simp [effectiveTime, autoPauseDeadline, h, Word.toNat_addSat]

theorem start_le_effectiveTime (t : UInt64) : s.start.toNat ≤ (s.effectiveTime t).toNat := by
  have hs := Word.toNat_addSat s.start s.terms.autoPauseSeconds
  have hlt := s.start.toNat_lt
  rw [effectiveTime_toNat]
  split <;> omega

theorem effectiveTime_mono {t u : UInt64} (h : t.toNat ≤ u.toNat) :
    (s.effectiveTime t).toNat ≤ (s.effectiveTime u).toNat := by
  rw [effectiveTime_toNat, effectiveTime_toNat]
  split <;> omega

theorem effectiveTime_of_mem_window {t : UInt64} (hs : s.start.toNat ≤ t.toNat)
    (hd : s.terms.autoPauseSeconds ≠ 0 → t.toNat ≤ s.start.toNat + s.terms.autoPauseSeconds.toNat) :
    (s.effectiveTime t).toNat = t.toNat := by
  have ht := t.toNat_lt
  rw [effectiveTime_toNat]
  split
  · omega
  · rename_i h0
    have := hd h0
    omega

@[simp] theorem activeSeconds_toNat (t : UInt64) :
    (s.activeSeconds t).toNat = (s.effectiveTime t).toNat - s.start.toNat - s.pausedSeconds.toNat := by
  simp [activeSeconds, Word.toNat_subSat]

theorem activeSeconds_mono {t u : UInt64} (h : t.toNat ≤ u.toNat) :
    (s.activeSeconds t).toNat ≤ (s.activeSeconds u).toNat := by
  have := s.effectiveTime_mono h
  simp only [activeSeconds_toNat]
  omega

theorem linearUnits_mono {a b : UInt64} (h : a.toNat ≤ b.toNat) : s.linearUnits a ≤ s.linearUnits b := by
  unfold linearUnits
  split
  · exact Nat.zero_le _
  · exact Nat.div_le_div_right (Nat.mul_le_mul_left _ h)

theorem earnedUnits_eq (a : UInt64) : s.earnedUnits a =
    if a.toNat < s.terms.cliffSeconds.toNat then 0
    else s.cliffUnits.toNat + s.linearUnits (a - s.terms.cliffSeconds) := by
  simp only [earnedUnits, UInt64.lt_iff_toNat_lt]

theorem earnedUnits_mono {a b : UInt64} (h : a.toNat ≤ b.toNat) : s.earnedUnits a ≤ s.earnedUnits b := by
  rw [earnedUnits_eq, earnedUnits_eq]
  split
  · exact Nat.zero_le _
  · rename_i ha
    rw [if_neg (by omega)]
    have hab : (a - s.terms.cliffSeconds).toNat ≤ (b - s.terms.cliffSeconds).toNat := by
      rw [UInt64.toNat_sub_of_le _ _ (UInt64.le_iff_toNat_le.mpr (by omega)),
        UInt64.toNat_sub_of_le _ _ (UInt64.le_iff_toNat_le.mpr (by omega))]
      omega
    exact Nat.add_le_add_left (s.linearUnits_mono hab) _

theorem vestedUnits_toNat (now : UInt64) : (s.vestedUnits now).toNat =
    max (min (s.vestedUnitsRaw now) s.totalDeposits.toNat) s.totalWithdrawals.toNat := by
  have hd := s.totalDeposits.toNat_lt
  rw [vestedUnits, Word.toNat_max, Word.toNat_toUInt64 (by omega)]

theorem totalWithdrawals_le_vestedUnits (now : UInt64) :
    s.totalWithdrawals.toNat ≤ (s.vestedUnits now).toNat := by
  rw [vestedUnits_toNat]
  omega

theorem vestedUnits_le_totalDeposits (now : UInt64) (h : s.totalWithdrawals.toNat ≤ s.totalDeposits.toNat) :
    (s.vestedUnits now).toNat ≤ s.totalDeposits.toNat := by
  rw [vestedUnits_toNat]
  omega

theorem withdrawableAmount_toNat (now : UInt64) :
    (s.withdrawableAmount now).toNat = (s.vestedUnits now).toNat - s.totalWithdrawals.toNat := by
  unfold withdrawableAmount
  rw [UInt64.toNat_sub_of_le _ _ (UInt64.le_iff_toNat_le.mpr (s.totalWithdrawals_le_vestedUnits now))]

theorem vestedUnitsRaw_of_lt_start {now : UInt64} (hp : s.state ≠ .paused) (h : now.toNat < s.start.toNat) :
    s.vestedUnitsRaw now = 0 := by
  have hm : s.isManuallyPaused = false := by simpa [isManuallyPaused] using hp
  simp [vestedUnitsRaw, hm, UInt64.lt_iff_toNat_lt, h]

theorem vestedUnitsRaw_of_paused {now : UInt64} (hp : s.state = .paused) :
    s.vestedUnitsRaw now = s.snapshotUnits.toNat := by
  simp [vestedUnitsRaw, isManuallyPaused, hp]

/-- Off a manual pause and from the start on, the unclamped vested amount is what the current
leg earned since its resume on top of the snapshot (rebased), or all that was earned. -/
theorem vestedUnitsRaw_of_running {now : UInt64} (hp : s.state ≠ .paused) (h : s.start.toNat ≤ now.toNat) :
    s.vestedUnitsRaw now = if s.resumeTime.toNat ≤ s.start.toNat then s.earnedUnits (s.activeSeconds now)
      else s.snapshotUnits.toNat +
        (s.earnedUnits (s.activeSeconds now) - s.earnedUnits (s.activeSeconds s.resumeTime)) := by
  have hm : s.isManuallyPaused = false := by simpa [isManuallyPaused] using hp
  have hn : ¬ now < s.start := by rw [UInt64.lt_iff_toNat_lt]; omega
  have hr : s.isRebased = decide (s.start.toNat < s.resumeTime.toNat) := by
    simp [isRebased, UInt64.lt_iff_toNat_lt]
  simp only [vestedUnitsRaw, hm, hn, hr, Bool.false_eq_true, if_false, decide_eq_true_eq]
  by_cases hle : s.resumeTime.toNat ≤ s.start.toNat
  · rw [if_neg (by omega), if_pos hle]
  · rw [if_pos (by omega), if_neg hle]

theorem isDepleted_iff (now : UInt64) : s.isDepleted now = true ↔
    s.state = .active ∧ s.start.toNat ≤ now.toNat ∧ s.totalDeposits.toNat ≤ s.vestedUnitsRaw now := by
  simp [isDepleted, UInt64.le_iff_toNat_le, and_assoc]

theorem le_linearUnits_of_rateSeconds {u : Nat} {k : UInt64} (h : s.rateSeconds u = some k) :
    u ≤ s.linearUnits k := by
  simp only [rateSeconds] at h
  split at h
  · cases h
  · rename_i h0
    simp only [Word.mulWide?, Word.addWide?, Option.bind_eq_bind, Option.bind_eq_some_iff] at h
    obtain ⟨scaled,hs,rounded,hr,hk⟩ := h
    split at hs <;> cases hs
    split at hr <;> cases hr
    have hkn := Word.toNat_of_ofNat?_eq_some hk
    set r := s.terms.rateAmount.toNat
    set i := s.terms.rateInterval.toNat
    have hdiv := Nat.div_add_mod (u * i + (r - 1)) r
    have hmod := Nat.mod_lt (u * i + (r - 1)) (show 0 < r by omega)
    have hcover : u * i ≤ r * k.toNat := by rw [hkn]; omega
    have hne : ¬ (s.terms.rateAmount = 0 ∨ s.terms.rateInterval = 0) := by
      rintro (hc | hc) <;> simp [r, i, hc] at h0
    unfold linearUnits
    rw [if_neg hne]
    exact (Nat.le_div_iff_mul_le (by omega)).mpr hcover

/-- The active second a leg needs is one at which the earned units reach the target, and it is
not before the leg's start. -/
theorem earnedUnits_of_activeSecondsToEarn {target : Nat} {legStart a : UInt64}
    (h : s.activeSecondsToEarn target legStart = some a) :
    target ≤ s.earnedUnits a ∧ legStart.toNat ≤ a.toNat := by
  simp only [activeSecondsToEarn, ge_iff_le] at h
  split at h
  · rename_i hreached
    cases h
    exact ⟨hreached,le_rfl⟩
  · rename_i hshort
    split at h
    · rename_i hcliff
      cases h
      have hat : s.earnedUnits s.terms.cliffSeconds = s.cliffUnits.toNat + s.linearUnits 0 := by
        rw [earnedUnits_eq, if_neg (Nat.lt_irrefl _), UInt64.sub_self]
      refine ⟨by omega,?_⟩
      -- a leg that had passed the cliff would already hold the cliff units
      by_contra hlt
      have hmono := s.earnedUnits_mono (a := s.terms.cliffSeconds) (b := legStart) (by omega)
      omega
    · rename_i hcliff
      simp only [Option.bind_eq_bind, Option.bind_eq_some_iff, Option.pure_def,
        Option.some.injEq] at h
      obtain ⟨k,hk,act,hact,rfl⟩ := h
      obtain ⟨-,hsum⟩ := Word.add?_eq_some_iff.mp hact
      have hlin := s.le_linearUnits_of_rateSeconds hk
      have hat : s.earnedUnits act = s.cliffUnits.toNat + s.linearUnits k := by
        rw [earnedUnits_eq, if_neg (by omega)]
        congr 2
        apply UInt64.toNat_inj.mp
        rw [UInt64.toNat_sub_of_le _ _ (UInt64.le_iff_toNat_le.mpr (by omega))]
        omega
      have hmono := s.earnedUnits_mono (a := act) (b := max act legStart) (by simp)
      exact ⟨by omega,by simp⟩

theorem activeSeconds_of_depletion {a base dep d : UInt64}
    (hb : Word.add? s.start s.pausedSeconds = some base) (hd : Word.add? base a = some dep)
    (hm : (match s.autoPauseDeadline with
      | some deadline => if dep > deadline then none else some dep
      | none => some dep) = some d) :
    s.start.toNat ≤ d.toNat ∧ (s.activeSeconds d).toNat = a.toNat := by
  obtain ⟨-,hbase⟩ := Word.add?_eq_some_iff.mp hb
  obtain ⟨-,hdep⟩ := Word.add?_eq_some_iff.mp hd
  have hwin : d = dep ∧ (s.terms.autoPauseSeconds ≠ 0 →
      d.toNat ≤ s.start.toNat + s.terms.autoPauseSeconds.toNat) := by
    by_cases h0 : s.terms.autoPauseSeconds = 0
    · simp only [autoPauseDeadline, h0, if_true, Option.some.injEq] at hm
      exact ⟨hm.symm,fun h => absurd h0 h⟩
    · simp only [autoPauseDeadline, h0, if_false, gt_iff_lt, UInt64.lt_iff_toNat_lt] at hm
      split at hm
      · cases hm
      · rename_i hle
        cases hm
        have hs := Word.toNat_addSat s.start s.terms.autoPauseSeconds
        exact ⟨rfl,fun _ => by omega⟩
  obtain ⟨rfl,hcap⟩ := hwin
  have heff := s.effectiveTime_of_mem_window (t := d) (by omega) hcap
  simp only [activeSeconds_toNat, heff]
  omega

/-- At the predicted depletion second the deposits have vested. -/
theorem totalDeposits_le_vestedUnitsRaw_of_depletionTime {d : UInt64} (hp : s.state ≠ .paused)
    (h : s.depletionTime = some d) :
    s.start.toNat ≤ d.toNat ∧ s.totalDeposits.toNat ≤ s.vestedUnitsRaw d := by
  by_cases hr : s.isRebased
  · simp only [depletionTime, hr, if_true, Option.bind_eq_bind, Option.bind_eq_some_iff] at h
    obtain ⟨a,ha,base,hb,dep,hd,hm⟩ := h
    obtain ⟨hearned,hleg⟩ := s.earnedUnits_of_activeSecondsToEarn ha
    obtain ⟨hstart,hactive⟩ := s.activeSeconds_of_depletion hb hd hm
    have hrt : s.start.toNat < s.resumeTime.toNat := by
      simpa [isRebased, UInt64.lt_iff_toNat_lt] using hr
    refine ⟨hstart,?_⟩
    rw [s.vestedUnitsRaw_of_running hp hstart, if_neg (by omega)]
    have hsame : s.activeSeconds d = a := UInt64.toNat_inj.mp hactive
    rw [hsame]
    omega
  · simp only [depletionTime, hr, Bool.false_eq_true, if_false, Option.bind_eq_bind,
      Option.bind_eq_some_iff] at h
    obtain ⟨a,ha,base,hb,dep,hd,hm⟩ := h
    obtain ⟨hearned,-⟩ := s.earnedUnits_of_activeSecondsToEarn ha
    obtain ⟨hstart,hactive⟩ := s.activeSeconds_of_depletion hb hd hm
    have hrt : s.resumeTime.toNat ≤ s.start.toNat := by
      simpa [isRebased, UInt64.lt_iff_toNat_lt] using hr
    refine ⟨hstart,?_⟩
    rw [s.vestedUnitsRaw_of_running hp hstart, if_pos hrt, UInt64.toNat_inj.mp hactive]
    exact hearned

/-- What `vesting` reports when it succeeds: the clamped vested amount, what of it was not
withdrawn, and the deposits not vested, which the vested amount never exceeds. -/
theorem vesting_eq_ok {now : UInt64} {v : Vesting} (h : s.vesting now = .ok v) :
    v.vested = s.vestedUnits now ∧ v.withdrawable = s.withdrawableAmount now ∧
    v.unvested.toNat = s.totalDeposits.toNat - (s.vestedUnits now).toNat ∧
    (s.vestedUnits now).toNat ≤ s.totalDeposits.toNat := by
  simp only [vesting] at h
  split at h
  · cases h
  · rename_i unvested hsub
    cases h
    unfold Word.sub? at hsub
    split at hsub
    · rename_i hle
      cases hsub
      exact ⟨rfl,rfl,UInt64.toNat_sub_of_le _ _ hle,UInt64.le_iff_toNat_le.mp hle⟩
    · cases hsub

/-- `vesting` gives its figures exactly when the withdrawals do not exceed the deposits;
otherwise the subtraction of the vested amount from the deposits goes below zero. -/
theorem vesting_isOk_iff (now : UInt64) :
    (∃ v, s.vesting now = .ok v) ↔ s.totalWithdrawals.toNat ≤ s.totalDeposits.toNat := by
  constructor
  · rintro ⟨v,hv⟩
    have := (s.vesting_eq_ok hv).2.2.2
    have := s.totalWithdrawals_le_vestedUnits now
    omega
  · intro hle
    have hv := s.vestedUnits_le_totalDeposits now hle
    simp only [vesting, Word.sub?, UInt64.le_iff_toNat_le, hv, if_true]
    exact ⟨_,rfl⟩

end Stream

end MoneyStream
