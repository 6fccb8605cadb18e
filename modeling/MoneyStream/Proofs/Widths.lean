import MoneyStream.Proofs.Accrual
/-! # The widths of the vesting figures

The vesting figures are natural numbers here, while the program computes them in 64- and
128-bit words and stops when a sum, a product or a difference leaves its word.
`linearUnitsChecked`, `earnedUnitsChecked` and `vestedUnitsChecked` redo the computation that
way, with a product or a sum past `2 ^ 128` and a word difference below zero giving nothing.

`vesting_arithmetic_within_width` says that on every record, whatever its fields, and at every
instant the checked computations finish with the figures: the earned units stay at most
`2 ^ 128 - 2 ^ 64`, the cliff units plus the largest product of two words, and so the unclamped
vested units, a word of snapshot plus earned units, stay at most `2 ^ 128 - 1`. The deposits
plus earned units, the depletion target, fit as well, the withdrawable amount never goes below
zero, and `vesting` is refused, for a difference below zero, exactly when the withdrawals
exceed the deposits.
-/
namespace MoneyStream

namespace Word

theorem wideSize_eq : wideSize = 2 ^ 128 := rfl

theorem mulWide?_of_lt {a b : Nat} (h : a * b < wideSize) : mulWide? a b = some (a * b) := if_pos h

theorem addWide?_of_lt {a b : Nat} (h : a + b < wideSize) : addWide? a b = some (a + b) := if_pos h

theorem sub?_of_le {a b : UInt64} (h : b.toNat ≤ a.toNat) : sub? a b = some (a - b) :=
  if_pos (UInt64.le_iff_toNat_le.mpr h)

theorem toNat_mul_toNat_le (a b : UInt64) : a.toNat * b.toNat ≤ (2 ^ 64 - 1) * (2 ^ 64 - 1) :=
  Nat.mul_le_mul (by have := a.toNat_lt; omega) (by have := b.toNat_lt; omega)

end Word

namespace Stream

variable (s : Stream)

/-- The linear units as the program computes them: the rate times the seconds as a 128-bit
product, which stops the computation past `2 ^ 128`, then divided by the interval. -/
def linearUnitsChecked (seconds : UInt64) : Option Nat :=
  if s.terms.rateAmount = 0 ∨ s.terms.rateInterval = 0 then some 0
  else (Word.mulWide? s.terms.rateAmount.toNat seconds.toNat).map fun p => p / s.terms.rateInterval.toNat

/-- The earned units as the program computes them: the seconds past the cliff as a word
difference, and the cliff units plus the linear units as a 128-bit sum. -/
def earnedUnitsChecked (active : UInt64) : Option Nat :=
  if active < s.terms.cliffSeconds then some 0
  else do
    let after ← Word.sub? active s.terms.cliffSeconds
    let linear ← s.linearUnitsChecked after
    Word.addWide? s.cliffUnits.toNat linear

/-- The unclamped vested units as the program computes them: on a rebased record, the snapshot
plus the units earned since the resume (a difference that stops at zero) as a 128-bit sum. -/
def vestedUnitsChecked (now : UInt64) : Option Nat :=
  if s.isManuallyPaused then some s.snapshotUnits.toNat
  else if now < s.start then some 0
  else do
    let earnedNow ← s.earnedUnitsChecked (s.activeSeconds now)
    if s.isRebased then
      let earnedAtResume ← s.earnedUnitsChecked (s.activeSeconds s.resumeTime)
      Word.addWide? s.snapshotUnits.toNat (earnedNow - earnedAtResume)
    else pure earnedNow

theorem linearUnits_le (seconds : UInt64) : s.linearUnits seconds ≤ (2 ^ 64 - 1) * (2 ^ 64 - 1) := by
  unfold linearUnits
  split
  · exact Nat.zero_le _
  · exact (Nat.div_le_self _ _).trans (Word.toNat_mul_toNat_le _ _)

theorem earnedUnits_le (active : UInt64) : s.earnedUnits active ≤ 2 ^ 128 - 2 ^ 64 := by
  rw [earnedUnits_eq]
  split
  · exact Nat.zero_le _
  · have hc := s.cliffUnits.toNat_lt
    have hl := s.linearUnits_le (active - s.terms.cliffSeconds)
    omega

/-- The bound is reached: a cliff of the largest word at second zero, then the largest word
per second for the largest word of seconds. -/
example : ({ (default : Stream) with
    terms := { (default : Terms) with
      rateAmount := 18446744073709551615, rateInterval := 1, cliffAmount := 18446744073709551615 } }
    : Stream).earnedUnits 18446744073709551615 = 2 ^ 128 - 2 ^ 64 := by
  decide

theorem vestedUnitsRaw_le (now : UInt64) : s.vestedUnitsRaw now ≤ 2 ^ 128 - 1 := by
  have hsnap := s.snapshotUnits.toNat_lt
  have hnow := s.earnedUnits_le (s.activeSeconds now)
  simp only [vestedUnitsRaw]
  split
  · omega
  split
  · omega
  split <;> omega

theorem totalDeposits_add_earnedUnits_le (active : UInt64) :
    s.totalDeposits.toNat + s.earnedUnits active ≤ 2 ^ 128 - 1 := by
  have hd := s.totalDeposits.toNat_lt
  have he := s.earnedUnits_le active
  omega

theorem linearUnitsChecked_eq (seconds : UInt64) :
    s.linearUnitsChecked seconds = some (s.linearUnits seconds) := by
  unfold linearUnitsChecked linearUnits
  split
  · rfl
  · have hp := Word.toNat_mul_toNat_le s.terms.rateAmount seconds
    rw [Word.mulWide?_of_lt (by rw [Word.wideSize_eq]; omega)]
    rfl

theorem earnedUnitsChecked_eq (active : UInt64) :
    s.earnedUnitsChecked active = some (s.earnedUnits active) := by
  have hle := s.earnedUnits_le active
  unfold earnedUnitsChecked
  rw [earnedUnits]
  split
  · rfl
  · rename_i h
    have hc : s.terms.cliffSeconds.toNat ≤ active.toNat := by
      rw [UInt64.lt_iff_toNat_lt] at h
      omega
    rw [earnedUnits_eq, if_neg (by omega)] at hle
    rw [Word.sub?_of_le hc]
    show (s.linearUnitsChecked (active - s.terms.cliffSeconds)).bind _ = _
    rw [linearUnitsChecked_eq]
    exact Word.addWide?_of_lt (by rw [Word.wideSize_eq]; omega)

theorem vestedUnitsChecked_eq (now : UInt64) :
    s.vestedUnitsChecked now = some (s.vestedUnitsRaw now) := by
  have hsnap := s.snapshotUnits.toNat_lt
  have hnow := s.earnedUnits_le (s.activeSeconds now)
  unfold vestedUnitsChecked vestedUnitsRaw
  split
  · rfl
  split
  · rfl
  rw [earnedUnitsChecked_eq]
  show (if s.isRebased then _ else _) = _
  split
  · rw [earnedUnitsChecked_eq]
    exact Word.addWide?_of_lt (by rw [Word.wideSize_eq]; omega)
  · rfl

theorem withdrawableAmount_sub? (now : UInt64) :
    Word.sub? (s.vestedUnits now) s.totalWithdrawals = some (s.withdrawableAmount now) :=
  Word.sub?_of_le (s.totalWithdrawals_le_vestedUnits now)

theorem vesting_ok_or_underflow (now : UInt64) :
    (∃ v, s.vesting now = .ok v) ∨ s.vesting now = .error .underflow := by
  simp only [vesting]
  split
  · exact .inr rfl
  · exact .inl ⟨_,rfl⟩

theorem vesting_eq_underflow_iff (now : UInt64) :
    s.vesting now = .error .underflow ↔ s.totalDeposits.toNat < s.totalWithdrawals.toNat := by
  have hok := s.vesting_isOk_iff now
  rcases s.vesting_ok_or_underflow now with ⟨v,hv⟩ | hu
  · have := hok.mp ⟨v,hv⟩
    rw [hv]
    simp only [reduceCtorEq, false_iff]
    omega
  · have : ¬ s.totalWithdrawals.toNat ≤ s.totalDeposits.toNat := by
      rw [← hok, hu]
      rintro ⟨v,hv⟩
      cases hv
    simp only [hu, true_iff]
    omega

/-- The vesting figures never leave their widths. On every record, whatever its fields, and
at every instant, the linear, earned and unclamped vested units computed in checked 128-bit
arithmetic finish with the figures; the earned units stay at most `2 ^ 128 - 2 ^ 64` and the
unclamped vested units at most `2 ^ 128 - 1`; the deposits plus earned units fit in 128 bits;
the withdrawable amount is a difference that never goes below zero; and `vesting` is refused,
for the unvested amount going below zero, exactly when the withdrawals exceed the deposits,
and otherwise gives its figures. -/
theorem vesting_arithmetic_within_width (now active : UInt64) :
    s.linearUnitsChecked active = some (s.linearUnits active) ∧
      s.earnedUnitsChecked active = some (s.earnedUnits active) ∧
      s.vestedUnitsChecked now = some (s.vestedUnitsRaw now) ∧
      s.earnedUnits active ≤ 2 ^ 128 - 2 ^ 64 ∧ s.vestedUnitsRaw now ≤ 2 ^ 128 - 1 ∧
      s.totalDeposits.toNat + s.earnedUnits active ≤ 2 ^ 128 - 1 ∧
      Word.sub? (s.vestedUnits now) s.totalWithdrawals = some (s.withdrawableAmount now) ∧
      (s.vesting now = .error .underflow ↔ s.totalDeposits.toNat < s.totalWithdrawals.toNat) ∧
      ((∃ v, s.vesting now = .ok v) ↔ s.totalWithdrawals.toNat ≤ s.totalDeposits.toNat) :=
  ⟨s.linearUnitsChecked_eq active,s.earnedUnitsChecked_eq active,s.vestedUnitsChecked_eq now,
    s.earnedUnits_le active,s.vestedUnitsRaw_le now,s.totalDeposits_add_earnedUnits_le active,
    s.withdrawableAmount_sub? now,s.vesting_eq_underflow_iff now,s.vesting_isOk_iff now⟩

end Stream

end MoneyStream
