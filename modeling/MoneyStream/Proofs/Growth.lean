import MoneyStream.Proofs.Clawback
/-! # The vesting figures as the observation instant moves on

Observed later, a record has vested at least as much: its unclamped and its clamped vested
amounts never go down as the instant moves on, whatever the record. On a record whose
withdrawals are within its deposits the withdrawable amount therefore only grows and the
unvested amount only shrinks.

Closing does not stop this. A closed record is not paused, so its vested amount keeps
following the schedule after the settlement: the withdrawable and unvested amounts still add up
to what the settlement returned to the treasurer, but as the schedule goes on, part of that
refund is reported as withdrawable (`closed_stream_reports_withdrawable`), although the escrow
was paid out and a closed stream refuses every withdrawal.
-/
namespace MoneyStream

namespace Stream

variable {s s' : Stream} {clock : Clock}

/-- Vesting never goes back in time: later, the unclamped and the clamped vested amounts are
at least what they were, and on a record whose withdrawals are within its deposits the figures
are computed at both instants, with no less withdrawable and no more unvested later. -/
theorem vesting_monotone (s : Stream) {t1 t2 : UInt64} (h : t1 ≤ t2) :
    s.vestedUnitsRaw t1 ≤ s.vestedUnitsRaw t2 ∧ s.vestedUnits t1 ≤ s.vestedUnits t2 ∧
    (s.totalWithdrawals ≤ s.totalDeposits → ∃ v1 v2, s.vesting t1 = .ok v1 ∧ s.vesting t2 = .ok v2 ∧
      v1.withdrawable ≤ v2.withdrawable ∧ v2.unvested ≤ v1.unvested) := by
  have ht := UInt64.le_iff_toNat_le.mp h
  have hv := s.vestedUnits_mono ht
  refine ⟨s.vestedUnitsRaw_mono ht, UInt64.le_iff_toNat_le.mpr hv, fun hf => ?_⟩
  obtain ⟨v1, h1⟩ := (s.vesting_isOk_iff t1).mpr (UInt64.le_iff_toNat_le.mp hf)
  obtain ⟨v2, h2⟩ := (s.vesting_isOk_iff t2).mpr (UInt64.le_iff_toNat_le.mp hf)
  obtain ⟨-, hw1, hu1, -⟩ := s.vesting_eq_ok h1
  obtain ⟨-, hw2, hu2, -⟩ := s.vesting_eq_ok h2
  refine ⟨v1, v2, h1, h2, ?_, ?_⟩
  · rw [hw1, hw2, UInt64.le_iff_toNat_le, withdrawableAmount_toNat, withdrawableAmount_toNat]
    omega
  · rw [UInt64.le_iff_toNat_le, hu1, hu2]
    omega

theorem vesting_monotone_over_half_an_hour :
    let s : Stream := { (default : Stream) with
      initialized := true, state := .active, totalDeposits := 1000,
      terms := { (default : Terms) with rateAmount := 100, rateInterval := 3600 } }
    (1800 : UInt64) ≤ 3600 ∧
      s.vestedUnitsRaw 1800 ≤ s.vestedUnitsRaw 3600 ∧ s.vestedUnits 1800 ≤ s.vestedUnits 3600 ∧
      (s.totalWithdrawals ≤ s.totalDeposits → ∃ v1 v2, s.vesting 1800 = .ok v1 ∧
        s.vesting 3600 = .ok v2 ∧ v1.withdrawable ≤ v2.withdrawable ∧ v2.unvested ≤ v1.unvested) := by
  intro s
  have h : (1800 : UInt64) ≤ 3600 := by decide
  exact ⟨h, vesting_monotone s h⟩

theorem vesting_of_closed {now : UInt64} {v : Vesting} (hc : s.state = .closed)
    (h : s.vesting now = .ok v) : v.isStreaming = false ∧ v.estimatedDepletion = none := by
  have hst : s.status now = .closed := by simp [status, hc]
  simp only [vesting, hst] at h
  split at h
  · cases h
  · cases h
    simp

theorem close_vestedUnitsRaw {who : Pubkey} {c : Settlement} (ha : s.state = .active)
    (h : s.close who clock = .ok (c, s')) : s'.vestedUnitsRaw = s.vestedUnitsRaw := by
  obtain ⟨-, -, v, -, -, rfl⟩ := close_eq_ok h
  exact vestedUnitsRaw_congr (by simp [isManuallyPaused, ha]) rfl rfl rfl (fun _ => rfl) (fun _ => rfl)

/-- What a closed record reports at every instant, before or after the close: its figures are
computed, it neither streams nor predicts a depletion, and its withdrawable and unvested
amounts add up to what the settlement returned to the treasurer. Of that refund, a record
closed while active reports as withdrawable exactly what its schedule has vested beyond what
had vested at the close: nothing up to the close, and more as the schedule goes on. -/
theorem closed_stream_keeps_accruing {who : Pubkey} {c : Settlement} (h : s.close who clock = .ok (c, s'))
    (t : UInt64) :
    ∃ v, s'.vesting t = .ok v ∧ v.isStreaming = false ∧ v.estimatedDepletion = none ∧
      v.withdrawable.toNat + v.unvested.toNat = c.treasurerAmount.toNat ∧
      (s.state = .active → v.withdrawable.toNat =
        min (s.vestedUnitsRaw t) s.totalDeposits.toNat - (s.vestedUnits clock.now).toNat) := by
  obtain ⟨-, -, v0, hv0, hc, hs'⟩ := close_eq_ok h
  obtain ⟨hvv, -, hvu, hle⟩ := s.vesting_eq_ok hv0
  have hD : s'.totalDeposits = s.totalDeposits := by rw [hs']
  have hW : s'.totalWithdrawals = s.vestedUnits clock.now := by rw [hs', hvv]
  have hclosed : s'.state = .closed := by rw [hs']
  have hf : s'.totalWithdrawals.toNat ≤ s'.totalDeposits.toNat := by rw [hD, hW]; exact hle
  obtain ⟨v, hv, hsum⟩ := vesting_split hf t
  obtain ⟨-, hvw, -, -⟩ := s'.vesting_eq_ok hv
  obtain ⟨hstream, hdep⟩ := vesting_of_closed hclosed hv
  refine ⟨v, hv, hstream, hdep, ?_, fun ha => ?_⟩
  · rw [hsum, hD, hW, hc, hvu]
  · rw [hvw, withdrawableAmount_toNat, vestedUnits_toNat, close_vestedUnitsRaw ha h, hD, hW]
    omega

theorem closed_stream_keeps_accruing_hourly :
    let s : Stream := { (default : Stream) with
      initialized := true, state := .active, beneficiary := ⟨Vector.replicate 32 1⟩,
      totalDeposits := 1000, terms := { (default : Terms) with rateAmount := 100, rateInterval := 3600 } }
    s.close Pubkey.zero ⟨0, 3600⟩ =
        .ok (⟨100, 900⟩, { s with totalWithdrawals := 100, state := .closed }) ∧
      ∃ v, ({ s with totalWithdrawals := 100, state := .closed } : Stream).vesting 7200 = .ok v ∧
        v.isStreaming = false ∧ v.estimatedDepletion = none ∧
        v.withdrawable.toNat + v.unvested.toNat = (⟨100, 900⟩ : Settlement).treasurerAmount.toNat ∧
        (s.state = .active → v.withdrawable.toNat =
          min (s.vestedUnitsRaw 7200) s.totalDeposits.toNat -
            (s.vestedUnits (⟨0, 3600⟩ : Clock).now).toNat) := by
  intro s
  have h : s.close Pubkey.zero ⟨0, 3600⟩ =
      .ok (⟨100, 900⟩, { s with totalWithdrawals := 100, state := .closed }) := by decide
  exact ⟨h, closed_stream_keeps_accruing h 7200⟩

/-- The figures of a closed stream do not stay at its settlement: a thousand units at a hundred
an hour, closed an hour in, settle 100 units to the beneficiary and 900 to the treasurer, yet an
hour after the close the record reports 100 units withdrawable and only 800 unvested. -/
theorem closed_stream_reports_withdrawable :
    let s : Stream := { (default : Stream) with
      initialized := true, state := .active, beneficiary := ⟨Vector.replicate 32 1⟩,
      totalDeposits := 1000, terms := { (default : Terms) with rateAmount := 100, rateInterval := 3600 } }
    s.close Pubkey.zero ⟨0, 3600⟩ =
        .ok (⟨100, 900⟩, { s with totalWithdrawals := 100, state := .closed }) ∧
      ({ s with totalWithdrawals := 100, state := .closed } : Stream).vesting 7200 =
        .ok ⟨200, 100, 800, false, none⟩ := by
  intro s
  exact ⟨by decide, by decide⟩

end Stream

end MoneyStream
