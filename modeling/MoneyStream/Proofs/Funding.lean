import MoneyStream.Proofs.Invariants
/-! # Withdrawals stay within deposits

Along every run of calls from a creation, whatever the callers and the clocks, a stream never
pays out more than it holds: its withdrawals stay at or below its deposits. That is what keeps
the unvested amount, the deposits less the vested amount, from going below zero. From it the
vesting figures are always computed and split the balance; a withdrawal by the beneficiary of
an open stream goes through exactly when it asks for a positive amount it may withdraw, and
moves that amount from the withdrawable to the withdrawn; closing pays out the balance.

A closed record keeps accruing on its schedule, so it may report an amount as withdrawable, yet
it refuses every withdrawal: `withdraw_refused_after_close`.
-/
namespace MoneyStream

namespace Stream

variable {s s' : Stream} {clock : Clock}

theorem withdraw_totalWithdrawals {who : Pubkey} {amount : UInt64}
    (h : s.withdraw who amount clock = .ok s') :
    s' = { s with totalWithdrawals := s'.totalWithdrawals } ∧ 0 < amount.toNat ∧
      s'.totalWithdrawals.toNat = s.totalWithdrawals.toNat + amount.toNat ∧
      s'.totalWithdrawals.toNat ≤ (s.vestedUnits clock.now).toNat := by
  obtain ⟨-,-,hz,hle,w,hw,rfl⟩ := withdraw_eq_ok.mp h
  have hsum : w.toNat = s.totalWithdrawals.toNat + amount.toNat := (Word.add?_eq_some_iff.mp hw).2
  have hle' := UInt64.le_iff_toNat_le.mp hle
  rw [withdrawableAmount_toNat] at hle'
  have hpos := Word.toNat_pos hz
  exact ⟨rfl,hpos,hsum,by dsimp only; omega⟩

theorem withdraw_within_deposits {who : Pubkey} {amount : UInt64}
    (hf : s.totalWithdrawals.toNat ≤ s.totalDeposits.toNat) (h : s.withdraw who amount clock = .ok s') :
    s'.totalWithdrawals.toNat ≤ s'.totalDeposits.toNat := by
  obtain ⟨he,-,-,hv⟩ := withdraw_totalWithdrawals h
  have hd := s.vestedUnits_le_totalDeposits clock.now hf
  rw [he]
  dsimp only
  omega

/-- Closing pays the beneficiary what vested and was not withdrawn and the treasurer what
never vested, which together are the balance; the beneficiary's share joins the withdrawals,
which stay within the deposits. -/
theorem close_settlement {who : Pubkey} {c : Settlement} (h : s.close who clock = .ok (c, s')) :
    c.beneficiaryAmount.toNat + c.treasurerAmount.toNat =
        s.totalDeposits.toNat - s.totalWithdrawals.toNat ∧
      s'.totalWithdrawals.toNat = s.totalWithdrawals.toNat + c.beneficiaryAmount.toNat ∧
      s'.totalWithdrawals.toNat ≤ s.totalDeposits.toNat := by
  obtain ⟨-,-,v,hv,rfl,rfl⟩ := close_eq_ok h
  obtain ⟨hvv,hvw,hvu,hle⟩ := s.vesting_eq_ok hv
  have hwv := s.totalWithdrawals_le_vestedUnits clock.now
  dsimp only
  rw [hvv, hvw, withdrawableAmount_toNat, hvu]
  omega

theorem vesting_split (hf : s.totalWithdrawals.toNat ≤ s.totalDeposits.toNat) (now : UInt64) :
    ∃ v, s.vesting now = .ok v ∧
      v.withdrawable.toNat + v.unvested.toNat = s.totalDeposits.toNat - s.totalWithdrawals.toNat := by
  obtain ⟨v,hv⟩ := (s.vesting_isOk_iff now).mpr hf
  obtain ⟨-,hvw,hvu,hle⟩ := s.vesting_eq_ok hv
  have hwv := s.totalWithdrawals_le_vestedUnits now
  refine ⟨v,hv,?_⟩
  rw [hvw, withdrawableAmount_toNat, hvu]
  omega

theorem close_ne_underflow (hf : s.totalWithdrawals.toNat ≤ s.totalDeposits.toNat) (who : Pubkey) :
    s.close who clock ≠ .error .underflow := by
  obtain ⟨v,hv⟩ := (s.vesting_isOk_iff clock.now).mpr hf
  intro h
  cases ho : s.ensureOpen <;> cases hp : s.ensureParty who <;>
    simp [close, ho, hp, hv, Except.mapError, bind, Except.bind, pure, Except.pure] at h

/-- The beneficiary's withdrawal from an open stream whose withdrawals are within its deposits
goes through exactly when it asks for a positive amount no larger than the withdrawable one:
the sum of the withdrawals cannot overflow, as it stays within the deposits. -/
theorem withdraw_accepted_iff {amount : UInt64} (hw : s.WellFormed)
    (hf : s.totalWithdrawals.toNat ≤ s.totalDeposits.toNat) (hc : s.state ≠ .closed) :
    (∃ s', s.withdraw s.beneficiary amount clock = .ok s') ↔
      0 < amount ∧ amount ≤ s.withdrawableAmount clock.now := by
  constructor
  · rintro ⟨s',h⟩
    obtain ⟨-,-,hz,hle,-⟩ := withdraw_eq_ok.mp h
    exact ⟨UInt64.pos_iff_ne_zero.mpr hz,hle⟩
  · rintro ⟨hpos,hle⟩
    have ho : s.ensureOpen = .ok () := ensureOpen_eq_ok.mpr ⟨hw.initialized,hw.state_ne_draft,hc⟩
    have hle' := UInt64.le_iff_toNat_le.mp hle
    rw [withdrawableAmount_toNat] at hle'
    have hd := s.vestedUnits_le_totalDeposits clock.now hf
    have hD := s.totalDeposits.toNat_lt
    have hsum : s.totalWithdrawals.toNat + amount.toNat < 2 ^ 64 := by omega
    exact ⟨_,withdraw_eq_ok.mpr ⟨ho,rfl,UInt64.pos_iff_ne_zero.mp hpos,hle,_,Word.add?_of_lt hsum,rfl⟩⟩

theorem withdraw_moves_withdrawable {who : Pubkey} {amount : UInt64}
    (h : s.withdraw who amount clock = .ok s') :
    (s'.withdrawableAmount clock.now).toNat + amount.toNat = (s.withdrawableAmount clock.now).toNat ∧
      s'.vestedUnits clock.now = s.vestedUnits clock.now := by
  obtain ⟨he,hpos,hsum,hv⟩ := withdraw_totalWithdrawals h
  -- the vested amount before is above the old withdrawals, so it is the clamped raw amount
  have hraw : s'.vestedUnitsRaw clock.now = s.vestedUnitsRaw clock.now := by rw [he]; rfl
  have hdep : s'.totalDeposits = s.totalDeposits := by rw [he]
  have hvest : s'.vestedUnits clock.now = s.vestedUnits clock.now := by
    apply UInt64.toNat_inj.mp
    rw [vestedUnits_toNat] at hv ⊢
    rw [vestedUnits_toNat, hraw, hdep]
    omega
  refine ⟨?_,hvest⟩
  rw [withdrawableAmount_toNat, withdrawableAmount_toNat, hvest]
  omega

end Stream

namespace Operation

variable {s s' : Stream} {clock : Clock} {c : Option Settlement}

theorem apply_within_deposits {op : Operation} (hw : s.WellFormed)
    (hf : s.totalWithdrawals.toNat ≤ s.totalDeposits.toNat) (h : op.apply s clock = .ok (c, s')) :
    s'.totalWithdrawals.toNat ≤ s'.totalDeposits.toNat := by
  cases op with
  | addFunds who amount resume =>
    obtain ⟨-,-,hd,hwd,-⟩ := Stream.addFunds_lifecycle hw (apply_addFunds_eq_ok.mp h).2
    rw [hwd]
    omega
  | withdraw who amount => exact Stream.withdraw_within_deposits hf (apply_withdraw_eq_ok.mp h).2
  | close who =>
    obtain ⟨st,hst,-⟩ := apply_close_eq_ok.mp h
    obtain ⟨-,-,hd,-⟩ := Stream.close_lifecycle hw hst
    rw [hd]
    exact (Stream.close_settlement hst).2.2
  | pause _ | resume _ | proposeUpdate _ _ | answerUpdate _ _ =>
    obtain ⟨hd,hwd⟩ := apply_keeps_totals hw rfl h
    rwa [hd, hwd]

end Operation

namespace Stream

variable {s : Stream}

theorem create_within_deposits {treasurer beneficiaryToken treasury : Pubkey} {p : CreateParams}
    {clock : Clock} (h : Stream.create treasurer p beneficiaryToken treasury clock = .ok s) :
    s.totalWithdrawals.toNat ≤ s.totalDeposits.toNat := by
  obtain ⟨-,-,-,rfl⟩ := create_eq_ok h
  simp [opened]

/-- Along every run from a creation, whatever the callers and the clocks, refused calls
included, the withdrawals stay within the deposits. So at every instant the vesting figures
are computed and split the balance between the withdrawable and the unvested amounts, and
closing never goes below zero. While the stream is open, the beneficiary's withdrawal goes
through exactly when it asks for a positive amount no larger than the withdrawable one; an
accepted one moves that amount from the withdrawable to the withdrawn and leaves the vested
amount as it was; and closing pays out the balance, the beneficiary's share joining the
withdrawals, which stay within the deposits. -/
theorem withdrawals_within_deposits {treasurer beneficiaryToken treasury : Pubkey}
    {p : CreateParams} {c0 : Clock} {s0 : Stream}
    (hc : Stream.create treasurer p beneficiaryToken treasury c0 = .ok s0)
    (run : List (Clock × Operation)) :
    let s := s0.replay run
    s.totalWithdrawals.toNat ≤ s.totalDeposits.toNat ∧
    (∀ now, ∃ v, s.vesting now = .ok v ∧
      v.withdrawable.toNat + v.unvested.toNat = s.totalDeposits.toNat - s.totalWithdrawals.toNat) ∧
    ∀ clock : Clock,
      (∀ who, s.close who clock ≠ .error .underflow) ∧
      (∀ amount, s.state ≠ .closed →
        ((∃ s', s.withdraw s.beneficiary amount clock = .ok s') ↔
          0 < amount ∧ amount ≤ s.withdrawableAmount clock.now)) ∧
      (∀ amount s', s.withdraw s.beneficiary amount clock = .ok s' →
        (s'.withdrawableAmount clock.now).toNat + amount.toNat =
          (s.withdrawableAmount clock.now).toNat ∧
        s'.vestedUnits clock.now = s.vestedUnits clock.now) ∧
      (∀ who c s', s.close who clock = .ok (c, s') →
        c.beneficiaryAmount.toNat + c.treasurerAmount.toNat =
          s.totalDeposits.toNat - s.totalWithdrawals.toNat ∧
        s'.totalWithdrawals.toNat = s.totalWithdrawals.toNat + c.beneficiaryAmount.toNat ∧
        s'.totalWithdrawals.toNat ≤ s.totalDeposits.toNat) := by
  intro s
  have hw0 := create_wellFormed hc
  have hw : s.WellFormed := (replay_wellFormed hw0 run).1
  have hf : s.totalWithdrawals.toNat ≤ s.totalDeposits.toNat :=
    replay_invariant (P := fun s => s.totalWithdrawals.toNat ≤ s.totalDeposits.toNat)
      (fun hw hf h => Operation.apply_within_deposits hw hf h) hw0 (create_within_deposits hc) run
  refine ⟨hf,vesting_split hf,fun clock => ⟨close_ne_underflow hf,?_,?_,?_⟩⟩
  · intro amount hcl
    exact withdraw_accepted_iff hw hf hcl
  · intro amount s' h
    exact withdraw_moves_withdrawable h
  · intro who c s' h
    exact close_settlement h

theorem withdrawals_within_deposits_of_closed :
    let s0 := opened Pubkey.zero .hourly Pubkey.zero Pubkey.zero ⟨0, 0⟩
    let s := s0.replay [(⟨0, 1800⟩, .close Pubkey.zero)]
    Stream.create Pubkey.zero .hourly Pubkey.zero Pubkey.zero ⟨0, 0⟩ = .ok s0 ∧ s.state = .closed ∧
      s.totalWithdrawals.toNat ≤ s.totalDeposits.toNat ∧
      ∀ now, ∃ v, s.vesting now = .ok v ∧
        v.withdrawable.toNat + v.unvested.toNat = s.totalDeposits.toNat - s.totalWithdrawals.toNat := by
  intro s0 s
  have hc : Stream.create Pubkey.zero .hourly Pubkey.zero Pubkey.zero ⟨0, 0⟩ = .ok s0 :=
    create_of_checks (by decide) (by decide) (by decide)
  obtain ⟨hf,hsplit,-⟩ := withdrawals_within_deposits hc [(⟨0, 1800⟩, .close Pubkey.zero)]
  exact ⟨hc,by decide,hf,hsplit⟩

/-- A closed stream refuses the beneficiary's withdrawal although there is something left to
withdraw: the hourly stream closed half an hour in settled 50 units, and an hour in, 50 more
have vested. -/
theorem withdraw_refused_after_close :
    let s0 := opened Pubkey.zero .hourly Pubkey.zero Pubkey.zero ⟨0, 0⟩
    let s := s0.replay [(⟨0, 1800⟩, .close Pubkey.zero)]
    Stream.create Pubkey.zero .hourly Pubkey.zero Pubkey.zero ⟨0, 0⟩ = .ok s0 ∧
      s.state = .closed ∧ 0 < (10 : UInt64) ∧ 10 ≤ s.withdrawableAmount (⟨0, 3600⟩ : Clock).now ∧
      s.withdraw s.beneficiary 10 ⟨0, 3600⟩ = .error .streamClosed := by
  intro s0 s
  have hclosed : s.state = .closed := by decide
  have hinit : s.initialized = true := by decide
  refine ⟨create_of_checks (by decide) (by decide) (by decide),hclosed,by decide,by decide,?_⟩
  rw [Stream.withdraw, ensureOpen_of_closed hinit hclosed]
  rfl

end Stream

end MoneyStream
