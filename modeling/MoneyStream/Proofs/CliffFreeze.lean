import MoneyStream.Proofs.DepletionGap
/-! # Freezing a percent cliff on a top-up

A cliff given as a percent releases that share of the deposits, so a top-up would raise a cliff
that has already vested. A top-up therefore freezes the percent into an absolute amount, the
cliff units of the deposits before it, once the stream has reached its cliff; before that the
cliff follows the deposits.

The top-up decides with the record's own active seconds, after settling any depletion: the
seconds of the window up to now, less the paused seconds recorded and the depletion gap it
settles (`topUpActiveSeconds`). So a depletion gap holds the cliff back like a pause.
`top_up_freezes_cliff_once_reached` states the rule for every top-up of a reachable stream that
is not paused. `top_up_cliff_freeze_reads_recorded_pauses` shows the two ways the rule differs
from counting the time outside manual pauses: a pause still in progress is not yet recorded, and
a depletion gap is.
-/
namespace MoneyStream
namespace Stream

variable {s s1 s' : Stream} {clock : Clock}

/-- The seconds that settling at `now` records as paused: on a depleted record, those of the
window from the instant the deposits ran out to `now`; none otherwise. -/
def depletionGap (s : Stream) (now : UInt64) : Nat :=
  if s.isDepleted now then (s.effectiveTime now).toNat - (s.effectiveTime (s.depletedAt now)).toNat
  else 0

/-- The active seconds a top-up at `now` counts toward the cliff: the seconds of the window up
to `now`, less the paused seconds recorded so far and the depletion gap the top-up settles. -/
def topUpActiveSeconds (s : Stream) (now : UInt64) : Nat :=
  (s.effectiveTime now).toNat - s.start.toNat - s.pausedSeconds.toNat - s.depletionGap now

theorem settleDepletion_pausedSeconds (h : s.settleDepletion clock = .ok s1) :
    s1.pausedSeconds.toNat = s.pausedSeconds.toNat + s.depletionGap clock.now := by
  unfold depletionGap
  cases hd : s.isDepleted clock.now with
  | false =>
    have hok : s.settleDepletion clock = .ok s := by simp [settleDepletion, hd]
    rw [hok] at h
    cases h
    simp
  | true =>
    rw [settleDepletion_of_isDepleted hd] at h
    split at h
    · cases h
    · rename_i paused hp
      cases h
      obtain ⟨-,hpn⟩ := Word.add?_eq_some_iff.mp hp
      have hle := s.effectiveTime_mono (s.depletedAt_le clock.now)
      rw [if_pos rfl]
      show paused.toNat = _
      rw [hpn, UInt64.toNat_sub_of_le _ _ (UInt64.le_iff_toNat_le.mpr hle)]

theorem settleDepletion_activeSeconds (h : s.settleDepletion clock = .ok s1) :
    (s1.activeSeconds clock.now).toNat = s.topUpActiveSeconds clock.now := by
  have he := settleDepletion_eq_with h
  have heff : s1.effectiveTime clock.now = s.effectiveTime clock.now := by
    rw [he]
    rfl
  have hstart : s1.start = s.start := by
    rw [he]
  rw [activeSeconds_toNat, heff, hstart, settleDepletion_pausedSeconds h, topUpActiveSeconds]
  omega

theorem cliffUnits_of_cliffAmount_eq_zero (hp : s.terms.cliffPercent.toNat ≤ 100)
    (ha : s.terms.cliffAmount = 0) :
    s.cliffUnits.toNat = s.totalDeposits.toNat * s.terms.cliffPercent.toNat / 100 := by
  have hd := s.totalDeposits.toNat_lt
  have hmul : s.totalDeposits.toNat * s.terms.cliffPercent.toNat ≤ s.totalDeposits.toNat * 100 :=
    Nat.mul_le_mul_left _ hp
  have hle : s.totalDeposits.toNat * s.terms.cliffPercent.toNat / 100 ≤ s.totalDeposits.toNat := by
    omega
  unfold cliffUnits
  rw [if_neg (by simp [ha]), Word.toNat_toUInt64 (by omega)]
  omega

theorem saveEffectiveCliff_terms (hp : 0 < s.terms.cliffPercent) :
    s.saveEffectiveCliff.terms = { s.terms with cliffAmount := s.cliffUnits, cliffPercent := 0 } := by
  by_cases ha : s.terms.cliffAmount = 0
  · simp [saveEffectiveCliff, ha, hp]
  · have hpos : s.terms.cliffAmount > 0 := UInt64.pos_iff_ne_zero.mpr ha
    simp [saveEffectiveCliff, ha, cliffUnits, hpos]

theorem addFunds_cliff {who : Pubkey} {amount : UInt64} {resume : Bool} (hp : s.state ≠ .paused)
    (h : s.addFunds who amount resume clock = .ok s') :
    s'.totalDeposits.toNat = s.totalDeposits.toNat + amount.toNat ∧
      s'.terms = if 0 < s.terms.cliffPercent ∧ s.start ≤ clock.now ∧
          s.terms.cliffSeconds.toNat ≤ s.topUpActiveSeconds clock.now
        then { s.terms with cliffAmount := s.cliffUnits, cliffPercent := 0 } else s.terms := by
  obtain ⟨-,-,-,s1,deposits,hs1,hdep,hfin⟩ := addFunds_eq_ok h
  obtain ⟨hst,hterms,hD,-⟩ := settleDepletion_frame hs1
  have hstart : s1.start = s.start := by rw [settleDepletion_eq_with hs1]
  have hunits : s1.cliffUnits = s.cliffUnits := by
    unfold cliffUnits
    rw [hterms, hD]
  have hact := settleDepletion_activeSeconds hs1
  rw [if_neg (by rw [hst]; exact fun hr => hp hr.2)] at hfin
  subst hfin
  have hfD := (freezeCliffAt_frame (s := s1) clock.now).2.2.1
  obtain ⟨-,hdn⟩ := Word.add?_eq_some_iff.mp hdep
  refine ⟨by rw [hdn, hfD, hD],?_⟩
  show (s1.freezeCliffAt clock.now).terms = _
  unfold freezeCliffAt
  have hcond : (s1.terms.cliffPercent > 0 ∧ clock.now ≥ s1.start ∧
      s1.activeSeconds clock.now ≥ s1.terms.cliffSeconds) ↔
      (0 < s.terms.cliffPercent ∧ s.start ≤ clock.now ∧
        s.terms.cliffSeconds.toNat ≤ s.topUpActiveSeconds clock.now) := by
    rw [hterms, hstart, ge_iff_le, ge_iff_le, UInt64.le_iff_toNat_le (a := s.terms.cliffSeconds), hact]
  by_cases hf : 0 < s.terms.cliffPercent ∧ s.start ≤ clock.now ∧
      s.terms.cliffSeconds.toNat ≤ s.topUpActiveSeconds clock.now
  · rw [if_pos (hcond.mpr hf), if_pos hf, saveEffectiveCliff_terms (by rw [hterms]; exact hf.1),
      hterms, hunits]
  · rw [if_neg (fun h => hf (hcond.mp h)), if_neg hf, hterms]

/-- A top-up freezes a percent cliff once it is reached, and before that the cliff follows the
deposits. Take a stream created and then called any number of times, and a top-up of it that
succeeds while it is not paused. The top-up adds its amount to the deposits. If the percent is
set, the top-up comes at or after the start, and the active seconds it counts (the window up to
now, less the paused seconds recorded, which include the depletion gaps, and less the gap the
top-up settles) have reached the cliff, then the cliff is frozen: the amount becomes the cliff
units of the old deposits, the percent zero, and the cliff units stay as they were. Otherwise
the terms are unchanged, and a percent cliff releases that percent of the new deposits,
rounded down. -/
theorem top_up_freezes_cliff_once_reached {treasurer beneficiaryToken treasury : Pubkey}
    {p : CreateParams} {c0 : Clock} {s0 : Stream}
    (hc : Stream.create treasurer p beneficiaryToken treasury c0 = .ok s0)
    {run : List (Clock × Operation)} (hs : s0.replay run = s) (hp : s.state ≠ .paused)
    {who : Pubkey} {amount : UInt64} {resume : Bool}
    (h : s.addFunds who amount resume clock = .ok s') :
    s'.totalDeposits.toNat = s.totalDeposits.toNat + amount.toNat ∧
      (0 < s.terms.cliffPercent ∧ s.start ≤ clock.now ∧
          s.terms.cliffSeconds.toNat ≤ s.topUpActiveSeconds clock.now →
        s'.terms = { s.terms with cliffAmount := s.cliffUnits, cliffPercent := 0 } ∧
          s'.cliffUnits = s.cliffUnits) ∧
      (¬ (0 < s.terms.cliffPercent ∧ s.start ≤ clock.now ∧
          s.terms.cliffSeconds.toNat ≤ s.topUpActiveSeconds clock.now) →
        s'.terms = s.terms ∧ (s.terms.cliffAmount = 0 →
          s'.cliffUnits.toNat = s'.totalDeposits.toNat * s.terms.cliffPercent.toNat / 100)) := by
  have hw : s.WellFormed := hs ▸ (replay_wellFormed (create_wellFormed hc) run).1
  obtain ⟨hD,hterms⟩ := addFunds_cliff hp h
  refine ⟨hD,fun hf => ?_,fun hf => ?_⟩
  · rw [if_pos hf] at hterms
    refine ⟨hterms,?_⟩
    rw [cliffUnits_of_cliffPercent_eq_zero (by rw [hterms]), hterms]
  · rw [if_neg hf] at hterms
    refine ⟨hterms,fun ha => ?_⟩
    rw [← hterms]
    exact cliffUnits_of_cliffAmount_eq_zero (hterms ▸ hw.cliffPercent_le) (hterms ▸ ha)

theorem top_up_freezes_cliff_at_reached_sample :
    let p : CreateParams :=
      { CreateParams.hourly with start := 1000000, cliffSeconds := 600, cliffPercent := 10 }
    let s0 := opened Pubkey.zero p Pubkey.zero Pubkey.zero ⟨500000, 1000000⟩
    let s' : Stream :=
      { s0 with terms := { p.terms with cliffAmount := 100, cliffPercent := 0 }, totalDeposits := 10000 }
    let clock : Clock := ⟨500300, 1000600⟩
    Stream.create Pubkey.zero p Pubkey.zero Pubkey.zero ⟨500000, 1000000⟩ = .ok s0 ∧
      s0.state ≠ .paused ∧ s0.addFunds Pubkey.zero 9000 false clock = .ok s' ∧
      (0 < s0.terms.cliffPercent ∧ s0.start ≤ clock.now ∧
        s0.terms.cliffSeconds.toNat ≤ s0.topUpActiveSeconds clock.now) ∧
      s'.totalDeposits.toNat = s0.totalDeposits.toNat + 9000 ∧
      s'.terms = { s0.terms with cliffAmount := s0.cliffUnits, cliffPercent := 0 } ∧
      s'.cliffUnits = s0.cliffUnits := by
  intro p s0 s' clock
  have hc : Stream.create Pubkey.zero p Pubkey.zero Pubkey.zero ⟨500000, 1000000⟩ = .ok s0 :=
    create_of_checks (by decide) (by decide) (by decide)
  have hp : s0.state ≠ .paused := by decide
  have h : s0.addFunds Pubkey.zero 9000 false clock = .ok s' := by decide
  have hf : 0 < s0.terms.cliffPercent ∧ s0.start ≤ clock.now ∧
      s0.terms.cliffSeconds.toNat ≤ s0.topUpActiveSeconds clock.now := by decide
  obtain ⟨hD,hfreeze,-⟩ := top_up_freezes_cliff_once_reached hc (show s0.replay [] = s0 from rfl) hp h
  exact ⟨hc,hp,h,hf,hD,hfreeze hf⟩

/-- The freeze reads the paused seconds recorded, not the time outside manual pauses. A stream
paused 100 seconds after its start and topped up at 700 seconds has been active for 100
seconds, yet its ten percent cliff at 600 seconds is frozen at the old deposits, because the
pause in progress is not recorded yet. An unfunded stream topped up 1000 seconds after its start,
never paused, has its cliff not frozen: those seconds were a depletion gap, so the cliff follows
the top-up and releases 100 units 600 seconds later. -/
theorem top_up_cliff_freeze_reads_recorded_pauses :
    let funded : CreateParams :=
      { CreateParams.hourly with start := 1000000, cliffSeconds := 600, cliffPercent := 10 }
    let unfunded : CreateParams := { funded with funding := 0, rateAmount := 0 }
    ((Stream.create Pubkey.zero funded Pubkey.zero Pubkey.zero ⟨500000, 1000000⟩ >>= fun s =>
        s.pause Pubkey.zero ⟨500050, 1000100⟩ >>= fun s =>
          s.addFunds Pubkey.zero 9000 false ⟨500350, 1000700⟩).map fun s =>
        (s.terms.cliffAmount, s.terms.cliffPercent)) = .ok (100, 0) ∧
      ((Stream.create Pubkey.zero unfunded Pubkey.zero Pubkey.zero ⟨500000, 1000000⟩ >>= fun s =>
        s.addFunds Pubkey.zero 1000 false ⟨500500, 1001000⟩).map fun s =>
        (s.terms.cliffAmount, s.terms.cliffPercent, s.vestedUnits 1001600)) = .ok (0, 10, 100) := by
  decide

end Stream
end MoneyStream
