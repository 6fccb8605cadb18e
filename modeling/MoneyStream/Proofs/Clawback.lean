import MoneyStream.Proofs.Funding
/-! # No call takes back what has vested

A call accepted at an instant no earlier than any call before it never lowers what has vested
at that instant. Settling a depletion, freezing a percent cliff, adding funds, ending a pause
after the start and approving new terms after the start each keep the raw vested amount, or
raise it; a pause records it as the snapshot; a withdrawal and a close only raise the
withdrawals. What this needs of the record is `Settled`: its resume and snapshot instants are
not after the current one, and a snapshot taken before the start holds nothing.

The exception is the start instant itself. A record is rebased only once it resumes strictly
after its start, so new terms approved exactly at the start, or a pause ended exactly there
after terms changed during it, are applied to active time zero without the snapshot: a cliff
of zero seconds vested under the old terms is lost (`approval_at_start_drops_cliff`).
-/
namespace MoneyStream

namespace Stream

variable {s s' s1 : Stream} {clock : Clock}

/-- The bookkeeping instants of a record none of whose calls came after `t`. A snapshot taken
before the start holds nothing, since nothing vests before it. -/
structure Settled (t : UInt64) (s : Stream) : Prop where
  resumeTime_le : s.resumeTime.toNat ≤ t.toNat
  snapshotTime_le : s.snapshotTime.toNat ≤ t.toNat
  snapshot_before_start : s.snapshotTime.toNat < s.start.toNat → s.snapshotUnits = 0

theorem cliffUnits_of_cliffPercent_eq_zero (h : s.terms.cliffPercent = 0) :
    s.cliffUnits = s.terms.cliffAmount := by
  unfold cliffUnits
  split
  · rfl
  · rename_i ha
    have ha' : s.terms.cliffAmount = 0 := by simpa [UInt64.pos_iff_ne_zero] using ha
    simp [h, ha']

theorem cliffUnits_saveEffectiveCliff (s : Stream) : s.saveEffectiveCliff.cliffUnits = s.cliffUnits := by
  rw [cliffUnits_of_cliffPercent_eq_zero rfl]
  by_cases h : s.terms.cliffAmount = 0 ∧ s.terms.cliffPercent > 0
  · simp [saveEffectiveCliff, h]
  · have hs : s.saveEffectiveCliff.terms.cliffAmount = s.terms.cliffAmount := by
      simp [saveEffectiveCliff, h]
    rw [hs]
    by_cases ha : s.terms.cliffAmount = 0
    · -- with no amount the percent was not set either, and both release nothing
      have hp : s.terms.cliffPercent = 0 := by simpa [ha, UInt64.pos_iff_ne_zero] using h
      exact (cliffUnits_of_cliffPercent_eq_zero hp).symm
    · have hpos : s.terms.cliffAmount > 0 := UInt64.pos_iff_ne_zero.mpr ha
      simp [cliffUnits, hpos]

theorem earnedUnits_saveEffectiveCliff (s : Stream) (a : UInt64) :
    s.saveEffectiveCliff.earnedUnits a = s.earnedUnits a := by
  simp only [earnedUnits, cliffUnits_saveEffectiveCliff]
  rfl

theorem vestedUnitsRaw_congr (hp : s'.isManuallyPaused = s.isManuallyPaused) (hst : s'.start = s.start)
    (hsn : s'.snapshotUnits = s.snapshotUnits) (hr : s'.resumeTime = s.resumeTime)
    (ha : ∀ t, s'.activeSeconds t = s.activeSeconds t) (he : ∀ a, s'.earnedUnits a = s.earnedUnits a) :
    s'.vestedUnitsRaw = s.vestedUnitsRaw := by
  funext now
  simp [vestedUnitsRaw, isRebased, hp, hst, hsn, hr, ha, he]

theorem freezeCliffAt_vestedUnitsRaw (now : UInt64) :
    (s.freezeCliffAt now).vestedUnitsRaw = s.vestedUnitsRaw := by
  unfold freezeCliffAt
  split
  · exact vestedUnitsRaw_congr rfl rfl rfl rfl (fun _ => rfl) (earnedUnits_saveEffectiveCliff s)
  · rfl

theorem activeSeconds_start_toNat (s : Stream) : (s.activeSeconds s.start).toNat = 0 := by
  have hlt := s.start.toNat_lt
  rw [activeSeconds_toNat, effectiveTime_toNat]
  split <;> omega

theorem vestedUnitsRaw_start (hp : s.state ≠ .paused) (hr : s.resumeTime.toNat ≤ s.start.toNat) :
    s.vestedUnitsRaw s.start = s.earnedUnits 0 := by
  have h0 : s.activeSeconds s.start = 0 := UInt64.toNat_inj.mp (by rw [activeSeconds_start_toNat]; rfl)
  rw [s.vestedUnitsRaw_of_running hp le_rfl, if_pos hr, h0]

theorem vestedUnitsRaw_resumeTime (hp : s.state ≠ .paused) (h : s.start.toNat < s.resumeTime.toNat) :
    s.vestedUnitsRaw s.resumeTime = s.snapshotUnits.toNat := by
  rw [s.vestedUnitsRaw_of_running hp h.le, if_neg (by omega), Nat.sub_self, Nat.add_zero]

theorem cliffUnits_le_of_deposits {d : UInt64} (hd : s.totalDeposits.toNat ≤ d.toNat) :
    s.cliffUnits.toNat ≤ ({ s with totalDeposits := d }).cliffUnits.toNat := by
  unfold cliffUnits
  dsimp only
  split
  · exact le_rfl
  · have hs := s.totalDeposits.toNat_lt
    have hdl := d.toNat_lt
    have hdiv : s.totalDeposits.toNat * s.terms.cliffPercent.toNat / 100 ≤
        d.toNat * s.terms.cliffPercent.toNat / 100 :=
      Nat.div_le_div_right (Nat.mul_le_mul_right _ hd)
    rw [Word.toNat_toUInt64 (by omega), Word.toNat_toUInt64 (by omega)]
    omega

theorem earnedUnits_le_of_deposits {d : UInt64} (hd : s.totalDeposits.toNat ≤ d.toNat) (a : UInt64) :
    s.earnedUnits a ≤ ({ s with totalDeposits := d }).earnedUnits a := by
  have hc := cliffUnits_le_of_deposits hd
  have hl : ({ s with totalDeposits := d }).linearUnits = s.linearUnits := rfl
  rw [earnedUnits_eq, earnedUnits_eq, hl]
  dsimp only
  split <;> omega

/-- More deposits never lower the raw vested amount at an instant not before the resume: they
can only raise a percent cliff, and on a rebased leg a raised cliff counts once or not at all. -/
theorem vestedUnitsRaw_le_of_deposits {d now : UInt64} (hd : s.totalDeposits.toNat ≤ d.toNat)
    (hr : s.resumeTime.toNat ≤ now.toNat) :
    s.vestedUnitsRaw now ≤ ({ s with totalDeposits := d }).vestedUnitsRaw now := by
  by_cases hp : s.state = .paused
  · rw [s.vestedUnitsRaw_of_paused hp, vestedUnitsRaw_of_paused (s := { s with totalDeposits := d }) hp]
  by_cases hn : now.toNat < s.start.toNat
  · rw [s.vestedUnitsRaw_of_lt_start hp hn]
    exact Nat.zero_le _
  have hle := s.activeSeconds_mono hr
  have hc := cliffUnits_le_of_deposits hd
  have ha : ({ s with totalDeposits := d }).activeSeconds = s.activeSeconds := rfl
  have hl : ({ s with totalDeposits := d }).linearUnits = s.linearUnits := rfl
  rw [s.vestedUnitsRaw_of_running hp (by omega),
    vestedUnitsRaw_of_running (s := { s with totalDeposits := d }) hp (by dsimp only; omega), ha]
  dsimp only
  split
  · exact earnedUnits_le_of_deposits hd _
  · -- the leg's earnings differ by the cliff raise only when the cliff falls inside the leg
    simp only [earnedUnits_eq, hl]
    split <;> split <;> omega

theorem totalDeposits_le_vestedUnitsRaw_depleted (hp : s.state ≠ .paused)
    (hcov : s.totalDeposits.toNat ≤ s.vestedUnitsRaw clock.now) :
    s.totalDeposits.toNat ≤ s.vestedUnitsRaw (min (s.depletionTime.getD clock.now) clock.now) := by
  rcases Word.min_eq_or (s.depletionTime.getD clock.now) clock.now with hm | hm
  · rw [hm]
    cases hd : s.depletionTime with
    | none => exact hcov
    | some d => exact (s.totalDeposits_le_vestedUnitsRaw_of_depletionTime hp hd).2
  · rw [hm]
    exact hcov

theorem settleDepletion_vestedUnitsRaw (hs : s.resumeTime.toNat ≤ clock.now.toNat)
    (h : s.settleDepletion clock = .ok s1) :
    min (s.vestedUnitsRaw clock.now) s.totalDeposits.toNat ≤
      min (s1.vestedUnitsRaw clock.now) s1.totalDeposits.toNat := by
  rcases settleDepletion_cases h with rfl | ⟨hdep,paused,-,he⟩
  · exact le_rfl
  obtain ⟨hact,hstart,hcov⟩ := (s.isDepleted_iff clock.now).mp hdep
  have hp : s.state ≠ .paused := by rw [hact]; decide
  have hp1 : s1.state ≠ .paused := by rw [he]; exact hp
  have hD1 : s1.totalDeposits = s.totalDeposits := by rw [he]; rfl
  have hr1 : s1.resumeTime = clock.now := by rw [he]; rfl
  have hst1 : s1.start = s.start := by rw [he]; rfl
  rw [hD1]
  rcases Nat.lt_or_ge s.start.toNat clock.now.toNat with hlt | hge
  · -- after the start the snapshot covers the deposits
    have hsnap : s1.snapshotUnits.toNat =
        min (s.vestedUnitsRaw (min (s.depletionTime.getD clock.now) clock.now)) (2 ^ 64 - 1) := by
      rw [he]
      simp [rebase, snapshotAt]
    have hv1 : s1.vestedUnitsRaw clock.now = s1.snapshotUnits.toNat := by
      rw [← hr1]
      exact vestedUnitsRaw_resumeTime hp1 (by rw [hst1, hr1]; exact hlt)
    have hcov' := totalDeposits_le_vestedUnitsRaw_depleted hp hcov
    have hDlt := s.totalDeposits.toNat_lt
    rw [hv1, hsnap]
    omega
  · -- at the start neither record is rebased
    have hn : clock.now = s.start := UInt64.toNat_inj.mp (by omega)
    have hv : s.vestedUnitsRaw clock.now = s.earnedUnits 0 := by
      rw [hn]
      exact vestedUnitsRaw_start hp (by omega)
    have hv1 : s1.vestedUnitsRaw clock.now = s.earnedUnits 0 := by
      have he1 : s1.earnedUnits 0 = s.earnedUnits 0 := by rw [he]; rfl
      rw [← he1, hn, ← hst1]
      exact vestedUnitsRaw_start hp1 (by rw [hr1, hst1, hn])
    rw [hv, hv1]

theorem pause_vestedUnitsRaw {who : Pubkey} (hs : s.resumeTime.toNat ≤ clock.now.toNat)
    (h : s.pause who clock = .ok s') :
    min (s.vestedUnitsRaw clock.now) s.totalDeposits.toNat ≤
      min (s'.vestedUnitsRaw clock.now) s'.totalDeposits.toNat := by
  obtain ⟨-,-,-,s1,hs1,he⟩ := pause_eq_ok h
  have hset := settleDepletion_vestedUnitsRaw hs hs1
  have hp' : s'.state = .paused := by rw [he]
  have hv : s'.vestedUnitsRaw clock.now = min (s1.vestedUnitsRaw clock.now) (2 ^ 64 - 1) := by
    rw [s'.vestedUnitsRaw_of_paused hp', he]
    simp [snapshotAt]
  have hD : s'.totalDeposits = s1.totalDeposits := by rw [he]
  have hDlt := s1.totalDeposits.toNat_lt
  rw [hv, hD]
  omega

theorem applyResume_vestedUnitsRaw (hs : Settled clock.now s) (hp : s.state = .paused)
    (hne : clock.now ≠ s.start) (h : s.applyResume clock = .ok s') :
    s'.vestedUnitsRaw clock.now = s.vestedUnitsRaw clock.now := by
  obtain ⟨paused,-,he⟩ := applyResume_eq_ok.mp h
  have hp' : s'.state ≠ .paused := by rw [he]; simp
  have hst : s'.start = s.start := by rw [he]
  have hr : s'.resumeTime = clock.now := by rw [he]
  have hsn : s'.snapshotUnits = s.snapshotUnits := by rw [he]
  have hne' : clock.now.toNat ≠ s.start.toNat := fun h => hne (UInt64.toNat_inj.mp h)
  rw [s.vestedUnitsRaw_of_paused hp]
  rcases Nat.lt_or_gt_of_ne hne' with hlt | hgt
  · have h0 : s.snapshotUnits = 0 := hs.snapshot_before_start (by have := hs.snapshotTime_le; omega)
    rw [s'.vestedUnitsRaw_of_lt_start hp' (by rw [hst]; exact hlt), h0]
    rfl
  · rw [← hr, vestedUnitsRaw_resumeTime hp' (by rw [hst, hr]; exact hgt), hsn]

theorem Settled.mono {t u : UInt64} (hs : Settled t s) (h : t.toNat ≤ u.toNat) : Settled u s :=
  ⟨hs.resumeTime_le.trans h,hs.snapshotTime_le.trans h,hs.snapshot_before_start⟩

theorem create_settled {treasurer beneficiaryToken treasury : Pubkey} {p : CreateParams}
    (h : Stream.create treasurer p beneficiaryToken treasury clock = .ok s) (t : UInt64) :
    Settled t s := by
  obtain ⟨-,-,-,-,-,hsn,hsnT,hr,-⟩ := create_fresh h
  exact ⟨by simp [hr],by simp [hsnT],fun _ => hsn⟩

variable {t : UInt64}

theorem settleDepletion_settled (hs : Settled t s) (ht : clock.now.toNat ≤ t.toNat)
    (h : s.settleDepletion clock = .ok s1) : Settled t s1 := by
  rcases settleDepletion_cases h with rfl | ⟨hdep,paused,-,rfl⟩
  · exact hs
  · have hstart := ((s.isDepleted_iff clock.now).mp hdep).2.1
    exact ⟨ht,ht,fun h => absurd h (Nat.not_lt.mpr hstart)⟩

theorem applyResume_settled (hs : Settled t s) (ht : clock.now.toNat ≤ t.toNat)
    (h : s.applyResume clock = .ok s') : Settled t s' := by
  obtain ⟨paused,-,rfl⟩ := applyResume_eq_ok.mp h
  exact ⟨ht,hs.snapshotTime_le,hs.snapshot_before_start⟩

theorem freezeCliffAt_settled (hs : Settled t s) (now : UInt64) : Settled t (s.freezeCliffAt now) := by
  unfold freezeCliffAt
  split
  · exact ⟨hs.resumeTime_le,hs.snapshotTime_le,hs.snapshot_before_start⟩
  · exact hs

theorem pause_settled {who : Pubkey} (hs : Settled t s) (ht : clock.now.toNat ≤ t.toNat)
    (h : s.pause who clock = .ok s') : Settled t s' := by
  obtain ⟨-,-,hact,s1,hs1,rfl⟩ := pause_eq_ok h
  have hs1' := settleDepletion_settled hs ht hs1
  obtain ⟨hst1,-,-,-,-,-,hk1⟩ := settleDepletion_frame hs1
  refine ⟨hs1'.resumeTime_le,ht,fun hlt => ?_⟩
  have hp1 : s1.state ≠ .paused := by rw [hst1, hact]; decide
  have h0 : s1.vestedUnitsRaw clock.now = 0 := s1.vestedUnitsRaw_of_lt_start hp1 hlt
  show Word.ofNatSat (s1.vestedUnitsRaw clock.now) = 0
  rw [h0]
  rfl

theorem addFunds_settled {who : Pubkey} {amount : UInt64} {resume : Bool} (hs : Settled t s)
    (ht : clock.now.toNat ≤ t.toNat) (h : s.addFunds who amount resume clock = .ok s') :
    Settled t s' := by
  obtain ⟨-,-,-,s1,deposits,hs1,-,hfin⟩ := addFunds_eq_ok h
  have hs3 : Settled t { s1.freezeCliffAt clock.now with totalDeposits := deposits } := by
    have := freezeCliffAt_settled (settleDepletion_settled hs ht hs1) clock.now
    exact ⟨this.resumeTime_le,this.snapshotTime_le,this.snapshot_before_start⟩
  split at hfin
  · exact applyResume_settled hs3 ht hfin
  · rw [hfin]
    exact hs3

theorem answerUpdate_settled {who : Pubkey} {approve : Bool} (hs : Settled t s)
    (ht : clock.now.toNat ≤ t.toNat) (h : s.answerUpdate who approve clock = .ok s') :
    Settled t s' := by
  obtain ⟨-,p,-,-,h⟩ := answerUpdate_eq_ok h
  cases approve with
  | false =>
    rw [h]
    exact ⟨hs.resumeTime_le,hs.snapshotTime_le,hs.snapshot_before_start⟩
  | true =>
    obtain ⟨s1,hs1,rfl⟩ := h
    split at hs1
    · rename_i hrun
      obtain ⟨s0,hs0,rfl⟩ := hs1
      have hk := (settleDepletion_frame hs0).2.2.2.2.2.2
      have hgt : s.start.toNat < clock.now.toNat := UInt64.lt_iff_toNat_lt.mp hrun.2
      refine ⟨ht,ht,fun h => absurd h ?_⟩
      show ¬ clock.now.toNat < s0.start.toNat
      rw [hk.start]
      omega
    · rw [hs1]
      exact ⟨hs.resumeTime_le,hs.snapshotTime_le,hs.snapshot_before_start⟩

theorem resume_vestedUnitsRaw {who : Pubkey} (hs : Settled clock.now s)
    (hne : s.state = .paused → clock.now ≠ s.start) (h : s.resume who clock = .ok s') :
    s'.vestedUnitsRaw clock.now = s.vestedUnitsRaw clock.now ∧ s'.totalDeposits = s.totalDeposits := by
  obtain ⟨-,-,⟨hp,hr⟩ | ⟨-,-,rfl⟩⟩ := resume_eq_ok h
  · exact ⟨applyResume_vestedUnitsRaw hs hp (hne hp) hr,(applyResume_frame hr).2.2.1⟩
  · exact ⟨rfl,rfl⟩

/-- A deposit keeps what has vested, up to the deposits, unless it ends a pause at the start:
settling keeps it, a frozen cliff releases what it released, and more deposits release more. -/
theorem addFunds_vestedUnitsRaw {who : Pubkey} {amount : UInt64} {resume : Bool}
    (hs : Settled clock.now s) (hne : resume = true → s.state = .paused → clock.now ≠ s.start)
    (h : s.addFunds who amount resume clock = .ok s') :
    min (s.vestedUnitsRaw clock.now) s.totalDeposits.toNat ≤
      min (s'.vestedUnitsRaw clock.now) s'.totalDeposits.toNat := by
  obtain ⟨-,-,-,s1,deposits,hs1,hdep,hfin⟩ := addFunds_eq_ok h
  have h1 := settleDepletion_vestedUnitsRaw hs.resumeTime_le hs1
  have hset1 := settleDepletion_settled hs le_rfl hs1
  obtain ⟨hst1,-,hD1,-,-,-,hk1⟩ := settleDepletion_frame hs1
  obtain ⟨-,-,hDf,-,-,-,hkf⟩ := freezeCliffAt_frame (s := s1) clock.now
  have hsum : deposits.toNat = (s1.freezeCliffAt clock.now).totalDeposits.toNat + amount.toNat :=
    (Word.add?_eq_some_iff.mp hdep).2
  rw [hDf, hD1] at hsum
  have hset3 : Settled clock.now { s1.freezeCliffAt clock.now with totalDeposits := deposits } := by
    have := freezeCliffAt_settled hset1 clock.now
    exact ⟨this.resumeTime_le,this.snapshotTime_le,this.snapshot_before_start⟩
  have h3 : s1.vestedUnitsRaw clock.now ≤
      ({ s1.freezeCliffAt clock.now with totalDeposits := deposits } : Stream).vestedUnitsRaw clock.now := by
    have := vestedUnitsRaw_le_of_deposits (s := s1.freezeCliffAt clock.now) (d := deposits)
      (by rw [hDf, hD1]; omega) (freezeCliffAt_settled hset1 clock.now).resumeTime_le
    rwa [freezeCliffAt_vestedUnitsRaw] at this
  rw [hD1] at h1
  split at hfin
  · rename_i hres
    have hp3 : ({ s1.freezeCliffAt clock.now with totalDeposits := deposits } : Stream).state = .paused := by
      simp [hres.2]
    have hne3 : clock.now ≠ ({ s1.freezeCliffAt clock.now with totalDeposits := deposits } : Stream).start := by
      show clock.now ≠ (s1.freezeCliffAt clock.now).start
      rw [hkf.start, hk1.start]
      exact hne hres.1 (hst1 ▸ hres.2)
    rw [applyResume_vestedUnitsRaw hset3 hp3 hne3 hfin, (applyResume_frame hfin).2.2.1]
    show _ ≤ min _ deposits.toNat
    omega
  · rw [hfin]
    show _ ≤ min _ deposits.toNat
    omega

theorem answerUpdate_vestedUnitsRaw {who : Pubkey} {approve : Bool} (hs : Settled clock.now s)
    (hne : approve = true → s.state = .active → clock.now ≠ s.start)
    (h : s.answerUpdate who approve clock = .ok s') :
    min (s.vestedUnitsRaw clock.now) s.totalDeposits.toNat ≤
      min (s'.vestedUnitsRaw clock.now) s'.totalDeposits.toNat := by
  obtain ⟨ho,p,-,-,h⟩ := answerUpdate_eq_ok h
  cases approve with
  | false =>
    rw [h]
    exact le_rfl
  | true =>
    obtain ⟨s1,hs1,rfl⟩ := h
    split at hs1
    · rename_i hrun
      obtain ⟨s0,hs0,rfl⟩ := hs1
      have h0 := settleDepletion_vestedUnitsRaw hs.resumeTime_le hs0
      obtain ⟨hst0,-,hD0,-,-,-,hk0⟩ := settleDepletion_frame hs0
      have hgt : s.start.toNat < clock.now.toNat := UInt64.lt_iff_toNat_lt.mp hrun.2
      have hp0 : s0.state ≠ .paused := by rw [hst0, hrun.1]; decide
      have hv : ({ s0.rebase (s0.snapshotAt clock.now) clock with terms := p.terms, pending := none } :
          Stream).vestedUnitsRaw clock.now = (s0.snapshotAt clock.now).toNat :=
        vestedUnitsRaw_resumeTime (s := { s0.rebase (s0.snapshotAt clock.now) clock with
                                           terms := p.terms, pending := none })
          hp0 (by show s0.start.toNat < clock.now.toNat; rw [hk0.start]; exact hgt)
      have hsnap : (s0.snapshotAt clock.now).toNat = min (s0.vestedUnitsRaw clock.now) (2 ^ 64 - 1) := by
        simp [snapshotAt]
      have hDlt := s.totalDeposits.toNat_lt
      rw [hv, hsnap]
      show _ ≤ min _ s0.totalDeposits.toNat
      rw [hD0] at h0 ⊢
      omega
    · rename_i hrun
      rw [hs1]
      obtain ⟨-,hnd,hnc⟩ := ensureOpen_eq_ok.mp ho
      have hopen : s.state = .paused ∨ s.state = .active := by
        cases hst : s.state <;> simp_all
      rcases hopen with hst | hst
      · -- a paused record keeps its snapshot under any terms
        have hp' : ({ s with terms := p.terms, pending := none } : Stream).state = .paused := hst
        rw [s.vestedUnitsRaw_of_paused hst, vestedUnitsRaw_of_paused _ hp']
      · -- not after the start and not at it: before the start nothing vests under any terms
        have hle : ¬ clock.now > s.start := fun hgt => hrun ⟨hst,hgt⟩
        have hlt : clock.now.toNat < s.start.toNat := by
          have := hne rfl hst
          have h1 : clock.now.toNat ≠ s.start.toNat := fun h => this (UInt64.toNat_inj.mp h)
          have h2 := UInt64.lt_iff_toNat_lt.not.mp hle
          omega
        have hp : s.state ≠ .paused := by rw [hst]; decide
        rw [s.vestedUnitsRaw_of_lt_start hp hlt,
          vestedUnitsRaw_of_lt_start ({ s with terms := p.terms, pending := none } : Stream) hp hlt]

theorem vestedUnitsRaw_mono {t u : UInt64} (h : t.toNat ≤ u.toNat) :
    s.vestedUnitsRaw t ≤ s.vestedUnitsRaw u := by
  by_cases hp : s.state = .paused
  · rw [s.vestedUnitsRaw_of_paused hp, s.vestedUnitsRaw_of_paused hp]
  by_cases ht : t.toNat < s.start.toNat
  · rw [s.vestedUnitsRaw_of_lt_start hp ht]
    exact Nat.zero_le _
  have he := s.earnedUnits_mono (s.activeSeconds_mono h)
  rw [s.vestedUnitsRaw_of_running hp (by omega), s.vestedUnitsRaw_of_running hp (by omega)]
  split <;> omega

theorem vestedUnits_mono {t u : UInt64} (h : t.toNat ≤ u.toNat) :
    (s.vestedUnits t).toNat ≤ (s.vestedUnits u).toNat := by
  have := vestedUnitsRaw_mono (s := s) h
  rw [vestedUnits_toNat, vestedUnits_toNat]
  omega

theorem vestedUnits_le_of_clamp {t : UInt64}
    (hm : min (s.vestedUnitsRaw t) s.totalDeposits.toNat ≤
      min (s'.vestedUnitsRaw t) s'.totalDeposits.toNat)
    (hw : s.totalWithdrawals.toNat ≤ s'.totalWithdrawals.toNat) :
    (s.vestedUnits t).toNat ≤ (s'.vestedUnits t).toNat := by
  rw [vestedUnits_toNat, vestedUnits_toNat]
  omega

end Stream

namespace Operation

variable {s s' : Stream} {clock : Clock} {c : Option Settlement}

/-- Whether a call starts a new vesting leg on a record: approving new terms for a running
stream, or ending a manual pause. At the start instant these are the calls that do not rebase. -/
def startsLeg (op : Operation) (s : Stream) : Bool :=
  match op with
  | .answerUpdate _ approve => approve && s.state == .active
  | .resume _ => s.state == .paused
  | .addFunds _ _ asksResume => asksResume && s.state == .paused
  | _ => false

theorem apply_settled {op : Operation} {t : UInt64} (hs : s.Settled t) (ht : clock.now.toNat ≤ t.toNat)
    (h : op.apply s clock = .ok (c, s')) : s'.Settled t := by
  cases op with
  | addFunds who amount resume => exact Stream.addFunds_settled hs ht (apply_addFunds_eq_ok.mp h).2
  | withdraw who amount =>
    obtain ⟨-,-,-,-,w,-,rfl⟩ := Stream.withdraw_eq_ok.mp (apply_withdraw_eq_ok.mp h).2
    exact ⟨hs.resumeTime_le,hs.snapshotTime_le,hs.snapshot_before_start⟩
  | pause who => exact Stream.pause_settled hs ht (apply_pause_eq_ok.mp h).2
  | resume who =>
    obtain ⟨-,-,⟨-,hr⟩ | ⟨-,-,rfl⟩⟩ := Stream.resume_eq_ok (apply_resume_eq_ok.mp h).2
    · exact Stream.applyResume_settled hs ht hr
    · exact hs
  | close who =>
    obtain ⟨st,hst,-⟩ := apply_close_eq_ok.mp h
    obtain ⟨-,-,v,-,-,rfl⟩ := Stream.close_eq_ok hst
    exact ⟨hs.resumeTime_le,hs.snapshotTime_le,hs.snapshot_before_start⟩
  | proposeUpdate who terms =>
    obtain ⟨-,cp,-,-,-,-,rfl⟩ := Stream.proposeUpdate_eq_ok (apply_proposeUpdate_eq_ok.mp h).2
    exact ⟨hs.resumeTime_le,hs.snapshotTime_le,hs.snapshot_before_start⟩
  | answerUpdate who approve =>
    exact Stream.answerUpdate_settled hs ht (apply_answerUpdate_eq_ok.mp h).2

/-- An accepted call on a well-formed settled record keeps what has vested at its instant,
unless it starts a new leg exactly at the start. -/
theorem apply_vestedUnits_le {op : Operation} (hw : s.WellFormed) (hs : s.Settled clock.now)
    (hx : clock.now = s.start → op.startsLeg s = false) (h : op.apply s clock = .ok (c, s')) :
    (s.vestedUnits clock.now).toNat ≤ (s'.vestedUnits clock.now).toNat := by
  cases op with
  | addFunds who amount resume =>
    have h' := (apply_addFunds_eq_ok.mp h).2
    have hne : resume = true → s.state = .paused → clock.now ≠ s.start := fun hr hp heq => by
      simpa [startsLeg, hr, hp] using hx heq
    obtain ⟨-,-,-,hwd,-⟩ := Stream.addFunds_lifecycle hw h'
    exact Stream.vestedUnits_le_of_clamp (Stream.addFunds_vestedUnitsRaw hs hne h') (by rw [hwd])
  | withdraw who amount =>
    rw [(Stream.withdraw_moves_withdrawable (apply_withdraw_eq_ok.mp h).2).2]
  | pause who =>
    have h' := (apply_pause_eq_ok.mp h).2
    obtain ⟨-,-,-,hwd,-⟩ := Stream.pause_lifecycle hw h'
    exact Stream.vestedUnits_le_of_clamp (Stream.pause_vestedUnitsRaw hs.resumeTime_le h') (by rw [hwd])
  | resume who =>
    have h' := (apply_resume_eq_ok.mp h).2
    have hne : s.state = .paused → clock.now ≠ s.start := fun hp heq => by
      simpa [startsLeg, hp] using hx heq
    obtain ⟨hraw,hd⟩ := Stream.resume_vestedUnitsRaw hs hne h'
    obtain ⟨-,-,-,hwd,-⟩ := Stream.resume_lifecycle hw h'
    exact Stream.vestedUnits_le_of_clamp (by rw [hraw, hd]) (by rw [hwd])
  | close who =>
    -- closing records what has vested as withdrawn, and the vested amount is never below that
    obtain ⟨st,hst,-⟩ := apply_close_eq_ok.mp h
    obtain ⟨-,-,v,hv,-,he⟩ := Stream.close_eq_ok hst
    have hwv : s'.totalWithdrawals = s.vestedUnits clock.now := by
      rw [he]
      exact (s.vesting_eq_ok hv).1
    rw [← hwv]
    exact s'.totalWithdrawals_le_vestedUnits clock.now
  | proposeUpdate who terms =>
    obtain ⟨-,cp,-,-,-,-,rfl⟩ := Stream.proposeUpdate_eq_ok (apply_proposeUpdate_eq_ok.mp h).2
    exact le_rfl
  | answerUpdate who approve =>
    have h' := (apply_answerUpdate_eq_ok.mp h).2
    have hne : approve = true → s.state = .active → clock.now ≠ s.start := fun ha hp heq => by
      simpa [startsLeg, ha, hp] using hx heq
    obtain ⟨-,-,-,hwd,-⟩ := Stream.answerUpdate_lifecycle hw h'
    exact Stream.vestedUnits_le_of_clamp (Stream.answerUpdate_vestedUnitsRaw hs hne h') (by rw [hwd])

end Operation

namespace Stream

variable {s : Stream}

theorem replay_settled {t : UInt64} (hs : s.Settled t) (run : List (Clock × Operation))
    (hrun : ∀ e ∈ run, e.1.now.toNat ≤ t.toNat) : (s.replay run).Settled t := by
  induction run generalizing s with
  | nil => exact hs
  | cons e run ih =>
    obtain ⟨clock,op⟩ := e
    have hstep : (op.perform s clock).2.Settled t :=
      Operation.perform_of_apply hs fun _ _ h =>
        Operation.apply_settled hs (hrun _ List.mem_cons_self) h
    rw [replay_cons]
    exact ih hstep fun e he => hrun e (List.mem_cons_of_mem _ he)

/-- No accepted call takes back what has vested. On a stream created and then called at
instants none of which is after `clock`, refused calls included, a call accepted at `clock`
leaves at least as much vested at that instant as there was, unless it starts a new leg exactly
at the start; and the vested amount of a record only grows with time, so along a run in time
order the vested amount observed never goes down. -/
theorem vested_never_taken_back {treasurer beneficiaryToken treasury : Pubkey} {p : CreateParams}
    {c0 : Clock} {s0 : Stream} (hc : Stream.create treasurer p beneficiaryToken treasury c0 = .ok s0)
    {run : List (Clock × Operation)} {clock : Clock} (hlate : ∀ e ∈ run, e.1.now ≤ clock.now)
    {op : Operation} {c : Option Settlement} {s' : Stream}
    (h : op.apply (s0.replay run) clock = .ok (c, s'))
    (hstart : clock.now = (s0.replay run).start → op.startsLeg (s0.replay run) = false) :
    ((s0.replay run).vestedUnits clock.now).toNat ≤ (s'.vestedUnits clock.now).toNat ∧
      ∀ u : UInt64, clock.now ≤ u → (s'.vestedUnits clock.now).toNat ≤ (s'.vestedUnits u).toNat := by
  have hw := (replay_wellFormed (create_wellFormed hc) run).1
  have hs : (s0.replay run).Settled clock.now :=
    replay_settled (create_settled hc clock.now) run fun e he => UInt64.le_iff_toNat_le.mp (hlate e he)
  exact ⟨Operation.apply_vestedUnits_le hw hs hstart h,
    fun u hu => vestedUnits_mono (UInt64.le_iff_toNat_le.mp hu)⟩

/-- A pause half an hour in, after a withdrawal, keeps the 350 units vested by a cliff of 300 and
100 units an hour, and the paused record's vested amount never goes down after it. -/
theorem vested_never_taken_back_by_pause :
    let p : CreateParams := { CreateParams.hourly with cliffAmount := 300 }
    let s0 := opened Pubkey.zero p Pubkey.zero Pubkey.zero ⟨0, 0⟩
    let run : List (Clock × Operation) := [(⟨0, 900⟩, .withdraw p.beneficiary 10)]
    let clock : Clock := ⟨0, 1800⟩
    let op := Operation.pause Pubkey.zero
    Stream.create Pubkey.zero p Pubkey.zero Pubkey.zero ⟨0, 0⟩ = .ok s0 ∧
      (∀ e ∈ run, e.1.now ≤ clock.now) ∧
      op.apply (s0.replay run) clock = .ok (none, (op.perform (s0.replay run) clock).2) ∧
      (clock.now = (s0.replay run).start → op.startsLeg (s0.replay run) = false) ∧
      ((s0.replay run).vestedUnits clock.now).toNat ≤
        ((op.perform (s0.replay run) clock).2.vestedUnits clock.now).toNat ∧
      ∀ u : UInt64, clock.now ≤ u → ((op.perform (s0.replay run) clock).2.vestedUnits clock.now).toNat ≤
        ((op.perform (s0.replay run) clock).2.vestedUnits u).toNat := by
  intro p s0 run clock op
  have hc : Stream.create Pubkey.zero p Pubkey.zero Pubkey.zero ⟨0, 0⟩ = .ok s0 :=
    create_of_checks (by decide) (by decide) (by decide)
  have hlate : ∀ e ∈ run, e.1.now ≤ clock.now := by decide
  have h : op.apply (s0.replay run) clock = .ok (none, (op.perform (s0.replay run) clock).2) := by
    decide
  have hx : clock.now = (s0.replay run).start → op.startsLeg (s0.replay run) = false := fun _ => rfl
  exact ⟨hc,hlate,h,hx,vested_never_taken_back hc hlate h hx⟩

/-- Approving new terms exactly at the start takes back a cliff of zero seconds: 300 units
vested at the start under a cliff amount of 300, and none once terms without a cliff amount
are approved at that instant. -/
theorem approval_at_start_drops_cliff :
    let p : CreateParams := { CreateParams.hourly with cliffAmount := 300 }
    let s0 := opened Pubkey.zero p Pubkey.zero Pubkey.zero ⟨0, 0⟩
    let s := s0.replay [(⟨0, 0⟩, .proposeUpdate Pubkey.zero { p.terms with cliffAmount := 0 })]
    let op := Operation.answerUpdate p.beneficiary true
    Stream.create Pubkey.zero p Pubkey.zero Pubkey.zero ⟨0, 0⟩ = .ok s0 ∧
      op.apply s ⟨0, 0⟩ = .ok (none, (op.perform s ⟨0, 0⟩).2) ∧
      s.vestedUnits 0 = 300 ∧ (op.perform s ⟨0, 0⟩).2.vestedUnits 0 = 0 := by
  intro p s0 s op
  exact ⟨create_of_checks (by decide) (by decide) (by decide),by decide,by decide,by decide⟩

end Stream

end MoneyStream
