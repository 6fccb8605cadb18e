import MoneyStream.Proofs.Steps
/-! # Invariants of the stream lifecycle

A stream is created once and then taken through a run of calls, at any clocks and by anyone,
refused calls included. Along every run the record stays initialized and out of the draft
state, its two parties differ, its cliff percent and that of a pending proposal stay whole
percents, and the proposal keeps the mint. The parties, the accounts, the nonce, the bump, the
start and the mint never change; deposits and withdrawals never go down; a stream pauses only
by `pause`, resumes only by `resume` or by a deposit that asks for it, closes only by `close`,
and a closed stream refuses every call and stays as it is.
-/
namespace MoneyStream

namespace Stream

variable {s s1 s' : Stream} {clock : Clock}

/-- The fields a stream keeps from its creation on. -/
structure Keeps (s s' : Stream) : Prop where
  treasurer : s'.treasurer = s.treasurer
  beneficiary : s'.beneficiary = s.beneficiary
  beneficiaryToken : s'.beneficiaryToken = s.beneficiaryToken
  treasury : s'.treasury = s.treasury
  nonce : s'.nonce = s.nonce
  bump : s'.bump = s.bump
  start : s'.start = s.start
  mint : s'.terms.mint = s.terms.mint

theorem Keeps.refl (s : Stream) : Keeps s s := ⟨rfl,rfl,rfl,rfl,rfl,rfl,rfl,rfl⟩

theorem Keeps.trans {s2 : Stream} (h1 : Keeps s s1) (h2 : Keeps s1 s2) : Keeps s s2 :=
  ⟨h2.1.trans h1.1,h2.2.trans h1.2,h2.3.trans h1.3,h2.4.trans h1.4,h2.5.trans h1.5,h2.6.trans h1.6,
    h2.7.trans h1.7,h2.8.trans h1.8⟩

/-- What every stream a creation and a run of calls reach satisfies. -/
structure WellFormed (s : Stream) : Prop where
  initialized : s.initialized = true
  state_ne_draft : s.state ≠ .draft
  parties_ne : s.treasurer ≠ s.beneficiary
  cliffPercent_le : s.terms.cliffPercent.toNat ≤ 100
  pending_mint : ∀ p, s.pending = some p → p.terms.mint = s.terms.mint
  pending_cliffPercent : ∀ p, s.pending = some p → p.terms.cliffPercent.toNat ≤ 100

theorem settleDepletion_eq_with (h : s.settleDepletion clock = .ok s1) :
    s1 = { s with snapshotUnits := s1.snapshotUnits, snapshotSlot := s1.snapshotSlot,
                  snapshotTime := s1.snapshotTime, resumeSlot := s1.resumeSlot,
                  resumeTime := s1.resumeTime, pausedSeconds := s1.pausedSeconds } := by
  rcases settleDepletion_cases h with rfl | ⟨-,paused,-,rfl⟩ <;> rfl

theorem settleDepletion_frame (h : s.settleDepletion clock = .ok s1) :
    s1.state = s.state ∧ s1.terms = s.terms ∧ s1.totalDeposits = s.totalDeposits ∧
    s1.totalWithdrawals = s.totalWithdrawals ∧ s1.pending = s.pending ∧
    s1.initialized = s.initialized ∧ Keeps s s1 := by
  have he := settleDepletion_eq_with h
  rw [he]
  exact ⟨rfl,rfl,rfl,rfl,rfl,rfl,⟨rfl,rfl,rfl,rfl,rfl,rfl,rfl,rfl⟩⟩

theorem applyResume_frame (h : s.applyResume clock = .ok s') :
    s'.state = .active ∧ s'.terms = s.terms ∧ s'.totalDeposits = s.totalDeposits ∧
    s'.totalWithdrawals = s.totalWithdrawals ∧ s'.pending = s.pending ∧
    s'.initialized = s.initialized ∧ Keeps s s' := by
  obtain ⟨paused,-,rfl⟩ := applyResume_eq_ok.mp h
  exact ⟨rfl,rfl,rfl,rfl,rfl,rfl,⟨rfl,rfl,rfl,rfl,rfl,rfl,rfl,rfl⟩⟩

theorem saveEffectiveCliff_cliffPercent (s : Stream) : s.saveEffectiveCliff.terms.cliffPercent = 0 := rfl

theorem freezeCliffAt_frame (now : UInt64) :
    (s.freezeCliffAt now).terms.mint = s.terms.mint ∧
    (s.freezeCliffAt now).terms.cliffPercent.toNat ≤ s.terms.cliffPercent.toNat ∧
    (s.freezeCliffAt now).totalDeposits = s.totalDeposits ∧
    (s.freezeCliffAt now).totalWithdrawals = s.totalWithdrawals ∧
    (s.freezeCliffAt now).pending = s.pending ∧ (s.freezeCliffAt now).initialized = s.initialized ∧
    Keeps s (s.freezeCliffAt now) := by
  unfold freezeCliffAt
  split
  · exact ⟨rfl,by simp [saveEffectiveCliff_cliffPercent],rfl,rfl,rfl,rfl,⟨rfl,rfl,rfl,rfl,rfl,rfl,rfl,rfl⟩⟩
  · exact ⟨rfl,le_rfl,rfl,rfl,rfl,rfl,Keeps.refl s⟩

theorem WellFormed.of_frame (hw : WellFormed s) (hk : Keeps s s') (hi : s'.initialized = s.initialized)
    (hst : s'.state ≠ .draft) (hc : s'.terms.cliffPercent.toNat ≤ 100)
    (hp : s'.pending = s.pending ∨ s'.pending = none) : WellFormed s' where
  initialized := hi.trans hw.initialized
  state_ne_draft := hst
  parties_ne := by rw [hk.treasurer, hk.beneficiary]; exact hw.parties_ne
  cliffPercent_le := hc
  pending_mint := by
    intro p hq
    rcases hp with hp | hp
    · rw [hk.mint]
      exact hw.pending_mint p (hp ▸ hq)
    · simp [hp] at hq
  pending_cliffPercent := by
    intro p hq
    rcases hp with hp | hp
    · exact hw.pending_cliffPercent p (hp ▸ hq)
    · simp [hp] at hq

theorem addFunds_lifecycle {who : Pubkey} {amount : UInt64} {resume : Bool} (hw : WellFormed s)
    (h : s.addFunds who amount resume clock = .ok s') :
    WellFormed s' ∧ Keeps s s' ∧ s.totalDeposits.toNat ≤ s'.totalDeposits.toNat ∧
      s'.totalWithdrawals = s.totalWithdrawals ∧
      s'.state = if resume = true ∧ s.state = .paused then .active else s.state := by
  obtain ⟨-,-,-,s1,deposits,hs1,hd,hr⟩ := addFunds_eq_ok h
  obtain ⟨hst1,hterms1,hdep1,hwd1,hpend1,hinit1,hk1⟩ := settleDepletion_frame hs1
  obtain ⟨hmint2,hpct2,hdep2,hwd2,hpend2,hinit2,hk2⟩ := freezeCliffAt_frame (s := s1) clock.now
  obtain ⟨-,hsum⟩ := Word.add?_eq_some_iff.mp hd
  set s3 : Stream := { s1.freezeCliffAt clock.now with totalDeposits := deposits } with hs3
  have hk3 : Keeps s s3 := hk1.trans (hk2.trans ⟨rfl,rfl,rfl,rfl,rfl,rfl,rfl,rfl⟩)
  have hpct3 : s3.terms.cliffPercent.toNat ≤ 100 := by
    have := hw.cliffPercent_le
    simp only [hs3]
    rw [hterms1] at hpct2
    omega
  have hfacts : WellFormed s3 ∧ s.totalDeposits.toNat ≤ s3.totalDeposits.toNat ∧
      s3.totalWithdrawals = s.totalWithdrawals := by
    refine ⟨hw.of_frame hk3 (hinit2.trans hinit1) ?_ hpct3 (.inl (hpend2.trans hpend1)),?_,
      hwd2.trans hwd1⟩
    · simp only [hs3, freezeCliffAt_state, hst1]
      exact hw.state_ne_draft
    · simp only [hs3]
      rw [hdep2, hdep1] at hsum
      omega
  obtain ⟨hw3,hd3,hwd3⟩ := hfacts
  by_cases hres : resume = true ∧ s1.state = .paused
  · rw [if_pos hres] at hr
    obtain ⟨hact,hterms4,hdep4,hwd4,hpend4,hinit4,hk4⟩ := applyResume_frame hr
    refine ⟨hw3.of_frame hk4 hinit4 (by rw [hact]; exact nofun) (hterms4 ▸ hpct3) (.inl hpend4),
      hk3.trans hk4,hdep4 ▸ hd3,hwd4.trans hwd3,?_⟩
    rw [hst1] at hres
    rw [if_pos hres, hact]
  · rw [if_neg hres] at hr
    subst hr
    refine ⟨hw3,hk3,hd3,hwd3,?_⟩
    rw [hst1] at hres
    rw [if_neg hres]
    simp only [hs3, freezeCliffAt_state, hst1]

theorem withdraw_lifecycle {who : Pubkey} {amount : UInt64} (hw : WellFormed s)
    (h : s.withdraw who amount clock = .ok s') :
    WellFormed s' ∧ Keeps s s' ∧ s'.totalDeposits = s.totalDeposits ∧
      s.totalWithdrawals.toNat ≤ s'.totalWithdrawals.toNat ∧ s'.state = s.state := by
  obtain ⟨-,-,-,-,w,hwd,rfl⟩ := withdraw_eq_ok.mp h
  obtain ⟨-,hsum⟩ := Word.add?_eq_some_iff.mp hwd
  refine ⟨hw.of_frame ⟨rfl,rfl,rfl,rfl,rfl,rfl,rfl,rfl⟩ rfl hw.state_ne_draft hw.cliffPercent_le
    (.inl rfl),⟨rfl,rfl,rfl,rfl,rfl,rfl,rfl,rfl⟩,rfl,?_,rfl⟩
  simp only [hsum]
  omega

theorem pause_lifecycle {who : Pubkey} (hw : WellFormed s) (h : s.pause who clock = .ok s') :
    WellFormed s' ∧ Keeps s s' ∧ s'.totalDeposits = s.totalDeposits ∧
      s'.totalWithdrawals = s.totalWithdrawals ∧ s.state = .active ∧ s'.state = .paused := by
  obtain ⟨-,-,hact,s1,hs1,rfl⟩ := pause_eq_ok h
  obtain ⟨-,hterms1,hdep1,hwd1,hpend1,hinit1,hk1⟩ := settleDepletion_frame hs1
  have hk : Keeps s1 { s1 with snapshotUnits := s1.snapshotAt clock.now, snapshotSlot := clock.slot,
                               snapshotTime := clock.now, state := .paused } :=
    ⟨rfl,rfl,rfl,rfl,rfl,rfl,rfl,rfl⟩
  exact ⟨hw.of_frame (hk1.trans hk) hinit1 nofun (hterms1 ▸ hw.cliffPercent_le) (.inl hpend1),
    hk1.trans hk,hdep1,hwd1,hact,rfl⟩

theorem resume_lifecycle {who : Pubkey} (hw : WellFormed s) (h : s.resume who clock = .ok s') :
    WellFormed s' ∧ Keeps s s' ∧ s'.totalDeposits = s.totalDeposits ∧
      s'.totalWithdrawals = s.totalWithdrawals ∧
      (s'.state = s.state ∨ (s.state = .paused ∧ s'.state = .active)) := by
  obtain ⟨-,-,⟨hp,hr⟩ | ⟨-,-,rfl⟩⟩ := resume_eq_ok h
  · obtain ⟨hact,hterms,hdep,hwd,hpend,hinit,hk⟩ := applyResume_frame hr
    exact ⟨hw.of_frame hk hinit (by rw [hact]; exact nofun) (hterms ▸ hw.cliffPercent_le)
      (.inl hpend),hk,hdep,hwd,.inr ⟨hp,hact⟩⟩
  · exact ⟨hw,Keeps.refl _,rfl,rfl,.inl rfl⟩

theorem close_lifecycle {who : Pubkey} {c : Settlement} (hw : WellFormed s)
    (h : s.close who clock = .ok (c, s')) :
    WellFormed s' ∧ Keeps s s' ∧ s'.totalDeposits = s.totalDeposits ∧
      s.totalWithdrawals.toNat ≤ s'.totalWithdrawals.toNat ∧ s'.state = .closed := by
  obtain ⟨-,-,v,hv,-,rfl⟩ := close_eq_ok h
  have hvested : v.vested = s.vestedUnits clock.now := (s.vesting_eq_ok hv).1
  refine ⟨hw.of_frame ⟨rfl,rfl,rfl,rfl,rfl,rfl,rfl,rfl⟩ rfl nofun hw.cliffPercent_le (.inr rfl),
    ⟨rfl,rfl,rfl,rfl,rfl,rfl,rfl,rfl⟩,rfl,?_,rfl⟩
  simp only [hvested]
  exact s.totalWithdrawals_le_vestedUnits clock.now

theorem proposeUpdate_lifecycle {who : Pubkey} {terms : Terms} (hw : WellFormed s)
    (h : s.proposeUpdate who terms = .ok s') :
    WellFormed s' ∧ Keeps s s' ∧ s'.totalDeposits = s.totalDeposits ∧
      s'.totalWithdrawals = s.totalWithdrawals ∧ s'.state = s.state := by
  obtain ⟨-,cp,-,-,hc,hm,rfl⟩ := proposeUpdate_eq_ok h
  refine ⟨⟨hw.initialized,hw.state_ne_draft,hw.parties_ne,hw.cliffPercent_le,?_,?_⟩,
    ⟨rfl,rfl,rfl,rfl,rfl,rfl,rfl,rfl⟩,rfl,rfl,rfl⟩
  · rintro p ⟨⟩
    exact hm
  · rintro p ⟨⟩
    simpa [UInt64.le_iff_toNat_le] using hc

theorem answerUpdate_lifecycle {who : Pubkey} {approve : Bool} (hw : WellFormed s)
    (h : s.answerUpdate who approve clock = .ok s') :
    WellFormed s' ∧ Keeps s s' ∧ s'.totalDeposits = s.totalDeposits ∧
      s'.totalWithdrawals = s.totalWithdrawals ∧ s'.state = s.state := by
  obtain ⟨-,p,hp,-,h⟩ := answerUpdate_eq_ok h
  cases approve with
  | false =>
    simp only [Bool.false_eq_true, if_false] at h
    subst h
    exact ⟨hw.of_frame ⟨rfl,rfl,rfl,rfl,rfl,rfl,rfl,rfl⟩ rfl hw.state_ne_draft hw.cliffPercent_le
      (.inr rfl),⟨rfl,rfl,rfl,rfl,rfl,rfl,rfl,rfl⟩,rfl,rfl,rfl⟩
  | true =>
    simp only [if_true] at h
    obtain ⟨s1,h1,rfl⟩ := h
    have hframe : s1.state = s.state ∧ s1.terms = s.terms ∧ s1.totalDeposits = s.totalDeposits ∧
        s1.totalWithdrawals = s.totalWithdrawals ∧ s1.initialized = s.initialized ∧ Keeps s s1 := by
      split at h1
      · obtain ⟨s0,h0,rfl⟩ := h1
        obtain ⟨hst,hterms,hdep,hwd,-,hinit,hk⟩ := settleDepletion_frame h0
        exact ⟨hst,hterms,hdep,hwd,hinit,hk.trans ⟨rfl,rfl,rfl,rfl,rfl,rfl,rfl,rfl⟩⟩
      · rw [h1]
        exact ⟨rfl,rfl,rfl,rfl,rfl,Keeps.refl s⟩
    obtain ⟨hst,hterms,hdep,hwd,hinit,hk⟩ := hframe
    have hk' : Keeps s { s1 with terms := p.terms, pending := none } :=
      ⟨hk.1,hk.2,hk.3,hk.4,hk.5,hk.6,hk.7,(hw.pending_mint p hp).trans (hterms ▸ hk.8)⟩
    refine ⟨⟨hinit.trans hw.initialized,hst ▸ hw.state_ne_draft,?_,hw.pending_cliffPercent p hp,
      by simp,by simp⟩,hk',hdep,hwd,hst⟩
    rw [hk'.treasurer, hk'.beneficiary]
    exact hw.parties_ne

theorem create_wellFormed {treasurer beneficiaryToken treasury : Pubkey} {p : CreateParams}
    (h : Stream.create treasurer p beneficiaryToken treasury clock = .ok s) : s.WellFormed := by
  obtain ⟨hb,hc,-,rfl⟩ := create_eq_ok h
  refine ⟨rfl,nofun,fun he => hb he.symm,?_,nofun,nofun⟩
  simpa [opened, UInt64.le_iff_toNat_le, CreateParams.terms] using hc

end Stream

namespace Operation

variable {s s' : Stream} {clock : Clock} {c : Option Settlement}

theorem apply_of_closed (hi : s.initialized = true) (hc : s.state = .closed) (op : Operation) :
    op.apply s clock = .error (.program .streamClosed) := by
  have he := Stream.ensureOpen_of_closed hi hc
  cases op <;>
    simp [apply, Stream.addFunds, Stream.withdraw, Stream.pause, Stream.resume, Stream.close,
      Stream.proposeUpdate, Stream.answerUpdate, he] <;> rfl

/-- What a successful call does to the lifecycle of a well-formed record. -/
theorem apply_lifecycle {op : Operation} (hw : s.WellFormed) (h : op.apply s clock = .ok (c, s')) :
    s'.WellFormed ∧ s.Keeps s' ∧ s.totalDeposits.toNat ≤ s'.totalDeposits.toNat ∧
    s.totalWithdrawals.toNat ≤ s'.totalWithdrawals.toNat ∧
    (s'.state = .paused → s.state ≠ .paused → s.state = .active ∧ ∃ who, op = .pause who) ∧
    (s.state = .paused → s'.state = .active →
      (∃ who, op = .resume who) ∨ ∃ who amount, op = .addFunds who amount true) ∧
    (s'.state = .closed → s.state ≠ .closed → ∃ who, op = .close who) := by
  cases op with
  | addFunds who amount resume =>
    obtain ⟨-,h⟩ := apply_addFunds_eq_ok.mp h
    obtain ⟨hw',hk,hd,hwd,hst⟩ := Stream.addFunds_lifecycle hw h
    refine ⟨hw',hk,hd,hwd ▸ le_rfl,?_,?_,?_⟩ <;> rw [hst] <;>
      cases resume <;> cases s.state <;> simp
  | withdraw who amount =>
    obtain ⟨-,h⟩ := apply_withdraw_eq_ok.mp h
    obtain ⟨hw',hk,hd,hwd,hst⟩ := Stream.withdraw_lifecycle hw h
    refine ⟨hw',hk,hd ▸ le_rfl,hwd,?_,?_,?_⟩ <;> rw [hst] <;> cases s.state <;> simp
  | pause who =>
    obtain ⟨-,h⟩ := apply_pause_eq_ok.mp h
    obtain ⟨hw',hk,hd,hwd,hact,hst⟩ := Stream.pause_lifecycle hw h
    refine ⟨hw',hk,hd ▸ le_rfl,hwd ▸ le_rfl,?_,?_,?_⟩ <;> rw [hst, hact] <;> simp
  | resume who =>
    obtain ⟨-,h⟩ := apply_resume_eq_ok.mp h
    obtain ⟨hw',hk,hd,hwd,hst⟩ := Stream.resume_lifecycle hw h
    rcases hst with hst | ⟨hp,hst⟩
    · refine ⟨hw',hk,hd ▸ le_rfl,hwd ▸ le_rfl,?_,?_,?_⟩ <;> rw [hst] <;> cases s.state <;> simp
    · refine ⟨hw',hk,hd ▸ le_rfl,hwd ▸ le_rfl,?_,?_,?_⟩ <;> rw [hst, hp] <;> simp
  | close who =>
    obtain ⟨st,h,-⟩ := apply_close_eq_ok.mp h
    obtain ⟨hw',hk,hd,hwd,hst⟩ := Stream.close_lifecycle hw h
    refine ⟨hw',hk,hd ▸ le_rfl,hwd,?_,?_,?_⟩ <;> rw [hst] <;> simp
  | proposeUpdate who terms =>
    obtain ⟨-,h⟩ := apply_proposeUpdate_eq_ok.mp h
    obtain ⟨hw',hk,hd,hwd,hst⟩ := Stream.proposeUpdate_lifecycle hw h
    refine ⟨hw',hk,hd ▸ le_rfl,hwd ▸ le_rfl,?_,?_,?_⟩ <;> rw [hst] <;> cases s.state <;> simp
  | answerUpdate who approve =>
    obtain ⟨-,h⟩ := apply_answerUpdate_eq_ok.mp h
    obtain ⟨hw',hk,hd,hwd,hst⟩ := Stream.answerUpdate_lifecycle hw h
    refine ⟨hw',hk,hd ▸ le_rfl,hwd ▸ le_rfl,?_,?_,?_⟩ <;> rw [hst] <;> cases s.state <;> simp

def movesFunds : Operation → Bool
  | .addFunds .. | .withdraw .. | .close _ => true
  | .pause _ | .resume _ | .proposeUpdate .. | .answerUpdate .. => false

theorem apply_keeps_totals {op : Operation} (hw : s.WellFormed) (hm : op.movesFunds = false)
    (h : op.apply s clock = .ok (c, s')) :
    s'.totalDeposits = s.totalDeposits ∧ s'.totalWithdrawals = s.totalWithdrawals := by
  cases op with
  | pause who =>
    obtain ⟨-,-,hd,hwd,-⟩ := Stream.pause_lifecycle hw (apply_pause_eq_ok.mp h).2
    exact ⟨hd,hwd⟩
  | resume who =>
    obtain ⟨-,-,hd,hwd,-⟩ := Stream.resume_lifecycle hw (apply_resume_eq_ok.mp h).2
    exact ⟨hd,hwd⟩
  | proposeUpdate who terms =>
    obtain ⟨-,-,hd,hwd,-⟩ := Stream.proposeUpdate_lifecycle hw (apply_proposeUpdate_eq_ok.mp h).2
    exact ⟨hd,hwd⟩
  | answerUpdate who approve =>
    obtain ⟨-,-,hd,hwd,-⟩ := Stream.answerUpdate_lifecycle hw (apply_answerUpdate_eq_ok.mp h).2
    exact ⟨hd,hwd⟩
  | addFunds _ _ _ | withdraw _ _ | close _ => cases hm

end Operation

namespace Stream

variable {s : Stream}

theorem perform_lifecycle (hw : s.WellFormed) (clock : Clock) (op : Operation) :
    s.totalDeposits.toNat ≤ (op.perform s clock).2.totalDeposits.toNat ∧
    s.totalWithdrawals.toNat ≤ (op.perform s clock).2.totalWithdrawals.toNat ∧
    ((op.perform s clock).2.state = .paused → s.state ≠ .paused →
      s.state = .active ∧ ∃ who, op = .pause who) ∧
    (s.state = .paused → (op.perform s clock).2.state = .active →
      (∃ who, op = .resume who) ∨ ∃ who amount, op = .addFunds who amount true) ∧
    ((op.perform s clock).2.state = .closed → s.state ≠ .closed → ∃ who, op = .close who) ∧
    (s.state = .closed → op.perform s clock = (.error (.program .streamClosed), s)) := by
  have hclosed (hc : s.state = .closed) : op.perform s clock = (.error (.program .streamClosed), s) :=
    Operation.perform_error (Operation.apply_of_closed hw.initialized hc op)
  rcases Operation.perform_snd_cases op s clock with h | ⟨c,h⟩
  · rw [h]
    exact ⟨le_rfl,le_rfl,fun h1 h2 => absurd h1 h2,fun h1 h2 => by simp [h1] at h2,
      fun h1 h2 => absurd h1 h2,hclosed⟩
  · obtain ⟨-,-,hd,hwd,h1,h2,h3⟩ := Operation.apply_lifecycle hw h
    exact ⟨hd,hwd,h1,h2,h3,hclosed⟩

/-- A property that every accepted call on a well-formed record keeps holds after every run:
refused calls leave the record as it was. -/
theorem replay_invariant {P : Stream → Prop}
    (hstep : ∀ {s s' : Stream} {clock : Clock} {op : Operation} {c : Option Settlement},
      s.WellFormed → P s → op.apply s clock = .ok (c, s') → P s')
    (hw : s.WellFormed) (hp : P s) (run : List (Clock × Operation)) : P (s.replay run) := by
  induction run generalizing s with
  | nil => exact hp
  | cons e run ih =>
    obtain ⟨clock,op⟩ := e
    have hw1 : (op.perform s clock).2.WellFormed :=
      Operation.perform_of_apply hw fun _ _ h => (Operation.apply_lifecycle hw h).1
    have hp1 : P (op.perform s clock).2 := Operation.perform_of_apply hp fun _ _ h => hstep hw hp h
    rw [replay_cons]
    exact ih hw1 hp1

theorem replay_wellFormed (hw : s.WellFormed) (run : List (Clock × Operation)) :
    (s.replay run).WellFormed ∧ s.Keeps (s.replay run) := by
  refine replay_invariant (P := fun s' => s'.WellFormed ∧ s.Keeps s') ?_ hw ⟨hw,Keeps.refl s⟩ run
  intro s1 s2 clock op c hw1 hp h
  obtain ⟨hw2,hk,-⟩ := Operation.apply_lifecycle hw1 h
  exact ⟨hw2,hp.2.trans hk⟩

/-- The lifecycle of every stream: along any run of calls from its creation, at any clocks and
by anyone, refused calls included, the record stays initialized and active, paused or closed,
its parties differ, its cliff percent is a whole percent, and its parties, accounts, nonce,
bump, start and mint are those it was created with. From there no call lowers the deposits or
the withdrawals, only `pause` pauses and only an active stream, only `resume` or a deposit that
asks for it resumes, only `close` closes, and a closed stream refuses every call and stays as
it is. -/
theorem lifecycle_invariants {treasurer beneficiaryToken treasury : Pubkey} {p : CreateParams}
    {c0 : Clock} {s0 : Stream} (hc : Stream.create treasurer p beneficiaryToken treasury c0 = .ok s0)
    (run : List (Clock × Operation)) :
    let s := s0.replay run
    (s.initialized = true ∧ (s.state = .active ∨ s.state = .paused ∨ s.state = .closed) ∧
      s.treasurer ≠ s.beneficiary ∧ s.terms.cliffPercent.toNat ≤ 100 ∧ s0.Keeps s) ∧
    ∀ (clock : Clock) (op : Operation),
      s.totalDeposits.toNat ≤ (op.perform s clock).2.totalDeposits.toNat ∧
      s.totalWithdrawals.toNat ≤ (op.perform s clock).2.totalWithdrawals.toNat ∧
      ((op.perform s clock).2.state = .paused → s.state ≠ .paused →
        s.state = .active ∧ ∃ who, op = .pause who) ∧
      (s.state = .paused → (op.perform s clock).2.state = .active →
        (∃ who, op = .resume who) ∨ ∃ who amount, op = .addFunds who amount true) ∧
      ((op.perform s clock).2.state = .closed → s.state ≠ .closed → ∃ who, op = .close who) ∧
      (s.state = .closed → op.perform s clock = (.error (.program .streamClosed), s)) := by
  intro s
  obtain ⟨hw,hk⟩ := replay_wellFormed (create_wellFormed hc) run
  refine ⟨⟨hw.initialized,?_,hw.parties_ne,hw.cliffPercent_le,hk⟩,perform_lifecycle hw⟩
  have hd : s.state ≠ .draft := hw.state_ne_draft
  revert hd
  cases s.state <;> simp

end Stream

def CreateParams.hourly : CreateParams :=
  { (default : CreateParams) with
    beneficiary := ⟨Vector.replicate 32 1⟩, funding := 1000, rateAmount := 100, rateInterval := 3600 }

namespace Stream

/-- The lifecycle invariants at the hourly stream paused at once by its treasurer: it becomes
active again only by a resume or a deposit that asks for one. -/
theorem lifecycle_invariants_of_created :
    let s0 := opened Pubkey.zero .hourly Pubkey.zero Pubkey.zero ⟨0, 0⟩
    let s := s0.replay [(⟨0, 5⟩, .pause Pubkey.zero)]
    Stream.create Pubkey.zero .hourly Pubkey.zero Pubkey.zero ⟨0, 0⟩ = .ok s0 ∧ s.state = .paused ∧
      (s.initialized = true ∧ (s.state = .active ∨ s.state = .paused ∨ s.state = .closed) ∧
        s.treasurer ≠ s.beneficiary ∧ s.terms.cliffPercent.toNat ≤ 100 ∧ s0.Keeps s) ∧
      ∀ (clock : Clock) (op : Operation), (op.perform s clock).2.state = .active →
        (∃ who, op = .resume who) ∨ ∃ who amount, op = .addFunds who amount true := by
  intro s0 s
  have hc : Stream.create Pubkey.zero .hourly Pubkey.zero Pubkey.zero ⟨0, 0⟩ = .ok s0 :=
    create_of_checks (by decide) (by decide) (by decide)
  have hp : s.state = .paused := by decide
  obtain ⟨hinv,hstep⟩ := lifecycle_invariants hc [(⟨0, 5⟩, .pause Pubkey.zero)]
  refine ⟨hc,hp,hinv,fun clock op => ?_⟩
  obtain ⟨-,-,-,hresume,-⟩ := hstep clock op
  exact hresume hp

end Stream

end MoneyStream
