import MoneyStream.Proofs.Invariants
/-! # Renegotiating terms

Either party of a stream may propose a full set of new terms, and only the other party may
answer. Along every run of calls from a creation, whoever makes them, a pending proposal sits
on a stream that is not closed, was made by one party and is answered by the other, keeps the
mint and proposes a whole-percent cliff. A second proposal is refused while one is pending.
The terms change only through an accepted approval, which puts the proposed set in place at
once and clears the proposal; a deposit may freeze a percent cliff into an amount, and touches
no other term. A proposal rejected right away leaves the record exactly as it was.
-/
namespace MoneyStream

namespace Terms

/-- Two sets of terms that agree off the cliff: the memo, the mint, the rate and its interval,
the cliff's length and the auto-pause threshold are the same; the cliff amount and percent may
differ. -/
structure AgreeOffCliff (t t' : Terms) : Prop where
  memo : t'.memo = t.memo
  mint : t'.mint = t.mint
  rateAmount : t'.rateAmount = t.rateAmount
  rateInterval : t'.rateInterval = t.rateInterval
  cliffSeconds : t'.cliffSeconds = t.cliffSeconds
  autoPauseSeconds : t'.autoPauseSeconds = t.autoPauseSeconds

theorem AgreeOffCliff.refl (t : Terms) : t.AgreeOffCliff t := ⟨rfl,rfl,rfl,rfl,rfl,rfl⟩

theorem AgreeOffCliff.of_eq {t t' : Terms} (h : t' = t) : t.AgreeOffCliff t' := by
  rw [h]
  exact AgreeOffCliff.refl t

end Terms

namespace Stream

variable {s s1 s' : Stream} {clock : Clock} {who : Pubkey}

/-- A pending proposal sits on a stream that is not closed; one party made it and the other
answers it. -/
def ProposalSound (s : Stream) : Prop :=
  ∀ p, s.pending = some p → s.state ≠ .closed ∧
    ((p.proposedBy = s.treasurer ∧ p.counterparty = s.beneficiary) ∨
      (p.proposedBy = s.beneficiary ∧ p.counterparty = s.treasurer))

theorem ProposalSound.of_none (h : s.pending = none) : s.ProposalSound := by
  intro p hp
  simp [h] at hp

theorem ProposalSound.of_frame (hp : s.ProposalSound) (hk : s.Keeps s')
    (hpend : s'.pending = s.pending) (hst : s.state ≠ .closed → s'.state ≠ .closed) :
    s'.ProposalSound := by
  intro p h
  obtain ⟨hc,hpar⟩ := hp p (hpend ▸ h)
  rw [hk.treasurer, hk.beneficiary]
  exact ⟨hst hc,hpar⟩

theorem create_pending {treasurer beneficiaryToken treasury : Pubkey} {p : CreateParams}
    (h : Stream.create treasurer p beneficiaryToken treasury clock = .ok s) : s.pending = none := by
  obtain ⟨-,-,-,rfl⟩ := create_eq_ok h
  rfl

theorem freezeCliffAt_negotiation (now : UInt64) :
    (s.freezeCliffAt now).pending = s.pending ∧ s.terms.AgreeOffCliff (s.freezeCliffAt now).terms := by
  unfold freezeCliffAt
  split
  · exact ⟨rfl,⟨rfl,rfl,rfl,rfl,rfl,rfl⟩⟩
  · exact ⟨rfl,.refl _⟩

theorem addFunds_negotiation {amount : UInt64} {resume : Bool}
    (h : s.addFunds who amount resume clock = .ok s') :
    s'.pending = s.pending ∧ s.terms.AgreeOffCliff s'.terms := by
  obtain ⟨-,-,-,s1,deposits,hs1,-,hr⟩ := addFunds_eq_ok h
  obtain ⟨-,hterms1,-,-,hpend1,-⟩ := settleDepletion_frame hs1
  obtain ⟨hpend2,hagree⟩ := freezeCliffAt_negotiation (s := s1) clock.now
  rw [hterms1] at hagree
  split at hr
  · obtain ⟨-,hterms3,-,-,hpend3,-⟩ := applyResume_frame hr
    rw [hterms3, hpend3]
    exact ⟨hpend2.trans hpend1,hagree⟩
  · rw [hr]
    exact ⟨hpend2.trans hpend1,hagree⟩

theorem withdraw_negotiation {amount : UInt64} (h : s.withdraw who amount clock = .ok s') :
    s'.pending = s.pending ∧ s'.terms = s.terms := by
  obtain ⟨-,-,-,-,w,-,rfl⟩ := withdraw_eq_ok.mp h
  exact ⟨rfl,rfl⟩

theorem pause_negotiation (h : s.pause who clock = .ok s') :
    s'.pending = s.pending ∧ s'.terms = s.terms := by
  obtain ⟨-,-,-,s1,hs1,rfl⟩ := pause_eq_ok h
  obtain ⟨-,hterms1,-,-,hpend1,-⟩ := settleDepletion_frame hs1
  exact ⟨hpend1,hterms1⟩

theorem resume_negotiation (h : s.resume who clock = .ok s') :
    s'.pending = s.pending ∧ s'.terms = s.terms := by
  obtain ⟨-,-,⟨-,hr⟩ | ⟨-,-,rfl⟩⟩ := resume_eq_ok h
  · obtain ⟨-,hterms,-,-,hpend,-⟩ := applyResume_frame hr
    exact ⟨hpend,hterms⟩
  · exact ⟨rfl,rfl⟩

theorem close_negotiation {c : Settlement} (h : s.close who clock = .ok (c, s')) :
    s'.pending = none ∧ s'.terms = s.terms := by
  obtain ⟨-,-,v,-,-,rfl⟩ := close_eq_ok h
  exact ⟨rfl,rfl⟩

theorem answerUpdate_negotiation {approve : Bool} (h : s.answerUpdate who approve clock = .ok s') :
    ∃ p, s.pending = some p ∧ who = p.counterparty ∧ s'.pending = none ∧
      s'.terms = if approve then p.terms else s.terms := by
  obtain ⟨-,p,hp,hw,h⟩ := answerUpdate_eq_ok h
  refine ⟨p,hp,hw,?_⟩
  cases approve with
  | false =>
    simp only [Bool.false_eq_true, if_false] at h ⊢
    rw [h]
    exact ⟨rfl,rfl⟩
  | true =>
    simp only [if_true] at h ⊢
    obtain ⟨s1,-,rfl⟩ := h
    exact ⟨rfl,rfl⟩

theorem proposeUpdate_refused_of_pending (h : s.pending.isSome) (terms : Terms) (s' : Stream) :
    s.proposeUpdate who terms ≠ .ok s' := by
  intro hs
  obtain ⟨-,-,-,hn,-⟩ := proposeUpdate_eq_ok hs
  simp [hn] at h

theorem reject_restores {terms : Terms} {who' : Pubkey} (h1 : s.proposeUpdate who terms = .ok s1)
    (h2 : s1.answerUpdate who' false clock = .ok s') : s' = s := by
  obtain ⟨-,cp,-,hn,-,-,rfl⟩ := proposeUpdate_eq_ok h1
  obtain ⟨-,p,-,-,h⟩ := answerUpdate_eq_ok h2
  simp only [Bool.false_eq_true, if_false] at h
  rw [h, ← hn]

end Stream

namespace Operation

variable {s s' : Stream} {clock : Clock} {c : Option Settlement} {op : Operation}

/-- A successful call leaves the terms as they were off the cliff, unless it is an approval
accepted on the record. -/
theorem apply_terms (h : op.apply s clock = .ok (c, s')) :
    s.terms.AgreeOffCliff s'.terms ∨
      ∃ who, op = .answerUpdate who true ∧ s.answerUpdate who true clock = .ok s' := by
  cases op with
  | addFunds who amount resume =>
    exact .inl (Stream.addFunds_negotiation (apply_addFunds_eq_ok.mp h).2).2
  | withdraw who amount =>
    exact .inl (.of_eq (Stream.withdraw_negotiation (apply_withdraw_eq_ok.mp h).2).2)
  | pause who => exact .inl (.of_eq (Stream.pause_negotiation (apply_pause_eq_ok.mp h).2).2)
  | resume who => exact .inl (.of_eq (Stream.resume_negotiation (apply_resume_eq_ok.mp h).2).2)
  | close who =>
    obtain ⟨st,hst,-⟩ := apply_close_eq_ok.mp h
    exact .inl (.of_eq (Stream.close_negotiation hst).2)
  | proposeUpdate who terms =>
    obtain ⟨-,cp,-,-,-,-,rfl⟩ := Stream.proposeUpdate_eq_ok (apply_proposeUpdate_eq_ok.mp h).2
    exact .inl (.refl _)
  | answerUpdate who approve =>
    have ha := (apply_answerUpdate_eq_ok.mp h).2
    cases approve with
    | true => exact .inr ⟨who,rfl,ha⟩
    | false =>
      obtain ⟨p,-,-,-,ht⟩ := Stream.answerUpdate_negotiation ha
      exact .inl (.of_eq (by simpa using ht))

theorem apply_proposalSound (hw : s.WellFormed) (hp : s.ProposalSound)
    (h : op.apply s clock = .ok (c, s')) : s'.ProposalSound := by
  obtain ⟨-,hk,-⟩ := apply_lifecycle hw h
  cases op with
  | addFunds who amount resume =>
    have ha := (apply_addFunds_eq_ok.mp h).2
    obtain ⟨-,-,-,-,hst⟩ := Stream.addFunds_lifecycle hw ha
    refine hp.of_frame hk (Stream.addFunds_negotiation ha).1 fun hc => ?_
    rw [hst]
    split <;> simp [hc]
  | withdraw who amount =>
    have ha := (apply_withdraw_eq_ok.mp h).2
    obtain ⟨-,-,-,-,hst⟩ := Stream.withdraw_lifecycle hw ha
    exact hp.of_frame hk (Stream.withdraw_negotiation ha).1 fun hc => by rwa [hst]
  | pause who =>
    have ha := (apply_pause_eq_ok.mp h).2
    obtain ⟨-,-,-,-,-,hst⟩ := Stream.pause_lifecycle hw ha
    exact hp.of_frame hk (Stream.pause_negotiation ha).1 fun _ => by simp [hst]
  | resume who =>
    have ha := (apply_resume_eq_ok.mp h).2
    obtain ⟨-,-,-,-,hst⟩ := Stream.resume_lifecycle hw ha
    refine hp.of_frame hk (Stream.resume_negotiation ha).1 fun hc => ?_
    rcases hst with hst | ⟨-,hst⟩ <;> simp [hst, hc]
  | close who =>
    obtain ⟨st,hst,-⟩ := apply_close_eq_ok.mp h
    exact .of_none (Stream.close_negotiation hst).1
  | proposeUpdate who terms =>
    obtain ⟨ho,cp,hcp,-,-,-,rfl⟩ := Stream.proposeUpdate_eq_ok (apply_proposeUpdate_eq_ok.mp h).2
    rintro p ⟨⟩
    exact ⟨(Stream.ensureOpen_eq_ok.mp ho).2.2,Stream.counterpartyOf_eq_some hcp⟩
  | answerUpdate who approve =>
    obtain ⟨p,-,-,hn,-⟩ := Stream.answerUpdate_negotiation (apply_answerUpdate_eq_ok.mp h).2
    exact .of_none hn

end Operation

namespace Stream

variable {s : Stream}

theorem perform_terms (op : Operation) (s : Stream) (clock : Clock) :
    s.terms.AgreeOffCliff (op.perform s clock).2.terms ∨
      ∃ who, op = .answerUpdate who true ∧ s.answerUpdate who true clock = .ok (op.perform s clock).2 := by
  rcases Operation.perform_snd_cases op s clock with h | ⟨c,h⟩
  · rw [h]
    exact .inl (.refl _)
  · exact Operation.apply_terms h

/-- Renegotiation along every run of calls from a creation, at any clocks and by anyone, refused
calls included. A pending proposal sits on a stream that is not closed, was made by one party and
is answered by the other, keeps the stream's mint and proposes a whole-percent cliff. From there,
a second proposal is refused; an answer is accepted only from the counterparty and clears the
proposal, an approval putting the proposed terms in place; no call changes the memo, the mint,
the rate, its interval, the cliff's length or the auto-pause threshold except an accepted
approval; and a proposal rejected right away gives back the record as it was. -/
theorem renegotiation_invariants {treasurer beneficiaryToken treasury : Pubkey} {p0 : CreateParams}
    {c0 : Clock} {s0 : Stream} (hc : Stream.create treasurer p0 beneficiaryToken treasury c0 = .ok s0)
    (run : List (Clock × Operation)) :
    let s := s0.replay run
    (∀ p, s.pending = some p → s.state ≠ .closed ∧
      ((p.proposedBy = s.treasurer ∧ p.counterparty = s.beneficiary) ∨
        (p.proposedBy = s.beneficiary ∧ p.counterparty = s.treasurer)) ∧
      p.proposedBy ≠ p.counterparty ∧ p.terms.mint = s.terms.mint ∧
      p.terms.cliffPercent.toNat ≤ 100) ∧
    ∀ clock : Clock,
      (∀ who terms s', s.pending.isSome → s.proposeUpdate who terms ≠ .ok s') ∧
      (∀ who approve s', s.answerUpdate who approve clock = .ok s' →
        ∃ p, s.pending = some p ∧ who = p.counterparty ∧ s'.pending = none ∧
          s'.terms = if approve then p.terms else s.terms) ∧
      (∀ op : Operation, s.terms.AgreeOffCliff (op.perform s clock).2.terms ∨
        ∃ who, op = .answerUpdate who true ∧
          s.answerUpdate who true clock = .ok (op.perform s clock).2) ∧
      (∀ who terms s1 who' s', s.proposeUpdate who terms = .ok s1 →
        s1.answerUpdate who' false clock = .ok s' → s' = s) := by
  intro s
  have hw0 := create_wellFormed hc
  have hw : s.WellFormed := (replay_wellFormed hw0 run).1
  have hp : s.ProposalSound :=
    replay_invariant (P := ProposalSound) (fun hw hp h => Operation.apply_proposalSound hw hp h) hw0
      (.of_none (create_pending hc)) run
  refine ⟨fun p hq => ?_,fun clock => ⟨fun who terms s' h => proposeUpdate_refused_of_pending h terms s',
    fun who approve s' h => answerUpdate_negotiation h,fun op => perform_terms op s clock,
    fun who terms s1 who' s' h1 h2 => reject_restores h1 h2⟩⟩
  obtain ⟨hopen,hpar⟩ := hp p hq
  -- the two parties differ, so the proposer is never the counterparty
  have hne : p.proposedBy ≠ p.counterparty := by
    rcases hpar with ⟨h1,h2⟩ | ⟨h1,h2⟩ <;> rw [h1, h2]
    · exact hw.parties_ne
    · exact fun h => hw.parties_ne h.symm
  exact ⟨hopen,hpar,hne,hw.pending_mint p hq,hw.pending_cliffPercent p hq⟩

/-- The renegotiation invariants at the hourly stream on which the treasurer has proposed to keep
its terms: the proposal is sound, and a second one is refused. -/
theorem renegotiation_invariants_of_proposed :
    let s0 := opened Pubkey.zero .hourly Pubkey.zero Pubkey.zero ⟨0, 0⟩
    let s := s0.replay [(⟨0, 5⟩, .proposeUpdate Pubkey.zero CreateParams.hourly.terms)]
    Stream.create Pubkey.zero .hourly Pubkey.zero Pubkey.zero ⟨0, 0⟩ = .ok s0 ∧ s.pending.isSome ∧
      (∀ p, s.pending = some p → s.state ≠ .closed ∧
        ((p.proposedBy = s.treasurer ∧ p.counterparty = s.beneficiary) ∨
          (p.proposedBy = s.beneficiary ∧ p.counterparty = s.treasurer)) ∧
        p.proposedBy ≠ p.counterparty ∧ p.terms.mint = s.terms.mint ∧
        p.terms.cliffPercent.toNat ≤ 100) ∧
      ∀ who terms s', s.proposeUpdate who terms ≠ .ok s' := by
  intro s0 s
  have hc : Stream.create Pubkey.zero .hourly Pubkey.zero Pubkey.zero ⟨0, 0⟩ = .ok s0 :=
    create_of_checks (by decide) (by decide) (by decide)
  have hsome : s.pending.isSome := by decide
  obtain ⟨hsound,hstep⟩ :=
    renegotiation_invariants hc [(⟨0, 5⟩, .proposeUpdate Pubkey.zero CreateParams.hourly.terms)]
  exact ⟨hc,hsome,hsound,fun who terms s' => (hstep ⟨0, 5⟩).1 who terms s' hsome⟩

end Stream

end MoneyStream
