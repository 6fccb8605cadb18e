import MoneyStream.Operation
import MoneyStream.Proofs.Accrual
/-! # What a call does

One lemma per call says what a call that succeeds has checked and what it wrote. Proofs about
runs read these lemmas and never unfold a call. A small simp set takes a successful computation
in `Except` apart, one check at a time.
-/
namespace MoneyStream

section Success

variable {ε ε' α β : Type}

@[simp] theorem bind_eq_ok {x : Except ε α} {f : α → Except ε β} {b : β} :
    (x >>= f) = .ok b ↔ ∃ a, x = .ok a ∧ f a = .ok b := by
  cases x <;> simp [bind, Except.bind]

@[simp] theorem map_eq_ok {x : Except ε α} {f : α → β} {b : β} :
    (f <$> x) = .ok b ↔ ∃ a, x = .ok a ∧ f a = b := by
  cases x <;> simp [Functor.map, Except.map]

@[simp] theorem except_map_eq_ok {x : Except ε α} {f : α → β} {b : β} :
    x.map f = .ok b ↔ ∃ a, x = .ok a ∧ f a = b := by
  cases x <;> simp [Except.map]

@[simp] theorem mapError_eq_ok {x : Except ε α} {f : ε → ε'} {b : α} :
    x.mapError f = .ok b ↔ x = .ok b := by
  cases x <;> simp [Except.mapError]

@[simp] theorem throw_bind {e : ε} {f : α → Except ε β} : (throw e >>= f) = throw e := rfl

@[simp] theorem throw_ne_ok {e : ε} {a : α} : (throw e : Except ε α) ≠ .ok a := by
  simp [throw, throwThe, MonadExceptOf.throw]

@[simp] theorem pure_eq_ok {a b : α} : (pure a : Except ε α) = .ok b ↔ a = b := by
  simp [pure, Except.pure]

@[simp] theorem ite_throw_eq_ok {p : Prop} [Decidable p] {e : ε} {x : Except ε α} {b : α} :
    (if p then throw e else x) = .ok b ↔ ¬ p ∧ x = .ok b := by
  by_cases hp : p <;> simp [hp]

@[simp] theorem elim_throw_pure_eq_ok {o : Option α} {e : ε} {b : α} :
    (o.elim (throw e) pure : Except ε α) = .ok b ↔ o = some b := by
  cases o <;> simp

end Success

namespace Stream

variable {s s' : Stream} {clock : Clock}

theorem ensureOpen_eq_ok {u : Unit} :
    s.ensureOpen = .ok u ↔ s.initialized = true ∧ s.state ≠ .draft ∧ s.state ≠ .closed := by
  unfold ensureOpen
  by_cases hi : s.initialized = true <;> by_cases hd : s.state = .draft <;>
    by_cases hc : s.state = .closed <;> simp_all

theorem ensureOpen_of_closed (hi : s.initialized = true) (hc : s.state = .closed) :
    s.ensureOpen = .error .streamClosed := by
  simp [ensureOpen, hi, hc]

theorem ensureParty_eq_ok {who : Pubkey} {u : Unit} :
    s.ensureParty who = .ok u ↔ who = s.treasurer ∨ who = s.beneficiary := by
  unfold ensureParty
  by_cases ht : who = s.treasurer <;> by_cases hb : who = s.beneficiary <;> simp_all

theorem counterpartyOf_eq_some {who cp : Pubkey} (h : s.counterpartyOf who = some cp) :
    (who = s.treasurer ∧ cp = s.beneficiary) ∨ (who = s.beneficiary ∧ cp = s.treasurer) := by
  unfold counterpartyOf at h
  split at h
  · cases h
    exact .inl ⟨by assumption,rfl⟩
  · split at h
    · cases h
      exact .inr ⟨by assumption,rfl⟩
    · cases h

/-- The record an accepted creation writes: an active stream on the parameters' terms and
funding, running from the later of the requested start and the creation instant, with nothing
withdrawn, snapshotted or paused yet. -/
def opened (treasurer : Pubkey) (p : CreateParams) (beneficiaryToken treasury : Pubkey)
    (clock : Clock) : Stream where
  initialized := true
  state := .active
  bump := p.streamBump
  nonce := p.nonce
  treasurer := treasurer
  beneficiary := p.beneficiary
  beneficiaryToken := beneficiaryToken
  treasury := treasury
  terms := p.terms
  start := max p.start clock.now
  totalDeposits := p.funding
  totalWithdrawals := 0
  snapshotUnits := 0
  snapshotSlot := 0
  snapshotTime := 0
  resumeSlot := 0
  resumeTime := 0
  pausedSeconds := 0
  pending := none

/-- A creation that is accepted names a beneficiary other than the treasurer, a whole-percent
cliff and a cliff amount within a positive funding, and writes the opened record. -/
theorem create_eq_ok {treasurer beneficiaryToken treasury : Pubkey} {p : CreateParams}
    (h : Stream.create treasurer p beneficiaryToken treasury clock = .ok s) :
    p.beneficiary ≠ treasurer ∧ p.cliffPercent ≤ 100 ∧ ¬ (p.funding > 0 ∧ p.cliffAmount > p.funding) ∧
    s = opened treasurer p beneficiaryToken treasury clock := by
  unfold Stream.create at h
  split at h
  · cases h
  · rename_i hb
    split at h
    · cases h
    · rename_i hc
      split at h
      · cases h
      · rename_i ha
        exact ⟨hb, UInt64.not_lt.mp hc, ha, (Except.ok.inj h).symm⟩

theorem create_of_checks {treasurer beneficiaryToken treasury : Pubkey} {p : CreateParams}
    (hb : p.beneficiary ≠ treasurer) (hc : p.cliffPercent ≤ 100)
    (ha : ¬ (p.funding > 0 ∧ p.cliffAmount > p.funding)) :
    Stream.create treasurer p beneficiaryToken treasury clock =
      .ok (opened treasurer p beneficiaryToken treasury clock) := by
  rw [Stream.create, if_neg hb, if_neg (UInt64.not_lt.mpr hc), if_neg ha]
  rfl

theorem create_fresh {treasurer beneficiaryToken treasury : Pubkey} {p : CreateParams}
    (h : Stream.create treasurer p beneficiaryToken treasury clock = .ok s) :
    s.state = .active ∧ s.start = max p.start clock.now ∧ s.terms = p.terms ∧
      s.totalDeposits = p.funding ∧ s.totalWithdrawals = 0 ∧ s.snapshotUnits = 0 ∧
      s.snapshotTime = 0 ∧ s.resumeTime = 0 ∧ s.pausedSeconds = 0 := by
  obtain ⟨-,-,-,rfl⟩ := create_eq_ok h
  exact ⟨rfl,rfl,rfl,rfl,rfl,rfl,rfl,rfl,rfl⟩

theorem settleDepletion_cases (h : s.settleDepletion clock = .ok s') :
    s' = s ∨ (s.isDepleted clock.now = true ∧ ∃ paused,
      Word.add? s.pausedSeconds (s.effectiveTime clock.now -
        s.effectiveTime (min (s.depletionTime.getD clock.now) clock.now)) = some paused ∧
      s' = ({ s with pausedSeconds := paused }).rebase
        (s.snapshotAt (min (s.depletionTime.getD clock.now) clock.now)) clock) := by
  simp only [settleDepletion] at h
  split at h
  · cases h
    exact .inl rfl
  · rename_i hd
    simp only [Bool.not_eq_true', Bool.not_eq_false] at hd
    split at h
    · cases h
    · rename_i paused hp
      cases h
      exact .inr ⟨hd,paused,hp,rfl⟩

theorem applyResume_eq_ok : s.applyResume clock = .ok s' ↔ ∃ paused,
    Word.add? s.pausedSeconds (s.effectiveTime clock.now -
      s.effectiveTime (min s.snapshotTime clock.now)) = some paused ∧
    s' = { s with pausedSeconds := paused, resumeSlot := clock.slot, resumeTime := clock.now,
                  state := .active } := by
  simp only [applyResume]
  split
  · rename_i hn
    simp [hn]
  · rename_i paused hp
    simp only [hp, Except.ok.injEq, Option.some.injEq, exists_eq_left']
    exact ⟨fun h => h.symm,fun h => h.symm⟩

/-- The record `addFunds` deposits into: a percent cliff the stream has reached is frozen. -/
def freezeCliffAt (s : Stream) (now : UInt64) : Stream :=
  if s.terms.cliffPercent > 0 ∧ now ≥ s.start ∧ s.activeSeconds now ≥ s.terms.cliffSeconds
  then s.saveEffectiveCliff else s

@[simp] theorem freezeCliffAt_state (now : UInt64) : (s.freezeCliffAt now).state = s.state := by
  unfold freezeCliffAt; split <;> rfl

theorem addFunds_eq_ok {who : Pubkey} {amount : UInt64} {resume : Bool}
    (h : s.addFunds who amount resume clock = .ok s') :
    s.ensureOpen = .ok () ∧ amount ≠ 0 ∧ (resume = true → s.ensureParty who = .ok ()) ∧
    ∃ s1 deposits, s.settleDepletion clock = .ok s1 ∧
      Word.add? (s1.freezeCliffAt clock.now).totalDeposits amount = some deposits ∧
      if resume = true ∧ s1.state = .paused then
        ({ s1.freezeCliffAt clock.now with totalDeposits := deposits }).applyResume clock = .ok s'
      else s' = { s1.freezeCliffAt clock.now with totalDeposits := deposits } := by
  simp only [addFunds, bind_eq_ok, throw_bind, ite_throw_eq_ok] at h
  obtain ⟨u,ho,hz,h⟩ := h
  cases resume with
  | false =>
    simp only [Bool.false_eq_true, if_false, bind_eq_ok, elim_throw_pure_eq_ok, false_and,
      pure_eq_ok] at h
    obtain ⟨s1,hs1,deposits,hd,rfl⟩ := h
    exact ⟨ho,hz,nofun,s1,deposits,hs1,hd,rfl⟩
  | true =>
    simp only [if_true, bind_eq_ok, elim_throw_pure_eq_ok, true_and] at h
    obtain ⟨v,hp,s1,hs1,deposits,hd,h⟩ := h
    refine ⟨ho,hz,fun _ => hp,s1,deposits,hs1,hd,?_⟩
    change (if (s1.freezeCliffAt clock.now).state = .paused
      then ({ s1.freezeCliffAt clock.now with totalDeposits := deposits }).applyResume clock
      else pure { s1.freezeCliffAt clock.now with totalDeposits := deposits }) = .ok s' at h
    rw [freezeCliffAt_state] at h
    by_cases hps : s1.state = .paused
    · simpa [hps] using h
    · simp only [hps, if_false, pure_eq_ok, and_false] at h ⊢
      exact h.symm

theorem withdraw_eq_ok {who : Pubkey} {amount : UInt64} :
    s.withdraw who amount clock = .ok s' ↔ s.ensureOpen = .ok () ∧ who = s.beneficiary ∧ amount ≠ 0 ∧
      amount ≤ s.withdrawableAmount clock.now ∧
      ∃ w, Word.add? s.totalWithdrawals amount = some w ∧ s' = { s with totalWithdrawals := w } := by
  simp only [withdraw, bind_eq_ok, throw_bind, ite_throw_eq_ok, elim_throw_pure_eq_ok, pure_eq_ok,
    ne_eq, Decidable.not_not, gt_iff_lt, UInt64.not_lt]
  constructor
  · rintro ⟨u,ho,hb,hz,hle,w,hw,rfl⟩
    exact ⟨ho,hb,hz,hle,w,hw,rfl⟩
  · rintro ⟨ho,hb,hz,hle,w,hw,rfl⟩
    exact ⟨(),ho,hb,hz,hle,w,hw,rfl⟩

theorem pause_eq_ok {who : Pubkey} (h : s.pause who clock = .ok s') :
    s.ensureOpen = .ok () ∧ s.ensureParty who = .ok () ∧ s.state = .active ∧
    ∃ s1, s.settleDepletion clock = .ok s1 ∧
      s' = { s1 with snapshotUnits := s1.snapshotAt clock.now, snapshotSlot := clock.slot,
                     snapshotTime := clock.now, state := .paused } := by
  simp only [pause, bind_eq_ok, throw_bind, ite_throw_eq_ok, pure_eq_ok, ne_eq,
    Decidable.not_not] at h
  obtain ⟨u,ho,v,hp,ha,s1,hs1,rfl⟩ := h
  exact ⟨ho,hp,ha,s1,hs1,rfl⟩

theorem resume_eq_ok {who : Pubkey} (h : s.resume who clock = .ok s') :
    s.ensureOpen = .ok () ∧ s.ensureParty who = .ok () ∧
    ((s.state = .paused ∧ s.applyResume clock = .ok s') ∨
      (s.state = .active ∧ s.status clock.now = .autoPaused ∧ s' = s)) := by
  simp only [resume, bind_eq_ok] at h
  obtain ⟨u,ho,v,hp,h⟩ := h
  refine ⟨ho,hp,?_⟩
  split at h
  · rename_i hs
    exact .inl ⟨hs,h⟩
  · rename_i hs
    split at h
    · rename_i ha
      simp only [pure_eq_ok] at h
      exact .inr ⟨hs,ha,h.symm⟩
    · exact absurd h throw_ne_ok
  · exact absurd h throw_ne_ok

theorem close_eq_ok {who : Pubkey} {c : Settlement} (h : s.close who clock = .ok (c, s')) :
    s.ensureOpen = .ok () ∧ s.ensureParty who = .ok () ∧ ∃ v, s.vesting clock.now = .ok v ∧
      c = ⟨v.withdrawable, v.unvested⟩ ∧
      s' = { s with totalWithdrawals := v.vested, state := .closed, pending := none } := by
  simp only [close, bind_eq_ok, mapError_eq_ok, pure_eq_ok, Prod.mk.injEq] at h
  obtain ⟨u,ho,v,hp,w,hw,rfl,rfl⟩ := h
  exact ⟨ho,hp,w,hw,rfl,rfl⟩

theorem proposeUpdate_eq_ok {who : Pubkey} {terms : Terms} (h : s.proposeUpdate who terms = .ok s') :
    s.ensureOpen = .ok () ∧ ∃ cp, s.counterpartyOf who = some cp ∧ s.pending = none ∧
      terms.cliffPercent ≤ 100 ∧ terms.mint = s.terms.mint ∧
      s' = { s with pending := some ⟨who, cp, terms⟩ } := by
  simp only [proposeUpdate, bind_eq_ok, throw_bind, ite_throw_eq_ok, elim_throw_pure_eq_ok,
    pure_eq_ok, Option.not_isSome_iff_eq_none, gt_iff_lt, UInt64.not_lt, ne_eq,
    Decidable.not_not] at h
  obtain ⟨u,ho,cp,hcp,hn,hc,hm,rfl⟩ := h
  exact ⟨ho,cp,hcp,hn,hc,hm,rfl⟩

theorem answerUpdate_eq_ok {who : Pubkey} {approve : Bool}
    (h : s.answerUpdate who approve clock = .ok s') :
    s.ensureOpen = .ok () ∧ ∃ p, s.pending = some p ∧ who = p.counterparty ∧
      if approve = true then ∃ s1,
        (if s.state = .active ∧ clock.now > s.start then ∃ s0, s.settleDepletion clock = .ok s0 ∧
          s1 = s0.rebase (s0.snapshotAt clock.now) clock else s1 = s) ∧
        s' = { s1 with terms := p.terms, pending := none }
      else s' = { s with pending := none } := by
  cases approve with
  | false =>
    simp only [answerUpdate, Bool.false_eq_true, if_false, bind_eq_ok, throw_bind, ite_throw_eq_ok,
      elim_throw_pure_eq_ok, ne_eq, Decidable.not_not, pure_bind, pure_eq_ok] at h
    obtain ⟨u,ho,p,hp,hw,rfl⟩ := h
    exact ⟨ho,p,hp,hw,rfl⟩
  | true =>
    simp only [answerUpdate, if_true, bind_eq_ok, throw_bind, ite_throw_eq_ok,
      elim_throw_pure_eq_ok, ne_eq, Decidable.not_not] at h
    obtain ⟨u,ho,p,hp,hw,h⟩ := h
    refine ⟨ho,p,hp,hw,?_⟩
    rw [if_pos rfl]
    split at h
    · rename_i hc
      simp only [bind_eq_ok, pure_bind, pure_eq_ok] at h
      obtain ⟨s0,h0,rfl⟩ := h
      exact ⟨s0.rebase (s0.snapshotAt clock.now) clock,by rw [if_pos hc]; exact ⟨s0,h0,rfl⟩,rfl⟩
    · rename_i hc
      simp only [pure_bind, pure_eq_ok] at h
      exact ⟨s,by rw [if_neg hc],h.symm⟩

end Stream

namespace Operation

variable {s s' : Stream} {clock : Clock} {c : Option Settlement} {who : Pubkey}

theorem plain_eq_ok {r : Except StreamError Stream} :
    ((r.mapError Fault.program).map fun s2 => ((none : Option Settlement), s2)) = .ok (c, s') ↔
      c = none ∧ r = .ok s' := by
  simp only [except_map_eq_ok, mapError_eq_ok, Prod.mk.injEq]
  constructor
  · rintro ⟨a,ha,rfl,rfl⟩
    exact ⟨rfl,ha⟩
  · rintro ⟨rfl,ha⟩
    exact ⟨s',ha,rfl,rfl⟩

@[simp] theorem apply_addFunds_eq_ok {amount : UInt64} {resume : Bool} :
    (addFunds who amount resume).apply s clock = .ok (c, s') ↔
      c = none ∧ s.addFunds who amount resume clock = .ok s' :=
  plain_eq_ok

@[simp] theorem apply_withdraw_eq_ok {amount : UInt64} :
    (withdraw who amount).apply s clock = .ok (c, s') ↔ c = none ∧ s.withdraw who amount clock = .ok s' :=
  plain_eq_ok

@[simp] theorem apply_pause_eq_ok :
    (pause who).apply s clock = .ok (c, s') ↔ c = none ∧ s.pause who clock = .ok s' :=
  plain_eq_ok

@[simp] theorem apply_resume_eq_ok :
    (resume who).apply s clock = .ok (c, s') ↔ c = none ∧ s.resume who clock = .ok s' :=
  plain_eq_ok

@[simp] theorem apply_close_eq_ok :
    (close who).apply s clock = .ok (c, s') ↔ ∃ st, s.close who clock = .ok (st, s') ∧ some st = c := by
  simp [apply]

@[simp] theorem apply_proposeUpdate_eq_ok {terms : Terms} :
    (proposeUpdate who terms).apply s clock = .ok (c, s') ↔
      c = none ∧ s.proposeUpdate who terms = .ok s' :=
  plain_eq_ok

@[simp] theorem apply_answerUpdate_eq_ok {approve : Bool} :
    (answerUpdate who approve).apply s clock = .ok (c, s') ↔
      c = none ∧ s.answerUpdate who approve clock = .ok s' :=
  plain_eq_ok

theorem perform_snd_cases (op : Operation) (s : Stream) (clock : Clock) :
    (op.perform s clock).2 = s ∨ ∃ c, op.apply s clock = .ok (c, (op.perform s clock).2) := by
  unfold perform
  split
  · rename_i c s' h
    exact .inr ⟨c,h⟩
  · exact .inl rfl

/-- A property of the record that every successful call keeps is kept by every call. -/
theorem perform_of_apply {P : Stream → Prop} {op : Operation} (hs : P s)
    (hstep : ∀ c s', op.apply s clock = .ok (c, s') → P s') : P (op.perform s clock).2 := by
  rcases perform_snd_cases op s clock with h | ⟨c,h⟩
  · rw [h]
    exact hs
  · exact hstep c _ h

end Operation

end MoneyStream
