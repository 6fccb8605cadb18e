import MoneyStream.Proofs.DepletionGap
/-! # Paused time fits the vesting window

A record counts paused seconds in two places: a resume adds the seconds of the window since the
pause, and settling a depletion adds those since the deposits ran out. Each gap is measured in
the window of the terms in force at the call and ends at the call, where the record is
re-anchored; it starts at the pause, or at an instant of the current leg. So the gaps are
disjoint stretches of wall-clock time between the start and the last resume, each clamped to the
deadline in force when it was counted.

`PausedFits cap c` is the invariant: the start plus the paused seconds comes no later than the
last resume (or the start) and than `cap`, and while a pause is in progress no later than the
pause. Every call keeps it when the record's window closes by `cap`. So along every run in time
order it holds with `cap` past every instant, and with `cap` the current deadline as long as no
deadline the record had before was later (`paused_seconds_fit_window`); that is the bound under
which the predicted depletion second is the first depleted one
(`depletionTime_eq_some_iff_of_create`). An approved update replaces the auto-pause threshold
whatever was counted before it, and so can bring the deadline before time already counted as
paused (`approved_deadline_cuts_paused_window`).
-/
namespace MoneyStream
namespace Stream

variable {s s1 s' : Stream} {clock : Clock} {cap c : Nat}

/-- The latest instant the vesting window reaches: the auto-pause deadline, or `2 ^ 64`, past
every instant of the clock, when there is none. -/
def windowEnd (s : Stream) : Nat :=
  match s.autoPauseDeadline with
  | some deadline => deadline.toNat
  | none => UInt64.size

theorem windowEnd_eq (s : Stream) : s.windowEnd =
    if s.terms.autoPauseSeconds = 0 then UInt64.size
    else min (s.start.toNat + s.terms.autoPauseSeconds.toNat) (2 ^ 64 - 1) := by
  by_cases h : s.terms.autoPauseSeconds = 0
  · simp [windowEnd, autoPauseDeadline, h]
  · simp [windowEnd, autoPauseDeadline, h, Word.toNat_addSat]

theorem windowEnd_congr (hs : s'.start = s.start)
    (ht : s'.terms.autoPauseSeconds = s.terms.autoPauseSeconds) : s'.windowEnd = s.windowEnd := by
  rw [windowEnd_eq, windowEnd_eq, hs, ht]

theorem windowEnd_le_size (s : Stream) : s.windowEnd ≤ UInt64.size := by
  rw [windowEnd_eq]
  unfold UInt64.size
  split <;> omega

theorem effectiveTime_toNat_eq_min (t : UInt64) :
    (s.effectiveTime t).toNat = min (max t.toNat s.start.toNat) s.windowEnd := by
  have ht := t.toNat_lt
  have hs := s.start.toNat_lt
  rw [effectiveTime_toNat, windowEnd_eq]
  unfold UInt64.size
  split <;> omega

theorem start_le_windowEnd (s : Stream) : s.start.toNat ≤ s.windowEnd := by
  have h := s.start_le_effectiveTime s.start
  rw [effectiveTime_toNat_eq_min] at h
  omega

theorem toNat_effectiveTime_sub {p now : UInt64} (h : p.toNat ≤ now.toNat) :
    (s.effectiveTime now - s.effectiveTime p).toNat =
      (s.effectiveTime now).toNat - (s.effectiveTime p).toNat :=
  UInt64.toNat_sub_of_le _ _ (UInt64.le_iff_toNat_le.mpr (s.effectiveTime_mono h))

theorem fits_of_add_gap {paused r p now : UInt64} (hcap : s.windowEnd ≤ cap)
    (hfit : s.start.toNat + s.pausedSeconds.toNat ≤ min (max s.start.toNat r.toNat) cap)
    (hrp : (s.effectiveTime r).toNat ≤ (s.effectiveTime p).toNat) (hr : r.toNat ≤ now.toNat)
    (hp : p.toNat ≤ now.toNat)
    (hadd : Word.add? s.pausedSeconds (s.effectiveTime now - s.effectiveTime p) = some paused) :
    s.start.toNat + paused.toNat ≤ min (max s.start.toNat now.toNat) cap := by
  obtain ⟨-,hpaused⟩ := Word.add?_eq_some_iff.mp hadd
  rw [hpaused, toNat_effectiveTime_sub hp]
  simp only [effectiveTime_toNat_eq_min] at hrp ⊢
  omega

/-- The paused seconds of a record fit in its vesting window clamped at `cap`: the start plus the
paused seconds comes no later than the last resume (or the start), and while a pause is in
progress no later than the pause; the clock has reached both instants by `c`. -/
structure PausedFits (cap c : Nat) (s : Stream) : Prop where
  resumeTime_le : s.resumeTime.toNat ≤ c
  fits : s.start.toNat + s.pausedSeconds.toNat ≤ min (max s.start.toNat s.resumeTime.toNat) cap
  fits_pause : s.state = .paused → s.snapshotTime.toNat ≤ c ∧
    s.start.toNat + s.pausedSeconds.toNat ≤ min (max s.start.toNat s.snapshotTime.toNat) cap

theorem PausedFits.mono {c' : Nat} (h : PausedFits cap c s) (hc : c ≤ c') : PausedFits cap c' s where
  resumeTime_le := h.resumeTime_le.trans hc
  fits := h.fits
  fits_pause hp := ⟨(h.fits_pause hp).1.trans hc,(h.fits_pause hp).2⟩

theorem PausedFits.congr (h : PausedFits cap c s) (hstart : s'.start = s.start)
    (hpaused : s'.pausedSeconds = s.pausedSeconds) (hres : s'.resumeTime = s.resumeTime)
    (hsnap : s'.snapshotTime = s.snapshotTime) (hst : s'.state = .paused → s.state = .paused) :
    PausedFits cap c s' where
  resumeTime_le := hres ▸ h.resumeTime_le
  fits := by
    rw [hstart, hpaused, hres]
    exact h.fits
  fits_pause hp := by
    rw [hstart, hpaused, hsnap]
    exact h.fits_pause (hst hp)

theorem pausedFits_fresh (hp : s.pausedSeconds = 0) (hr : s.resumeTime = 0) (hst : s.state ≠ .paused)
    (hcap : s.start.toNat ≤ cap) : PausedFits cap 0 s where
  resumeTime_le := by simp [hr]
  fits := by simp [hp, hr, hcap]
  fits_pause hps := absurd hps hst

theorem pausedFits_rebase {x : UInt64}
    (hfit : s.start.toNat + s.pausedSeconds.toNat ≤ min (max s.start.toNat clock.now.toNat) cap) :
    PausedFits cap clock.now.toNat (s.rebase x clock) where
  resumeTime_le := le_rfl
  fits := hfit
  fits_pause _ := ⟨le_rfl,hfit⟩

theorem PausedFits.fits_le (h : PausedFits cap c s) (hc : c ≤ clock.now.toNat) :
    s.start.toNat + s.pausedSeconds.toNat ≤ min (max s.start.toNat clock.now.toNat) cap := by
  have := h.fits
  have := h.resumeTime_le
  omega

theorem PausedFits.le_legStartTime (h : PausedFits s.windowEnd c s) :
    s.start.toNat + s.pausedSeconds.toNat ≤ s.legStartTime.toNat := by
  have h1 := h.fits
  rw [legStartTime, effectiveTime_toNat_eq_min, Word.toNat_max]
  omega

theorem PausedFits.settleDepletion (h : PausedFits cap c s) (hcap : s.windowEnd ≤ cap)
    (hc : c ≤ clock.now.toNat) (hs : s.settleDepletion clock = .ok s1) :
    PausedFits cap clock.now.toNat s1 := by
  rcases settleDepletion_cases hs with rfl | ⟨hd,paused,hadd,rfl⟩
  · exact h.mono hc
  · have hres : s.resumeTime.toNat ≤ clock.now.toNat := h.resumeTime_le.trans hc
    -- the leg starts, in the window, no later than the depletion instant
    have hleg := legStartTime_le_depletedAt hd hres
    have hrp : (s.effectiveTime s.resumeTime).toNat ≤ (s.effectiveTime (s.depletedAt clock.now)).toNat := by
      rw [← effectiveTime_max_start, ← effectiveTime_effectiveTime, ← legStartTime]
      exact s.effectiveTime_mono hleg
    have hfit := fits_of_add_gap hcap h.fits hrp hres (depletedAt_le clock.now) hadd
    exact pausedFits_rebase hfit

theorem PausedFits.applyResume (h : PausedFits cap c s) (hcap : s.windowEnd ≤ cap)
    (hc : c ≤ clock.now.toNat) (hp : s.state = .paused) (hr : s.applyResume clock = .ok s') :
    PausedFits cap clock.now.toNat s' := by
  obtain ⟨paused,hadd,rfl⟩ := applyResume_eq_ok.mp hr
  obtain ⟨hsnap,hfit⟩ := h.fits_pause hp
  -- the pause came before the call, so the gap starts at the pause
  have hpause : (min s.snapshotTime clock.now).toNat = s.snapshotTime.toNat := by
    rw [Word.toNat_min]
    omega
  have hrp : (s.effectiveTime s.snapshotTime).toNat ≤ (s.effectiveTime (min s.snapshotTime clock.now)).toNat :=
    s.effectiveTime_mono hpause.ge
  have hfit' := fits_of_add_gap hcap hfit hrp (hsnap.trans hc) (by omega) hadd
  exact {
    resumeTime_le := le_rfl
    fits := hfit'
    fits_pause := by simp }

theorem PausedFits.freezeCliffAt (h : PausedFits cap c s) (now deposits : UInt64) :
    PausedFits cap c { s.freezeCliffAt now with totalDeposits := deposits } := by
  unfold Stream.freezeCliffAt
  split <;> exact h.congr rfl rfl rfl rfl id

theorem windowEnd_freezeCliffAt (now deposits : UInt64) :
    ({ s.freezeCliffAt now with totalDeposits := deposits } : Stream).windowEnd = s.windowEnd := by
  unfold freezeCliffAt
  split <;> rfl

theorem windowEnd_settleDepletion (hs : s.settleDepletion clock = .ok s1) : s1.windowEnd = s.windowEnd := by
  obtain ⟨-,hterms,-,-,-,-,hk⟩ := settleDepletion_frame hs
  exact windowEnd_congr hk.start (by rw [hterms])

/-- Every accepted call keeps the invariant, made at a clock not before the last one, on a record
whose window closes by `cap`. The new terms of an approved update come after the bookkeeping, so
they do not enter. -/
theorem PausedFits.apply {op : Operation} {x : Option Settlement} (h : PausedFits cap c s)
    (hcap : s.windowEnd ≤ cap) (hc : c ≤ clock.now.toNat) (happ : op.apply s clock = .ok (x, s')) :
    PausedFits cap clock.now.toNat s' := by
  cases op with
  | addFunds who amount resume =>
    obtain ⟨-,hs'⟩ := Operation.apply_addFunds_eq_ok.mp happ
    obtain ⟨-,-,-,s1,deposits,hs1,-,hres⟩ := addFunds_eq_ok hs'
    have h1 := (h.settleDepletion hcap hc hs1).freezeCliffAt clock.now deposits
    split at hres
    · rename_i hpaused
      refine h1.applyResume ?_ le_rfl (by simpa using hpaused.2) hres
      rw [windowEnd_freezeCliffAt, windowEnd_settleDepletion hs1]
      exact hcap
    · rw [hres]
      exact h1
  | withdraw who amount =>
    obtain ⟨-,hs'⟩ := Operation.apply_withdraw_eq_ok.mp happ
    obtain ⟨-,-,-,-,w,-,rfl⟩ := withdraw_eq_ok.mp hs'
    exact (h.mono hc).congr rfl rfl rfl rfl id
  | pause who =>
    obtain ⟨-,hs'⟩ := Operation.apply_pause_eq_ok.mp happ
    obtain ⟨-,-,-,s1,hs1,rfl⟩ := pause_eq_ok hs'
    have h1 := h.settleDepletion hcap hc hs1
    exact {
      resumeTime_le := h1.resumeTime_le
      fits := h1.fits
      fits_pause := fun _ => ⟨le_rfl,h1.fits_le le_rfl⟩ }
  | resume who =>
    obtain ⟨-,hs'⟩ := Operation.apply_resume_eq_ok.mp happ
    obtain ⟨-,-,⟨hp,hr⟩ | ⟨-,-,rfl⟩⟩ := resume_eq_ok hs'
    · exact h.applyResume hcap hc hp hr
    · exact h.mono hc
  | close who =>
    obtain ⟨st,hs',-⟩ := Operation.apply_close_eq_ok.mp happ
    obtain ⟨-,-,v,-,-,rfl⟩ := close_eq_ok hs'
    exact (h.mono hc).congr rfl rfl rfl rfl (by simp)
  | proposeUpdate who terms =>
    obtain ⟨-,hs'⟩ := Operation.apply_proposeUpdate_eq_ok.mp happ
    obtain ⟨-,cp,-,-,-,-,rfl⟩ := proposeUpdate_eq_ok hs'
    exact (h.mono hc).congr rfl rfl rfl rfl id
  | answerUpdate who approve =>
    obtain ⟨-,hs'⟩ := Operation.apply_answerUpdate_eq_ok.mp happ
    obtain ⟨-,p,-,-,hans⟩ := answerUpdate_eq_ok hs'
    split at hans
    · obtain ⟨s2,hs2,rfl⟩ := hans
      split at hs2
      · -- a running stream is settled and re-anchored at the answer
        obtain ⟨s0,hs0,rfl⟩ := hs2
        have h0 := h.settleDepletion hcap hc hs0
        exact (pausedFits_rebase (x := s0.snapshotAt clock.now) (h0.fits_le le_rfl)).congr
          rfl rfl rfl rfl id
      · rw [hs2]
        exact (h.mono hc).congr rfl rfl rfl rfl id
    · rw [hans]
      exact (h.mono hc).congr rfl rfl rfl rfl id

theorem PausedFits.perform (h : PausedFits cap c s) (hcap : s.windowEnd ≤ cap)
    (hc : c ≤ clock.now.toNat) (op : Operation) : PausedFits cap clock.now.toNat (op.perform s clock).2 :=
  Operation.perform_of_apply (h.mono hc) fun _ _ happ => h.apply hcap hc happ

/-- Along a run in time order from a record satisfying the invariant by instant `c`, with every
call at `c` or later, the invariant holds by any instant `T` after all calls, in every window
closing by `cap` from the ends of the record's windows along the run on. -/
theorem PausedFits.replay {run : List (Clock × Operation)} {T : Nat} (h : PausedFits cap c s)
    (hchron : run.Pairwise fun a b => a.1.now ≤ b.1.now) (hc : ∀ e ∈ run, c ≤ e.1.now.toNat)
    (hT : c ≤ T) (hlate : ∀ e ∈ run, e.1.now.toNat ≤ T)
    (hcap : ∀ n ≤ run.length, (s.replay (run.take n)).windowEnd ≤ cap) :
    PausedFits cap T (s.replay run) := by
  induction run generalizing s c with
  | nil => exact h.mono hT
  | cons e run ih =>
    obtain ⟨clock,op⟩ := e
    rw [List.pairwise_cons] at hchron
    have h1 := h.perform (hcap 0 (Nat.zero_le _)) (hc _ List.mem_cons_self) op
    rw [replay_cons]
    refine ih h1 hchron.2 (fun e he => UInt64.le_iff_toNat_le.mp (hchron.1 e he))
      (hlate _ List.mem_cons_self) (fun e he => hlate e (List.mem_cons_of_mem _ he)) ?_
    intro n hn
    have hn1 := hcap (n + 1) (by simpa using hn)
    rwa [List.take_succ_cons, replay_cons] at hn1

theorem pausedFits_of_create {treasurer beneficiaryToken treasury : Pubkey} {p : CreateParams}
    {c0 : Clock} {s0 : Stream} (hc : Stream.create treasurer p beneficiaryToken treasury c0 = .ok s0)
    {run : List (Clock × Operation)} (hchron : run.Pairwise fun a b => a.1.now ≤ b.1.now)
    (hcap : ∀ n ≤ run.length, (s0.replay (run.take n)).windowEnd ≤ cap) :
    PausedFits cap UInt64.size (s0.replay run) := by
  obtain ⟨hact,-,-,-,-,-,-,hres,hpaused⟩ := create_fresh hc
  have hstart : s0.start.toNat ≤ cap := s0.start_le_windowEnd.trans (hcap 0 (Nat.zero_le _))
  have h0 := pausedFits_fresh hpaused hres (by rw [hact]; decide) hstart
  exact h0.replay hchron (fun _ _ => Nat.zero_le _) (Nat.zero_le _)
    (fun e _ => e.1.now.toNat_lt.le) hcap

/-- Along every run of calls from a creation, in time order, at any clocks and by anyone, refused
calls included, the start plus the paused seconds comes no later than the later of the start and
the last resume: the paused seconds never exceed the wall-clock time the stream has run up to
its last resume, so a stream never rebased has none. Clamped to the auto-pause deadline as well,
so that the window is the one vesting reads, the bound holds as long as the stream's deadline is
not earlier than any it had along the run. -/
theorem paused_seconds_fit_window {treasurer beneficiaryToken treasury : Pubkey} {p : CreateParams}
    {c0 : Clock} {s0 : Stream} (hc : Stream.create treasurer p beneficiaryToken treasury c0 = .ok s0)
    {run : List (Clock × Operation)} (hchron : run.Pairwise fun a b => a.1.now ≤ b.1.now) :
    let s := s0.replay run
    s.start.toNat + s.pausedSeconds.toNat ≤ max s.start.toNat s.resumeTime.toNat ∧
      (s.resumeTime ≤ s.start → s.pausedSeconds = 0) ∧
      ((∀ n ≤ run.length, (s0.replay (run.take n)).windowEnd ≤ s.windowEnd) →
        s.start.toNat + s.pausedSeconds.toNat ≤ (s.effectiveTime (max s.start s.resumeTime)).toNat) := by
  intro s
  have hwall : PausedFits UInt64.size UInt64.size s :=
    pausedFits_of_create hc hchron fun _ _ => windowEnd_le_size _
  have hfits : s.start.toNat + s.pausedSeconds.toNat ≤ max s.start.toNat s.resumeTime.toNat := by
    have h1 := hwall.fits
    have h2 := s.start.toNat_lt
    have h3 := s.resumeTime.toNat_lt
    unfold UInt64.size at h1
    omega
  refine ⟨hfits,fun hle => ?_,fun hcap => ?_⟩
  · have hle' := UInt64.le_iff_toNat_le.mp hle
    apply UInt64.toNat_inj.mp
    rw [UInt64.toNat_zero]
    omega
  · -- closing at the current deadline, which no deadline along the run passed
    have hdl : PausedFits s.windowEnd UInt64.size s := pausedFits_of_create hc hchron hcap
    exact hdl.le_legStartTime

/-- So the depletion second a record reached from a creation predicts is the first second, from
the start of its current leg on, at which its deposits have vested, as long as the record is not
paused and its deadline is not earlier than any it had along the run. -/
theorem depletionTime_eq_some_iff_of_create {treasurer beneficiaryToken treasury : Pubkey}
    {p : CreateParams} {c0 : Clock} {s0 : Stream}
    (hc : Stream.create treasurer p beneficiaryToken treasury c0 = .ok s0)
    {run : List (Clock × Operation)} (hchron : run.Pairwise fun a b => a.1.now ≤ b.1.now)
    (hcap : ∀ n ≤ run.length, (s0.replay (run.take n)).windowEnd ≤ (s0.replay run).windowEnd)
    (hp : (s0.replay run).state ≠ .paused) (d : UInt64) :
    (s0.replay run).depletionTime = some d ↔
      IsLeast {t : UInt64 | (s0.replay run).legStartTime ≤ t ∧
        (s0.replay run).totalDeposits.toNat ≤ (s0.replay run).vestedUnitsRaw t} d :=
  depletionTime_eq_some_iff hp (pausedFits_of_create hc hchron hcap).le_legStartTime d

theorem paused_seconds_fit_window_after_lifted_deadline :
    let p : CreateParams := { CreateParams.hourly with start := 1000000, autoPauseSeconds := 7200 }
    let s0 := opened Pubkey.zero p Pubkey.zero Pubkey.zero ⟨500000, 1000000⟩
    let run : List (Clock × Operation) :=
      [(⟨500050, 1000100⟩, .pause Pubkey.zero), (⟨500100, 1000200⟩, .resume Pubkey.zero),
        (⟨500125, 1000250⟩, .proposeUpdate Pubkey.zero { p.terms with autoPauseSeconds := 0 }),
        (⟨500150, 1000300⟩, .answerUpdate p.beneficiary true)]
    Stream.create Pubkey.zero p Pubkey.zero Pubkey.zero ⟨500000, 1000000⟩ = .ok s0 ∧
      (run.Pairwise fun a b => a.1.now ≤ b.1.now) ∧
      (∀ n ≤ run.length, (s0.replay (run.take n)).windowEnd ≤ (s0.replay run).windowEnd) ∧
      (s0.replay run).pausedSeconds = 100 ∧
      (s0.replay run).start.toNat + (s0.replay run).pausedSeconds.toNat ≤
        ((s0.replay run).effectiveTime (max (s0.replay run).start (s0.replay run).resumeTime)).toNat := by
  intro p s0 run
  have hc : Stream.create Pubkey.zero p Pubkey.zero Pubkey.zero ⟨500000, 1000000⟩ = .ok s0 :=
    create_of_checks (by decide) (by decide) (by decide)
  have hchron : run.Pairwise fun a b => a.1.now ≤ b.1.now := by decide
  have hcap : ∀ n ≤ run.length, (s0.replay (run.take n)).windowEnd ≤ (s0.replay run).windowEnd := by
    decide
  exact ⟨hc,hchron,hcap,by decide,(paused_seconds_fit_window hc hchron).2.2 hcap⟩

/-- An approved update can bring the deadline before time already counted as paused: a stream of
1000 units at 100 an hour, paused for 100 seconds, then given an auto-pause deadline 50 seconds
after its start, has its start and paused seconds at second 1 000 100, past the end of its window
at second 1 000 050. -/
theorem approved_deadline_cuts_paused_window :
    let p : CreateParams := { CreateParams.hourly with start := 1000000 }
    let run : List (Clock × Operation) :=
      [(⟨500050, 1000100⟩, .pause Pubkey.zero), (⟨500100, 1000200⟩, .resume Pubkey.zero),
        (⟨500125, 1000250⟩, .proposeUpdate Pubkey.zero { p.terms with autoPauseSeconds := 50 }),
        (⟨500150, 1000300⟩, .answerUpdate p.beneficiary true)]
    (run.Pairwise fun a b => a.1.now ≤ b.1.now) ∧
      ((Stream.create Pubkey.zero p Pubkey.zero Pubkey.zero ⟨500000, 1000000⟩).map fun s0 =>
        let s := s0.replay run
        (s.start.toNat + s.pausedSeconds.toNat,
          (s.effectiveTime (max s.start s.resumeTime)).toNat)) = .ok (1000100, 1000050) := by
  intro p run
  exact ⟨by decide,by decide⟩

end Stream
end MoneyStream
