import MoneyStream.Proofs.Clawback
import MoneyStream.Proofs.Schedule
/-! # The bookkeeping follows the schedule

The vested amount is never stored: a record keeps a snapshot, a resume instant and a total of
paused seconds, and recomputes. Along a run of calls that leave the terms and the deposits alone
(pauses, resumes, withdrawals, proposals and rejections), in time order, a running record has
vested what the schedule of its terms has vested at the active time that the manual pauses
leave, clamped between the withdrawals and the deposits: `vested_follows_schedule`.

Two things stand apart. Before its start a stream has vested nothing, whatever its cliff: the
schedule read at active time zero would release a cliff of zero seconds at once
(`vested_before_start`). And a pause taken before the start and ended after it rebases at
active time zero on an empty snapshot, which leaves out such a cliff; the statement assumes the
schedule releases nothing at active time zero when a pause spans the start.

The invariant is `Tracks`: a record either follows its schedule exactly, its paused seconds
being the pauses' clamped lengths, or it has vested all its deposits, and so has the schedule.
-/
namespace MoneyStream

/-- What the schedule of `terms` has vested at `t` on `deposits`, for a stream that starts at
`start` and was paused manually over `pauses`: nothing before the start, then what the active
time releases. -/
def scheduledVested (terms : Terms) (deposits start : Nat) (pauses : List (Nat × Nat)) (t : Nat) : Nat :=
  if t < start then 0
  else scheduleUnits terms deposits (activeTime start terms.autoPauseSeconds.toNat pauses t)

theorem scheduledVested_mono {terms : Terms} {deposits start : Nat} {pauses : List (Nat × Nat)}
    {a b : Nat} (h : a ≤ b) :
    scheduledVested terms deposits start pauses a ≤ scheduledVested terms deposits start pauses b := by
  unfold scheduledVested
  split
  · exact Nat.zero_le _
  · rw [if_neg (by omega)]
    exact scheduleUnits_mono terms deposits (activeTime_mono h)

/-- The manual pauses of a run so far: those already ended, as intervals `[pause, resume)`, and
the instant of the one in progress. -/
structure PauseLog where
  closed : List (Nat × Nat)
  opened : Option Nat
  deriving DecidableEq, Repr

namespace PauseLog

def record (log : PauseLog) (op : Operation) (accepted : Bool) (now : Nat) : PauseLog :=
  match op, accepted, log.opened with
  | .pause _, true, _ => { log with opened := some now }
  | .resume _, true, some p => ⟨log.closed ++ [(p, now)], none⟩
  | _, _, _ => log

@[simp] theorem record_of_refused (log : PauseLog) (op : Operation) (now : Nat) :
    log.record op false now = log := by
  cases op <;> rfl

end PauseLog

namespace Operation

/-- The calls that leave the terms and the deposits alone: pausing, resuming, withdrawing,
proposing, and rejecting a proposal. -/
def keepsSchedule : Operation → Bool
  | .pause _ | .resume _ | .withdraw _ _ | .proposeUpdate _ _ => true
  | .answerUpdate _ approve => !approve
  | .addFunds _ _ _ | .close _ => false

end Operation

namespace Stream

def pauseLog (s : Stream) (log : PauseLog) : List (Clock × Operation) → PauseLog
  | [] => log
  | (clock, op) :: run =>
    (op.perform s clock).2.pauseLog (log.record op (op.perform s clock).1.isOk clock.now.toNat) run

def scheduled (s : Stream) (pauses : List (Nat × Nat)) (t : Nat) : Nat :=
  scheduledVested s.terms s.totalDeposits.toNat s.start.toNat pauses t

/-- A running record follows the schedule from instant `c` on: it has vested exactly what the
schedule has, its paused seconds being the pauses' clamped lengths; or the schedule has
released all deposits by some instant not after `c`, and the record has vested them. -/
def FollowsRunning (s : Stream) (pauses : List (Nat × Nat)) (c : Nat) : Prop :=
  (s.pausedSeconds.toNat = pausedLength s.start.toNat s.terms.autoPauseSeconds.toNat pauses ∧
    ∀ x : UInt64, c ≤ x.toNat → s.vestedUnitsRaw x = s.scheduled pauses x.toNat) ∨
  ((∃ w, s.start.toNat ≤ w ∧ w ≤ c ∧ s.totalDeposits.toNat ≤ s.scheduled pauses w) ∧
    ∀ x : UInt64, c ≤ x.toNat → s.totalDeposits.toNat ≤ s.vestedUnitsRaw x)

/-- A record paused at `p` follows the schedule: its snapshot is what the schedule had vested
at `p`; or the schedule had released all deposits by `p`, the snapshot holds them, and resuming
at the start itself would not lose them. -/
def FollowsPaused (s : Stream) (pauses : List (Nat × Nat)) (p : Nat) : Prop :=
  (s.pausedSeconds.toNat = pausedLength s.start.toNat s.terms.autoPauseSeconds.toNat pauses ∧
    s.snapshotUnits.toNat = s.scheduled pauses p) ∨
  ((∃ w, s.start.toNat ≤ w ∧ w ≤ p ∧ s.totalDeposits.toNat ≤ s.scheduled pauses w) ∧
    s.totalDeposits.toNat ≤ s.snapshotUnits.toNat ∧
    (s.start.toNat < p ∨ s.totalDeposits.toNat ≤ s.earnedUnits 0))

/-- How a record stands to the pause log of a run whose calls all came by `c`: the ended
pauses follow one another, a pause is in progress exactly when the record is paused, and the
record follows the schedule. -/
structure Tracks (log : PauseLog) (c : Nat) (s : Stream) : Prop where
  sorted : log.closed.Pairwise fun a b => a.2 ≤ b.1
  closed_le : ∀ iv ∈ log.closed, iv.1 ≤ iv.2 ∧ iv.2 ≤ c
  resumeTime_le : s.resumeTime.toNat ≤ c
  follows : match log.opened with
    | none => s.state = .active ∧ s.FollowsRunning log.closed c
    | some p => s.state = .paused ∧ s.snapshotTime.toNat = p ∧ p ≤ c ∧
        (∀ iv ∈ log.closed, iv.2 ≤ p) ∧ s.FollowsPaused log.closed p

variable {s s' s1 : Stream} {log : PauseLog} {c : Nat} {clock : Clock}

theorem FollowsRunning.mono {pauses : List (Nat × Nat)} {c' : Nat} (hf : s.FollowsRunning pauses c)
    (h : c ≤ c') : s.FollowsRunning pauses c' := by
  rcases hf with ⟨hP,hx⟩ | ⟨⟨w,hSw,hwc,hDw⟩,hx⟩
  · exact .inl ⟨hP,fun x hx' => hx x (by omega)⟩
  · exact .inr ⟨⟨w,hSw,by omega,hDw⟩,fun x hx' => hx x (by omega)⟩

theorem Tracks.mono {c' : Nat} (hT : Tracks log c s) (h : c ≤ c') : Tracks log c' s where
  sorted := hT.sorted
  closed_le := fun iv hiv => ⟨(hT.closed_le iv hiv).1,(hT.closed_le iv hiv).2.trans h⟩
  resumeTime_le := hT.resumeTime_le.trans h
  follows := by
    have hf := hT.follows
    cases ho : log.opened with
    | none =>
      rw [ho] at hf
      exact ⟨hf.1,hf.2.mono h⟩
    | some p =>
      rw [ho] at hf
      obtain ⟨hst,hsnap,hpc,hL,hfp⟩ := hf
      exact ⟨hst,hsnap,hpc.trans h,hL,hfp⟩

theorem Tracks.opened_eq_none (hT : Tracks log c s) (h : s.state ≠ .paused) : log.opened = none := by
  have hf := hT.follows
  cases ho : log.opened with
  | none => rfl
  | some p =>
    rw [ho] at hf
    exact absurd hf.1 h

theorem Tracks.opened_of_paused (hT : Tracks log c s) (h : s.state = .paused) :
    ∃ p, log.opened = some p := by
  have hf := hT.follows
  cases ho : log.opened with
  | none =>
    rw [ho, h] at hf
    cases hf.1
  | some p => exact ⟨p,rfl⟩

theorem scheduled_congr (hstart : s'.start = s.start) (hterms : s'.terms = s.terms)
    (hD : s'.totalDeposits = s.totalDeposits) : s'.scheduled = s.scheduled := by
  unfold scheduled
  rw [hstart, hterms, hD]

theorem pause_frame {who : Pubkey} (h : s.pause who clock = .ok s') :
    s'.start = s.start ∧ s'.terms = s.terms ∧ s'.totalDeposits = s.totalDeposits ∧
      s'.state = .paused ∧ s'.snapshotTime = clock.now ∧
      (s'.resumeTime = s.resumeTime ∨ s'.resumeTime = clock.now) := by
  obtain ⟨-,-,-,s1,hs1,rfl⟩ := pause_eq_ok h
  obtain ⟨-,hterms,hD,-,-,-,hk⟩ := settleDepletion_frame hs1
  refine ⟨hk.start,hterms,hD,rfl,rfl,?_⟩
  rcases settleDepletion_cases hs1 with rfl | ⟨-,paused,-,rfl⟩
  · exact .inl rfl
  · exact .inr rfl

theorem pause_of_not_depleted {who : Pubkey} (hnd : ¬ (s.start.toNat ≤ clock.now.toNat ∧
      s.totalDeposits.toNat ≤ s.vestedUnitsRaw clock.now))
    (h : s.pause who clock = .ok s') :
    s'.snapshotUnits.toNat = s.vestedUnitsRaw clock.now ∧ s'.pausedSeconds = s.pausedSeconds := by
  obtain ⟨-,-,hact,s1,hs1,rfl⟩ := pause_eq_ok h
  have hs1' : s1 = s := by
    rcases settleDepletion_cases hs1 with rfl | ⟨hdep,-⟩
    · rfl
    · exact absurd ((s.isDepleted_iff clock.now).mp hdep).2 hnd
  subst hs1'
  have hlt : s1.vestedUnitsRaw clock.now < 2 ^ 64 := by
    by_cases hS : s1.start.toNat ≤ clock.now.toNat
    · have := s1.totalDeposits.toNat_lt
      have : ¬ s1.totalDeposits.toNat ≤ s1.vestedUnitsRaw clock.now := fun h' => hnd ⟨hS,h'⟩
      omega
    · rw [s1.vestedUnitsRaw_of_lt_start (by rw [hact]; decide) (by omega)]
      omega
  refine ⟨?_,rfl⟩
  show (Word.ofNatSat (s1.vestedUnitsRaw clock.now)).toNat = _
  rw [Word.toNat_ofNatSat]
  omega

theorem pause_covers {who : Pubkey} (hs : s.resumeTime.toNat ≤ clock.now.toNat)
    (hS : s.start.toNat ≤ clock.now.toNat) (hcov : s.totalDeposits.toNat ≤ s.vestedUnitsRaw clock.now)
    (h : s.pause who clock = .ok s') :
    s'.totalDeposits.toNat ≤ s'.snapshotUnits.toNat ∧
      (s.start.toNat < clock.now.toNat ∨ s.totalDeposits.toNat ≤ s.earnedUnits 0) := by
  obtain ⟨-,-,hact,-⟩ := pause_eq_ok h
  have hm := pause_vestedUnitsRaw hs h
  obtain ⟨-,-,hD,hp,-⟩ := pause_frame h
  rw [s'.vestedUnitsRaw_of_paused hp, hD] at hm
  refine ⟨by rw [hD]; omega,?_⟩
  rcases Nat.lt_or_ge s.start.toNat clock.now.toNat with hlt | hge
  · exact .inl hlt
  · have heq : clock.now = s.start := UInt64.toNat_inj.mp (by omega)
    have hp0 : s.state ≠ .paused := by rw [hact]; decide
    rw [heq, vestedUnitsRaw_start hp0 (by omega)] at hcov
    exact .inr hcov

theorem pause_tracks {who : Pubkey} (hT : Tracks log c s) (hc : c ≤ clock.now.toNat)
    (h : s.pause who clock = .ok s') :
    Tracks { log with opened := some clock.now.toNat } clock.now.toNat s' := by
  obtain ⟨-,-,hact,-⟩ := pause_eq_ok h
  obtain ⟨hstart,hterms,hD,hp',hsnapT,hres⟩ := pause_frame h
  have hsch := scheduled_congr hstart hterms hD
  have hearn : s'.earnedUnits 0 = s.earnedUnits 0 := by
    rw [earnedUnits_eq_scheduleUnits, earnedUnits_eq_scheduleUnits, hterms, hD]
  have hresq : s.resumeTime.toNat ≤ clock.now.toNat := hT.resumeTime_le.trans hc
  have ho := hT.opened_eq_none (by rw [hact]; decide)
  have hfol := hT.follows
  rw [ho] at hfol
  obtain ⟨-,hrun⟩ := hfol
  refine ⟨hT.sorted,fun iv hiv => ⟨(hT.closed_le iv hiv).1,(hT.closed_le iv hiv).2.trans hc⟩,?_,?_⟩
  · rcases hres with hr | hr
    · rw [hr]
      exact hresq
    · rw [hr]
  refine ⟨hp',by rw [hsnapT],le_rfl,fun iv hiv => (hT.closed_le iv hiv).2.trans hc,?_⟩
  unfold FollowsPaused
  rw [hsch, hstart, hterms, hD, hearn]
  rcases hrun with ⟨hP,hexact⟩ | ⟨⟨w,hSw,hwc,hDw⟩,hsat⟩
  · have hq := hexact clock.now hc
    by_cases hdep : s.start.toNat ≤ clock.now.toNat ∧ s.totalDeposits.toNat ≤ s.vestedUnitsRaw clock.now
    · -- out of funds at the pause: from now on both hold all deposits
      obtain ⟨hcov,hstartp⟩ := pause_covers hresq hdep.1 hdep.2 h
      rw [hD] at hcov
      exact .inr ⟨⟨clock.now.toNat,hdep.1,le_rfl,hq ▸ hdep.2⟩,hcov,hstartp⟩
    · obtain ⟨hsnap,hP'⟩ := pause_of_not_depleted hdep h
      exact .inl ⟨by rw [hP']; exact hP,by rw [hsnap]; exact hq⟩
  · obtain ⟨hcov,hstartp⟩ := pause_covers hresq (by omega) (hsat clock.now hc) h
    rw [hD] at hcov
    exact .inr ⟨⟨w,hSw,by omega,hDw⟩,hcov,hstartp⟩

theorem activeSeconds_eq_activeTime {pauses : List (Nat × Nat)} {x : UInt64}
    (hP : s.pausedSeconds.toNat = pausedLength s.start.toNat s.terms.autoPauseSeconds.toNat pauses)
    (hsorted : pauses.Pairwise fun a b => a.2 ≤ b.1) (hiv : ∀ iv ∈ pauses, iv.1 ≤ iv.2 ∧ iv.2 ≤ x.toNat) :
    (s.activeSeconds x).toNat = activeTime s.start.toNat s.terms.autoPauseSeconds.toNat pauses x.toNat := by
  rw [activeSeconds_toNat, effectiveTime_toNat_eq_clamp, activeTime_eq hsorted hiv, hP]

theorem vestedUnitsRaw_eq_scheduled {pauses : List (Nat × Nat)} {x : UInt64} (hp : s.state ≠ .paused)
    (hr : s.resumeTime.toNat ≤ s.start.toNat)
    (hP : s.pausedSeconds.toNat = pausedLength s.start.toNat s.terms.autoPauseSeconds.toNat pauses)
    (hsorted : pauses.Pairwise fun a b => a.2 ≤ b.1) (hiv : ∀ iv ∈ pauses, iv.1 ≤ iv.2 ∧ iv.2 ≤ x.toNat) :
    s.vestedUnitsRaw x = s.scheduled pauses x.toNat := by
  by_cases hxS : x.toNat < s.start.toNat
  · rw [s.vestedUnitsRaw_of_lt_start hp hxS]
    simp [scheduled, scheduledVested, hxS]
  · rw [s.vestedUnitsRaw_of_running hp (by omega), if_pos hr, earnedUnits_eq_scheduleUnits,
      activeSeconds_eq_activeTime hP hsorted hiv]
    simp [scheduled, scheduledVested, hxS]

theorem applyResume_facts (hsnap : s.snapshotTime.toNat ≤ clock.now.toNat)
    (h : s.applyResume clock = .ok s') :
    s'.pausedSeconds.toNat = s.pausedSeconds.toNat +
        (clampToWindow s.start.toNat s.terms.autoPauseSeconds.toNat clock.now.toNat -
          clampToWindow s.start.toNat s.terms.autoPauseSeconds.toNat s.snapshotTime.toNat) ∧
      s'.state = .active ∧ s'.resumeTime = clock.now ∧ s'.snapshotUnits = s.snapshotUnits ∧
      s'.start = s.start ∧ s'.terms = s.terms ∧ s'.totalDeposits = s.totalDeposits := by
  obtain ⟨paused,hadd,rfl⟩ := applyResume_eq_ok.mp h
  have hmin : min s.snapshotTime clock.now = s.snapshotTime := by
    rcases Word.min_eq_or s.snapshotTime clock.now with hm | hm
    · exact hm
    · rw [hm]
      exact UInt64.toNat_inj.mp (by have := Word.toNat_min s.snapshotTime clock.now; rw [hm] at this; omega)
  have hle := s.effectiveTime_mono hsnap
  have hsum := (Word.add?_eq_some_iff.mp hadd).2
  rw [hmin, UInt64.toNat_sub_of_le _ _ (UInt64.le_iff_toNat_le.mpr hle), effectiveTime_toNat_eq_clamp,
    effectiveTime_toNat_eq_clamp] at hsum
  exact ⟨hsum,rfl,rfl,rfl,rfl,rfl,rfl⟩

theorem applyResume_follows_exact {pauses : List (Nat × Nat)} {p : Nat}
    (hsorted : pauses.Pairwise fun a b => a.2 ≤ b.1) (hL : ∀ iv ∈ pauses, iv.1 ≤ iv.2 ∧ iv.2 ≤ p)
    (hsnapT : s.snapshotTime.toNat = p) (hpc : p ≤ clock.now.toNat)
    (hP : s.pausedSeconds.toNat = pausedLength s.start.toNat s.terms.autoPauseSeconds.toNat pauses)
    (hsnap : s.snapshotUnits.toNat = s.scheduled pauses p)
    (hslip : p < s.start.toNat → s.start.toNat < clock.now.toNat →
      scheduleUnits s.terms s.totalDeposits.toNat 0 = 0)
    (h : s.applyResume clock = .ok s') :
    s'.FollowsRunning (pauses ++ [(p, clock.now.toNat)]) clock.now.toNat := by
  obtain ⟨hP',hact',hres',hsnap',hstart,hterms,hD⟩ := applyResume_facts (by omega) h
  rw [hsnapT] at hP'
  have hp' : s'.state ≠ .paused := by rw [hact']; decide
  obtain ⟨hsorted',hle⟩ := pauses_append_of_le hsorted hL hpc
  have hsch := scheduled_congr hstart hterms hD
  have hearn (a : UInt64) : s'.earnedUnits a = scheduleUnits s.terms s.totalDeposits.toNat a.toNat := by
    rw [earnedUnits_eq_scheduleUnits, hterms, hD]
  have hPL : s'.pausedSeconds.toNat = pausedLength s'.start.toNat s'.terms.autoPauseSeconds.toNat
      (pauses ++ [(p, clock.now.toNat)]) := by
    rw [hP', hP, hstart, hterms, pausedLength_append_singleton]
  have hax (x : UInt64) (hx : clock.now.toNat ≤ x.toNat) : (s'.activeSeconds x).toNat =
      activeTime s.start.toNat s.terms.autoPauseSeconds.toNat (pauses ++ [(p, clock.now.toNat)]) x.toNat := by
    rw [activeSeconds_eq_activeTime hPL hsorted' fun iv hiv => ⟨(hle iv hiv).1,(hle iv hiv).2.trans hx⟩,
      hstart, hterms]
  refine .inl ⟨hPL,fun x hx => ?_⟩
  have hxle : ∀ iv ∈ pauses ++ [(p, clock.now.toNat)], iv.1 ≤ iv.2 ∧ iv.2 ≤ x.toNat :=
    fun iv hiv => ⟨(hle iv hiv).1,(hle iv hiv).2.trans hx⟩
  by_cases hrS : clock.now.toNat ≤ s.start.toNat
  · -- resumed by the start: not rebased, vesting runs on the active time alone
    exact vestedUnitsRaw_eq_scheduled hp' (by rw [hres', hstart]; exact hrS) hPL hsorted' hxle
  · -- resumed after the start: rebased on the snapshot, what the schedule had at the pause
    have hsx : s.scheduled (pauses ++ [(p, clock.now.toNat)]) x.toNat = scheduleUnits s.terms
        s.totalDeposits.toNat (activeTime s.start.toNat s.terms.autoPauseSeconds.toNat
          (pauses ++ [(p, clock.now.toNat)]) x.toNat) := by
      simp [scheduled, scheduledVested, show ¬ x.toNat < s.start.toNat by omega]
    rw [hsch, s'.vestedUnitsRaw_of_running hp' (by rw [hstart]; omega), hres', hstart, if_neg hrS, hsx]
    have har : (s'.activeSeconds clock.now).toNat =
        activeTime s.start.toNat s.terms.autoPauseSeconds.toNat pauses p := by
      rw [hax clock.now le_rfl]
      exact activeTime_append_end hsorted hL hpc
    have hmono : activeTime s.start.toNat s.terms.autoPauseSeconds.toNat pauses p ≤
        activeTime s.start.toNat s.terms.autoPauseSeconds.toNat (pauses ++ [(p, clock.now.toNat)])
          x.toNat := by
      rw [← har, ← hax x hx]
      exact s'.activeSeconds_mono hx
    rw [hearn, hearn, hax x hx, har, hsnap', hsnap]
    by_cases hpS : p < s.start.toNat
    · -- a pause over the start: the snapshot is empty and active time zero releases nothing
      rw [activeTime_of_le_start hpS.le, hslip hpS (by omega)]
      simp [scheduled, scheduledVested, hpS]
    · have := scheduleUnits_mono s.terms s.totalDeposits.toNat hmono
      simp only [scheduled, scheduledVested, if_neg hpS]
      omega

theorem applyResume_follows_covered {pauses : List (Nat × Nat)} {p : Nat}
    (hsnapT : s.snapshotTime.toNat = p) (hpc : p ≤ clock.now.toNat)
    (hw : ∃ w, s.start.toNat ≤ w ∧ w ≤ p ∧ s.totalDeposits.toNat ≤ s.scheduled pauses w)
    (hcov : s.totalDeposits.toNat ≤ s.snapshotUnits.toNat)
    (hstartp : s.start.toNat < p ∨ s.totalDeposits.toNat ≤ s.earnedUnits 0)
    (h : s.applyResume clock = .ok s') :
    s'.FollowsRunning (pauses ++ [(p, clock.now.toNat)]) clock.now.toNat := by
  obtain ⟨-,hact',hres',hsnap',hstart,hterms,hD⟩ := applyResume_facts (by omega) h
  obtain ⟨w,hSw,hwp,hDw⟩ := hw
  have hp' : s'.state ≠ .paused := by rw [hact']; decide
  have hearn (a : UInt64) : s'.earnedUnits a = s.earnedUnits a := by
    rw [earnedUnits_eq_scheduleUnits, earnedUnits_eq_scheduleUnits, hterms, hD]
  -- the closed pause begins after `w`, so the schedule had released the deposits by `w` still
  have hDw' : s.totalDeposits.toNat ≤ s.scheduled (pauses ++ [(p, clock.now.toNat)]) w := by
    simpa only [scheduled, scheduledVested, activeTime_append_of_le hwp] using hDw
  refine .inr ⟨⟨w,by rw [hstart]; exact hSw,by omega,by rw [scheduled_congr hstart hterms hD, hD]; exact hDw'⟩,
    fun x hx => ?_⟩
  rw [hD, s'.vestedUnitsRaw_of_running hp' (by rw [hstart]; omega), hres', hstart]
  split
  · have h0 := hstartp.resolve_left (by omega)
    have hx0 : s'.earnedUnits 0 ≤ s'.earnedUnits (s'.activeSeconds x) := s'.earnedUnits_mono (by simp)
    rw [hearn] at hx0
    exact h0.trans hx0
  · rw [hsnap']
    omega

theorem applyResume_tracks {p : Nat} (hT : Tracks log c s) (ho : log.opened = some p)
    (hc : c ≤ clock.now.toNat)
    (hslip : p < s.start.toNat → s.start.toNat < clock.now.toNat →
      scheduleUnits s.terms s.totalDeposits.toNat 0 = 0)
    (h : s.applyResume clock = .ok s') :
    Tracks ⟨log.closed ++ [(p, clock.now.toNat)], none⟩ clock.now.toNat s' := by
  have hfol := hT.follows
  rw [ho] at hfol
  obtain ⟨-,hsnapT,hpc,hLp,hfp⟩ := hfol
  obtain ⟨-,hact',hres',-⟩ := applyResume_facts (by omega) h
  have hL : ∀ iv ∈ log.closed, iv.1 ≤ iv.2 ∧ iv.2 ≤ p :=
    fun iv hiv => ⟨(hT.closed_le iv hiv).1,hLp iv hiv⟩
  obtain ⟨hsorted,hle⟩ := pauses_append_of_le hT.sorted hL (hpc.trans hc)
  refine ⟨hsorted,hle,by rw [hres'],hact',?_⟩
  rcases hfp with ⟨hP,hsnap⟩ | ⟨hw,hcov,hstartp⟩
  · exact applyResume_follows_exact hT.sorted hL hsnapT (hpc.trans hc) hP hsnap hslip h
  · exact applyResume_follows_covered hsnapT (hpc.trans hc) hw hcov hstartp h

theorem Tracks.of_frame (hT : Tracks log c s) (hst : s'.state = s.state) (hstart : s'.start = s.start)
    (hterms : s'.terms = s.terms) (hD : s'.totalDeposits = s.totalDeposits)
    (hsn : s'.snapshotUnits = s.snapshotUnits) (hsnT : s'.snapshotTime = s.snapshotTime)
    (hr : s'.resumeTime = s.resumeTime) (hP : s'.pausedSeconds = s.pausedSeconds) : Tracks log c s' := by
  have he (a : UInt64) : s'.earnedUnits a = s.earnedUnits a := by
    rw [earnedUnits_eq_scheduleUnits, earnedUnits_eq_scheduleUnits, hterms, hD]
  have hraw : s'.vestedUnitsRaw = s.vestedUnitsRaw :=
    vestedUnitsRaw_congr (by simp [isManuallyPaused, hst]) hstart hsn hr
      (fun t => by simp [activeSeconds, effectiveTime, autoPauseDeadline, hstart, hterms, hP]) he
  have hsch := scheduled_congr hstart hterms hD
  refine ⟨hT.sorted,hT.closed_le,hr ▸ hT.resumeTime_le,?_⟩
  have hf := hT.follows
  unfold FollowsRunning FollowsPaused at hf ⊢
  rw [hst, hstart, hterms, hD, hsn, hsnT, hP, hraw, hsch, he]
  exact hf

theorem PauseLog.record_resume_of_none {who : Pubkey} {now : Nat} (ho : log.opened = none) :
    log.record (.resume who) true now = log := by
  unfold PauseLog.record
  rw [ho]

theorem PauseLog.record_resume_of_some {who : Pubkey} {p now : Nat} (ho : log.opened = some p) :
    log.record (.resume who) true now = ⟨log.closed ++ [(p, now)], none⟩ := by
  unfold PauseLog.record
  rw [ho]

theorem perform_schedule (op : Operation) (s : Stream) (clock : Clock) (hop : op.keepsSchedule = true) :
    (op.perform s clock).2.start = s.start ∧ (op.perform s clock).2.terms = s.terms ∧
      (op.perform s clock).2.totalDeposits = s.totalDeposits := by
  refine Operation.perform_of_apply (P := fun s' => s'.start = s.start ∧ s'.terms = s.terms ∧
    s'.totalDeposits = s.totalDeposits) ⟨rfl,rfl,rfl⟩ fun c s' h => ?_
  cases op with
  | pause who =>
    obtain ⟨hstart,hterms,hD,-⟩ := pause_frame (Operation.apply_pause_eq_ok.mp h).2
    exact ⟨hstart,hterms,hD⟩
  | resume who =>
    obtain ⟨-,-,⟨-,hr⟩ | ⟨-,-,rfl⟩⟩ := resume_eq_ok (Operation.apply_resume_eq_ok.mp h).2
    · obtain ⟨-,hterms,hD,-,-,-,hk⟩ := applyResume_frame hr
      exact ⟨hk.start,hterms,hD⟩
    · exact ⟨rfl,rfl,rfl⟩
  | withdraw who amount =>
    obtain ⟨-,-,-,-,w,-,rfl⟩ := withdraw_eq_ok.mp (Operation.apply_withdraw_eq_ok.mp h).2
    exact ⟨rfl,rfl,rfl⟩
  | proposeUpdate who terms =>
    obtain ⟨-,cp,-,-,-,-,rfl⟩ := proposeUpdate_eq_ok (Operation.apply_proposeUpdate_eq_ok.mp h).2
    exact ⟨rfl,rfl,rfl⟩
  | answerUpdate who approve =>
    obtain rfl : approve = false := by simpa [Operation.keepsSchedule] using hop
    obtain ⟨-,q,-,-,rfl⟩ := answerUpdate_eq_ok (Operation.apply_answerUpdate_eq_ok.mp h).2
    exact ⟨rfl,rfl,rfl⟩
  | addFunds who amount asksResume => simp [Operation.keepsSchedule] at hop
  | close who => simp [Operation.keepsSchedule] at hop

theorem Tracks.step {op : Operation} (hT : Tracks log c s) (hc : c ≤ clock.now.toNat)
    (hop : op.keepsSchedule = true)
    (hslip : ∀ iv ∈ (log.record op (op.perform s clock).1.isOk clock.now.toNat).closed,
      iv.1 < s.start.toNat → s.start.toNat < iv.2 → scheduleUnits s.terms s.totalDeposits.toNat 0 = 0) :
    Tracks (log.record op (op.perform s clock).1.isOk clock.now.toNat) clock.now.toNat
      (op.perform s clock).2 := by
  cases h : op.apply s clock with
  | error f =>
    rw [Operation.perform_error h]
    dsimp only [Except.isOk, Except.toBool]
    rw [PauseLog.record_of_refused]
    exact hT.mono hc
  | ok r =>
    obtain ⟨c',s'⟩ := r
    rw [Operation.perform_ok h] at hslip ⊢
    dsimp only [Except.isOk, Except.toBool] at hslip ⊢
    have hT' := hT.mono hc
    cases op with
    | pause who => exact pause_tracks hT hc (Operation.apply_pause_eq_ok.mp h).2
    | resume who =>
      obtain ⟨-,-,⟨hp,hr⟩ | ⟨ha,-,rfl⟩⟩ := resume_eq_ok (Operation.apply_resume_eq_ok.mp h).2
      · -- the record is paused, so a pause is in progress and the resume ends it
        obtain ⟨p,ho⟩ := hT.opened_of_paused hp
        rw [PauseLog.record_resume_of_some ho] at hslip ⊢
        exact applyResume_tracks hT ho hc (hslip (p, clock.now.toNat) (by simp)) hr
      · -- a stream that only paused itself: nothing changes
        rw [PauseLog.record_resume_of_none (hT.opened_eq_none (by rw [ha]; decide))]
        exact hT'
    | withdraw who amount =>
      obtain ⟨-,-,-,-,w,-,rfl⟩ := withdraw_eq_ok.mp (Operation.apply_withdraw_eq_ok.mp h).2
      exact hT'.of_frame rfl rfl rfl rfl rfl rfl rfl rfl
    | proposeUpdate who terms =>
      obtain ⟨-,cp,-,-,-,-,rfl⟩ := proposeUpdate_eq_ok (Operation.apply_proposeUpdate_eq_ok.mp h).2
      exact hT'.of_frame rfl rfl rfl rfl rfl rfl rfl rfl
    | answerUpdate who approve =>
      obtain rfl : approve = false := by simpa [Operation.keepsSchedule] using hop
      obtain ⟨-,q,-,-,rfl⟩ := answerUpdate_eq_ok (Operation.apply_answerUpdate_eq_ok.mp h).2
      exact hT'.of_frame rfl rfl rfl rfl rfl rfl rfl rfl
    | addFunds who amount asksResume => simp [Operation.keepsSchedule] at hop
    | close who => simp [Operation.keepsSchedule] at hop

theorem create_tracks {treasurer beneficiaryToken treasury : Pubkey} {p : CreateParams} {c0 : Clock}
    (h : Stream.create treasurer p beneficiaryToken treasury c0 = .ok s) : Tracks ⟨[], none⟩ 0 s := by
  obtain ⟨hst,-,-,-,-,-,-,hr,hP⟩ := create_fresh h
  have hp : s.state ≠ .paused := by rw [hst]; decide
  have hP0 : s.pausedSeconds.toNat = pausedLength s.start.toNat s.terms.autoPauseSeconds.toNat [] := by
    simp [hP, pausedLength]
  refine ⟨List.Pairwise.nil,by simp,by simp [hr],hst,.inl ⟨hP0,fun x _ => ?_⟩⟩
  exact vestedUnitsRaw_eq_scheduled hp (by simp [hr]) hP0 List.Pairwise.nil (by simp)

theorem PauseLog.closed_subset_record (log : PauseLog) (op : Operation) (accepted : Bool) (now : Nat) :
    log.closed ⊆ (log.record op accepted now).closed := by
  unfold PauseLog.record
  split <;> simp

theorem closed_subset_pauseLog (s : Stream) (log : PauseLog) (run : List (Clock × Operation)) :
    log.closed ⊆ (s.pauseLog log run).closed := by
  induction run generalizing s log with
  | nil => exact List.Subset.refl _
  | cons e run ih =>
    obtain ⟨clock,op⟩ := e
    exact List.Subset.trans (PauseLog.closed_subset_record log op _ _) (ih _ _)

theorem replay_schedule {run : List (Clock × Operation)} (hops : ∀ e ∈ run, e.2.keepsSchedule = true) :
    (s.replay run).start = s.start ∧ (s.replay run).terms = s.terms ∧
      (s.replay run).totalDeposits = s.totalDeposits := by
  induction run generalizing s with
  | nil => exact ⟨rfl,rfl,rfl⟩
  | cons e run ih =>
    obtain ⟨clock,op⟩ := e
    obtain ⟨h1,h2,h3⟩ := perform_schedule op s clock (hops _ List.mem_cons_self)
    obtain ⟨h1',h2',h3'⟩ := ih (s := (op.perform s clock).2) fun e he => hops e (List.mem_cons_of_mem _ he)
    rw [replay_cons]
    exact ⟨h1'.trans h1,h2'.trans h2,h3'.trans h3⟩

/-- A run of calls that keep the schedule, in time order and none before `c`, keeps the
invariant up to any instant `t` not before them, with the log of the run. -/
theorem Tracks.replay {run : List (Clock × Operation)} (hT : Tracks log c s)
    (hops : ∀ e ∈ run, e.2.keepsSchedule = true) (hchron : run.Pairwise fun a b => a.1.now ≤ b.1.now)
    (hc : ∀ e ∈ run, c ≤ e.1.now.toNat) {t : Nat} (ht : c ≤ t) (hlate : ∀ e ∈ run, e.1.now.toNat ≤ t)
    (hslip : ∀ iv ∈ (s.pauseLog log run).closed, iv.1 < s.start.toNat → s.start.toNat < iv.2 →
      scheduleUnits s.terms s.totalDeposits.toNat 0 = 0) :
    Tracks (s.pauseLog log run) t (s.replay run) := by
  induction run generalizing s log c with
  | nil => exact hT.mono ht
  | cons e run ih =>
    obtain ⟨clock,op⟩ := e
    obtain ⟨hnext,hchron'⟩ := List.pairwise_cons.mp hchron
    have hop := hops _ List.mem_cons_self
    obtain ⟨hstart,hterms,hD⟩ := perform_schedule op s clock hop
    have h1 := hT.step (hc _ List.mem_cons_self) hop fun iv hiv =>
      hslip iv (closed_subset_pauseLog _ _ run hiv)
    rw [replay_cons]
    refine ih h1 (fun e he => hops e (List.mem_cons_of_mem _ he)) hchron'
      (fun e he => UInt64.le_iff_toNat_le.mp (hnext e he)) (hlate _ List.mem_cons_self)
      (fun e he => hlate e (List.mem_cons_of_mem _ he)) ?_
    rw [hstart, hterms, hD]
    exact hslip

/-- Along a run from creation of pauses, resumes, withdrawals, proposals and rejections, refused
calls included, in time order, a record that is not paused has vested at any instant `t` not
before the calls what the schedule of its terms has vested at the active time the run's manual
pauses leave, clamped between its withdrawals and its deposits; provided no pause that spans
the start meets a schedule releasing something at active time zero. -/
theorem vested_follows_schedule {treasurer beneficiaryToken treasury : Pubkey} {p : CreateParams}
    {c0 : Clock} {s0 : Stream} (hc : Stream.create treasurer p beneficiaryToken treasury c0 = .ok s0)
    {run : List (Clock × Operation)} (hops : ∀ e ∈ run, e.2.keepsSchedule = true)
    (hchron : run.Pairwise fun a b => a.1.now ≤ b.1.now) {t : UInt64} (hlate : ∀ e ∈ run, e.1.now ≤ t)
    (hrun : (s0.replay run).state ≠ .paused)
    (hslip : ∀ iv ∈ (s0.pauseLog ⟨[], none⟩ run).closed, iv.1 < (max p.start c0.now).toNat →
      (max p.start c0.now).toNat < iv.2 → scheduleUnits p.terms p.funding.toNat 0 = 0) :
    ((s0.replay run).vestedUnits t).toNat = max (s0.replay run).totalWithdrawals.toNat
      (min p.funding.toNat (scheduledVested p.terms p.funding.toNat (max p.start c0.now).toNat
        (s0.pauseLog ⟨[], none⟩ run).closed t.toNat)) := by
  obtain ⟨-,hstart,hterms,hD,-⟩ := create_fresh hc
  obtain ⟨hstart',hterms',hD'⟩ := replay_schedule (s := s0) hops
  have hT := (create_tracks hc).replay hops hchron (fun _ _ => Nat.zero_le _) (Nat.zero_le t.toNat)
    (fun e he => UInt64.le_iff_toNat_le.mp (hlate e he)) (by rw [hstart, hterms, hD]; exact hslip)
  have hsch : (s0.replay run).scheduled = scheduledVested p.terms p.funding.toNat (max p.start c0.now).toNat := by
    unfold scheduled
    rw [hstart', hterms', hD', hstart, hterms, hD]
  have hfol := hT.follows
  rw [hT.opened_eq_none hrun] at hfol
  obtain ⟨-,hf⟩ := hfol
  unfold FollowsRunning at hf
  rw [hsch, hD', hD] at hf
  rw [vestedUnits_toNat, hD', hD]
  rcases hf with ⟨-,hx⟩ | ⟨⟨w,-,hwt,hDw⟩,hx⟩
  · rw [hx t le_rfl]
    omega
  · -- all deposits have vested, and the schedule, which only grows, has released them too
    have hDt := hDw.trans (scheduledVested_mono hwt)
    have := hx t le_rfl
    omega

/-- A pause of an hour half an hour in, and a withdrawal: two and a half hours later 5400 active
seconds have passed, and a cliff of 300 with 100 units an hour has vested 450. -/
theorem vested_follows_schedule_through_pause :
    let p : CreateParams := { CreateParams.hourly with cliffAmount := 300 }
    let s0 := opened Pubkey.zero p Pubkey.zero Pubkey.zero ⟨0, 0⟩
    let run : List (Clock × Operation) :=
      [(⟨0, 1800⟩, .pause Pubkey.zero), (⟨0, 5400⟩, .resume Pubkey.zero),
        (⟨0, 6000⟩, .withdraw p.beneficiary 10)]
    let t : UInt64 := 9000
    Stream.create Pubkey.zero p Pubkey.zero Pubkey.zero ⟨0, 0⟩ = .ok s0 ∧
      (∀ e ∈ run, e.2.keepsSchedule = true) ∧ (run.Pairwise fun a b => a.1.now ≤ b.1.now) ∧
      (∀ e ∈ run, e.1.now ≤ t) ∧ (s0.replay run).state ≠ .paused ∧
      (∀ iv ∈ (s0.pauseLog ⟨[], none⟩ run).closed, iv.1 < (max p.start (⟨0, 0⟩ : Clock).now).toNat →
        (max p.start (⟨0, 0⟩ : Clock).now).toNat < iv.2 → scheduleUnits p.terms p.funding.toNat 0 = 0) ∧
      ((s0.replay run).vestedUnits t).toNat = max (s0.replay run).totalWithdrawals.toNat
        (min p.funding.toNat (scheduledVested p.terms p.funding.toNat
          (max p.start (⟨0, 0⟩ : Clock).now).toNat (s0.pauseLog ⟨[], none⟩ run).closed t.toNat)) := by
  intro p s0 run t
  have hc : Stream.create Pubkey.zero p Pubkey.zero Pubkey.zero ⟨0, 0⟩ = .ok s0 :=
    create_of_checks (by decide) (by decide) (by decide)
  have hops : ∀ e ∈ run, e.2.keepsSchedule = true := by decide
  have hchron : run.Pairwise fun a b => a.1.now ≤ b.1.now := by decide
  have hlate : ∀ e ∈ run, e.1.now ≤ t := by decide
  have hrun : (s0.replay run).state ≠ .paused := by decide
  have hslip : ∀ iv ∈ (s0.pauseLog ⟨[], none⟩ run).closed, iv.1 < (max p.start (⟨0, 0⟩ : Clock).now).toNat →
      (max p.start (⟨0, 0⟩ : Clock).now).toNat < iv.2 → scheduleUnits p.terms p.funding.toNat 0 = 0 := by
    decide
  exact ⟨hc,hops,hchron,hlate,hrun,hslip,vested_follows_schedule hc hops hchron hlate hrun hslip⟩

example :
    scheduledVested ({ (default : CreateParams) with
      rateAmount := 100, rateInterval := 3600, cliffAmount := 300 } : CreateParams).terms
      1000 0 [(1800, 5400)] 9000 = 450 := by
  rw [scheduledVested, if_neg (by decide), activeTime_eq (by decide) (by decide)]
  decide

/-- Before its start a stream has vested nothing, though the schedule read at active time zero
releases a cliff of zero seconds: created for a start at 100 with a cliff amount of 300, it has
vested nothing at 50, where the cliff at active time zero would give 300. -/
theorem vested_before_start :
    let p : CreateParams := { CreateParams.hourly with cliffAmount := 300, start := 100 }
    let s0 := opened Pubkey.zero p Pubkey.zero Pubkey.zero ⟨0, 0⟩
    Stream.create Pubkey.zero p Pubkey.zero Pubkey.zero ⟨0, 0⟩ = .ok s0 ∧
      (s0.vestedUnits 50).toNat = 0 ∧
      max s0.totalWithdrawals.toNat (min p.funding.toNat
        (scheduleUnits p.terms p.funding.toNat (activeTime 100 p.terms.autoPauseSeconds.toNat [] 50))) = 300 := by
  intro p s0
  exact ⟨create_of_checks (by decide) (by decide) (by decide),by decide,by decide⟩

end Stream

end MoneyStream
