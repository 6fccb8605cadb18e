import MoneyStream.Proofs.Depletion
import MoneyStream.Proofs.Clawback
/-! # Depletion gaps as pauses

A running record whose deposits have vested is settled on its next call: it is rebased at the
instant the deposits ran out, made to resume at the call, and the seconds in between are added
to its paused seconds, so that the stream does not accrue while it had nothing to pay.

`settleDepletion_is_pause_until_now` says that this is accounted exactly as if either party had
paused the stream at the instant the deposits ran out and resumed it at the call: the two paths
fail alike or leave records that agree on every field the vesting figures read. The step that
carries it is that pausing at the depletion instant itself settles with an empty gap, and that
a snapshot taken at an instant of the current leg is unchanged by rebasing there.
-/
namespace MoneyStream
namespace Stream

variable {s : Stream} {clock : Clock}

/-- The parts of a record its vesting figures read: the start, the totals, the terms, the state
and the bookkeeping of the current leg (snapshot, resume instant, paused seconds). -/
def accrualView (s : Stream) :
    UInt64 × UInt64 × UInt64 × Terms × StreamState × UInt64 × UInt64 × UInt64 :=
  (s.start, s.totalDeposits, s.totalWithdrawals, s.terms, s.state, s.snapshotUnits, s.resumeTime,
    s.pausedSeconds)

theorem vesting_eq_of_accrualView {s' : Stream} (h : s.accrualView = s'.accrualView) :
    s.vesting = s'.vesting := by
  obtain ⟨i, st, b, n, tr, be, bt, ty, te, sta, D, W, su, ss, stt, rs, rt, P, pe⟩ := s
  obtain ⟨i', st', b', n', tr', be', bt', ty', te', sta', D', W', su', ss', stt', rs', rt', P', pe'⟩ := s'
  simp only [accrualView, Prod.mk.injEq] at h
  obtain ⟨rfl, rfl, rfl, rfl, rfl, rfl, rfl, rfl⟩ := h
  rfl

/-- The instant a depleted record ran out of funds, as settling at `now` takes it: the predicted
depletion second, or `now` if there is none, and never after `now`. -/
def depletedAt (s : Stream) (now : UInt64) : UInt64 := min (s.depletionTime.getD now) now

theorem depletedAt_le (now : UInt64) : (s.depletedAt now).toNat ≤ now.toNat := by
  simp only [depletedAt, Word.toNat_min]
  omega

theorem depletedAt_depletedAt (now : UInt64) : s.depletedAt (s.depletedAt now) = s.depletedAt now := by
  apply UInt64.toNat_inj.mp
  unfold depletedAt
  cases s.depletionTime with
  | none => simp
  | some v => simp only [Option.getD_some, Word.toNat_min]; omega

theorem isDepleted_depletedAt {now : UInt64} (h : s.isDepleted now = true) :
    s.isDepleted (s.depletedAt now) = true := by
  have hact := ((s.isDepleted_iff now).mp h).1
  unfold depletedAt
  rcases Word.min_eq_or (s.depletionTime.getD now) now with hm | hm
  · rw [hm]
    cases hd : s.depletionTime with
    | none => exact h
    | some v =>
      have hv := s.totalDeposits_le_vestedUnitsRaw_of_depletionTime (by rw [hact]; decide) hd
      exact (s.isDepleted_iff v).mpr ⟨hact,hv⟩
  · rw [hm]
    exact h

theorem settleDepletion_of_isDepleted (h : s.isDepleted clock.now = true) :
    s.settleDepletion clock =
      match Word.add? s.pausedSeconds (s.effectiveTime clock.now - s.effectiveTime (s.depletedAt clock.now)) with
      | none => .error .overflow
      | some paused => .ok (({ s with pausedSeconds := paused }).rebase (s.snapshotAt (s.depletedAt clock.now)) clock) := by
  simp only [settleDepletion, h, Bool.not_true, Bool.false_eq_true, if_false]
  rfl

theorem applyResume_eq : s.applyResume clock =
    match Word.add? s.pausedSeconds (s.effectiveTime clock.now - s.effectiveTime (min s.snapshotTime clock.now)) with
    | none => .error .overflow
    | some paused => .ok { s with pausedSeconds := paused, resumeSlot := clock.slot, resumeTime := clock.now,
                                  state := .active } := rfl

theorem start_lt_legStartTime (hr : s.isRebased = true) : s.start.toNat < s.legStartTime.toNat := by
  have hrt : s.start.toNat < s.resumeTime.toNat := by simpa [isRebased, UInt64.lt_iff_toNat_lt] using hr
  have hs := Word.toNat_addSat s.start s.terms.autoPauseSeconds
  have hlt := s.resumeTime.toNat_lt
  have hap : s.terms.autoPauseSeconds ≠ 0 → 0 < s.terms.autoPauseSeconds.toNat := Word.toNat_pos
  rw [legStartTime_eq, if_pos hr, effectiveTime_toNat]
  split
  · omega
  · rename_i h0
    have := hap h0
    omega

theorem legStartTime_le_depletedAt {now : UInt64} (h : s.isDepleted now = true)
    (hres : s.resumeTime.toNat ≤ now.toNat) : s.legStartTime.toNat ≤ (s.depletedAt now).toNat := by
  have hst := ((s.isDepleted_iff now).mp h).2.1
  unfold depletedAt
  rw [Word.toNat_min]
  cases hd : s.depletionTime with
  | none =>
    have := s.effectiveTime_le (t := max s.start s.resumeTime) (by simp)
    simp only [legStartTime, Word.toNat_max, Option.getD_none] at this ⊢
    omega
  | some v =>
    have hv := legStartTime_le_of_depletionTime hd
    have := s.effectiveTime_le (t := max s.start s.resumeTime) (by simp)
    simp only [legStartTime, Word.toNat_max, Option.getD_some] at this hv ⊢
    omega

theorem snapshotAt_rebase {x : UInt64} (hp : s.state ≠ .paused) (hL : s.legStartTime.toNat ≤ x.toNat)
    {c : Clock} (hc : c.now = x) : (s.rebase (s.snapshotAt x) c).snapshotAt x = s.snapshotAt x := by
  have hst := s.start_le_legStartTime.trans hL
  have hp' : (s.rebase (s.snapshotAt x) c).state ≠ .paused := hp
  rcases Nat.lt_or_ge s.start.toNat x.toNat with hlt | hge
  · -- rebased after the start, the record has vested its snapshot at its resume instant
    have hv := vestedUnitsRaw_resumeTime (s := s.rebase (s.snapshotAt x) c) hp'
      (by show s.start.toNat < c.now.toNat; rw [hc]; exact hlt)
    have hr : (s.rebase (s.snapshotAt x) c).resumeTime = x := hc
    rw [hr] at hv
    apply UInt64.toNat_inj.mp
    unfold snapshotAt at hv ⊢
    rw [Word.toNat_ofNatSat, hv]
    show min (Word.ofNatSat (s.vestedUnitsRaw x)).toNat _ = _
    rw [Word.toNat_ofNatSat]
    omega
  · -- at the start: the record was not rebased, and both have earned what active time zero earns
    have hx : x = s.start := UInt64.toNat_inj.mp (by omega)
    have hr : ¬ s.isRebased = true := fun hr => by have := start_lt_legStartTime hr; omega
    have hrt : s.resumeTime.toNat ≤ s.start.toNat := by simpa [isRebased, UInt64.lt_iff_toNat_lt] using hr
    subst hx
    have h1 : (s.rebase (s.snapshotAt s.start) c).vestedUnitsRaw s.start = s.earnedUnits 0 :=
      vestedUnitsRaw_start (s := s.rebase (s.snapshotAt s.start) c) hp'
        (by show c.now.toNat ≤ s.start.toNat; rw [hc])
    have h0 := vestedUnitsRaw_start hp hrt
    show Word.ofNatSat ((s.rebase (s.snapshotAt s.start) c).vestedUnitsRaw s.start) =
      Word.ofNatSat (s.vestedUnitsRaw s.start)
    rw [h1, h0]

theorem pause_at_depletedAt {who : Pubkey} (hi : s.initialized = true) (hact : s.state = .active)
    (hdep : s.isDepleted clock.now = true) (hres : s.resumeTime.toNat ≤ clock.now.toNat)
    (hwho : who = s.treasurer ∨ who = s.beneficiary) {pc : Clock} (hpc : pc.now = s.depletedAt clock.now) :
    s.pause who pc = .ok { s.rebase (s.snapshotAt pc.now) pc with state := .paused } := by
  have hopen : s.ensureOpen = .ok () := ensureOpen_eq_ok.mpr ⟨hi,by simp [hact],by simp [hact]⟩
  have hparty : s.ensureParty who = .ok () := ensureParty_eq_ok.mpr hwho
  have hdep' : s.isDepleted pc.now = true := hpc ▸ isDepleted_depletedAt hdep
  have hself : s.depletedAt pc.now = pc.now := by rw [hpc, depletedAt_depletedAt]
  have hP : Word.add? s.pausedSeconds (s.effectiveTime pc.now - s.effectiveTime (s.depletedAt pc.now)) =
      some s.pausedSeconds := by
    rw [hself, UInt64.sub_self, Word.add?_of_lt (by simp; exact s.pausedSeconds.toNat_lt), UInt64.add_zero]
  have hsnap : (s.rebase (s.snapshotAt pc.now) pc).snapshotAt pc.now = s.snapshotAt pc.now :=
    snapshotAt_rebase (by rw [hact]; decide) (hpc ▸ legStartTime_le_depletedAt hdep hres) rfl
  have hset : s.settleDepletion pc = .ok (s.rebase (s.snapshotAt pc.now) pc) := by
    rw [settleDepletion_of_isDepleted hdep', hP, hself]
  have hrun : ¬ s.state ≠ .active := fun h => h hact
  simp only [pause, hopen, hparty, if_neg hrun, hset]
  show Except.ok { s.rebase (s.snapshotAt pc.now) pc with
    snapshotUnits := (s.rebase (s.snapshotAt pc.now) pc).snapshotAt pc.now, snapshotSlot := pc.slot,
    snapshotTime := pc.now, state := .paused } = _
  rw [hsnap]
  rfl

/-- Settling a depletion at `now` does what pausing at the instant the deposits ran out and
resuming at `now` does: it fails with the same error, or it writes the same view. -/
theorem settleDepletion_map_accrualView {who : Pubkey} (hi : s.initialized = true)
    (hact : s.state = .active) (hdep : s.isDepleted clock.now = true)
    (hres : s.resumeTime.toNat ≤ clock.now.toNat) (hwho : who = s.treasurer ∨ who = s.beneficiary)
    {pc : Clock} (hpc : pc.now = s.depletedAt clock.now) :
    (s.settleDepletion clock).map accrualView =
      (s.pause who pc >>= fun sp => sp.resume who clock).map accrualView := by
  rw [pause_at_depletedAt hi hact hdep hres hwho hpc]
  set sp : Stream := { s.rebase (s.snapshotAt pc.now) pc with state := .paused } with hsp
  have hopen : sp.ensureOpen = .ok () := ensureOpen_eq_ok.mpr ⟨hi,by simp [sp],by simp [sp]⟩
  have hparty : sp.ensureParty who = .ok () := ensureParty_eq_ok.mpr hwho
  have hresume : sp.resume who clock = sp.applyResume clock := by
    simp only [resume, hopen, hparty]
    rfl
  have hmin : min pc.now clock.now = s.depletedAt clock.now := by
    rw [hpc]
    apply UInt64.toNat_inj.mp
    have := depletedAt_le (s := s) clock.now
    rw [Word.toNat_min]
    omega
  have hgap : Word.add? sp.pausedSeconds (sp.effectiveTime clock.now - sp.effectiveTime (min sp.snapshotTime clock.now)) =
      Word.add? s.pausedSeconds (s.effectiveTime clock.now - s.effectiveTime (s.depletedAt clock.now)) := by
    rw [← hmin]
    rfl
  show (s.settleDepletion clock).map accrualView = (sp.resume who clock).map accrualView
  rw [hresume, applyResume_eq, hgap, settleDepletion_of_isDepleted hdep]
  cases Word.add? s.pausedSeconds (s.effectiveTime clock.now - s.effectiveTime (s.depletedAt clock.now)) with
  | none => rfl
  | some paused =>
    -- both record the snapshot at the depletion instant, resume now and count the same gap
    simp only [Except.map, accrualView, rebase, hsp, hpc, hact]

/-- A depletion gap is accounted exactly like a manual pause that began when the deposits ran
out. On a stream created and then called at instants none after `clock`, refused calls
included, that is running and has vested its deposits at `clock`, settling the depletion at
`clock` ends as pausing, by either party, at the instant the deposits ran out and resuming at
`clock` ends: with the same error, or with the same start, deposits, withdrawals, terms, state,
snapshot, resume instant and paused seconds, and so with the same vesting figures at every
instant. -/
theorem settleDepletion_is_pause_until_now {treasurer beneficiaryToken treasury : Pubkey}
    {p : CreateParams} {c0 : Clock} {s0 : Stream}
    (hc : Stream.create treasurer p beneficiaryToken treasury c0 = .ok s0)
    {run : List (Clock × Operation)} {clock : Clock} (hlate : ∀ e ∈ run, e.1.now ≤ clock.now)
    (hact : (s0.replay run).state = .active) (hdep : (s0.replay run).isDepleted clock.now = true)
    {who : Pubkey} (hwho : who = (s0.replay run).treasurer ∨ who = (s0.replay run).beneficiary)
    {pc : Clock} (hpc : pc.now = min ((s0.replay run).depletionTime.getD clock.now) clock.now) :
    ((s0.replay run).settleDepletion clock).map accrualView =
        ((s0.replay run).pause who pc >>= fun sp => sp.resume who clock).map accrualView ∧
      ∀ s1 s2, (s0.replay run).settleDepletion clock = .ok s1 →
        ((s0.replay run).pause who pc >>= fun sp => sp.resume who clock) = .ok s2 →
        ∀ t, s1.vesting t = s2.vesting t := by
  have hw := (replay_wellFormed (create_wellFormed hc) run).1
  have hs : (s0.replay run).Settled clock.now :=
    replay_settled (create_settled hc clock.now) run fun e he => UInt64.le_iff_toNat_le.mp (hlate e he)
  have heq := settleDepletion_map_accrualView hw.initialized hact hdep hs.resumeTime_le hwho hpc
  refine ⟨heq,fun s1 s2 h1 h2 t => ?_⟩
  rw [h1, h2] at heq
  exact congrFun (vesting_eq_of_accrualView (Except.ok.inj heq)) t

theorem settleDepletion_is_pause_until_now_hourly :
    let p : CreateParams := { CreateParams.hourly with start := 1000000 }
    let s0 := opened Pubkey.zero p Pubkey.zero Pubkey.zero ⟨500000, 1000000⟩
    let clock : Clock := ⟨519800, 1039600⟩
    let pc : Clock := ⟨518000, 1036000⟩
    Stream.create Pubkey.zero p Pubkey.zero Pubkey.zero ⟨500000, 1000000⟩ = .ok s0 ∧
      (s0.replay []).state = .active ∧ (s0.replay []).isDepleted clock.now = true ∧
      pc.now = min ((s0.replay []).depletionTime.getD clock.now) clock.now ∧
      ((s0.replay []).settleDepletion clock).map accrualView =
        ((s0.replay []).pause Pubkey.zero pc >>= fun sp => sp.resume Pubkey.zero clock).map accrualView := by
  intro p s0 clock pc
  have hc : Stream.create Pubkey.zero p Pubkey.zero Pubkey.zero ⟨500000, 1000000⟩ = .ok s0 :=
    create_of_checks (by decide) (by decide) (by decide)
  have hact : (s0.replay []).state = .active := rfl
  have hdep : (s0.replay []).isDepleted clock.now = true := by decide
  have hpc : pc.now = min ((s0.replay []).depletionTime.getD clock.now) clock.now := by decide
  exact ⟨hc,hact,hdep,hpc,(settleDepletion_is_pause_until_now hc (by simp) hact hdep
    (.inl rfl) hpc).1⟩

end Stream
end MoneyStream