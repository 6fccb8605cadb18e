import Mathlib.Order.Interval.Finset.Nat
import MoneyStream.Proofs.Accrual
/-! # The vesting schedule

What a stream's terms promise, said without the record's bookkeeping. The active time at an
instant counts the seconds from the start, cut at the auto-pause deadline, that lie in no manual
pause; the schedule releases nothing before the cliff, then the cliff units and the rate's units.

The active time is counted second by second. `activeTime_eq` gives it in closed form, as the
window's length less the pauses' lengths clamped to the window, which is how the record keeps
it: `pausedSeconds` adds up the clamped pauses (`effectiveTime_toNat_eq_clamp`). And the record's
earned units are the schedule's (`earnedUnits_eq_scheduleUnits`).
-/
namespace MoneyStream

/-- Units the schedule of `terms` releases after `a` active seconds on `deposits`: nothing
before the cliff, then the cliff units (the cliff amount if set, otherwise the cliff percent of
the deposits, never more than them) and the rate's units, rounded down. -/
def scheduleUnits (terms : Terms) (deposits a : Nat) : Nat :=
  if a < terms.cliffSeconds.toNat then 0
  else
    (if terms.cliffAmount.toNat ≠ 0 then terms.cliffAmount.toNat
     else min deposits (deposits * terms.cliffPercent.toNat / 100)) +
    (if terms.rateAmount.toNat = 0 ∨ terms.rateInterval.toNat = 0 then 0
     else terms.rateAmount.toNat * (a - terms.cliffSeconds.toNat) / terms.rateInterval.toNat)

/-- Seconds of `[start, t)`, cut at `start + autoPause` unless that is zero, that lie in no
interval `[p, r)` of `pauses`. -/
def activeTime (start autoPause : Nat) (pauses : List (Nat × Nat)) (t : Nat) : Nat :=
  ((Finset.Ico start (if autoPause = 0 then t else min t (start + autoPause))).filter
    fun x => ∀ iv ∈ pauses, ¬ (iv.1 ≤ x ∧ x < iv.2)).card

/-- An instant moved into the window `[start, start + autoPause]`, which has no end when
`autoPause` is zero. -/
def clampToWindow (start autoPause x : Nat) : Nat :=
  if autoPause = 0 then max x start else min (max x start) (start + autoPause)

def pausedLength (start autoPause : Nat) (pauses : List (Nat × Nat)) : Nat :=
  (pauses.map fun iv => clampToWindow start autoPause iv.2 - clampToWindow start autoPause iv.1).sum

section ActiveTime

variable {start autoPause : Nat} {pauses : List (Nat × Nat)}

theorem activeTime_of_le_start {t : Nat} (h : t ≤ start) : activeTime start autoPause pauses t = 0 := by
  unfold activeTime
  rw [Finset.card_eq_zero, Finset.filter_eq_empty_iff]
  intro x hx
  have := Finset.mem_Ico.mp hx
  split at this <;> omega

theorem activeTime_nil (t : Nat) :
    activeTime start autoPause [] t = clampToWindow start autoPause t - start := by
  unfold activeTime clampToWindow
  split <;> simp <;> omega

theorem activeTime_mono {t u : Nat} (h : t ≤ u) :
    activeTime start autoPause pauses t ≤ activeTime start autoPause pauses u := by
  apply Finset.card_le_card
  apply Finset.filter_subset_filter
  apply Finset.Ico_subset_Ico_right
  split <;> omega

theorem activeTime_append_of_le {p r w : Nat} (hw : w ≤ p) :
    activeTime start autoPause (pauses ++ [(p, r)]) w = activeTime start autoPause pauses w := by
  unfold activeTime
  congr 1
  apply Finset.filter_congr
  intro x hx
  have hxw : x < w := by
    have := (Finset.mem_Ico.mp hx).2
    split at this <;> omega
  simp only [List.mem_append, List.mem_singleton]
  constructor
  · intro h iv hiv
    exact h iv (.inl hiv)
  · rintro h iv (hiv | rfl)
    · exact h iv hiv
    · omega

/-- Closing one more pause, after all the others and before `t`, takes its clamped length
off the active time. -/
theorem activeTime_append {p r t : Nat} (hL : ∀ iv ∈ pauses, iv.2 ≤ p) (hpr : p ≤ r) (hrt : r ≤ t) :
    activeTime start autoPause (pauses ++ [(p, r)]) t +
        (clampToWindow start autoPause r - clampToWindow start autoPause p) =
      activeTime start autoPause pauses t := by
  unfold activeTime
  set window := Finset.Ico start (if autoPause = 0 then t else min t (start + autoPause))
  set kept := window.filter fun x => ∀ iv ∈ pauses, ¬ (iv.1 ≤ x ∧ x < iv.2)
  have hsplit := Finset.card_filter_add_card_filter_not (s := kept) fun x => p ≤ x ∧ x < r
  have hout : window.filter (fun x => ∀ iv ∈ pauses ++ [(p, r)], ¬ (iv.1 ≤ x ∧ x < iv.2)) =
      kept.filter fun x => ¬ (p ≤ x ∧ x < r) := by
    rw [Finset.filter_filter]
    apply Finset.filter_congr
    intro x _
    simp only [List.mem_append, List.mem_singleton]
    constructor
    · intro h
      exact ⟨fun iv hiv => h iv (.inl hiv),h (p, r) (.inr rfl)⟩
    · rintro ⟨h,hpr'⟩ iv (hiv | rfl)
      · exact h iv hiv
      · exact hpr'
  -- a second of the new pause lies in no earlier pause, which all end by `p`
  have hin : kept.filter (fun x => p ≤ x ∧ x < r) =
      Finset.Ico (max start p) (min (if autoPause = 0 then t else min t (start + autoPause)) r) := by
    ext x
    simp only [kept, window, Finset.mem_filter, Finset.mem_Ico]
    constructor
    · rintro ⟨⟨⟨h1,h2⟩,-⟩,h3,h4⟩
      exact ⟨by omega,by omega⟩
    · rintro ⟨h1,h2⟩
      refine ⟨⟨⟨by omega,by omega⟩,fun iv hiv hx => ?_⟩,by omega,by omega⟩
      have := hL iv hiv
      omega
  rw [hout, ← hsplit, hin, Nat.card_Ico]
  unfold clampToWindow
  split <;> omega

theorem clampToWindow_mono {x y : Nat} (h : x ≤ y) :
    clampToWindow start autoPause x ≤ clampToWindow start autoPause y := by
  unfold clampToWindow
  split <;> omega

theorem pausedLength_append_singleton (p r : Nat) :
    pausedLength start autoPause (pauses ++ [(p, r)]) =
      pausedLength start autoPause pauses +
        (clampToWindow start autoPause r - clampToWindow start autoPause p) := by
  simp only [pausedLength, List.map_append, List.map_cons, List.map_nil, List.sum_append,
    List.sum_cons, List.sum_nil, Nat.add_zero]

theorem pauses_append_of_le {p r : Nat} (hsorted : pauses.Pairwise fun a b => a.2 ≤ b.1)
    (hL : ∀ iv ∈ pauses, iv.1 ≤ iv.2 ∧ iv.2 ≤ p) (hpr : p ≤ r) :
    (pauses ++ [(p, r)]).Pairwise (fun a b => a.2 ≤ b.1) ∧
      ∀ iv ∈ pauses ++ [(p, r)], iv.1 ≤ iv.2 ∧ iv.2 ≤ r := by
  refine ⟨List.pairwise_append.mpr ⟨hsorted, List.pairwise_singleton _ _, fun a ha b hb => ?_⟩,
    fun iv hiv => ?_⟩
  · rw [List.mem_singleton.mp hb]
    exact (hL a ha).2
  · rcases List.mem_append.mp hiv with hiv | hiv
    · exact ⟨(hL iv hiv).1, (hL iv hiv).2.trans hpr⟩
    · rw [List.mem_singleton.mp hiv]
      exact ⟨hpr, le_rfl⟩

/-- The active time in closed form: the window's length less the pauses' clamped lengths,
for pauses that follow one another and end by `t`. -/
theorem activeTime_eq {t : Nat} (hsorted : pauses.Pairwise fun a b => a.2 ≤ b.1)
    (hiv : ∀ iv ∈ pauses, iv.1 ≤ iv.2 ∧ iv.2 ≤ t) :
    activeTime start autoPause pauses t =
      clampToWindow start autoPause t - start - pausedLength start autoPause pauses := by
  induction pauses using List.reverseRecOn with
  | nil => simp [activeTime_nil, pausedLength]
  | append_singleton L iv ih =>
    obtain ⟨p,r⟩ := iv
    rw [List.pairwise_append] at hsorted
    obtain ⟨hL,-,hLp⟩ := hsorted
    have hpr := hiv (p, r) (by simp)
    have hLt : ∀ iv ∈ L, iv.1 ≤ iv.2 ∧ iv.2 ≤ t := fun iv h => hiv iv (by simp [h])
    have hstep : activeTime start autoPause (L ++ [(p, r)]) t +
        (clampToWindow start autoPause r - clampToWindow start autoPause p) =
          activeTime start autoPause L t :=
      activeTime_append (fun iv h => hLp iv h (p, r) (by simp)) hpr.1 hpr.2
    rw [ih hL hLt] at hstep
    rw [pausedLength_append_singleton]
    omega

theorem activeTime_append_end {p r : Nat} (hsorted : pauses.Pairwise fun a b => a.2 ≤ b.1)
    (hL : ∀ iv ∈ pauses, iv.1 ≤ iv.2 ∧ iv.2 ≤ p) (hpr : p ≤ r) :
    activeTime start autoPause (pauses ++ [(p, r)]) r = activeTime start autoPause pauses p := by
  have hstep : activeTime start autoPause (pauses ++ [(p, r)]) r +
      (clampToWindow start autoPause r - clampToWindow start autoPause p) =
        activeTime start autoPause pauses r :=
    activeTime_append (fun iv h => (hL iv h).2) hpr le_rfl
  have hr : activeTime start autoPause pauses r =
      clampToWindow start autoPause r - start - pausedLength start autoPause pauses :=
    activeTime_eq hsorted fun iv h => ⟨(hL iv h).1,(hL iv h).2.trans hpr⟩
  have hp : activeTime start autoPause pauses p =
      clampToWindow start autoPause p - start - pausedLength start autoPause pauses :=
    activeTime_eq hsorted hL
  have hmono : clampToWindow start autoPause p ≤ clampToWindow start autoPause r := clampToWindow_mono hpr
  omega

end ActiveTime

theorem scheduleUnits_mono (terms : Terms) (deposits : Nat) {a b : Nat} (h : a ≤ b) :
    scheduleUnits terms deposits a ≤ scheduleUnits terms deposits b := by
  unfold scheduleUnits
  split
  · exact Nat.zero_le _
  · rw [if_neg (show ¬ b < terms.cliffSeconds.toNat by omega)]
    apply Nat.add_le_add_left
    split
    · exact le_rfl
    · exact Nat.div_le_div_right (Nat.mul_le_mul_left _ (by omega))

namespace Stream

variable (s : Stream)

theorem effectiveTime_toNat_eq_clamp (x : UInt64) :
    (s.effectiveTime x).toNat = clampToWindow s.start.toNat s.terms.autoPauseSeconds.toNat x.toNat := by
  have hx := x.toNat_lt
  have hs := s.start.toNat_lt
  rw [effectiveTime_toNat, clampToWindow]
  have hz : (s.terms.autoPauseSeconds = 0) ↔ s.terms.autoPauseSeconds.toNat = 0 := by
    rw [← UInt64.toNat_inj]
    rfl
  by_cases h : s.terms.autoPauseSeconds = 0
  · rw [if_pos h, if_pos (hz.mp h)]
  · rw [if_neg h, if_neg (mt hz.mpr h)]
    omega

theorem earnedUnits_eq_scheduleUnits (a : UInt64) :
    s.earnedUnits a = scheduleUnits s.terms s.totalDeposits.toNat a.toNat := by
  have hD := s.totalDeposits.toNat_lt
  have hcliff : s.cliffUnits.toNat = if s.terms.cliffAmount.toNat ≠ 0 then s.terms.cliffAmount.toNat
      else min s.totalDeposits.toNat (s.totalDeposits.toNat * s.terms.cliffPercent.toNat / 100) := by
    unfold cliffUnits
    by_cases ha : s.terms.cliffAmount = 0
    · have ha' : s.terms.cliffAmount.toNat = 0 := by rw [ha]; rfl
      rw [if_neg (by rw [ha]; decide), if_neg (by simp [ha']),
        Word.toNat_toUInt64 (by omega)]
      omega
    · have ha' : s.terms.cliffAmount.toNat ≠ 0 := fun h => ha (UInt64.toNat_inj.mp (by rw [h]; rfl))
      rw [if_pos (UInt64.pos_iff_ne_zero.mpr ha), if_pos ha']
  have hlinear (h : s.terms.cliffSeconds.toNat ≤ a.toNat) :
      s.linearUnits (a - s.terms.cliffSeconds) =
        if s.terms.rateAmount.toNat = 0 ∨ s.terms.rateInterval.toNat = 0 then 0
        else s.terms.rateAmount.toNat * (a.toNat - s.terms.cliffSeconds.toNat) /
          s.terms.rateInterval.toNat := by
    have hsub : (a - s.terms.cliffSeconds).toNat = a.toNat - s.terms.cliffSeconds.toNat :=
      UInt64.toNat_sub_of_le _ _ (UInt64.le_iff_toNat_le.mpr h)
    unfold linearUnits
    simp only [← UInt64.toNat_inj, UInt64.toNat_zero, hsub]
  rw [earnedUnits_eq, scheduleUnits]
  split
  · rfl
  · rename_i h
    rw [hcliff, hlinear (by omega)]

end Stream

end MoneyStream
