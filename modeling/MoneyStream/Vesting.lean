import MoneyStream.Record.Stream
/-! # Vesting

What a stream has vested at an instant is never stored; it is recomputed from the record.
Time is counted in *active seconds*: seconds since the start, capped at the auto-pause
deadline, less the seconds spent paused. Units are *earned* from active seconds: nothing
before the cliff, then the cliff units plus the linear rate. A rebased stream adds what was
earned since its last resume to its snapshot. Figures wider than a word are natural numbers;
they stay below `2 ^ 128`.
-/
namespace MoneyStream

inductive StreamStatus where
  | scheduled
  | running
  | paused
  | autoPaused
  | closed
  deriving DecidableEq, Repr, Inhabited

def StreamStatus.name : StreamStatus → String
  | scheduled => "Scheduled"
  | running => "Running"
  | paused => "Paused"
  | autoPaused => "AutoPaused"
  | closed => "Closed"

structure Vesting where
  vested : UInt64
  withdrawable : UInt64
  unvested : UInt64
  isStreaming : Bool
  estimatedDepletion : Option UInt64
  deriving DecidableEq, Repr, Inhabited

namespace Stream

def autoPauseDeadline (s : Stream) : Option UInt64 :=
  if s.terms.autoPauseSeconds = 0 then none
  else some (Word.addSat s.start s.terms.autoPauseSeconds)

/-- An instant moved into the window where vesting can happen: not before the start, not
after the auto-pause deadline. -/
def effectiveTime (s : Stream) (t : UInt64) : UInt64 :=
  let t := max t s.start
  match s.autoPauseDeadline with
  | some deadline => min t deadline
  | none => t

def activeSeconds (s : Stream) (t : UInt64) : UInt64 :=
  Word.subSat (Word.subSat (s.effectiveTime t) s.start) s.pausedSeconds

def linearUnits (s : Stream) (seconds : UInt64) : Nat :=
  if s.terms.rateAmount = 0 ∨ s.terms.rateInterval = 0 then 0
  else s.terms.rateAmount.toNat * seconds.toNat / s.terms.rateInterval.toNat

/-- Units earned after some active seconds: nothing before the cliff, then the cliff units
plus the linear units of the seconds after it. -/
def earnedUnits (s : Stream) (active : UInt64) : Nat :=
  if active < s.terms.cliffSeconds then 0
  else s.cliffUnits.toNat + s.linearUnits (active - s.terms.cliffSeconds)

def isRebased (s : Stream) : Bool := s.resumeTime > s.start

/-- Vested units at an instant, not clamped: the snapshot while paused, nothing before the
start, and otherwise the snapshot plus what was earned since the last resume (rebased) or
everything earned (not rebased). -/
def vestedUnitsRaw (s : Stream) (now : UInt64) : Nat :=
  if s.isManuallyPaused then s.snapshotUnits.toNat
  else if now < s.start then 0
  else
    let activeNow := s.activeSeconds now
    if s.isRebased then
      s.snapshotUnits.toNat + (s.earnedUnits activeNow - s.earnedUnits (s.activeSeconds s.resumeTime))
    else s.earnedUnits activeNow

def vestedUnits (s : Stream) (now : UInt64) : UInt64 :=
  max (min (s.vestedUnitsRaw now) s.totalDeposits.toNat).toUInt64 s.totalWithdrawals

/-- The vested amount a snapshot records at an instant: not clamped to the deposits, so a
cliff vested while underfunded is still owed, but stopping at the largest word. -/
def snapshotAt (s : Stream) (now : UInt64) : UInt64 :=
  Word.ofNatSat (s.vestedUnitsRaw now)

def withdrawableAmount (s : Stream) (now : UInt64) : UInt64 :=
  s.vestedUnits now - s.totalWithdrawals

def isDepleted (s : Stream) (now : UInt64) : Bool :=
  s.state == .active && now ≥ s.start && s.vestedUnitsRaw now ≥ s.totalDeposits.toNat

def pastDeadline (s : Stream) (now : UInt64) : Bool :=
  match s.autoPauseDeadline with
  | some deadline => now ≥ deadline
  | none => false

def status (s : Stream) (now : UInt64) : StreamStatus :=
  match s.state with
  | .closed => .closed
  | .paused => .paused
  | .draft => .scheduled
  | .active =>
    if now < s.start then .scheduled
    else if s.pastDeadline now then .autoPaused
    else if s.vestedUnitsRaw now ≥ s.totalDeposits.toNat then .autoPaused
    else .running

/-- Seconds after the cliff the rate needs to release `units`, rounded up; none with a zero
rate or interval, or when a figure leaves its width. -/
def rateSeconds (s : Stream) (units : Nat) : Option UInt64 :=
  let rate := s.terms.rateAmount.toNat
  let interval := s.terms.rateInterval.toNat
  if rate = 0 ∨ interval = 0 then none
  else do
    let scaled ← Word.mulWide? units interval
    let rounded ← Word.addWide? scaled (rate - 1)
    Word.ofNat? (rounded / rate)

/-- Active seconds at which the earned units reach `target` on a leg that starts at
`legStart`: the leg's start if already reached, the cliff if its units suffice, otherwise the
cliff plus the seconds the rate needs for the rest (never before the leg's start). -/
def activeSecondsToEarn (s : Stream) (target : Nat) (legStart : UInt64) : Option UInt64 :=
  let cliffUnits := s.cliffUnits.toNat
  if s.earnedUnits legStart ≥ target then some legStart
  else if target ≤ cliffUnits then some s.terms.cliffSeconds
  else do
    let seconds ← s.rateSeconds (target - cliffUnits)
    let active ← Word.add? s.terms.cliffSeconds seconds
    pure (max active legStart)

/-- The first second at which the vested amount reaches the deposits on the current leg;
none when the rate is degenerate, a figure leaves its width, or auto-pause stops the stream
first. On a rebased leg the target is counted in earned units: the deposits plus what was
earned at the resume, less the snapshot. -/
def depletionTime (s : Stream) : Option UInt64 := do
  let (target, legStart) :=
    if s.isRebased then
      let a := s.activeSeconds s.resumeTime
      (s.totalDeposits.toNat + s.earnedUnits a - s.snapshotUnits.toNat, a)
    else (s.totalDeposits.toNat, 0)
  let active ← s.activeSecondsToEarn target legStart
  let base ← Word.add? s.start s.pausedSeconds
  let depletion ← Word.add? base active
  match s.autoPauseDeadline with
  | some deadline => if depletion > deadline then none else some depletion
  | none => some depletion

/-- The vesting figures at an instant. The unvested amount is the deposits less the vested
amount; on a record whose withdrawals exceed its deposits that difference is below zero and
the computation is abandoned. -/
def vesting (s : Stream) (now : UInt64) : Except Fault Vesting :=
  let vested := s.vestedUnits now
  let status := s.status now
  let halted := status == .paused || status == .autoPaused || status == .closed
  let isStreaming := vested < s.totalDeposits && s.terms.rateAmount > 0 && !halted
  let estimated := if status == .paused || status == .closed then none else s.depletionTime
  match Word.sub? s.totalDeposits vested with
  | none => .error .underflow
  | some unvested => .ok ⟨vested, vested - s.totalWithdrawals, unvested, isStreaming, estimated⟩

end Stream

end MoneyStream
