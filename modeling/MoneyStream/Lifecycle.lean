import MoneyStream.Instruction
import MoneyStream.Vesting
/-! # Lifecycle of a stream

Creating, funding, withdrawing from, pausing, resuming and closing a stream. Every operation
checks first and changes the record only when every check passed, so a refused operation
leaves the stream as it was. Two pieces of bookkeeping keep the vested amount continuous:
a *rebase* re-anchors vesting at an instant on a snapshot of what had vested, and settling
a *depletion* counts the seconds since the deposits ran out as paused time.
-/
namespace MoneyStream

structure Clock where
  slot : UInt64
  timestamp : Int64
  deriving DecidableEq, Repr, Inhabited

/-- The wall-clock second, a negative one counted as zero. -/
def Clock.now (c : Clock) : UInt64 :=
  if c.timestamp < 0 then 0 else c.timestamp.toUInt64

structure Settlement where
  beneficiaryAmount : UInt64
  treasurerAmount : UInt64
  deriving DecidableEq, Repr, Inhabited

namespace Stream

/-- A new active stream; a start in the past is moved to the current second. The
beneficiary must differ from the treasurer, the cliff percent may not exceed 100, and a
funded stream's cliff amount may not exceed its funding. -/
def create (treasurer : Pubkey) (p : CreateParams) (beneficiaryToken treasury : Pubkey)
    (clock : Clock) : Except StreamError Stream :=
  if p.beneficiary = treasurer then .error .invalidBeneficiary
  else if p.cliffPercent > 100 then .error .invalidCliff
  else if p.funding > 0 ∧ p.cliffAmount > p.funding then .error .invalidCliff
  else .ok {
    initialized := true, state := .active, bump := p.streamBump, nonce := p.nonce,
    treasurer, beneficiary := p.beneficiary, beneficiaryToken, treasury, terms := p.terms,
    start := max p.start clock.now, totalDeposits := p.funding, totalWithdrawals := 0,
    snapshotUnits := 0, snapshotSlot := 0, snapshotTime := 0, resumeSlot := 0, resumeTime := 0,
    pausedSeconds := 0, pending := none }

def ensureOpen (s : Stream) : Except StreamError Unit :=
  if !s.initialized || s.state == .draft then .error .streamNotInitialized
  else if s.state == .closed then .error .streamClosed
  else .ok ()

def ensureParty (s : Stream) (initiator : Pubkey) : Except StreamError Unit :=
  if initiator ≠ s.treasurer ∧ initiator ≠ s.beneficiary then .error .unauthorized else .ok ()

def rebase (s : Stream) (snapshot : UInt64) (clock : Clock) : Stream :=
  { s with snapshotUnits := snapshot, snapshotSlot := clock.slot, snapshotTime := clock.now,
           resumeSlot := clock.slot, resumeTime := clock.now }

/-- A running stream that ran out of funds stopped vesting when it did: the seconds since
then become paused time, and vesting is rebased on what had vested at depletion. -/
def settleDepletion (s : Stream) (clock : Clock) : Except StreamError Stream :=
  let now := clock.now
  if !s.isDepleted now then .ok s
  else
    let depletedAt := min (s.depletionTime.getD now) now
    let gap := s.effectiveTime now - s.effectiveTime depletedAt
    let snapshot := s.snapshotAt depletedAt
    match Word.add? s.pausedSeconds gap with
    | none => .error .overflow
    | some paused => .ok (({ s with pausedSeconds := paused }).rebase snapshot clock)

def applyResume (s : Stream) (clock : Clock) : Except StreamError Stream :=
  let now := clock.now
  let pausedAt := min s.snapshotTime now
  let gap := s.effectiveTime now - s.effectiveTime pausedAt
  match Word.add? s.pausedSeconds gap with
  | none => .error .overflow
  | some paused =>
    .ok { s with pausedSeconds := paused, resumeSlot := clock.slot, resumeTime := now,
                 state := .active }

/-- Adds to the deposits. Anyone may fund a stream; only a party may ask for a resume with
it. A percent cliff that has already been reached is frozen first, so the new funds do not
change it. -/
def addFunds (s : Stream) (contributor : Pubkey) (amount : UInt64) (resume : Bool)
    (clock : Clock) : Except StreamError Stream := do
  s.ensureOpen
  if amount = 0 then throw .zeroContributionAmount
  if resume then s.ensureParty contributor
  let now := clock.now
  let s ← s.settleDepletion clock
  let s :=
    if s.terms.cliffPercent > 0 ∧ now ≥ s.start ∧ s.activeSeconds now ≥ s.terms.cliffSeconds
    then s.saveEffectiveCliff else s
  let deposits ← (Word.add? s.totalDeposits amount).elim (throw .overflow) pure
  let s := { s with totalDeposits := deposits }
  if resume ∧ s.state = .paused then s.applyResume clock else pure s

def withdraw (s : Stream) (initiator : Pubkey) (amount : UInt64) (clock : Clock) :
    Except StreamError Stream := do
  s.ensureOpen
  if initiator ≠ s.beneficiary then throw .unauthorized
  if amount = 0 then throw .zeroWithdrawalAmount
  if amount > s.withdrawableAmount clock.now then throw .insufficientVestedBalance
  let withdrawals ← (Word.add? s.totalWithdrawals amount).elim (throw .overflow) pure
  pure { s with totalWithdrawals := withdrawals }

def pause (s : Stream) (initiator : Pubkey) (clock : Clock) : Except StreamError Stream := do
  s.ensureOpen
  s.ensureParty initiator
  if s.state ≠ .active then throw .alreadyPaused
  let s ← s.settleDepletion clock
  pure { s with snapshotUnits := s.snapshotAt clock.now, snapshotSlot := clock.slot,
                snapshotTime := clock.now, state := .paused }

/-- Resumes a paused stream. Resuming a stream that only paused itself (past its deadline
or out of funds) changes nothing. -/
def resume (s : Stream) (initiator : Pubkey) (clock : Clock) : Except StreamError Stream := do
  s.ensureOpen
  s.ensureParty initiator
  match s.state with
  | .paused => s.applyResume clock
  | .active => if s.status clock.now = .autoPaused then pure s else throw .notPaused
  | _ => throw .notPaused

/-- Settles and closes a stream: the beneficiary is owed what vested and was not withdrawn,
the treasurer what never vested, and a pending proposal is dropped. -/
def close (s : Stream) (initiator : Pubkey) (clock : Clock) : Except Fault (Settlement × Stream) := do
  s.ensureOpen.mapError .program
  (s.ensureParty initiator).mapError .program
  let v ← s.vesting clock.now
  pure (⟨v.withdrawable, v.unvested⟩,
    { s with totalWithdrawals := v.vested, state := .closed, pending := none })

end Stream

end MoneyStream
