import MoneyStream.Operation
/-! # Calls on a record in place

The calls on a stream record as the program makes them: a call takes the record by mutable
reference, reads and writes its fields in place, and may stop with an error part-way, keeping
whatever it had written by then. `addFunds`, `pause` and `answerUpdate` settle and rebase a copy
of the record and write the copy back at the end; `resume` ends a pause on the record itself;
`withdraw`, `close` and `proposeUpdate` assign fields once their checks have passed. Writes that
cannot fail and follow each other are made in one step.
-/
namespace MoneyStream

/-- A method of a stream record: it reads and writes the record in place, and an error stops it
with the record as it stands. -/
abbrev Method (ε α : Type) := EStateM ε Stream α

namespace Method

variable {ε α : Type}

def check (x : Except ε α) : Method ε α :=
  match x with
  | .ok a => pure a
  | .error e => throw e

def okOr (x : Option α) (e : ε) : Method ε α :=
  match x with
  | some a => pure a
  | none => throw e

/-- Runs a method on a copy of the record and returns the copy; the record itself is left as it
is, also when the method stops with an error. -/
def onCopy (m : Method ε Unit) : Method ε Stream := fun s =>
  match m.run s with
  | .ok _ copy => .ok copy s
  | .error e _ => .error e s

/-- Settles a depletion on the record: the new paused total is computed and checked before any
field is written. -/
def settleDepletion (clock : Clock) : Method StreamError Unit := do
  let s ← get
  let now := clock.now
  if !s.isDepleted now then return
  let depletedAt := min (s.depletionTime.getD now) now
  let gap := s.effectiveTime now - s.effectiveTime depletedAt
  let snapshot := s.snapshotAt depletedAt
  let paused ← okOr (Word.add? s.pausedSeconds gap) .overflow
  modify fun s => ({ s with pausedSeconds := paused }).rebase snapshot clock

def applyResume (clock : Clock) : Method StreamError Unit := do
  let s ← get
  let now := clock.now
  let pausedAt := min s.snapshotTime now
  let gap := s.effectiveTime now - s.effectiveTime pausedAt
  let paused ← okOr (Word.add? s.pausedSeconds gap) .overflow
  modify fun s => { s with pausedSeconds := paused, resumeSlot := clock.slot, resumeTime := now,
                           state := .active }

/-- Adds to the deposits, settling, freezing the cliff and resuming on a copy that is written
back last. -/
def addFunds (contributor : Pubkey) (amount : UInt64) (resume : Bool) (clock : Clock) :
    Method StreamError Unit := do
  let s ← get
  check s.ensureOpen
  if amount = 0 then throw .zeroContributionAmount
  if resume then check (s.ensureParty contributor)
  let now := clock.now
  let updated ← onCopy do
    settleDepletion clock
    let u ← get
    if u.terms.cliffPercent > 0 ∧ now ≥ u.start ∧ u.activeSeconds now ≥ u.terms.cliffSeconds then
      modify Stream.saveEffectiveCliff
    let deposits ← okOr (Word.add? (← get).totalDeposits amount) .overflow
    modify fun u => { u with totalDeposits := deposits }
    if resume ∧ (← get).state = .paused then applyResume clock
  set updated

def withdraw (initiator : Pubkey) (amount : UInt64) (clock : Clock) : Method StreamError Unit := do
  let s ← get
  check s.ensureOpen
  if initiator ≠ s.beneficiary then throw .unauthorized
  if amount = 0 then throw .zeroWithdrawalAmount
  if amount > s.withdrawableAmount clock.now then throw .insufficientVestedBalance
  let withdrawals ← okOr (Word.add? s.totalWithdrawals amount) .overflow
  modify fun s => { s with totalWithdrawals := withdrawals }

def pause (initiator : Pubkey) (clock : Clock) : Method StreamError Unit := do
  let s ← get
  check s.ensureOpen
  check (s.ensureParty initiator)
  if s.state ≠ .active then throw .alreadyPaused
  let updated ← onCopy do
    settleDepletion clock
    modify fun u => { u with snapshotUnits := u.snapshotAt clock.now, snapshotSlot := clock.slot,
                             snapshotTime := clock.now, state := .paused }
  set updated

def resume (initiator : Pubkey) (clock : Clock) : Method StreamError Unit := do
  let s ← get
  check s.ensureOpen
  check (s.ensureParty initiator)
  match s.state with
  | .paused => applyResume clock
  | .active => if s.status clock.now = .autoPaused then pure () else throw .notPaused
  | _ => throw .notPaused

def close (initiator : Pubkey) (clock : Clock) : Method Fault Settlement := do
  let s ← get
  check (s.ensureOpen.mapError .program)
  check ((s.ensureParty initiator).mapError .program)
  let v ← check (s.vesting clock.now)
  modify fun s => { s with totalWithdrawals := v.vested, state := .closed, pending := none }
  pure ⟨v.withdrawable, v.unvested⟩

def proposeUpdate (initiator : Pubkey) (terms : Terms) : Method StreamError Unit := do
  let s ← get
  check s.ensureOpen
  let counterparty ← okOr (s.counterpartyOf initiator) .unauthorized
  if s.pending.isSome then throw .updateAlreadyPending
  if terms.cliffPercent > 100 then throw .invalidCliff
  if terms.mint ≠ s.terms.mint then throw .invalidAssociatedToken
  modify fun s => { s with pending := some ⟨initiator, counterparty, terms⟩ }

/-- Answers the pending proposal; an approval on a running stream settles and rebases a copy
that is written back before the terms are replaced. -/
def answerUpdate (initiator : Pubkey) (approve : Bool) (clock : Clock) :
    Method StreamError Unit := do
  let s ← get
  check s.ensureOpen
  let proposal ← okOr s.pending .noPendingUpdate
  if initiator ≠ proposal.counterparty then throw .unauthorized
  if approve then
    if s.state = .active ∧ clock.now > s.start then
      let updated ← onCopy do
        settleDepletion clock
        modify fun u => u.rebase (u.snapshotAt clock.now) clock
      set updated
    modify fun s => { s with terms := proposal.terms }
  modify fun s => { s with pending := none }

end Method

def Operation.inPlace (op : Operation) (clock : Clock) : Method Fault (Option Settlement) :=
  let plain (m : Method StreamError Unit) : Method Fault (Option Settlement) :=
    (fun _ => none) <$> m.adaptExcept Fault.program
  match op with
  | .addFunds who amount thenResume => plain (Method.addFunds who amount thenResume clock)
  | .withdraw who amount => plain (Method.withdraw who amount clock)
  | .pause who => plain (Method.pause who clock)
  | .resume who => plain (Method.resume who clock)
  | .close who => some <$> Method.close who clock
  | .proposeUpdate who terms => plain (Method.proposeUpdate who terms)
  | .answerUpdate who approve => plain (Method.answerUpdate who approve clock)

end MoneyStream
