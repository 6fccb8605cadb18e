import MoneyStream.Lifecycle
/-! # Renegotiating terms

Either party proposes a full set of replacement terms; only the other party can answer.
Approval re-anchors vesting at the answer's instant (for a stream already running) and then
replaces every term at once; rejection leaves the terms as they were. Either answer clears
the proposal.
-/
namespace MoneyStream

namespace Stream

/-- Records a proposal by one party, to be answered by the other. Only one proposal may be
pending, the cliff percent may not exceed 100, and the mint may not change. -/
def proposeUpdate (s : Stream) (initiator : Pubkey) (terms : Terms) : Except StreamError Stream := do
  s.ensureOpen
  let counterparty ← (s.counterpartyOf initiator).elim (throw .unauthorized) pure
  if s.pending.isSome then throw .updateAlreadyPending
  if terms.cliffPercent > 100 then throw .invalidCliff
  if terms.mint ≠ s.terms.mint then throw .invalidAssociatedToken
  pure { s with pending := some ⟨initiator, counterparty, terms⟩ }

/-- Answers the pending proposal; only its counterparty may. A paused stream keeps its
snapshot, and the new terms apply from its next resume. -/
def answerUpdate (s : Stream) (initiator : Pubkey) (approve : Bool) (clock : Clock) :
    Except StreamError Stream := do
  s.ensureOpen
  let proposal ← s.pending.elim (throw .noPendingUpdate) pure
  if initiator ≠ proposal.counterparty then throw .unauthorized
  let s ←
    if approve then do
      let s ←
        if s.state = .active ∧ clock.now > s.start then do
          let settled ← s.settleDepletion clock
          pure (settled.rebase (settled.snapshotAt clock.now) clock)
        else pure s
      pure { s with terms := proposal.terms }
    else pure s
  pure { s with pending := none }

end Stream

end MoneyStream
