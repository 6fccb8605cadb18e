import MoneyStream.Record.Terms
import MoneyStream.Word
/-! # Stream records

A stream pays a beneficiary from the treasurer's deposits at the rate of its terms. The
record holds the parties, the terms, the deposit and withdrawal totals and the bookkeeping
from which the vested amount is recomputed at any instant: a snapshot of vested units, the
instant vesting last resumed, and the seconds spent paused. It takes 500 bytes; reading
fails unless there are exactly 500 bytes with a known state byte.
-/
namespace MoneyStream

/-- The persisted lifecycle state; `draft` is a zeroed account not yet created. -/
inductive StreamState where
  | draft
  | active
  | paused
  | closed
  deriving DecidableEq, Repr, Inhabited

namespace StreamState

def toByte : StreamState → UInt8
  | draft => 0
  | active => 1
  | paused => 2
  | closed => 3

def ofByte? (b : UInt8) : Option StreamState :=
  match b.toNat with
  | 0 => some draft
  | 1 => some active
  | 2 => some paused
  | 3 => some closed
  | _ => none

def name : StreamState → String
  | draft => "Draft"
  | active => "Active"
  | paused => "Paused"
  | closed => "Closed"

end StreamState

structure Stream where
  initialized : Bool
  state : StreamState
  bump : UInt8
  nonce : UInt64
  treasurer : Pubkey
  beneficiary : Pubkey
  beneficiaryToken : Pubkey
  treasury : Pubkey
  terms : Terms
  start : UInt64
  totalDeposits : UInt64
  totalWithdrawals : UInt64
  /-- Vested units at the last pause or rebase; while paused, the vested amount. -/
  snapshotUnits : UInt64
  snapshotSlot : UInt64
  snapshotTime : UInt64
  /-- The instant from which the current vesting leg accrues; zero until the first rebase. -/
  resumeSlot : UInt64
  resumeTime : UInt64
  /-- Seconds since the start spent paused or out of funds. -/
  pausedSeconds : UInt64
  pending : Option Proposal
  deriving DecidableEq, Repr, Inhabited

namespace Stream

open Layout

def size : Nat := 500

def toBytes (s : Stream) : List UInt8 :=
  [boolByte s.initialized, s.state.toByte, s.bump] ++ wordBytes s.nonce ++ s.treasurer.toList ++
    s.beneficiary.toList ++ s.beneficiaryToken.toList ++ s.treasury.toList ++ s.terms.toBytes ++
    wordBytes s.start ++ wordBytes s.totalDeposits ++ wordBytes s.totalWithdrawals ++
    wordBytes s.snapshotUnits ++ wordBytes s.snapshotSlot ++ wordBytes s.snapshotTime ++
    wordBytes s.resumeSlot ++ wordBytes s.resumeTime ++ wordBytes s.pausedSeconds ++
    Proposal.blockBytes s.pending

def readFields : Cursor (UInt8 × (StreamState → Stream)) := do
  let initialized ← Cursor.flag
  let stateByte ← Cursor.byte
  let bump ← Cursor.byte
  let nonce ← Cursor.word
  let treasurer ← Cursor.key
  let beneficiary ← Cursor.key
  let beneficiaryToken ← Cursor.key
  let treasury ← Cursor.key
  let terms ← Terms.read
  let start ← Cursor.word
  let totalDeposits ← Cursor.word
  let totalWithdrawals ← Cursor.word
  let snapshotUnits ← Cursor.word
  let snapshotSlot ← Cursor.word
  let snapshotTime ← Cursor.word
  let resumeSlot ← Cursor.word
  let resumeTime ← Cursor.word
  let pausedSeconds ← Cursor.word
  let pending ← Proposal.readBlock
  pure (stateByte, fun state => ⟨initialized, state, bump, nonce, treasurer, beneficiary,
    beneficiaryToken, treasury, terms, start, totalDeposits, totalWithdrawals, snapshotUnits,
    snapshotSlot, snapshotTime, resumeSlot, resumeTime, pausedSeconds, pending⟩)

def decode (data : List UInt8) : Except StreamError Stream :=
  if data.length ≠ size then .error .malformedRecord
  else
    let (stateByte, build) := (readFields.run data).1
    match StreamState.ofByte? stateByte with
    | some state => .ok (build state)
    | none => .error .malformedRecord

def memoText (s : Stream) : String := s.terms.memo.text

/-- The units released at the cliff: the cliff amount if set, otherwise the cliff percent
of the deposits, never more than the deposits. -/
def cliffUnits (s : Stream) : UInt64 :=
  if s.terms.cliffAmount > 0 then s.terms.cliffAmount
  else (min (s.totalDeposits.toNat * s.terms.cliffPercent.toNat / 100) s.totalDeposits.toNat).toUInt64

/-- Freezes a percent cliff into an absolute amount, so later deposits do not change a cliff
that has vested; the percent is cleared in any case. -/
def saveEffectiveCliff (s : Stream) : Stream :=
  let amount :=
    if s.terms.cliffAmount = 0 ∧ s.terms.cliffPercent > 0 then s.cliffUnits else s.terms.cliffAmount
  { s with terms := { s.terms with cliffAmount := amount, cliffPercent := 0 } }

def isManuallyPaused (s : Stream) : Bool := s.state == .paused

def counterpartyOf (s : Stream) (party : Pubkey) : Option Pubkey :=
  if party = s.treasurer then some s.beneficiary
  else if party = s.beneficiary then some s.treasurer
  else none

end Stream

end MoneyStream
