import MoneyStream.Vesting
/-! # Stream views

The read side of a stream: the record's fields with the vesting figures at one instant, and
addresses rendered as base58 text or as the list of their 32 byte values.
-/
namespace MoneyStream

inductive AddressFormat where
  | friendly
  /-- The byte values in decimal, comma-separated, in brackets. -/
  | raw
  deriving DecidableEq, Repr, Inhabited

def AddressFormat.render (f : AddressFormat) (k : Pubkey) : String :=
  match f with
  | .friendly => k.toBase58
  | .raw => "[" ++ ", ".intercalate (k.toList.map fun b => Nat.repr b.toNat) ++ "]"

structure StreamInfo where
  id : String
  memo : String
  state : StreamState
  status : StreamStatus
  treasurer : String
  beneficiary : String
  beneficiaryToken : String
  treasury : String
  mint : String
  terms : Terms
  start : UInt64
  totalDeposits : UInt64
  totalWithdrawals : UInt64
  pausedSeconds : UInt64
  hasPendingUpdate : Bool
  now : UInt64
  vesting : Vesting
  deriving Repr

namespace StreamInfo

def new (id : Pubkey) (s : Stream) (now : UInt64) (f : AddressFormat) : Except Fault StreamInfo := do
  let v ← s.vesting now
  pure {
    id := f.render id, memo := s.memoText, state := s.state, status := s.status now,
    treasurer := f.render s.treasurer, beneficiary := f.render s.beneficiary,
    beneficiaryToken := f.render s.beneficiaryToken, treasury := f.render s.treasury,
    mint := f.render s.terms.mint, terms := s.terms, start := s.start,
    totalDeposits := s.totalDeposits, totalWithdrawals := s.totalWithdrawals,
    pausedSeconds := s.pausedSeconds, hasPendingUpdate := s.pending.isSome, now, vesting := v }

def ofAccountData (id : Pubkey) (data : List UInt8) (now : UInt64) (f : AddressFormat) :
    Except Fault StreamInfo := do
  let s ← (Stream.decode data).mapError .program
  new id s now f

end StreamInfo

end MoneyStream
