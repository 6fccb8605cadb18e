import MoneyStream.Address.Derive
import MoneyStream.Error
import MoneyStream.Record.Layout
/-! # Addresses of a stream

A stream lives at the address derived from the text `stream`, its treasurer and its nonce;
its treasury at the one derived from `treasury` and the stream; the authority that signs for
the escrow at the one derived from `authority` and the treasury. The escrow itself is the
authority's associated token account for the mint. A search that finds no bump is refused
with `noValidBumpFound`; a stored bump that gives no address with `invalidSeeds`.
-/
namespace MoneyStream.Address

def programId : Pubkey :=
  Pubkey.ofListPad [5, 60, 81, 7, 32, 248, 241, 69, 47, 98, 153, 49, 55, 139, 194, 51, 109, 215,
    82, 74, 196, 133, 128, 134, 187, 59, 203, 48, 41, 20, 237, 60]

def feeTreasury : Pubkey :=
  Pubkey.ofListPad [36, 110, 38, 61, 204, 244, 9, 135, 8, 146, 111, 59, 217, 15, 188, 82, 49, 101,
    13, 59, 211, 158, 219, 154, 31, 181, 212, 45, 99, 78, 149, 142]

structure Derived where
  address : Pubkey
  bump : UInt8
  deriving DecidableEq, Repr, Inhabited

def find (seeds : List (List UInt8)) (programId : Pubkey) : Except StreamError Derived :=
  match Derive.findAddress? seeds programId with
  | some (a, b) => .ok ⟨a, b⟩
  | none => .error .noValidBumpFound

def create (seeds : List (List UInt8)) (bump : UInt8) (programId : Pubkey) :
    Except StreamError Pubkey :=
  match Derive.createAddress? (seeds ++ [[bump]]) programId with
  | some a => .ok a
  | none => .error .invalidSeeds

def streamSeeds (treasurer : Pubkey) (nonce : UInt64) : List (List UInt8) :=
  ["stream".toUTF8.toList, treasurer.toList, Layout.wordBytes nonce]

def treasurySeeds (stream : Pubkey) : List (List UInt8) :=
  ["treasury".toUTF8.toList, stream.toList]

def authoritySeeds (treasury : Pubkey) : List (List UInt8) :=
  ["authority".toUTF8.toList, treasury.toList]

/-- The escrow token account: the treasury authority's associated token account. -/
def escrowToken (authority mint : Pubkey) : Pubkey := Derive.associatedToken authority mint

def feeTreasuryToken (mint : Pubkey) : Pubkey := Derive.associatedToken feeTreasury mint

structure StreamAddresses where
  stream : Derived
  treasury : Derived
  authority : Derived
  escrow : Pubkey
  deriving DecidableEq, Repr, Inhabited

/-- Derives the stream, its treasury, the treasury authority and the escrow in turn. -/
def StreamAddresses.derive (treasurer : Pubkey) (nonce : UInt64) (mint programId : Pubkey) :
    Except StreamError StreamAddresses := do
  let stream ← find (streamSeeds treasurer nonce) programId
  let treasury ← find (treasurySeeds stream.address) programId
  let authority ← find (authoritySeeds treasury.address) programId
  pure ⟨stream, treasury, authority, escrowToken authority.address mint⟩

end MoneyStream.Address
