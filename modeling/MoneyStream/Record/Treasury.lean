import MoneyStream.Error
import MoneyStream.Record.Layout
/-! # Treasury records

A treasury is the escrow holder of one stream: it names the stream, the mint and the escrow
token account, and keeps the bumps of its own address and of the authority that signs for
the escrow. It takes 107 bytes.
-/
namespace MoneyStream

structure Treasury where
  initialized : Bool
  bump : UInt8
  authorityBump : UInt8
  stream : Pubkey
  mint : Pubkey
  escrow : Pubkey
  createdAt : UInt64
  deriving DecidableEq, Repr, Inhabited

namespace Treasury

open Layout

def size : Nat := 107

def toBytes (t : Treasury) : List UInt8 :=
  [boolByte t.initialized, t.bump, t.authorityBump] ++ t.stream.toList ++ t.mint.toList ++
    t.escrow.toList ++ wordBytes t.createdAt

def read : Cursor Treasury := do
  let initialized ← Cursor.flag
  let bump ← Cursor.byte
  let authorityBump ← Cursor.byte
  let stream ← Cursor.key
  let mint ← Cursor.key
  let escrow ← Cursor.key
  let createdAt ← Cursor.word
  pure ⟨initialized, bump, authorityBump, stream, mint, escrow, createdAt⟩

def decode (data : List UInt8) : Except StreamError Treasury :=
  if data.length ≠ size then .error .malformedRecord else .ok (read.run data).1

/-- Checks that the treasury is set up, backs `stream` and escrows `mint`. -/
def validateFor (t : Treasury) (stream mint : Pubkey) : Except StreamError Unit :=
  if !t.initialized || t.stream != stream then .error .invalidTreasury
  else if t.mint != mint then .error .invalidAssociatedToken
  else .ok ()

end Treasury

end MoneyStream
