import MoneyStream.Address.Pubkey
/-! # Byte layouts

Records are plain sequences of fixed-width fields: single bytes, booleans (written as 0 or
1, read as true when non-zero), 64-bit little-endian words, and 32-byte blocks. A record is
read only from exactly as many bytes as its layout spans, so reading a field never runs out
of input; `Cursor` reads the fields in order from the front.
-/
namespace MoneyStream.Layout

def wordBytes (x : UInt64) : List UInt8 :=
  (List.range 8).map fun i => (x >>> (8 * i).toUInt64).toUInt8

def wordOf (bs : List UInt8) : UInt64 :=
  ((bs.take 8).foldr (fun (b : UInt8) (acc : Nat) => acc * 256 + b.toNat) 0).toUInt64

def boolByte (b : Bool) : UInt8 := if b then 1 else 0

abbrev Cursor := StateM (List UInt8)

namespace Cursor

def take (n : Nat) : Cursor (List UInt8) :=
  fun bs => (bs.take n, bs.drop n)

def byte : Cursor UInt8 :=
  fun bs => (bs.headD 0, bs.drop 1)

/-- The next byte as a boolean: true when it is not zero. -/
def flag : Cursor Bool :=
  fun bs => (bs.headD 0 != 0, bs.drop 1)

def word : Cursor UInt64 :=
  fun bs => (wordOf bs, bs.drop 8)

def key : Cursor Pubkey :=
  fun bs => (Pubkey.ofListPad bs, bs.drop 32)

def block : Cursor (Vector UInt8 32) :=
  fun bs => (Vector.ofFn fun i => bs.getD i.val 0, bs.drop 32)

end Cursor

end MoneyStream.Layout
