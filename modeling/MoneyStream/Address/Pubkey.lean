import MoneyStream.Bytes.Base58
/-! # Account keys

An account key is 32 bytes, written as base58 text. The all-zero key is the default and
is written as thirty-two `1`s.
-/
namespace MoneyStream

structure Pubkey where
  bytes : Vector UInt8 32
  deriving DecidableEq, Repr

namespace Pubkey

def zero : Pubkey := ⟨Vector.replicate 32 0⟩

instance : Inhabited Pubkey := ⟨zero⟩

def toList (k : Pubkey) : List UInt8 := k.bytes.toList

/-- The key made of the first 32 bytes of a list, zero-filled if it is shorter. -/
def ofListPad (bs : List UInt8) : Pubkey :=
  ⟨Vector.ofFn fun i => bs.getD i.val 0⟩

def ofList? (bs : List UInt8) : Option Pubkey :=
  if bs.length = 32 then some (ofListPad bs) else none

def toBase58 (k : Pubkey) : String := Base58.encode k.toList

def ofBase58? (s : String) : Option Pubkey :=
  (Base58.decode? s).bind ofList?

@[simp] theorem length_toList (k : Pubkey) : k.toList.length = 32 := by
  simp [toList]

end Pubkey

end MoneyStream
