/-! # Fixed-width arithmetic

Amounts, timestamps and counters are unsigned 64-bit words. Where a sum or a difference may
leave the range, the program says what happens: it stops at the bound (`addSat`, `subSat`,
`mulSat`), or it fails (`add?`, `sub?`). Wider intermediate values (up to 128 bits) are
natural numbers checked against `2 ^ 128` where the program checks them.

The bounds are written as numbers (`UInt64.size` is `2 ^ 64`), so that they read the same
whatever instance of `^` is in scope.
-/
namespace MoneyStream.Word

def maxValue : UInt64 := 18446744073709551615

def subSat (a b : UInt64) : UInt64 := if b ≤ a then a - b else 0

def addSat (a b : UInt64) : UInt64 :=
  if a.toNat + b.toNat < UInt64.size then a + b else maxValue

def mulSat (a b : UInt64) : UInt64 :=
  if a.toNat * b.toNat < UInt64.size then a * b else maxValue

def add? (a b : UInt64) : Option UInt64 :=
  if a.toNat + b.toNat < UInt64.size then some (a + b) else none

def sub? (a b : UInt64) : Option UInt64 :=
  if b ≤ a then some (a - b) else none

def ofNat? (n : Nat) : Option UInt64 :=
  if n < UInt64.size then some n.toUInt64 else none

def ofNatSat (n : Nat) : UInt64 :=
  if n < UInt64.size then n.toUInt64 else maxValue

def wideSize : Nat := 340282366920938463463374607431768211456

def mulWide? (a b : Nat) : Option Nat :=
  if a * b < wideSize then some (a * b) else none

def addWide? (a b : Nat) : Option Nat :=
  if a + b < wideSize then some (a + b) else none

@[simp] theorem toNat_subSat (a b : UInt64) : (subSat a b).toNat = a.toNat - b.toNat := by
  unfold subSat
  split
  · rename_i h
    rw [UInt64.toNat_sub_of_le _ _ h]
  · rename_i h
    rw [UInt64.not_le] at h
    have : a.toNat < b.toNat := h
    simp only [UInt64.toNat_zero]
    omega

end MoneyStream.Word
