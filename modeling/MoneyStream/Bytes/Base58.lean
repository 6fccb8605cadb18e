/-! # Base58 text

Bitcoin's base58: a byte string is a big-endian number written in the 58 digits of
`alphabet`, and each leading zero byte is written as the digit for zero. Reading is the
inverse on texts made of those digits.
-/
namespace MoneyStream.Base58

def alphabet : List Char :=
  "123456789ABCDEFGHJKLMNPQRSTUVWXYZabcdefghijkmnopqrstuvwxyz".toList

/-- The digits of `n` in base `base`, least significant first; zero has none. -/
def digitsRev (base : Nat) (h : 1 < base) : Nat → List Nat
  | 0 => []
  | n + 1 => (n + 1) % base :: digitsRev base h ((n + 1) / base)
termination_by n => n
decreasing_by exact Nat.div_lt_self (Nat.succ_pos n) h

def valueBE (base : Nat) (ds : List Nat) : Nat :=
  ds.foldl (fun acc d => acc * base + d) 0

def encode (bytes : List UInt8) : String :=
  let zeros := (bytes.takeWhile (· == 0)).length
  let n := valueBE 256 (bytes.map UInt8.toNat)
  let ds := (digitsRev 58 (by decide) n).reverse
  String.ofList (List.replicate zeros '1' ++ ds.map fun d => alphabet.getD d '1')

def value? (c : Char) : Option Nat :=
  alphabet.idxOf? c

def decode? (text : String) : Option (List UInt8) := do
  let cs := text.toList
  let zeros := (cs.takeWhile (· == '1')).length
  let ds ← (cs.drop zeros).mapM value?
  let n := valueBE 58 ds
  let body := (digitsRev 256 (by decide) n).reverse.map Nat.toUInt8
  pure (List.replicate zeros 0 ++ body)

end MoneyStream.Base58
