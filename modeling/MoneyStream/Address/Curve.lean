/-! # Points of the ed25519 curve

A 32-byte string names a point of the twisted Edwards curve `-x² + y² = 1 + d x² y²` over
the field of `p = 2²⁵⁵ - 19` when its low 255 bits, read little-endian and reduced modulo
`p`, are a `y` for which `x² = (y² - 1) / (d y² + 1)` has a solution. The sign bit is not
looked at. Program-derived addresses are exactly the hashes that name no point.
-/
namespace MoneyStream.Curve

def prime : Nat := (1 <<< 255) - 19

def d : Nat := 37095705934669439343138083508754565189542113879843219016388785533085940283555

def powMod (m b : Nat) : Nat → Nat
  | 0 => 1 % m
  | e + 1 =>
    let h := powMod m b ((e + 1) / 2)
    let h2 := h * h % m
    if (e + 1) % 2 = 0 then h2 else h2 * b % m
termination_by e => e
decreasing_by omega

/-- Euler's criterion: a non-zero field element is a square exactly when its power
`(p - 1) / 2` is one. -/
def isSquare (x : Nat) : Bool :=
  x % prime == 0 || powMod prime x ((prime - 1) / 2) == 1

def yOf (bytes : List UInt8) : Nat :=
  (bytes.foldr (fun b acc => acc * 256 + b.toNat) 0 % (1 <<< 255)) % prime

/-- Whether a 32-byte string names a point: `u = y² - 1` is zero, or `v = d y² + 1` is
non-zero and `u / v` is a square, which is the case exactly when `u v` is one. -/
def isPoint (bytes : List UInt8) : Bool :=
  let y := yOf bytes
  let yy := y * y % prime
  let u := (yy + prime - 1) % prime
  let v := (d * yy + 1) % prime
  u == 0 || (v != 0 && isSquare (u * v % prime))

end MoneyStream.Curve
