import MoneyStream.Address.Curve
import MoneyStream.Address.Pubkey
import MoneyStream.Hash.Sha256
/-! # Program-derived addresses

A program-derived address is the SHA-256 of the seeds, the program's key and the text
`ProgramDerivedAddress`, provided that hash names no curve point, so that no private key can
sign for it. At most sixteen seeds are allowed, each of at most 32 bytes. The search for a
derived address appends a one-byte bump seed and tries the bumps from 255 down to 1.
-/
namespace MoneyStream.Derive

def marker : List UInt8 := "ProgramDerivedAddress".toUTF8.toList

def seedsFit (seeds : List (List UInt8)) : Bool :=
  seeds.length ≤ 16 && seeds.all (·.length ≤ 32)

def digest (seeds : List (List UInt8)) (programId : Pubkey) : List UInt8 :=
  Sha256.hash (seeds.flatten ++ programId.toList ++ marker)

/-- The address of the seeds, if they fit and their hash names no curve point. -/
def createAddress? (seeds : List (List UInt8)) (programId : Pubkey) : Option Pubkey :=
  if seedsFit seeds then
    let h := digest seeds programId
    if Curve.isPoint h then none else some (Pubkey.ofListPad h)
  else none

def bumps : List UInt8 := (List.range 255).map fun i => (255 - i).toUInt8

/-- The first bump from 255 down whose address exists, with that address. The seeds with a
bump appended must fit, or there is none. -/
def findAddress? (seeds : List (List UInt8)) (programId : Pubkey) : Option (Pubkey × UInt8) :=
  if seedsFit (seeds ++ [[0]]) then
    bumps.findSome? fun b => (createAddress? (seeds ++ [[b]]) programId).map (·, b)
  else none

def tokenProgram : Pubkey :=
  Pubkey.ofListPad [6, 221, 246, 225, 215, 101, 161, 147, 217, 203, 225, 70, 206, 235, 121, 172,
    28, 180, 133, 237, 95, 91, 55, 145, 58, 140, 245, 133, 126, 255, 0, 169]

def associatedTokenProgram : Pubkey :=
  Pubkey.ofListPad [140, 151, 37, 143, 78, 36, 137, 241, 187, 61, 16, 41, 20, 142, 13, 131, 11,
    90, 19, 153, 218, 255, 16, 132, 4, 142, 123, 216, 219, 233, 248, 89]

def systemProgram : Pubkey := Pubkey.zero

/-- The associated token account of a wallet for a mint: the address derived by the
associated token account program from the wallet, the token program and the mint. With
three 32-byte seeds some bump is always expected to be found; the zero key stands in should
none be. -/
def associatedToken (wallet mint : Pubkey) : Pubkey :=
  match findAddress? [wallet.toList, tokenProgram.toList, mint.toList] associatedTokenProgram with
  | some (a, _) => a
  | none => Pubkey.zero

end MoneyStream.Derive
