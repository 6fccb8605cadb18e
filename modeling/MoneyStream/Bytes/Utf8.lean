/-! # UTF-8 text with replacement

`decodeLossy` reads a byte string as UTF-8 and replaces every maximal ill-formed subpart
(the longest prefix of a would-be sequence that is still a valid start) by U+FFFD, the
practice that Unicode recommends for conversion. Well-formed input reads as its characters.
-/
namespace MoneyStream.Utf8

def replacement : Char := '�'

/-- For a lead byte of a multi-byte sequence: how many continuation bytes follow and the
range allowed for the first of them (which excludes overlong forms, surrogates and values
above U+10FFFF). -/
def leadShape (b : UInt8) : Option (Nat × UInt8 × UInt8) :=
  if 0xC2 ≤ b ∧ b ≤ 0xDF then some (1, 0x80, 0xBF)
  else if b = 0xE0 then some (2, 0xA0, 0xBF)
  else if b = 0xED then some (2, 0x80, 0x9F)
  else if 0xE1 ≤ b ∧ b ≤ 0xEF then some (2, 0x80, 0xBF)
  else if b = 0xF0 then some (3, 0x90, 0xBF)
  else if 0xF1 ≤ b ∧ b ≤ 0xF3 then some (3, 0x80, 0xBF)
  else if b = 0xF4 then some (3, 0x80, 0x8F)
  else none

def isContinuation (b : UInt8) : Bool :=
  0x80 ≤ b && b ≤ 0xBF

def payload (b : UInt8) : Nat :=
  b.toNat % 64

/-- The character read after lead byte `b` from `rest`, and how many bytes of `rest` it
takes; an ill-formed subpart reads as `replacement`. -/
def scalarAfter (b : UInt8) (rest : List UInt8) : Char × Nat :=
  if b < 0x80 then (Char.ofNat b.toNat, 0) else
  match leadShape b, rest with
  | some (n, lo, hi), c1 :: more =>
    if lo ≤ c1 ∧ c1 ≤ hi then
      if n = 1 then (Char.ofNat ((b.toNat % 32) * 64 + payload c1), 1) else
      match more with
      | c2 :: more2 =>
        if isContinuation c2 then
          if n = 2 then
            (Char.ofNat ((b.toNat % 16) * 4096 + payload c1 * 64 + payload c2), 2)
          else
            match more2 with
            | c3 :: _ =>
              if isContinuation c3 then
                (Char.ofNat ((b.toNat % 8) * 262144 + payload c1 * 4096 + payload c2 * 64
                  + payload c3), 3)
              else (replacement, 2)
            | [] => (replacement, 2)
        else (replacement, 1)
      | [] => (replacement, 1)
    else (replacement, 0)
  | _, _ => (replacement, 0)

def decodeLossy : List UInt8 → List Char
  | [] => []
  | b :: rest =>
    let r := scalarAfter b rest
    r.1 :: decodeLossy (rest.drop r.2)
termination_by bytes => bytes.length
decreasing_by simp only [List.length_drop, List.length_cons]; omega

def encode (s : String) : List UInt8 :=
  s.toUTF8.toList

end MoneyStream.Utf8
