import Mathlib.Data.List.DropRight
import MoneyStream.Record.Terms
/-! # The text of a memo

A memo stores its text as UTF-8 padded with zero bytes to 32 bytes, and reads it back by cutting
the trailing zero bytes and decoding what is left with replacement. Decoding well-formed UTF-8
gives back exactly the characters it encodes, so a text that fits and does not end in U+0000
reads back as itself, while one that ends in U+0000 loses those characters with the padding.
Conversely, a memo is what its own text stores exactly when its bytes up to the last non-zero
one are well-formed UTF-8: a memo holding ill-formed bytes reads as a text whose encoding differs.
Main statement: `memo_text_round_trips`.
-/
namespace MoneyStream

namespace Utf8

theorem toList_loop (b : ByteArray) (i : Nat) (r : List UInt8) :
    ByteArray.toList.loop b i r = r.reverse ++ b.data.toList.drop i := by
  fun_induction ByteArray.toList.loop b i r with
  | case1 i r hi ih =>
    have hi' : i < b.data.toList.length := by simpa using hi
    rw [ih, List.reverse_cons, List.append_assoc, List.singleton_append, List.drop_eq_getElem_cons hi']
    simp [ByteArray.get!, hi]
  | case2 i r hi =>
    rw [List.drop_of_length_le (by simpa using hi), List.append_nil]

theorem toList_eq_data (b : ByteArray) : b.toList = b.data.toList := by
  rw [ByteArray.toList, toList_loop]
  simp

theorem encode_eq (s : String) : encode s = s.toList.flatMap String.utf8EncodeChar := by
  rw [encode, String.toUTF8_eq_toByteArray, ← String.utf8Encode_toList, List.utf8Encode, toList_eq_data,
    List.toList_data_toByteArray]

theorem encode_ofList (cs : List Char) : encode (String.ofList cs) = cs.flatMap String.utf8EncodeChar := by
  rw [encode_eq, String.toList_ofList]

theorem length_encode (s : String) : (encode s).length = s.utf8ByteSize := by
  rw [encode, String.toUTF8_eq_toByteArray, toList_eq_data, Array.length_toList]
  exact String.size_toByteArray

theorem toNat_ofNat_lt {n : Nat} (h : n < 256) : (UInt8.ofNat n).toNat = n :=
  UInt8.toNat_ofNat_of_lt' h

theorem leadShape_eq (b : UInt8) : leadShape b =
    if 0xC2 ≤ b.toNat ∧ b.toNat ≤ 0xDF then some (1, 0x80, 0xBF)
    else if b.toNat = 0xE0 then some (2, 0xA0, 0xBF)
    else if b.toNat = 0xED then some (2, 0x80, 0x9F)
    else if 0xE1 ≤ b.toNat ∧ b.toNat ≤ 0xEF then some (2, 0x80, 0xBF)
    else if b.toNat = 0xF0 then some (3, 0x90, 0xBF)
    else if 0xF1 ≤ b.toNat ∧ b.toNat ≤ 0xF3 then some (3, 0x80, 0xBF)
    else if b.toNat = 0xF4 then some (3, 0x80, 0x8F)
    else none := by
  simp only [leadShape, UInt8.le_iff_toNat_le, ← UInt8.toNat_inj, UInt8.reduceToNat]

theorem encodeChar_one (c : Char) (rest : List UInt8) (h : c.toNat ≤ 0x7f) :
    String.utf8EncodeChar c = [UInt8.ofNat c.toNat] ∧ scalarAfter (UInt8.ofNat c.toNat) rest = (c, 0) := by
  have hb := toNat_ofNat_lt (show c.toNat < 256 by omega)
  constructor
  · simp only [String.utf8EncodeChar, Char.toNat_val]
    rw [if_pos h]
  · simp only [scalarAfter, UInt8.lt_iff_toNat_lt, hb]
    rw [if_pos (by simp only [UInt8.reduceToNat]; omega), Char.ofNat_toNat]

theorem encodeChar_two (c : Char) (rest : List UInt8) (h1 : 0x7f < c.toNat) (h2 : c.toNat ≤ 0x7ff) :
    String.utf8EncodeChar c = [UInt8.ofNat (c.toNat / 64 % 32 + 0xc0), UInt8.ofNat (c.toNat % 64 + 0x80)] ∧
    scalarAfter (UInt8.ofNat (c.toNat / 64 % 32 + 0xc0)) (UInt8.ofNat (c.toNat % 64 + 0x80) :: rest) =
      (c, 1) := by
  have hb0 := toNat_ofNat_lt (show c.toNat / 64 % 32 + 0xc0 < 256 by omega)
  have hb1 := toNat_ofNat_lt (show c.toNat % 64 + 0x80 < 256 by omega)
  have hval : (c.toNat / 64 % 32 + 0xc0) % 32 * 64 + (c.toNat % 64 + 0x80) % 64 = c.toNat := by omega
  constructor
  · simp only [String.utf8EncodeChar, Char.toNat_val]
    rw [if_neg (by omega), if_pos h2]
  · simp only [scalarAfter, leadShape_eq, payload, UInt8.lt_iff_toNat_lt, UInt8.le_iff_toNat_le, hb0,
      UInt8.reduceToNat]
    simp (disch := omega) only [if_pos, if_neg, hb1, UInt8.reduceToNat, if_true, hval, Char.ofNat_toNat]

/-- Three bytes: the lead byte `E0` admits only second bytes that avoid overlong forms, and `ED`
only those below the surrogates, which no character takes. -/
theorem encodeChar_three (c : Char) (rest : List UInt8) (h1 : 0x7ff < c.toNat) (h2 : c.toNat ≤ 0xffff)
    (hs : c.toNat < 0xd800 ∨ 0xdfff < c.toNat) :
    String.utf8EncodeChar c = [UInt8.ofNat (c.toNat / 4096 % 16 + 0xe0),
      UInt8.ofNat (c.toNat / 64 % 64 + 0x80), UInt8.ofNat (c.toNat % 64 + 0x80)] ∧
    scalarAfter (UInt8.ofNat (c.toNat / 4096 % 16 + 0xe0))
      (UInt8.ofNat (c.toNat / 64 % 64 + 0x80) :: UInt8.ofNat (c.toNat % 64 + 0x80) :: rest) = (c, 2) := by
  have hb0 := toNat_ofNat_lt (show c.toNat / 4096 % 16 + 0xe0 < 256 by omega)
  have hb1 := toNat_ofNat_lt (show c.toNat / 64 % 64 + 0x80 < 256 by omega)
  have hb2 := toNat_ofNat_lt (show c.toNat % 64 + 0x80 < 256 by omega)
  have hval : (c.toNat / 4096 % 16 + 0xe0) % 16 * 4096 + (c.toNat / 64 % 64 + 0x80) % 64 * 64 +
      (c.toNat % 64 + 0x80) % 64 = c.toNat := by omega
  constructor
  · simp only [String.utf8EncodeChar, Char.toNat_val]
    rw [if_neg (by omega), if_neg (by omega), if_pos h2]
  · simp only [scalarAfter, leadShape_eq, isContinuation, payload, UInt8.lt_iff_toNat_lt,
      UInt8.le_iff_toNat_le, hb0, UInt8.reduceToNat]
    simp (disch := omega) only [if_pos, if_neg]
    split_ifs <;> simp (disch := omega) only [hb1, hb2, UInt8.reduceToNat, if_pos, if_neg, if_true,
      Bool.and_eq_true, decide_eq_true_eq, hval, Char.ofNat_toNat]

/-- Four bytes: the lead byte `F0` admits only second bytes that avoid overlong forms, and `F4`
only those that stay at or below U+10FFFF. -/
theorem encodeChar_four (c : Char) (rest : List UInt8) (h1 : 0xffff < c.toNat) (h2 : c.toNat < 0x110000) :
    String.utf8EncodeChar c = [UInt8.ofNat (c.toNat / 262144 % 8 + 0xf0),
      UInt8.ofNat (c.toNat / 4096 % 64 + 0x80), UInt8.ofNat (c.toNat / 64 % 64 + 0x80),
      UInt8.ofNat (c.toNat % 64 + 0x80)] ∧
    scalarAfter (UInt8.ofNat (c.toNat / 262144 % 8 + 0xf0))
      (UInt8.ofNat (c.toNat / 4096 % 64 + 0x80) :: UInt8.ofNat (c.toNat / 64 % 64 + 0x80) ::
        UInt8.ofNat (c.toNat % 64 + 0x80) :: rest) = (c, 3) := by
  have hb0 := toNat_ofNat_lt (show c.toNat / 262144 % 8 + 0xf0 < 256 by omega)
  have hb1 := toNat_ofNat_lt (show c.toNat / 4096 % 64 + 0x80 < 256 by omega)
  have hb2 := toNat_ofNat_lt (show c.toNat / 64 % 64 + 0x80 < 256 by omega)
  have hb3 := toNat_ofNat_lt (show c.toNat % 64 + 0x80 < 256 by omega)
  have hval : (c.toNat / 262144 % 8 + 0xf0) % 8 * 262144 + (c.toNat / 4096 % 64 + 0x80) % 64 * 4096 +
      (c.toNat / 64 % 64 + 0x80) % 64 * 64 + (c.toNat % 64 + 0x80) % 64 = c.toNat := by omega
  constructor
  · simp only [String.utf8EncodeChar, Char.toNat_val]
    rw [if_neg (by omega), if_neg (by omega), if_neg (by omega)]
  · simp only [scalarAfter, leadShape_eq, isContinuation, payload, UInt8.lt_iff_toNat_lt,
      UInt8.le_iff_toNat_le, hb0, UInt8.reduceToNat]
    simp (disch := omega) only [if_pos, if_neg]
    split_ifs <;> simp (disch := omega) only [hb1, hb2, hb3, UInt8.reduceToNat, if_pos, if_neg,
      Bool.and_eq_true, decide_eq_true_eq, hval, Char.ofNat_toNat]

theorem decodeLossy_cons (b : UInt8) (rest : List UInt8) :
    decodeLossy (b :: rest) = (scalarAfter b rest).1 :: decodeLossy (rest.drop (scalarAfter b rest).2) := by
  rw [decodeLossy]

theorem decodeLossy_utf8EncodeChar_append (c : Char) (rest : List UInt8) :
    decodeLossy (String.utf8EncodeChar c ++ rest) = c :: decodeLossy rest := by
  have hc : c.toNat < 0xd800 ∨ (0xdfff < c.toNat ∧ c.toNat < 0x110000) := c.valid
  by_cases h1 : c.toNat ≤ 0x7f
  · obtain ⟨he, hd⟩ := encodeChar_one c rest h1
    rw [he, List.singleton_append, decodeLossy_cons, hd, List.drop_zero]
  by_cases h2 : c.toNat ≤ 0x7ff
  · obtain ⟨he, hd⟩ := encodeChar_two c rest (by omega) h2
    rw [he, List.cons_append, List.singleton_append, decodeLossy_cons, hd]
    rfl
  by_cases h3 : c.toNat ≤ 0xffff
  · obtain ⟨he, hd⟩ := encodeChar_three c rest (by omega) h3 (by omega)
    rw [he, List.cons_append, List.cons_append, List.singleton_append, decodeLossy_cons, hd]
    rfl
  · obtain ⟨he, hd⟩ := encodeChar_four c rest (by omega) (by omega)
    rw [he, List.cons_append, List.cons_append, List.cons_append, List.singleton_append,
      decodeLossy_cons, hd]
    rfl

theorem decodeLossy_flatMap (cs : List Char) : decodeLossy (cs.flatMap String.utf8EncodeChar) = cs := by
  induction cs with
  | nil => rw [List.flatMap_nil, decodeLossy]
  | cons c cs ih => rw [List.flatMap_cons, decodeLossy_utf8EncodeChar_append, ih]

/-- Well-formed UTF-8 reads back unchanged: decoding the bytes of a text gives its characters,
with nothing replaced. -/
theorem decodeLossy_encode (s : String) : decodeLossy (encode s) = s.toList := by
  rw [encode_eq, decodeLossy_flatMap]

theorem utf8EncodeChar_nul : String.utf8EncodeChar (Char.ofNat 0) = [0] := rfl

theorem utf8EncodeChar_eq_concat (c : Char) (hc : c ≠ Char.ofNat 0) :
    ∃ bs b, String.utf8EncodeChar c = bs ++ [b] ∧ b ≠ 0 := by
  have hv : c.toNat < 0xd800 ∨ (0xdfff < c.toNat ∧ c.toNat < 0x110000) := c.valid
  have hpos : c.toNat ≠ 0 := fun h0 => hc (by rw [← Char.ofNat_toNat c, h0])
  -- every encoding but a one-byte one ends in a continuation byte, which is at least 0x80
  have hcont : UInt8.ofNat (c.toNat % 64 + 0x80) ≠ 0 := by
    intro h0
    have := toNat_ofNat_lt (show c.toNat % 64 + 0x80 < 256 by omega)
    rw [h0] at this
    simp only [UInt8.reduceToNat] at this
    omega
  by_cases h1 : c.toNat ≤ 0x7f
  · refine ⟨[], _, (encodeChar_one c [] h1).1, fun h0 => hpos ?_⟩
    have := toNat_ofNat_lt (show c.toNat < 256 by omega)
    rw [h0] at this
    simpa using this.symm
  by_cases h2 : c.toNat ≤ 0x7ff
  · exact ⟨[_], _, (encodeChar_two c [] (by omega) h2).1, hcont⟩
  by_cases h3 : c.toNat ≤ 0xffff
  · exact ⟨[_, _], _, (encodeChar_three c [] (by omega) h3 (by omega)).1, hcont⟩
  · exact ⟨[_, _, _], _, (encodeChar_four c [] (by omega) (by omega)).1, hcont⟩

theorem rdropWhile_flatMap (cs : List Char) :
    (cs.flatMap String.utf8EncodeChar).rdropWhile (· == 0) =
      (cs.rdropWhile (· == Char.ofNat 0)).flatMap String.utf8EncodeChar := by
  induction cs using List.reverseRecOn with
  | nil => rfl
  | append_singleton cs c ih =>
    rw [List.flatMap_append, List.flatMap_singleton]
    by_cases hc : c = Char.ofNat 0
    · subst hc
      rw [utf8EncodeChar_nul, List.rdropWhile_concat_pos (· == 0) _ _ rfl,
        List.rdropWhile_concat_pos (· == Char.ofNat 0) _ _ (beq_self_eq_true _), ih]
    · obtain ⟨bs, b, he, hb⟩ := utf8EncodeChar_eq_concat c hc
      rw [he, ← List.append_assoc, List.rdropWhile_concat_neg (· == 0) _ _ (by simpa using hb),
        List.rdropWhile_concat_neg (· == Char.ofNat 0) _ _ (by simpa using hc), List.flatMap_append,
        List.flatMap_singleton, he, List.append_assoc]

end Utf8

namespace Memo

theorem toList_inj {m m' : Memo} : m.toList = m'.toList ↔ m = m' := by
  cases m
  cases m'
  simp [toList, Vector.toList_inj]

theorem toList_ofFn_getD {n : Nat} {bs : List UInt8} (h : bs.length ≤ n) :
    (Vector.ofFn fun i : Fin n => bs.getD i.val 0).toList = bs ++ List.replicate (n - bs.length) 0 := by
  apply List.ext_getElem
  · simp
    omega
  · intro i h1 _
    simp only [Vector.length_toList] at h1
    by_cases hi : i < bs.length
    · simp [List.getD_eq_getElem?_getD, List.getElem?_eq_getElem hi, List.getElem_append_left hi]
    · simp [List.getD_eq_getElem?_getD, List.getElem?_eq_none (by omega : bs.length ≤ i),
        List.getElem_append_right (by omega : bs.length ≤ i)]

theorem ofText_eq_ok_iff {s : String} {m : Memo} : ofText s = .ok m ↔
    (Utf8.encode s).length ≤ 32 ∧
      m.toList = Utf8.encode s ++ List.replicate (32 - (Utf8.encode s).length) 0 := by
  by_cases h : (Utf8.encode s).length > 32
  · simp only [ofText, h, if_true, reduceCtorEq, false_iff, not_and]
    omega
  · have hle : (Utf8.encode s).length ≤ 32 := by omega
    simp only [ofText, h, if_false, Except.ok.injEq, hle, true_and]
    rw [← toList_ofFn_getD hle, eq_comm]
    exact toList_inj.symm

theorem ofText_eq_error_iff (s : String) : ofText s = .error .stringTooLong ↔ 32 < s.utf8ByteSize := by
  rw [← Utf8.length_encode]
  by_cases h : (Utf8.encode s).length > 32 <;> simp [ofText, h]

theorem rdropWhile_append_replicate (xs : List UInt8) (k : Nat) :
    (xs ++ List.replicate k 0).rdropWhile (· == 0) = xs.rdropWhile (· == 0) := by
  induction k with
  | zero => rw [List.replicate_zero, List.append_nil]
  | succ k ih =>
    rw [List.replicate_succ', ← List.append_assoc, List.rdropWhile_concat_pos _ _ _ rfl, ih]

theorem rdropWhile_append_replicate_eq (l : List UInt8) :
    l.rdropWhile (· == 0) ++ List.replicate (l.length - (l.rdropWhile (· == 0)).length) 0 = l := by
  have hsplit := List.rdropWhile_append_rtakeWhile (p := (· == 0)) (l := l)
  have hzero : l.rtakeWhile (· == 0) = List.replicate (l.length - (l.rdropWhile (· == 0)).length) 0 := by
    rw [List.eq_replicate_iff]
    refine ⟨?_, fun b hb => by simpa using List.mem_rtakeWhile_imp hb⟩
    have := congrArg List.length hsplit
    rw [List.length_append] at this
    omega
  rw [← hzero, hsplit]

theorem text_eq (m : Memo) : m.text = String.ofList (Utf8.decodeLossy (m.toList.rdropWhile (· == 0))) := rfl

theorem length_toList (m : Memo) : m.toList.length = 32 := by
  simp [toList]

theorem text_ofText {s : String} (hs : s.utf8ByteSize ≤ 32) (hl : s.toList.getLast? ≠ some (Char.ofNat 0)) :
    ∃ m, ofText s = .ok m ∧ m.text = s := by
  have hlen : (Utf8.encode s).length ≤ 32 := by rw [Utf8.length_encode]; exact hs
  obtain ⟨m, hm⟩ : ∃ m, ofText s = .ok m := by simp [ofText, show ¬(Utf8.encode s).length > 32 by omega]
  have htl := (ofText_eq_ok_iff.mp hm).2
  -- no trailing U+0000, so cutting the trailing zero bytes cuts exactly the padding
  have hkeep : s.toList.rdropWhile (· == Char.ofNat 0) = s.toList := by
    rw [List.rdropWhile_eq_self_iff]
    intro hne hlast
    exact hl (by rw [List.getLast?_eq_some_getLast hne, beq_iff_eq.mp hlast])
  refine ⟨m, hm, ?_⟩
  rw [text_eq, htl, rdropWhile_append_replicate, Utf8.encode_eq, Utf8.rdropWhile_flatMap, hkeep,
    Utf8.decodeLossy_flatMap, String.ofList_toList]

/-- A memo whose bytes up to the last non-zero one are well-formed UTF-8 is what its text
stores; one whose bytes are not reads as a text that stores something else. -/
theorem ofText_text_iff (m : Memo) :
    ofText m.text = .ok m ↔ (m.toList.rdropWhile (· == 0)).toByteArray.IsValidUTF8 := by
  constructor
  · intro h
    have htl := (ofText_eq_ok_iff.mp h).2
    have hcut : m.toList.rdropWhile (· == 0) =
        (m.text.toList.rdropWhile (· == Char.ofNat 0)).flatMap String.utf8EncodeChar := by
      rw [htl, rdropWhile_append_replicate, Utf8.encode_eq, Utf8.rdropWhile_flatMap]
    rw [hcut]
    exact ByteArray.isValidUTF8_utf8Encode
  · rintro ⟨cs, hcs⟩
    have hcut : m.toList.rdropWhile (· == 0) = cs.flatMap String.utf8EncodeChar :=
      List.toByteArray_inj.mp hcs
    have htext : m.text = String.ofList cs := by rw [text_eq, hcut, Utf8.decodeLossy_flatMap]
    have hpad := rdropWhile_append_replicate_eq m.toList
    rw [length_toList] at hpad
    have hlen : (m.toList.rdropWhile (· == 0)).length ≤ 32 := by
      have := congrArg List.length hpad
      rw [List.length_append, length_toList] at this
      omega
    rw [htext, ofText_eq_ok_iff, Utf8.encode_ofList, ← hcut]
    exact ⟨hlen, hpad.symm⟩

/-- Storing and reading memo text: a text is refused as too long exactly when its UTF-8 takes
more than 32 bytes; a text that fits and does not end in U+0000 reads back as itself; and a memo
is what its own text stores exactly when its bytes up to the last non-zero one are well-formed
UTF-8. -/
theorem memo_text_round_trips :
    (∀ s : String, ofText s = .error .stringTooLong ↔ 32 < s.utf8ByteSize) ∧
    (∀ s : String, s.utf8ByteSize ≤ 32 → s.toList.getLast? ≠ some (Char.ofNat 0) →
      ∃ m, ofText s = .ok m ∧ m.text = s) ∧
    (∀ m : Memo, ofText m.text = .ok m ↔ (m.toList.rdropWhile (· == 0)).toByteArray.IsValidUTF8) :=
  ⟨ofText_eq_error_iff, fun _ hs hl => text_ofText hs hl, ofText_text_iff⟩

end Memo

end MoneyStream
