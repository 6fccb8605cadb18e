import MoneyStream.Record.Stream
import MoneyStream.Record.Treasury
/-! # Records read back what they write

A record is written as its fields one after the other and read by a cursor that takes each
field's bytes from the front. Reading gives back every record that was written, in front of
any rest. Writing what was read gives back the bytes read, except where reading forgets: a
boolean byte reads any non-zero byte as true, a state byte above 3 is refused, and a proposal
block whose flag is zero reads as nothing pending whatever its other 176 bytes hold.

The reading lemmas come in two sets. Forward, each reader applied to a field's bytes followed
by a rest returns the field and the rest (`word_append`, `Terms.read_append`, ...). Backward,
a reader started at offset `a` of a list returns a value whose bytes, followed by the list from
offset `a + width`, are the list from offset `a` again (`wordBytes_word`, `Terms.toBytes_read`,
...). Both are stated so that `simp` strings them along a record, field by field.

Main statement: `records_round_trip`.
-/
namespace MoneyStream.Layout

theorem wordBytes_eq (x : UInt64) : wordBytes x =
    [x.toUInt8, (x >>> 8).toUInt8, (x >>> 16).toUInt8, (x >>> 24).toUInt8, (x >>> 32).toUInt8,
      (x >>> 40).toUInt8, (x >>> 48).toUInt8, (x >>> 56).toUInt8] := by
  simp [wordBytes, List.range_succ]

@[simp] theorem length_wordBytes (x : UInt64) : (wordBytes x).length = 8 := by
  simp [wordBytes]

theorem wordOf_wordBytes_append (x : UInt64) (rest : List UInt8) :
    wordOf (wordBytes x ++ rest) = x := by
  have hx := x.toNat_lt
  rw [wordBytes_eq]
  simp only [wordOf, List.cons_append, List.nil_append, List.take_succ_cons, List.take_zero,
    List.foldr_cons, List.foldr_nil]
  apply UInt64.toNat_inj.mp
  simp [UInt64.toNat_shiftRight]
  omega

theorem wordBytes_wordOf {bs : List UInt8} (h : 8 ≤ bs.length) : wordBytes (wordOf bs) = bs.take 8 := by
  match bs, h with
  | b0 :: b1 :: b2 :: b3 :: b4 :: b5 :: b6 :: b7 :: rest, _ =>
    have := b0.toNat_lt; have := b1.toNat_lt; have := b2.toNat_lt; have := b3.toNat_lt
    have := b4.toNat_lt; have := b5.toNat_lt; have := b6.toNat_lt; have := b7.toNat_lt
    rw [wordBytes_eq]
    simp only [wordOf, List.take_succ_cons, List.take_zero, List.foldr_cons, List.foldr_nil,
      List.cons.injEq]
    -- byte `i` of the word is the `i`-th base-256 digit of the sum the bytes were read into
    refine ⟨?_, ?_, ?_, ?_, ?_, ?_, ?_, ?_, trivial⟩ <;> apply UInt8.toNat_inj.mp <;>
      simp [UInt64.toNat_shiftRight, Nat.toUInt64] <;> omega

theorem ofFn_getD_append {n : Nat} (v : Vector UInt8 n) (rest : List UInt8) :
    (Vector.ofFn fun i : Fin n => (v.toList ++ rest).getD i.val 0) = v := by
  ext i hi
  have hlen : i < v.toList.length := by simpa using hi
  rw [Vector.getElem_ofFn, List.getD_eq_getElem?_getD, List.getElem?_append_left hlen]
  simp [hi]

theorem toList_ofFn_getD {n : Nat} {bs : List UInt8} (h : n ≤ bs.length) :
    (Vector.ofFn fun i : Fin n => bs.getD i.val 0).toList = bs.take n := by
  apply List.ext_getElem
  · simp [h]
  · intro i h1 _
    simp only [Vector.length_toList] at h1
    simp [List.getD_eq_getElem?_getD, List.getElem?_eq_getElem (show i < bs.length by omega)]

theorem take_append_drop_of_add {l : List UInt8} {a n b : Nat} (h : a + n = b) :
    (l.drop a).take n ++ l.drop b = l.drop a := by
  subst h
  rw [← List.drop_drop, List.take_append_drop]

theorem boolByte_le_one (b : Bool) : boolByte b ≤ 1 := by
  cases b <;> decide

theorem boolByte_eq_zero_iff {b : Bool} : boolByte b = 0 ↔ b = false := by
  cases b <;> decide

theorem eq_zero_or_eq_one_of_le_one {x : UInt8} (h : x ≤ 1) : x = 0 ∨ x = 1 := by
  have hx : x.toNat ≤ 1 := h
  rcases Nat.le_one_iff_eq_zero_or_eq_one.mp hx with h0 | h1
  · exact .inl (UInt8.toNat_inj.mp h0)
  · exact .inr (UInt8.toNat_inj.mp h1)

theorem boolByte_bne_zero {x : UInt8} (h : x ≤ 1) : boolByte (x != 0) = x := by
  rcases eq_zero_or_eq_one_of_le_one h with rfl | rfl <;> rfl

theorem boolByte_bne_zero_iff {x : UInt8} : boolByte (x != 0) = x ↔ x ≤ 1 :=
  ⟨fun h => h ▸ boolByte_le_one _, boolByte_bne_zero⟩

theorem getD_cons_drop {l : List UInt8} {a b : Nat} (hb : a + 1 = b) (hl : b ≤ l.length) :
    l.getD a 0 :: l.drop b = l.drop a := by
  subst hb
  have ha : a < l.length := by omega
  rw [List.drop_eq_getElem_cons ha, ← List.getElem_eq_getD 0]

theorem boolByte_cons_drop {l : List UInt8} {a b : Nat} (hb : a + 1 = b) (hl : b ≤ l.length)
    (hf : l.getD a 0 ≤ 1) : boolByte (l.getD a 0 != 0) :: l.drop b = l.drop a := by
  rw [boolByte_bne_zero hf, getD_cons_drop hb hl]

namespace Cursor

variable {α β : Type}

@[simp] theorem bind_apply (x : Cursor α) (f : α → Cursor β) (bs : List UInt8) :
    (x >>= f) bs = f (x bs).1 (x bs).2 := rfl

@[simp] theorem pure_apply (a : α) (bs : List UInt8) : (pure a : Cursor α) bs = (a, bs) := rfl

@[simp] theorem map_apply (f : α → β) (x : Cursor α) (bs : List UInt8) :
    (f <$> x) bs = (f (x bs).1, (x bs).2) := rfl

@[simp] theorem word_snd (bs : List UInt8) : (word bs).2 = bs.drop 8 := rfl

@[simp] theorem key_snd (bs : List UInt8) : (key bs).2 = bs.drop 32 := rfl

@[simp] theorem block_snd (bs : List UInt8) : (block bs).2 = bs.drop 32 := rfl

@[simp] theorem byte_snd (bs : List UInt8) : (byte bs).2 = bs.drop 1 := rfl

@[simp] theorem flag_snd (bs : List UInt8) : (flag bs).2 = bs.drop 1 := rfl

@[simp] theorem byte_drop (l : List UInt8) (a : Nat) : (byte (l.drop a)).1 = l.getD a 0 := by
  simp [byte, List.headD_eq_head?_getD, List.getD_eq_getElem?_getD]

@[simp] theorem flag_drop (l : List UInt8) (a : Nat) : (flag (l.drop a)).1 = (l.getD a 0 != 0) := by
  simp [flag, List.headD_eq_head?_getD, List.getD_eq_getElem?_getD]

@[simp] theorem word_append (x : UInt64) (rest : List UInt8) :
    word (wordBytes x ++ rest) = (x, rest) := by
  rw [word, wordOf_wordBytes_append, List.drop_left' (length_wordBytes x)]

@[simp] theorem word_wordBytes (x : UInt64) : word (wordBytes x) = (x, []) := by
  simpa using word_append x []

@[simp] theorem key_append (k : Pubkey) (rest : List UInt8) : key (k.toList ++ rest) = (k, rest) := by
  simp only [key, Pubkey.ofListPad, Pubkey.toList, ofFn_getD_append]
  rw [List.drop_left' (by simp)]

@[simp] theorem block_append (v : Vector UInt8 32) (rest : List UInt8) :
    block (v.toList ++ rest) = (v, rest) := by
  rw [block, ofFn_getD_append, List.drop_left' (by simp)]

@[simp] theorem byte_cons (b : UInt8) (rest : List UInt8) : byte (b :: rest) = (b, rest) := rfl

@[simp] theorem flag_cons (b : Bool) (rest : List UInt8) : flag (boolByte b :: rest) = (b, rest) := by
  cases b <;> rfl

section ReadsBack

variable {l : List UInt8} {a b : Nat}

theorem wordBytes_word (hb : a + 8 = b) (hl : b ≤ l.length) :
    wordBytes (word (l.drop a)).1 ++ l.drop b = l.drop a := by
  rw [word, wordBytes_wordOf (by simp; omega), take_append_drop_of_add hb]

theorem toList_key (hb : a + 32 = b) (hl : b ≤ l.length) :
    (key (l.drop a)).1.toList ++ l.drop b = l.drop a := by
  simp only [key, Pubkey.toList, Pubkey.ofListPad]
  rw [toList_ofFn_getD (by simp; omega), take_append_drop_of_add hb]

theorem toList_block (hb : a + 32 = b) (hl : b ≤ l.length) :
    (block (l.drop a)).1.toList ++ l.drop b = l.drop a := by
  rw [block, toList_ofFn_getD (by simp; omega), take_append_drop_of_add hb]

end ReadsBack

end Cursor

end MoneyStream.Layout

namespace MoneyStream

open Layout

namespace Terms

@[simp] theorem length_toBytes (t : Terms) : t.toBytes.length = 112 := by
  simp [toBytes, Memo.toList]

@[simp] theorem read_append (t : Terms) (rest : List UInt8) : read (t.toBytes ++ rest) = (t, rest) := by
  simp [read, toBytes, Memo.toList]

@[simp] theorem read_toBytes (t : Terms) : read t.toBytes = (t, []) := by
  simpa using read_append t []

@[simp] theorem read_snd (bs : List UInt8) : (read bs).2 = bs.drop 112 := by
  simp [read, List.drop_drop]

theorem toBytes_read {l : List UInt8} {a b : Nat} (hb : a + 112 = b) (hl : b ≤ l.length) :
    (read (l.drop a)).1.toBytes ++ l.drop b = l.drop a := by
  subst hb
  simp only [read, Cursor.bind_apply, Cursor.pure_apply, Cursor.block_snd, Cursor.key_snd,
    Cursor.word_snd, List.drop_drop, toBytes, Memo.toList, List.append_assoc]
  simp (disch := omega) only [Cursor.wordBytes_word, Cursor.toList_key, Cursor.toList_block]

end Terms

namespace Proposal

@[simp] theorem length_blockBytes (p : Option Proposal) : (blockBytes p).length = 177 := by
  cases p <;> simp [blockBytes]

@[simp] theorem readBlock_append (p : Option Proposal) (rest : List UInt8) :
    readBlock (blockBytes p ++ rest) = (p, rest) := by
  cases p <;> simp [readBlock, blockBytes]

@[simp] theorem readBlock_blockBytes (p : Option Proposal) : readBlock (blockBytes p) = (p, []) := by
  simpa using readBlock_append p []

@[simp] theorem readBlock_snd (bs : List UInt8) : (readBlock bs).2 = bs.drop 177 := by
  simp [readBlock, List.drop_drop]

theorem blockBytes_none : blockBytes none = List.replicate 177 0 := by
  have hterms : (default : Terms) = ⟨Memo.empty, Pubkey.zero, 0, 0, 0, 0, 0, 0⟩ := rfl
  have hword : wordBytes 0 = List.replicate 8 0 := by decide
  simp [blockBytes, hterms, Terms.toBytes, hword, Memo.toList, Memo.empty, Pubkey.toList,
    Pubkey.zero, boolByte]

@[simp] theorem getD_blockBytes_zero (p : Option Proposal) :
    (blockBytes p).getD 0 0 = boolByte p.isSome := by
  cases p <;> rfl

/-- A block reads back when its flag is 0 or 1 and, with a zero flag, the rest is zero. -/
theorem blockBytes_readBlock {l : List UInt8} {a b : Nat} (hb : a + 177 = b) (hl : b ≤ l.length)
    (hf : l.getD a 0 ≤ 1) (hz : l.getD a 0 = 0 → ∀ i, a < i → i < b → l.getD i 0 = 0) :
    blockBytes (readBlock (l.drop a)).1 ++ l.drop b = l.drop a := by
  subst hb
  simp only [readBlock, Cursor.bind_apply, Cursor.pure_apply, Cursor.flag_snd, Cursor.key_snd,
    Terms.read_snd, List.drop_drop, Cursor.flag_drop, Nat.add_assoc, Nat.reduceAdd]
  rcases eq_zero_or_eq_one_of_le_one hf with h0 | h1
  · -- nothing pending: the flag and the 176 bytes after it are zero
    have hzero : (l.drop (a + 1)).take 176 = List.replicate 176 0 := by
      refine List.eq_replicate_iff.mpr ⟨by simp; omega, fun x hx => ?_⟩
      obtain ⟨j, hj, rfl⟩ := List.getElem_of_mem hx
      simp only [List.length_take, List.length_drop] at hj
      simpa [List.getD_eq_getElem?_getD, List.getElem?_eq_getElem (show a + 1 + j < l.length by omega)]
        using hz h0 (a + 1 + j) (by omega) (by omega)
    have hsplit : l.drop a = l.getD a 0 :: ((l.drop (a + 1)).take 176 ++ l.drop (a + 177)) := by
      rw [take_append_drop_of_add (by omega), getD_cons_drop rfl (by omega)]
    rw [hsplit, h0, hzero, if_neg (by decide), blockBytes_none, List.replicate_succ, List.cons_append]
  · rw [h1, if_pos (by decide)]
    simp only [blockBytes, List.cons_append, List.append_assoc]
    rw [Terms.toBytes_read (by omega) hl, Cursor.toList_key rfl (by omega),
      Cursor.toList_key rfl (by omega), show boolByte true = l.getD a 0 from h1.symm,
      getD_cons_drop rfl (by omega)]

end Proposal

namespace StreamState

@[simp] theorem ofByte?_toByte (st : StreamState) : ofByte? st.toByte = some st := by
  cases st <;> rfl

theorem toByte_of_ofByte? {b : UInt8} {st : StreamState} (h : ofByte? b = some st) : st.toByte = b := by
  unfold ofByte? at h
  split at h <;> cases h <;> (apply UInt8.toNat_inj.mp; simp_all [toByte])

theorem isSome_ofByte? (b : UInt8) : (ofByte? b).isSome ↔ b ≤ 3 := by
  have hb : b ≤ 3 ↔ b.toNat ≤ 3 := UInt8.le_iff_toNat_le
  rw [hb]
  unfold ofByte?
  split
  next h => simp [h]
  next h => simp [h]
  next h => simp [h]
  next h => simp [h]
  next h0 h1 h2 h3 =>
    -- no other code decodes, and every other code is above 3
    simp only [Option.isSome_none, Bool.false_eq_true, false_iff, Nat.not_le]
    simp only [imp_false] at h0 h1 h2 h3
    omega

end StreamState

namespace Stream

@[simp] theorem length_toBytes (s : Stream) : s.toBytes.length = size := by
  unfold toBytes
  simp only [List.length_append, List.length_cons, List.length_nil, length_wordBytes,
    Pubkey.length_toList, Terms.length_toBytes, Proposal.length_blockBytes]
  rfl

theorem decode_toBytes (s : Stream) : decode s.toBytes = .ok s := by
  unfold decode
  rw [if_neg (fun h => h (length_toBytes s))]
  unfold toBytes
  simp only [readFields, StateT.run, List.append_assoc, List.cons_append, List.nil_append,
    Cursor.bind_apply, Cursor.pure_apply, Cursor.flag_cons, Cursor.byte_cons, Cursor.word_append,
    Cursor.key_append, Terms.read_append, Proposal.readBlock_blockBytes, StreamState.ofByte?_toByte]

/-- A record decodes from exactly its size in bytes with a known state byte, byte 1. -/
theorem decode_eq_ok {d : List UInt8} {s : Stream} :
    decode d = .ok s ↔ d.length = size ∧
      ∃ st, StreamState.ofByte? (d.getD 1 0) = some st ∧ s = (readFields d).1.2 st := by
  have hbyte : (readFields d).1.1 = d.getD 1 0 := by
    simp [readFields, Cursor.byte, List.headD_eq_head?_getD, List.getD_eq_getElem?_getD]
  unfold decode
  by_cases hlen : d.length = size
  · simp only [hlen, ne_eq, not_true_eq_false, if_false, StateT.run, true_and]
    rw [← hbyte]
    cases h : StreamState.ofByte? (readFields d).1.1 with
    | none => simp
    | some st => simp [eq_comm]
  · simp [hlen]

theorem decode_isOk_iff (d : List UInt8) :
    (∃ s, decode d = .ok s) ↔ d.length = 500 ∧ d.getD 1 0 ≤ 3 := by
  simp only [decode_eq_ok, ← StreamState.isSome_ofByte?, Option.isSome_iff_exists]
  constructor
  · rintro ⟨s, hlen, st, hst, -⟩
    exact ⟨hlen, st, hst⟩
  · rintro ⟨hlen, st, hst⟩
    exact ⟨_, hlen, st, hst, rfl⟩

/-- The fields read from offset `a` are written back as the bytes there, given that the two
flags are 0 or 1 and that nothing hides behind a zero proposal flag. -/
theorem toBytes_readFields {l : List UInt8} {a b : Nat} {st : StreamState} (hb : a + 500 = b)
    (hl : b ≤ l.length) (hf : l.getD a 0 ≤ 1)
    (hst : StreamState.ofByte? (l.getD (a + 1) 0) = some st) (hpf : l.getD (a + 323) 0 ≤ 1)
    (hz : l.getD (a + 323) 0 = 0 → ∀ i, a + 323 < i → i < a + 500 → l.getD i 0 = 0) :
    ((readFields (l.drop a)).1.2 st).toBytes ++ l.drop b = l.drop a := by
  subst hb
  simp only [readFields, Cursor.bind_apply, Cursor.pure_apply, Cursor.flag_snd, Cursor.byte_snd,
    Cursor.word_snd, Cursor.key_snd, Terms.read_snd, List.drop_drop, Nat.add_assoc, Nat.reduceAdd,
    toBytes, List.append_assoc, List.cons_append, List.nil_append, Cursor.flag_drop, Cursor.byte_drop]
  -- the proposal block is last: once it reads back, the fields before it collapse one by one
  rw [Proposal.blockBytes_readBlock (by omega) hl hpf hz, StreamState.toByte_of_ofByte? hst]
  simp (disch := omega) only [Cursor.wordBytes_word, Cursor.toList_key, Terms.toBytes_read,
    getD_cons_drop]
  exact boolByte_cons_drop rfl (by omega) hf

theorem toBytes_eq_cons (s : Stream) : ∃ rest, s.toBytes = boolByte s.initialized :: rest := by
  unfold toBytes
  simp only [List.append_assoc, List.cons_append]
  exact ⟨_, rfl⟩

theorem drop_toBytes (s : Stream) : s.toBytes.drop 323 = Proposal.blockBytes s.pending := by
  unfold toBytes
  rw [List.drop_left' (by simp)]

theorem toBytes_decode_iff (d : List UInt8) :
    (∃ s, decode d = .ok s ∧ s.toBytes = d) ↔ d.length = 500 ∧ d.getD 1 0 ≤ 3 ∧ d.getD 0 0 ≤ 1 ∧
      d.getD 323 0 ≤ 1 ∧ (d.getD 323 0 = 0 → ∀ i, 324 ≤ i → i < 500 → d.getD i 0 = 0) := by
  constructor
  · rintro ⟨s, hs, rfl⟩
    obtain ⟨hlen, hst⟩ := (decode_isOk_iff _).mp ⟨s, hs⟩
    obtain ⟨rest, hrest⟩ := toBytes_eq_cons s
    have hblock : ∀ i, s.toBytes.getD (323 + i) 0 = (Proposal.blockBytes s.pending).getD i 0 := by
      intro i
      rw [← drop_toBytes]
      simp [List.getD_eq_getElem?_getD]
    refine ⟨hlen, hst, ?_, ?_, fun h0 i hi hi' => ?_⟩
    · rw [hrest, List.getD_cons_zero]
      exact boolByte_le_one _
    · rw [hblock 0, Proposal.getD_blockBytes_zero]
      exact boolByte_le_one _
    · -- a zero flag is written only for nothing pending, whose block is all zero
      rw [hblock 0, Proposal.getD_blockBytes_zero, boolByte_eq_zero_iff, Option.isSome_eq_false_iff,
        Option.isNone_iff_eq_none] at h0
      rw [show i = 323 + (i - 323) by omega, hblock, h0, Proposal.blockBytes_none,
        List.getD_eq_getElem?_getD, List.getElem?_replicate]
      split <;> rfl
  · rintro ⟨hlen, hst, hf, hpf, hz⟩
    obtain ⟨s, hs⟩ := (decode_isOk_iff d).mpr ⟨hlen, hst⟩
    obtain ⟨-, st, hst', rfl⟩ := decode_eq_ok.mp hs
    refine ⟨_, hs, ?_⟩
    have h := @toBytes_readFields d 0 500 st rfl (by omega) hf hst' hpf
      (fun h i hi hi' => hz h i (by omega) hi')
    simpa [List.drop_eq_nil_of_le (show d.length ≤ 500 by omega)] using h

end Stream

namespace Treasury

@[simp] theorem length_toBytes (t : Treasury) : t.toBytes.length = 107 := by
  simp [toBytes]

theorem decode_toBytes (t : Treasury) : decode t.toBytes = .ok t := by
  simp [decode, StateT.run, read, toBytes, List.append_assoc, size]

theorem decode_isOk_iff (d : List UInt8) : (∃ t, decode d = .ok t) ↔ d.length = 107 := by
  unfold decode
  by_cases h : d.length = size <;> simp_all [size]

theorem toBytes_read {l : List UInt8} {a b : Nat} (hb : a + 107 = b) (hl : b ≤ l.length)
    (hf : l.getD a 0 ≤ 1) : (read (l.drop a)).1.toBytes ++ l.drop b = l.drop a := by
  subst hb
  simp only [read, Cursor.bind_apply, Cursor.pure_apply, Cursor.flag_snd, Cursor.byte_snd,
    Cursor.word_snd, Cursor.key_snd, List.drop_drop, Nat.add_assoc, Nat.reduceAdd, toBytes,
    List.append_assoc, List.cons_append, List.nil_append, Cursor.flag_drop, Cursor.byte_drop]
  simp (disch := omega) only [Cursor.wordBytes_word, Cursor.toList_key, getD_cons_drop]
  exact boolByte_cons_drop rfl (by omega) hf

theorem toBytes_decode_iff (d : List UInt8) :
    (∃ t, decode d = .ok t ∧ t.toBytes = d) ↔ d.length = 107 ∧ d.getD 0 0 ≤ 1 := by
  constructor
  · rintro ⟨t, ht, rfl⟩
    obtain ⟨rest, hrest⟩ : ∃ rest, t.toBytes = boolByte t.initialized :: rest := ⟨_, rfl⟩
    exact ⟨length_toBytes t, by rw [hrest, List.getD_cons_zero]; exact boolByte_le_one _⟩
  · rintro ⟨hlen, hf⟩
    have hd : decode d = .ok (read d).1 := by simp [decode, hlen, size, StateT.run]
    refine ⟨_, hd, ?_⟩
    have h := @toBytes_read d 0 107 rfl (by omega) hf
    simpa [List.drop_eq_nil_of_le (show d.length ≤ 107 by omega)] using h

end Treasury

/-- Stream records take 500 bytes and treasury records 107, and each reads back as written.
Reading a stream record needs exactly 500 bytes and a state byte of at most 3, and the bytes
read are written back as they were exactly when both boolean bytes (the initialized flag and
the pending flag at 323) are 0 or 1 and, with nothing pending, bytes 324 to 499 are zero. A
treasury record needs exactly 107 bytes and is written back as read when its initialized
byte is 0 or 1. -/
theorem records_round_trip :
    (∀ s : Stream, s.toBytes.length = 500 ∧ Stream.decode s.toBytes = .ok s) ∧
    (∀ d : List UInt8, (∃ s, Stream.decode d = .ok s) ↔ d.length = 500 ∧ d.getD 1 0 ≤ 3) ∧
    (∀ d : List UInt8, (∃ s, Stream.decode d = .ok s ∧ s.toBytes = d) ↔
      d.length = 500 ∧ d.getD 1 0 ≤ 3 ∧ d.getD 0 0 ≤ 1 ∧ d.getD 323 0 ≤ 1 ∧
        (d.getD 323 0 = 0 → ∀ i, 324 ≤ i → i < 500 → d.getD i 0 = 0)) ∧
    (∀ t : Treasury, t.toBytes.length = 107 ∧ Treasury.decode t.toBytes = .ok t) ∧
    (∀ d : List UInt8, (∃ t, Treasury.decode d = .ok t) ↔ d.length = 107) ∧
    (∀ d : List UInt8, (∃ t, Treasury.decode d = .ok t ∧ t.toBytes = d) ↔
      d.length = 107 ∧ d.getD 0 0 ≤ 1) :=
  ⟨fun s => ⟨Stream.length_toBytes s, Stream.decode_toBytes s⟩, Stream.decode_isOk_iff,
    Stream.toBytes_decode_iff, fun t => ⟨Treasury.length_toBytes t, Treasury.decode_toBytes t⟩,
    Treasury.decode_isOk_iff, Treasury.toBytes_decode_iff⟩

end MoneyStream
