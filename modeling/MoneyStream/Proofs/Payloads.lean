import MoneyStream.Proofs.Encoding
import MoneyStream.Instruction
/-! # Instruction payloads read back what they write

Every instruction's payload starts with its tag, has its tag's span as length and reads back
as the instruction. A payload is refused as malformed when empty, as an unknown instruction
when its tag is above 7 whatever its length, and as malformed when its length is not the
tag's span; every other payload is read. Reading is lenient on the boolean bytes, so packing
what was read gives the payload back exactly when those bytes are 0 or 1.
-/
namespace MoneyStream

open Layout

/-- A reads-back lemma at offset 0, on a list of exactly the field's length. -/
theorem Layout.reads_back_whole {l x : List UInt8} {n : Nat} (hn : l.length = n)
    (h : x ++ l.drop n = l.drop 0) : x = l := by
  subst hn
  simpa using h

namespace CreateParams

@[simp] theorem length_toBytes (p : CreateParams) : p.toBytes.length = 171 := by
  simp [toBytes, Memo.toList]

@[simp] theorem read_append (p : CreateParams) (rest : List UInt8) :
    read (p.toBytes ++ rest) = (p, rest) := by
  simp [read, toBytes, Memo.toList]

@[simp] theorem read_toBytes (p : CreateParams) : read p.toBytes = (p, []) := by
  simpa using read_append p []

theorem toBytes_read {l : List UInt8} {a b : Nat} (hb : a + 171 = b) (hl : b ≤ l.length) :
    (read (l.drop a)).1.toBytes ++ l.drop b = l.drop a := by
  subst hb
  simp only [read, Cursor.bind_apply, Cursor.pure_apply, Cursor.block_snd, Cursor.key_snd,
    Cursor.word_snd, Cursor.byte_snd, List.drop_drop, Cursor.byte_drop, toBytes, Memo.toList,
    List.append_assoc, List.cons_append, List.nil_append, Nat.add_assoc, Nat.reduceAdd]
  simp (disch := omega) only [Cursor.wordBytes_word, Cursor.toList_key, Cursor.toList_block,
    getD_cons_drop]

end CreateParams

namespace Instruction

theorem span_isOk_iff {b : UInt8} : (∃ n, span b = .ok n) ↔ b ≤ 7 := by
  rw [UInt8.le_iff_toNat_le, show (7 : UInt8).toNat = 7 from rfl]
  unfold span
  generalize b.toNat = k
  match k with
  | 0 | 1 | 2 | 3 | 4 | 5 | 6 | 7 => simp
  | k + 8 => simp

theorem span_of_seven_lt {b : UInt8} (h : 7 < b) : span b = .error .unknownInstruction := by
  rw [UInt8.lt_iff_toNat_lt, show (7 : UInt8).toNat = 7 from rfl] at h
  unfold span
  generalize b.toNat = k at h
  match k, h with
  | k + 8, _ => rfl

theorem exists_tag_of_span {b : UInt8} {n : Nat} (hs : span b = .ok n) :
    ∃ a : Action, b = a.tag := by
  have hb : b.toNat ≤ 7 := UInt8.le_iff_toNat_le.mp (span_isOk_iff.mp ⟨n, hs⟩)
  obtain ⟨k, hk, rfl⟩ : ∃ k, k ≤ 7 ∧ b = UInt8.ofNat k := ⟨b.toNat, hb, UInt8.ofNat_toNat.symm⟩
  match k, hk with
  | 0, _ => exact ⟨.createStream, rfl⟩
  | 1, _ => exact ⟨.addFunds, rfl⟩
  | 2, _ => exact ⟨.withdraw, rfl⟩
  | 3, _ => exact ⟨.pauseStream, rfl⟩
  | 4, _ => exact ⟨.resumeStream, rfl⟩
  | 5, _ => exact ⟨.proposeUpdate, rfl⟩
  | 6, _ => exact ⟨.answerUpdate, rfl⟩
  | 7, _ => exact ⟨.closeStream, rfl⟩

theorem span_tag (i : Instruction) : span i.tag = .ok (pack i).length := by
  cases i <;> simp [span, pack, tag, action, Action.tag]

theorem unpack_cons (b : UInt8) (body : List UInt8) :
    unpack (b :: body) = span b >>= fun n =>
      if body.length + 1 = n then pure ((readBody b).run body).1 else throw .malformedRecord :=
  rfl

theorem unpack_of_seven_lt {b : UInt8} (h : 7 < b) (body : List UInt8) :
    unpack (b :: body) = .error .unknownInstruction := by
  rw [unpack_cons, span_of_seven_lt h]
  rfl

theorem unpack_of_length_ne {b : UInt8} {body : List UInt8} {n : Nat} (hs : span b = .ok n)
    (h : body.length + 1 ≠ n) : unpack (b :: body) = .error .malformedRecord := by
  rw [unpack_cons, hs]
  exact if_neg h

theorem unpack_of_span {b : UInt8} {body : List UInt8} (hs : span b = .ok (body.length + 1)) :
    unpack (b :: body) = .ok ((readBody b).run body).1 := by
  rw [unpack_cons, hs]
  exact if_pos rfl

theorem unpack_eq_ok_iff {d : List UInt8} {i : Instruction} :
    unpack d = .ok i ↔
      ∃ b body, d = b :: body ∧ span b = .ok (body.length + 1) ∧ ((readBody b).run body).1 = i := by
  constructor
  · intro h
    cases d with
    | nil => cases h
    | cons b body =>
      rw [unpack_cons] at h
      cases hs : span b with
      | error e => rw [hs] at h; cases h
      | ok n =>
        rw [hs] at h
        by_cases hn : body.length + 1 = n
        · subst hn
          exact ⟨b, body, rfl, hs, Except.ok.inj ((if_pos rfl).symm.trans h)⟩
        · have h' : (if body.length + 1 = n then pure ((readBody b).run body).1
              else throw StreamError.malformedRecord) = Except.ok i := h
          rw [if_neg hn] at h'
          cases h'
  · rintro ⟨b, body, rfl, hs, rfl⟩
    exact unpack_of_span hs

theorem unpack_pack (i : Instruction) : unpack (pack i) = .ok i := by
  have hs := span_tag i
  unfold pack at hs ⊢
  rw [unpack_of_span hs]
  cases i <;> simp [readBody, tag, action, Action.tag, StateT.run]

/-- Packing what was read from a body of the right length gives the payload back, exactly
when each boolean byte of it is 0 or 1. -/
theorem pack_readBody_iff {b : UInt8} {body : List UInt8} (hs : span b = .ok (body.length + 1)) :
    pack ((readBody b).run body).1 = b :: body ↔
      (b = 1 → body.getD 8 0 ≤ 1) ∧ (b = 6 → body.getD 0 0 ≤ 1) := by
  obtain ⟨a, rfl⟩ := exists_tag_of_span hs
  cases a with
  | createStream =>
    have hlen : 172 = body.length + 1 := Except.ok.inj hs
    have h := reads_back_whole (by omega) (@CreateParams.toBytes_read body 0 171 rfl (by omega))
    simp only [readBody, Action.tag, StateT.run, UInt8.reduceToNat, Cursor.map_apply, pack, tag,
      action]
    rw [List.drop_zero] at h
    simp [h]
  | addFunds =>
    have hlen : 10 = body.length + 1 := Except.ok.inj hs
    have hw := @Cursor.wordBytes_word body 0 8 rfl (by omega)
    have hx := @getD_cons_drop body 8 9 rfl (by omega)
    rw [List.drop_eq_nil_of_le (by omega : body.length ≤ 9)] at hx
    rw [← hx, List.drop_zero] at hw
    simp only [readBody, Action.tag, StateT.run, UInt8.reduceToNat, Cursor.bind_apply,
      Cursor.pure_apply, Cursor.word_snd, Cursor.flag_drop, pack, tag, action]
    generalize wordBytes (Cursor.word body).1 = w at hw ⊢
    generalize body.getD 8 0 = x at hw ⊢
    subst hw
    simp [boolByte_bne_zero_iff]
  | withdraw =>
    have hlen : 9 = body.length + 1 := Except.ok.inj hs
    have h := reads_back_whole (by omega) (@Cursor.wordBytes_word body 0 8 rfl (by omega))
    simp only [readBody, Action.tag, StateT.run, UInt8.reduceToNat, Cursor.map_apply, pack, tag,
      action]
    rw [List.drop_zero] at h
    simp [h]
  | pauseStream | resumeStream | closeStream =>
    have hlen : 1 = body.length + 1 := Except.ok.inj hs
    obtain rfl : body = [] := List.length_eq_zero_iff.mp (by omega)
    simp [readBody, StateT.run, pack, tag, action, Action.tag]
  | proposeUpdate =>
    have hlen : 113 = body.length + 1 := Except.ok.inj hs
    have h := reads_back_whole (by omega) (@Terms.toBytes_read body 0 112 rfl (by omega))
    simp only [readBody, Action.tag, StateT.run, UInt8.reduceToNat, Cursor.map_apply, pack, tag,
      action]
    rw [List.drop_zero] at h
    simp [h]
  | answerUpdate =>
    have hlen : 2 = body.length + 1 := Except.ok.inj hs
    obtain ⟨x, rfl⟩ := List.length_eq_one_iff.mp (by omega : body.length = 1)
    simp only [readBody, Action.tag, StateT.run, UInt8.reduceToNat, Cursor.map_apply, pack, tag,
      action]
    simp [Cursor.flag, boolByte_bne_zero_iff]

theorem pack_eq_iff_of_unpack {d : List UInt8} {i : Instruction} (h : unpack d = .ok i) :
    pack i = d ↔ (d.getD 0 0 = 1 → d.getD 9 0 ≤ 1) ∧ (d.getD 0 0 = 6 → d.getD 1 0 ≤ 1) := by
  obtain ⟨b, body, rfl, hs, rfl⟩ := unpack_eq_ok_iff.mp h
  simpa only [List.getD_cons_zero, List.getD_cons_succ] using pack_readBody_iff hs

/-- Payloads and instructions: packing is read back, and reading refuses exactly the empty
payload, the unknown tags and the lengths that are not the tag's span. -/
theorem payloads_round_trip :
    (∀ i : Instruction, (pack i)[0]? = some i.tag ∧ span i.tag = .ok (pack i).length ∧
      unpack (pack i) = .ok i) ∧
    unpack [] = .error .malformedRecord ∧
    (∀ b body, 7 < b → unpack (b :: body) = .error .unknownInstruction) ∧
    (∀ b, (∃ n, span b = .ok n) ↔ b ≤ 7) ∧
    (∀ b body n, span b = .ok n → body.length + 1 ≠ n →
      unpack (b :: body) = .error .malformedRecord) ∧
    (∀ b body, span b = .ok (body.length + 1) → ∃ i, unpack (b :: body) = .ok i) ∧
    (∀ d i, unpack d = .ok i →
      (pack i = d ↔ (d.getD 0 0 = 1 → d.getD 9 0 ≤ 1) ∧ (d.getD 0 0 = 6 → d.getD 1 0 ≤ 1))) :=
  ⟨fun i => ⟨rfl, span_tag i, unpack_pack i⟩, rfl, fun _ body h => unpack_of_seven_lt h body,
    fun _ => span_isOk_iff, fun _ _ _ => unpack_of_length_ne,
    fun _ _ hs => ⟨_, unpack_of_span hs⟩, fun _ _ => pack_eq_iff_of_unpack⟩

end Instruction

end MoneyStream
