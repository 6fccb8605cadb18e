import MoneyStream.Bytes.Utf8
import MoneyStream.Error
import MoneyStream.Record.Layout
/-! # Terms of a stream

The negotiable terms of a stream: a 32-byte memo, the mint of the streamed token, the rate,
the cliff and the auto-pause threshold. A proposal carries a full set of candidate terms
together with the party that proposed it and the party allowed to answer. Terms take 112
bytes; a pending-proposal block is a flag byte and 176 bytes, all zero when nothing is
pending, and a zero flag reads as nothing pending whatever follows it.
-/
namespace MoneyStream

/-- A memo: 32 bytes of UTF-8 text padded with zero bytes. -/
structure Memo where
  bytes : Vector UInt8 32
  deriving DecidableEq, Repr

namespace Memo

def empty : Memo := ⟨Vector.replicate 32 0⟩

instance : Inhabited Memo := ⟨empty⟩

def toList (m : Memo) : List UInt8 := m.bytes.toList

def ofText (s : String) : Except StreamError Memo :=
  let bs := Utf8.encode s
  if bs.length > 32 then .error .stringTooLong
  else .ok ⟨Vector.ofFn fun i => bs.getD i.val 0⟩

/-- The text of a memo: trailing zero bytes are cut and the rest is read as UTF-8 with
replacement. -/
def text (m : Memo) : String :=
  String.ofList (Utf8.decodeLossy (m.toList.reverse.dropWhile (· == 0)).reverse)

end Memo

structure Terms where
  memo : Memo
  mint : Pubkey
  rateAmount : UInt64
  rateInterval : UInt64
  cliffSeconds : UInt64
  /-- Units released at the cliff; when zero, `cliffPercent` of the deposits is. -/
  cliffAmount : UInt64
  cliffPercent : UInt64
  /-- Seconds after the start at which vesting stops; zero means never. -/
  autoPauseSeconds : UInt64
  deriving DecidableEq, Repr, Inhabited

structure Proposal where
  proposedBy : Pubkey
  counterparty : Pubkey
  terms : Terms
  deriving DecidableEq, Repr, Inhabited

open Layout

namespace Terms

def toBytes (t : Terms) : List UInt8 :=
  t.memo.toList ++ t.mint.toList ++ wordBytes t.rateAmount ++ wordBytes t.rateInterval ++
    wordBytes t.cliffSeconds ++ wordBytes t.cliffAmount ++ wordBytes t.cliffPercent ++
    wordBytes t.autoPauseSeconds

def read : Cursor Terms := do
  let memo ← Cursor.block
  let mint ← Cursor.key
  let rateAmount ← Cursor.word
  let rateInterval ← Cursor.word
  let cliffSeconds ← Cursor.word
  let cliffAmount ← Cursor.word
  let cliffPercent ← Cursor.word
  let autoPauseSeconds ← Cursor.word
  pure ⟨⟨memo⟩, mint, rateAmount, rateInterval, cliffSeconds, cliffAmount, cliffPercent,
    autoPauseSeconds⟩

end Terms

namespace Proposal

def blockBytes : Option Proposal → List UInt8
  | none => boolByte false :: Pubkey.zero.toList ++ Pubkey.zero.toList ++ Terms.toBytes default
  | some p => boolByte true :: p.proposedBy.toList ++ p.counterparty.toList ++ p.terms.toBytes

/-- Reads a pending-proposal block; a zero flag means nothing is pending. -/
def readBlock : Cursor (Option Proposal) := do
  let pending ← Cursor.flag
  let proposedBy ← Cursor.key
  let counterparty ← Cursor.key
  let terms ← Terms.read
  pure (if pending then some ⟨proposedBy, counterparty, terms⟩ else none)

end Proposal

end MoneyStream
