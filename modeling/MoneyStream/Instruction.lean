import MoneyStream.Record.Terms
/-! # Instructions

The eight instructions of the program and their payloads. A payload is a tag byte followed
by the instruction's fields; each tag has a fixed total length (`span`). Reading refuses an
empty payload and a payload of the wrong length as malformed, and an unknown tag whatever
its length.
-/
namespace MoneyStream

/-- What creating a stream asks for. The bumps are those found for the stream, treasury and
treasury authority addresses. -/
structure CreateParams where
  memo : Memo
  beneficiary : Pubkey
  mint : Pubkey
  nonce : UInt64
  /-- The first deposit; may be zero. -/
  funding : UInt64
  rateAmount : UInt64
  rateInterval : UInt64
  start : UInt64
  cliffSeconds : UInt64
  cliffAmount : UInt64
  cliffPercent : UInt64
  autoPauseSeconds : UInt64
  streamBump : UInt8
  treasuryBump : UInt8
  authorityBump : UInt8
  deriving DecidableEq, Repr, Inhabited

namespace CreateParams

open Layout

def terms (p : CreateParams) : Terms :=
  ⟨p.memo, p.mint, p.rateAmount, p.rateInterval, p.cliffSeconds, p.cliffAmount, p.cliffPercent,
    p.autoPauseSeconds⟩

def toBytes (p : CreateParams) : List UInt8 :=
  p.memo.toList ++ p.beneficiary.toList ++ p.mint.toList ++ wordBytes p.nonce ++
    wordBytes p.funding ++ wordBytes p.rateAmount ++ wordBytes p.rateInterval ++
    wordBytes p.start ++ wordBytes p.cliffSeconds ++ wordBytes p.cliffAmount ++
    wordBytes p.cliffPercent ++ wordBytes p.autoPauseSeconds ++
    [p.streamBump, p.treasuryBump, p.authorityBump]

def read : Cursor CreateParams := do
  let memo ← Cursor.block
  let beneficiary ← Cursor.key
  let mint ← Cursor.key
  let nonce ← Cursor.word
  let funding ← Cursor.word
  let rateAmount ← Cursor.word
  let rateInterval ← Cursor.word
  let start ← Cursor.word
  let cliffSeconds ← Cursor.word
  let cliffAmount ← Cursor.word
  let cliffPercent ← Cursor.word
  let autoPauseSeconds ← Cursor.word
  let streamBump ← Cursor.byte
  let treasuryBump ← Cursor.byte
  let authorityBump ← Cursor.byte
  pure ⟨⟨memo⟩, beneficiary, mint, nonce, funding, rateAmount, rateInterval, start, cliffSeconds,
    cliffAmount, cliffPercent, autoPauseSeconds, streamBump, treasuryBump, authorityBump⟩

end CreateParams

inductive Action where
  | createStream
  | addFunds
  | withdraw
  | pauseStream
  | resumeStream
  | proposeUpdate
  | answerUpdate
  | closeStream
  deriving DecidableEq, Repr, Inhabited

namespace Action

def all : List Action :=
  [createStream, addFunds, withdraw, pauseStream, resumeStream, proposeUpdate, answerUpdate,
    closeStream]

def name : Action → String
  | createStream => "CreateStream"
  | addFunds => "AddFunds"
  | withdraw => "Withdraw"
  | pauseStream => "PauseStream"
  | resumeStream => "ResumeStream"
  | proposeUpdate => "ProposeUpdate"
  | answerUpdate => "AnswerUpdate"
  | closeStream => "CloseStream"

def ofName? (s : String) : Option Action := all.find? (·.name == s)

/-- The tag byte of a kind, its position in `all`. -/
def tag : Action → UInt8
  | createStream => 0
  | addFunds => 1
  | withdraw => 2
  | pauseStream => 3
  | resumeStream => 4
  | proposeUpdate => 5
  | answerUpdate => 6
  | closeStream => 7

end Action

inductive Instruction where
  | createStream (params : CreateParams)
  | addFunds (amount : UInt64) (resume : Bool)
  | withdraw (amount : UInt64)
  | pauseStream
  | resumeStream
  | proposeUpdate (terms : Terms)
  | answerUpdate (approve : Bool)
  | closeStream
  deriving DecidableEq, Repr, Inhabited

namespace Instruction

open Layout

def action : Instruction → Action
  | createStream _ => .createStream
  | addFunds _ _ => .addFunds
  | withdraw _ => .withdraw
  | pauseStream => .pauseStream
  | resumeStream => .resumeStream
  | proposeUpdate _ => .proposeUpdate
  | answerUpdate _ => .answerUpdate
  | closeStream => .closeStream

def tag (i : Instruction) : UInt8 := i.action.tag

/-- The total payload length for a tag, the tag byte included. -/
def span (tag : UInt8) : Except StreamError Nat :=
  match tag.toNat with
  | 0 => .ok 172
  | 1 => .ok 10
  | 2 => .ok 9
  | 3 | 4 | 7 => .ok 1
  | 5 => .ok 113
  | 6 => .ok 2
  | _ => .error .unknownInstruction

def pack (i : Instruction) : List UInt8 :=
  i.tag :: match i with
    | createStream p => p.toBytes
    | addFunds amount resume => wordBytes amount ++ [boolByte resume]
    | withdraw amount => wordBytes amount
    | proposeUpdate t => t.toBytes
    | answerUpdate approve => [boolByte approve]
    | pauseStream | resumeStream | closeStream => []

/-- Reads the fields after a tag; tags above 7 never get here, `span` refuses them first. -/
def readBody (tag : UInt8) : Cursor Instruction :=
  match tag.toNat with
  | 0 => createStream <$> CreateParams.read
  | 1 => do
    let amount ← Cursor.word
    let resume ← Cursor.flag
    pure (addFunds amount resume)
  | 2 => withdraw <$> Cursor.word
  | 3 => pure pauseStream
  | 4 => pure resumeStream
  | 5 => proposeUpdate <$> Terms.read
  | 6 => answerUpdate <$> Cursor.flag
  | _ => pure closeStream

def unpack : List UInt8 → Except StreamError Instruction
  | [] => .error .malformedRecord
  | tag :: body => do
    let n ← span tag
    if body.length + 1 = n then pure ((readBody tag).run body).1 else throw .malformedRecord

end Instruction

end MoneyStream
