import MoneyStream.Hash.Sha256
import MoneyStream.Record.Layout
/-! # Events

One event per successful instruction. An event is written as an eight-byte discriminator,
the first bytes of the SHA-256 of `event:` and the event's name, followed by its fields in
order: words as eight little-endian bytes, flags as one byte, keys as 32 bytes.
-/
namespace MoneyStream

inductive EventField where
  | word (x : UInt64)
  | flag (b : Bool)
  | key (k : Pubkey)
  deriving DecidableEq, Repr, Inhabited

def EventField.toBytes : EventField → List UInt8
  | word x => Layout.wordBytes x
  | flag b => [Layout.boolByte b]
  | key k => k.toList

inductive Event where
  | createStream (timestamp start rateAmount rateInterval funding cliff : UInt64)
      (stream treasury : Pubkey)
  | addFunds (timestamp amount : UInt64) (resumed : Bool) (depositsAfter pausedSecondsAfter : UInt64)
      (contributor stream : Pubkey)
  | withdraw (timestamp amount fee withdrawableBefore : UInt64) (manuallyPaused : Bool)
      (withdrawalsAfter : UInt64) (stream treasury : Pubkey)
  | pause (timestamp snapshotAfter : UInt64) (initiator stream : Pubkey)
  | resume (timestamp pausedSecondsAfter : UInt64) (wasManuallyPaused : Bool)
      (initiator stream : Pubkey)
  | proposeUpdate (timestamp rateAmount rateInterval cliffAmount cliffPercent : UInt64)
      (proposedBy counterparty stream : Pubkey)
  | answerUpdate (timestamp : UInt64) (approved : Bool) (answeredBy stream : Pubkey)
  | closeStream (timestamp sentToBeneficiary fee returnedToTreasurer deposits withdrawalsAfter : UInt64)
      (initiator stream treasury : Pubkey)
  deriving DecidableEq, Repr, Inhabited

namespace Event

def fields : Event → String × List EventField
  | createStream t s r i f c st tr =>
    ("CreateStreamEvent", [.word t, .word s, .word r, .word i, .word f, .word c, .key st, .key tr])
  | addFunds t a r d p c s =>
    ("AddFundsEvent", [.word t, .word a, .flag r, .word d, .word p, .key c, .key s])
  | withdraw t a f b m w s tr =>
    ("StreamWithdrawEvent", [.word t, .word a, .word f, .word b, .flag m, .word w, .key s, .key tr])
  | pause t n i s => ("StreamPauseEvent", [.word t, .word n, .key i, .key s])
  | resume t p m i s => ("StreamResumeEvent", [.word t, .word p, .flag m, .key i, .key s])
  | proposeUpdate t r i a p b c s =>
    ("ProposeUpdateEvent", [.word t, .word r, .word i, .word a, .word p, .key b, .key c, .key s])
  | answerUpdate t a b s => ("AnswerUpdateEvent", [.word t, .flag a, .key b, .key s])
  | closeStream t n f r d w i s tr =>
    ("CloseStreamEvent", [.word t, .word n, .word f, .word r, .word d, .word w, .key i, .key s, .key tr])

/-- The eight bytes that tell an event's kind. -/
def discriminator (e : Event) : List UInt8 :=
  (Sha256.hash ("event:" ++ e.fields.1).toUTF8.toList).take 8

def toBytes (e : Event) : List UInt8 :=
  e.discriminator ++ e.fields.2.flatMap EventField.toBytes

end Event

end MoneyStream
