import MoneyStream.Info
import MoneyStream.Instruction.Builder
/-! # Client

The off-chain side: reading a stream's record, checking that a clock reading is fresh, and
the loop that reads the latest record, builds instructions from it and submits them,
reading and rebuilding again after a rejection that asks for it, up to a number of
submissions.
-/
namespace MoneyStream

inductive Rejection where
  | program (e : StreamError)
  | staleState
  | other (text : String)
  deriving DecidableEq, Repr, Inhabited

namespace Rejection

def recovery : Rejection → Recovery
  | program e => e.recovery
  | staleState => .rereadAndRetry
  | other _ => .surface

def ofError (e : StreamError) : Rejection :=
  if e = .staleState then staleState else program e

def ofFault : Fault → Rejection
  | .program e => ofError e
  | .runtime e => other e.message
  | .underflow => other "attempt to subtract with overflow"

end Rejection

structure ClientConfig where
  maxAttempts : UInt32 := 3
  maxStaleness : UInt64 := 30
  deriving DecidableEq, Repr, Inhabited

/-- Where a client reads accounts: the bytes at an address, none when no account exists there,
or the reader's own error. -/
abbrev AccountReader := Pubkey → Except Fault (Option (List UInt8))

/-- How a client submits transactions: given how many were submitted before and the calls,
a signature or a rejection. -/
abbrev Submitter := Nat → List Call → Except Rejection String

namespace ClientConfig

def ensureFresh (c : ClientConfig) (readAt now : UInt64) : Except StreamError Unit :=
  if Word.subSat now readAt > c.maxStaleness then .error .staleState else .ok ()

end ClientConfig

def fetchStream (read : AccountReader) (address : Pubkey) : Except Fault (Option Stream) := do
  match ← read address with
  | some data => some <$> (Stream.decode data).mapError .program
  | none => pure none

def fetchStreamInfo (read : AccountReader) (address : Pubkey) (now : UInt64)
    (f : AddressFormat) : Except Fault (Option StreamInfo) := do
  match ← fetchStream read address with
  | some s => some <$> StreamInfo.new address s now f
  | none => pure none

inductive ClientCall where
  | read (address : Pubkey)
  | build (s : Stream)
  | submit (calls : List Call)
  deriving DecidableEq, Repr

namespace ClientCall

def isBuild : ClientCall → Bool
  | build _ => true
  | _ => false

def submitted? : ClientCall → Option (List Call)
  | submit calls => some calls
  | _ => none

end ClientCall

inductive AttemptEnd where
  | refused (r : Rejection)
  | answered (answer : Except Rejection String)

/-- The attempt after `k` earlier ones: read the account, decode the record, build calls on it and
submit them. The reader, the build callback and the submitter each answer their `k`-th call, so
they may answer each attempt differently. Gives the calls made, in order, and how it ended. -/
def attempt (reads : Nat → AccountReader) (build : Nat → Stream → Except Fault (List Call))
    (submit : Submitter) (address : Pubkey) (k : Nat) : List ClientCall × AttemptEnd :=
  match fetchStream (reads k) address with
  | .error f => ([.read address], .refused (.ofFault f))
  | .ok none => ([.read address], .refused (.program .streamNotInitialized))
  | .ok (some s) =>
    match build k s with
    | .error f => ([.read address, .build s], .refused (.ofFault f))
    | .ok calls => ([.read address, .build s, .submit calls], .answered (submit k calls))

structure SubmitOutcome where
  result : Except Rejection String
  log : List ClientCall

namespace SubmitOutcome

def builds (o : SubmitOutcome) : Nat := o.log.countP ClientCall.isBuild

def submissions (o : SubmitOutcome) : List (List Call) := o.log.filterMap ClientCall.submitted?

end SubmitOutcome

/-- The attempts from the `k`-th on, `retries` more being allowed after this one. A rejection that
asks for a fresh read starts another attempt while any are left. -/
def submitLoop (reads : Nat → AccountReader) (build : Nat → Stream → Except Fault (List Call))
    (submit : Submitter) (address : Pubkey) : Nat → Nat → SubmitOutcome
  | retries, k =>
    let (calls, ending) := attempt reads build submit address k
    match ending, retries with
    | .refused r, _ => ⟨.error r, calls⟩
    | .answered (.ok signature), _ => ⟨.ok signature, calls⟩
    | .answered (.error r), 0 => ⟨.error r, calls⟩
    | .answered (.error r), n + 1 =>
      if r.recovery = .rereadAndRetry then
        let rest := submitLoop reads build submit address n (k + 1)
        ⟨rest.result, calls ++ rest.log⟩
      else ⟨.error r, calls⟩

/-- Reads the latest record, builds calls from it and submits them, at most `maxAttempts` times
(once at least). -/
def submitWithRefresh (c : ClientConfig) (reads : Nat → AccountReader) (submit : Submitter)
    (address : Pubkey) (build : Nat → Stream → Except Fault (List Call)) : SubmitOutcome :=
  submitLoop reads build submit address (c.maxAttempts.toNat - 1) 0

end MoneyStream
