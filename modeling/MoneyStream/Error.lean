/-! # Errors

The program's own refusals (`StreamError`, numbered from 6000 in declaration order), the
few standard runtime errors it can return (`RuntimeError`), and `Fault`, which joins them
with the one arithmetic trap a computation can hit: a subtraction below zero. Each refusal
also says what a caller should do next (`Recovery`).
-/
namespace MoneyStream

/-- The program's own refusals, in the order of their numbers. -/
inductive StreamError where
  | malformedRecord
  | unknownInstruction
  | noValidBumpFound
  | invalidSeeds
  | unauthorized
  | missingSignature
  | insufficientVestedBalance
  | updateAlreadyPending
  | noPendingUpdate
  | alreadyPaused
  | notPaused
  | streamClosed
  | staleState
  | streamNotInitialized
  | streamAlreadyInitialized
  | stringTooLong
  | invalidCliff
  | invalidBeneficiary
  | zeroContributionAmount
  | zeroWithdrawalAmount
  | overflow
  | invalidOwner
  | invalidStream
  | invalidTreasury
  | invalidTreasuryAuthority
  | invalidAssociatedToken
  | invalidTokenAccount
  | notEnoughAccountKeys
  | invalidFeeTreasuryAccount
  deriving DecidableEq, Repr, Inhabited

inductive Recovery where
  | fatal
  | rereadAndRetry
  | surface
  deriving DecidableEq, Repr, Inhabited

namespace StreamError

def all : List StreamError :=
  [malformedRecord, unknownInstruction, noValidBumpFound, invalidSeeds, unauthorized,
    missingSignature, insufficientVestedBalance, updateAlreadyPending, noPendingUpdate,
    alreadyPaused, notPaused, streamClosed, staleState, streamNotInitialized,
    streamAlreadyInitialized, stringTooLong, invalidCliff, invalidBeneficiary,
    zeroContributionAmount, zeroWithdrawalAmount, overflow, invalidOwner, invalidStream,
    invalidTreasury, invalidTreasuryAuthority, invalidAssociatedToken, invalidTokenAccount,
    notEnoughAccountKeys, invalidFeeTreasuryAccount]

def describe : StreamError → String × String
  | malformedRecord => ("MalformedRecord", "Record length does not match the layout span")
  | unknownInstruction => ("UnknownInstruction", "Unknown instruction tag")
  | noValidBumpFound =>
    ("NoValidBumpFound", "No bump seed produces an off-curve address for these seeds")
  | invalidSeeds =>
    ("InvalidSeeds", "The stored bump does not re-derive a valid address for these seeds")
  | unauthorized => ("Unauthorized", "Not Authorized")
  | missingSignature => ("MissingSignature", "Instruction signature is missing")
  | insufficientVestedBalance =>
    ("InsufficientVestedBalance", "Withdrawal amount exceeds the vested balance")
  | updateAlreadyPending =>
    ("UpdateAlreadyPending", "An update proposal is already pending for this stream")
  | noPendingUpdate =>
    ("NoPendingUpdate", "There is no pending update proposal for this stream")
  | alreadyPaused => ("AlreadyPaused", "The stream is already paused")
  | notPaused => ("NotPaused", "The stream is not paused")
  | streamClosed => ("StreamClosed", "The stream is closed")
  | staleState => ("StaleState", "Stream state changed since it was read")
  | streamNotInitialized => ("StreamNotInitialized", "Stream not initialized")
  | streamAlreadyInitialized => ("StreamAlreadyInitialized", "Stream is already initialized")
  | stringTooLong => ("StringTooLong", "The string length is larger than 32 bytes")
  | invalidCliff => ("InvalidCliff", "Invalid cliff")
  | invalidBeneficiary => ("InvalidBeneficiary", "Invalid beneficiary")
  | zeroContributionAmount => ("ZeroContributionAmount", "Contribution amount is zero")
  | zeroWithdrawalAmount => ("ZeroWithdrawalAmount", "Withdrawal amount is zero")
  | overflow => ("Overflow", "Overflow")
  | invalidOwner => ("InvalidOwner", "Invalid account owner")
  | invalidStream => ("InvalidStream", "Invalid stream account")
  | invalidTreasury => ("InvalidTreasury", "Invalid treasury account")
  | invalidTreasuryAuthority => ("InvalidTreasuryAuthority", "Invalid treasury authority account")
  | invalidAssociatedToken => ("InvalidAssociatedToken", "Invalid associated token address")
  | invalidTokenAccount => ("InvalidTokenAccount", "Invalid token account")
  | notEnoughAccountKeys => ("NotEnoughAccountKeys", "Not enough account keys were provided")
  | invalidFeeTreasuryAccount => ("InvalidFeeTreasuryAccount", "Invalid fee treasury account")

def name (e : StreamError) : String := e.describe.1

def message (e : StreamError) : String := e.describe.2

def index (e : StreamError) : Nat := all.idxOf e

def code (e : StreamError) : Nat := 6000 + e.index

def ofCode? (n : Nat) : Option StreamError := all.find? (·.code == n)

def ofName? (s : String) : Option StreamError := all.find? (·.name == s)

/-- Malformed input and failed derivations are final; a refusal that depends on the
stream's current state asks for a fresh read; the rest are reported. -/
def recovery : StreamError → Recovery
  | malformedRecord | unknownInstruction | noValidBumpFound | invalidSeeds | stringTooLong
  | invalidCliff | invalidBeneficiary | zeroContributionAmount | zeroWithdrawalAmount
  | overflow => .fatal
  | insufficientVestedBalance | updateAlreadyPending | noPendingUpdate | alreadyPaused
  | notPaused | staleState => .rereadAndRetry
  | _ => .surface

end StreamError

inductive RuntimeError where
  | invalidArgument
  | invalidAccountData
  | incorrectProgramId
  | uninitializedAccount
  deriving DecidableEq, Repr, Inhabited

namespace RuntimeError

def name : RuntimeError → String
  | invalidArgument => "InvalidArgument"
  | invalidAccountData => "InvalidAccountData"
  | incorrectProgramId => "IncorrectProgramId"
  | uninitializedAccount => "UninitializedAccount"

def message : RuntimeError → String
  | invalidArgument => "The arguments provided to a program instruction were invalid"
  | invalidAccountData => "An account's data contents was invalid"
  | incorrectProgramId => "The account did not have the expected program id"
  | uninitializedAccount => "An attempt to operate on an account that hasn't been initialized"

/-- The 64-bit number of a runtime error: its ordinal shifted into the upper half. -/
def code : RuntimeError → Nat
  | invalidArgument => 2 <<< 32
  | invalidAccountData => 4 <<< 32
  | incorrectProgramId => 7 <<< 32
  | uninitializedAccount => 10 <<< 32

end RuntimeError

inductive Fault where
  | program (e : StreamError)
  | runtime (e : RuntimeError)
  /-- A subtraction went below zero and the whole computation was abandoned. -/
  | underflow
  deriving DecidableEq, Repr, Inhabited

namespace Fault

def recovery : Fault → Recovery
  | program e => e.recovery
  | _ => .surface

end Fault

end MoneyStream
