import MoneyStream.Instruction
import MoneyStream.Word
/-! # Fees

The program charges flat fees in lamports and percent fees in parts per million of the
tokens that leave the escrow; the network charges per signature. A percent fee is rounded
down and never exceeds the amount it is taken from.
-/
namespace MoneyStream

structure FeeSplit where
  net : UInt64
  fee : UInt64
  deriving DecidableEq, Repr, Inhabited

def percentDenominator : Nat := 1000000

/-- Takes `percent` parts per million out of `amount`, rounding the fee down and capping it
at the amount. -/
def splitPercentFee (amount percent : UInt64) : FeeSplit :=
  let fee := (min (amount.toNat * percent.toNat / percentDenominator) amount.toNat).toUInt64
  ⟨amount - fee, fee⟩

structure Fees where
  blockchainFee : UInt64
  flatFee : UInt64
  percentFee : UInt64
  deriving DecidableEq, Repr, Inhabited

def lamportsPerSignature : UInt64 := 5000

def Action.programFees : Action → UInt64 × UInt64
  | .createStream => (10000, 0)
  | .addFunds => (25000, 0)
  | .withdraw => (0, 2500)
  | .closeStream => (10000, 2500)
  | .pauseStream | .resumeStream | .proposeUpdate | .answerUpdate => (0, 0)

def Action.fees (a : Action) (signatures : UInt64) : Fees :=
  ⟨Word.mulSat signatures lamportsPerSignature, a.programFees.1, a.programFees.2⟩

def Fees.percentFeeOn (f : Fees) (amount : UInt64) : UInt64 :=
  (splitPercentFee amount f.percentFee).fee

end MoneyStream
