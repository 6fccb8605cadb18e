import MoneyStream.Address.Pubkey
/-! # Calls

A call of a program names the program, the accounts it touches (each marked as signing or
not, written or only read) and its data bytes. Instructions sent to this program and the
calls it makes to other programs are both calls.
-/
namespace MoneyStream

structure AccountMeta where
  pubkey : Pubkey
  isSigner : Bool
  isWritable : Bool
  deriving DecidableEq, Repr, Inhabited

def AccountMeta.writable (k : Pubkey) (signer : Bool) : AccountMeta := ⟨k, signer, true⟩

def AccountMeta.readonly (k : Pubkey) (signer : Bool) : AccountMeta := ⟨k, signer, false⟩

structure Call where
  programId : Pubkey
  accounts : List AccountMeta
  data : List UInt8
  deriving DecidableEq, Repr, Inhabited

end MoneyStream
