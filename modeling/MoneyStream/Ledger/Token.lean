import MoneyStream.Address.Derive
import MoneyStream.Call
import MoneyStream.Error
import MoneyStream.Record.Layout
/-! # Token and system program interfaces

The layouts the token program stores mints (82 bytes) and token accounts (165 bytes) in, as
far as this program reads them, and the calls it makes to the token program (checked
transfers, closing an account) and to the system program (creating, funding, allocating and
assigning accounts). An optional key or amount is stored behind a four-byte tag that must
be 0 (none) or 1 (some); any other tag, a wrong length or an unknown state byte makes the
data invalid, and a well-formed record that was never initialized is refused as such.
-/
namespace MoneyStream.Token

open Layout

def validTag (data : List UInt8) (offset : Nat) : Bool :=
  let tag := (data.drop offset).take 4
  tag == [0, 0, 0, 0] || tag == [1, 0, 0, 0]

def byteAt (data : List UInt8) (offset : Nat) : UInt8 := data.getD offset 0

/-- The decimals of a mint: mint authority (optional key), supply, decimals, initialized
flag (0 or 1) and freeze authority (optional key). -/
def mintDecimals (data : List UInt8) : Except RuntimeError UInt8 :=
  if data.length ≠ 82 then .error .invalidAccountData
  else if !validTag data 0 then .error .invalidAccountData
  else if byteAt data 45 > 1 then .error .invalidAccountData
  else if !validTag data 46 then .error .invalidAccountData
  else if byteAt data 45 = 0 then .error .uninitializedAccount
  else .ok (byteAt data 44)

/-- The balance of a token account: mint, owner, amount, delegate (optional key), state
(0 uninitialized, 1 initialized, 2 frozen), native reserve (optional amount), delegated
amount and close authority (optional key). -/
def accountAmount (data : List UInt8) : Except RuntimeError UInt64 :=
  if data.length ≠ 165 then .error .invalidAccountData
  else if !validTag data 72 then .error .invalidAccountData
  else if byteAt data 108 > 2 then .error .invalidAccountData
  else if !validTag data 109 then .error .invalidAccountData
  else if !validTag data 129 then .error .invalidAccountData
  else if byteAt data 108 = 0 then .error .uninitializedAccount
  else .ok (wordOf (data.drop 64))

def transferChecked (source mint destination authority : Pubkey) (amount : UInt64)
    (decimals : UInt8) : Call :=
  ⟨Derive.tokenProgram, [.writable source false, .readonly mint false,
    .writable destination false, .readonly authority true], 12 :: wordBytes amount ++ [decimals]⟩

def closeAccount (account destination authority : Pubkey) : Call :=
  ⟨Derive.tokenProgram, [.writable account false, .writable destination false,
    .readonly authority true], [9]⟩

end MoneyStream.Token

namespace MoneyStream.SystemCall

open Layout

def index (n : UInt8) : List UInt8 := [n, 0, 0, 0]

def createAccount (payer account : Pubkey) (lamports space : UInt64) (owner : Pubkey) : Call :=
  ⟨Derive.systemProgram, [.writable payer true, .writable account true],
    index 0 ++ wordBytes lamports ++ wordBytes space ++ owner.toList⟩

def assign (account owner : Pubkey) : Call :=
  ⟨Derive.systemProgram, [.writable account true], index 1 ++ owner.toList⟩

def transfer (source destination : Pubkey) (lamports : UInt64) : Call :=
  ⟨Derive.systemProgram, [.writable source true, .writable destination false],
    index 2 ++ wordBytes lamports⟩

def allocate (account : Pubkey) (space : UInt64) : Call :=
  ⟨Derive.systemProgram, [.writable account true], index 8 ++ wordBytes space⟩

end MoneyStream.SystemCall
