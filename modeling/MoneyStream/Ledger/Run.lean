import MoneyStream.Call
import MoneyStream.Error
/-! # Running an instruction against accounts

The accounts an instruction sees, and the computation that processes it: it reads and
writes accounts by their position in the ledger, records the calls it makes to other
programs (with the seeds it signs with) and the events it emits, and may stop with a
fault. A stop keeps what was written and recorded before it.
-/
namespace MoneyStream

structure Account where
  key : Pubkey
  owner : Pubkey
  lamports : UInt64
  data : List UInt8
  isSigner : Bool
  deriving DecidableEq, Repr, Inhabited

/-- A call to another program with the seed lists of the derived addresses that sign it. -/
structure Invocation where
  call : Call
  signerSeeds : List (List (List UInt8))
  deriving DecidableEq, Repr, Inhabited

structure Ledger where
  accounts : Array Account
  invocations : Array Invocation := #[]
  events : Array (List UInt8) := #[]
  deriving Repr, Inhabited

def Ledger.account (l : Ledger) (i : Nat) : Account := l.accounts.getD i default

/-- A computation over a ledger that may stop with a fault. -/
abbrev Run := ExceptT Fault (StateM Ledger)

namespace Run

def account (i : Nat) : Run Account := do
  return (← get).account i

def setLamports (i : Nat) (v : UInt64) : Run Unit :=
  modify fun l => { l with accounts := l.accounts.modify i fun a => { a with lamports := v } }

def setData (i : Nat) (d : List UInt8) : Run Unit :=
  modify fun l => { l with accounts := l.accounts.modify i fun a => { a with data := d } }

/-- Records a call to another program; calls change no account here. -/
def invoke (c : Call) (signerSeeds : List (List (List UInt8))) : Run Unit :=
  modify fun l => { l with invocations := l.invocations.push ⟨c, signerSeeds⟩ }

def invokeWhen (c : Prop) [Decidable c] (call : Call) (signerSeeds : List (List (List UInt8))) :
    Run Unit :=
  if c then invoke call signerSeeds else pure ()

def emit (bytes : List UInt8) : Run Unit :=
  modify fun l => { l with events := l.events.push bytes }

def refuse {α : Type} (e : StreamError) : Run α := throw (.program e)

def ofExcept {α : Type} (x : Except StreamError α) : Run α :=
  match x with
  | .ok a => pure a
  | .error e => refuse e

def ofFault {α : Type} (x : Except Fault α) : Run α :=
  match x with
  | .ok a => pure a
  | .error f => throw f

end Run

end MoneyStream
