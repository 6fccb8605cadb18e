import MoneyStream.Address.Stream
import MoneyStream.Call
import MoneyStream.Instruction
import MoneyStream.Record.Stream
/-! # Building instructions

The calls a client sends for each instruction, with the accounts in the order the program
reads them. The escrow and treasury authority are derived from the stream's record; creating
a stream derives every address and writes the bumps found into its parameters.
-/
namespace MoneyStream.Build

open Address

/-- Creates a stream funded from the treasurer's token account. -/
def createStream (programId treasurer treasurerToken : Pubkey) (p : CreateParams) :
    Except StreamError Call := do
  let a ← StreamAddresses.derive treasurer p.nonce p.mint programId
  let p := { p with streamBump := a.stream.bump, treasuryBump := a.treasury.bump,
                    authorityBump := a.authority.bump }
  pure ⟨programId, [.writable treasurer true, .writable treasurerToken false,
    .readonly p.beneficiary false, .readonly p.mint false, .writable a.stream.address false,
    .writable a.treasury.address false, .readonly a.authority.address false,
    .writable a.escrow false, .readonly Derive.tokenProgram false,
    .readonly Derive.systemProgram false, .writable feeTreasury false],
    (Instruction.createStream p).pack⟩

def addFunds (programId contributor contributorToken streamAddress : Pubkey) (s : Stream)
    (amount : UInt64) (resume : Bool) : Except StreamError Call := do
  let mint := s.terms.mint
  let authority ← find (authoritySeeds s.treasury) programId
  pure ⟨programId, [.writable contributor true, .writable contributorToken false,
    .writable streamAddress false, .readonly s.treasury false,
    .writable (escrowToken authority.address mint) false, .readonly mint false,
    .readonly Derive.tokenProgram false, .writable feeTreasury false,
    .readonly Derive.systemProgram false], (Instruction.addFunds amount resume).pack⟩

def withdraw (programId streamAddress : Pubkey) (s : Stream) (amount : UInt64) :
    Except StreamError Call := do
  let mint := s.terms.mint
  let authority ← find (authoritySeeds s.treasury) programId
  pure ⟨programId, [.readonly s.beneficiary true, .writable s.beneficiaryToken false,
    .writable streamAddress false, .readonly s.treasury false,
    .readonly authority.address false, .writable (escrowToken authority.address mint) false,
    .readonly mint false, .readonly Derive.tokenProgram false,
    .writable (feeTreasuryToken mint) false], (Instruction.withdraw amount).pack⟩

/-- An instruction that only a party signs, about one stream. -/
def partyCall (programId initiator streamAddress : Pubkey) (i : Instruction) : Call :=
  ⟨programId, [.readonly initiator true, .writable streamAddress false], i.pack⟩

def pauseStream (programId initiator streamAddress : Pubkey) : Call :=
  partyCall programId initiator streamAddress .pauseStream

def resumeStream (programId initiator streamAddress : Pubkey) : Call :=
  partyCall programId initiator streamAddress .resumeStream

def proposeUpdate (programId initiator streamAddress : Pubkey) (t : Terms) : Call :=
  partyCall programId initiator streamAddress (.proposeUpdate t)

def answerUpdate (programId initiator streamAddress : Pubkey) (approve : Bool) : Call :=
  partyCall programId initiator streamAddress (.answerUpdate approve)

def closeStream (programId initiator streamAddress : Pubkey) (s : Stream) :
    Except StreamError Call := do
  let mint := s.terms.mint
  let authority ← find (authoritySeeds s.treasury) programId
  pure ⟨programId, [.writable initiator true, .writable streamAddress false,
    .writable s.treasury false, .readonly authority.address false,
    .writable (escrowToken authority.address mint) false, .writable s.beneficiaryToken false,
    .writable (Derive.associatedToken s.treasurer mint) false, .writable s.treasurer false,
    .readonly mint false, .readonly Derive.tokenProgram false, .writable feeTreasury false,
    .writable (feeTreasuryToken mint) false, .readonly Derive.systemProgram false],
    Instruction.closeStream.pack⟩

end MoneyStream.Build
