import MoneyStream.Ledger.Event
import MoneyStream.Ledger.Run
import MoneyStream.Ledger.Token
import MoneyStream.Negotiation
import MoneyStream.Fee
import MoneyStream.Address.Stream
import MoneyStream.Record.Treasury
/-! # Processing instructions

The program's entry point against real accounts. Each instruction takes its accounts in a
fixed order (too few are refused before anything else), checks them (signer, program
accounts, the fee treasury, derived addresses, record owners and token accounts), applies
the stream operation, moves tokens and lamports by calls to the token and system programs,
writes the record back and emits its event. Calls are only recorded, so creating a stream
never gets an allocated record to write into and ends refusing the record's data.
-/
namespace MoneyStream.Processor

open Run

def rentExempt (space : Nat) : UInt64 := ((128 + space) * 3480 * 2).toUInt64

def checkSigner (a : Account) : Run Unit :=
  unless a.isSigner do refuse .missingSignature

def checkTokenProgram (a : Account) : Run Unit :=
  unless a.key = Derive.tokenProgram do throw (.runtime .incorrectProgramId)

def checkSystemProgram (a : Account) : Run Unit :=
  unless a.key = Derive.systemProgram do throw (.runtime .incorrectProgramId)

def checkFeeTreasury (a : Account) : Run Unit :=
  unless a.key = Address.feeTreasury do refuse .invalidFeeTreasuryAccount

def checkFeeTreasuryToken (a mint : Account) : Run Unit :=
  unless a.key = Address.feeTreasuryToken mint.key do refuse .invalidFeeTreasuryAccount

def checkMint (mint : Account) (s : Stream) : Run Unit :=
  unless mint.key = s.terms.mint do refuse .invalidAssociatedToken

/-- The stream recorded in an account this program owns, which must live at the address
its treasurer, nonce and bump derive. -/
def storedStream (programId : Pubkey) (a : Account) : Except StreamError Stream := do
  unless a.owner = programId do throw .invalidOwner
  let s ← Stream.decode a.data
  unless s.initialized do throw .streamNotInitialized
  let address ← Address.create (Address.streamSeeds s.treasurer s.nonce) s.bump programId
  unless address = a.key do throw .invalidStream
  pure s

def loadStream (programId : Pubkey) (i : Nat) : Run Stream := do
  ofExcept (storedStream programId (← account i))

def saveStream (i : Nat) (s : Stream) : Run Unit := do
  unless (← account i).data.length = Stream.size do throw (.runtime .invalidAccountData)
  setData i s.toBytes

def saveTreasury (i : Nat) (t : Treasury) : Run Unit := do
  unless (← account i).data.length = Treasury.size do throw (.runtime .invalidAccountData)
  setData i t.toBytes

/-- The treasury of a stream, recorded in an account this program owns at the stream's
treasury address, backing the stream and escrowing its mint. -/
def storedTreasury (programId : Pubkey) (a : Account) (streamKey : Pubkey) (s : Stream) :
    Except StreamError Treasury := do
  unless a.owner = programId do throw .invalidOwner
  unless a.key = s.treasury do throw .invalidTreasury
  let t ← Treasury.decode a.data
  t.validateFor streamKey s.terms.mint
  pure t

def loadTreasury (programId : Pubkey) (i : Nat) (streamKey : Pubkey) (s : Stream) : Run Treasury := do
  ofExcept (storedTreasury programId (← account i) streamKey s)

def checkTreasuryAuthority (programId : Pubkey) (authority : Account) (treasuryKey : Pubkey)
    (t : Treasury) : Run Unit := do
  let address ← ofExcept (Address.create (Address.authoritySeeds treasuryKey) t.authorityBump programId)
  unless address = authority.key do refuse .invalidTreasuryAuthority

def mintDecimals (mint : Account) : Run UInt8 := do
  unless mint.owner = Derive.tokenProgram do refuse .invalidAssociatedToken
  match Token.mintDecimals mint.data with
  | .ok d => pure d
  | .error e => throw (.runtime e)

def tokenBalance (a : Account) : Run UInt64 := do
  unless a.owner = Derive.tokenProgram do refuse .invalidTokenAccount
  match Token.accountAmount a.data with
  | .ok n => pure n
  | .error e => throw (.runtime e)

inductive Creation where
  | create (lamports : UInt64)
  | adopt (shortfall : UInt64)
  deriving DecidableEq, Repr

/-- The plan for an address: an account with data, or with lamports and another owner than
the system program, is already in use. -/
def Creation.plan (a : Account) (rent : UInt64) : Except StreamError Creation :=
  if !a.data.isEmpty then .error .streamAlreadyInitialized
  else if a.lamports = 0 then .ok (.create rent)
  else if a.owner ≠ Derive.systemProgram then .error .streamAlreadyInitialized
  else .ok (.adopt (Word.subSat rent a.lamports))

/-- Makes the account at a derived address (signed for by `seeds`) an account of this
program with `space` bytes, paid by `payer`. -/
def createProgramAccount (programId : Pubkey) (payer fresh : Account) (seeds : List (List UInt8))
    (space : Nat) : Run Unit := do
  match ← ofExcept (Creation.plan fresh (rentExempt space)) with
  | .create lamports =>
    invoke (SystemCall.createAccount payer.key fresh.key lamports space.toUInt64 programId) [seeds]
  | .adopt shortfall =>
    invokeWhen (shortfall > 0) (SystemCall.transfer payer.key fresh.key shortfall) []
    invoke (SystemCall.allocate fresh.key space.toUInt64) [seeds]
    invoke (SystemCall.assign fresh.key programId) [seeds]

def closeProgramAccount (i j : Nat) : Run Unit := do
  let moved := (← account i).lamports
  match Word.add? (← account j).lamports moved with
  | none => refuse .overflow
  | some v =>
    setLamports j v
    setLamports i 0

def authoritySigner (treasuryKey : Pubkey) (t : Treasury) : List (List (List UInt8)) :=
  [Address.authoritySeeds treasuryKey ++ [[t.authorityBump]]]

/-- Creates a stream and its treasury, funding the escrow when asked. The bumps in the
parameters must be the ones the search finds. -/
def createStream (programId : Pubkey) (infos : List Nat) (p : CreateParams) (clock : Clock) :
    Run Unit := do
  let (treasurerAt, streamAt, treasuryAt, rest) ← match infos with
    | t :: tt :: b :: m :: s :: tr :: au :: es :: tp :: sp :: ft :: _ =>
      pure (t, s, tr, (tt, b, m, au, es, tp, sp, ft))
    | _ => refuse .notEnoughAccountKeys
  let (treasurerTokenAt, beneficiaryAt, mintAt, authorityAt, escrowAt, tokenAt, systemAt, feeAt) := rest
  let treasurer ← account treasurerAt
  let stream ← account streamAt
  let treasury ← account treasuryAt
  let mint ← account mintAt
  let authority ← account authorityAt
  let escrow ← account escrowAt
  let beneficiary ← account beneficiaryAt
  checkSigner treasurer
  checkTokenProgram (← account tokenAt)
  checkSystemProgram (← account systemAt)
  checkFeeTreasury (← account feeAt)
  unless mint.key = p.mint do refuse .invalidAssociatedToken
  unless beneficiary.key = p.beneficiary do refuse .invalidBeneficiary
  let streamPda ← ofExcept (Address.find (Address.streamSeeds treasurer.key p.nonce) programId)
  unless streamPda.address = stream.key do refuse .invalidStream
  let treasuryPda ← ofExcept (Address.find (Address.treasurySeeds stream.key) programId)
  unless treasuryPda.address = treasury.key do refuse .invalidTreasury
  let authorityPda ← ofExcept (Address.find (Address.authoritySeeds treasury.key) programId)
  unless authorityPda.address = authority.key do refuse .invalidTreasuryAuthority
  unless streamPda.bump = p.streamBump ∧ treasuryPda.bump = p.treasuryBump ∧
      authorityPda.bump = p.authorityBump do refuse .invalidSeeds
  unless Address.escrowToken authority.key mint.key = escrow.key do refuse .invalidTokenAccount
  let s ← ofExcept (Stream.create treasurer.key p (Derive.associatedToken beneficiary.key mint.key)
    treasury.key clock)
  let t : Treasury := ⟨true, p.treasuryBump, p.authorityBump, stream.key, mint.key, escrow.key,
    clock.now⟩
  createProgramAccount programId treasurer stream
    (Address.streamSeeds treasurer.key p.nonce ++ [[p.streamBump]]) Stream.size
  createProgramAccount programId treasurer treasury
    (Address.treasurySeeds stream.key ++ [[p.treasuryBump]]) Treasury.size
  if p.funding > 0 then
    let decimals ← mintDecimals mint
    invoke (Token.transferChecked (← account treasurerTokenAt).key mint.key escrow.key treasurer.key
      p.funding decimals) []
  invoke (SystemCall.transfer treasurer.key Address.feeTreasury 10000) []
  saveStream streamAt s
  saveTreasury treasuryAt t
  emit (Event.createStream clock.now s.start s.terms.rateAmount s.terms.rateInterval s.totalDeposits
    s.cliffUnits stream.key treasury.key).toBytes

def addFunds (programId : Pubkey) (infos : List Nat) (amount : UInt64) (resume : Bool)
    (clock : Clock) : Run Unit := do
  let (contributorAt, contributorTokenAt, streamAt, treasuryAt, escrowAt, mintAt, tokenAt, feeAt,
      systemAt) ← match infos with
    | c :: ct :: s :: tr :: es :: m :: tp :: ft :: sp :: _ => pure (c, ct, s, tr, es, m, tp, ft, sp)
    | _ => refuse .notEnoughAccountKeys
  let contributor ← account contributorAt
  let stream ← account streamAt
  let mint ← account mintAt
  let escrow ← account escrowAt
  checkSigner contributor
  checkTokenProgram (← account tokenAt)
  checkSystemProgram (← account systemAt)
  checkFeeTreasury (← account feeAt)
  let s ← loadStream programId streamAt
  let t ← loadTreasury programId treasuryAt stream.key s
  checkMint mint s
  unless escrow.key = t.escrow do refuse .invalidTokenAccount
  let s' ← ofExcept (s.addFunds contributor.key amount resume clock)
  let decimals ← mintDecimals mint
  invoke (Token.transferChecked (← account contributorTokenAt).key mint.key escrow.key contributor.key
    amount decimals) []
  invoke (SystemCall.transfer contributor.key Address.feeTreasury 25000) []
  saveStream streamAt s'
  emit (Event.addFunds clock.now amount (s.isManuallyPaused && !s'.isManuallyPaused) s'.totalDeposits
    s'.pausedSeconds contributor.key stream.key).toBytes

def withdraw (programId : Pubkey) (infos : List Nat) (amount : UInt64) (clock : Clock) :
    Run Unit := do
  let (beneficiaryAt, beneficiaryTokenAt, streamAt, treasuryAt, authorityAt, escrowAt, mintAt,
      tokenAt, feeTokenAt) ← match infos with
    | b :: bt :: s :: tr :: au :: es :: m :: tp :: ft :: _ => pure (b, bt, s, tr, au, es, m, tp, ft)
    | _ => refuse .notEnoughAccountKeys
  let beneficiary ← account beneficiaryAt
  let beneficiaryToken ← account beneficiaryTokenAt
  let stream ← account streamAt
  let treasury ← account treasuryAt
  let authority ← account authorityAt
  let escrow ← account escrowAt
  let mint ← account mintAt
  let feeToken ← account feeTokenAt
  checkSigner beneficiary
  checkTokenProgram (← account tokenAt)
  checkFeeTreasuryToken feeToken mint
  let s ← loadStream programId streamAt
  let t ← loadTreasury programId treasuryAt stream.key s
  checkTreasuryAuthority programId authority treasury.key t
  checkMint mint s
  unless escrow.key = t.escrow ∧ beneficiaryToken.key = s.beneficiaryToken do
    refuse .invalidTokenAccount
  let before := s.withdrawableAmount clock.now
  let s' ← ofExcept (s.withdraw beneficiary.key amount clock)
  let split := splitPercentFee amount 2500
  let decimals ← mintDecimals mint
  let signer := authoritySigner treasury.key t
  invoke (Token.transferChecked escrow.key mint.key beneficiaryToken.key authority.key split.net
    decimals) signer
  invokeWhen (split.fee > 0)
    (Token.transferChecked escrow.key mint.key feeToken.key authority.key split.fee decimals) signer
  saveStream streamAt s'
  emit (Event.withdraw clock.now amount split.fee before s'.isManuallyPaused s'.totalWithdrawals
    stream.key treasury.key).toBytes

def partyAccounts (infos : List Nat) : Run (Account × Nat) := do
  let (initiatorAt, streamAt) ← match infos with
    | i :: s :: _ => pure (i, s)
    | _ => refuse .notEnoughAccountKeys
  let initiator ← account initiatorAt
  checkSigner initiator
  pure (initiator, streamAt)

def partyOperation (programId : Pubkey) (infos : List Nat)
    (op : Stream → Pubkey → Except StreamError Stream) (event : Stream → Stream → Pubkey → Pubkey → Event) :
    Run Unit := do
  let (initiator, streamAt) ← partyAccounts infos
  let s ← loadStream programId streamAt
  let s' ← ofExcept (op s initiator.key)
  saveStream streamAt s'
  emit (event s s' initiator.key (← account streamAt).key).toBytes

/-- Settles and closes a stream: the beneficiary gets what vested less the percent fee, the
treasurer whatever else the escrow holds; the escrow, the treasury and the stream account
are closed to the treasurer. -/
def closeStream (programId : Pubkey) (infos : List Nat) (clock : Clock) : Run Unit := do
  let (initiatorAt, streamAt, treasuryAt, authorityAt, escrowAt, beneficiaryTokenAt, treasurerTokenAt,
      treasurerAt, rest) ← match infos with
    | i :: s :: tr :: au :: es :: bt :: tt :: t :: m :: tp :: ft :: ftt :: sp :: _ =>
      pure (i, s, tr, au, es, bt, tt, t, (m, tp, ft, ftt, sp))
    | _ => refuse .notEnoughAccountKeys
  let (mintAt, tokenAt, feeAt, feeTokenAt, systemAt) := rest
  let initiator ← account initiatorAt
  let stream ← account streamAt
  let treasury ← account treasuryAt
  let authority ← account authorityAt
  let escrow ← account escrowAt
  let beneficiaryToken ← account beneficiaryTokenAt
  let treasurerToken ← account treasurerTokenAt
  let treasurer ← account treasurerAt
  let mint ← account mintAt
  let feeToken ← account feeTokenAt
  checkSigner initiator
  checkTokenProgram (← account tokenAt)
  checkSystemProgram (← account systemAt)
  checkFeeTreasury (← account feeAt)
  checkFeeTreasuryToken feeToken mint
  let s ← loadStream programId streamAt
  let t ← loadTreasury programId treasuryAt stream.key s
  checkTreasuryAuthority programId authority treasury.key t
  checkMint mint s
  unless treasurer.key = s.treasurer do refuse .unauthorized
  unless escrow.key = t.escrow ∧ beneficiaryToken.key = s.beneficiaryToken ∧
      treasurerToken.key = Derive.associatedToken treasurer.key mint.key do
    refuse .invalidTokenAccount
  let (settlement, s') ← ofFault (s.close initiator.key clock)
  let decimals ← mintDecimals mint
  let signer := authoritySigner treasury.key t
  let split := splitPercentFee settlement.beneficiaryAmount 2500
  invokeWhen (split.net > 0)
    (Token.transferChecked escrow.key mint.key beneficiaryToken.key authority.key split.net decimals)
    signer
  invokeWhen (split.fee > 0)
    (Token.transferChecked escrow.key mint.key feeToken.key authority.key split.fee decimals) signer
  let remaining ← tokenBalance (← account escrowAt)
  invokeWhen (remaining > 0)
    (Token.transferChecked escrow.key mint.key treasurerToken.key authority.key remaining decimals)
    signer
  invoke (Token.closeAccount escrow.key treasurer.key authority.key) signer
  invoke (SystemCall.transfer initiator.key Address.feeTreasury 10000) []
  saveStream streamAt s'
  closeProgramAccount treasuryAt treasurerAt
  closeProgramAccount streamAt treasurerAt
  emit (Event.closeStream clock.now split.net split.fee remaining s'.totalDeposits s'.totalWithdrawals
    initiator.key stream.key treasury.key).toBytes

def process (programId : Pubkey) (infos : List Nat) (payload : List UInt8) (clock : Clock) :
    Run Unit := do
  match ← ofExcept (Instruction.unpack payload) with
  | .createStream p => createStream programId infos p clock
  | .addFunds amount resume => addFunds programId infos amount resume clock
  | .withdraw amount => withdraw programId infos amount clock
  | .pauseStream =>
    partyOperation programId infos (fun s who => s.pause who clock) fun _ s' who key =>
      .pause clock.now s'.snapshotUnits who key
  | .resumeStream =>
    partyOperation programId infos (fun s who => s.resume who clock) fun s s' who key =>
      .resume clock.now s'.pausedSeconds s.isManuallyPaused who key
  | .proposeUpdate terms =>
    partyOperation programId infos (fun s who => s.proposeUpdate who terms) fun _ s' who key =>
      .proposeUpdate clock.now terms.rateAmount terms.rateInterval terms.cliffAmount
        terms.cliffPercent who ((s'.pending.map (·.counterparty)).getD Pubkey.zero) key
  | .answerUpdate approve =>
    partyOperation programId infos (fun s who => s.answerUpdate who approve clock) fun _ _ who key =>
      .answerUpdate clock.now approve who key
  | .closeStream => closeStream programId infos clock

/-- What one instruction did: its outcome, the accounts after it, and the calls and events
it recorded. A refused instruction keeps the writes made before the refusal. -/
def step (accounts : Array Account) (programId : Pubkey) (infos : List Nat)
    (payload : List UInt8) (clock : Clock) : Except Fault Unit × Ledger :=
  (process programId infos payload clock).run { accounts } |>.run

end MoneyStream.Processor
