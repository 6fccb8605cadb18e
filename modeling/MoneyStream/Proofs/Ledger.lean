import MoneyStream.Ledger.Processor
/-! # How an instruction's run ends

`Run.Ends x l ok err` says how the computation `x`, started on the ledger `l`, ends: with a
value and a ledger of which `ok` holds, or with a fault and a ledger of which `err` holds. It
is the weakest precondition of `x` for the two postconditions, and the lemmas below compute it
for every primitive of `Run` and every helper of the processor. A handler's outcome is then
read off its text by `simp` one statement after another, each check leaving a branch that
ends in `err` on the ledger as it stood.
-/
namespace MoneyStream

namespace Run

variable {α β : Type}

/-- How `x` started on `l` ends: `ok` of its value and the ledger after it, or `err` of its
fault and the ledger as the fault left it. -/
def Ends (x : Run α) (l : Ledger) (ok : α → Ledger → Prop) (err : Fault → Ledger → Prop) : Prop :=
  match (x.run l).run with
  | (.ok a, l') => ok a l'
  | (.error f, l') => err f l'

variable {l : Ledger} {ok : α → Ledger → Prop} {err : Fault → Ledger → Prop}

@[simp] theorem ends_pure (a : α) : Ends (pure a) l ok err ↔ ok a l := Iff.rfl

@[simp] theorem ends_bind (x : Run α) (f : α → Run β) {ok : β → Ledger → Prop} :
    Ends (x >>= f) l ok err ↔ Ends x l (fun a l' => Ends (f a) l' ok err) err := by
  unfold Ends ExceptT.run
  simp only [bind, ExceptT.bind, ExceptT.mk, StateT.bind, ExceptT.bindCont]
  cases x l with
  | mk result next => cases result <;> rfl

@[simp] theorem ends_map (f : α → β) (x : Run α) {ok : β → Ledger → Prop} :
    Ends (f <$> x) l ok err ↔ Ends x l (fun a l' => ok (f a) l') err := by
  rw [← bind_pure_comp]
  simp only [ends_bind, ends_pure]

@[simp] theorem ends_throw (f : Fault) : Ends (throw f : Run α) l ok err ↔ err f l := Iff.rfl

@[simp] theorem ends_refuse (e : StreamError) :
    Ends (refuse e : Run α) l ok err ↔ err (.program e) l := Iff.rfl

@[simp] theorem ends_ite {c : Prop} [Decidable c] (x y : Run α) :
    Ends (if c then x else y) l ok err ↔ (c → Ends x l ok err) ∧ (¬c → Ends y l ok err) := by
  by_cases hc : c <;> simp [hc]

@[simp] theorem ends_ofExcept (x : Except StreamError α) :
    Ends (ofExcept x) l ok err ↔
      (∀ a, x = .ok a → ok a l) ∧ (∀ e, x = .error e → err (.program e) l) := by
  cases x <;> simp [ofExcept]

@[simp] theorem ends_ofFault (x : Except Fault α) :
    Ends (ofFault x) l ok err ↔ (∀ a, x = .ok a → ok a l) ∧ (∀ f, x = .error f → err f l) := by
  cases x <;> simp [ofFault]

section Primitives

variable {ok : Unit → Ledger → Prop}

@[simp] theorem ends_account (i : Nat) {ok : Account → Ledger → Prop} :
    Ends (account i) l ok err ↔ ok (l.account i) l := Iff.rfl

@[simp] theorem ends_setData (i : Nat) (d : List UInt8) :
    Ends (setData i d) l ok err ↔
      ok () { l with accounts := l.accounts.modify i fun a => { a with data := d } } := Iff.rfl

@[simp] theorem ends_setLamports (i : Nat) (v : UInt64) :
    Ends (setLamports i v) l ok err ↔
      ok () { l with accounts := l.accounts.modify i fun a => { a with lamports := v } } := Iff.rfl

@[simp] theorem ends_invoke (c : Call) (seeds : List (List (List UInt8))) :
    Ends (invoke c seeds) l ok err ↔ ok () { l with invocations := l.invocations.push ⟨c, seeds⟩ } :=
  Iff.rfl

@[simp] theorem ends_invokeWhen {c : Prop} [Decidable c] (call : Call)
    (seeds : List (List (List UInt8))) :
    Ends (invokeWhen c call seeds) l ok err ↔
      ok () { l with invocations := if c then l.invocations.push ⟨call, seeds⟩ else l.invocations } := by
  by_cases hc : c <;> simp only [invokeWhen, hc, if_true, if_false] <;> rfl

@[simp] theorem ends_emit (bytes : List UInt8) :
    Ends (emit bytes) l ok err ↔ ok () { l with events := l.events.push bytes } := Iff.rfl

end Primitives

theorem Ends.mono {x : Run α} {ok' : α → Ledger → Prop} {err' : Fault → Ledger → Prop}
    (h : Ends x l ok err) (hok : ∀ a l', ok a l' → ok' a l') (herr : ∀ f l', err f l' → err' f l') :
    Ends x l ok' err' := by
  unfold Ends at *
  split at h <;> simp_all

end Run

theorem Ledger.account_of_accounts_eq {l l' : Ledger} (h : l'.accounts = l.accounts) (j : Nat) :
    l'.account j = l.account j := by
  simp only [Ledger.account, h]

@[simp] theorem Ledger.account_mk (l : Ledger) (invocations : Array Invocation)
    (events : Array (List UInt8)) (i : Nat) :
    ({ accounts := l.accounts, invocations, events } : Ledger).account i = l.account i := rfl

namespace Processor

open Run

def written (accounts : Array Account) (i : Nat) (s : Stream) : Array Account :=
  accounts.modify i fun a => { a with data := s.toBytes }

/-- The accounts after every lamport of the account at `i` is added to the account at `j`,
if the sum fits in a word. -/
def moveLamports? (accounts : Array Account) (i j : Nat) : Option (Array Account) :=
  (Word.add? (accounts.getD j default).lamports (accounts.getD i default).lamports).map fun v =>
    (accounts.modify j fun a => { a with lamports := v }).modify i fun a => { a with lamports := 0 }

variable {α : Type} {l : Ledger} {err : Fault → Ledger → Prop} {ok : Unit → Ledger → Prop}

@[simp] theorem ends_checkSigner (a : Account) :
    Ends (checkSigner a) l ok err ↔
      (a.isSigner = true → ok () l) ∧ (a.isSigner = false → err (.program .missingSignature) l) := by
  simp [checkSigner]

@[simp] theorem ends_checkTokenProgram (a : Account) :
    Ends (checkTokenProgram a) l ok err ↔
      (a.key = Derive.tokenProgram → ok () l) ∧
        (a.key ≠ Derive.tokenProgram → err (.runtime .incorrectProgramId) l) := by
  simp [checkTokenProgram]

@[simp] theorem ends_checkSystemProgram (a : Account) :
    Ends (checkSystemProgram a) l ok err ↔
      (a.key = Derive.systemProgram → ok () l) ∧
        (a.key ≠ Derive.systemProgram → err (.runtime .incorrectProgramId) l) := by
  simp [checkSystemProgram]

@[simp] theorem ends_checkFeeTreasury (a : Account) :
    Ends (checkFeeTreasury a) l ok err ↔
      (a.key = Address.feeTreasury → ok () l) ∧
        (a.key ≠ Address.feeTreasury → err (.program .invalidFeeTreasuryAccount) l) := by
  simp [checkFeeTreasury]

@[simp] theorem ends_checkFeeTreasuryToken (a mint : Account) :
    Ends (checkFeeTreasuryToken a mint) l ok err ↔
      (a.key = Address.feeTreasuryToken mint.key → ok () l) ∧
        (a.key ≠ Address.feeTreasuryToken mint.key → err (.program .invalidFeeTreasuryAccount) l) := by
  simp [checkFeeTreasuryToken]

@[simp] theorem ends_checkMint (mint : Account) (s : Stream) :
    Ends (checkMint mint s) l ok err ↔
      (mint.key = s.terms.mint → ok () l) ∧
        (mint.key ≠ s.terms.mint → err (.program .invalidAssociatedToken) l) := by
  simp [checkMint]

@[simp] theorem ends_loadStream (programId : Pubkey) (i : Nat) {ok : Stream → Ledger → Prop} :
    Ends (loadStream programId i) l ok err ↔
      (∀ s, storedStream programId (l.account i) = .ok s → ok s l) ∧
        (∀ e, storedStream programId (l.account i) = .error e → err (.program e) l) := by
  simp [loadStream]

@[simp] theorem ends_loadTreasury (programId : Pubkey) (i : Nat) (streamKey : Pubkey) (s : Stream)
    {ok : Treasury → Ledger → Prop} :
    Ends (loadTreasury programId i streamKey s) l ok err ↔
      (∀ t, storedTreasury programId (l.account i) streamKey s = .ok t → ok t l) ∧
        (∀ e, storedTreasury programId (l.account i) streamKey s = .error e →
          err (.program e) l) := by
  simp [loadTreasury]

@[simp] theorem ends_checkTreasuryAuthority (programId : Pubkey) (authority : Account)
    (treasuryKey : Pubkey) (t : Treasury) :
    Ends (checkTreasuryAuthority programId authority treasuryKey t) l ok err ↔
      (∀ a, Address.create (Address.authoritySeeds treasuryKey) t.authorityBump programId = .ok a →
        (a = authority.key → ok () l) ∧
          (a ≠ authority.key → err (.program .invalidTreasuryAuthority) l)) ∧
      (∀ e, Address.create (Address.authoritySeeds treasuryKey) t.authorityBump programId = .error e →
        err (.program e) l) := by
  simp [checkTreasuryAuthority]

@[simp] theorem ends_mintDecimals (mint : Account) {ok : UInt8 → Ledger → Prop} :
    Ends (mintDecimals mint) l ok err ↔
      (mint.owner = Derive.tokenProgram →
        (∀ d, Token.mintDecimals mint.data = .ok d → ok d l) ∧
          (∀ e, Token.mintDecimals mint.data = .error e → err (.runtime e) l)) ∧
      (mint.owner ≠ Derive.tokenProgram → err (.program .invalidAssociatedToken) l) := by
  simp only [mintDecimals]
  by_cases h : mint.owner = Derive.tokenProgram <;>
    cases Token.mintDecimals mint.data <;> simp [h]

@[simp] theorem ends_tokenBalance (a : Account) {ok : UInt64 → Ledger → Prop} :
    Ends (tokenBalance a) l ok err ↔
      (a.owner = Derive.tokenProgram →
        (∀ n, Token.accountAmount a.data = .ok n → ok n l) ∧
          (∀ e, Token.accountAmount a.data = .error e → err (.runtime e) l)) ∧
      (a.owner ≠ Derive.tokenProgram → err (.program .invalidTokenAccount) l) := by
  simp only [tokenBalance]
  by_cases h : a.owner = Derive.tokenProgram <;>
    cases Token.accountAmount a.data <;> simp [h]

@[simp] theorem ends_saveStream (i : Nat) (s : Stream) :
    Ends (saveStream i s) l ok err ↔
      ((l.account i).data.length = Stream.size → ok () { l with accounts := written l.accounts i s }) ∧
      ((l.account i).data.length ≠ Stream.size → err (.runtime .invalidAccountData) l) := by
  simp [saveStream, written]

@[simp] theorem ends_closeProgramAccount (i j : Nat) :
    Ends (closeProgramAccount i j) l ok err ↔
      (∀ accounts, moveLamports? l.accounts i j = some accounts → ok () { l with accounts }) ∧
      (moveLamports? l.accounts i j = none → err (.program .overflow) l) := by
  simp only [closeProgramAccount, moveLamports?, ends_bind, ends_account, Ledger.account]
  cases Word.add? (l.accounts.getD j default).lamports (l.accounts.getD i default).lamports <;> simp

/-- An address becomes an account of the program only while it holds no data. -/
theorem Creation.data_of_plan {a : Account} {rent : UInt64} {c : Creation}
    (h : Creation.plan a rent = .ok c) : a.data = [] := by
  unfold Creation.plan at h
  cases hd : a.data with
  | nil => rfl
  | cons x xs => simp [hd] at h

theorem Creation.plan_error {a : Account} {rent : UInt64} {e : StreamError}
    (h : Creation.plan a rent = .error e) : e = .streamAlreadyInitialized := by
  unfold Creation.plan at h
  split at h
  next => exact (Except.error.inj h).symm
  next =>
    split at h
    next => cases h
    next =>
      split at h
      next => exact (Except.error.inj h).symm
      next => cases h

/-- Making an account of the program only records calls to the system program, and it goes
ahead only for an account that holds no data; otherwise the address is already in use. -/
theorem ends_createProgramAccount (programId : Pubkey) (payer fresh : Account)
    (seeds : List (List UInt8)) (space : Nat) :
    Ends (createProgramAccount programId payer fresh seeds space) l
      (fun _ l' => l'.accounts = l.accounts ∧ fresh.data = [])
      (fun f l' => l'.accounts = l.accounts ∧ f = .program .streamAlreadyInitialized) := by
  unfold createProgramAccount
  simp only [ends_bind, ends_ofExcept]
  refine ⟨fun c hc => ?_, fun e he => by simp [Creation.plan_error he]⟩
  have hd := Creation.data_of_plan hc
  cases c <;> simp [hd]

end Processor

end MoneyStream
