import MoneyStream.Proofs.Builders
import MoneyStream.Proofs.Funding
/-! # Escrow accounting

With the calls to the token program taken as recorded, every token transfer an instruction on a
stream records has a role: a deposit into the stream's escrow, a payout out of it, split between
the beneficiary's token account and the fee treasury's at the percent fee the schedule sets for
the action, or a refund of what is left to the treasurer. Along every run of instructions on a
created stream the deposits, with the funding of the creation, sum to the record's deposits, and
the payouts to its withdrawals (`escrow_books_balance`).

One kind of payout is not counted. Closing records its payouts before it reads the escrow's
balance, and when that read is refused (the token program does not own the escrow, or it holds no
initialized token account) the record is left as it was, with the payouts recorded
(`close_refused_strands_payout`).

Each handler is booked on any ledger (`booked_process`): it is refused before it records a
transfer, or it is a closing stranded after its payouts, or it is accepted as a call on the
record whose recorded transfers are its movements. The run lemma `OnTrack.along` carries the
record, its well-formedness and the treasury through every request.
-/
namespace MoneyStream

namespace Token

structure Transfer where
  source : Pubkey
  destination : Pubkey
  amount : UInt64
  deriving DecidableEq, Repr

end Token

/-- The tokens a recorded call moves, taken as recorded: a checked transfer of the token program
moves its amount from the first account it names to the third. -/
def Invocation.transfer? (c : Invocation) : Option Token.Transfer :=
  match c.call.accounts, c.call.data with
  | [source, _, destination, _], 12 :: rest =>
    if c.call.programId = Derive.tokenProgram then
      some ⟨source.pubkey, destination.pubkey, Layout.wordOf rest⟩
    else none
  | _, _ => none

def transfers (calls : List Invocation) : List Token.Transfer :=
  calls.filterMap Invocation.transfer?

namespace Invocation

variable {source mint destination authority : Pubkey} {seeds : List (List (List UInt8))}

@[simp] theorem transfer?_transferChecked {amount : UInt64} {decimals : UInt8} :
    (⟨Token.transferChecked source mint destination authority amount decimals, seeds⟩ :
      Invocation).transfer? = some ⟨source, destination, amount⟩ := by
  simp [transfer?, Token.transferChecked, AccountMeta.writable, AccountMeta.readonly,
    Layout.wordOf_wordBytes_append]

@[simp] theorem transfer?_closeAccount :
    (⟨Token.closeAccount source destination authority, seeds⟩ : Invocation).transfer? = none := rfl

@[simp] theorem transfer?_systemTransfer {lamports : UInt64} :
    (⟨SystemCall.transfer source destination lamports, seeds⟩ : Invocation).transfer? = none := rfl

end Invocation

@[simp] theorem transfers_nil : transfers [] = [] := rfl

@[simp] theorem transfers_cons (c : Invocation) (calls : List Invocation) :
    transfers (c :: calls) = c.transfer?.toList ++ transfers calls := by
  cases h : c.transfer? <;> simp [transfers, h]

@[simp] theorem transfers_append (calls calls' : List Invocation) :
    transfers (calls ++ calls') = transfers calls ++ transfers calls' :=
  List.filterMap_append

@[simp] theorem transfers_ite_push {c : Prop} [Decidable c] (calls : Array Invocation)
    (x : Invocation) :
    transfers (if c then calls.push x else calls).toList =
      transfers calls.toList ++ if c then x.transfer?.toList else [] := by
  split <;> simp

structure TokenAccounts where
  escrow : Pubkey
  beneficiary : Pubkey
  fee : Pubkey
  treasurer : Pubkey

/-- What a token transfer of an instruction on a stream is for. -/
inductive Movement where
  | deposit (source : Pubkey) (amount : UInt64)
  | payout (action : Action) (amount : UInt64)
  | refund (amount : UInt64)
  deriving DecidableEq, Repr

namespace Movement

def fee (action : Action) (amount : UInt64) : Nat :=
  amount.toNat * action.programFees.2.toNat / percentDenominator

def transfers (k : TokenAccounts) : Movement → List Token.Transfer
  | deposit source amount => [⟨source, k.escrow, amount⟩]
  | payout action amount =>
    (if fee action amount < amount.toNat then
      [⟨k.escrow, k.beneficiary, (amount.toNat - fee action amount).toUInt64⟩] else []) ++
    (if 0 < fee action amount then [⟨k.escrow, k.fee, (fee action amount).toUInt64⟩] else [])
  | refund amount => if 0 < amount then [⟨k.escrow, k.treasurer, amount⟩] else []

@[simp] theorem transfers_deposit (k : TokenAccounts) (source : Pubkey) (amount : UInt64) :
    (deposit source amount).transfers k = [⟨source, k.escrow, amount⟩] := rfl

@[simp] theorem transfers_refund (k : TokenAccounts) (amount : UInt64) :
    (refund amount).transfers k = if 0 < amount then [⟨k.escrow, k.treasurer, amount⟩] else [] :=
  rfl

def deposited : Movement → Nat
  | deposit _ amount => amount.toNat
  | _ => 0

def paid : Movement → Nat
  | payout _ amount => amount.toNat
  | _ => 0

end Movement

theorem percentFee_le (amount : Nat) {percent : Nat} (h : percent ≤ percentDenominator) :
    amount * percent / percentDenominator ≤ amount :=
  Nat.div_le_of_le_mul (Nat.mul_comm percentDenominator amount ▸ Nat.mul_le_mul_left amount h)

theorem splitPercentFee_eq {amount percent : UInt64} (h : percent.toNat ≤ percentDenominator) :
    splitPercentFee amount percent =
      ⟨(amount.toNat - amount.toNat * percent.toNat / percentDenominator).toUInt64,
        (amount.toNat * percent.toNat / percentDenominator).toUInt64⟩ := by
  have hle := percentFee_le amount.toNat h
  have hlt := amount.toNat_lt
  simp only [splitPercentFee, Nat.min_eq_left hle, FeeSplit.mk.injEq, and_true]
  generalize amount.toNat * percent.toNat / percentDenominator = fee at hle ⊢
  -- the fee is at most the amount, so neither the fee nor the rest wraps around
  have hfee : fee.toUInt64.toNat = fee := by
    rw [Nat.toUInt64_eq, UInt64.toNat_ofNat']
    omega
  apply UInt64.toNat_inj.mp
  rw [UInt64.toNat_sub_of_le _ _ (UInt64.le_iff_toNat_le.mpr (by omega)), hfee, Nat.toUInt64_eq,
    UInt64.toNat_ofNat']
  omega

theorem splitPercentFee_net_pos {amount percent : UInt64} (h : percent.toNat < percentDenominator)
    (hz : 0 < amount.toNat) : 0 < (splitPercentFee amount percent).net := by
  have hlt : amount.toNat * percent.toNat / percentDenominator < amount.toNat :=
    Nat.div_lt_of_lt_mul (Nat.mul_comm percentDenominator amount.toNat ▸
      Nat.mul_lt_mul_of_pos_left h hz)
  have hw := amount.toNat_lt
  rw [splitPercentFee_eq h.le, UInt64.lt_iff_toNat_lt, Nat.toUInt64_eq, UInt64.toNat_ofNat']
  generalize amount.toNat * percent.toNat / percentDenominator = fee at hlt
  simp only [UInt64.toNat_zero]
  omega

namespace Movement

theorem transfers_payout (k : TokenAccounts) (action : Action) (amount : UInt64) :
    (payout action amount).transfers k =
      (if (splitPercentFee amount action.programFees.2).net > 0 then
        [⟨k.escrow, k.beneficiary, (splitPercentFee amount action.programFees.2).net⟩] else []) ++
      (if (splitPercentFee amount action.programFees.2).fee > 0 then
        [⟨k.escrow, k.fee, (splitPercentFee amount action.programFees.2).fee⟩] else []) := by
  have hpct : action.programFees.2.toNat ≤ percentDenominator := by
    cases action <;> decide
  have hlt := amount.toNat_lt
  have hle : fee action amount ≤ amount.toNat := percentFee_le amount.toNat hpct
  have hf : amount.toNat * action.programFees.2.toNat / percentDenominator = fee action amount := rfl
  rw [splitPercentFee_eq hpct, hf]
  simp only [transfers, gt_iff_lt, UInt64.lt_iff_toNat_lt, UInt64.toNat_zero, Nat.toUInt64_eq,
    UInt64.toNat_ofNat', Nat.reducePow]
  rw [Nat.mod_eq_of_lt (by omega : amount.toNat - fee action amount < 18446744073709551616),
    Nat.mod_eq_of_lt (by omega : fee action amount < 18446744073709551616)]
  simp only [Nat.sub_pos_iff_lt]

end Movement

namespace Stream

variable {s s' : Stream} {clock : Clock}

theorem addFunds_totals {who : Pubkey} {amount : UInt64} {resume : Bool}
    (h : s.addFunds who amount resume clock = .ok s') :
    s'.totalDeposits.toNat = s.totalDeposits.toNat + amount.toNat ∧
      s'.totalWithdrawals = s.totalWithdrawals := by
  obtain ⟨-,-,-,s1,deposits,hs1,hd,hr⟩ := addFunds_eq_ok h
  obtain ⟨-,-,hdep1,hwd1,-⟩ := settleDepletion_frame hs1
  obtain ⟨-,-,hdep2,hwd2,-⟩ := freezeCliffAt_frame (s := s1) clock.now
  obtain ⟨-,hsum⟩ := Word.add?_eq_some_iff.mp hd
  rw [hdep2, hdep1] at hsum
  have hkept : s'.totalDeposits = deposits ∧
      s'.totalWithdrawals = (s1.freezeCliffAt clock.now).totalWithdrawals := by
    split at hr
    · obtain ⟨-,-,hdep4,hwd4,-⟩ := applyResume_frame hr
      exact ⟨hdep4, hwd4⟩
    · subst hr
      exact ⟨rfl, rfl⟩
  rw [hkept.1, hsum, hkept.2, hwd2, hwd1]
  exact ⟨rfl, rfl⟩

end Stream

namespace Operation

variable {s s' : Stream} {clock : Clock} {c : Option Settlement}

def deposit : Operation → Nat
  | addFunds _ amount _ => amount.toNat
  | _ => 0

def payout : Operation → Option Settlement → Nat
  | withdraw _ amount, _ => amount.toNat
  | close _, some c => c.beneficiaryAmount.toNat
  | _, _ => 0

/-- An accepted call on a well-formed record adds its deposit to the deposits and its payout to
the withdrawals. -/
theorem apply_totals {op : Operation} (hw : s.WellFormed) (h : op.apply s clock = .ok (c, s')) :
    s'.totalDeposits.toNat = s.totalDeposits.toNat + op.deposit ∧
      s'.totalWithdrawals.toNat = s.totalWithdrawals.toNat + op.payout c := by
  cases op with
  | addFunds who amount resume =>
    obtain ⟨-, h⟩ := apply_addFunds_eq_ok.mp h
    obtain ⟨hd, hwd⟩ := Stream.addFunds_totals h
    exact ⟨hd, by rw [hwd]; rfl⟩
  | withdraw who amount =>
    obtain ⟨-, h⟩ := apply_withdraw_eq_ok.mp h
    obtain ⟨he, -, hsum, -⟩ := Stream.withdraw_totalWithdrawals h
    exact ⟨by rw [he]; rfl, hsum⟩
  | close who =>
    obtain ⟨st, hst, rfl⟩ := apply_close_eq_ok.mp h
    obtain ⟨-, -, hd, -⟩ := Stream.close_lifecycle hw hst
    exact ⟨by rw [hd]; rfl, (Stream.close_settlement hst).2.1⟩
  | pause _ | resume _ | proposeUpdate _ _ | answerUpdate _ _ =>
    obtain ⟨hd, hwd⟩ := apply_keeps_totals hw rfl h
    exact ⟨by rw [hd]; rfl, by rw [hwd]; rfl⟩

end Operation

namespace Processor

open Run

structure Kept (before after : Array Account) (j : Nat) (s : Stream) : Prop where
  data : Rewritten before after j s
  key : ∀ i, (after.getD i default).key = (before.getD i default).key
  owner : ∀ i, (after.getD i default).owner = (before.getD i default).owner

theorem kept_written {accounts : Array Account} {j : Nat} {s : Stream}
    (hj : (accounts.getD j default).data.length = Stream.size) :
    Kept accounts (written accounts j s) j s :=
  ⟨rewritten_written hj, fun k => by rw [written_getD], fun k => by rw [written_getD]⟩

theorem Kept.moveLamports {before after after' : Array Account} {j i i' : Nat} {s : Stream}
    (h : Kept before after j s) (hm : moveLamports? after i i' = some after') :
    Kept before after' j s := by
  refine ⟨h.data.moveLamports hm, fun k => ?_, fun k => ?_⟩
  · rw [moveLamports_getD hm k]
    exact h.key k
  · rw [moveLamports_getD hm k]
    exact h.owner k

def tokenAccounts (s : Stream) (t : Treasury) : TokenAccounts :=
  ⟨t.escrow, s.beneficiaryToken, Address.feeTreasuryToken s.terms.mint,
    Derive.associatedToken s.treasurer s.terms.mint⟩

def TreasuryHeld (accounts : Array Account) (treasury : Pubkey) (t : Treasury) : Prop :=
  ∀ i, (accounts.getD i default).key = treasury → (accounts.getD i default).data = t.toBytes

def ofTokenAccount (f : Fault) : Prop :=
  f = .program .invalidTokenAccount ∨ f = .runtime .invalidAccountData ∨
    f = .runtime .uninitializedAccount

instance : DecidablePred ofTokenAccount := fun _ => inferInstanceAs (Decidable (_ ∨ _ ∨ _))

theorem ofTokenAccount_of_accountAmount {data : List UInt8} {e : RuntimeError}
    (h : Token.accountAmount data = .error e) : ofTokenAccount (.runtime e) := by
  unfold Token.accountAmount at h
  split_ifs at h <;> cases h <;> simp [ofTokenAccount]

/-- How one instruction on the stream `s` kept at `j`, with token accounts `k`, ended on the
ledger `l`, by the token transfers it recorded. -/
inductive Booked (k : TokenAccounts) (j : Nat) (s : Stream) (clock : Clock) (l : Ledger) :
    Except Fault Unit → Ledger → Prop
  | untouched {f : Fault} {l' : Ledger} (haccounts : l'.accounts = l.accounts)
      (hcalls : transfers l'.invocations.toList = transfers l.invocations.toList) :
      Booked k j s clock l (.error f) l'
  /-- A closing refused when it read the escrow's balance, after it had paid `amount` out; the
  record is as it was. -/
  | stranded {f : Fault} {l' : Ledger} (amount : UInt64) (hf : ofTokenAccount f)
      (haccounts : l'.accounts = l.accounts)
      (hcalls : transfers l'.invocations.toList =
        transfers l.invocations.toList ++ (Movement.payout .closeStream amount).transfers k) :
      Booked k j s clock l (.error f) l'
  | called {out : Except Fault Unit} {l' : Ledger} {op : Operation} {c : Option Settlement}
      {s' : Stream} (ms : List Movement) (happly : op.apply s clock = .ok (c, s'))
      (hkept : Kept l.accounts l'.accounts j s')
      (hcalls : transfers l'.invocations.toList =
        transfers l.invocations.toList ++ ms.flatMap (Movement.transfers k))
      (hdeposit : (ms.map Movement.deposited).sum = op.deposit)
      (hpayout : (ms.map Movement.paid).sum = op.payout c)
      (hout : out = .ok () ∨ out = .error (.program .overflow)) :
      Booked k j s clock l out l'

section Books

variable {programId : Pubkey} {j : Nat} {s : Stream} {t : Treasury} {clock : Clock} {l : Ledger}
  {infos : List Nat} {k : TokenAccounts}

@[simp] theorem booked_self {f : Fault} : Booked k j s clock l (.error f) l :=
  .untouched rfl rfl

theorem treasury_of_held (ht : TreasuryHeld l.accounts s.treasury t) {tr : Nat} {key : Pubkey}
    {t' : Treasury} (h : storedTreasury programId (l.account tr) key s = .ok t') : t' = t := by
  obtain ⟨-, hk, hd, -⟩ := storedTreasury_eq_ok.mp h
  have hdata : (l.account tr).data = t.toBytes := ht tr hk
  rw [hdata, Treasury.decode_toBytes] at hd
  exact (Except.ok.inj hd).symm

theorem booked_addFunds (hj : infos[2]? = some j) (hs : storedStream programId (l.account j) = .ok s)
    (ht : TreasuryHeld l.accounts s.treasury t) (amount : UInt64) (resume : Bool) :
    Ends (addFunds programId infos amount resume clock) l
      (fun _ l' => Booked (tokenAccounts s t) j s clock l (.ok ()) l')
      (fun f l' => Booked (tokenAccounts s t) j s clock l (.error f) l') := by
  have hsize := size_of_storedStream hs
  simp only [addFunds]
  split
  next c ct j' tr es m tp ft sp rest =>
    obtain rfl : j' = j := by simpa using hj
    simp only [ends_bind, ends_pure, ends_account, ends_ite, ends_refuse, ends_checkSigner,
      ends_checkTokenProgram, ends_checkSystemProgram, ends_checkFeeTreasury, ends_loadStream,
      ends_loadTreasury, ends_checkMint, ends_ofExcept, ends_mintDecimals, ends_invoke,
      ends_saveStream, ends_emit, Ledger.account_mk, hs, hsize, Except.ok.injEq, forall_eq',
      booked_self, implies_true, and_true, reduceCtorEq, ne_eq, not_true_eq_false, false_implies,
      true_implies]
    intro _ _ _ _ t' ht' _ hes s' hs' _ d _
    obtain rfl : t = t' := (treasury_of_held ht ht').symm
    refine .called [.deposit (l.account ct).key amount] (Operation.apply_addFunds_eq_ok.mpr ⟨rfl, hs'⟩)
      (kept_written hsize) ?_ rfl rfl (.inl rfl)
    simp [tokenAccounts, hes]
  next => simp only [ends_bind, ends_refuse, booked_self]

theorem booked_withdraw (hj : infos[2]? = some j) (hs : storedStream programId (l.account j) = .ok s)
    (ht : TreasuryHeld l.accounts s.treasury t) (amount : UInt64) :
    Ends (withdraw programId infos amount clock) l
      (fun _ l' => Booked (tokenAccounts s t) j s clock l (.ok ()) l')
      (fun f l' => Booked (tokenAccounts s t) j s clock l (.error f) l') := by
  have hsize := size_of_storedStream hs
  simp only [withdraw]
  split
  next b bt j' tr au es m tp ft rest =>
    obtain rfl : j' = j := by simpa using hj
    simp only [ends_bind, ends_pure, ends_account, ends_ite, ends_refuse, ends_checkSigner,
      ends_checkTokenProgram, ends_checkFeeTreasuryToken, ends_loadStream, ends_loadTreasury,
      ends_checkTreasuryAuthority, ends_checkMint, ends_ofExcept, ends_mintDecimals, ends_invoke,
      ends_invokeWhen, ends_saveStream, ends_emit, Ledger.account_mk, hs, hsize, Except.ok.injEq,
      forall_eq', booked_self, implies_true, and_true, reduceCtorEq, ne_eq, not_true_eq_false,
      false_implies, true_implies]
    intro _ _ hft t' ht' _ _ _ hm hkeys s' hs' _ d _
    obtain ⟨hes, hbt⟩ := hkeys
    obtain rfl : t = t' := (treasury_of_held ht ht').symm
    -- a withdrawal is of a positive amount, so its net share is never skipped
    have hnet : (splitPercentFee amount 2500).net > 0 :=
      splitPercentFee_net_pos (by decide) (Stream.withdraw_totalWithdrawals hs').2.1
    refine .called [.payout .withdraw amount] (Operation.apply_withdraw_eq_ok.mpr ⟨rfl, hs'⟩)
      (kept_written hsize) ?_ rfl rfl (.inl rfl)
    simp [Movement.transfers_payout, Action.programFees, hnet, tokenAccounts, hes, hbt, hft, hm]
  next => simp only [ends_bind, ends_refuse, booked_self]

theorem booked_partyOperation (hj : infos[1]? = some j)
    (hs : storedStream programId (l.account j) = .ok s)
    (op : Stream → Pubkey → Except StreamError Stream) (event : Stream → Stream → Pubkey → Pubkey → Event)
    (o : Pubkey → Operation) (happly : ∀ who s', op s who = .ok s' → (o who).apply s clock = .ok (none, s'))
    (hdeposit : ∀ who, (o who).deposit = 0) (hpayout : ∀ who, (o who).payout none = 0) :
    Ends (partyOperation programId infos op event) l
      (fun _ l' => Booked k j s clock l (.ok ()) l')
      (fun f l' => Booked k j s clock l (.error f) l') := by
  have hsize := size_of_storedStream hs
  simp only [partyOperation, partyAccounts]
  split
  next i j' rest =>
    obtain rfl : j' = j := by simpa using hj
    simp only [ends_bind, ends_pure, ends_account, ends_checkSigner, ends_loadStream, ends_ofExcept,
      ends_saveStream, ends_emit, hs, hsize, Except.ok.injEq, forall_eq', booked_self, implies_true,
      and_true, ne_eq, not_true_eq_false, true_implies]
    intro _ s' hs'
    exact .called [] (happly _ _ hs') (kept_written hsize) (by simp) (hdeposit _).symm
      (hpayout _).symm (.inl rfl)
  next => simp only [ends_bind, ends_refuse, booked_self]

theorem booked_closeStream (hj : infos[1]? = some j) (hs : storedStream programId (l.account j) = .ok s)
    (ht : TreasuryHeld l.accounts s.treasury t) :
    Ends (closeStream programId infos clock) l
      (fun _ l' => Booked (tokenAccounts s t) j s clock l (.ok ()) l')
      (fun f l' => Booked (tokenAccounts s t) j s clock l (.error f) l') := by
  have hsize := size_of_storedStream hs
  simp only [closeStream]
  split
  next i j' tr au es bt tt tk m tp ft ftt sp rest =>
    obtain rfl : j' = j := by simpa using hj
    simp only [ends_bind, ends_pure, ends_account, ends_ite, ends_refuse, ends_checkSigner,
      ends_checkTokenProgram, ends_checkSystemProgram, ends_checkFeeTreasury,
      ends_checkFeeTreasuryToken, ends_loadStream, ends_loadTreasury, ends_checkTreasuryAuthority,
      ends_checkMint, ends_ofFault, ends_mintDecimals, ends_invoke, ends_invokeWhen,
      ends_tokenBalance, ends_saveStream, ends_closeProgramAccount, ends_emit, Ledger.account_mk,
      hs, hsize, Except.ok.injEq, forall_eq', booked_self, implies_true, and_true, reduceCtorEq,
      ne_eq, not_true_eq_false, false_implies, true_implies, Prod.forall]
    intro _ _ _ _ hftt t' ht' _ _ _ hm htk hkeys c s' hclose _ d _
    obtain ⟨hes, hbt, htt⟩ := hkeys
    obtain rfl : t = t' := (treasury_of_held ht ht').symm
    have happly : (Operation.close (l.account i).key).apply s clock = .ok (some c, s') :=
      Operation.apply_close_eq_ok.mpr ⟨c, hclose, rfl⟩
    -- the payouts are recorded before the escrow's balance is read; the closed record is written
    -- before the lamports move, and either move may overflow
    refine ⟨fun hown => ⟨fun n hn => ⟨fun moved hmoved => ⟨fun after hafter =>
        .called [.payout .closeStream c.beneficiaryAmount, .refund n] happly
          (((kept_written hsize).moveLamports hmoved).moveLamports hafter) ?_ rfl rfl (.inl rfl),
      fun hnone => .called [.payout .closeStream c.beneficiaryAmount, .refund n] happly
          ((kept_written hsize).moveLamports hmoved) ?_ rfl rfl (.inr rfl)⟩,
      fun hnone => .called [.payout .closeStream c.beneficiaryAmount, .refund n] happly
          (kept_written hsize) ?_ rfl rfl (.inr rfl)⟩,
      fun e he => .stranded c.beneficiaryAmount (ofTokenAccount_of_accountAmount he) rfl ?_⟩,
      fun hown => .stranded c.beneficiaryAmount (.inl rfl) rfl ?_⟩
    all_goals simp [Movement.transfers_payout, Action.programFees, tokenAccounts, hes, hbt, hftt, hm,
      htt, htk]
  next => simp only [ends_bind, ends_refuse, booked_self]

theorem ends_createProgramAccount_used {ok : Unit → Ledger → Prop}
    {err : Fault → Ledger → Prop} {payer fresh : Account} {seeds : List (List UInt8)} {space : Nat}
    (h : fresh.data ≠ []) :
    Ends (createProgramAccount programId payer fresh seeds space) l ok err ↔
      err (.program .streamAlreadyInitialized) l := by
  have hplan : ∀ rent, Creation.plan fresh rent = .error .streamAlreadyInitialized := by
    intro rent
    cases hd : fresh.data with
    | nil => exact absurd hd h
    | cons b bs => simp [Creation.plan, hd]
  simp [createProgramAccount, hplan]

theorem booked_createStream (hj : infos[4]? = some j)
    (hs : storedStream programId (l.account j) = .ok s) (p : CreateParams) :
    Ends (createStream programId infos p clock) l (fun _ _ => False)
      (fun f l' => Booked k j s clock l (.error f) l') := by
  have hused : (l.account j).data ≠ [] := by
    rw [← List.length_pos_iff, size_of_storedStream hs]
    decide
  simp only [createStream]
  split
  next tr tt b m j' r au es tp sp ft rest =>
    obtain rfl : j' = j := by simpa using hj
    simp only [ends_bind, ends_pure, ends_account, ends_ite, ends_refuse, ends_checkSigner,
      ends_checkTokenProgram, ends_checkSystemProgram, ends_checkFeeTreasury, ends_ofExcept,
      ends_createProgramAccount_used hused, booked_self, implies_true, and_self]
  next => simp only [ends_bind, ends_refuse, booked_self]

/-- Every instruction on the stream `s` kept at `j` is booked: it is refused before it writes or
records a transfer, or it is a closing stranded after its payouts, or it makes its call on the
record and records exactly the transfers of what the call deposits and pays out. -/
theorem booked_process {payload : List UInt8}
    (hslot : ∀ ins, Instruction.unpack payload = .ok ins → infos[ins.streamSlot]? = some j)
    (hs : storedStream programId (l.account j) = .ok s) (ht : TreasuryHeld l.accounts s.treasury t) :
    Ends (process programId infos payload clock) l
      (fun _ l' => Booked (tokenAccounts s t) j s clock l (.ok ()) l')
      (fun f l' => Booked (tokenAccounts s t) j s clock l (.error f) l') := by
  unfold process
  simp only [ends_bind, ends_ofExcept]
  refine ⟨fun ins hins => ?_, fun _ _ => booked_self⟩
  have hj := hslot ins hins
  cases ins with
  | createStream p => exact (booked_createStream hj hs p).mono (fun _ _ h => h.elim) (fun _ _ h => h)
  | addFunds amount resume => exact booked_addFunds hj hs ht amount resume
  | withdraw amount => exact booked_withdraw hj hs ht amount
  | pauseStream =>
    exact booked_partyOperation hj hs _ _ Operation.pause
      (fun _ _ h => Operation.apply_pause_eq_ok.mpr ⟨rfl, h⟩) (fun _ => rfl) (fun _ => rfl)
  | resumeStream =>
    exact booked_partyOperation hj hs _ _ Operation.resume
      (fun _ _ h => Operation.apply_resume_eq_ok.mpr ⟨rfl, h⟩) (fun _ => rfl) (fun _ => rfl)
  | proposeUpdate terms =>
    exact booked_partyOperation hj hs _ _ (fun who => .proposeUpdate who terms)
      (fun _ _ h => Operation.apply_proposeUpdate_eq_ok.mpr ⟨rfl, h⟩) (fun _ => rfl) (fun _ => rfl)
  | answerUpdate approve =>
    exact booked_partyOperation hj hs _ _ (fun who => .answerUpdate who approve)
      (fun _ _ h => Operation.apply_answerUpdate_eq_ok.mpr ⟨rfl, h⟩) (fun _ => rfl) (fun _ => rfl)
  | closeStream => exact booked_closeStream hj hs ht

end Books

structure Request where
  infos : List Nat
  payload : List UInt8
  clock : Clock

def Request.OnStream (r : Request) (j : Nat) : Prop :=
  ∀ ins, Instruction.unpack r.payload = .ok ins → r.infos[ins.streamSlot]? = some j

/-- Processes requests one after another, each on the accounts the one before left, refused ones
included: the outcome of each with the calls it recorded, and the accounts after the last. -/
def run (programId : Pubkey) (accounts : Array Account) :
    List Request → List (Except Fault Unit × List Invocation) × Array Account
  | [] => ([], accounts)
  | r :: rs =>
    let (out, l) := step accounts programId r.infos r.payload r.clock
    let rest := run programId l.accounts rs
    ((out, l.invocations.toList) :: rest.1, rest.2)

/-- What the payouts `ms` of an instruction that ended in `out` added to the withdrawals: all of
them, unless it was refused when reading a token account's balance. -/
def settledPayouts (out : Except Fault Unit) (ms : List Movement) : Nat :=
  match out with
  | .ok _ => (ms.map Movement.paid).sum
  | .error f => if ofTokenAccount f then 0 else (ms.map Movement.paid).sum

/-- What holds of the accounts along a run on the stream created as `s0`: the account at `j`
holds a well-formed record `s` with the parties, accounts and mint of `s0`, within its deposits,
and the accounts at the treasury's address hold `t`. -/
structure OnTrack (programId : Pubkey) (s0 : Stream) (t : Treasury) (j : Nat)
    (accounts : Array Account) (s : Stream) : Prop where
  stored : storedStream programId (accounts.getD j default) = .ok s
  wellFormed : s.WellFormed
  keeps : s0.Keeps s
  within : s.totalWithdrawals.toNat ≤ s.totalDeposits.toNat
  treasury : TreasuryHeld accounts s0.treasury t

section Track

variable {programId : Pubkey} {s0 s s' : Stream} {t : Treasury} {j : Nat}
  {before after : Array Account}

theorem tokenAccounts_of_keeps (h : s0.Keeps s) : tokenAccounts s t = tokenAccounts s0 t := by
  simp [tokenAccounts, h.beneficiaryToken, h.mint, h.treasurer]

theorem TreasuryHeld.key_ne {treasury : Pubkey} (ht : TreasuryHeld before treasury t)
    (hs : storedStream programId (before.getD j default) = .ok s) :
    (before.getD j default).key ≠ treasury := by
  intro hk
  have hlen := size_of_storedStream hs
  rw [show (before.getD j default).data = t.toBytes from ht j hk, Treasury.length_toBytes] at hlen
  exact absurd hlen (by decide)

theorem TreasuryHeld.kept {treasury : Pubkey} (ht : TreasuryHeld before treasury t)
    (hj : (before.getD j default).key ≠ treasury) (hk : Kept before after j s') :
    TreasuryHeld after treasury t := by
  intro i hi
  rw [hk.key] at hi
  rw [hk.data i]
  by_cases hij : i = j
  · subst hij
    exact absurd hi hj
  · rw [if_neg hij]
    exact ht i hi

theorem storedStream_of_kept (hs : storedStream programId (before.getD j default) = .ok s)
    (hk : Kept before after j s') (hkeeps : s.Keeps s') (hi : s'.initialized = true) :
    storedStream programId (after.getD j default) = .ok s' := by
  obtain ⟨ho, -, -, haddr⟩ := storedStream_eq_ok.mp hs
  refine storedStream_eq_ok.mpr ⟨(hk.owner j).trans ho, ?_, hi, ?_⟩
  · rw [hk.data j, if_pos rfl]
    exact Stream.decode_toBytes s'
  · rw [hk.key j, hkeeps.treasurer, hkeeps.nonce, hkeeps.bump]
    exact haddr

theorem OnTrack.next {accounts : Array Account} (h : OnTrack programId s0 t j accounts s)
    {r : Request} (hr : r.OnStream j) :
    ∃ ms s', OnTrack programId s0 t j (step accounts programId r.infos r.payload r.clock).2.accounts s' ∧
      transfers (step accounts programId r.infos r.payload r.clock).2.invocations.toList =
        ms.flatMap (Movement.transfers (tokenAccounts s0 t)) ∧
      s'.totalDeposits.toNat = s.totalDeposits.toNat + (ms.map Movement.deposited).sum ∧
      s'.totalWithdrawals.toNat = s.totalWithdrawals.toNat +
        settledPayouts (step accounts programId r.infos r.payload r.clock).1 ms := by
  have hheld : TreasuryHeld accounts s.treasury t := h.keeps.treasury ▸ h.treasury
  have hb : Ends (process programId r.infos r.payload r.clock) { accounts }
      (fun _ l' => Booked (tokenAccounts s t) j s r.clock { accounts } (.ok ()) l')
      (fun f l' => Booked (tokenAccounts s t) j s r.clock { accounts } (.error f) l') :=
    booked_process hr h.stored hheld
  unfold Ends at hb
  unfold step
  generalize ((process programId r.infos r.payload r.clock).run { accounts }).run = res at hb ⊢
  obtain ⟨out, l'⟩ := res
  rw [tokenAccounts_of_keeps h.keeps] at hb
  have hbooked : Booked (tokenAccounts s0 t) j s r.clock { accounts } out l' := by
    cases out <;> exact hb
  dsimp only
  cases hbooked with
  | untouched haccounts hcalls =>
    refine ⟨[], s, ?_, hcalls, rfl, by simp [settledPayouts]⟩
    rw [haccounts]
    exact h
  | stranded amount hf haccounts hcalls =>
    refine ⟨[.payout .closeStream amount], s, ?_, by simpa using hcalls, rfl, ?_⟩
    · rw [haccounts]
      exact h
    · simp [settledPayouts, hf]
  | called ms happly hkept hcalls hdeposit hpayout hout =>
    obtain ⟨hw', hkeeps, -⟩ := Operation.apply_lifecycle h.wellFormed happly
    obtain ⟨hD, hW⟩ := Operation.apply_totals h.wellFormed happly
    have htrack : OnTrack programId s0 t j l'.accounts _ :=
      ⟨storedStream_of_kept h.stored hkept hkeeps hw'.initialized, hw', h.keeps.trans hkeeps,
        Operation.apply_within_deposits h.wellFormed h.within happly,
        h.treasury.kept (h.treasury.key_ne h.stored) hkept⟩
    refine ⟨ms, _, htrack, by simpa using hcalls, by rw [hD, hdeposit], ?_⟩
    rcases hout with rfl | rfl <;> simp [settledPayouts, ofTokenAccount, hW, hpayout]

theorem run_cons (programId : Pubkey) (accounts : Array Account) (r : Request) (rs : List Request) :
    run programId accounts (r :: rs) =
      (((step accounts programId r.infos r.payload r.clock).1,
          (step accounts programId r.infos r.payload r.clock).2.invocations.toList) ::
        (run programId (step accounts programId r.infos r.payload r.clock).2.accounts rs).1,
        (run programId (step accounts programId r.infos r.payload r.clock).2.accounts rs).2) := rfl

/-- A run of requests on the stream keeps it on track, and the record's totals grow by what the
recorded movements deposited and by the payouts the requests settled. -/
theorem OnTrack.along {accounts : Array Account} (h : OnTrack programId s0 t j accounts s)
    (requests : List Request) (hon : ∀ r ∈ requests, r.OnStream j) :
    ∃ s' moves, OnTrack programId s0 t j (run programId accounts requests).2 s' ∧
      List.Forall₂ (fun x ms => transfers x.2 = ms.flatMap (Movement.transfers (tokenAccounts s0 t)))
        (run programId accounts requests).1 moves ∧
      s'.totalDeposits.toNat =
        s.totalDeposits.toNat + (moves.map fun ms => (ms.map Movement.deposited).sum).sum ∧
      s'.totalWithdrawals.toNat = s.totalWithdrawals.toNat +
        (List.zipWith (fun x ms => settledPayouts x.1 ms) (run programId accounts requests).1 moves).sum := by
  induction requests generalizing accounts s with
  | nil => exact ⟨s, [], h, .nil, by simp, by simp [run]⟩
  | cons r rs ih =>
    obtain ⟨ms, s1, h1, hcalls, hD1, hW1⟩ := h.next (hon r List.mem_cons_self)
    obtain ⟨s', moves, h', hrest, hD, hW⟩ := ih h1 fun r' hr' => hon r' (List.mem_cons_of_mem r hr')
    refine ⟨s', ms :: moves, h', ?_, ?_, ?_⟩
    · rw [run_cons]
      exact .cons hcalls hrest
    · rw [hD, hD1, List.map_cons, List.sum_cons]
      omega
    · rw [run_cons, List.zipWith_cons_cons, List.sum_cons, hW]
      dsimp only
      rw [hW1]
      omega

end Track

/-- Along every run of instructions on a created stream, with the calls to the token program
taken as recorded: the transfers each instruction recorded are, by their roles, deposits into
the stream's escrow, payouts out of it split between the beneficiary and the fee treasury, and
refunds of what is left to the treasurer; the deposits sum, with the funding of the creation,
to the record's deposits, and the payouts to its withdrawals, except those of a closing refused
when it read the escrow's balance; the withdrawals stay within the deposits. -/
theorem escrow_books_balance {programId treasurer beneficiaryToken treasury : Pubkey}
    {p : CreateParams} {c0 : Clock} {s0 : Stream} {t : Treasury} {accounts : Array Account} {j : Nat}
    (hcreate : Stream.create treasurer p beneficiaryToken treasury c0 = .ok s0)
    (hstored : storedStream programId (accounts.getD j default) = .ok s0)
    (htreasury : TreasuryHeld accounts treasury t) (requests : List Request)
    (hon : ∀ r ∈ requests, r.OnStream j) :
    ∃ s moves, storedStream programId ((run programId accounts requests).2.getD j default) = .ok s ∧
      List.Forall₂ (fun x ms => transfers x.2 = ms.flatMap (Movement.transfers (tokenAccounts s0 t)))
        (run programId accounts requests).1 moves ∧
      s.totalDeposits.toNat = p.funding.toNat + (moves.map fun ms => (ms.map Movement.deposited).sum).sum ∧
      s.totalWithdrawals.toNat =
        (List.zipWith (fun x ms => settledPayouts x.1 ms) (run programId accounts requests).1 moves).sum ∧
      s.totalWithdrawals.toNat ≤ s.totalDeposits.toNat := by
  obtain ⟨-, -, -, hD0, hW0, -⟩ := Stream.create_fresh hcreate
  have hkey : s0.treasury = treasury := (Stream.create_identity hcreate).2.2.2.2.1
  have h0 : OnTrack programId s0 t j accounts s0 :=
    ⟨hstored, Stream.create_wellFormed hcreate, Stream.Keeps.refl s0,
      Stream.create_within_deposits hcreate, hkey ▸ htreasury⟩
  obtain ⟨s, moves, htrack, hcalls, hD, hW⟩ := h0.along requests hon
  refine ⟨s, moves, htrack.stored, hcalls, ?_, ?_, htrack.within⟩
  · rw [hD, hD0]
  · rw [hW, hW0]
    simp

def sampleStreamKey : Pubkey :=
  Pubkey.ofListPad [220, 32, 10, 35, 207, 105, 212, 182, 27, 230, 181, 50, 215, 231, 64, 51, 101,
    30, 48, 172, 37, 41, 22, 199, 95, 250, 224, 231, 217, 145, 174, 169]

def sampleTreasuryKey : Pubkey := ⟨Vector.replicate 32 5⟩

def sampleBeneficiaryToken : Pubkey := ⟨Vector.replicate 32 8⟩

def sampleClock : Clock := ⟨500000, 1000000⟩

def sampleFunded : CreateParams := { Build.sampleParams with streamBump := 255 }

def sampleStream : Stream where
  initialized := true
  state := .active
  bump := 255
  nonce := 1
  treasurer := Build.sampleTreasurer
  beneficiary := sampleFunded.beneficiary
  beneficiaryToken := sampleBeneficiaryToken
  treasury := sampleTreasuryKey
  terms := sampleFunded.terms
  start := 1000000
  totalDeposits := 1000
  totalWithdrawals := 0
  snapshotUnits := 0
  snapshotSlot := 0
  snapshotTime := 0
  resumeSlot := 0
  resumeTime := 0
  pausedSeconds := 0
  pending := none

def sampleTreasury : Treasury :=
  ⟨true, 255, 255, sampleStreamKey, sampleFunded.mint, ⟨Vector.replicate 32 6⟩, 1000000⟩

def sampleAccounts : Array Account :=
  #[⟨sampleStreamKey, Address.programId, 4370880, sampleStream.toBytes, false⟩,
    ⟨sampleTreasuryKey, Address.programId, 1635600, sampleTreasury.toBytes, false⟩,
    ⟨Build.sampleTreasurer, Derive.systemProgram, 1000000000, [], true⟩]

def sampleRequests : List Request :=
  [⟨[2, 0], Instruction.pack .pauseStream, ⟨500100, 1000200⟩⟩,
    ⟨[2, 0, 1, 3, 4, 5, 6, 2, 7, 8, 9, 10, 11], Instruction.pack .closeStream, ⟨500200, 1000400⟩⟩]

theorem escrow_books_balance_at_sample :
    Stream.create Build.sampleTreasurer sampleFunded sampleBeneficiaryToken sampleTreasuryKey
        sampleClock = .ok sampleStream ∧
      storedStream Address.programId (sampleAccounts.getD 0 default) = .ok sampleStream ∧
      TreasuryHeld sampleAccounts sampleTreasuryKey sampleTreasury ∧
      (∀ r ∈ sampleRequests, r.OnStream 0) ∧
      ∃ s moves,
        storedStream Address.programId
          ((run Address.programId sampleAccounts sampleRequests).2.getD 0 default) = .ok s ∧
        List.Forall₂
          (fun x ms => transfers x.2 = ms.flatMap (Movement.transfers (tokenAccounts sampleStream sampleTreasury)))
          (run Address.programId sampleAccounts sampleRequests).1 moves ∧
        s.totalDeposits.toNat =
          sampleFunded.funding.toNat + (moves.map fun ms => (ms.map Movement.deposited).sum).sum ∧
        s.totalWithdrawals.toNat = (List.zipWith (fun x ms => settledPayouts x.1 ms)
          (run Address.programId sampleAccounts sampleRequests).1 moves).sum ∧
        s.totalWithdrawals.toNat ≤ s.totalDeposits.toNat := by
  have hcreate : Stream.create Build.sampleTreasurer sampleFunded sampleBeneficiaryToken
      sampleTreasuryKey sampleClock = .ok sampleStream := by
    decide
  have hstored : storedStream Address.programId (sampleAccounts.getD 0 default) = .ok sampleStream :=
    storedStream_eq_ok.mpr ⟨rfl, Stream.decode_toBytes _, rfl, by decide +kernel⟩
  have hheld : TreasuryHeld sampleAccounts sampleTreasuryKey sampleTreasury := by
    intro i hi
    match i, hi with
    | 0, hi => exact absurd hi (by decide)
    | 1, _ => rfl
    | 2, hi => exact absurd hi (by decide)
    | i + 3, hi =>
      rw [Array.getD_eq_getD_getElem?, Array.getElem?_eq_none (by simp [sampleAccounts])] at hi
      exact absurd hi (by decide)
  have hon : ∀ r ∈ sampleRequests, r.OnStream 0 := by
    intro r hr ins hins
    simp only [sampleRequests, List.mem_cons, List.not_mem_nil, or_false] at hr
    rcases hr with rfl | rfl
    all_goals
      rw [Instruction.unpack_pack] at hins
      cases hins
      rfl
  exact ⟨hcreate, hstored, hheld, hon,
    escrow_books_balance hcreate hstored hheld sampleRequests hon⟩

def fundedClosing : Stream :=
  { closingStream with
    terms := { closingStream.terms with rateAmount := 100, rateInterval := 3600 }
    totalDeposits := 1000 }

def strandingAccounts : Array Account :=
  (closingAccounts.modify 1 fun a => { a with data := fundedClosing.toBytes }).modify 4
    fun a => { a with owner := Derive.systemProgram }

/-- Closing a stream whose escrow the token program does not own records its payout, 998 units
to the beneficiary and a fee of 2, and only then is refused, when it reads the escrow's balance:
every account is as it was, and the record still counts no withdrawal. -/
theorem close_refused_strands_payout :
    (step strandingAccounts Address.programId (List.range 13) [7] ⟨500000, 1000000⟩).1 =
        .error (.program .invalidTokenAccount) ∧
      (step strandingAccounts Address.programId (List.range 13) [7] ⟨500000, 1000000⟩).2.accounts =
        strandingAccounts ∧
      transfers (step strandingAccounts Address.programId (List.range 13) [7]
          ⟨500000, 1000000⟩).2.invocations.toList =
        [⟨⟨Vector.replicate 32 5⟩, ⟨Vector.replicate 32 10⟩, 998⟩,
          ⟨⟨Vector.replicate 32 5⟩, closingFeeToken, 2⟩] ∧
      (strandingAccounts.getD 1 default).data = fundedClosing.toBytes ∧
      fundedClosing.totalWithdrawals = 0 := by
  decide +kernel

end Processor

end MoneyStream
