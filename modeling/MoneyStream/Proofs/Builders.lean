import MoneyStream.Proofs.Authorization
import MoneyStream.Proofs.Payloads
import MoneyStream.Instruction.Builder
/-! # Calls built by a client pass the program's account checks

A client builds each instruction's call with the accounts in the order the program reads them.
Creating a stream searches a bump for the stream's, the treasury's and the treasury authority's
addresses and sends the bumps in its parameters; the program searches again and compares, and
later instructions re-derive the addresses from the bumps stored in the records. The main
theorem, `built_calls_pass_account_checks`, says that a built call, processed on whatever
accounts carry it, gets past every signer, program, fee, address, bump and token-account check:
it can only stop where its stream operation refuses it, where a mint or an escrow is not a
readable account of the token program, where an address is already in use, where the lamports of
the closed accounts overflow, or, for a creation, where the record is written into an account
that the recorded system calls never gave room.

The argument has three layers. For each handler, a `_passes_checks` lemma says how it ends once
the keys it compares are right. For each builder, a `_passes` lemma shows that the keys of its
call are right on any accounts that carry the call and hold the stream's records. `Placed` says
what the program needs of those records, and `placed_of_create` that the records a creation
writes have it. What joins the two derivations is `create_of_find`: an address the search finds
is the address its bump creates.
-/
namespace MoneyStream

namespace Address

/-- A found address is the address its bump creates: the search returns the first bump whose
creation succeeds, with what it created. -/
theorem create_of_find {seeds : List (List UInt8)} {programId : Pubkey} {d : Derived}
    (h : find seeds programId = .ok d) : create seeds d.bump programId = .ok d.address := by
  unfold find at h
  split at h
  next a b hfind =>
    cases h
    unfold Derive.findAddress? at hfind
    split at hfind
    · obtain ⟨b', -, hb'⟩ := List.exists_of_findSome?_eq_some hfind
      obtain ⟨a', ha', heq⟩ := Option.map_eq_some_iff.mp hb'
      cases heq
      simp [create, ha']
    · cases hfind
  next => cases h

theorem StreamAddresses.derive_eq_ok {treasurer : Pubkey} {nonce : UInt64} {mint programId : Pubkey}
    {a : StreamAddresses} :
    StreamAddresses.derive treasurer nonce mint programId = .ok a ↔
      find (streamSeeds treasurer nonce) programId = .ok a.stream ∧
      find (treasurySeeds a.stream.address) programId = .ok a.treasury ∧
      find (authoritySeeds a.treasury.address) programId = .ok a.authority ∧
      a.escrow = escrowToken a.authority.address mint := by
  unfold StreamAddresses.derive
  simp only [bind_eq_ok, pure_eq_ok]
  constructor
  · rintro ⟨st, hst, tr, htr, au, hau, rfl⟩
    exact ⟨hst, htr, hau, rfl⟩
  · rintro ⟨hst, htr, hau, hes⟩
    exact ⟨_, hst, _, htr, _, hau, by rw [← hes]⟩

end Address

namespace Operation

theorem plain_eq_error {r : Except StreamError Stream} {f : Fault} :
    ((r.mapError Fault.program).map fun s2 => ((none : Option Settlement), s2)) = .error f ↔
      ∃ e, r = .error e ∧ f = .program e := by
  cases r <;> simp [Except.mapError, Except.map, eq_comm]

theorem apply_close_eq_error {who : Pubkey} {s : Stream} {clock : Clock} {f : Fault} :
    (close who).apply s clock = .error f ↔ s.close who clock = .error f := by
  cases h : s.close who clock <;> simp [apply, h, Except.map]

end Operation

namespace Processor

open Run

def MintFault (mint : Account) (f : Fault) : Prop :=
  mint.owner ≠ Derive.tokenProgram ∧ f = .program .invalidAssociatedToken ∨
    ∃ e, Token.mintDecimals mint.data = .error e ∧ f = .runtime e

theorem size_of_storedStream {programId : Pubkey} {a : Account} {s : Stream}
    (h : storedStream programId a = .ok s) : a.data.length = Stream.size :=
  (Stream.decode_isOk_iff a.data).mp ⟨s, (storedStream_eq_ok.mp h).2.1⟩ |>.1

def BalanceFault (a : Account) (f : Fault) : Prop :=
  a.owner ≠ Derive.tokenProgram ∧ f = .program .invalidTokenAccount ∨
    ∃ e, Token.accountAmount a.data = .error e ∧ f = .runtime e

theorem createStream_passes_checks (programId : Pubkey) (p : CreateParams) (clock : Clock)
    (l : Ledger) {t tt b m j tr au es tp sp ft : Nat} {rest : List Nat}
    (hsigned : (l.account t).isSigner = true) (htp : (l.account tp).key = Derive.tokenProgram)
    (hsp : (l.account sp).key = Derive.systemProgram) (hft : (l.account ft).key = Address.feeTreasury)
    (hm : (l.account m).key = p.mint) (hb : (l.account b).key = p.beneficiary)
    (hstream : Address.find (Address.streamSeeds (l.account t).key p.nonce) programId =
      .ok ⟨(l.account j).key, p.streamBump⟩)
    (htreasury : Address.find (Address.treasurySeeds (l.account j).key) programId =
      .ok ⟨(l.account tr).key, p.treasuryBump⟩)
    (hauthority : Address.find (Address.authoritySeeds (l.account tr).key) programId =
      .ok ⟨(l.account au).key, p.authorityBump⟩)
    (hes : Address.escrowToken (l.account au).key (l.account m).key = (l.account es).key) :
    Ends (createStream programId (t :: tt :: b :: m :: j :: tr :: au :: es :: tp :: sp :: ft :: rest)
        p clock) l (fun _ _ => True)
      (fun f _ => (∃ e, Stream.create (l.account t).key p
          (Derive.associatedToken (l.account b).key (l.account m).key) (l.account tr).key clock =
            .error e ∧ f = .program e) ∨
        f = .program .streamAlreadyInitialized ∨ MintFault (l.account m) f ∨
        f = .runtime .invalidAccountData) := by
  rw [hm] at hes
  simp only [createStream, ends_bind, ends_pure, ends_account, ends_ite, ends_refuse,
    ends_checkSigner, ends_checkTokenProgram, ends_checkSystemProgram, ends_checkFeeTreasury,
    ends_ofExcept, hsigned, htp, hsp, hft, hm, hb, hstream, htreasury, hauthority, hes,
    true_implies, Except.ok.injEq, forall_eq', ne_eq, not_true_eq_false, false_implies, and_true,
    implies_true, reduceCtorEq, not_and]
  refine ⟨fun s _ => ?_, fun e he => .inl ⟨e, he, rfl⟩⟩
  refine (ends_createProgramAccount ..).mono ?_ (fun _ _ h => .inr (.inl h.2))
  rintro _ l1 ⟨hl1, hempty⟩
  refine (ends_createProgramAccount ..).mono ?_ (fun _ _ h => .inr (.inl h.2))
  rintro _ l2 ⟨hl2, -⟩
  -- the stream account was never given room for its record
  have hlen : (l.account j).data.length ≠ Stream.size := by
    rw [hempty]
    decide
  simp only [ends_mintDecimals, ends_invoke, ends_saveStream, Ledger.account_mk, hlen,
    Ledger.account_of_accounts_eq (hl2.trans hl1), false_implies, true_implies, true_and, ne_eq,
    not_false_eq_true]
  simp +contextual [MintFault]

theorem addFunds_passes_checks (programId : Pubkey) (amount : UInt64) (resume : Bool) (clock : Clock)
    (l : Ledger) {c ct j tr es m tp ft sp : Nat} {rest : List Nat} {s : Stream} {t : Treasury}
    (hsigned : (l.account c).isSigner = true) (htp : (l.account tp).key = Derive.tokenProgram)
    (hsp : (l.account sp).key = Derive.systemProgram) (hft : (l.account ft).key = Address.feeTreasury)
    (hs : storedStream programId (l.account j) = .ok s)
    (ht : storedTreasury programId (l.account tr) (l.account j).key s = .ok t)
    (hm : (l.account m).key = s.terms.mint) (hes : (l.account es).key = t.escrow) :
    Ends (addFunds programId (c :: ct :: j :: tr :: es :: m :: tp :: ft :: sp :: rest) amount resume clock) l
      (fun _ _ => True)
      (fun f _ => (∃ e, s.addFunds (l.account c).key amount resume clock = .error e ∧ f = .program e) ∨
        MintFault (l.account m) f) := by
  have hsize := size_of_storedStream hs
  simp only [addFunds, ends_bind, ends_pure, ends_account, ends_ite, ends_refuse, ends_checkSigner,
    ends_checkTokenProgram, ends_checkSystemProgram, ends_checkFeeTreasury, ends_loadStream,
    ends_loadTreasury, ends_checkMint, ends_ofExcept, ends_mintDecimals, ends_invoke,
    ends_saveStream, ends_emit, Ledger.account_mk, hsigned, htp, hsp, hft, hs, ht, hm, hes, hsize,
    true_implies, Except.ok.injEq, forall_eq', ne_eq, not_true_eq_false, false_implies, and_true,
    implies_true, reduceCtorEq, true_and]
  refine ⟨fun _ _ => ⟨fun _ e he => .inr (.inr ⟨e, he, rfl⟩), fun hown => .inr (.inl ⟨hown, rfl⟩)⟩,
    fun e he => .inl ⟨e, he, rfl⟩⟩

theorem withdraw_passes_checks (programId : Pubkey) (amount : UInt64) (clock : Clock)
    (l : Ledger) {b bt j tr au es m tp ft : Nat} {rest : List Nat} {s : Stream} {t : Treasury}
    (hsigned : (l.account b).isSigner = true) (htp : (l.account tp).key = Derive.tokenProgram)
    (hft : (l.account ft).key = Address.feeTreasuryToken (l.account m).key)
    (hs : storedStream programId (l.account j) = .ok s)
    (ht : storedTreasury programId (l.account tr) (l.account j).key s = .ok t)
    (hau : Address.create (Address.authoritySeeds (l.account tr).key) t.authorityBump programId =
      .ok (l.account au).key)
    (hm : (l.account m).key = s.terms.mint) (hes : (l.account es).key = t.escrow)
    (hbt : (l.account bt).key = s.beneficiaryToken) :
    Ends (withdraw programId (b :: bt :: j :: tr :: au :: es :: m :: tp :: ft :: rest) amount clock) l
      (fun _ _ => True)
      (fun f _ => (∃ e, s.withdraw (l.account b).key amount clock = .error e ∧ f = .program e) ∨
        MintFault (l.account m) f) := by
  have hsize := size_of_storedStream hs
  simp only [withdraw, ends_bind, ends_pure, ends_account, ends_ite, ends_refuse, ends_checkSigner,
    ends_checkTokenProgram, ends_checkFeeTreasuryToken, ends_loadStream, ends_loadTreasury,
    ends_checkTreasuryAuthority, ends_checkMint, ends_ofExcept, ends_mintDecimals, ends_invoke,
    ends_invokeWhen, ends_saveStream, ends_emit, Ledger.account_mk, hsigned, htp, hft, hs, ht, hau,
    hm, hes, hbt, hsize, true_implies, Except.ok.injEq, forall_eq', ne_eq, not_true_eq_false,
    false_implies, and_true, implies_true, reduceCtorEq, true_and]
  refine ⟨fun _ _ => ⟨fun _ e he => .inr (.inr ⟨e, he, rfl⟩), fun hown => .inr (.inl ⟨hown, rfl⟩)⟩,
    fun e he => .inl ⟨e, he, rfl⟩⟩

theorem partyOperation_passes_checks (programId : Pubkey)
    (op : Stream → Pubkey → Except StreamError Stream)
    (event : Stream → Stream → Pubkey → Pubkey → Event) (l : Ledger) {i j : Nat} {rest : List Nat}
    {s : Stream} (hsigned : (l.account i).isSigner = true)
    (hs : storedStream programId (l.account j) = .ok s) :
    Ends (partyOperation programId (i :: j :: rest) op event) l (fun _ _ => True)
      (fun f _ => ∃ e, op s (l.account i).key = .error e ∧ f = .program e) := by
  have hsize := size_of_storedStream hs
  simp only [partyOperation, partyAccounts, ends_bind, ends_pure, ends_account, ends_checkSigner,
    ends_loadStream, ends_ofExcept, ends_saveStream, ends_emit, hsigned, hs, hsize, true_implies,
    Except.ok.injEq, forall_eq', ne_eq, not_true_eq_false, false_implies, and_true, implies_true,
    reduceCtorEq, true_and]
  exact fun e he => ⟨e, he, rfl⟩

theorem closeStream_passes_checks (programId : Pubkey) (clock : Clock) (l : Ledger)
    {i j tr au es bt tt tk m tp ft ftt sp : Nat} {rest : List Nat} {s : Stream} {t : Treasury}
    (hsigned : (l.account i).isSigner = true) (htp : (l.account tp).key = Derive.tokenProgram)
    (hsp : (l.account sp).key = Derive.systemProgram) (hft : (l.account ft).key = Address.feeTreasury)
    (hftt : (l.account ftt).key = Address.feeTreasuryToken (l.account m).key)
    (hs : storedStream programId (l.account j) = .ok s)
    (ht : storedTreasury programId (l.account tr) (l.account j).key s = .ok t)
    (hau : Address.create (Address.authoritySeeds (l.account tr).key) t.authorityBump programId =
      .ok (l.account au).key)
    (hm : (l.account m).key = s.terms.mint) (htk : (l.account tk).key = s.treasurer)
    (hes : (l.account es).key = t.escrow) (hbt : (l.account bt).key = s.beneficiaryToken)
    (htt : (l.account tt).key = Derive.associatedToken (l.account tk).key (l.account m).key) :
    Ends (closeStream programId (i :: j :: tr :: au :: es :: bt :: tt :: tk :: m :: tp :: ft :: ftt :: sp :: rest) clock) l
      (fun _ _ => True)
      (fun f _ => s.close (l.account i).key clock = .error f ∨ MintFault (l.account m) f ∨
        BalanceFault (l.account es) f ∨ f = .program .overflow) := by
  have hsize := size_of_storedStream hs
  simp only [closeStream, ends_bind, ends_pure, ends_account, ends_ite, ends_refuse, ends_checkSigner,
    ends_checkTokenProgram, ends_checkSystemProgram, ends_checkFeeTreasury,
    ends_checkFeeTreasuryToken, ends_loadStream, ends_loadTreasury, ends_checkTreasuryAuthority,
    ends_checkMint, ends_ofFault, ends_mintDecimals, ends_invoke, ends_invokeWhen,
    ends_tokenBalance, ends_saveStream, ends_closeProgramAccount, ends_emit, Ledger.account_mk,
    hsigned, htp, hsp, hft, hftt, hs, ht, hau, hm, htk, hes, hbt, htt, hsize,
    true_implies, Except.ok.injEq, forall_eq', ne_eq, not_true_eq_false, false_implies, and_true,
    implies_true, reduceCtorEq, true_and, not_and, Prod.forall]
  simp +contextual [MintFault, BalanceFault]

end Processor

namespace Stream

theorem create_identity {treasurer beneficiaryToken treasury : Pubkey} {p : CreateParams}
    {clock : Clock} {s : Stream}
    (h : Stream.create treasurer p beneficiaryToken treasury clock = .ok s) :
    s.initialized = true ∧ s.treasurer = treasurer ∧ s.nonce = p.nonce ∧ s.bump = p.streamBump ∧
      s.treasury = treasury ∧ s.terms = p.terms := by
  obtain ⟨-, -, -, rfl⟩ := create_eq_ok h
  exact ⟨rfl, rfl, rfl, rfl, rfl, rfl⟩

end Stream

namespace Build

open Address Processor Run

/-- The accounts at the positions `infos` are those the call names, in its order: each has the
key the call gives it and signs when the call marks it as a signer. -/
def Carries (l : Ledger) (infos : List Nat) (c : Call) : Prop :=
  List.Forall₂ (fun i m => (l.account i).key = m.pubkey ∧ (l.account i).isSigner = m.isSigner)
    infos c.accounts

section Carries

variable {l : Ledger} {infos : List Nat} {programId : Pubkey} {data : List UInt8}

theorem carries_cons_iff {key : Pubkey} {signer writable : Bool} {ms : List AccountMeta} :
    Carries l infos ⟨programId, ⟨key, signer, writable⟩ :: ms, data⟩ ↔ ∃ i rest, infos = i :: rest ∧
      ((l.account i).key = key ∧ (l.account i).isSigner = signer) ∧
        Carries l rest ⟨programId, ms, data⟩ := by
  simp only [Carries, List.forall₂_cons_right_iff]
  constructor
  · rintro ⟨i, rest, h, hr, rfl⟩
    exact ⟨i, rest, rfl, h, hr⟩
  · rintro ⟨i, rest, rfl, h, hr⟩
    exact ⟨i, rest, h, hr, rfl⟩

theorem carries_nil_iff : Carries l infos ⟨programId, [], data⟩ ↔ infos = [] :=
  List.forall₂_nil_right_iff

end Carries

/-- Where the program looks for a stream record `s` kept at `key` and its treasury record `t`:
the stream lives at the address its treasurer, nonce and stored bump create; the treasury is set
up for that stream and the stream's mint; its stored authority bump is the one the search finds
for the treasury named in the stream; the escrow is that authority's token account. -/
structure Placed (programId key : Pubkey) (s : Stream) (t : Treasury) : Prop where
  stream_address : create (streamSeeds s.treasurer s.nonce) s.bump programId = .ok key
  stream_initialized : s.initialized = true
  treasury_initialized : t.initialized = true
  treasury_stream : t.stream = key
  treasury_mint : t.mint = s.terms.mint
  authority : ∃ au, find (authoritySeeds s.treasury) programId = .ok ⟨au, t.authorityBump⟩ ∧
    t.escrow = escrowToken au s.terms.mint

/-- The accounts at `infos` hold the records: each one with the stream's key holds its record
`s`, each one with its treasury's key the treasury record `t`, both owned by the program. -/
structure Holds (programId key : Pubkey) (s : Stream) (t : Treasury) (l : Ledger) (infos : List Nat) :
    Prop where
  stream : ∀ i ∈ infos, (l.account i).key = key →
    (l.account i).owner = programId ∧ (l.account i).data = s.toBytes
  treasury : ∀ i ∈ infos, (l.account i).key = s.treasury →
    (l.account i).owner = programId ∧ (l.account i).data = t.toBytes

section Held

variable {programId key : Pubkey} {s : Stream} {t : Treasury} {l : Ledger} {infos : List Nat}

theorem Holds.storedStream (h : Holds programId key s t l infos) (hp : Placed programId key s t)
    {j : Nat} (hj : j ∈ infos) (hk : (l.account j).key = key) :
    Processor.storedStream programId (l.account j) = .ok s := by
  obtain ⟨ho, hd⟩ := h.stream j hj hk
  refine storedStream_eq_ok.mpr ⟨ho, ?_, hp.stream_initialized, hk ▸ hp.stream_address⟩
  rw [hd]
  exact Stream.decode_toBytes s

theorem Holds.storedTreasury (h : Holds programId key s t l infos) (hp : Placed programId key s t)
    {j tr : Nat} (htr : tr ∈ infos) (hk : (l.account j).key = key)
    (hktr : (l.account tr).key = s.treasury) :
    Processor.storedTreasury programId (l.account tr) (l.account j).key s = .ok t := by
  obtain ⟨ho, hd⟩ := h.treasury tr htr hktr
  refine storedTreasury_eq_ok.mpr ⟨ho, hktr, ?_, hp.treasury_initialized,
    hk ▸ hp.treasury_stream, hp.treasury_mint⟩
  rw [hd]
  exact Treasury.decode_toBytes t

end Held

/-- The call `c`, processed at any clock on any accounts that carry it and hold the records of
the stream kept at `key`, stops with no fault but those `late` allows. -/
def Passes (programId key : Pubkey) (s : Stream) (t : Treasury) (c : Call)
    (late : Clock → Ledger → List Nat → Fault → Prop) : Prop :=
  ∀ l infos clock, Carries l infos c → Holds programId key s t l infos →
    Ends (process programId infos c.data clock) l (fun _ _ => True) fun f _ => late clock l infos f

section Calls

variable {programId key : Pubkey} {s : Stream} {t : Treasury}

theorem addFunds_passes (hp : Placed programId key s t) {who token : Pubkey} {amount : UInt64}
    {resume : Bool} {c : Call} (hc : addFunds programId who token key s amount resume = .ok c) :
    Passes programId key s t c fun clock l infos f =>
      (Operation.addFunds who amount resume).apply s clock = .error f ∨
        ∃ m, infos[5]? = some m ∧ MintFault (l.account m) f := by
  obtain ⟨au, hfind, hescrow⟩ := hp.authority
  -- the builder searches the authority the stored bump derives, so the escrow is the treasury's
  simp only [addFunds, hfind, bind_eq_ok, pure_eq_ok, Except.ok.injEq, exists_eq_left'] at hc
  intro l infos clock hcar hheld
  rw [← hc] at hcar
  simp only [AccountMeta.writable, AccountMeta.readonly] at hcar
  obtain ⟨i, _, rfl, ⟨hki, hsi⟩, hcar⟩ := carries_cons_iff.mp hcar
  obtain ⟨ct, _, rfl, -, hcar⟩ := carries_cons_iff.mp hcar
  obtain ⟨j, _, rfl, ⟨hkj, -⟩, hcar⟩ := carries_cons_iff.mp hcar
  obtain ⟨tr, _, rfl, ⟨hktr, -⟩, hcar⟩ := carries_cons_iff.mp hcar
  obtain ⟨es, _, rfl, ⟨hkes, -⟩, hcar⟩ := carries_cons_iff.mp hcar
  obtain ⟨m, _, rfl, ⟨hkm, -⟩, hcar⟩ := carries_cons_iff.mp hcar
  obtain ⟨tp, _, rfl, ⟨hktp, -⟩, hcar⟩ := carries_cons_iff.mp hcar
  obtain ⟨ft, _, rfl, ⟨hkft, -⟩, hcar⟩ := carries_cons_iff.mp hcar
  obtain ⟨sp, _, rfl, ⟨hksp, -⟩, hcar⟩ := carries_cons_iff.mp hcar
  obtain rfl := carries_nil_iff.mp hcar
  subst hc
  simp only [process, ends_bind, ends_ofExcept, Instruction.unpack_pack, Except.ok.injEq,
    forall_eq', reduceCtorEq, false_implies, implies_true, and_true]
  refine (addFunds_passes_checks programId amount resume clock l hsi hktp hksp hkft
    (hheld.storedStream hp (by simp) hkj) (hheld.storedTreasury hp (by simp) hkj hktr) hkm
    (by rw [hkes, hescrow])).mono (fun _ _ _ => trivial) ?_
  rintro f _ (⟨e, he, rfl⟩ | hmint)
  · exact .inl (Operation.plain_eq_error.mpr ⟨e, hki ▸ he, rfl⟩)
  · exact .inr ⟨m, rfl, hmint⟩

theorem withdraw_passes (hp : Placed programId key s t) {amount : UInt64} {c : Call}
    (hc : withdraw programId key s amount = .ok c) :
    Passes programId key s t c fun clock l infos f =>
      (Operation.withdraw s.beneficiary amount).apply s clock = .error f ∨
        ∃ m, infos[6]? = some m ∧ MintFault (l.account m) f := by
  obtain ⟨au, hfind, hescrow⟩ := hp.authority
  simp only [withdraw, hfind, bind_eq_ok, pure_eq_ok, Except.ok.injEq, exists_eq_left'] at hc
  intro l infos clock hcar hheld
  rw [← hc] at hcar
  simp only [AccountMeta.writable, AccountMeta.readonly] at hcar
  obtain ⟨b, _, rfl, ⟨hkb, hsb⟩, hcar⟩ := carries_cons_iff.mp hcar
  obtain ⟨bt, _, rfl, ⟨hkbt, -⟩, hcar⟩ := carries_cons_iff.mp hcar
  obtain ⟨j, _, rfl, ⟨hkj, -⟩, hcar⟩ := carries_cons_iff.mp hcar
  obtain ⟨tr, _, rfl, ⟨hktr, -⟩, hcar⟩ := carries_cons_iff.mp hcar
  obtain ⟨a, _, rfl, ⟨hka, -⟩, hcar⟩ := carries_cons_iff.mp hcar
  obtain ⟨es, _, rfl, ⟨hkes, -⟩, hcar⟩ := carries_cons_iff.mp hcar
  obtain ⟨m, _, rfl, ⟨hkm, -⟩, hcar⟩ := carries_cons_iff.mp hcar
  obtain ⟨tp, _, rfl, ⟨hktp, -⟩, hcar⟩ := carries_cons_iff.mp hcar
  obtain ⟨ft, _, rfl, ⟨hkft, -⟩, hcar⟩ := carries_cons_iff.mp hcar
  obtain rfl := carries_nil_iff.mp hcar
  subst hc
  simp only [process, ends_bind, ends_ofExcept, Instruction.unpack_pack, Except.ok.injEq,
    forall_eq', reduceCtorEq, false_implies, implies_true, and_true]
  -- the stored bump creates the authority the builder found
  have hau : create (authoritySeeds (l.account tr).key) t.authorityBump programId =
      .ok (l.account a).key := by
    rw [hktr, hka]
    exact create_of_find hfind
  refine (withdraw_passes_checks programId amount clock l hsb hktp (by rw [hkft, hkm])
    (hheld.storedStream hp (by simp) hkj) (hheld.storedTreasury hp (by simp) hkj hktr) hau hkm
    (by rw [hkes, hescrow]) hkbt).mono (fun _ _ _ => trivial) ?_
  rintro f _ (⟨e, he, rfl⟩ | hmint)
  · exact .inl (Operation.plain_eq_error.mpr ⟨e, hkb ▸ he, rfl⟩)
  · exact .inr ⟨m, rfl, hmint⟩

theorem partyCall_passes (hp : Placed programId key s t) (who : Pubkey) (ins : Instruction)
    (op : Operation) (hop : ins.operation who = some op) (hslot : ins.streamSlot = 1)
    (hclose : ins ≠ .closeStream) :
    Passes programId key s t (partyCall programId who key ins) fun clock _ _ f =>
      op.apply s clock = .error f := by
  intro l infos clock hcar hheld
  simp only [partyCall, AccountMeta.writable, AccountMeta.readonly] at hcar
  obtain ⟨i, _, rfl, ⟨hki, hsi⟩, hcar⟩ := carries_cons_iff.mp hcar
  obtain ⟨j, _, rfl, ⟨hkj, -⟩, hcar⟩ := carries_cons_iff.mp hcar
  obtain rfl := carries_nil_iff.mp hcar
  have hs := hheld.storedStream hp (by simp) hkj
  cases ins
  case createStream | addFunds | withdraw => simp [Instruction.streamSlot] at hslot
  case closeStream => exact absurd rfl hclose
  all_goals
    obtain rfl := Option.some.inj hop
    simp only [partyCall, process, ends_bind, ends_ofExcept, Instruction.unpack_pack, Except.ok.injEq,
      forall_eq', reduceCtorEq, false_implies, implies_true, and_true]
    refine (partyOperation_passes_checks programId _ _ l hsi hs).mono (fun _ _ _ => trivial) ?_
    rintro f _ ⟨e, he, rfl⟩
    exact Operation.plain_eq_error.mpr ⟨e, hki ▸ he, rfl⟩

theorem closeStream_passes (hp : Placed programId key s t) {who : Pubkey} {c : Call}
    (hc : closeStream programId who key s = .ok c) :
    Passes programId key s t c fun clock l infos f =>
      (Operation.close who).apply s clock = .error f ∨
        (∃ m, infos[8]? = some m ∧ MintFault (l.account m) f) ∨
        (∃ e, infos[4]? = some e ∧ BalanceFault (l.account e) f) ∨ f = .program .overflow := by
  obtain ⟨au, hfind, hescrow⟩ := hp.authority
  simp only [closeStream, hfind, bind_eq_ok, pure_eq_ok, Except.ok.injEq, exists_eq_left'] at hc
  intro l infos clock hcar hheld
  rw [← hc] at hcar
  simp only [AccountMeta.writable, AccountMeta.readonly] at hcar
  obtain ⟨i, _, rfl, ⟨hki, hsi⟩, hcar⟩ := carries_cons_iff.mp hcar
  obtain ⟨j, _, rfl, ⟨hkj, -⟩, hcar⟩ := carries_cons_iff.mp hcar
  obtain ⟨tr, _, rfl, ⟨hktr, -⟩, hcar⟩ := carries_cons_iff.mp hcar
  obtain ⟨a, _, rfl, ⟨hka, -⟩, hcar⟩ := carries_cons_iff.mp hcar
  obtain ⟨es, _, rfl, ⟨hkes, -⟩, hcar⟩ := carries_cons_iff.mp hcar
  obtain ⟨bt, _, rfl, ⟨hkbt, -⟩, hcar⟩ := carries_cons_iff.mp hcar
  obtain ⟨tt, _, rfl, ⟨hktt, -⟩, hcar⟩ := carries_cons_iff.mp hcar
  obtain ⟨tk, _, rfl, ⟨hktk, -⟩, hcar⟩ := carries_cons_iff.mp hcar
  obtain ⟨m, _, rfl, ⟨hkm, -⟩, hcar⟩ := carries_cons_iff.mp hcar
  obtain ⟨tp, _, rfl, ⟨hktp, -⟩, hcar⟩ := carries_cons_iff.mp hcar
  obtain ⟨ft, _, rfl, ⟨hkft, -⟩, hcar⟩ := carries_cons_iff.mp hcar
  obtain ⟨ftt, _, rfl, ⟨hkftt, -⟩, hcar⟩ := carries_cons_iff.mp hcar
  obtain ⟨sp, _, rfl, ⟨hksp, -⟩, hcar⟩ := carries_cons_iff.mp hcar
  obtain rfl := carries_nil_iff.mp hcar
  subst hc
  simp only [process, ends_bind, ends_ofExcept, Instruction.unpack_pack, Except.ok.injEq,
    forall_eq', reduceCtorEq, false_implies, implies_true, and_true]
  have hau : create (authoritySeeds (l.account tr).key) t.authorityBump programId =
      .ok (l.account a).key := by
    rw [hktr, hka]
    exact create_of_find hfind
  refine (closeStream_passes_checks programId clock l hsi hktp hksp hkft (by rw [hkftt, hkm])
    (hheld.storedStream hp (by simp) hkj) (hheld.storedTreasury hp (by simp) hkj hktr) hau hkm
    hktk (by rw [hkes, hescrow]) hkbt (by rw [hktt, hktk, hkm])).mono (fun _ _ _ => trivial) ?_
  rintro f _ (hclosed | hmint | hbalance | hover)
  · exact .inl (Operation.apply_close_eq_error.mpr (hki ▸ hclosed))
  · exact .inr (.inl ⟨m, rfl, hmint⟩)
  · exact .inr (.inr (.inl ⟨es, rfl, hbalance⟩))
  · exact .inr (.inr (.inr hover))

end Calls

/-- Every call a client builds on the stream `s` kept at `key` gets past every account check of
its instruction, on any accounts that carry the call and hold the stream's records: it stops, if
at all, where its operation refuses it, where the mint or the escrow cannot be read as the token
program's accounts, or where the closed accounts' lamports cannot be moved. -/
structure CallsPass (programId key : Pubkey) (s : Stream) (t : Treasury) : Prop where
  addFunds : ∀ who token amount resume c,
    Build.addFunds programId who token key s amount resume = .ok c →
      Passes programId key s t c fun clock l infos f =>
        (Operation.addFunds who amount resume).apply s clock = .error f ∨
          ∃ m, infos[5]? = some m ∧ MintFault (l.account m) f
  withdraw : ∀ amount c, Build.withdraw programId key s amount = .ok c →
    Passes programId key s t c fun clock l infos f =>
      (Operation.withdraw s.beneficiary amount).apply s clock = .error f ∨
        ∃ m, infos[6]? = some m ∧ MintFault (l.account m) f
  pause : ∀ who, Passes programId key s t (pauseStream programId who key) fun clock _ _ f =>
    (Operation.pause who).apply s clock = .error f
  resume : ∀ who, Passes programId key s t (resumeStream programId who key) fun clock _ _ f =>
    (Operation.resume who).apply s clock = .error f
  proposeUpdate : ∀ who terms, Passes programId key s t (proposeUpdate programId who key terms)
    fun clock _ _ f => (Operation.proposeUpdate who terms).apply s clock = .error f
  answerUpdate : ∀ who approve, Passes programId key s t (answerUpdate programId who key approve)
    fun clock _ _ f => (Operation.answerUpdate who approve).apply s clock = .error f
  close : ∀ who c, Build.closeStream programId who key s = .ok c →
    Passes programId key s t c fun clock l infos f =>
      (Operation.close who).apply s clock = .error f ∨
        (∃ m, infos[8]? = some m ∧ MintFault (l.account m) f) ∨
        (∃ e, infos[4]? = some e ∧ BalanceFault (l.account e) f) ∨ f = .program .overflow

theorem callsPass_of_placed {programId key : Pubkey} {s : Stream} {t : Treasury}
    (hp : Placed programId key s t) : CallsPass programId key s t where
  addFunds _ _ _ _ _ hc := addFunds_passes hp hc
  withdraw _ _ hc := withdraw_passes hp hc
  pause who := partyCall_passes hp who .pauseStream (.pause who) rfl rfl (by simp)
  resume who := partyCall_passes hp who .resumeStream (.resume who) rfl rfl (by simp)
  proposeUpdate who terms :=
    partyCall_passes hp who (.proposeUpdate terms) (.proposeUpdate who terms) rfl rfl (by simp)
  answerUpdate who approve :=
    partyCall_passes hp who (.answerUpdate approve) (.answerUpdate who approve) rfl rfl (by simp)
  close _ _ hc := closeStream_passes hp hc

section Creation

variable {programId treasurer treasurerToken : Pubkey} {p : CreateParams} {a : StreamAddresses}

theorem createStream_passes {c : Call}
    (ha : StreamAddresses.derive treasurer p.nonce p.mint programId = .ok a)
    (hc : createStream programId treasurer treasurerToken p = .ok c) (l : Ledger) (infos : List Nat)
    (clock : Clock) (hcar : Carries l infos c) :
    Ends (process programId infos c.data clock) l (fun _ _ => True) fun f _ =>
      (∃ e, Stream.create treasurer
          { p with
            streamBump := a.stream.bump
            treasuryBump := a.treasury.bump
            authorityBump := a.authority.bump }
          (Derive.associatedToken p.beneficiary p.mint) a.treasury.address clock = .error e ∧
        f = .program e) ∨
      f = .program .streamAlreadyInitialized ∨
      (∃ m, infos[3]? = some m ∧ MintFault (l.account m) f) ∨ f = .runtime .invalidAccountData := by
  simp only [createStream, ha, bind_eq_ok, pure_eq_ok, Except.ok.injEq, exists_eq_left'] at hc
  obtain ⟨hfs, hft, hfa, hes⟩ := StreamAddresses.derive_eq_ok.mp ha
  rw [← hc] at hcar
  simp only [AccountMeta.writable, AccountMeta.readonly] at hcar
  obtain ⟨t, _, rfl, ⟨hkt, hst⟩, hcar⟩ := carries_cons_iff.mp hcar
  obtain ⟨tt, _, rfl, -, hcar⟩ := carries_cons_iff.mp hcar
  obtain ⟨b, _, rfl, ⟨hkb, -⟩, hcar⟩ := carries_cons_iff.mp hcar
  obtain ⟨m, _, rfl, ⟨hkm, -⟩, hcar⟩ := carries_cons_iff.mp hcar
  obtain ⟨j, _, rfl, ⟨hkj, -⟩, hcar⟩ := carries_cons_iff.mp hcar
  obtain ⟨tr, _, rfl, ⟨hktr, -⟩, hcar⟩ := carries_cons_iff.mp hcar
  obtain ⟨au, _, rfl, ⟨hkau, -⟩, hcar⟩ := carries_cons_iff.mp hcar
  obtain ⟨es, _, rfl, ⟨hkes, -⟩, hcar⟩ := carries_cons_iff.mp hcar
  obtain ⟨tp, _, rfl, ⟨hktp, -⟩, hcar⟩ := carries_cons_iff.mp hcar
  obtain ⟨sp, _, rfl, ⟨hksp, -⟩, hcar⟩ := carries_cons_iff.mp hcar
  obtain ⟨ft, _, rfl, ⟨hkft, -⟩, hcar⟩ := carries_cons_iff.mp hcar
  obtain rfl := carries_nil_iff.mp hcar
  subst hc
  simp only [process, ends_bind, ends_ofExcept, Instruction.unpack_pack, Except.ok.injEq,
    forall_eq', reduceCtorEq, false_implies, implies_true, and_true]
  refine Ends.mono (createStream_passes_checks programId _ clock l hst hktp hksp hkft hkm hkb
    (by rw [hkt, hkj]; exact hfs) (by rw [hkj, hktr]; exact hft) (by rw [hktr, hkau]; exact hfa)
    (by rw [hkau, hkm, hkes, hes])) (fun _ _ _ => trivial) ?_
  rintro f _ (⟨e, he, rfl⟩ | hinit | hmint | hsave)
  · rw [hkt, hkb, hkm, hktr] at he
    exact .inl ⟨e, he, rfl⟩
  · exact .inr (.inl hinit)
  · exact .inr (.inr (.inl ⟨m, rfl, hmint⟩))
  · exact .inr (.inr (.inr hsave))

theorem placed_of_create {p' : CreateParams} {s : Stream} {clock : Clock}
    (ha : StreamAddresses.derive treasurer p.nonce p.mint programId = .ok a)
    (hp' : p' =
      { p with
        streamBump := a.stream.bump
        treasuryBump := a.treasury.bump
        authorityBump := a.authority.bump })
    (hs : Stream.create treasurer p' (Derive.associatedToken p.beneficiary p.mint)
      a.treasury.address clock = .ok s) :
    Placed programId a.stream.address s
      ⟨true, p'.treasuryBump, p'.authorityBump, a.stream.address, p.mint, a.escrow, clock.now⟩ := by
  subst hp'
  obtain ⟨hfs, -, hfa, hes⟩ := StreamAddresses.derive_eq_ok.mp ha
  obtain ⟨hi, htreasurer, hnonce, hbump, htreasury, hterms⟩ := Stream.create_identity hs
  refine ⟨?_, hi, rfl, rfl, by rw [hterms]; rfl, a.authority.address, ?_, ?_⟩
  · rw [htreasurer, hnonce, hbump]
    exact create_of_find hfs
  · rw [htreasury]
    exact hfa
  · rw [hes, hterms]
    rfl

end Creation

/-- What the call `c` creating a treasurer's stream passes, for the addresses `a` derived for it
and the parameters `p'` it carries: processed on any accounts that carry it, it gets past every
account, address and bump check, and stops only where the record cannot be created from the
parameters, where an address is already in use, where the mint cannot be read, or where the
record is written into an account that was never given room for it; and on the records it
writes, every call a client builds passes as well. -/
structure CreationPasses (programId treasurer : Pubkey) (p : CreateParams) (a : StreamAddresses)
    (p' : CreateParams) (c : Call) : Prop where
  carries : Instruction.unpack c.data = .ok (.createStream p')
  create : ∀ l infos clock, Carries l infos c →
    Ends (process programId infos c.data clock) l (fun _ _ => True) fun f _ =>
      (∃ e, Stream.create treasurer p' (Derive.associatedToken p.beneficiary p.mint)
          a.treasury.address clock = .error e ∧ f = .program e) ∨
        f = .program .streamAlreadyInitialized ∨
        (∃ m, infos[3]? = some m ∧ MintFault (l.account m) f) ∨ f = .runtime .invalidAccountData
  records : ∀ s clock, Stream.create treasurer p' (Derive.associatedToken p.beneficiary p.mint)
      a.treasury.address clock = .ok s →
    CallsPass programId a.stream.address s
      ⟨true, p'.treasuryBump, p'.authorityBump, a.stream.address, p.mint, a.escrow, clock.now⟩

/-- A call built to create a stream passes every account check of the program, and so does every
call built afterwards on the records it writes. -/
theorem built_calls_pass_account_checks {programId treasurer treasurerToken : Pubkey}
    {p : CreateParams} {c : Call} (hc : createStream programId treasurer treasurerToken p = .ok c) :
    ∃ a, StreamAddresses.derive treasurer p.nonce p.mint programId = .ok a ∧
      CreationPasses programId treasurer p a
        { p with
          streamBump := a.stream.bump
          treasuryBump := a.treasury.bump
          authorityBump := a.authority.bump } c := by
  have hc' := hc
  simp only [createStream, bind_eq_ok, pure_eq_ok] at hc'
  obtain ⟨a, ha, hcall⟩ := hc'
  refine ⟨a, ha, ⟨?_, createStream_passes ha hc, fun s clock hs =>
    callsPass_of_placed (placed_of_create ha rfl hs)⟩⟩
  rw [← hcall]
  exact Instruction.unpack_pack _

def sampleTreasurer : Pubkey := ⟨Vector.replicate 32 3⟩

def sampleTreasurerToken : Pubkey := ⟨Vector.replicate 32 4⟩

def sampleParams : CreateParams where
  memo := ⟨Vector.replicate 32 0⟩
  beneficiary := ⟨Vector.replicate 32 7⟩
  mint := ⟨Vector.replicate 32 9⟩
  nonce := 1
  funding := 1000
  rateAmount := 100
  rateInterval := 3600
  start := 0
  cliffSeconds := 0
  cliffAmount := 0
  cliffPercent := 0
  autoPauseSeconds := 0
  streamBump := 0
  treasuryBump := 0
  authorityBump := 0

theorem built_calls_pass_account_checks_at_sample :
    ∃ c a, createStream Address.programId sampleTreasurer sampleTreasurerToken sampleParams = .ok c ∧
      StreamAddresses.derive sampleTreasurer sampleParams.nonce sampleParams.mint
        Address.programId = .ok a ∧
      CreationPasses Address.programId sampleTreasurer sampleParams a
        { sampleParams with
          streamBump := a.stream.bump
          treasuryBump := a.treasury.bump
          authorityBump := a.authority.bump } c := by
  have hok : (createStream Address.programId sampleTreasurer sampleTreasurerToken
      sampleParams).toBool = true := by
    decide +kernel
  cases hc : createStream Address.programId sampleTreasurer sampleTreasurerToken sampleParams with
  | error e =>
    rw [hc] at hok
    cases hok
  | ok c =>
    obtain ⟨a, ha, hpass⟩ := built_calls_pass_account_checks hc
    exact ⟨c, a, rfl, ha, hpass⟩

end Build

end MoneyStream
