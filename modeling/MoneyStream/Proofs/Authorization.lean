import MoneyStream.Proofs.Instructions
/-! # Who may make an instruction

Authorization is checked in two layers. The processor checks that the initiator signed, that
the stream account belongs to the program at the address its record's treasurer, nonce and bump
derive, and that the treasury an instruction reads names that stream and its mint. The call on
the record then checks who the initiator is: only the beneficiary withdraws, only the
counterparty of the pending proposal answers it, and either party pauses, resumes, proposes,
closes, or adds funds and resumes. The main statement puts the two layers together for every
accepted instruction.

The counterparty of a proposal is never its proposer as long as the proposal names two keys,
as every proposal the calls record on a created stream does. A record that names one key twice
lets that key answer its own proposal.
-/
namespace MoneyStream

namespace Operation

/-- Who may make a call on the stream `s`: only its beneficiary withdraws, only the
counterparty of the pending proposal answers it, which is not the proposer when the proposal
names two keys, either party makes the other calls, and anyone adds funds without resuming. -/
def Permitted (s : Stream) : Operation → Prop
  | addFunds who _ thenResume => thenResume = true → who = s.treasurer ∨ who = s.beneficiary
  | withdraw who _ => who = s.beneficiary
  | pause who | resume who | close who | proposeUpdate who _ =>
    who = s.treasurer ∨ who = s.beneficiary
  | answerUpdate who _ => ∃ p, s.pending = some p ∧ who = p.counterparty ∧
    (p.proposedBy ≠ p.counterparty → who ≠ p.proposedBy)

theorem permitted_of_apply {op : Operation} {s s' : Stream} {clock : Clock}
    {c : Option Settlement} (h : op.apply s clock = .ok (c, s')) : op.Permitted s := by
  cases op with
  | addFunds who amount thenResume =>
    intro hr
    exact Stream.ensureParty_eq_ok.1
      ((Stream.addFunds_eq_ok (apply_addFunds_eq_ok.1 h).2).2.2.1 hr)
  | withdraw who amount => exact (Stream.withdraw_eq_ok.1 (apply_withdraw_eq_ok.1 h).2).2.1
  | pause who => exact Stream.ensureParty_eq_ok.1 (Stream.pause_eq_ok (apply_pause_eq_ok.1 h).2).2.1
  | resume who =>
    exact Stream.ensureParty_eq_ok.1 (Stream.resume_eq_ok (apply_resume_eq_ok.1 h).2).2.1
  | close who =>
    obtain ⟨st, hc, -⟩ := apply_close_eq_ok.1 h
    exact Stream.ensureParty_eq_ok.1 (Stream.close_eq_ok hc).2.1
  | proposeUpdate who terms =>
    -- a proposal needs a counterparty, which only a party has
    obtain ⟨-, cp, hcp, -⟩ := Stream.proposeUpdate_eq_ok (apply_proposeUpdate_eq_ok.1 h).2
    rcases Stream.counterpartyOf_eq_some hcp with ⟨hw, -⟩ | ⟨hw, -⟩
    · exact .inl hw
    · exact .inr hw
  | answerUpdate who approve =>
    obtain ⟨-, p, hp, hw, -⟩ := Stream.answerUpdate_eq_ok (apply_answerUpdate_eq_ok.1 h).2
    exact ⟨p, hp, hw, fun hne heq => hne (heq.symm.trans hw)⟩

end Operation

theorem Treasury.validateFor_eq_ok {t : Treasury} {stream mint : Pubkey} {u : Unit} :
    t.validateFor stream mint = .ok u ↔
      t.initialized = true ∧ t.stream = stream ∧ t.mint = mint := by
  unfold Treasury.validateFor
  by_cases hi : t.initialized = true <;> by_cases hs : t.stream = stream <;>
    by_cases hm : t.mint = mint <;> simp [hi, hs, hm]

namespace Processor

theorem storedTreasury_eq_ok {programId streamKey : Pubkey} {a : Account} {s : Stream}
    {t : Treasury} :
    storedTreasury programId a streamKey s = .ok t ↔ a.owner = programId ∧ a.key = s.treasury ∧
      Treasury.decode a.data = .ok t ∧ t.initialized = true ∧ t.stream = streamKey ∧
      t.mint = s.terms.mint := by
  constructor
  · intro h
    by_cases ho : a.owner = programId <;> simp [storedTreasury, ho] at h
    by_cases hk : a.key = s.treasury <;> simp [hk] at h
    obtain ⟨hd, u, hv⟩ := h
    exact ⟨ho, hk, hd, Treasury.validateFor_eq_ok.1 hv⟩
  · rintro ⟨ho, hk, hd, hi, hs, hm⟩
    simp [storedTreasury, Treasury.validateFor, ho, hk, hd, hi, hs, hm]

/-- What an accepted instruction `ins` shows about the accounts it was given: its initiator at
`i` signed and may make the call `op` on the stream `s`; the stream account at `j` belongs to
the program, holds `s` and sits at the address `s` derives; and the treasury it reads, if any,
is the stream's treasury, records that stream and escrows its mint. -/
structure Authorized (programId : Pubkey) (accounts : Array Account) (infos : List Nat)
    (ins : Instruction) (i j : Nat) (op : Operation) (s : Stream) : Prop where
  initiatorAt : infos[0]? = some i
  streamAt : infos[ins.streamSlot]? = some j
  signed : (accounts.getD i default).isSigner = true
  operation : ins.operation (accounts.getD i default).key = some op
  permitted : op.Permitted s
  owned : (accounts.getD j default).owner = programId
  decoded : Stream.decode (accounts.getD j default).data = .ok s
  derived : Address.create (Address.streamSeeds s.treasurer s.nonce) s.bump programId =
    .ok (accounts.getD j default).key
  treasury : ∀ n ∈ ins.treasurySlot, ∃ tr t, infos[n]? = some tr ∧
    (accounts.getD tr default).owner = programId ∧ (accounts.getD tr default).key = s.treasury ∧
    Treasury.decode (accounts.getD tr default).data = .ok t ∧
    t.stream = (accounts.getD j default).key ∧ t.mint = s.terms.mint

/-- Every accepted instruction is authorized: both the processor's checks of the accounts and
the call's check of its initiator passed. -/
theorem accepted_instruction_is_authorized {accounts : Array Account} {programId : Pubkey}
    {infos : List Nat} {payload : List UInt8} {clock : Clock} {l' : Ledger}
    (h : step accounts programId infos payload clock = (.ok (), l')) :
    ∃ ins i j op s, Instruction.unpack payload = .ok ins ∧
      Authorized programId accounts infos ins i j op s := by
  obtain ⟨ins, hins, i, j, op, s, s', hacc, -⟩ := accepted_of_step h
  obtain ⟨ho, hd, -, hc⟩ := storedStream_eq_ok.1 hacc.stored
  obtain ⟨c, happ⟩ := hacc.applied
  refine ⟨ins, i, j, op, s, hins, hacc.initiatorAt, hacc.streamAt, hacc.signed, hacc.operation,
    Operation.permitted_of_apply happ, ho, hd, hc, fun n hn => ?_⟩
  obtain ⟨tr, t, htr, ht⟩ := hacc.treasury n hn
  obtain ⟨hto, htk, htd, -, hts, htm⟩ := storedTreasury_eq_ok.1 ht
  exact ⟨tr, t, htr, hto, htk, htd, hts, htm⟩

def soleParty : Pubkey := ⟨Vector.replicate 32 9⟩

def soleStreamKey : Pubkey :=
  Pubkey.ofListPad [91, 206, 182, 5, 106, 142, 195, 3, 27, 98, 230, 198, 147, 53, 89, 37, 221, 92,
    71, 136, 175, 72, 38, 217, 177, 116, 35, 110, 183, 132, 21, 17]

/-- A stream whose treasurer is its beneficiary, with that party's own proposal pending. -/
def soleStream : Stream :=
  { (default : Stream) with
    initialized := true
    state := .active
    bump := 255
    treasurer := soleParty
    beneficiary := soleParty
    pending := some ⟨soleParty, soleParty, default⟩ }

def soleAccounts : Array Account :=
  #[⟨soleParty, Derive.systemProgram, 1000000000, [], true⟩,
    ⟨soleStreamKey, Address.programId, 4370880, soleStream.toBytes, false⟩]

theorem sole_party_pause_authorized :
    step soleAccounts Address.programId [0, 1] [3] ⟨500005, 1000010⟩ =
        (.ok (), (step soleAccounts Address.programId [0, 1] [3] ⟨500005, 1000010⟩).2) ∧
      ∃ ins i j op s, Instruction.unpack [3] = .ok ins ∧
        Authorized Address.programId soleAccounts [0, 1] ins i j op s := by
  have hok : (step soleAccounts Address.programId [0, 1] [3] ⟨500005, 1000010⟩).1 = .ok () := by
    decide +kernel
  have h : step soleAccounts Address.programId [0, 1] [3] ⟨500005, 1000010⟩ =
      (.ok (), (step soleAccounts Address.programId [0, 1] [3] ⟨500005, 1000010⟩).2) := by
    calc step soleAccounts Address.programId [0, 1] [3] ⟨500005, 1000010⟩
        = ((step soleAccounts Address.programId [0, 1] [3] ⟨500005, 1000010⟩).1,
            (step soleAccounts Address.programId [0, 1] [3] ⟨500005, 1000010⟩).2) :=
          Prod.mk.eta.symm
      _ = _ := by rw [hok]
  exact ⟨h, accepted_instruction_is_authorized h⟩

/-- The proposer of the pending proposal answers it, and the instruction is accepted. -/
theorem proposer_answers_own_proposal :
    (step soleAccounts Address.programId [0, 1] [6, 0] ⟨500005, 1000010⟩).1 = .ok () ∧
      soleStream.pending.map (·.proposedBy) = some (soleAccounts.getD 0 default).key := by
  decide +kernel

end Processor

end MoneyStream
