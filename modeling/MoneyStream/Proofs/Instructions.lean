import MoneyStream.Proofs.Handlers
import MoneyStream.Proofs.Steps
/-! # What an instruction does to the accounts

An instruction on an existing stream is accepted only once its initiator, the first of its
accounts, has signed and the stream account has yielded its record. The instruction's call,
made by the initiator, then takes that record to the one written back, and no other account's
data changes. Creating a stream is never accepted here: the system calls that would allocate
its accounts are only recorded, so its record has nowhere to go.

A refused instruction leaves every account as it was, with one exception. Closing writes the
closed record before it moves the treasury's and then the stream's lamports to the treasurer,
and a move whose sum does not fit in a word refuses the instruction after that write.
-/
namespace MoneyStream

namespace Instruction

def streamSlot : Instruction → Nat
  | createStream _ => 4
  | addFunds .. | withdraw _ => 2
  | pauseStream | resumeStream | proposeUpdate _ | answerUpdate _ | closeStream => 1

/-- The call an instruction makes on the stream record when `who` initiates it; creating a
stream makes none. -/
def operation (who : Pubkey) : Instruction → Option Operation
  | createStream _ => none
  | addFunds amount resume => some (.addFunds who amount resume)
  | withdraw amount => some (.withdraw who amount)
  | pauseStream => some (.pause who)
  | resumeStream => some (.resume who)
  | proposeUpdate terms => some (.proposeUpdate who terms)
  | answerUpdate approve => some (.answerUpdate who approve)
  | closeStream => some (.close who)

def treasurySlot : Instruction → Option Nat
  | addFunds .. | withdraw _ => some 3
  | closeStream => some 2
  | _ => none

end Instruction

namespace Processor

open Run

/-- The accounts `after` hold the data of the accounts `before`, except the account at `j`,
which holds the record `s`. -/
def Rewritten (before after : Array Account) (j : Nat) (s : Stream) : Prop :=
  ∀ k, (after.getD k default).data = if k = j then s.toBytes else (before.getD k default).data

theorem lt_size_of_sized {accounts : Array Account} {j : Nat}
    (h : (accounts.getD j default).data.length = Stream.size) : j < accounts.size := by
  by_cases hj : j < accounts.size
  · exact hj
  · rw [Array.getD_eq_getD_getElem?, Array.getElem?_eq_none (Nat.le_of_not_lt hj)] at h
    exact absurd h (by decide)

theorem rewritten_written {accounts : Array Account} {j : Nat} {s : Stream}
    (hj : (accounts.getD j default).data.length = Stream.size) :
    Rewritten accounts (written accounts j s) j s := by
  intro k
  simp only [written, Array.getD_eq_getD_getElem?, Array.getElem?_modify]
  by_cases hkj : k = j
  · subst hkj
    simp [Array.getElem?_eq_getElem (lt_size_of_sized hj)]
  · simp [hkj, Ne.symm hkj]

theorem written_getD (accounts : Array Account) (j : Nat) (s : Stream) (k : Nat) :
    (written accounts j s).getD k default =
      { accounts.getD k default with data := ((written accounts j s).getD k default).data } := by
  simp only [written, Array.getD_eq_getD_getElem?, Array.getElem?_modify]
  by_cases hjk : j = k <;> cases accounts[k]? <;> simp [hjk]

theorem moveLamports_getD {before after : Array Account} {i i' : Nat}
    (h : moveLamports? before i i' = some after) (k : Nat) :
    after.getD k default =
      { before.getD k default with lamports := (after.getD k default).lamports } := by
  unfold moveLamports? at h
  obtain ⟨v, -, rfl⟩ := Option.map_eq_some_iff.1 h
  simp only [Array.getD_eq_getD_getElem?, Array.getElem?_modify]
  by_cases hik : i = k <;> by_cases hjk : i' = k <;> cases before[k]? <;> simp [hik, hjk]

theorem data_of_moveLamports {before after : Array Account} {i j : Nat}
    (h : moveLamports? before i j = some after) (k : Nat) :
    (after.getD k default).data = (before.getD k default).data := by
  rw [moveLamports_getD h k]

theorem lamports_of_moveLamports {before after : Array Account} {i j k : Nat}
    (h : moveLamports? before i j = some after) (hi : k ≠ i) (hj : k ≠ j) :
    (after.getD k default).lamports = (before.getD k default).lamports := by
  unfold moveLamports? at h
  obtain ⟨v, -, rfl⟩ := Option.map_eq_some_iff.1 h
  simp [Array.getD_eq_getD_getElem?, Array.getElem?_modify, Ne.symm hi, Ne.symm hj]

theorem lamports_written (accounts : Array Account) (j : Nat) (s : Stream) (k : Nat) :
    ((written accounts j s).getD k default).lamports = (accounts.getD k default).lamports := by
  rw [written_getD]

theorem Rewritten.moveLamports {before after after' : Array Account} {j i i' : Nat} {s : Stream}
    (h : Rewritten before after j s) (hm : moveLamports? after i i' = some after') :
    Rewritten before after' j s :=
  fun k => (data_of_moveLamports hm k).trans (h k)

theorem storedStream_eq_ok {programId : Pubkey} {a : Account} {s : Stream} :
    storedStream programId a = .ok s ↔ a.owner = programId ∧ Stream.decode a.data = .ok s ∧
      s.initialized = true ∧
      Address.create (Address.streamSeeds s.treasurer s.nonce) s.bump programId = .ok a.key := by
  constructor
  · intro h
    by_cases ho : a.owner = programId <;> simp [storedStream, ho] at h
    obtain ⟨s0, hd, h⟩ := h
    by_cases hi : s0.initialized = true <;> simp [hi] at h
    obtain ⟨k, hc, h⟩ := h
    by_cases hk : k = a.key <;> simp [hk] at h
    subst h hk
    exact ⟨ho, hd, hi, hc⟩
  · rintro ⟨ho, hd, hi, hc⟩
    simp [storedStream, ho, hd, hi, hc]

/-- An instruction `ins` accepted on the ledger `l` on an existing stream: its initiator at
`i` signed, the stream account at `j` holds the record `s`, the treasury the instruction reads
(if any) belongs to that stream, and the instruction's call `op` by the initiator takes `s` to
`s'`. -/
structure Accepted (programId : Pubkey) (clock : Clock) (l : Ledger) (infos : List Nat)
    (ins : Instruction) (i j : Nat) (op : Operation) (s s' : Stream) : Prop
    extends StreamChecked programId l i j s where
  initiatorAt : infos[0]? = some i
  streamAt : infos[ins.streamSlot]? = some j
  operation : ins.operation (l.account i).key = some op
  applied : ∃ c, op.apply s clock = .ok (c, s')
  treasury : ∀ n ∈ ins.treasurySlot, ∃ tr t, infos[n]? = some tr ∧
    storedTreasury programId (l.account tr) (l.account j).key s = .ok t

section Accepting

variable {programId : Pubkey} {clock : Clock} {l : Ledger} {infos : List Nat} {ins : Instruction}
  {i j : Nat} {s s' : Stream}

theorem accepted_of_party {f : Stream → Pubkey → Except StreamError Stream} {l' : Ledger}
    (hslot : ins.streamSlot = 1) (htreasury : ins.treasurySlot = none)
    (hop : ∀ who s s', f s who = .ok s' →
      ∃ op c, ins.operation who = some op ∧ op.apply s clock = .ok (c, s'))
    (h : ∃ i j s s', infos[0]? = some i ∧ infos[1]? = some j ∧ StreamChecked programId l i j s ∧
      f s (l.account i).key = .ok s' ∧ l'.accounts = written l.accounts j s') :
    ∃ i j op s s', Accepted programId clock l infos ins i j op s s' ∧
      Rewritten l.accounts l'.accounts j s' := by
  obtain ⟨i, j, s, s', hi, hj, hchecked, hs', hl'⟩ := h
  obtain ⟨op, c, hop, happ⟩ := hop _ s s' hs'
  refine ⟨i, j, op, s, s', ⟨hchecked, hi, hslot ▸ hj, hop, ⟨c, happ⟩, ?_⟩, ?_⟩
  · rw [htreasury]
    rintro n ⟨⟩
  · rw [hl']
    exact rewritten_written hchecked.sized

theorem accepted_of_funding {l' : Ledger} (hslot : ins.streamSlot = 2)
    (htreasury : ins.treasurySlot = some 3)
    (h : ∃ i j tr op s t s', infos[0]? = some i ∧ infos[2]? = some j ∧ infos[3]? = some tr ∧
      StreamChecked programId l i j s ∧
      storedTreasury programId (l.account tr) (l.account j).key s = .ok t ∧
      ins.operation (l.account i).key = some op ∧ (∃ c, op.apply s clock = .ok (c, s')) ∧
      l'.accounts = written l.accounts j s') :
    ∃ i j op s s', Accepted programId clock l infos ins i j op s s' ∧
      Rewritten l.accounts l'.accounts j s' := by
  obtain ⟨i, j, tr, op, s, t, s', hi, hj, htr, hchecked, ht, hop, happ, hl'⟩ := h
  refine ⟨i, j, op, s, s', ⟨hchecked, hi, hslot ▸ hj, hop, happ, ?_⟩, ?_⟩
  · rw [htreasury]
    rintro n ⟨⟩
    exact ⟨tr, t, htr, ht⟩
  · rw [hl']
    exact rewritten_written hchecked.sized

theorem CloseChecked.accepted {tr t : Nat} {tre : Treasury} {c : Settlement}
    (h : CloseChecked programId clock l i j tr t s tre c s') (hi : infos[0]? = some i)
    (hj : infos[1]? = some j) (htr : infos[2]? = some tr) :
    Accepted programId clock l infos .closeStream i j (.close (l.account i).key) s s' :=
  ⟨h.toStreamChecked, hi, hj, rfl, ⟨some c, Operation.apply_close_eq_ok.2 ⟨c, h.closed, rfl⟩⟩,
    by rintro n ⟨⟩; exact ⟨tr, tre, htr, h.treasury⟩⟩

end Accepting

/-- How processing an instruction ends. Accepted, it was accepted on an existing stream and
rewrote that stream's record alone. Refused, it left the accounts as they were, unless closing
had written the closed record and then could not move the lamports to the treasurer: only
the treasury's and the treasurer's lamports may have moved then. -/
theorem ends_process (programId : Pubkey) (infos : List Nat) (payload : List UInt8)
    (clock : Clock) (l : Ledger) :
    Ends (process programId infos payload clock) l
      (fun _ l' => ∃ ins, Instruction.unpack payload = .ok ins ∧ ∃ i j op s s',
        Accepted programId clock l infos ins i j op s s' ∧ Rewritten l.accounts l'.accounts j s')
      (fun f l' => l'.accounts = l.accounts ∨ f = .program .overflow ∧
        Instruction.unpack payload = .ok .closeStream ∧ ∃ i j op s s',
          Accepted programId clock l infos .closeStream i j op s s' ∧
          Rewritten l.accounts l'.accounts j s' ∧ ∃ tr t, infos[2]? = some tr ∧ infos[7]? = some t ∧
            ∀ k, k ≠ tr → k ≠ t →
              (l'.accounts.getD k default).lamports = (l.accounts.getD k default).lamports) := by
  unfold process
  simp only [ends_bind, ends_ofExcept]
  refine ⟨fun ins hins => ?_, fun _ _ => .inl trivial⟩
  cases ins with
  | createStream p =>
    exact (ends_createStream ..).mono (fun _ _ h => h.elim) (fun _ _ h => .inl h)
  | addFunds amount resume =>
    refine (ends_addFunds ..).mono (fun _ _ h => ⟨_, hins, accepted_of_funding rfl rfl ?_⟩)
      (fun _ _ h => .inl h)
    obtain ⟨i, j, tr, s, t, s', hi, hj, htr, hchecked, ht, hs', hl'⟩ := h
    exact ⟨i, j, tr, _, s, t, s', hi, hj, htr, hchecked, ht, rfl,
      ⟨none, Operation.apply_addFunds_eq_ok.2 ⟨rfl, hs'⟩⟩, hl'⟩
  | withdraw amount =>
    refine (ends_withdraw ..).mono (fun _ _ h => ⟨_, hins, accepted_of_funding rfl rfl ?_⟩)
      (fun _ _ h => .inl h)
    obtain ⟨i, j, tr, s, t, s', hi, hj, htr, hchecked, ht, hs', hl'⟩ := h
    exact ⟨i, j, tr, _, s, t, s', hi, hj, htr, hchecked, ht, rfl,
      ⟨none, Operation.apply_withdraw_eq_ok.2 ⟨rfl, hs'⟩⟩, hl'⟩
  | pauseStream | resumeStream | proposeUpdate _ | answerUpdate _ =>
    exact (ends_partyOperation ..).mono (fun _ _ h => ⟨_, hins, accepted_of_party rfl rfl
      (fun _ _ _ h => ⟨_, none, rfl, Operation.plain_eq_ok.2 ⟨rfl, h⟩⟩) h⟩)
      (fun _ _ h => .inl h)
  | closeStream =>
    refine (ends_closeStream ..).mono (fun _ l' h => ?_) (fun f l' h => ?_)
    · obtain ⟨i, j, tr, t, s, tre, c, s', moved, hi, hj, htr, -, hchecked, hmoved, hafter⟩ := h
      exact ⟨_, hins, i, j, _, s, s', hchecked.accepted hi hj htr,
        ((rewritten_written hchecked.sized).moveLamports hmoved).moveLamports hafter⟩
    · rcases h with h | ⟨hf, i, j, tr, t, s, tre, c, s', hi, hj, htr, ht, hchecked, hmoves⟩
      · exact .inl h
      refine .inr ⟨hf, hins, i, j, _, s, s', hchecked.accepted hi hj htr, ?_⟩
      -- the record is written; a first move that failed moved nothing, a second one only the
      -- treasury's lamports
      rcases hmoves with ⟨-, hl'⟩ | ⟨moved, hmoved, -, hl'⟩
      · rw [hl']
        exact ⟨rewritten_written hchecked.sized, tr, t, htr, ht,
          fun k _ _ => lamports_written l.accounts j s' k⟩
      · rw [hl']
        exact ⟨(rewritten_written hchecked.sized).moveLamports hmoved, tr, t, htr, ht,
          fun k hk hk' => (lamports_of_moveLamports hmoved hk hk').trans (lamports_written ..)⟩

theorem accepted_of_step {accounts : Array Account} {programId : Pubkey} {infos : List Nat}
    {payload : List UInt8} {clock : Clock} {l' : Ledger}
    (h : step accounts programId infos payload clock = (.ok (), l')) :
    ∃ ins, Instruction.unpack payload = .ok ins ∧ ∃ i j op s s',
      Accepted programId clock { accounts } infos ins i j op s s' ∧
        Rewritten accounts l'.accounts j s' := by
  have he := ends_process programId infos payload clock { accounts }
  unfold Ends at he
  unfold step at h
  rw [h] at he
  exact he

/-- What one instruction does to the accounts. Accepted, it made its call, initiated by its
first account, on the record the stream account held, and only that account's data changed:
it holds the record the call returned. Refused, it changed no account's data or lamports,
unless closing was refused for an overflow of lamports after it had written the closed
record; then only the treasury's and the treasurer's lamports may have moved. -/
theorem instruction_rewrites_only_its_record (accounts : Array Account) (programId : Pubkey)
    (infos : List Nat) (payload : List UInt8) (clock : Clock) :
    match step accounts programId infos payload clock with
    | (.ok _, l') => ∃ ins i j op s c s', Instruction.unpack payload = .ok ins ∧
        infos[0]? = some i ∧ infos[ins.streamSlot]? = some j ∧
        ins.operation (accounts.getD i default).key = some op ∧
        Stream.decode (accounts.getD j default).data = .ok s ∧ op.apply s clock = .ok (c, s') ∧
        Rewritten accounts l'.accounts j s'
    | (.error f, l') => l'.accounts = accounts ∨ f = .program .overflow ∧
        Instruction.unpack payload = .ok .closeStream ∧ ∃ i j tr t s c s',
          infos[0]? = some i ∧ infos[1]? = some j ∧ infos[2]? = some tr ∧ infos[7]? = some t ∧
          Stream.decode (accounts.getD j default).data = .ok s ∧
          s.close (accounts.getD i default).key clock = .ok (c, s') ∧
          Rewritten accounts l'.accounts j s' ∧
          ∀ k, k ≠ tr → k ≠ t →
            (l'.accounts.getD k default).lamports = (accounts.getD k default).lamports := by
  have h := ends_process programId infos payload clock { accounts }
  unfold Ends at h
  unfold step
  generalize ((process programId infos payload clock).run { accounts }).run = out at h ⊢
  rcases out with ⟨_ | f, l'⟩
  · rcases h with h | ⟨hf, hins, i, j, op, s, s', hacc, hrw, tr, t, htr, ht, hlam⟩
    · exact .inl h
    have hop := hacc.operation
    cases hop
    obtain ⟨c, happ⟩ := hacc.applied
    obtain ⟨c', hclose, -⟩ := Operation.apply_close_eq_ok.1 happ
    exact .inr ⟨hf, hins, i, j, tr, t, s, c', s', hacc.initiatorAt, hacc.streamAt, htr, ht,
      (storedStream_eq_ok.1 hacc.stored).2.1, hclose, hrw, hlam⟩
  · obtain ⟨ins, hins, i, j, op, s, s', hacc, hrw⟩ := h
    obtain ⟨c, happ⟩ := hacc.applied
    exact ⟨ins, i, j, op, s, c, s', hins, hacc.initiatorAt, hacc.streamAt, hacc.operation,
      (storedStream_eq_ok.1 hacc.stored).2.1, happ, hrw⟩

def closingTreasurer : Pubkey := ⟨Vector.replicate 32 4⟩

def closingMint : Pubkey := ⟨Vector.replicate 32 6⟩

def closingTreasuryKey : Pubkey := ⟨Vector.replicate 32 3⟩

def closingStreamKey : Pubkey :=
  Pubkey.ofListPad [202, 170, 218, 118, 91, 84, 173, 216, 178, 128, 166, 130, 6, 202, 49, 242, 217,
    105, 232, 2, 40, 95, 195, 106, 81, 181, 14, 152, 99, 121, 128, 170]

def closingAuthority : Pubkey :=
  Pubkey.ofListPad [23, 210, 47, 32, 176, 227, 47, 13, 87, 138, 205, 107, 106, 83, 71, 187, 136, 250,
    14, 149, 160, 255, 237, 17, 135, 138, 130, 37, 233, 162, 246, 56]

def closingTreasurerToken : Pubkey :=
  Pubkey.ofListPad [61, 43, 125, 214, 146, 112, 26, 248, 109, 178, 236, 184, 15, 201, 66, 124, 250, 87,
    155, 251, 91, 85, 241, 55, 121, 78, 230, 198, 228, 223, 157, 32]

def closingFeeToken : Pubkey :=
  Pubkey.ofListPad [14, 201, 29, 142, 22, 93, 100, 125, 215, 21, 119, 18, 9, 123, 247, 110, 241, 195,
    154, 203, 4, 216, 76, 8, 51, 219, 201, 235, 138, 169, 126, 237]

def closingStream : Stream :=
  { (default : Stream) with
    initialized := true
    state := .active
    bump := 255
    treasurer := closingTreasurer
    beneficiary := ⟨Vector.replicate 32 9⟩
    beneficiaryToken := ⟨Vector.replicate 32 10⟩
    treasury := closingTreasuryKey
    terms := { (default : Terms) with mint := closingMint } }

/-- The accounts closing takes, in order: the treasurer closing, the stream, its treasury, the
authority, the escrow, the beneficiary's and the treasurer's token accounts, the treasurer once
more, with within a hundred lamports of the largest balance, the mint, the token program, the
fee treasury with its token account, and the system program. -/
def closingAccounts : Array Account :=
  let program (key : Pubkey) : Account := ⟨key, Derive.systemProgram, 1, [], false⟩
  #[⟨closingTreasurer, Derive.systemProgram, 1000000000, [], true⟩,
    ⟨closingStreamKey, Address.programId, 4370880, closingStream.toBytes, false⟩,
    ⟨closingTreasuryKey, Address.programId, 1635600,
      Treasury.toBytes ⟨true, 255, 255, closingStreamKey, closingMint, ⟨Vector.replicate 32 5⟩, 0⟩,
      false⟩,
    program closingAuthority,
    ⟨⟨Vector.replicate 32 5⟩, Derive.tokenProgram, 2039280,
      List.replicate 108 0 ++ [1] ++ List.replicate 56 0, false⟩,
    program ⟨Vector.replicate 32 10⟩,
    program closingTreasurerToken,
    ⟨closingTreasurer, Derive.systemProgram, 18446744073709551515, [], false⟩,
    ⟨closingMint, Derive.tokenProgram, 1461600, List.replicate 44 0 ++ [6, 1] ++ List.replicate 36 0,
      false⟩,
    program Derive.tokenProgram,
    program Address.feeTreasury,
    program closingFeeToken,
    program Derive.systemProgram]

/-- Closing the stream above passes every check and writes the closed record; moving the
treasury's lamports to the treasurer, who holds within a hundred of the largest balance, then
overflows, and the refused instruction leaves the closed record behind. -/
theorem close_overflow_keeps_closed_record :
    (step closingAccounts Address.programId (List.range 13) [7] ⟨500000, 1000000⟩).1 =
        .error (.program .overflow) ∧
      ((step closingAccounts Address.programId (List.range 13) [7] ⟨500000, 1000000⟩).2.accounts.getD 1
        default).data ≠ (closingAccounts.getD 1 default).data := by
  decide +kernel

end Processor

end MoneyStream
