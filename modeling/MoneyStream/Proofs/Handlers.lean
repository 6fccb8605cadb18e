import MoneyStream.Proofs.Ledger
/-! # What each instruction handler does to the accounts

One theorem per handler says how it ends on any ledger. It either accepts, having checked its
signer, the stream record and (where it moves tokens) the treasury, and then the only account
it has written is the stream's, or it refuses and every account is as it was. Closing a stream
is the exception: it writes the closed record first and then moves the lamports of the
treasury and of the stream to the treasurer, and either move can overflow after the record is
written. Creating a stream is never accepted, since the stream account it would write into
is never given room for the record.

Each proof splits on the shape of the account list and lets `simp only` compute the handler's
outcome with the rules of `Proofs.Ledger`, which keep the postcondition as it is stated; what
remains is the accepted branch, whose checks are then named and assembled.
-/
namespace MoneyStream.Processor

open Run

/-- What an instruction on an existing stream has checked once it writes the record back: the
initiator at `i` signed, the account at `j` holds the stream `s` of the program, and it has
room for a record. -/
structure StreamChecked (programId : Pubkey) (l : Ledger) (i j : Nat) (s : Stream) : Prop where
  signed : (l.account i).isSigner = true
  stored : storedStream programId (l.account j) = .ok s
  sized : (l.account j).data.length = Stream.size

/-- What closing a stream has checked and computed once it writes the closed record: besides
the checks of every instruction on a stream, the account at `tr` holds its treasury `tre`, the
account at `t` is its treasurer, and closing settled `c` and left `s'`. -/
structure CloseChecked (programId : Pubkey) (clock : Clock) (l : Ledger) (i j tr t : Nat)
    (s : Stream) (tre : Treasury) (c : Settlement) (s' : Stream) : Prop
    extends StreamChecked programId l i j s where
  treasury : storedTreasury programId (l.account tr) (l.account j).key s = .ok tre
  treasurer : (l.account t).key = s.treasurer
  closed : s.close (l.account i).key clock = .ok (c, s')

theorem ends_partyOperation (programId : Pubkey) (infos : List Nat)
    (op : Stream → Pubkey → Except StreamError Stream)
    (event : Stream → Stream → Pubkey → Pubkey → Event) (l : Ledger) :
    Ends (partyOperation programId infos op event) l
      (fun _ l' => ∃ i j s s', infos[0]? = some i ∧ infos[1]? = some j ∧
        StreamChecked programId l i j s ∧ op s (l.account i).key = .ok s' ∧
        l'.accounts = written l.accounts j s')
      (fun _ l' => l'.accounts = l.accounts) := by
  simp only [partyOperation, partyAccounts, ends_bind]
  split
  next i j rest =>
    simp only [ends_bind, ends_pure, ends_account, ends_checkSigner, ends_loadStream, ends_ofExcept,
      ends_saveStream, ends_emit, implies_true, and_true]
    intro hsigned s hs s' hs' hsize
    exact ⟨i, j, s, s', rfl, rfl, ⟨hsigned, hs, hsize⟩, hs', rfl⟩
  next => simp only [ends_bind, ends_refuse]

theorem ends_addFunds (programId : Pubkey) (infos : List Nat) (amount : UInt64) (resume : Bool)
    (clock : Clock) (l : Ledger) :
    Ends (addFunds programId infos amount resume clock) l
      (fun _ l' => ∃ i j tr s t s', infos[0]? = some i ∧ infos[2]? = some j ∧ infos[3]? = some tr ∧
        StreamChecked programId l i j s ∧
        storedTreasury programId (l.account tr) (l.account j).key s = .ok t ∧
        s.addFunds (l.account i).key amount resume clock = .ok s' ∧ l'.accounts = written l.accounts j s')
      (fun _ l' => l'.accounts = l.accounts) := by
  simp only [addFunds]
  split
  next c ct j tr es m tp ft sp rest =>
    simp only [ends_bind, ends_pure, ends_account, ends_ite, ends_refuse, ends_checkSigner,
      ends_checkTokenProgram, ends_checkSystemProgram, ends_checkFeeTreasury, ends_loadStream,
      ends_loadTreasury, ends_checkMint, ends_ofExcept, ends_mintDecimals, ends_invoke,
      ends_saveStream, ends_emit, Ledger.account_mk, implies_true, and_true]
    intro hsigned _ _ _ s hs t ht _ _ s' hs' _ _ _ hsize
    exact ⟨c, j, tr, s, t, s', rfl, rfl, rfl, ⟨hsigned, hs, hsize⟩, ht, hs', rfl⟩
  next => simp only [ends_bind, ends_refuse]

theorem ends_withdraw (programId : Pubkey) (infos : List Nat) (amount : UInt64) (clock : Clock)
    (l : Ledger) :
    Ends (withdraw programId infos amount clock) l
      (fun _ l' => ∃ i j tr s t s', infos[0]? = some i ∧ infos[2]? = some j ∧ infos[3]? = some tr ∧
        StreamChecked programId l i j s ∧
        storedTreasury programId (l.account tr) (l.account j).key s = .ok t ∧
        s.withdraw (l.account i).key amount clock = .ok s' ∧ l'.accounts = written l.accounts j s')
      (fun _ l' => l'.accounts = l.accounts) := by
  simp only [withdraw]
  split
  next b bt j tr au es m tp ft rest =>
    simp only [ends_bind, ends_pure, ends_account, ends_ite, ends_refuse, ends_checkSigner,
      ends_checkTokenProgram, ends_checkFeeTreasuryToken, ends_loadStream, ends_loadTreasury,
      ends_checkTreasuryAuthority, ends_checkMint, ends_ofExcept, ends_mintDecimals, ends_invoke,
      ends_invokeWhen, ends_saveStream, ends_emit, Ledger.account_mk, implies_true, and_true]
    intro hsigned _ _ s hs t ht _ _ _ _ _ s' hs' _ _ _ hsize
    exact ⟨b, j, tr, s, t, s', rfl, rfl, rfl, ⟨hsigned, hs, hsize⟩, ht, hs', rfl⟩
  next => simp only [ends_bind, ends_refuse]

theorem ends_createStream (programId : Pubkey) (infos : List Nat) (p : CreateParams) (clock : Clock)
    (l : Ledger) :
    Ends (createStream programId infos p clock) l (fun _ _ => False)
      (fun _ l' => l'.accounts = l.accounts) := by
  simp only [createStream]
  split
  next t tt b m j tr au es tp sp ft rest =>
    simp only [ends_bind, ends_pure, ends_account, ends_ite, ends_refuse, ends_checkSigner,
      ends_checkTokenProgram, ends_checkSystemProgram, ends_checkFeeTreasury, ends_ofExcept,
      ends_mintDecimals, ends_invoke, ends_saveStream, ends_emit, Ledger.account_mk, implies_true,
      and_true]
    intro _ _ _ _ _ _ _ _ _ _ _ _ _ _ _ _ _ s _
    refine (ends_createProgramAccount ..).mono ?_ (fun _ _ h => h.1)
    rintro _ l1 ⟨hl1, hempty⟩
    refine (ends_createProgramAccount ..).mono ?_ (fun _ _ h => h.1.trans hl1)
    rintro _ l2 ⟨hl2, -⟩
    -- the stream account was never given room for its record
    have hlen : (l2.account j).data.length ≠ Stream.size := by
      rw [Ledger.account_of_accounts_eq (hl2.trans hl1), hempty]
      decide
    simp only [hlen, hl2, hl1, false_implies, implies_true, and_self]
  next => simp only [ends_bind, ends_refuse]

theorem ends_closeStream (programId : Pubkey) (infos : List Nat) (clock : Clock) (l : Ledger) :
    Ends (closeStream programId infos clock) l
      (fun _ l' => ∃ i j tr t s tre c s' moved, infos[0]? = some i ∧ infos[1]? = some j ∧
        infos[2]? = some tr ∧ infos[7]? = some t ∧ CloseChecked programId clock l i j tr t s tre c s' ∧
        moveLamports? (written l.accounts j s') tr t = some moved ∧
        moveLamports? moved j t = some l'.accounts)
      (fun f l' => l'.accounts = l.accounts ∨ f = .program .overflow ∧
        ∃ i j tr t s tre c s', infos[0]? = some i ∧ infos[1]? = some j ∧ infos[2]? = some tr ∧
          infos[7]? = some t ∧ CloseChecked programId clock l i j tr t s tre c s' ∧
          (moveLamports? (written l.accounts j s') tr t = none ∧ l'.accounts = written l.accounts j s' ∨
            ∃ moved, moveLamports? (written l.accounts j s') tr t = some moved ∧
              moveLamports? moved j t = none ∧ l'.accounts = moved)) := by
  simp only [closeStream]
  split
  next i j tr au es bt tt t m tp ft ftt sp rest =>
    simp only [ends_bind, ends_pure, ends_account, ends_ite, ends_refuse, ends_checkSigner,
      ends_checkTokenProgram, ends_checkSystemProgram, ends_checkFeeTreasury,
      ends_checkFeeTreasuryToken, ends_loadStream, ends_loadTreasury, ends_checkTreasuryAuthority,
      ends_checkMint, ends_ofFault, ends_mintDecimals, ends_invoke, ends_invokeWhen,
      ends_tokenBalance, ends_saveStream, ends_closeProgramAccount, ends_emit, Ledger.account_mk,
      Prod.forall, implies_true, and_true, true_and, true_or]
    intro hsigned _ _ _ _ s hs tre htre _ _ _ _ htreasurer _ c s' hclose _ _ _ _ _ _ hsize
    have hchecked : CloseChecked programId clock l i j tr t s tre c s' :=
      ⟨⟨hsigned, hs, hsize⟩, htre, htreasurer, hclose⟩
    -- the record is written; the two lamport moves may each overflow
    refine ⟨fun moved hmoved => ⟨fun after hafter => ?_, fun hnone => ?_⟩, fun hnone => ?_⟩
    · exact ⟨i, j, tr, t, s, tre, c, s', moved, rfl, rfl, rfl, rfl, hchecked, hmoved, hafter⟩
    · exact .inr ⟨i, j, tr, t, s, tre, c, s', rfl, rfl, rfl, rfl, hchecked, .inr ⟨moved, hmoved, hnone, rfl⟩⟩
    · exact .inr ⟨i, j, tr, t, s, tre, c, s', rfl, rfl, rfl, rfl, hchecked, .inl ⟨hnone, rfl⟩⟩
  next => simp only [ends_bind, ends_refuse, true_or]

end MoneyStream.Processor
