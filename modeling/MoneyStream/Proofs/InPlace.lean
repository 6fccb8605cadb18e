import MoneyStream.InPlace
import MoneyStream.Proofs.Steps
/-! # Calls in place end as their value forms do

A call made in place writes fields of the record one after another and may stop with an error
part-way. Each call is shown to end exactly as its value form: on success with the record the
value form returns, and on an error with the error of the value form and the record as it was
before the call. The proofs run the in-place call symbolically with the `run_` lemmas below and
split where the value form does; the copy-then-write-back blocks are folded into `writeBack`
first, so that an error inside them is seen to be dropped together with the copy.
-/
namespace MoneyStream

section Values

variable {ε α β : Type}

@[simp] theorem except_throw (e : ε) : (throw e : Except ε α) = .error e := rfl

@[simp] theorem except_pure (a : α) : (pure a : Except ε α) = .ok a := rfl

@[simp] theorem except_error_bind (e : ε) (f : α → Except ε β) : (Except.error e >>= f) = .error e :=
  rfl

@[simp] theorem except_ok_bind (a : α) (f : α → Except ε β) : (Except.ok a >>= f) = f a := rfl

end Values

namespace Method

variable {ε α β : Type}

@[simp] theorem run_bind (x : Method ε α) (f : α → Method ε β) (s : Stream) :
    (x >>= f).run s = match x.run s with
      | .ok a s' => (f a).run s'
      | .error e s' => .error e s' := by
  simp only [EStateM.run, bind, EStateM.bind]
  cases x s <;> rfl

@[simp] theorem run_map (f : α → β) (x : Method ε α) (s : Stream) :
    (f <$> x).run s = match x.run s with
      | .ok a s' => .ok (f a) s'
      | .error e s' => .error e s' := by
  simp only [EStateM.run, Functor.map, EStateM.map]
  cases x s <;> rfl

@[simp] theorem run_adaptExcept {ε' : Type} (g : ε → ε') (x : Method ε α) (s : Stream) :
    (x.adaptExcept g).run s = match x.run s with
      | .ok a s' => .ok a s'
      | .error e s' => .error (g e) s' := by
  simp only [EStateM.run, EStateM.adaptExcept]
  cases x s <;> rfl

@[simp] theorem run_get (s : Stream) : (get : Method ε Stream).run s = .ok s s := rfl

@[simp] theorem run_set (s s' : Stream) : (set s' : Method ε PUnit).run s = .ok ⟨⟩ s' := rfl

@[simp] theorem run_modify (f : Stream → Stream) (s : Stream) :
    (modify f : Method ε PUnit).run s = .ok ⟨⟩ (f s) := rfl

@[simp] theorem run_pure (a : α) (s : Stream) : (pure a : Method ε α).run s = .ok a s := rfl

@[simp] theorem run_throw (e : ε) (s : Stream) : (throw e : Method ε α).run s = .error e s := rfl

@[simp] theorem run_ite {c : Prop} [Decidable c] (x y : Method ε α) (s : Stream) :
    (if c then x else y).run s = if c then x.run s else y.run s := by
  split <;> rfl

@[simp] theorem run_check (x : Except ε α) (s : Stream) :
    (check x).run s = match x with
      | .ok a => .ok a s
      | .error e => .error e s := by
  cases x <;> rfl

@[simp] theorem run_okOr (x : Option α) (e : ε) (s : Stream) :
    (okOr x e).run s = match x with
      | some a => .ok a s
      | none => .error e s := by
  cases x <;> rfl

@[simp] theorem run_onCopy (m : Method ε Unit) (s : Stream) :
    (onCopy m).run s = match m.run s with
      | .ok _ c => .ok c s
      | .error e _ => .error e s := rfl

/-- The end in place of a call whose value form gives `r` on the record `s`: the new record,
or the error with `s` as it was. -/
def resultOf (r : Except ε Stream) (s : Stream) : EStateM.Result ε Stream Unit :=
  match r with
  | .ok s' => .ok () s'
  | .error e => .error e s

@[simp] theorem resultOf_ok (s s' : Stream) : resultOf (.ok s' : Except ε Stream) s = .ok () s' :=
  rfl

@[simp] theorem resultOf_error (e : ε) (s : Stream) :
    resultOf (.error e : Except ε Stream) s = .error e s := rfl

@[simp] theorem resultOf_ite {c : Prop} [Decidable c] (x y : Except ε Stream) (s : Stream) :
    resultOf (if c then x else y) s = if c then resultOf x s else resultOf y s := by
  split <;> rfl

def outcome : EStateM.Result ε Stream Unit → Except ε Stream
  | .ok _ s => .ok s
  | .error e _ => .error e

@[simp] theorem outcome_ok (s : Stream) :
    outcome (.ok () s : EStateM.Result ε Stream Unit) = .ok s := rfl

@[simp] theorem outcome_error (e : ε) (s : Stream) :
    outcome (.error e s : EStateM.Result ε Stream Unit) = .error e := rfl

@[simp] theorem outcome_resultOf (r : Except ε Stream) (s : Stream) : outcome (resultOf r s) = r := by
  cases r <;> rfl

def writeBack (m : Method ε Unit) : Method ε Unit := fun s => resultOf (outcome (m.run s)) s

@[simp] theorem run_writeBack (m : Method ε Unit) (s : Stream) :
    (writeBack m).run s = resultOf (outcome (m.run s)) s := rfl

/-- Running a method on a copy and writing the copy back ends as the method ends, except that an
error leaves the record as it was. -/
theorem onCopy_bind_set (m : Method ε Unit) : (onCopy m >>= fun u => set u) = writeBack m := by
  funext s
  change (onCopy m >>= fun u => set u).run s = (writeBack m).run s
  simp only [run_bind, run_onCopy, run_writeBack]
  cases m.run s <;> rfl

theorem settleDepletion_run (clock : Clock) (s : Stream) :
    (settleDepletion clock).run s = resultOf (s.settleDepletion clock) s := by
  simp only [settleDepletion, Stream.settleDepletion, run_bind, run_get]
  split_ifs
  · rfl
  · simp only [run_bind, run_okOr, run_modify]
    cases Word.add? _ _ <;> rfl

theorem applyResume_run (clock : Clock) (s : Stream) :
    (applyResume clock).run s = resultOf (s.applyResume clock) s := by
  simp only [applyResume, Stream.applyResume, run_bind, run_get, run_okOr, run_modify]
  cases Word.add? _ _ <;> rfl

theorem addFunds_run (who : Pubkey) (amount : UInt64) (resume : Bool) (clock : Clock)
    (s : Stream) :
    (addFunds who amount resume clock).run s = resultOf (s.addFunds who amount resume clock) s := by
  simp only [addFunds, onCopy_bind_set]
  simp only [Stream.addFunds, run_bind, run_get]
  cases s.ensureOpen <;> simp
  by_cases h0 : amount = 0 <;> simp [h0]
  cases resume <;> cases s.ensureParty who <;> simp [settleDepletion_run]
  all_goals
    cases s.settleDepletion clock <;> simp
    split_ifs <;> cases Word.add? _ _ <;> simp [*, applyResume_run]

theorem withdraw_run (who : Pubkey) (amount : UInt64) (clock : Clock) (s : Stream) :
    (withdraw who amount clock).run s = resultOf (s.withdraw who amount clock) s := by
  simp only [withdraw, Stream.withdraw, run_bind, run_get]
  cases s.ensureOpen <;> simp
  split_ifs <;> cases Word.add? s.totalWithdrawals amount <;> rfl

theorem pause_run (who : Pubkey) (clock : Clock) (s : Stream) :
    (pause who clock).run s = resultOf (s.pause who clock) s := by
  simp only [pause, onCopy_bind_set]
  simp only [Stream.pause, run_bind, run_get]
  cases s.ensureOpen <;> cases s.ensureParty who <;> simp [settleDepletion_run]
  split_ifs
  · cases s.settleDepletion clock <;> simp
  · rfl

theorem resume_run (who : Pubkey) (clock : Clock) (s : Stream) :
    (resume who clock).run s = resultOf (s.resume who clock) s := by
  simp only [resume, Stream.resume, run_bind, run_get]
  cases s.ensureOpen <;> cases s.ensureParty who <;> simp
  cases s.state <;> simp [applyResume_run]

theorem close_run (who : Pubkey) (clock : Clock) (s : Stream) :
    (close who clock).run s = match s.close who clock with
      | .ok (c, s') => .ok c s'
      | .error f => .error f s := by
  simp only [close, Stream.close, run_bind, run_get]
  cases s.ensureOpen <;> cases s.ensureParty who <;> simp [Except.mapError]
  cases s.vesting clock.now <;> rfl

theorem proposeUpdate_run (who : Pubkey) (terms : Terms) (s : Stream) :
    (proposeUpdate who terms).run s = resultOf (s.proposeUpdate who terms) s := by
  simp only [proposeUpdate, Stream.proposeUpdate, run_bind, run_get]
  cases s.ensureOpen <;> cases s.counterpartyOf who <;> simp

theorem answerUpdate_run (who : Pubkey) (approve : Bool) (clock : Clock) (s : Stream) :
    (answerUpdate who approve clock).run s = resultOf (s.answerUpdate who approve clock) s := by
  simp only [answerUpdate, Stream.answerUpdate, run_bind, run_get]
  cases s.ensureOpen <;> cases s.pending <;> simp [settleDepletion_run]
  -- only an approval on a running stream settles and rebases a copy
  split_ifs
  · cases s.settleDepletion clock <;> rfl
  all_goals rfl

end Method

namespace Operation

theorem run_plain {m : Method StreamError Unit} {r : Except StreamError Stream} {s : Stream}
    (h : m.run s = Method.resultOf r s) :
    ((fun _ => (none : Option Settlement)) <$> m.adaptExcept Fault.program).run s =
      match (r.mapError Fault.program).map (fun s' => (none, s')) with
      | .ok (c, s') => .ok c s'
      | .error f => .error f s := by
  rw [Method.run_map, Method.run_adaptExcept, h]
  cases r <;> rfl

/-- Every call made in place ends as its value form: with the settlement and the new record,
or with the error and the record as it was. -/
theorem inPlace_run (op : Operation) (clock : Clock) (s : Stream) :
    (op.inPlace clock).run s = match op.apply s clock with
      | .ok (c, s') => .ok c s'
      | .error f => .error f s := by
  cases op with
  | addFunds who amount resume => exact run_plain (Method.addFunds_run who amount resume clock s)
  | withdraw who amount => exact run_plain (Method.withdraw_run who amount clock s)
  | pause who => exact run_plain (Method.pause_run who clock s)
  | resume who => exact run_plain (Method.resume_run who clock s)
  | close who =>
    simp only [inPlace, apply, Method.run_map, Method.close_run]
    cases s.close who clock <;> rfl
  | proposeUpdate who terms => exact run_plain (Method.proposeUpdate_run who terms s)
  | answerUpdate who approve => exact run_plain (Method.answerUpdate_run who approve clock s)

/-- A call refused in place leaves the record exactly as it was, with the error its value form
gives: each error exit of each call comes before its first write to the record, or is taken on
a copy that is then dropped. -/
theorem refused_call_keeps_record {op : Operation} {clock : Clock} {s s' : Stream} {f : Fault}
    (h : (op.inPlace clock).run s = .error f s') : s' = s ∧ op.apply s clock = .error f := by
  rw [inPlace_run] at h
  cases hr : op.apply s clock with
  | ok r =>
    obtain ⟨c, t⟩ := r
    simp [hr] at h
  | error e =>
    simp only [hr, EStateM.Result.error.injEq] at h
    exact ⟨h.2.symm, by rw [h.1]⟩

def pausedAtLimit : Stream :=
  { (default : Stream) with initialized := true, state := .paused, treasurer := Pubkey.zero,
                            pausedSeconds := 0xFFFFFFFFFFFFFFFF }

/-- Resuming `pausedAtLimit` five seconds in cannot add the pause to its paused total; the
overflow is refused after the pause has been measured, and the record is kept. -/
theorem resume_overflow_keeps_record :
    ((Operation.resume Pubkey.zero).inPlace ⟨0, 5⟩).run pausedAtLimit =
        .error (.program .overflow) pausedAtLimit ∧
      pausedAtLimit = pausedAtLimit ∧
        (Operation.resume Pubkey.zero).apply pausedAtLimit ⟨0, 5⟩ = .error (.program .overflow) := by
  have h : ((Operation.resume Pubkey.zero).inPlace ⟨0, 5⟩).run pausedAtLimit =
      .error (.program .overflow) pausedAtLimit := by rfl
  exact ⟨h, refused_call_keeps_record h⟩

end Operation

end MoneyStream
