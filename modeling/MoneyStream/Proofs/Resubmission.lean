import MoneyStream.Client
/-! # Reading again and resubmitting

The client's submission loop, described by the exchanges it may have with its environment. An
attempt reads the stream's account, decodes the record, builds calls on it and submits them; an
error of the reader, of decoding or of the build callback ends the loop with that error and
nothing submitted, an accepted submission ends it with its signature, and a rejected one ends it
unless the rejection asks for a fresh read and attempts are left, in which case the next attempt
reads again. `Exchange` states these rules; the loop has exactly the exchange they allow
(`submitWithRefresh_exchange`), and every such exchange submits at most `max 1 maxAttempts`
times.
-/
namespace MoneyStream

section

variable (reads : Nat → AccountReader) (build : Nat → Stream → Except Fault (List Call))
  (submit : Submitter) (address : Pubkey)

def ReadsRecord (k : Nat) (s : Stream) : Prop :=
  ∃ data, reads k address = .ok (some data) ∧ Stream.decode data = .ok s

/-- The exchanges the loop may have from its attempt after `k` earlier ones, when `m` attempts
are allowed: the calls it makes on its environment, in order, and its result. -/
inductive Exchange (m : Nat) : Nat → List ClientCall → Except Rejection String → Prop where
  | readFails {k : Nat} {f : Fault} : reads k address = .error f →
      Exchange m k [.read address] (.error (.ofFault f))
  | undecodable {k : Nat} {data : List UInt8} {e : StreamError} :
      reads k address = .ok (some data) → Stream.decode data = .error e →
      Exchange m k [.read address] (.error (.ofFault (.program e)))
  | missing {k : Nat} : reads k address = .ok none →
      Exchange m k [.read address] (.error (.program .streamNotInitialized))
  | buildFails {k : Nat} {s : Stream} {f : Fault} : ReadsRecord reads address k s →
      build k s = .error f → Exchange m k [.read address, .build s] (.error (.ofFault f))
  | accepted {k : Nat} {s : Stream} {calls : List Call} {signature : String} :
      ReadsRecord reads address k s → build k s = .ok calls → submit k calls = .ok signature →
      Exchange m k [.read address, .build s, .submit calls] (.ok signature)
  | rejected {k : Nat} {s : Stream} {calls : List Call} {r : Rejection} :
      ReadsRecord reads address k s → build k s = .ok calls → submit k calls = .error r →
      (r.recovery ≠ .rereadAndRetry ∨ m ≤ k + 1) →
      Exchange m k [.read address, .build s, .submit calls] (.error r)
  | retried {k : Nat} {s : Stream} {calls : List Call} {r : Rejection} {log : List ClientCall}
      {res : Except Rejection String} :
      ReadsRecord reads address k s → build k s = .ok calls → submit k calls = .error r →
      r.recovery = .rereadAndRetry → k + 1 < m → Exchange m (k + 1) log res →
      Exchange m k ([.read address, .build s, .submit calls] ++ log) res

variable {reads build submit address}

section Fetch

variable {read : AccountReader} {data : List UInt8}

theorem fetchStream_of_error {f : Fault} (h : read address = .error f) :
    fetchStream read address = .error f := by
  simp only [fetchStream, h]; rfl

theorem fetchStream_of_none (h : read address = .ok none) : fetchStream read address = .ok none := by
  simp only [fetchStream, h]; rfl

theorem fetchStream_of_undecodable {e : StreamError} (h : read address = .ok (some data))
    (hd : Stream.decode data = .error e) : fetchStream read address = .error (.program e) := by
  simp only [fetchStream, h]
  show some <$> (Stream.decode data).mapError Fault.program = _
  rw [hd]; rfl

theorem fetchStream_of_decoded {s : Stream} (h : read address = .ok (some data))
    (hd : Stream.decode data = .ok s) : fetchStream read address = .ok (some s) := by
  simp only [fetchStream, h]
  show some <$> (Stream.decode data).mapError Fault.program = _
  rw [hd]; rfl

end Fetch

theorem attempt_of_readFails {k : Nat} {f : Fault} (h : reads k address = .error f) :
    attempt reads build submit address k = ([.read address], .refused (.ofFault f)) := by
  simp only [attempt, fetchStream_of_error h]

theorem attempt_of_undecodable {k : Nat} {data : List UInt8} {e : StreamError}
    (h : reads k address = .ok (some data)) (hd : Stream.decode data = .error e) :
    attempt reads build submit address k = ([.read address], .refused (.ofFault (.program e))) := by
  simp only [attempt, fetchStream_of_undecodable h hd]

theorem attempt_of_missing {k : Nat} (h : reads k address = .ok none) :
    attempt reads build submit address k = ([.read address], .refused (.program .streamNotInitialized)) := by
  simp only [attempt, fetchStream_of_none h]

theorem attempt_of_buildFails {k : Nat} {s : Stream} {f : Fault} (h : ReadsRecord reads address k s)
    (hb : build k s = .error f) :
    attempt reads build submit address k = ([.read address, .build s], .refused (.ofFault f)) := by
  obtain ⟨data, hr, hd⟩ := h
  simp only [attempt, fetchStream_of_decoded hr hd, hb]

theorem attempt_of_built {k : Nat} {s : Stream} {calls : List Call} {answer : Except Rejection String}
    (h : ReadsRecord reads address k s) (hb : build k s = .ok calls) (hsub : submit k calls = answer) :
    attempt reads build submit address k = ([.read address, .build s, .submit calls], .answered answer) := by
  obtain ⟨data, hr, hd⟩ := h
  simp only [attempt, fetchStream_of_decoded hr hd, hb, hsub]

theorem attempt_cases (reads : Nat → AccountReader) (build : Nat → Stream → Except Fault (List Call))
    (address : Pubkey) (k : Nat) :
    (∃ f, reads k address = .error f) ∨
    (∃ data e, reads k address = .ok (some data) ∧ Stream.decode data = .error e) ∨
    reads k address = .ok none ∨
    (∃ s f, ReadsRecord reads address k s ∧ build k s = .error f) ∨
    (∃ s calls, ReadsRecord reads address k s ∧ build k s = .ok calls) := by
  rcases hr : reads k address with f | _ | data
  · exact .inl ⟨f, rfl⟩
  · exact .inr (.inr (.inl rfl))
  rcases hd : Stream.decode data with e | s
  · exact .inr (.inl ⟨data, e, rfl, hd⟩)
  rcases hb : build k s with f | calls
  · exact .inr (.inr (.inr (.inl ⟨s, f, ⟨data, hr, hd⟩, hb⟩)))
  · exact .inr (.inr (.inr (.inr ⟨s, calls, ⟨data, hr, hd⟩, hb⟩)))

theorem submitLoop_of_refused {n k : Nat} {calls : List ClientCall} {r : Rejection}
    (h : attempt reads build submit address k = (calls, .refused r)) :
    submitLoop reads build submit address n k = ⟨.error r, calls⟩ := by
  cases n <;> simp [submitLoop, h]

theorem submitLoop_of_accepted {n k : Nat} {calls : List ClientCall} {signature : String}
    (h : attempt reads build submit address k = (calls, .answered (.ok signature))) :
    submitLoop reads build submit address n k = ⟨.ok signature, calls⟩ := by
  cases n <;> simp [submitLoop, h]

theorem submitLoop_of_rejected {n k : Nat} {calls : List ClientCall} {r : Rejection}
    (h : attempt reads build submit address k = (calls, .answered (.error r)))
    (hstop : r.recovery ≠ .rereadAndRetry ∨ n = 0) :
    submitLoop reads build submit address n k = ⟨.error r, calls⟩ := by
  cases n with
  | zero => simp [submitLoop, h]
  | succ n =>
    have hr : r.recovery ≠ .rereadAndRetry := by simpa using hstop
    simp [submitLoop, h, hr]

theorem submitLoop_of_retried {n k : Nat} {calls : List ClientCall} {r : Rejection}
    (h : attempt reads build submit address k = (calls, .answered (.error r)))
    (hretry : r.recovery = .rereadAndRetry) :
    submitLoop reads build submit address (n + 1) k =
      ⟨(submitLoop reads build submit address n (k + 1)).result,
        calls ++ (submitLoop reads build submit address n (k + 1)).log⟩ := by
  rw [submitLoop]
  simp [h, hretry]

/-- One attempt of the loop follows the rules, given that the loop after it does. With `n`
attempts left after the `k`-th of `m` (at least one), a retry is allowed exactly when `n > 0`. -/
theorem exchange_of_attempt {m n k : Nat} (hn : n + k + 1 = max 1 m)
    (next : ∀ n', n = n' + 1 → Exchange reads build submit address m (k + 1)
      (submitLoop reads build submit address n' (k + 1)).log
      (submitLoop reads build submit address n' (k + 1)).result) :
    Exchange reads build submit address m k (submitLoop reads build submit address n k).log
      (submitLoop reads build submit address n k).result := by
  rcases attempt_cases reads build address k with
    ⟨f, hr⟩ | ⟨data, e, hr, hd⟩ | hr | ⟨s, f, hs, hb⟩ | ⟨s, calls, hs, hb⟩
  · rw [submitLoop_of_refused (attempt_of_readFails hr)]
    exact .readFails hr
  · rw [submitLoop_of_refused (attempt_of_undecodable hr hd)]
    exact .undecodable hr hd
  · rw [submitLoop_of_refused (attempt_of_missing hr)]
    exact .missing hr
  · rw [submitLoop_of_refused (attempt_of_buildFails hs hb)]
    exact .buildFails hs hb
  · rcases hsub : submit k calls with r | signature
    · have ha := attempt_of_built hs hb hsub
      by_cases hretry : r.recovery = .rereadAndRetry
      · -- a rejection that asks for a fresh read: retried while attempts are left
        cases n with
        | zero =>
          rw [submitLoop_of_rejected ha (.inr rfl)]
          exact .rejected hs hb hsub (.inr (by omega))
        | succ n =>
          rw [submitLoop_of_retried ha hretry]
          exact .retried hs hb hsub hretry (by omega) (next n rfl)
      · rw [submitLoop_of_rejected ha (.inl hretry)]
        exact .rejected hs hb hsub (.inl hretry)
    · rw [submitLoop_of_accepted (attempt_of_built hs hb hsub)]
      exact .accepted hs hb hsub

theorem exchange_submitLoop {m : Nat} (n k : Nat) (hn : n + k + 1 = max 1 m) :
    Exchange reads build submit address m k (submitLoop reads build submit address n k).log
      (submitLoop reads build submit address n k).result := by
  induction n generalizing k with
  | zero => exact exchange_of_attempt hn fun n' h => absurd h (by omega)
  | succ n ih =>
    refine exchange_of_attempt hn fun n' h => ?_
    cases h
    exact ih (k + 1) (by omega)

theorem submitLoop_of_exchange {m k : Nat} {log : List ClientCall} {res : Except Rejection String}
    (h : Exchange reads build submit address m k log res) {n : Nat} (hn : n + k + 1 = max 1 m) :
    submitLoop reads build submit address n k = ⟨res, log⟩ := by
  induction h generalizing n with
  | readFails hr => exact submitLoop_of_refused (attempt_of_readFails hr)
  | undecodable hr hd => exact submitLoop_of_refused (attempt_of_undecodable hr hd)
  | missing hr => exact submitLoop_of_refused (attempt_of_missing hr)
  | buildFails hs hb => exact submitLoop_of_refused (attempt_of_buildFails hs hb)
  | accepted hs hb hsub => exact submitLoop_of_accepted (attempt_of_built hs hb hsub)
  | rejected hs hb hsub hstop =>
    exact submitLoop_of_rejected (attempt_of_built hs hb hsub) (hstop.imp id fun _ => by omega)
  | retried hs hb hsub hretry hk _ ih =>
    obtain ⟨n, rfl⟩ : ∃ n', n = n' + 1 := ⟨n - 1, by omega⟩
    rw [submitLoop_of_retried (attempt_of_built hs hb hsub) hretry, ih (by omega)]

/-- Every exchange the rules allow from the attempt after `k` earlier ones submits at most once
per attempt left. -/
theorem Exchange.submissions_le {m k : Nat} {log : List ClientCall} {res : Except Rejection String}
    (h : Exchange reads build submit address m k log res) (hk : k < max 1 m) :
    (log.filterMap ClientCall.submitted?).length + k ≤ max 1 m := by
  induction h with
  | readFails | undecodable | missing | buildFails =>
    simp only [List.filterMap_cons, List.filterMap_nil, ClientCall.submitted?, List.length_nil]
    omega
  | accepted | rejected =>
    simp only [List.filterMap_cons, List.filterMap_nil, ClientCall.submitted?, List.length_cons,
      List.length_nil]
    omega
  | retried _ _ _ _ hlt _ ih =>
    have := ih (by omega)
    simp only [List.cons_append, List.nil_append, List.filterMap_cons, ClientCall.submitted?,
      List.length_cons]
    omega

/-- The submission loop does what the rules allow and nothing else. For any configuration, any
behaviour of the reader and the submitter, answering each call as they please, and any build
callback: the loop's calls and result are the one exchange `Exchange` allows from the first
attempt with `maxAttempts` attempts. So every submission comes right after one read of the
address and one build on the record just decoded; an error of the reader, of decoding or of
the build is returned as its rejection with nothing submitted; the first accepted submission
ends the loop with its signature; a rejection ends it as soon as it does not ask for a fresh
read or the attempts are used up; and there are at most `max 1 maxAttempts` submissions. -/
theorem submitWithRefresh_exchange (c : ClientConfig) (reads : Nat → AccountReader) (submit : Submitter)
    (address : Pubkey) (build : Nat → Stream → Except Fault (List Call)) :
    let o := submitWithRefresh c reads submit address build
    (∀ log res, Exchange reads build submit address c.maxAttempts.toNat 0 log res ↔
      o.log = log ∧ o.result = res) ∧
    o.submissions.length ≤ max 1 c.maxAttempts.toNat := by
  intro o
  have hn : c.maxAttempts.toNat - 1 + 0 + 1 = max 1 c.maxAttempts.toNat := by omega
  have hex : Exchange reads build submit address c.maxAttempts.toNat 0 o.log o.result :=
    exchange_submitLoop _ 0 hn
  refine ⟨fun log res => ⟨fun h => ?_, fun ⟨hl, hr⟩ => hl ▸ hr ▸ hex⟩, ?_⟩
  · have ho : o = ⟨res, log⟩ := submitLoop_of_exchange h hn
    rw [ho]
    exact ⟨rfl, rfl⟩
  · have := hex.submissions_le (by omega)
    exact Nat.le_of_add_right_le this

end

end MoneyStream
