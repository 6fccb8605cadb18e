import MoneyStream.Negotiation
/-! # Operations on a stream record

The calls a party makes on a stream record once it exists, as one type. Performing one at a
clock either yields the new record (and, for closing, the settlement) or is refused, and a
refused call leaves the record as it was. A run performs calls in order and keeps the record
through the refused ones, which is how "any sequence of calls, failed ones included" reads.
-/
namespace MoneyStream

inductive Operation where
  | addFunds (initiator : Pubkey) (amount : UInt64) (resume : Bool)
  | withdraw (initiator : Pubkey) (amount : UInt64)
  | pause (initiator : Pubkey)
  | resume (initiator : Pubkey)
  | close (initiator : Pubkey)
  | proposeUpdate (initiator : Pubkey) (terms : Terms)
  | answerUpdate (initiator : Pubkey) (approve : Bool)
  deriving DecidableEq, Repr

namespace Operation

def initiator : Operation → Pubkey
  | .addFunds who _ _ | .withdraw who _ | .pause who | .resume who | .close who
  | .proposeUpdate who _ | .answerUpdate who _ => who

def apply (op : Operation) (s : Stream) (clock : Clock) : Except Fault (Option Settlement × Stream) :=
  let plain (r : Except StreamError Stream) : Except Fault (Option Settlement × Stream) :=
    (r.mapError Fault.program).map fun s2 => (none, s2)
  match op with
  | .addFunds who amount thenResume => plain (s.addFunds who amount thenResume clock)
  | .withdraw who amount => plain (s.withdraw who amount clock)
  | .pause who => plain (s.pause who clock)
  | .resume who => plain (s.resume who clock)
  | .close who => (s.close who clock).map fun (c, s') => (some c, s')
  | .proposeUpdate who terms => plain (s.proposeUpdate who terms)
  | .answerUpdate who approve => plain (s.answerUpdate who approve clock)

/-- The outcome of the call and the record after it: a refused call keeps the record. -/
def perform (op : Operation) (s : Stream) (clock : Clock) : Except Fault (Option Settlement) × Stream :=
  match op.apply s clock with
  | .ok (c, s') => (.ok c, s')
  | .error f => (.error f, s)

theorem perform_error {op : Operation} {s : Stream} {clock : Clock} {f : Fault}
    (h : op.apply s clock = .error f) : op.perform s clock = (.error f, s) := by
  simp [perform, h]

theorem perform_ok {op : Operation} {s s' : Stream} {clock : Clock} {c : Option Settlement}
    (h : op.apply s clock = .ok (c, s')) : op.perform s clock = (.ok c, s') := by
  simp [perform, h]

end Operation

namespace Stream

/-- The record after a run of calls, each at its clock, refused calls included. -/
def replay (s : Stream) (run : List (Clock × Operation)) : Stream :=
  run.foldl (fun s (clock, op) => (op.perform s clock).2) s

theorem replay_nil (s : Stream) : s.replay [] = s := rfl

theorem replay_cons (s : Stream) (clock : Clock) (op : Operation) (run : List (Clock × Operation)) :
    s.replay ((clock, op) :: run) = (op.perform s clock).2.replay run := rfl

theorem replay_append (s : Stream) (run run' : List (Clock × Operation)) :
    s.replay (run ++ run') = (s.replay run).replay run' :=
  List.foldl_append

end Stream

end MoneyStream
