import TaskDispatch.Json.Record

/-!
# Queue counts

How many messages are in each part of a queue.
-/

namespace TaskDispatch

set_option autoImplicit false

structure QueueCounts where
  pending : Nat
  inProgress : Nat
  scheduled : Nat
  dead : Nat
  done : Nat
  deriving DecidableEq, Repr, Inhabited

namespace QueueCounts

/-- Nothing is left to run, now or later. -/
def isSettled (counts : QueueCounts) : Bool :=
  counts.pending = 0 && counts.inProgress = 0 && counts.scheduled = 0

open Json

def codec : Codec QueueCounts :=
  .record
    { expected := "struct QueueCounts"
      lengthText := "struct QueueCounts with 5 elements"
      fields :=
        .cons "pending" .required .size <|
        .cons "in_progress" .required .size <|
        .cons "scheduled" .required .size <|
        .cons "dead" .required .size <|
        .cons "done" .required .size .nil
      closed := false }
    (fun (pending, inProgress, scheduled, dead, done, ()) =>
      .ok
        { pending := pending.toNat
          inProgress := inProgress.toNat
          scheduled := scheduled.toNat
          dead := dead.toNat
          done := done.toNat })
    (fun counts =>
      (UInt64.ofNat counts.pending, UInt64.ofNat counts.inProgress,
        UInt64.ofNat counts.scheduled, UInt64.ofNat counts.dead, UInt64.ofNat counts.done, ()))

end QueueCounts

end TaskDispatch
