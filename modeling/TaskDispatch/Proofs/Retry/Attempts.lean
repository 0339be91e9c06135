import TaskDispatch.Task.Message

/-!
# Attempts at a task

What failures make of a message. A failure leaves its text, and as long as retries are left it is
counted; when none is left the count stays, so it never exceeds a limit that it did not exceed at
first, and the machine word never overflows.
-/

namespace TaskDispatch

set_option autoImplicit false

namespace TaskMessage

def retriesLeft (message : TaskMessage) : Nat := message.retry.toNat - message.retried.toNat

def afterFailure (message : TaskMessage) (text : String) : TaskMessage :=
  let failed := { message with errorMessage := some text }
  if failed.retryExhausted then failed else { failed with retried := failed.retried + 1 }

def afterFailures (message : TaskMessage) (texts : List String) : TaskMessage :=
  texts.foldl afterFailure message

theorem exhausted_iff {message : TaskMessage} :
    message.retryExhausted = true ↔ message.retriesLeft = 0 := by
  unfold retryExhausted retriesLeft
  rw [decide_eq_true_eq, UInt32.le_iff_toNat_le]
  omega

/-- Counting another retry is exact while retries are left. -/
theorem retried_succ {message : TaskMessage} (left : 0 < message.retriesLeft) :
    (message.retried + 1).toNat = message.retried.toNat + 1 := by
  have limit := message.retry.toNat_lt
  have room : message.retried.toNat + 1 < 2 ^ 32 := by
    unfold retriesLeft at left
    omega
  rw [UInt32.toNat_add, UInt32.toNat_one, Nat.mod_eq_of_lt room]

theorem after_failure_id (message : TaskMessage) (text : String) :
    (message.afterFailure text).id = message.id := by
  unfold afterFailure
  dsimp only
  split <;> rfl

theorem after_failure_error (message : TaskMessage) (text : String) :
    (message.afterFailure text).errorMessage = some text := by
  unfold afterFailure
  dsimp only
  split <;> rfl

/-- A failure changes the text and the count of retries, and nothing else. -/
theorem after_failure_rest (message : TaskMessage) (text : String) :
    message.afterFailure text =
      { message with
        retried := (message.afterFailure text).retried
        errorMessage := (message.afterFailure text).errorMessage } := by
  unfold afterFailure
  dsimp only
  split <;> rfl

theorem after_failure_retried (message : TaskMessage) (text : String) :
    (message.afterFailure text).retried.toNat =
      message.retried.toNat + min 1 message.retriesLeft := by
  have same : ({ message with errorMessage := some text } : TaskMessage).retriesLeft =
      message.retriesLeft := rfl
  unfold afterFailure
  dsimp only
  split
  case isTrue exhausted =>
    rw [exhausted_iff, same] at exhausted
    simp [exhausted]
  case isFalse unexhausted =>
    rw [exhausted_iff, same] at unexhausted
    have left : 0 < message.retriesLeft := Nat.pos_of_ne_zero unexhausted
    rw [retried_succ left]
    omega

theorem after_failure_left (message : TaskMessage) (text : String) :
    (message.afterFailure text).retriesLeft = message.retriesLeft - 1 := by
  have retried := after_failure_retried message text
  have retry : (message.afterFailure text).retry = message.retry := by
    rw [after_failure_rest]
  unfold retriesLeft at retried ⊢
  rw [retry]
  omega

theorem after_failures_concat (message : TaskMessage) (texts : List String) (text : String) :
    message.afterFailures (texts ++ [text]) = (message.afterFailures texts).afterFailure text :=
  List.foldl_append

theorem after_failures_id (message : TaskMessage) (texts : List String) :
    (message.afterFailures texts).id = message.id := by
  induction texts generalizing message with
  | nil => rfl
  | cons text texts ih => exact (ih _).trans (after_failure_id message text)

theorem after_failures_left (message : TaskMessage) (texts : List String) :
    (message.afterFailures texts).retriesLeft = message.retriesLeft - texts.length := by
  induction texts generalizing message with
  | nil => rfl
  | cons text texts ih =>
      have rest : message.afterFailures (text :: texts) =
          (message.afterFailure text).afterFailures texts := rfl
      rw [rest, ih, after_failure_left, List.length_cons]
      omega

/-- As many retries are counted as there were failures, up to those that were left. -/
theorem after_failures_retried (message : TaskMessage) (texts : List String) :
    (message.afterFailures texts).retried.toNat =
      message.retried.toNat + min texts.length message.retriesLeft := by
  induction texts generalizing message with
  | nil => simp [afterFailures]
  | cons text texts ih =>
      have rest : message.afterFailures (text :: texts) =
          (message.afterFailure text).afterFailures texts := rfl
      rw [rest, ih, after_failure_retried, after_failure_left, List.length_cons]
      omega

/-- Of several failures the last one leaves its text, and beside the count nothing else changes. -/
theorem after_failures_rest (message : TaskMessage) (texts : List String) :
    message.afterFailures texts =
      { message with
        retried := (message.afterFailures texts).retried
        errorMessage := texts.getLast?.or message.errorMessage } := by
  induction texts generalizing message with
  | nil => rfl
  | cons text texts ih =>
      have rest : message.afterFailures (text :: texts) =
          (message.afterFailure text).afterFailures texts := rfl
      have last : texts.getLast?.or (message.afterFailure text).errorMessage =
          (text :: texts).getLast?.or message.errorMessage := by
        rw [after_failure_error, List.getLast?_cons]
        cases texts.getLast? <;> rfl
      rw [rest, ih, last, after_failure_rest]

end TaskMessage

end TaskDispatch
