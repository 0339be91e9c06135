import TaskDispatch.Proofs.Worker.Ledger

/-!
# The chronicle of a service

A course tells which messages are handed over and given back; the chronicle of a service tells how
the executions went: when a handler was called, and with which result its runner reported. From a
chronicle one reads the results of every message in their order, and how often it was executed.
-/

namespace TaskDispatch

set_option autoImplicit false

/-- What a step contributes to the history of the messages: others acted, a handler was called for a
message, or the runner of a message reported a result. -/
inductive Episode (α : Type) where
  | outside (action : α)
  | called (message : TaskMessage)
  | concluded (message : TaskMessage) (result : Except TaskError Unit)

def Runner.episode? {α : Type} (runner : Runner) : Option (Episode α) :=
  match runner.stage with
  | .ready => some (.called runner.message)
  | .reporting result => some (.concluded runner.message result)
  | _ => none

namespace Service

variable {β η α : Type}

def episode? (service : Service β η) : Move α → Option (Episode α)
  | .runner ticket _ _ => (service.processor.crew.runnerOf? ticket).bind Runner.episode?
  | .outside action => some (.outside action)
  | _ => none

def episodes (setting : Setting β η α) (index : Nat) :
    List (Move α) → Service β η → List (Episode α)
  | [], _ => []
  | move :: moves, service =>
      (service.episode? move).toList
        ++ match service.after? setting index move with
          | none => []
          | some later => episodes setting index moves later

end Service

section Chronicles

variable {β η α : Type}

inductive Chronicle (setting : Setting β η α) (index : Nat) (origin : Service β η) :
    List (Episode α) → Service β η → Prop where
  | begin : Chronicle setting index origin [] origin
  | next {history : List (Episode α)} {service later : Service β η}
      (chronicle : Chronicle setting index origin history service) (move : Move α)
      (moved : service.after? setting index move = some later) :
      Chronicle setting index origin (history ++ (service.episode? move).toList) later

variable {setting : Setting β η α} {index : Nat} {origin service last : Service β η}
  {history early late : List (Episode α)}

theorem chronicle_trans (first : Chronicle setting index origin early service)
    (second : Chronicle setting index service late last) :
    Chronicle setting index origin (early ++ late) last := by
  induction second with
  | begin =>
      rw [List.append_nil]
      exact first
  | next chronicle move moved ih =>
      rw [← List.append_assoc]
      exact .next ih move moved

/-- A run that can be computed has a chronicle. -/
theorem chronicle_of_run {moves : List (Move α)} {deeds : List (Deed α)}
    (ran : origin.run setting index moves = some (deeds, last)) :
    Chronicle setting index origin (origin.episodes setting index moves) last := by
  induction moves generalizing origin deeds with
  | nil =>
      simp only [Service.run, Option.some.injEq, Prod.mk.injEq] at ran
      rw [← ran.2]
      exact .begin
  | cons move moves ih =>
      simp only [Service.run, Option.bind_eq_bind, Option.bind_eq_some_iff, Prod.exists,
        Option.some.injEq, Prod.mk.injEq] at ran
      obtain ⟨later, moved, rest, _, ranOn, _, rfl⟩ := ran
      have single : Chronicle setting index origin (origin.episode? move).toList later := by
        simpa using Chronicle.next Chronicle.begin move moved
      rw [Service.episodes, moved]
      exact chronicle_trans single (ih ranOn)

end Chronicles

namespace Episode

def enqueued? : Episode TaskMessage → Option TaskMessage
  | .outside message => some message
  | _ => none

/-- The result that is reported of a message: an error counts by its text. -/
def resultOf? (id : TaskId) : Episode TaskMessage → Option (Except String Unit)
  | .concluded message result =>
      if message.id = id then some (result.mapError TaskError.message) else none
  | _ => none

def failureOf? (id : TaskId) : Episode TaskMessage → Option String
  | .concluded message (.error error) =>
      if message.id = id then some error.message else none
  | _ => none

def completed? : Episode TaskMessage → Option TaskId
  | .concluded message (.ok ()) => some message.id
  | _ => none

def isCallOf (id : TaskId) : Episode TaskMessage → Bool
  | .called message => message.id = id
  | _ => false

end Episode

namespace History

def enqueued (history : List (Episode TaskMessage)) : List TaskMessage :=
  history.filterMap Episode.enqueued?

def results (id : TaskId) (history : List (Episode TaskMessage)) : List (Except String Unit) :=
  history.filterMap (Episode.resultOf? id)

def failures (id : TaskId) (history : List (Episode TaskMessage)) : List String :=
  history.filterMap (Episode.failureOf? id)

def completed (history : List (Episode TaskMessage)) : List TaskId :=
  history.filterMap Episode.completed?

def executions (id : TaskId) (history : List (Episode TaskMessage)) : Nat :=
  history.countP (Episode.isCallOf id)

end History

end TaskDispatch
