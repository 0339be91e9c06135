import TaskDispatch.Json.Codec

/-!
# The lifecycle of a processor

A processor is created, runs, terminates and is terminated, each state once and in this order.
-/

namespace TaskDispatch

set_option autoImplicit false

inductive ProcessorState where
  | created
  | running
  | terminating
  | terminated
  deriving DecidableEq, Repr, Inhabited

namespace ProcessorState

def canBecome : ProcessorState → ProcessorState → Bool
  | .created, .running => true
  | .running, .terminating => true
  | .terminating, .terminated => true
  | _, _ => false

def isTerminal : ProcessorState → Bool
  | .terminated => true
  | _ => false

def display : ProcessorState → String
  | .created => "created"
  | .running => "running"
  | .terminating => "terminating"
  | .terminated => "terminated"

def name : ProcessorState → String
  | .created => "Created"
  | .running => "Running"
  | .terminating => "Terminating"
  | .terminated => "Terminated"

def all : List ProcessorState := [.created, .running, .terminating, .terminated]

open Json in
def ofName (name : String) : Except Cause ProcessorState :=
  match all.find? fun state => state.name = name with
  | some state => .ok state
  | none => .error (.unknownVariant name (all.map ProcessorState.name))

open Json in
/-- A state is given by its name, or as an object with the name as its only key and null as the
value. -/
def ofTree : Json → Except Cause ProcessorState
  | .text name => ofName name
  | .object members =>
      match membersByKey members with
      | [(name, content)] => do
          let state ← ofName name
          match content with
          | .null => .ok state
          | other => .error (.invalidType other.found "unit")
      | _ => .error (.invalidValue .map "map with a single key")
  | other => .error (.invalidType other.found "string or map")

def json (state : ProcessorState) : String :=
  (Bytes.toText? (Json.writeString state.name)).getD ""

end ProcessorState

inductive LifecycleError where
  | invalidTransition (source target : ProcessorState)
  deriving DecidableEq, Repr

def LifecycleError.message : LifecycleError → String
  | .invalidTransition source target =>
      "processor cannot go from " ++ source.display ++ " to " ++ target.display

def ProcessorState.ensureCanBecome (source target : ProcessorState) :
    Except LifecycleError Unit :=
  if source.canBecome target then .ok () else .error (.invalidTransition source target)

end TaskDispatch
