import TaskDispatch.Sample.Handlers
import TaskDispatch.Simulation.Stage

/-!
# Scenarios of a registry

A sequence of registrations, questions and handled tasks on one registry.
-/

namespace TaskDispatch.Simulation

open Sample

set_option autoImplicit false

inductive RegistryStep where
  | register (taskType : TaskType) (handler : Handler Audience)
  | registerTyped (kind : PayloadKind)
  | handle (task : Task)
  | has (taskType : TaskType)
  | listTypes

/-- What a step brought; `handled` with the payloads that typed handlers were given in this step,
`types` sorted. -/
inductive RegistryAnswer where
  | registered (outcome : Except RegistryError Unit)
  | handled (result : Except TaskError Unit) (seen : List String)
  | present (found : Bool)
  | types (names : List TaskType)

structure RegistrySnapshot where
  answer : RegistryAnswer
  size : Nat
  isEmpty : Bool

structure RegistryScenario where
  registry : Registry Audience
  audience : Audience
  events : List Event

namespace RegistryScenario

def initial : RegistryScenario where
  registry := .empty
  audience := .empty
  events := []

def enter (outcome : Except RegistryError (Registry Audience)) (scenario : RegistryScenario) :
    RegistryAnswer × RegistryScenario :=
  match outcome with
  | .ok registry => (.registered (.ok ()), { scenario with registry := registry })
  | .error error => (.registered (.error error), scenario)

def act (step : RegistryStep) (scenario : RegistryScenario) :
    RegistryAnswer × RegistryScenario :=
  match step with
  | .register taskType handler =>
      scenario.enter (scenario.registry.register taskType handler)
  | .registerTyped kind => scenario.enter (kind.register scenario.registry)
  | .handle task =>
      let (call, audience) := scenario.registry.handler task { scenario.audience with seen := [] }
      (.handled call.verdict.result audience.seen,
        { scenario with
          audience := audience
          events := scenario.events ++ call.before ++ call.after })
  | .has taskType => (.present (scenario.registry.get? taskType).isSome, scenario)
  | .listTypes =>
      (.types (scenario.registry.types.mergeSort fun left right => decide (left ≤ right)),
        scenario)

def perform : List RegistryStep → RegistryScenario → List RegistrySnapshot × RegistryScenario
  | [], scenario => ([], scenario)
  | step :: steps, scenario =>
      let (answer, scenario) := scenario.act step
      let snapshot : RegistrySnapshot :=
        { answer := answer
          size := scenario.registry.size
          isEmpty := scenario.registry.isEmpty }
      let (snapshots, scenario) := perform steps scenario
      (snapshot :: snapshots, scenario)

def run (steps : List RegistryStep) : List RegistrySnapshot × List String :=
  let (snapshots, scenario) := perform steps initial
  (snapshots, scenario.events.map (Event.text Stage.wall))

end RegistryScenario

end TaskDispatch.Simulation
