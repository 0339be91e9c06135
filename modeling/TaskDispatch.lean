import TaskDispatch.Config
import TaskDispatch.Handling.Handler
import TaskDispatch.Handling.Payload
import TaskDispatch.Handling.Registry
import TaskDispatch.Json.Cause
import TaskDispatch.Json.Codec
import TaskDispatch.Json.Cursor
import TaskDispatch.Json.Literal
import TaskDispatch.Json.Record
import TaskDispatch.Json.Skip
import TaskDispatch.Json.Tree
import TaskDispatch.Json.Value
import TaskDispatch.Lifecycle
import TaskDispatch.Number.Binary64
import TaskDispatch.Number.Rounding
import TaskDispatch.Number.ShortestDecimal
import TaskDispatch.Observation.Event
import TaskDispatch.Observation.Journal
import TaskDispatch.Observation.Log
import TaskDispatch.Proofs.Queue.Conservation
import TaskDispatch.Proofs.Queue.Consumers
import TaskDispatch.Proofs.Queue.Idle
import TaskDispatch.Proofs.Queue.Report
import TaskDispatch.Proofs.Queue.Whereabouts
import TaskDispatch.Proofs.Retry.Delay
import TaskDispatch.Proofs.Slots.Balance
import TaskDispatch.Proofs.Slots.Contention
import TaskDispatch.Proofs.Slots.Desk
import TaskDispatch.Proofs.Slots.Line
import TaskDispatch.Proofs.Worker.Budget
import TaskDispatch.Proofs.Worker.Ceiling
import TaskDispatch.Proofs.Worker.Course
import TaskDispatch.Proofs.Worker.Ledger
import TaskDispatch.Proofs.Worker.Ownership
import TaskDispatch.Proofs.Worker.Phases
import TaskDispatch.Proofs.Worker.Runners
import TaskDispatch.Proofs.Worker.Shutdown
import TaskDispatch.Proofs.Worker.Steps
import TaskDispatch.Queue.Backend
import TaskDispatch.Queue.Bell
import TaskDispatch.Queue.Counts
import TaskDispatch.Queue.Memory
import TaskDispatch.Queue.Store
import TaskDispatch.Retry.Policy
import TaskDispatch.Retry.Reconciliation
import TaskDispatch.Sample.Handlers
import TaskDispatch.Sample.Payloads
import TaskDispatch.Simulation.FailureChoice
import TaskDispatch.Simulation.ProcessorScenario
import TaskDispatch.Simulation.QueueScenario
import TaskDispatch.Simulation.RegistryScenario
import TaskDispatch.Simulation.RunnerScenario
import TaskDispatch.Simulation.Script
import TaskDispatch.Simulation.SlotScenario
import TaskDispatch.Simulation.Stage
import TaskDispatch.Slots.Basic
import TaskDispatch.Slots.Calls
import TaskDispatch.Task.Error
import TaskDispatch.Task.Id
import TaskDispatch.Task.Message
import TaskDispatch.Text.Blank
import TaskDispatch.Text.Bytes
import TaskDispatch.Text.Decimal
import TaskDispatch.Text.GraphemeExtend
import TaskDispatch.Text.Quoted
import TaskDispatch.Text.Unprintable
import TaskDispatch.Time.Duration
import TaskDispatch.Time.Timestamp
import TaskDispatch.Worker.Crew
import TaskDispatch.Worker.Processor
import TaskDispatch.Worker.Runner
import TaskDispatch.Worker.Shared
import TaskDispatch.Proofs.Queue.Annals
import TaskDispatch.Proofs.Queue.Schedule
import TaskDispatch.Proofs.Queue.Order
import TaskDispatch.Proofs.Queue.Versions
import TaskDispatch.Proofs.Worker.Calls
import TaskDispatch.Proofs.Worker.Recovery
import TaskDispatch.Proofs.Worker.Chronicle
import TaskDispatch.Proofs.Worker.Engagement
import TaskDispatch.Proofs.Worker.Finish
import TaskDispatch.Proofs.Worker.Fleet
import TaskDispatch.Proofs.Worker.Holdings
import TaskDispatch.Proofs.Worker.Accounts
import TaskDispatch.Proofs.Worker.Retries
import TaskDispatch.Proofs.Worker.Verdict
import TaskDispatch.Proofs.Worker.Acts
import TaskDispatch.Proofs.Worker.Passage
import TaskDispatch.Proofs.Worker.Executions
import TaskDispatch.Proofs.Worker.OneShot
import TaskDispatch.Proofs.Worker.Turns
import TaskDispatch.Proofs.Queue.Withdrawal
import TaskDispatch.Proofs.Worker.StopSignal
import TaskDispatch.Proofs.Entries
import TaskDispatch.Proofs.Queue.Attendance
import TaskDispatch.Proofs.Queue.Watch
import TaskDispatch.Proofs.Worker.Vigilance
import TaskDispatch.Proofs.Retry.Appointment
import TaskDispatch.Proofs.Worker.Reporting
import TaskDispatch.Proofs.Json.Faithful
import TaskDispatch.Proofs.Json.Strings
import TaskDispatch.Proofs.Json.Lists
import TaskDispatch.Proofs.Json.Numbers
import TaskDispatch.Proofs.Json.Records
import TaskDispatch.Proofs.Task.IdText
import TaskDispatch.Proofs.Json.Stored
import TaskDispatch.Proofs.Worker.Conclusion
import TaskDispatch.Proofs.Worker.Custody
import TaskDispatch.Proofs.Worker.Standing
import TaskDispatch.Proofs.Worker.LateReports
import TaskDispatch.Proofs.Queue.Interchange
import TaskDispatch.Proofs.Queue.Answer
import TaskDispatch.Proofs.Number.Rounded
import TaskDispatch.Proofs.Number.Enclosure
import TaskDispatch.Proofs.Time.Seconds
import TaskDispatch.Proofs.Retry.Doubling
import TaskDispatch.Proofs.Retry.Immediate
import TaskDispatch.Proofs.Config.Capacity
import TaskDispatch.Proofs.Handling.Routing
import TaskDispatch.Proofs.Worker.Endurance
import TaskDispatch.Proofs.Task.IdOrder
import TaskDispatch.Proofs.Handling.Delivery
import TaskDispatch.Proofs.Queue.Promotion
