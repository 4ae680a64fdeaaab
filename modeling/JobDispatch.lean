import JobDispatch.Config.Format
import JobDispatch.Main
import JobDispatch.Simulation.Run
import JobDispatch.Store.Row
import JobDispatch.WakeQueue.Session
import JobDispatch.Proofs.Job.Transition
import JobDispatch.Proofs.Store.Lookup
import JobDispatch.Proofs.Store.Equations
import JobDispatch.Proofs.Store.Turn
import JobDispatch.Proofs.Store.Ledger
import JobDispatch.Proofs.Store.Soundness
import JobDispatch.Proofs.Store.Course
import JobDispatch.Proofs.Store.History
import JobDispatch.Proofs.Cluster.Basic
import JobDispatch.Proofs.Cluster.Move
import JobDispatch.Proofs.Cluster.Holding
import JobDispatch.Proofs.Store.Attempt
import JobDispatch.Proofs.Store.Running
import JobDispatch.Proofs.Cluster.Guard
import JobDispatch.Proofs.Cluster.Runs
import JobDispatch.Proofs.Cluster.Fence
import JobDispatch.Proofs.Cluster.Patience
import JobDispatch.Proofs.Cluster.Serving
import JobDispatch.Proofs.Cluster.Exclusive
import JobDispatch.Proofs.Backend.Run
import JobDispatch.Proofs.Store.Staff
import JobDispatch.Proofs.Backend.Refusal
import JobDispatch.Proofs.Backend.Write
import JobDispatch.Proofs.Http.Effect
import JobDispatch.Proofs.Backend.Sweep
import JobDispatch.Proofs.Json.Number
import JobDispatch.Proofs.Json.ReadBack
import JobDispatch.Proofs.Json.Record
import JobDispatch.Proofs.Http.Path
import JobDispatch.Proofs.Job.Format
import JobDispatch.Proofs.Http.Exchange
import JobDispatch.Proofs.Http.Agreement
import JobDispatch.Proofs.Time.Headroom
import JobDispatch.Proofs.Store.Change
import JobDispatch.Proofs.Store.Lasting
import JobDispatch.Proofs.Backend.Traffic
import JobDispatch.Proofs.Store.Order
import JobDispatch.Proofs.Store.Precedence
import JobDispatch.Proofs.Store.Pace
import JobDispatch.Proofs.Backend.Reaping
import JobDispatch.Proofs.WakeQueue.Schedule
import JobDispatch.Proofs.WakeQueue.Channel
import JobDispatch.Proofs.Backend.Outage
import JobDispatch.Proofs.Store.Arrangement
import JobDispatch.Proofs.Store.OrderFree
import JobDispatch.Proofs.Store.Shuffle
import JobDispatch.Proofs.Worker.Shift
import JobDispatch.Proofs.Worker.Duties
import JobDispatch.Proofs.Worker.Report
import JobDispatch.Proofs.Time.Elapsed
import JobDispatch.Proofs.Worker.Presence
import JobDispatch.Proofs.Config.Setting
import JobDispatch.Proofs.Config.Acceptance
import JobDispatch.Proofs.Text.Padded
import JobDispatch.Proofs.Time.Calendar
import JobDispatch.Proofs.Time.Rfc3339
import JobDispatch.Proofs.Json.Nesting
import JobDispatch.Proofs.Json.RoundTrip
import JobDispatch.Proofs.Worker.Format
import JobDispatch.Proofs.Config.Format
import JobDispatch.Proofs.Serialisation
import JobDispatch.Proofs.Store.Requeue
import JobDispatch.Proofs.Store.Demotion
import JobDispatch.Proofs.Store.Paging
import JobDispatch.Proofs.Http.Walk
import JobDispatch.Proofs.Store.Census
import JobDispatch.Proofs.Backend.Books
import JobDispatch.Proofs.Executor
import JobDispatch.Proofs.Backoff.Doubling
import JobDispatch.Proofs.Job.Submission
import JobDispatch.Proofs.Backend.Admission
