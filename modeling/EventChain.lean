import EventChain.Broadcast
import EventChain.Database.Connection
import EventChain.Lookup
import EventChain.Main
import EventChain.Store.History
import EventChain.Tally.History
import EventChain.Proofs.Failure
import EventChain.Proofs.Route.Links
import EventChain.Proofs.Route.Order
import EventChain.Proofs.Route.Build
import EventChain.Proofs.Route.Accepted
import EventChain.Proofs.Route.Refused
import EventChain.Proofs.Route.Stops
import EventChain.Proofs.Run.Trace
import EventChain.Proofs.Condition.WellFormed
import EventChain.Proofs.Number.Division
import EventChain.Proofs.Number.Writable
import EventChain.Proofs.Device.Dispatch
import EventChain.Proofs.Transform
import EventChain.Proofs.Run.Validation
import EventChain.Proofs.Value.Coercion
import EventChain.Proofs.Json.Writable
import EventChain.Proofs.Condition.Formula
import EventChain.Proofs.Condition.Total
import EventChain.Proofs.Run.Commands
import EventChain.Proofs.Route.Skeleton
import EventChain.Proofs.Run.Unreached
import EventChain.Proofs.Run.Timing
import EventChain.Proofs.Service.Deadlines
import EventChain.Proofs.Run.Lockstep
import EventChain.Proofs.Run.Unsteered
import EventChain.Proofs.Condition.Fields
import EventChain.Proofs.Run.Unmentioned
import EventChain.Course
import EventChain.Proofs.Route.Marks
import EventChain.Shared
import EventChain.Proofs.Run.Course
import EventChain.Proofs.Run.Sharing
import EventChain.Crew
import EventChain.Proofs.Service.Crew
import EventChain.Proofs.Service.Batch
import EventChain.Proofs.Condition.Grammar
import EventChain.Proofs.Json.Limit
import EventChain.Proofs.Malformed
import EventChain.Proofs.Store.Snapshot
import EventChain.Proofs.Store.Execution
import EventChain.Proofs.Store.Reference
import EventChain.Proofs.Overrun
import EventChain.Proofs.Store.Identity
import EventChain.Session
import EventChain.Proofs.Service.Session
import EventChain.Proofs.Route.Threads
import EventChain.Proofs.Route.Bypass
import EventChain.Proofs.Run.Bypass
import EventChain.Proofs.Value.Unwritable
import EventChain.Proofs.Number.Overflow
import EventChain.Proofs.Transform.Frame
import EventChain.Proofs.Number.Whole
import EventChain.Proofs.Transform.Inverse
import EventChain.Proofs.Transform.Excess
import EventChain.Device.Shift
import EventChain.Proofs.Device.Shift
import EventChain.Proofs.Condition.Fault
import EventChain.Proofs.Condition.Reorder
import EventChain.Proofs.Condition.Duality
import EventChain.Proofs.Condition.Expansion
import EventChain.Proofs.Config
import EventChain.Proofs.Device.Reply
import EventChain.Proofs.Device.Timeout
import EventChain.Proofs.Value.Comparison
import EventChain.Proofs.Condition.Naive
import EventChain.Proofs.Condition.Written
import EventChain.Proofs.Condition.Membership
import EventChain.Proofs.Value.Numeric
import EventChain.Proofs.Broadcast
import EventChain.Proofs.Tally.History
import EventChain.Proofs.Value.RoundTrip
