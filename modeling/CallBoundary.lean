import CallBoundary.Host.Location
import CallBoundary.Host.Logging
import CallBoundary.Native.Run
import CallBoundary.Sample.Calls
import CallBoundary.Text.Hex
import CallBoundary.Proofs.Outcome
import CallBoundary.Proofs.Text.Lossy
import CallBoundary.Proofs.Wire.WellFormed
import CallBoundary.Proofs.Wire.Merging
import CallBoundary.Proofs.Wire.Writing
import CallBoundary.Proofs.Wire.RoundTrip
import CallBoundary.Proofs.Wire.Canonical
import CallBoundary.Proofs.Wire.CursorRuns
import CallBoundary.Proofs.Wire.Maps
import CallBoundary.Proofs.Wire.Recursion
import CallBoundary.Proofs.Buffer.Transfer
import CallBoundary.Proofs.Buffer.Audit
import CallBoundary.Proofs.Buffer.Ownership
import CallBoundary.Proofs.Buffer.Framing
import CallBoundary.Proofs.Native.Steps
import CallBoundary.Proofs.Native.Continuations
import CallBoundary.Proofs.Contract.SymbolNames
import CallBoundary.Proofs.Host.Startup
import CallBoundary.Proofs.Host.Exporting
import CallBoundary.Proofs.Contract.Drift
import CallBoundary.Proofs.Host.Handles
import CallBoundary.Proofs.Host.CallSteps
import CallBoundary.Proofs.Host.Planned
import CallBoundary.Proofs.Host.Discipline
import CallBoundary.Proofs.Host.Dropping
import CallBoundary.Proofs.Host.Entries
import CallBoundary.Proofs.Host.Report
import CallBoundary.Proofs.Host.Task
import CallBoundary.Proofs.Host.Lockstep
import CallBoundary.Proofs.Host.Await
import CallBoundary.Proofs.Host.Custody
import CallBoundary.Proofs.Host.Channel
import CallBoundary.Proofs.Native.Growth
import CallBoundary.Proofs.Host.Relay
import CallBoundary.Proofs.Host.Answering
import CallBoundary.Proofs.Host.Releasing
import CallBoundary.Proofs.Host.Tables
import CallBoundary.Proofs.Sample.Logging
import CallBoundary.Proofs.Native.Course
import CallBoundary.Proofs.Native.Replies
import CallBoundary.Proofs.Native.Handover
import CallBoundary.Proofs.Native.History
import CallBoundary.Proofs.Native.Wakeups
import CallBoundary.Proofs.Native.Readiness
import CallBoundary.Proofs.Native.Release
import CallBoundary.Proofs.Native.Lifetime
import CallBoundary.Proofs.Native.Quiescence
import CallBoundary.Proofs.Host.Readers
import CallBoundary.Proofs.Host.Panics
import CallBoundary.Proofs.Buffer.Memory
import CallBoundary.Proofs.Host.Keeping
import CallBoundary.Proofs.Wire.Locality
import CallBoundary.Proofs.Host.Watch
import CallBoundary.Proofs.Sample.Arguments
import CallBoundary.Proofs.Host.Answers
import CallBoundary.Proofs.Sample.Calls
