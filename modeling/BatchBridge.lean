import BatchBridge.Address.Numeric
import BatchBridge.Main
import BatchBridge.Proofs.Batch.RoundTrip
import BatchBridge.Proofs.Batch.Pushing
import BatchBridge.Proofs.Batch.Truncation
import BatchBridge.Proofs.Batch.Canonical
import BatchBridge.Proofs.Batch.Transposing
import BatchBridge.Proofs.Batch.Faults
import BatchBridge.Proofs.Batch.Rejecting
import BatchBridge.Proofs.Batch.Counting
import BatchBridge.Proofs.Batch.Work
import BatchBridge.Proofs.Frame.Progress
import BatchBridge.Proofs.Frame.Reading
import BatchBridge.Proofs.Frame.Chunks
import BatchBridge.Proofs.Frame.Calls
import BatchBridge.Proofs.Compression.Limits
import BatchBridge.Proofs.Compression.Scratch
import BatchBridge.Proofs.Schema.Grammar
import BatchBridge.Proofs.Schema.RoundTrip
import BatchBridge.Proofs.Schema.Typing
import BatchBridge.Proofs.Schema.Policies
import BatchBridge.Proofs.Sink.Recording
import BatchBridge.Proofs.Sink.Forwarding
import BatchBridge.Proofs.Sink.Interleaving
import BatchBridge.Proofs.Session.Step
import BatchBridge.Proofs.Session.Faults
import BatchBridge.Proofs.Session.Log
import BatchBridge.Proofs.Session.Acknowledgment
import BatchBridge.Proofs.Session.Meaning
import BatchBridge.Proofs.Session.Batches
import BatchBridge.Proofs.Session.Record
import BatchBridge.Proofs.Session.Prefix
import BatchBridge.Proofs.Session.Fidelity
import BatchBridge.Proofs.Session.Authentication
import BatchBridge.Proofs.Session.Compression
import BatchBridge.Proofs.Session.Sharing
import BatchBridge.Proofs.Session.States
import BatchBridge.Proofs.Frame.Caps
import BatchBridge.Proofs.Frame.Positions
import BatchBridge.Proofs.Session.Streams
import BatchBridge.Proofs.Session.Caps
import BatchBridge.Proofs.Session.Deliveries
import BatchBridge.Proofs.Session.Totals
import BatchBridge.Proofs.Flight.Receiving
import BatchBridge.Proofs.Flight.Calls
import BatchBridge.Proofs.Flight.Closing
import BatchBridge.Proofs.Flight.Finishing
import BatchBridge.Proofs.Flight.Commits
import BatchBridge.Proofs.Flight.Rows
import BatchBridge.Proofs.Flight.Refusal
import BatchBridge.Proofs.Flight.Agreement
import BatchBridge.Proofs.Server.Permits
import BatchBridge.Proofs.Config.Files
import BatchBridge.Proofs.Config.Layers
import BatchBridge.Proofs.Frame.Attempts
import BatchBridge.Proofs.Frame.Course
import BatchBridge.Proofs.Frame.History
import BatchBridge.Proofs.Frame.Reports
import BatchBridge.Proofs.Frame.Patience
import BatchBridge.Proofs.Frame.Conservation
import BatchBridge.Proofs.Batch.Offsets
import BatchBridge.Proofs.Session.Offsets
