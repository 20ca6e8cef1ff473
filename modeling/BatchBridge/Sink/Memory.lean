import BatchBridge.Sink.Basic

/-!
# A sink that keeps a record

The memory sink writes down every call that reaches it, in one log for all its streams, and fails
where it is told to.

* `SinkEvent` — an entry of the log.
* `MemorySink` — the log and the faults.  `memorySink` is the sink over it.
* `MemorySink.committedRowsFor` — what a real sink would have made visible, read off the log.

A failed close stands in the log all the same, as a close was attempted; an open or write that
fails leaves no entry.
-/

namespace BatchBridge

/-- A call that reached the sink. -/
inductive SinkEvent where
  | opened (destination : String) (fields : List Field)
  | written (destination : String) (batch : Batch)
  | closed (destination : String)
  | aborted (destination : String)
  deriving DecidableEq, Repr

namespace SinkEvent

/-- The destination of the stream that the call was for. -/
def destination : SinkEvent → String
  | opened dest _ | written dest _ | closed dest | aborted dest => dest

/-- The batch of a write. -/
def batch? : SinkEvent → Option Batch
  | written _ batch => some batch
  | _ => none

/-- Whether it is the opening of a stream. -/
def isOpen : SinkEvent → Bool
  | opened .. => true
  | _ => false

/-- Whether it is a close. -/
def isClose : SinkEvent → Bool
  | closed _ => true
  | _ => false

/-- Whether it is an abort. -/
def isAbort : SinkEvent → Bool
  | aborted _ => true
  | _ => false

end SinkEvent

/-- Which calls fail. -/
structure SinkFaults where
  failOpen : Bool
  /-- The number of the write that fails, on every stream. -/
  failWriteAt : Option Nat
  failClose : Bool
  deriving DecidableEq, Repr

/-- No call fails. -/
def SinkFaults.none : SinkFaults := ⟨false, .none, false⟩

/-- The log of a sink and its faults. -/
structure MemorySink where
  faults : SinkFaults
  events : List SinkEvent
  deriving DecidableEq, Repr

/-- A stream of the memory sink. -/
structure MemoryStream where
  destination : String
  /-- How many writes there have been, failed ones included. -/
  writes : Nat
  deriving DecidableEq, Repr

namespace MemorySink

/-- Before the first call. -/
def new (faults : SinkFaults) : MemorySink := ⟨faults, []⟩

/-- Writes down a call. -/
def record (event : SinkEvent) (sink : MemorySink) : MemorySink :=
  { sink with events := sink.events ++ [event] }

/-! ## Reading the log -/

/-- The calls for a destination. -/
def eventsFor (destination : String) (sink : MemorySink) : List SinkEvent :=
  sink.events.filter (·.destination == destination)

/-- The batches written for a destination. -/
def batchesFor (destination : String) (sink : MemorySink) : List Batch :=
  (sink.eventsFor destination).filterMap SinkEvent.batch?

/-- The number of rows written for a destination. -/
def rowsFor (destination : String) (sink : MemorySink) : Nat :=
  Batch.totalRows (sink.batchesFor destination)

/-- How many streams have been opened for a destination. -/
def opensFor (destination : String) (sink : MemorySink) : Nat :=
  (sink.eventsFor destination).countP SinkEvent.isOpen

/-- How many streams for a destination have been closed, well or not. -/
def closesFor (destination : String) (sink : MemorySink) : Nat :=
  (sink.eventsFor destination).countP SinkEvent.isClose

/-- How many streams for a destination have been aborted. -/
def abortsFor (destination : String) (sink : MemorySink) : Nat :=
  (sink.eventsFor destination).countP SinkEvent.isAbort

/-- Rows that a close would commit, and rows committed. -/
structure Tally where
  pending : Nat
  committed : Nat
  deriving DecidableEq, Repr

/-- What a call changes: a write adds to what is pending, a close commits it, and an abort or a new
stream drops it. -/
def Tally.step (tally : Tally) : SinkEvent → Tally
  | .opened .. | .aborted _ => { tally with pending := 0 }
  | .written _ batch => { tally with pending := tally.pending + batch.rows }
  | .closed _ => ⟨0, tally.committed + tally.pending⟩

/-- The number of rows that streams to a destination have committed by closing. -/
def committedRowsFor (destination : String) (sink : MemorySink) : Nat :=
  if sink.faults.failClose then 0
  else ((sink.eventsFor destination).foldl Tally.step ⟨0, 0⟩).committed

/-- The destinations that have been opened, in the order of their first calls. -/
def destinations (sink : MemorySink) : List String :=
  (sink.events.map SinkEvent.destination).eraseDups

/-! ## Calls -/

/-- Opens a stream, unless the sink refuses all of them. -/
def openStream (destination : String) (fields : List Field) (sink : MemorySink) :
    Except BridgeError MemoryStream × MemorySink :=
  if sink.faults.failOpen then (.error (.forwarder (.openRefused destination)), sink)
  else (.ok ⟨destination, 0⟩, sink.record (.opened destination fields))

/-- Takes a batch, unless it is the one to be rejected. -/
def write (batch : Batch) (stream : MemoryStream) (sink : MemorySink) :
    Served MemorySink MemoryStream :=
  let next := { stream with writes := stream.writes + 1 }
  if sink.faults.failWriteAt = some stream.writes then
    ⟨.error (.forwarder (.writeRejected stream.writes stream.destination)), next, sink⟩
  else ⟨.ok (), next, sink.record (.written stream.destination batch)⟩

/-- Ends a stream; the call is written down even if it fails. -/
def close (stream : MemoryStream) (sink : MemorySink) : Served MemorySink MemoryStream :=
  let result :=
    if sink.faults.failClose then .error (.forwarder (.closeRejected stream.destination)) else .ok ()
  ⟨result, stream, sink.record (.closed stream.destination)⟩

/-- Discards a stream. -/
def abort (stream : MemoryStream) (sink : MemorySink) : MemoryStream × MemorySink :=
  (stream, sink.record (.aborted stream.destination))

end MemorySink

/-- The memory sink. -/
def memorySink : StreamSink MemorySink MemoryStream where
  openStream := MemorySink.openStream
  write := MemorySink.write
  close := MemorySink.close
  abort := MemorySink.abort
  release _ sink := sink

end BatchBridge
