import BatchBridge.Sink.Basic

/-!
# Forwarding one stream

A forwarder owns one stream of a sink and sees to it that the stream is ended once only: the first
close or abort ends it, whatever comes of that, and later ones do nothing.

* `Forwarder.openStream`, `write`, `close`, `abort`, `release` — the calls.
* `Forwarder.batches`, `Forwarder.rows` — what has been written successfully.
-/

namespace BatchBridge

/-- The owner of a stream.  Its counts have no bound; as 64-bit words they are exact below 2^64. -/
structure Forwarder (Stream : Type) where
  destination : String
  /-- The stream, unless it has been ended. -/
  stream : Option Stream
  batches : Nat
  rows : Nat
  deriving DecidableEq, Repr

namespace Forwarder

variable {World Stream : Type}

/-- The outcome of a call on a forwarder. -/
abbrev Called (World Stream : Type) := Served World (Forwarder Stream)

/-- Opens a stream of the sink. -/
def openStream (sink : StreamSink World Stream) (destination : String) (fields : List Field)
    (world : World) : Except BridgeError (Forwarder Stream) × World :=
  match sink.openStream destination fields world with
  | (.ok stream, world) => (.ok ⟨destination, some stream, 0, 0⟩, world)
  | (.error error, world) => (.error error, world)

/-- Whether the stream has been ended. -/
def isClosed (forwarder : Forwarder Stream) : Bool := forwarder.stream.isNone

/-- Hands a batch on.  A failed write does not end the stream and is not counted. -/
def write (sink : StreamSink World Stream) (batch : Batch) (forwarder : Forwarder Stream)
    (world : World) : Called World Stream :=
  match forwarder.stream with
  | none => ⟨.error (.forwarder (.writeAfterFinish forwarder.destination)), forwarder, world⟩
  | some stream =>
    let served := sink.write batch stream world
    let forwarder := { forwarder with stream := some served.stream }
    match served.result with
    | .error error => ⟨.error error, forwarder, served.world⟩
    | .ok () =>
      ⟨.ok (),
        { forwarder with batches := forwarder.batches + 1, rows := forwarder.rows + batch.rows },
        served.world⟩

/-- Closes the stream, unless it has been ended already.  A failed close ends it too. -/
def close (sink : StreamSink World Stream) (forwarder : Forwarder Stream) (world : World) :
    Called World Stream :=
  match forwarder.stream with
  | none => ⟨.ok (), forwarder, world⟩
  | some stream =>
    let served := sink.close stream world
    ⟨served.result, { forwarder with stream := none }, sink.release served.stream served.world⟩

/-- Aborts the stream, unless it has been ended already. -/
def abort (sink : StreamSink World Stream) (forwarder : Forwarder Stream) (world : World) :
    Forwarder Stream × World :=
  match forwarder.stream with
  | none => (forwarder, world)
  | some stream =>
    let (stream, world) := sink.abort stream world
    ({ forwarder with stream := none }, sink.release stream world)

/-- Forgets the forwarder and its stream. -/
def release (sink : StreamSink World Stream) (forwarder : Forwarder Stream) (world : World) :
    World :=
  match forwarder.stream with
  | none => world
  | some stream => sink.release stream world

end Forwarder
end BatchBridge
