import BatchBridge.Batch.Decoder
import BatchBridge.Compression.Method
import BatchBridge.Schema.Text
import BatchBridge.Session.Basic
import BatchBridge.Sink.Forwarder

/-!
# Sessions

A session takes one export off a connection and forwards it to a sink: token, query id, compression
code, schema, batches up to an empty frame.  Token and code are there only if the options ask for
them.  When the sink has closed the stream, the client is told so; when anything goes wrong the
stream is aborted, and the client is told nothing, except that its token was turned down.  A session
whose batch has too much text for its columns goes down with their builder: it aborts nothing, tells
nothing, and there is no result.

* `Phase` — what a session does next.  `Phase.state` is the state that it is in while doing so.
* `Session.step` — does it: one read at most and one call of the sink at most.  Sessions that share
  a sink can therefore take their steps in any order.
* `Session.run` — takes steps up to the end.  A batch is a frame of one byte at least, and there is
  a fixed number of other steps, so `Session.budget` of them are enough.
-/

namespace BatchBridge

/-- A stream that is being forwarded. -/
structure Export (Stream : Type) where
  forwarder : Forwarder Stream
  schema : ColumnSchema
  decompressor : Compression.Decompressor
  summary : Summary

/-- What a session does next. -/
inductive Phase (Stream : Type) where
  | begin
  /-- Reads the token. -/
  | token (expected : String)
  | queryId
  /-- Reads the compression code. -/
  | compression (queryId : String)
  | schema (queryId : String) (method : Compression.Method)
  /-- Opens a stream of the sink. -/
  | opening (queryId : String) (schema : ColumnSchema) (method : Compression.Method)
  /-- Reads a batch and writes it. -/
  | streaming (exporting : Export Stream)
  | aborting (forwarder : Forwarder Stream) (error : BridgeError)
  | closing (forwarder : Forwarder Stream) (summary : Summary)
  /-- Tells the client. -/
  | acknowledging (summary : Summary)
  | completed (summary : Summary)
  /-- It is over, and went wrong in a state. -/
  | failed (error : BridgeError) (state : SessionState)
  /-- It went down with a builder, in the middle of a batch, and nothing has come of it. -/
  | lost

/-- The state that goes with a phase.  A session that is lost does not get any further. -/
def Phase.state {Stream : Type} : Phase Stream → SessionState
  | .begin => .accepted
  | .token _ => .authenticating
  | .queryId | .compression _ => .readingQueryId
  | .schema .. => .readingSchema
  | .opening .. | .streaming _ | .aborting .. | .closing .. | .acknowledging _ | .lost =>
    .streamingBatches
  | .completed _ => .completed
  | .failed .. => .failed

/-- Whether nothing more is done. -/
def Phase.isOver {Stream : Type} : Phase Stream → Bool
  | .completed _ | .failed .. | .lost => true
  | _ => false

/-- A session over a connection. -/
structure Session (Stream : Type) where
  options : SessionOptions
  reader : Frame.Reader
  /-- How every write to the client fails, if it does. -/
  writeFault : Option WriteFault
  /-- What has been written to the client. -/
  reply : Bytes
  phase : Phase Stream

namespace Session

variable {World Stream : Type}

/-- A session that has just been accepted. -/
def new (options : SessionOptions) (source : Source) (writeFault : Option WriteFault) :
    Session Stream :=
  { options, reader := .new options.limits source, writeFault, reply := [], phase := .begin }

/-- The state that a session is in. -/
def state (session : Session Stream) : SessionState := session.phase.state

/-- The state in which a session that failed did so. -/
def failedIn (session : Session Stream) : Option SessionState :=
  match session.phase with
  | .failed _ state => some state
  | _ => none

/-- What has come of a session that is over. -/
def result (session : Session Stream) : Option (Except BridgeError Summary) :=
  match session.phase with
  | .completed summary => some (.ok summary)
  | .failed error _ => some (.error error)
  | _ => none

/-! ## Steps -/

/-- Goes on to a phase. -/
def goTo (phase : Phase Stream) (session : Session Stream) : Session Stream :=
  { session with phase }

/-- Is over, because of an error. -/
def fail (error : BridgeError) (session : Session Stream) : Session Stream :=
  session.goTo (.failed error session.state)

/-- Takes over the reader from a read, and goes on with what has been read. -/
def afterRead {α : Type} (session : Session Stream) (read : Except BridgeError α × Frame.Reader)
    (next : α → Session Stream → Session Stream) : Session Stream :=
  let session := { session with reader := read.2 }
  match read.1 with
  | .ok item => next item session
  | .error error => session.fail error

/-- Writes to the client and goes on.  A write that fails can have got some of the message out. -/
def tell (message : Bytes) (session : Session Stream) (next : Session Stream → Session Stream) :
    Session Stream :=
  let session :=
    { session with reply := session.reply ++ WriteFault.passed session.writeFault message }
  match session.writeFault with
  | some fault => session.fail (.io (.transport fault.kind))
  | none => next session

/-- Turns a token down. -/
def refuse (fault : TokenFault) (session : Session Stream) : Session Stream :=
  session.tell unauthorizedReply (fail (.unauthorized fault))

/-- Reads the token.  A frame that is too long for one is turned down like a wrong token. -/
def readToken (expected : String) (session : Session Stream) : Session Stream :=
  let (result, reader) := session.reader.readFrameCapped (some maxTokenBytes)
  let session := { session with reader }
  match result with
  | .ok presented =>
    if presented.isEmpty then session.refuse .empty
    else if presented = Utf8.encode expected then session.goTo .queryId
    else session.refuse .mismatch
  | .error (.frameTooLarge length limit) => session.refuse (.tooLong length limit)
  | .error error => session.fail error

/-- The query id of a frame. -/
def parseQueryId (frame : Bytes) : Except BridgeError String :=
  match Utf8.decode frame with
  | .error fault => .error (.protocol (.queryIdNotText fault))
  | .ok id => if id.isEmpty then .error (.protocol .emptyQueryId) else .ok id

/-- Goes on with a result, or is over. -/
def orFail {α : Type} (result : Except BridgeError α) (next : α → Session Stream → Session Stream)
    (session : Session Stream) : Session Stream :=
  match result with
  | .ok a => next a session
  | .error error => session.fail error

/-- Reads the query id. -/
def readQueryId (session : Session Stream) : Session Stream :=
  session.afterRead (session.reader.readFrameCapped (some maxQueryIdBytes)) fun frame =>
    orFail (parseQueryId frame) fun id session =>
      session.goTo (if session.options.negotiate then .compression id else .schema id .none)

/-- Reads the compression code. -/
def readMethod (queryId : String) (session : Session Stream) : Session Stream :=
  session.afterRead session.reader.readWord fun code =>
    orFail (Compression.Method.ofCode code) fun method session =>
      session.goTo (.schema queryId method)

/-- Reads the schema. -/
def readSchema (queryId : String) (method : Compression.Method) (session : Session Stream) :
    Session Stream :=
  session.afterRead session.reader.readFrame fun payload session =>
    session.orFail (ColumnSchema.parse payload session.options.policy) fun schema session =>
      session.goTo (.opening queryId schema method)

/-- Opens the stream for a query. -/
def openStream (sink : StreamSink World Stream) (queryId : String) (schema : ColumnSchema)
    (method : Compression.Method) (session : Session Stream) (world : World) :
    Session Stream × World :=
  match Forwarder.openStream sink queryId schema.fields world with
  | (.error error, world) => (session.fail error, world)
  | (.ok forwarder, world) =>
    (session.goTo (.streaming ⟨forwarder, schema, .new method, .new queryId⟩), world)

/-- The batch of a frame that is not empty, with the size of its payload. -/
def decodeBatch (exporting : Export Stream) (frame : Bytes) :
    Decoded BridgeError (Batch × Nat) × Compression.Decompressor :=
  let (payload, decompressor) := exporting.decompressor.decompress frame
  let batch := (Decoded.ofExcept payload).bind fun payload =>
    (Batch.decode exporting.schema payload.data.toList).map fun batch => (batch, payload.size)
  (batch.mapError .batchDecode, decompressor)

/-- Writes a batch, and counts it if the sink takes it. -/
def writeBatch (sink : StreamSink World Stream) (exporting : Export Stream) (batch : Batch)
    (payloadBytes : Nat) (session : Session Stream) (world : World) : Session Stream × World :=
  let called := exporting.forwarder.write sink batch world
  match called.result with
  | .error error => (session.goTo (.aborting called.stream error), called.world)
  | .ok () =>
    let summary := exporting.summary.record batch.rows payloadBytes batch.nullCount
    (session.goTo (.streaming { exporting with forwarder := called.stream, summary }),
      called.world)

/-- Reads one frame: the end of the stream, or a batch to be written.  A session that is lost takes
its stream with it. -/
def readBatch (sink : StreamSink World Stream) (exporting : Export Stream)
    (session : Session Stream) (world : World) : Session Stream × World :=
  let (result, reader) := session.reader.readFrame
  let session := { session with reader }
  match result with
  | .error error => (session.goTo (.aborting exporting.forwarder error), world)
  | .ok frame =>
    if frame.isEmpty then
      (session.goTo (.closing exporting.forwarder exporting.summary), world)
    else
      let (decoded, decompressor) := decodeBatch exporting frame
      let exporting := { exporting with decompressor }
      match decoded with
      | .error error => (session.goTo (.aborting exporting.forwarder error), world)
      | .lost => (session.goTo .lost, exporting.forwarder.release sink world)
      | .ok (batch, payloadBytes) =>
        session.writeBatch sink exporting batch payloadBytes world

/-- Closes the stream. -/
def closeStream (sink : StreamSink World Stream) (forwarder : Forwarder Stream)
    (summary : Summary) (session : Session Stream) (world : World) : Session Stream × World :=
  let called := forwarder.close sink world
  match called.result with
  | .error error => (session.fail error, called.world)
  | .ok () => (session.goTo (.acknowledging summary), called.world)

/-- Does what the phase says. -/
def step (sink : StreamSink World Stream) (session : Session Stream) (world : World) :
    Session Stream × World :=
  match session.phase with
  | .begin =>
    let next := match session.options.token with
      | some expected => .token expected
      | none => .queryId
    (session.goTo next, world)
  | .token expected => (session.readToken expected, world)
  | .queryId => (session.readQueryId, world)
  | .compression queryId => (session.readMethod queryId, world)
  | .schema queryId method => (session.readSchema queryId method, world)
  | .opening queryId schema method => session.openStream sink queryId schema method world
  | .streaming exporting => session.readBatch sink exporting world
  | .aborting forwarder error => (session.fail error, (forwarder.abort sink world).2)
  | .closing forwarder summary => session.closeStream sink forwarder summary world
  | .acknowledging summary => (session.tell acknowledgment (goTo (.completed summary)), world)
  | .completed _ | .failed .. | .lost => (session, world)

/-! ## Whole sessions -/

/-- Takes a number of steps, but none beyond the end. -/
def steps (sink : StreamSink World Stream) :
    Nat → Session Stream → World → Session Stream × World
  | 0, session, world => (session, world)
  | n + 1, session, world =>
    if session.phase.isOver then (session, world)
    else
      let (session, world) := session.step sink world
      steps sink n session world

/-- As many steps as a session can take: one for every byte that it may still read, and one for
each phase that it goes through once. -/
def budget (session : Session Stream) : Nat :=
  session.reader.buffer.length + session.reader.source.bytes.length + 12

/-- Runs a session to its end. -/
def run (sink : StreamSink World Stream) (session : Session Stream) (world : World) :
    Session Stream × World :=
  steps sink session.budget session world

end Session
end BatchBridge
