import BatchBridge.Address.Basic
import BatchBridge.Flight.Call
import BatchBridge.Sink.Basic

/-!
# The remote sink

The sink over a receiver.  What the tasks of its streams do, and when, is not for the sink to say:
a script (`Remote.script`) gives, for every call on a stream, the steps that its task has taken by
then.  Where the script is at its end, tasks wait until they have to go on.

* `Link` — whether there is a receiver to connect to.
* `Remote`, `remoteSink` — the receiver, the link and the script, and the sink over them.  A
  channel of limited room makes the stream wait, that is, it leaves some scripts out and adds none.
-/

namespace BatchBridge.Flight

/-- Whether the receiver can be reached. -/
inductive Link where
  | up
  /-- The address is not one. -/
  | invalid (address : String)
  /-- Nobody listens there. -/
  | unreachable (address : String)
  deriving DecidableEq, Repr

/-- A step of a task, or of what is left of its call. -/
inductive Move where
  | take
  | finish
  | fail (reason : String)
  | hangUp
  deriving DecidableEq, Repr

/-- What becomes of connecting to an address that nobody listens on. -/
def Link.ofAddress (address : Address) : Link :=
  if address.isUrl then .unreachable address.text else .invalid address.text

/-- A step of the task of a call. -/
def Call.move (call : Call) (receiver : Receiver) : Move → Call × Receiver
  | .take => (call.take receiver, receiver)
  | .finish => call.finish receiver
  | .fail reason => (call.fail reason, receiver)
  | .hangUp => (call.hangUp, receiver)

/-- Steps of the task of a call, one after the other. -/
def Call.moves (moves : List Move) (call : Call) (receiver : Receiver) : Call × Receiver :=
  moves.foldl (fun (call, receiver) m => call.move receiver m) (call, receiver)

/-- Everything beyond a stream to a remote sink. -/
structure Remote where
  receiver : Receiver
  link : Link
  /-- The steps that tasks take before each further call on a stream. -/
  script : List (List Move)
  deriving DecidableEq, Repr

namespace Remote

/-- A receiver that is there and as slow as it may be. -/
def ofReceiver (receiver : Receiver) : Remote := ⟨receiver, .up, []⟩

/-- Connects, and begins a call. -/
def openStream (destination : String) (fields : List Field) (remote : Remote) :
    Except BridgeError Call × Remote :=
  match remote.link with
  | .up => (.ok (.new remote.receiver destination fields), remote)
  | .invalid address => (.error (.forwarder (.invalidAddress address)), remote)
  | .unreachable address => (.error (.forwarder (.unreachable address)), remote)

/-- Lets the task of a call take the steps that are due. -/
def advance (call : Call) (remote : Remote) : Call × Remote :=
  let (call, receiver) := call.moves (remote.script.headD []) remote.receiver
  (call, { remote with receiver, script := remote.script.tail })

/-- Hands a batch to the task, which may have gone on meanwhile. -/
def write (batch : Batch) (call : Call) (remote : Remote) : Served Remote Call :=
  let (call, remote) := remote.advance call
  let (result, call) := call.write batch
  ⟨result, call, remote⟩

/-- Ends the request stream and waits for the task. -/
def close (call : Call) (remote : Remote) : Served Remote Call :=
  let (call, remote) := remote.advance call
  let (result, call, receiver) := call.close remote.receiver
  ⟨result, call, { remote with receiver }⟩

/-- Cancels the task. -/
def abort (call : Call) (remote : Remote) : Call × Remote :=
  let (call, remote) := remote.advance call
  (call.abort, remote)

end Remote

/-- The remote sink. -/
def remoteSink : StreamSink Remote Call where
  openStream := Remote.openStream
  write := Remote.write
  close := Remote.close
  abort := Remote.abort
  release _ remote := remote

end BatchBridge.Flight
