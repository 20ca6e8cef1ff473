import BatchBridge.Error
import BatchBridge.Flight.Receiver

/-!
# The near end of a remote call

A stream to a remote sink is one `DoPut` call.  A task of its own makes the call; batches get to it
over a channel, and the call's request stream ends when the channel's sender is dropped.  Stream
and task take their steps independently of each other, in any order.

* `Call` — both sides: the sender, the handle on the task, and the channel between them.
* `Call.take`, `Call.finish`, `Call.fail` — steps of the task.  What it sees of the stream is what
  it takes off the channel; a clean end it sees only when the sender is gone and the channel empty.
* `Call.hangUp` — the far end of the channel goes, some time after the call has ended.  Until then
  the channel takes batches that nobody will get.
* `Call.write`, `Call.close`, `Call.abort` — steps of the stream.
  **Order matters in `abort`:** the task is cancelled while the sender is still there.  Were the
  sender dropped first, the call could end cleanly and commit what was to be discarded.
* `Call.settle` — the task's way to its end, once the sender is gone and nothing goes wrong.
-/

namespace BatchBridge.Flight

/-- How a task has ended. -/
inductive RpcEnd where
  | completed
  | failed (reason : String)
  | cancelled
  deriving DecidableEq, Repr

/-- Where a task stands. -/
inductive Rpc where
  | running (state : PutState)
  | ended (how : RpcEnd)
  deriving DecidableEq, Repr

/-- A stream to a remote sink. -/
structure Call where
  destination : String
  /-- The sender of the channel is there. -/
  sending : Bool
  /-- The handle on the task is there: it has been neither awaited nor cancelled. -/
  held : Bool
  rpc : Rpc
  /-- The batches in the channel. -/
  queue : List Batch
  /-- The far end of the channel is there.  It only goes away when the call has ended, but it need
  not go at once. -/
  attached : Bool
  /-- The batches that the task has taken off the channel. -/
  taken : List Batch
  /-- The task has seen a clean end of the stream. -/
  sawEnd : Bool
  deriving DecidableEq, Repr

namespace Call

/-- A stream that has just been opened: the call is under way, and its first message gives the
destination and the schema. -/
def new (receiver : Receiver) (destination : String) (fields : List Field) : Call :=
  { destination, sending := true, held := true
    rpc := .running (.receive receiver (openingMessage (some [destination]) fields) .waiting)
    queue := [], attached := true, taken := [], sawEnd := false }

/-! ## Steps of the task -/

/-- Ends the task.  What is in the channel stays there. -/
def endRpc (how : RpcEnd) (call : Call) : Call := { call with rpc := .ended how }

/-- The task takes a batch off the channel and sends it. -/
def take (receiver : Receiver) (call : Call) : Call :=
  match call.rpc, call.queue with
  | .running state, batch :: queue =>
    let state := (batchMessages batch).foldl (fun state m => state.receive receiver m) state
    { call with rpc := .running state, queue, taken := call.taken ++ [batch] }
  | _, _ => call

/-- How a task ends that gets the answer to its call. -/
def answered : Except PutStatus Unit → RpcEnd
  | .ok () => .completed
  | .error status => .failed status.message

/-- The task sees the end of the stream, if it is there to be seen, and gets its answer. -/
def finish (call : Call) (receiver : Receiver) : Call × Receiver :=
  match call.rpc, call.queue, call.sending with
  | .running state, [], false =>
    let (answer, receiver) := receiver.finish state
    ({ call.endRpc (answered answer) with sawEnd := true }, receiver)
  | _, _, _ => (call, receiver)

/-- The call fails, for a reason of its own or because the receiver has refused it. -/
def fail (reason : String) (call : Call) : Call :=
  match call.rpc with
  | .running (.refused status) => call.endRpc (.failed status.message)
  | .running _ => call.endRpc (.failed reason)
  | .ended _ => call

/-- The far end of the channel goes, once the call has ended; what is in the channel is lost. -/
def hangUp (call : Call) : Call :=
  match call.rpc with
  | .running _ => call
  | .ended _ => { call with queue := [], attached := false }

/-- Takes everything off the channel and sees the end. -/
def settle (call : Call) (receiver : Receiver) : Call × Receiver :=
  finish (call.queue.foldl (fun call _ => call.take receiver) call) receiver

/-! ## Steps of the stream -/

/-- Awaits a task that has ended; a task awaited or cancelled before is no trouble. -/
def join (call : Call) : Except BridgeError Unit × Call :=
  if call.held then
    let result : Except BridgeError Unit :=
      match call.rpc with
      | .ended .completed => .ok ()
      | .ended (.failed reason) => .error (.forwarder (.putFailed call.destination reason))
      | .ended .cancelled => .error (.forwarder (.putLost call.destination "cancelled"))
      | .running _ => .error (.forwarder (.putLost call.destination "still running"))
    (result, { call with held := false })
  else (.ok (), call)

/-- Puts a batch into the channel.  When its far end is gone, what became of the task is the answer,
and it is an error in any case: the batch was not taken. -/
def write (batch : Batch) (call : Call) : Except BridgeError Unit × Call :=
  if call.sending then
    if call.attached then (.ok (), { call with queue := call.queue ++ [batch] })
    else
      match { call with sending := false }.join with
      | (.ok (), call) => (.error (.forwarder (.putEndedEarly call.destination)), call)
      | (.error error, call) => (.error error, call)
  else (.error (.forwarder (.streamClosed call.destination)), call)

/-- Drops the sender, which ends the request stream. -/
def endInput (call : Call) : Call := { call with sending := false }

/-- Ends the request stream and awaits the task. -/
def close (call : Call) (receiver : Receiver) : Except BridgeError Unit × Call × Receiver :=
  let (call, receiver) := call.endInput.settle receiver
  let (result, call) := call.join
  (result, call, receiver)

/-- Cancels the task, if it is still held.  A stream that is dropped does so without waiting. -/
def cancel (call : Call) : Call :=
  if call.held then
    let call := { call with held := false }
    match call.rpc with
    | .running _ => call.endRpc .cancelled
    | .ended _ => call
  else call

/-- Cancels the task and only then ends the request stream. -/
def abort (call : Call) : Call := call.cancel.endInput

end Call
end BatchBridge.Flight
