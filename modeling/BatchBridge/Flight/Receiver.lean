import BatchBridge.Flight.Message

/-!
# Receiving streams by remote call

The far end of a remote sink.  A `DoPut` call carries the schema and the batches of one stream; the
receiver keeps what a call has brought and commits it, all at once, when the call ends cleanly.

* `PutStatus` — how the receiver may turn a call down.
* `PutState` — how far a call has come.  `PutState.receive` takes in a message; the destination is
  checked with the first one.  A message above `maxMessageBytes` is turned down unseen.
* `Receiver` — what has been committed, and the destinations that are not accepted.
* `Receiver.finish` — the clean end of a call.  A call that is cut off never gets there.
-/

namespace BatchBridge.Flight

/-- Why a call fails. -/
inductive PutStatus where
  /-- The first message has too many bytes. -/
  | tooLarge (bytes : Nat)
  | noMessage
  | noPath
  | notAccepted (destination : String)
  | undecodable (reason : String)
  | unimplemented
  deriving DecidableEq, Repr

namespace PutStatus

/-- The code that the caller sees. -/
def code : PutStatus → String
  | tooLarge _ => "OutOfRange"
  | noMessage | noPath => "InvalidArgument"
  | notAccepted _ => "PermissionDenied"
  | undecodable _ => "Internal"
  | unimplemented => "Unimplemented"

/-- The text that the caller sees. -/
def message : PutStatus → String
  | tooLarge bytes =>
    "Error, decoded message length too large: found " ++ toString bytes ++
      " bytes, the limit is: " ++ toString maxMessageBytes ++ " bytes"
  | noMessage => "Empty DoPut stream"
  | noPath => "DoPut requires a descriptor path"
  | notAccepted destination => "Destination '" ++ destination ++ "' is not accepted"
  | undecodable reason => "Decoding error: " ++ reason
  | unimplemented => "Not implemented"

end PutStatus

/-! ## Calls -/

/-- A call whose destination has been accepted. -/
structure Put where
  destination : String
  /-- The schema, once it has come. -/
  fields : Option (List Field)
  batches : List Batch
  deriving DecidableEq, Repr

/-- Takes in the content of a message.  The schema comes first, and once; a message with nothing in
it may come at any time. -/
def Put.decode (put : Put) (content : PutContent) : Except PutStatus Put :=
  match content, put.fields with
  | .fields fields, none => .ok { put with fields := some fields }
  | .fields _, some _ => .error (.undecodable "a second schema")
  | .batch batch, some _ => .ok { put with batches := put.batches ++ [batch] }
  | .batch _, none => .error (.undecodable "a batch before the schema")
  | .nothing .., _ => .ok put
  | .dictionary .., some _ => .error (.undecodable "a dictionary that no field refers to")
  | .dictionary .., none => .error (.undecodable "a dictionary before the schema")
  | .undecodable .., _ => .error (.undecodable "not a message")

/-- Takes in a message other than the first. -/
def Put.receive (put : Put) (message : PutMessage) : Except PutStatus Put :=
  if message.size ≤ maxMessageBytes then put.decode message.content
  else .error (.undecodable "a message that is too large")

/-- How far a call has come. -/
inductive PutState where
  /-- Before its first message. -/
  | waiting
  | receiving (put : Put)
  | refused (status : PutStatus)
  deriving DecidableEq, Repr

/-- The destination that a descriptor names. -/
def destinationOf : Option (List String) → Option String
  | none | some [] => none
  | some path => some ("/".intercalate path)

/-- The streams received so far. -/
structure Receiver where
  /-- The batches of each destination, ordered by destination. -/
  committed : List (String × List Batch)
  /-- The destinations that are not accepted. -/
  rejected : List String
  deriving DecidableEq, Repr

namespace Receiver

/-- Before the first call. -/
def new : Receiver := ⟨[], []⟩

/-- From now on accepts no call for a destination. -/
def reject (destination : String) (receiver : Receiver) : Receiver :=
  { receiver with rejected := destination :: receiver.rejected }

/-- The batches committed for a destination. -/
def batches (destination : String) (receiver : Receiver) : List Batch :=
  (receiver.committed.lookup destination).getD []

/-- The number of rows committed for a destination. -/
def rows (destination : String) (receiver : Receiver) : Nat :=
  Batch.totalRows (receiver.batches destination)

/-- The destinations that streams have been committed for. -/
def destinations (receiver : Receiver) : List String := receiver.committed.map (·.1)

/-- Adds batches to those of a destination, which need not have any so far. -/
def append (destination : String) (batches : List Batch) :
    List (String × List Batch) → List (String × List Batch)
  | [] => [(destination, batches)]
  | (name, held) :: rest =>
    if destination = name then (name, held ++ batches) :: rest
    else if destination < name then (destination, batches) :: (name, held) :: rest
    else (name, held) :: append destination batches rest

/-- Commits the batches of a stream. -/
def commit (put : Put) (receiver : Receiver) : Receiver :=
  { receiver with committed := append put.destination put.batches receiver.committed }

end Receiver

/-- What the first message decides: whether the call has a destination that is accepted. -/
def PutState.begin (receiver : Receiver) (message : PutMessage) : Except PutStatus Put :=
  if message.size ≤ maxMessageBytes then
    match destinationOf message.path with
    | none => .error .noPath
    | some destination =>
      if receiver.rejected.contains destination then .error (.notAccepted destination)
      else .ok ⟨destination, none, []⟩
  else .error (.tooLarge message.size)

/-- The state that a result leads to. -/
def PutState.ofResult : Except PutStatus Put → PutState
  | .ok put => .receiving put
  | .error status => .refused status

/-- Takes in a message. -/
def PutState.receive (receiver : Receiver) (message : PutMessage) : PutState → PutState
  | .waiting => .ofResult ((begin receiver message).bind (·.decode message.content))
  | .receiving put => .ofResult (put.receive message)
  | .refused status => .refused status

namespace Receiver

/-- The clean end of a call: what it has brought is committed, unless it has been refused. -/
def finish (state : PutState) (receiver : Receiver) : Except PutStatus Unit × Receiver :=
  match state with
  | .waiting => (.error .noMessage, receiver)
  | .receiving put => (.ok (), receiver.commit put)
  | .refused status => (.error status, receiver)

/-- A whole call. -/
def put (messages : List PutMessage) (receiver : Receiver) : Except PutStatus Unit × Receiver :=
  receiver.finish (messages.foldl (fun state message => state.receive receiver message) .waiting)

end Receiver

end BatchBridge.Flight
