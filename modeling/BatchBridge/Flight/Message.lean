import BatchBridge.Batch.Buffers

/-!
# Messages of a call

A stream travels as messages: one opens it, with the destination and the schema, and the others
bring its batches.  A message has three parts, each with its length before it: the descriptor that
names the destination, a header that says what the message holds, and a body with the buffers of a
batch.

* `PutContent`, `PutMessage` — what a message holds, and its descriptor.
* `PutMessage.size` — how many bytes a message takes.
* `Batch.chunks` — a batch with large buffers is sent in several messages of equally many rows, and
  one without rows in none.
* `streamMessages` — the messages of a whole stream.
-/

namespace BatchBridge

namespace Flight

/-- What a message of a call holds.  Of what no receiver here makes any use, only the bytes of its
header and of its body are told. -/
inductive PutContent where
  | fields (fields : List Field)
  | batch (batch : Batch)
  /-- The header says that there is nothing in the message. -/
  | nothing (header body : Nat)
  /-- Values for the rows of a field to refer to.  There is no field that refers to any. -/
  | dictionary (header body : Nat)
  /-- What has no header that could be read, or says that it is something else. -/
  | undecodable (header body : Nat)
  deriving DecidableEq, Repr

/-- A message of a call. -/
structure PutMessage where
  /-- The descriptor, which the first message has. -/
  path : Option (List String)
  content : PutContent
  deriving DecidableEq, Repr

/-! ## The size of a message -/

/-- The bytes of a number that is written seven bits at a time. -/
def varintSize (n : Nat) : Nat := n.log2 / 7 + 1

/-- The bytes of a part of `n` bytes with its tag and its length. -/
def partSize (tag n : Nat) : Nat := tag + varintSize n + n

/-- The bytes of a part that is left out when there is nothing in it. -/
def optionalPartSize (tag n : Nat) : Nat := if n = 0 then 0 else partSize tag n

/-- The bytes of a descriptor: its kind and the parts of the path. -/
def descriptorSize (path : List String) : Nat :=
  path.foldl (fun n name => n + partSize 1 name.utf8ByteSize) 2

/-- The bytes of a record about a field: its name, with a zero behind it and filled up to whole
words, and its type. -/
def fieldRecordSize (field : Field) : Nat :=
  let name := (field.name.utf8ByteSize + 4) / 4 * 4
  let type := match field.dataType with
    | .int32 | .int64 => 44
    | .float64 => 40
    | .utf8 => 36
  name + type

/-- The bytes of the layouts that the records of a schema share, one for each kind of record. -/
def layoutsSize (fields : List Field) : Nat :=
  let has (dataType : DataType) : Bool := fields.any (·.dataType = dataType)
  let texts := if has .utf8 then 4 else 0
  let integers := if has .int32 || has .int64 then 8 else 0
  let doubles := if has .float64 then 8 + 16 else 0
  let others := if fields.length > (if has .float64 then 1 else 0) then 16 else 0
  texts + integers + doubles + others

/-- The bytes of a header. -/
def PutContent.headerSize : PutContent → Nat
  | .fields schema =>
    schema.foldl (fun n field => n + fieldRecordSize field) (48 + layoutsSize schema)
  | .batch rows =>
    rows.columns.foldl
      (fun n column => n + 16 * (if column.field.dataType = .utf8 then 4 else 3)) 88
  | .nothing header _ | .dictionary header _ | .undecodable header _ => header

/-- The bytes of a body. -/
def PutContent.bodySize : PutContent → Nat
  | .batch rows => rows.bodySize
  | .fields _ => 0
  | .nothing _ body | .dictionary _ body | .undecodable _ body => body

/-- The bytes of a message. -/
def PutMessage.size (message : PutMessage) : Nat :=
  let descriptor := match message.path with
    | none => 0
    | some path => partSize 1 (descriptorSize path)
  descriptor + optionalPartSize 1 message.content.headerSize +
    optionalPartSize 2 message.content.bodySize

/-- The largest message that is received. -/
def maxMessageBytes : Nat := 4 * 1024 * 1024

/-! ## Batches in chunks -/

/-- How much memory the rows of one message should have. -/
def chunkMemory : Nat := 2 * 1024 * 1024

/-- How many rows of a batch go into one message: as many for each as if its memory were shared out
evenly, and one at least. -/
def chunkRows (batch : Batch) : Nat :=
  let chunks := max 1 ((batch.memory + (chunkMemory - 1)) / chunkMemory)
  max 1 (batch.rows / chunks)

end Flight

namespace Batch

/-- The rows of a batch, `size` in a chunk and what is left over in the last. -/
def split (size : Nat) (batch : Batch) : List Batch :=
  (List.range ((batch.rows + (size - 1)) / size)).map fun i =>
    batch.slice (i * size) (min size (batch.rows - i * size))

/-- The rows of a batch as they are sent. -/
def chunks (batch : Batch) : List Batch := batch.split (Flight.chunkRows batch)

end Batch

namespace Flight

/-! ## Messages of a stream -/

/-- The message that opens a stream. -/
def openingMessage (path : Option (List String)) (fields : List Field) : PutMessage :=
  ⟨path, .fields fields⟩

/-- The messages of a batch. -/
def batchMessages (batch : Batch) : List PutMessage :=
  batch.chunks.map fun chunk => ⟨none, .batch chunk⟩

/-- The messages of a whole stream. -/
def streamMessages (path : Option (List String)) (fields : List Field) (batches : List Batch) :
    List PutMessage :=
  openingMessage path fields :: batches.flatMap batchMessages

end Flight
end BatchBridge
