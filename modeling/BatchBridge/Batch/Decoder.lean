import BatchBridge.Batch.Buffers
import BatchBridge.Batch.Cursor

/-!
# From payloads to batches

A payload holds its cells row by row, behind a row count; a batch holds them column by column.
Each cell goes straight from the payload to the end of its column.

* `Decoded` — a batch, an error, or nothing at all: a column can get more text than its offsets can
  reach, and then its builder is lost, and whoever fills it with it.
* `ColumnBuilder` — a column that is being filled.
* `appendRow`, `appendRows` — take rows off the payload.
* `decode` — the batch of a payload under a schema.  Bytes after the last row are ignored, and a
  schema without columns needs nothing but the row count.
* `builderCapacity` — how large columns have to be expected to become.  The declared row count is
  no measure, since it is only a claim: the size of the payload is.
-/

namespace BatchBridge

/-- What comes of decoding. -/
inductive Decoded (ε α : Type) where
  | ok (a : α)
  | error (e : ε)
  /-- A builder was lost, and nobody is left to say so. -/
  | lost
  deriving DecidableEq, Repr

namespace Decoded

variable {ε ε' α β : Type}

/-- A result that no builder had a part in. -/
def ofExcept : Except ε α → Decoded ε α
  | .ok a => .ok a
  | .error e => .error e

/-- Goes on with what has been decoded. -/
def bind (decoded : Decoded ε α) (next : α → Decoded ε β) : Decoded ε β :=
  match decoded with
  | .ok a => next a
  | .error e => .error e
  | .lost => .lost

/-- Changes what has been decoded. -/
def map (f : α → β) : Decoded ε α → Decoded ε β
  | .ok a => .ok (f a)
  | .error e => .error e
  | .lost => .lost

/-- Changes the error. -/
def mapError (f : ε → ε') : Decoded ε α → Decoded ε' α
  | .ok a => .ok a
  | .error e => .error (f e)
  | .lost => .lost

end Decoded

/-- A column and the cells it has so far. -/
structure ColumnBuilder where
  column : ColumnDef
  values : Array Value
  /-- The texts of the cells.  A cell without text adds nothing to them. -/
  texts : TextBuilder

namespace ColumnBuilder

/-- Without cells, with room set aside for so many and for so many bytes of text. -/
def withRoom (capacity textRoom : Nat) (column : ColumnDef) : ColumnBuilder :=
  ⟨column, Array.mkEmpty capacity, .withRoom textRoom⟩

/-- One more cell, unless its text is too far behind. -/
def push? (builder : ColumnBuilder) (value : Value) : Option ColumnBuilder :=
  (builder.texts.append? value).map fun texts =>
    { builder with values := builder.values.push value, texts }

/-- The finished column. -/
def finish (builder : ColumnBuilder) : Column :=
  { field := builder.column.field, values := builder.values }

end ColumnBuilder

namespace Batch

/-- Row and text capacity per column for a payload that declares `rowCount` rows and has
`remaining` bytes behind that.  A cell takes at least its indicator, so no column can hold more
cells than its share of the bytes, and all texts together no more bytes than there are. -/
def builderCapacity (rowCount remaining columns : Nat) : Nat × Nat :=
  let perColumn := remaining / max columns 1
  (min rowCount perColumn, perColumn)

/-- Takes one row off the payload, a cell for each column. -/
def appendRow (row : Nat) :
    List ColumnBuilder → Cursor → Decoded BatchFault (List ColumnBuilder × Cursor)
  | [], cursor => .ok ([], cursor)
  | builder :: builders, cursor =>
    match cursor.cell row builder.column with
    | .error fault => .error fault
    | .ok (value, cursor) =>
      match builder.push? value with
      | none => .lost
      | some builder =>
        (appendRow row builders cursor).map fun (builders, cursor) => (builder :: builders, cursor)

/-- Takes `count` rows off the payload, of which the first has the number `row`. -/
def appendRows :
    Nat → Nat → List ColumnBuilder → Cursor → Decoded BatchFault (List ColumnBuilder × Cursor)
  | 0, _, builders, cursor => .ok (builders, cursor)
  | count + 1, row, builders, cursor =>
    (appendRow row builders cursor).bind fun (builders, cursor) =>
      appendRows count (row + 1) builders cursor

/-- The batch that a payload holds under a schema. -/
def decode (schema : ColumnSchema) (payload : Bytes) : Decoded BatchFault Batch :=
  match (Cursor.ofPayload payload).number 4 with
  | .error short => .error (.truncated .rowCount short)
  | .ok (rows, cursor) =>
    if schema.columns.isEmpty then .ok { rows, columns := [] }
    else
      let (capacity, textRoom) := builderCapacity rows cursor.rest.length schema.width
      let empty := schema.columns.map (.withRoom capacity textRoom)
      (appendRows rows 0 empty cursor).map fun (builders, _) =>
        { rows, columns := builders.map ColumnBuilder.finish, textRoom }

end Batch
end BatchBridge
