import BatchBridge.Batch.Basic

/-!
# The buffers of a batch

A column lies in memory as a few buffers: which cells are there, the fixed-width values or the
offsets of the texts, and the texts behind each other.  Buffers are whole blocks of 64 bytes.

* `padded` — the size of a buffer for so many bytes.
* `TextBuilder` — texts behind each other, with an offset of 32 bits for the end of each.  It takes
  no text that ends where no offset can point.
* `Batch.memory` — how much room the buffers of a batch take up.  Room that was set aside and not
  used counts too, since it is not given back.
* `Batch.bodySize` — how many bytes there are to send of them.
-/

namespace BatchBridge

/-- The size of a block. -/
def blockBytes : Nat := 64

/-- A number of bytes, filled up to whole blocks. -/
def padded (n : Nat) : Nat := (n + (blockBytes - 1)) / blockBytes * blockBytes

/-- The bytes of a cell's text. -/
def Value.textBytes : Value → Nat
  | .text s => s.utf8ByteSize
  | _ => 0

/-- The bytes that say which of `rows` cells are there, one bit for each. -/
def validityBytes (rows : Nat) : Nat := (rows + 7) / 8

/-- A buffer that texts are appended to. -/
structure TextBuffer where
  used : Nat
  room : Nat
  deriving DecidableEq, Repr

namespace TextBuffer

/-- Without text, with so much room set aside. -/
def withRoom (n : Nat) : TextBuffer := ⟨0, padded n⟩

/-- Appends `n` bytes.  A buffer without room for them grows to twice its size at least. -/
def append (n : Nat) (buffer : TextBuffer) : TextBuffer :=
  let used := buffer.used + n
  ⟨used, if used ≤ buffer.room then buffer.room else max (padded used) (2 * buffer.room)⟩

end TextBuffer

/-! ## Offsets -/

/-- The largest offset. -/
def maxOffset : Nat := 2147483647

/-- The offset that points behind so many bytes, if there is one. -/
def offset? (bytes : Nat) : Option Int32 :=
  if bytes ≤ maxOffset then some (Int32.ofNat bytes) else none

/-- A column of texts that is being filled. -/
structure TextBuilder where
  texts : TextBuffer
  /-- Where the first text begins, and where each of them ends. -/
  offsets : Array Int32
  deriving DecidableEq, Repr

namespace TextBuilder

/-- Without cells, with so much room set aside for their texts. -/
def withRoom (n : Nat) : TextBuilder := ⟨.withRoom n, #[0]⟩

/-- Appends the text of a cell, or that of a null, which is empty.  If no offset can point behind
it, the builder is lost. -/
def append? (builder : TextBuilder) (value : Value) : Option TextBuilder :=
  let texts := builder.texts.append value.textBytes
  (offset? texts.used).map fun offset => ⟨texts, builder.offsets.push offset⟩

end TextBuilder

/-! ## Sizes -/

namespace Column

/-- The bytes of all texts. -/
def textBytes (column : Column) : Nat :=
  column.values.foldl (fun n value => n + value.textBytes) 0

/-- The room of a column's buffers, where texts had `textRoom` set aside for them.  A column in
which no cell is missing has no buffer to say so. -/
def memory (rows textRoom : Nat) (column : Column) : Nat :=
  let validity := if column.nullCount = 0 then 0 else padded (validityBytes rows)
  let values := match column.field.dataType with
    | .int32 => padded (4 * rows)
    | .int64 | .float64 => padded (8 * rows)
    | .utf8 =>
      let texts := column.values.foldl (fun texts value => texts.append value.textBytes)
        (TextBuffer.withRoom textRoom)
      padded (4 * (rows + 1)) + texts.room
  validity + values

/-- The bytes of a column's buffers, each filled up to whole blocks. -/
def bodySize (rows : Nat) (column : Column) : Nat :=
  let values := match column.field.dataType with
    | .int32 => padded (4 * rows)
    | .int64 | .float64 => padded (8 * rows)
    | .utf8 => padded (4 * (rows + 1)) + padded column.textBytes
  padded (validityBytes rows) + values

end Column

namespace Batch

/-- The room of all buffers. -/
def memory (batch : Batch) : Nat :=
  batch.columns.foldl (fun n column => n + column.memory batch.rows batch.textRoom) 0

/-- The bytes of all buffers. -/
def bodySize (batch : Batch) : Nat :=
  batch.columns.foldl (fun n column => n + column.bodySize batch.rows) 0

end Batch
end BatchBridge
