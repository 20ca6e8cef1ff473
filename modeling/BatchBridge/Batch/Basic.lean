import BatchBridge.Decimal.Layout
import BatchBridge.Schema.Basic
import BatchBridge.Text.Quoted

/-!
# Values, columns and batches

* `Value` — one cell.  A double is kept as its 64 bits, so that no payload of a NaN and no sign of
  a zero is ever lost.
* `Column`, `Batch` — what the sink receives: named columns of equal length.  A batch carries its
  row count beside its columns, because it may have no columns at all.
* `Batch.slice` — some of the rows of a batch, one after the other.
* `Value.describe` — a value in words, for error messages.
-/

namespace BatchBridge

/-- One cell of a batch. -/
inductive Value where
  | null
  | int (n : Int32)
  | bigInt (n : Int64)
  | double (bits : UInt64)
  | text (s : String)
  deriving DecidableEq, Repr, Inhabited

namespace Value

/-- The type a present cell belongs to. -/
def type? : Value → Option LogicalType
  | null => none
  | int _ => some .integer
  | bigInt _ => some .bigInt
  | double _ => some .double
  | text _ => some .varchar

/-- Numbers from a ten-thousandth up to ten quadrillion are written out, others scientifically. -/
def doubleLayout : Decimal.Layout := ⟨-4, 16, "NaN", "inf"⟩

/-- The kind of a value and the value itself. -/
def describe : Value → String
  | null => "Null"
  | int n => "Int(" ++ toString n.toInt ++ ")"
  | bigInt n => "BigInt(" ++ toString n.toInt ++ ")"
  | double bits => "Double(" ++ doubleLayout.write bits ++ ")"
  | text s => "Text(" ++ Text.quoted s ++ ")"

end Value

/-- A named column of cells. -/
structure Column where
  field : Field
  values : Array Value
  deriving DecidableEq, Repr

namespace Column

/-- How many cells hold nothing. -/
def nullCount (column : Column) : Nat := column.values.count .null

/-- The cells of `count` rows from row `start` on. -/
def slice (start count : Nat) (column : Column) : Column :=
  { column with values := column.values.extract start (start + count) }

end Column

/-- Rows by columns. -/
structure Batch where
  rows : Nat
  columns : List Column
  /-- How many bytes were set aside for the text of each column when the batch was read. -/
  textRoom : Nat := 0
  deriving DecidableEq, Repr

namespace Batch

/-- How many cells of all columns hold nothing. -/
def nullCount (batch : Batch) : Nat :=
  batch.columns.foldl (fun count column => count + column.nullCount) 0

/-- How many rows batches have together. -/
def totalRows : List Batch → Nat
  | [] => 0
  | batch :: rest => batch.rows + totalRows rest

@[simp] theorem totalRows_append (front back : List Batch) :
    totalRows (front ++ back) = totalRows front + totalRows back := by
  induction front with
  | nil => simp [totalRows]
  | cons batch rest ih => simp [totalRows, ih, Nat.add_assoc]

/-- `count` rows from row `start` on. -/
def slice (start count : Nat) (batch : Batch) : Batch :=
  { batch with rows := count, columns := batch.columns.map (·.slice start count) }

/-- The cells of row `r`, in column order. -/
def row (batch : Batch) (r : Nat) : List Value :=
  batch.columns.map fun column => column.values.getD r .null

end Batch
end BatchBridge
