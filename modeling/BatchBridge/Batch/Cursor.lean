import BatchBridge.Error

/-!
# Reading off a payload

A cursor reads a payload from front to back.  Every read asks for its bytes first and says, when
there are too few, how many it needed, where, and how many were left.
-/

namespace BatchBridge

/-- A payload of `total` bytes of which `rest` are still unread. -/
structure Cursor where
  total : Nat
  rest : Bytes
  deriving DecidableEq, Repr

namespace Cursor

/-- At the start of a payload. -/
def ofPayload (payload : Bytes) : Cursor := ⟨payload.length, payload⟩

/-- How many bytes have been read. -/
def offset (cursor : Cursor) : Nat := cursor.total - cursor.rest.length

/-- The next `n` bytes. -/
def take (n : Nat) (cursor : Cursor) : Except Truncation (Bytes × Cursor) :=
  match Bytes.split? n cursor.rest with
  | some (front, rest) => .ok (front, { cursor with rest })
  | none => .error ⟨n, cursor.offset, cursor.rest.length⟩

/-- The next `width` bytes as a number. -/
def number (width : Nat) (cursor : Cursor) : Except Truncation (Nat × Cursor) :=
  match cursor.take width with
  | .ok (bytes, cursor) => .ok (Bytes.toNatBE bytes, cursor)
  | .error short => .error short

/-- A present cell of a type.  Text comes with its length before it, and bytes that are not UTF-8
are read as far as they go. -/
def value (type : LogicalType) (cursor : Cursor) : Except Truncation (Value × Cursor) :=
  match type with
  | .integer => (cursor.number 4).map fun (n, cursor) => (.int (UInt32.ofNat n).toInt32, cursor)
  | .bigInt => (cursor.number 8).map fun (n, cursor) => (.bigInt (UInt64.ofNat n).toInt64, cursor)
  | .double => (cursor.number 8).map fun (n, cursor) => (.double (UInt64.ofNat n), cursor)
  | .varchar =>
    match cursor.number 2 with
    | .error short => .error short
    | .ok (length, cursor) =>
      (cursor.take length).map fun (bytes, cursor) => (.text (Utf8.decodeLossy bytes), cursor)

/-- A cell of a column: an indicator, which is nonzero for a null, and then the value. -/
def cell (row : Nat) (column : ColumnDef) (cursor : Cursor) :
    Except BatchFault (Value × Cursor) :=
  match cursor.number 1 with
  | .error short => .error (.truncated (.nullIndicator row column.name) short)
  | .ok (indicator, cursor) =>
    if indicator = 0 then
      match cursor.value column.type with
      | .error short => .error (.truncated (.value row column.name column.type) short)
      | .ok (value, cursor) => .ok (value, cursor)
    else .ok (.null, cursor)

end Cursor
end BatchBridge
