import BatchBridge.Error

/-!
# From rows to payloads

The producer's side of a batch: rows are checked against the schema one by one and written behind
each other.

* `Value.encode`, `encodeRow` — the bytes of a cell and of a row, or what is wrong with it.
* `PayloadBuilder` — the rows so far.  A rejected row leaves no trace in it.
* `payloadOfRows` — the payload of rows that all fit.
-/

namespace BatchBridge

/-- The longest text that a cell can hold, in bytes. -/
def maxTextBytes : Nat := 65535

/-- The bytes of a cell: 01 for a null, else 00 and the value. -/
def Value.encode (column : ColumnDef) (value : Value) : Except ProtocolFault Bytes :=
  match value, column.type with
  | .null, _ => .ok [1]
  | .int n, .integer => .ok (0 :: Bytes.ofNatBE 4 n.toUInt32.toNat)
  | .bigInt n, .bigInt => .ok (0 :: Bytes.ofNatBE 8 n.toUInt64.toNat)
  | .double bits, .double => .ok (0 :: Bytes.ofNatBE 8 bits.toNat)
  | .text s, .varchar =>
    let bytes := Utf8.encode s
    if bytes.length ≤ maxTextBytes then .ok (0 :: Bytes.ofNatBE 2 bytes.length ++ bytes)
    else .error (.textTooLong column.name bytes.length)
  | other, type => .error (.wrongType column.name type other)

/-- The bytes of a row's cells, from the first column on; the first bad cell decides. -/
def encodeCells : List ColumnDef → List Value → Except ProtocolFault Bytes
  | column :: columns, value :: values =>
    match value.encode column with
    | .error fault => .error fault
    | .ok bytes =>
      match encodeCells columns values with
      | .error fault => .error fault
      | .ok more => .ok (bytes ++ more)
  | _, _ => .ok []

/-- The bytes of a row. -/
def encodeRow (schema : ColumnSchema) (row : List Value) : Except ProtocolFault Bytes :=
  if row.length = schema.width then encodeCells schema.columns row
  else .error (.rowWidth row.length schema.width)

/-- A payload that is being filled. -/
structure PayloadBuilder where
  schema : ColumnSchema
  rows : Nat
  body : Bytes
  deriving DecidableEq, Repr

namespace PayloadBuilder

/-- Without rows. -/
def new (schema : ColumnSchema) : PayloadBuilder := ⟨schema, 0, []⟩

/-- Appends a row, or says why it does not fit and leaves everything as it was. -/
def pushRow (builder : PayloadBuilder) (row : List Value) :
    Except BridgeError Unit × PayloadBuilder :=
  match encodeRow builder.schema row with
  | .error fault => (.error (.protocol fault), builder)
  | .ok bytes =>
    (.ok (), { builder with rows := builder.rows + 1, body := builder.body ++ bytes })

/-- The payload: the row count and the rows. -/
def finish (builder : PayloadBuilder) : Bytes :=
  Bytes.ofNatBE 4 builder.rows ++ builder.body

/-- Appends rows up to the first that does not fit. -/
def pushRows (builder : PayloadBuilder) : List (List Value) → Except BridgeError PayloadBuilder
  | [] => .ok builder
  | row :: rows =>
    match builder.pushRow row with
    | (.ok (), builder) => pushRows builder rows
    | (.error error, _) => .error error

end PayloadBuilder

/-- The payload of rows, or what is wrong with the first that does not fit. -/
def payloadOfRows (schema : ColumnSchema) (rows : List (List Value)) : Except BridgeError Bytes :=
  ((PayloadBuilder.new schema).pushRows rows).map PayloadBuilder.finish

end BatchBridge
