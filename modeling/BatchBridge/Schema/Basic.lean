/-!
# Column types and schemas

A stream announces its columns once, by name and type tag, before any batch.

* `LogicalType` — the four types of the wire, with their tags.
* `DataType`, `Field` — the types and columns that a sink sees.
* `ColumnDef`, `ColumnSchema` — the announced columns.  A column keeps the tag it was declared
  with, which differs from its type's own tag when an unknown tag is read as text.
-/

namespace BatchBridge

/-- The column types that travel. -/
inductive LogicalType where
  | integer
  | bigInt
  | double
  | varchar
  deriving DecidableEq, Repr

namespace LogicalType

/-- The tag that announces the type. -/
def tag : LogicalType → String
  | integer => "INTEGER"
  | bigInt => "BIGINT"
  | double => "DOUBLE"
  | varchar => "VARCHAR"

/-- The type a tag announces.  Tags are matched exactly. -/
def ofTag? (tag : String) : Option LogicalType :=
  if tag = "INTEGER" then some integer
  else if tag = "BIGINT" then some bigInt
  else if tag = "DOUBLE" then some double
  else if tag = "VARCHAR" then some varchar
  else none

@[simp] theorem ofTag?_tag (type : LogicalType) : ofTag? type.tag = some type := by
  cases type <;> simp [ofTag?, tag]

theorem ofTag?_eq_some_iff {text : String} {type : LogicalType} :
    ofTag? text = some type ↔ text = type.tag := by
  constructor
  · intro h
    simp only [ofTag?] at h
    (repeat' split at h) <;> simp_all [tag] <;> (subst h; rfl)
  · rintro rfl
    exact ofTag?_tag type

end LogicalType

/-- The types of the columns that a sink receives. -/
inductive DataType where
  | int32
  | int64
  | float64
  | utf8
  deriving DecidableEq, Repr

/-- The name of a data type. -/
def DataType.name : DataType → String
  | int32 => "Int32"
  | int64 => "Int64"
  | float64 => "Float64"
  | utf8 => "Utf8"

/-- How a column of a logical type is handed on. -/
def LogicalType.dataType : LogicalType → DataType
  | integer => .int32
  | bigInt => .int64
  | double => .float64
  | varchar => .utf8

/-- A column as a sink sees it.  Every column may hold nulls. -/
structure Field where
  name : String
  dataType : DataType
  nullable : Bool := true
  deriving DecidableEq, Repr

/-- What to do with a tag that announces no type. -/
inductive TypePolicy where
  /-- Read the column as text. -/
  | permissive
  /-- Refuse the schema. -/
  | strict
  deriving DecidableEq, Repr

/-- An announced column. -/
structure ColumnDef where
  name : String
  type : LogicalType
  /-- The tag as it was sent. -/
  declared : String
  deriving DecidableEq, Repr

namespace ColumnDef

/-- A column declared with its type's own tag. -/
def ofType (name : String) (type : LogicalType) : ColumnDef :=
  { name, type, declared := type.tag }

/-- Whether the column is read as another type than it was declared with. -/
def isRemapped (column : ColumnDef) : Bool :=
  column.declared != column.type.tag

/-- The column as a sink sees it. -/
def field (column : ColumnDef) : Field :=
  { name := column.name, dataType := column.type.dataType }

@[simp] theorem isRemapped_ofType (name : String) (type : LogicalType) :
    (ofType name type).isRemapped = false := by
  simp [ofType, isRemapped]

end ColumnDef

/-- The column layout of one stream. -/
structure ColumnSchema where
  columns : List ColumnDef
  deriving DecidableEq, Repr

namespace ColumnSchema

/-- The number of columns. -/
def width (schema : ColumnSchema) : Nat := schema.columns.length

/-- The columns as a sink sees them. -/
def fields (schema : ColumnSchema) : List Field := schema.columns.map ColumnDef.field

@[simp] theorem length_fields (schema : ColumnSchema) : schema.fields.length = schema.width := by
  simp [fields, width]

end ColumnSchema
end BatchBridge
