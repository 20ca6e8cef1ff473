import BatchBridge.Batch.Basic
import BatchBridge.Text.Utf8
import Mathlib.Data.List.Forall2

/-!
# How batches are spelled

A payload is a text in a small language: a row count, and behind it the cells, row by row.  This
file gives the language apart from any reader or writer.  A cell can be spelled in more than one
way: any nonzero byte says that there is no value, and a text may have malformed bytes.  What is
written down here is therefore the spelling of each cell, not its value.

* `Spelling` — a cell as it stands in a payload, with its `bytes` and its `value`.
* `Spelling.payload` — the bytes of a table of spelled cells.
* `Spelling.OfSchema` — the table is one of a schema.
* **`Spelling.payload_append_inj`** — a payload spells one table only, and it can be told from the
  payload where that ends.
-/

namespace BatchBridge

/-- A cell as it stands in a payload. -/
inductive Spelling where
  /-- No value; the indicator says so. -/
  | null (indicator : UInt8)
  | int (n : Int32)
  | bigInt (n : Int64)
  | double (bits : UInt64)
  /-- A text, of whatever bytes. -/
  | text (bytes : Bytes)
  deriving DecidableEq, Repr

namespace Spelling

/-- The bytes of a cell. -/
def bytes : Spelling → Bytes
  | null indicator => [indicator]
  | int n => 0 :: Bytes.ofNatBE 4 n.toUInt32.toNat
  | bigInt n => 0 :: Bytes.ofNatBE 8 n.toUInt64.toNat
  | double bits => 0 :: Bytes.ofNatBE 8 bits.toNat
  | text bytes => 0 :: (Bytes.ofNatBE 2 bytes.length ++ bytes)

/-- The value of a cell. -/
def value : Spelling → Value
  | null _ => .null
  | int n => .int n
  | bigInt n => .bigInt n
  | double bits => .double bits
  | text bytes => .text (Utf8.decodeLossy bytes)

/-- The cell can stand in a column of the type.  The indicator of a null is any byte but zero, and
the length of a text has two bytes. -/
def OfType (type : LogicalType) : Spelling → Prop
  | null indicator => indicator ≠ 0
  | int _ => type = .integer
  | bigInt _ => type = .bigInt
  | double _ => type = .double
  | text bytes => type = .varchar ∧ bytes.length < Bytes.span 2

/-- The cells of one row, one for each column. -/
abbrev OfColumns (columns : List ColumnDef) (row : List Spelling) : Prop :=
  List.Forall₂ (fun column cell => OfType column.type cell) columns row

/-- The bytes of cells behind each other. -/
def rowBytes (row : List Spelling) : Bytes := row.flatMap bytes

/-- The bytes of rows behind each other. -/
def tableBytes (table : List (List Spelling)) : Bytes := table.flatMap rowBytes

/-- A payload: the row count and the rows. -/
def payload (table : List (List Spelling)) : Bytes :=
  Bytes.ofNatBE 4 table.length ++ tableBytes table

/-- The values of a table. -/
def values (table : List (List Spelling)) : List (List Value) := table.map (·.map value)

/-- The table is one of the schema, and its length can be written down. -/
structure OfSchema (schema : ColumnSchema) (table : List (List Spelling)) : Prop where
  count : table.length < Bytes.span 4
  rows : ∀ row ∈ table, OfColumns schema.columns row

@[simp] theorem rowBytes_nil : rowBytes [] = [] := rfl

@[simp] theorem rowBytes_cons (cell : Spelling) (row : List Spelling) :
    rowBytes (cell :: row) = cell.bytes ++ rowBytes row := rfl

@[simp] theorem tableBytes_nil : tableBytes [] = [] := rfl

@[simp] theorem tableBytes_cons (row : List Spelling) (table : List (List Spelling)) :
    tableBytes (row :: table) = rowBytes row ++ tableBytes table := rfl

theorem length_rowBytes_text (text : Bytes) : (rowBytes [.text text]).length = text.length + 3 := by
  rw [rowBytes_cons, rowBytes_nil, List.append_nil, bytes, List.length_cons, List.length_append,
    Bytes.length_ofNatBE]
  omega

theorem length_tableBytes_replicate (n : Nat) (row : List Spelling) :
    (tableBytes (List.replicate n row)).length = n * (rowBytes row).length := by
  rw [tableBytes, List.flatMap_replicate, List.length_flatten, List.map_replicate,
    List.sum_replicate_nat]

@[simp] theorem length_values (table : List (List Spelling)) :
    (values table).length = table.length := List.length_map ..

/-- A row of cells has a value for each column. -/
theorem length_of_mem_values {columns : List ColumnDef} {table : List (List Spelling)}
    (h : ∀ row ∈ table, OfColumns columns row) :
    ∀ row ∈ values table, row.length = columns.length := by
  intro row hmem
  obtain ⟨cells, hcells, rfl⟩ := List.mem_map.1 hmem
  rw [List.length_map, (h cells hcells).length_eq]

/-! ## One spelling only -/

theorem ofNatBE_append_inj {width m n : Nat} (hm : m < Bytes.span width) (hn : n < Bytes.span width)
    {front back : Bytes} (h : Bytes.ofNatBE width m ++ front = Bytes.ofNatBE width n ++ back) :
    m = n ∧ front = back := by
  obtain ⟨hbytes, hrest⟩ := List.append_inj h (by simp)
  refine ⟨?_, hrest⟩
  rw [← Bytes.toNatBE_ofNatBE_of_lt hm, hbytes, Bytes.toNatBE_ofNatBE_of_lt hn]

/-- **Where a cell ends can be told from the cell**, and so can which cell it is. -/
theorem bytes_append_inj {type : LogicalType} {a b : Spelling} (ha : a.OfType type)
    (hb : b.OfType type) {front back : Bytes} (h : a.bytes ++ front = b.bytes ++ back) :
    a = b ∧ front = back := by
  cases a with
  | null i =>
    cases b with
    | null j => simpa [bytes] using h
    | _ => exact absurd (List.cons.inj h).1 ha
  | int m =>
    cases b with
    | null j => exact absurd (List.cons.inj h).1.symm hb
    | int n =>
      obtain ⟨hmn, hrest⟩ := ofNatBE_append_inj m.toUInt32.toNat_lt n.toUInt32.toNat_lt
        (List.cons.inj h).2
      refine ⟨congrArg int ?_, hrest⟩
      rw [← Int32.toInt32_toUInt32 m, UInt32.toNat_inj.1 hmn, Int32.toInt32_toUInt32]
    | _ => simp_all [OfType]
  | bigInt m =>
    cases b with
    | null j => exact absurd (List.cons.inj h).1.symm hb
    | bigInt n =>
      obtain ⟨hmn, hrest⟩ := ofNatBE_append_inj m.toUInt64.toNat_lt n.toUInt64.toNat_lt
        (List.cons.inj h).2
      refine ⟨congrArg bigInt ?_, hrest⟩
      rw [← Int64.toInt64_toUInt64 m, UInt64.toNat_inj.1 hmn, Int64.toInt64_toUInt64]
    | _ => simp_all [OfType]
  | double m =>
    cases b with
    | null j => exact absurd (List.cons.inj h).1.symm hb
    | double n =>
      obtain ⟨hmn, hrest⟩ := ofNatBE_append_inj m.toNat_lt n.toNat_lt (List.cons.inj h).2
      exact ⟨congrArg double (UInt64.toNat_inj.1 hmn), hrest⟩
    | _ => simp_all [OfType]
  | text s =>
    cases b with
    | null j => exact absurd (List.cons.inj h).1.symm hb
    | text t =>
      have hbody : Bytes.ofNatBE 2 s.length ++ (s ++ front) =
          Bytes.ofNatBE 2 t.length ++ (t ++ back) := by simpa [bytes] using h
      obtain ⟨hlength, hrest⟩ := ofNatBE_append_inj ha.2 hb.2 hbody
      obtain ⟨rfl, rfl⟩ := List.append_inj hrest hlength
      exact ⟨rfl, rfl⟩
    | _ => simp_all [OfType]

theorem rowBytes_append_inj {columns : List ColumnDef} {a b : List Spelling}
    (ha : OfColumns columns a) (hb : OfColumns columns b) {front back : Bytes}
    (h : rowBytes a ++ front = rowBytes b ++ back) : a = b ∧ front = back := by
  induction ha generalizing b with
  | nil =>
    cases hb
    exact ⟨rfl, h⟩
  | cons hcell _ ih =>
    cases hb with
    | cons hcell' hrest =>
      rw [rowBytes_cons, rowBytes_cons, List.append_assoc, List.append_assoc] at h
      obtain ⟨rfl, hcells⟩ := bytes_append_inj hcell hcell' h
      obtain ⟨rfl, rfl⟩ := ih hrest hcells
      exact ⟨rfl, rfl⟩

theorem tableBytes_append_inj {columns : List ColumnDef} {a b : List (List Spelling)}
    (hlength : a.length = b.length) (ha : ∀ row ∈ a, OfColumns columns row)
    (hb : ∀ row ∈ b, OfColumns columns row) {front back : Bytes}
    (h : tableBytes a ++ front = tableBytes b ++ back) : a = b ∧ front = back := by
  induction a generalizing b with
  | nil =>
    cases List.eq_nil_of_length_eq_zero hlength.symm
    exact ⟨rfl, h⟩
  | cons row a ih =>
    cases b with
    | nil => cases hlength
    | cons row' b =>
      obtain ⟨hrow, hrows⟩ := List.forall_mem_cons.1 ha
      obtain ⟨hrow', hrows'⟩ := List.forall_mem_cons.1 hb
      rw [tableBytes_cons, tableBytes_cons, List.append_assoc, List.append_assoc] at h
      obtain ⟨rfl, hrest⟩ := rowBytes_append_inj hrow hrow' h
      obtain ⟨rfl, rfl⟩ := ih (Nat.succ.inj hlength) hrows hrows' hrest
      exact ⟨rfl, rfl⟩

/-- **A payload spells one table only**, whatever follows it. -/
theorem payload_append_inj {schema : ColumnSchema} {a b : List (List Spelling)}
    (ha : OfSchema schema a) (hb : OfSchema schema b) {front back : Bytes}
    (h : payload a ++ front = payload b ++ back) : a = b ∧ front = back := by
  rw [payload, payload, List.append_assoc, List.append_assoc] at h
  obtain ⟨hlength, h⟩ := ofNatBE_append_inj ha.count hb.count h
  exact tableBytes_append_inj hlength ha.rows hb.rows h

end Spelling

end BatchBridge
