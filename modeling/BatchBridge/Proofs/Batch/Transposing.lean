import BatchBridge.Proofs.Batch.Truncation

/-!
# Decoding transposes

A payload spells its cells row by row and a batch holds them column by column.  This file says
where each cell ends up, and that what `decode` makes of a payload can always be put together to a
batch.

* `Spelling.cell?`, `Batch.value?` — a cell by its row and column, on either side.
* `Batch.Transposes` — a batch is a spelled table by columns.
* **`Batch.transposes_of_contents_eq`** — so is what `decode` makes of the table.
* `Batch.Assembles` — columns fit together to a batch of some fields.
* **`Batch.decode_transposes`** — what `decode` does to a payload, with columns and without.
-/

namespace BatchBridge

namespace Spelling

/-- The cell says that there is no value. -/
def isNull : Spelling → Bool
  | null _ => true
  | _ => false

/-- The cell of row `r` in column `c`. -/
def cell? (table : List (List Spelling)) (r c : Nat) : Option Spelling :=
  table[r]?.bind (·[c]?)

/-- How many rows say that they have no value in column `c`. -/
def nullsIn (table : List (List Spelling)) (c : Nat) : Nat :=
  table.countP fun row => row[c]?.any isNull

theorem value_eq_null_iff {cell : Spelling} : cell.value = .null ↔ cell.isNull = true := by
  cases cell <;> simp [value, isNull]

/-- A value that is there has the type of its column. -/
theorem type?_value {type : LogicalType} {cell : Spelling} (h : cell.OfType type) :
    cell.value.type? = if cell.isNull then none else some type := by
  cases cell with
  | null indicator => rfl
  | text bytes => rw [h.1]; rfl
  | _ => rw [show type = _ from h]; rfl

theorem getElem?_values (table : List (List Spelling)) (r : Nat) :
    (values table)[r]? = table[r]?.map (·.map value) :=
  List.getElem?_map ..

/-- A cell is of its column's type. -/
theorem ofType_of_cell?_eq_some {schema : ColumnSchema} {table : List (List Spelling)}
    (htable : OfSchema schema table) {r c : Nat} {cell : Spelling} (h : cell? table r c = some cell)
    {column : ColumnDef} (hcolumn : schema.columns[c]? = some column) : cell.OfType column.type := by
  obtain ⟨row, hrow, hcell⟩ := Option.bind_eq_some_iff.1 h
  have hcells := htable.rows row (List.mem_of_getElem? hrow)
  obtain ⟨hc, rfl⟩ := List.getElem?_eq_some_iff.1 hcolumn
  obtain ⟨hc', rfl⟩ := List.getElem?_eq_some_iff.1 hcell
  exact hcells.get hc hc'

end Spelling

namespace Batch

/-- The entry of row `r` in column `c`. -/
def value? (batch : Batch) (r c : Nat) : Option Value :=
  batch.columns[c]?.bind (·.values[r]?)

/-! ## Where the cells are -/

/-- The batch has the columns of the schema, each with an entry for every row of the table, and the
entry of a row in a column is the cell that is spelled in this row and column. -/
structure Transposes (schema : ColumnSchema) (table : List (List Spelling)) (batch : Batch) :
    Prop where
  rows : batch.rows = table.length
  fields : batch.columns.map Column.field = schema.fields
  sizes : ∀ column ∈ batch.columns, column.values.size = table.length
  entries : ∀ r c, batch.value? r c = (Spelling.cell? table r c).map Spelling.value
  nulls : ∀ c column, batch.columns[c]? = some column →
    column.nullCount = Spelling.nullsIn table c

variable {schema : ColumnSchema} {table : List (List Spelling)} {batch : Batch}

/-- A batch has an entry in each of its rows and columns. -/
theorem Holds.value?_eq {table : List (List Value)} (h : batch.Holds schema table) (r c : Nat) :
    batch.value? r c = table[r]?.bind (·[c]?) := by
  by_cases hr : r < table.length
  · rw [List.getElem?_eq_getElem hr, Option.bind_some, ← h.cells r hr, row, List.getElem?_map,
      value?]
    cases hcolumn : batch.columns[c]? with
    | none => rfl
    | some column =>
      have hsize := h.sizes column (List.mem_of_getElem? hcolumn)
      simp [Array.getD_eq_getD_getElem?, hsize, hr]
  · have hnone : ∀ column ∈ batch.columns, column.values[r]? = none := fun column hmem => by
      simp [h.sizes column hmem, hr]
    rw [List.getElem?_eq_none (Nat.le_of_not_lt hr), Option.bind_none, value?]
    cases hcolumn : batch.columns[c]? with
    | none => rfl
    | some column => exact hnone column (List.mem_of_getElem? hcolumn)

/-- The entries of a column are the cells that the rows have there. -/
theorem values_toList_eq (hentries : ∀ r c, batch.value? r c =
      (Spelling.cell? table r c).map Spelling.value)
    (hsizes : ∀ column ∈ batch.columns, column.values.size = table.length) {c : Nat}
    {column : Column} (hcolumn : batch.columns[c]? = some column) :
    column.values.toList.map some = table.map fun row => row[c]?.map Spelling.value := by
  refine List.ext_getElem? fun r => ?_
  have hentry : column.values[r]? = (Spelling.cell? table r c).map Spelling.value := by
    rw [← hentries, value?, hcolumn, Option.bind_some]
  rw [List.getElem?_map, Array.getElem?_toList, hentry, List.getElem?_map, Spelling.cell?]
  by_cases hr : r < table.length
  · have hthere : r < column.values.size := by
      rwa [hsizes column (List.mem_of_getElem? hcolumn)]
    rw [Array.getElem?_eq_getElem hthere, Spelling.cell?, List.getElem?_eq_getElem hr,
      Option.bind_some] at hentry
    rw [List.getElem?_eq_getElem hr, Option.bind_some, Option.map_some, ← hentry, Option.map_some]
  · simp [hr]

/-- **What is made of a table is the table by columns.** -/
theorem transposes_of_contents_eq (htable : Spelling.OfSchema schema table)
    (hseen : batch.contents = (table.length, columnsOf schema (Spelling.values table))) :
    batch.Transposes schema table := by
  have hholds := holds_of_contents_eq htable hseen
  have hsizes : ∀ column ∈ batch.columns, column.values.size = table.length := by
    simpa using hholds.sizes
  have hentries (r c : Nat) :
      batch.value? r c = (Spelling.cell? table r c).map Spelling.value := by
    rw [hholds.value?_eq, Spelling.getElem?_values, Spelling.cell?]
    cases table[r]? with
    | none => rfl
    | some row => simp
  refine ⟨by simpa using hholds.rows, hholds.fields, hsizes, hentries, fun c column hcolumn => ?_⟩
  have hvalues := values_toList_eq hentries hsizes hcolumn
  calc column.nullCount
      = (column.values.toList.map some).countP (· == some .null) := by
        rw [Column.nullCount, ← Array.count_toList, List.count, List.countP_map]
        rfl
    _ = Spelling.nullsIn table c := by
        rw [hvalues, List.countP_map, Spelling.nullsIn]
        refine List.countP_congr fun row _ => ?_
        cases hcell : row[c]? with
        | none => simp [hcell]
        | some cell => simp [hcell, Spelling.value_eq_null_iff]

/-! ## Columns that fit together -/

/-- The column fits a field among so many rows: it is as long, holds values of the field's type
alone, and no null where the field has none. -/
structure Fits (rows : Nat) (field : Field) (column : Column) : Prop where
  size : column.values.size = rows
  dataType : column.field.dataType = field.dataType
  values : ∀ v ∈ column.values, ∀ type, v.type? = some type → type.dataType = field.dataType
  nulls : field.nullable = false → column.nullCount = 0

/-- The columns fit together to a batch of the fields: there is one for each, and it fits.  These
are all the demands under which columns are taken as a record batch. -/
def Assembles (fields : List Field) (batch : Batch) : Prop :=
  List.Forall₂ (Fits batch.rows) fields batch.columns

/-- **A table by columns fits together.** -/
theorem Transposes.assembles (htable : Spelling.OfSchema schema table)
    (h : batch.Transposes schema table) : batch.Assembles schema.fields := by
  have hwidth : schema.fields.length = batch.columns.length := by rw [← h.fields, List.length_map]
  refine List.forall₂_iff_get.2 ⟨hwidth, fun c hc hc' => ?_⟩
  have hwidth' : c < schema.columns.length := by rwa [ColumnSchema.length_fields] at hc
  have hfield : schema.fields.get ⟨c, hc⟩ = schema.columns[c].field := List.getElem_map ..
  have hcolumn : (batch.columns.get ⟨c, hc'⟩).field = schema.columns[c].field := by
    rw [← hfield, List.get_of_eq h.fields.symm, List.get_eq_getElem, List.get_eq_getElem,
      List.getElem_map]
  rw [hfield]
  refine ⟨?_, by rw [hcolumn], fun v hv type htype => ?_, fun hnullable => by cases hnullable⟩
  · rw [h.sizes _ (List.get_mem ..), h.rows]
  · obtain ⟨r, hr, rfl⟩ := Array.mem_iff_getElem.1 hv
    have hentry : batch.value? r c = some (batch.columns.get ⟨c, hc'⟩).values[r] := by
      rw [value?, List.getElem?_eq_getElem hc', Option.bind_some]
      exact Array.getElem?_eq_getElem hr
    rw [h.entries, Option.map_eq_some_iff] at hentry
    obtain ⟨cell, hcell, hvalue⟩ := hentry
    have hof := Spelling.type?_value
      (Spelling.ofType_of_cell?_eq_some htable hcell (List.getElem?_eq_getElem hwidth'))
    rw [← hvalue, hof] at htype
    split at htype
    · cases htype
    · rw [← Option.some.inj htype]
      rfl

/-! ## What is made of a payload -/

/-- What a schema with columns makes of a payload. -/
structure AnswersTable (schema : ColumnSchema) (payload : Bytes)
    (answer : Decoded BatchFault Batch) : Prop where
  /-- It is a batch exactly where the payload begins with a table, and no column of this has more
  text than offsets can reach. -/
  reads : (∃ batch, answer = .ok batch) ↔
    ∃ table rest, Spelling.OfSchema schema table ∧ FitsOffsets (Spelling.values table) ∧
      payload = Spelling.payload table ++ rest
  /-- The batch is this table by columns. -/
  transposes : ∀ table rest batch, Spelling.OfSchema schema table →
    payload = Spelling.payload table ++ rest → answer = .ok batch → batch.Transposes schema table
  /-- Its columns fit together. -/
  assembles : ∀ batch, answer = .ok batch → batch.Assembles schema.fields
  /-- A builder is lost exactly where the payload begins with cells of the table that have more
  text. -/
  lost : answer = .lost ↔ Spelling.Overflows schema payload
  /-- Anything else is said to be cut short. -/
  fails : ∀ fault, answer = .error fault → ∃ context short, fault = .truncated context short
  /-- A payload of at most 715827882 bytes has no column with so much text. -/
  small : payload.length ≤ 715827882 → answer ≠ .lost ∧
    ∀ table rest, payload = Spelling.payload table ++ rest → FitsOffsets (Spelling.values table)

/-- What a schema without columns makes of a payload. -/
structure AnswersCount (payload : Bytes) (answer : Decoded BatchFault Batch) : Prop where
  /-- It is a batch exactly where there is a row count. -/
  reads : (∃ batch, answer = .ok batch) ↔ 4 ≤ payload.length
  /-- The batch has so many rows, whatever follows, and nothing in them. -/
  counts : ∀ batch, answer = .ok batch →
    batch.rows = Bytes.toNatBE (payload.take 4) ∧ batch.columns = []
  /-- Its lack of columns fits the schema. -/
  assembles : ∀ batch, answer = .ok batch → batch.Assembles []
  /-- There is no builder to be lost. -/
  kept : answer ≠ .lost
  /-- Anything else lacks the row count. -/
  fails : ∀ fault, answer = .error fault → ∃ short, fault = .truncated .rowCount short

/-- Without columns, a payload is read as far as its row count. -/
theorem answersCount_decode (hempty : schema.columns = []) (payload : Bytes) :
    AnswersCount payload (decode schema payload) := by
  cases hsplit : Bytes.split? 4 payload with
  | none =>
    obtain ⟨short, hcount⟩ : ∃ short, (Cursor.ofPayload payload).number 4 = .error short := by
      simp only [Cursor.number, Cursor.take, Cursor.ofPayload, hsplit]
      exact ⟨_, rfl⟩
    have hdecode : decode schema payload = .error (.truncated .rowCount short) := by
      simp only [decode, hcount]
    have hshort : ¬4 ≤ payload.length := Nat.not_le.2 (Bytes.split?_eq_none_iff.1 hsplit)
    rw [hdecode]
    refine ⟨by simpa using hshort, by simp, by simp, by simp, fun fault h => ⟨short, ?_⟩⟩
    exact (Decoded.error.inj h).symm
  | some parts =>
    obtain ⟨rfl, hlength⟩ := Bytes.split?_eq_some_iff.1 hsplit
    have hcount : (Cursor.ofPayload (parts.1 ++ parts.2)).number 4 =
        .ok (Bytes.toNatBE parts.1, ⟨(parts.1 ++ parts.2).length, parts.2⟩) := by
      simp only [Cursor.number, Cursor.take, Cursor.ofPayload, hsplit]
    rw [decode_of_isEmpty hempty hcount]
    refine ⟨by simp [hlength], fun batch h => ?_, fun batch h => ?_, by simp, by simp⟩
    · cases h
      exact ⟨by rw [← hlength, List.take_left], rfl⟩
    · cases h
      exact .nil

theorem answersTable_decode (schema : ColumnSchema) (payload : Bytes) :
    AnswersTable schema payload (decode schema payload) := by
  -- Only one table is spelled there, so the batch belongs to any that is.
  have htransposes : ∀ table rest batch, Spelling.OfSchema schema table →
      payload = Spelling.payload table ++ rest → decode schema payload = .ok batch →
      batch.Transposes schema table := by
    intro table rest batch htable hpayload hbatch
    obtain ⟨table', rest', htable', -, hfront, hseen⟩ := exists_table_of_decode hbatch
    obtain ⟨rfl, -⟩ := Spelling.payload_append_inj htable htable' (hpayload.symm.trans hfront)
    exact transposes_of_contents_eq htable hseen
  refine ⟨⟨?_, ?_⟩, htransposes, fun batch hbatch => ?_, decode_eq_lost_iff,
    fun fault => truncated_of_decode, fun hsmall => ⟨decode_ne_lost_of_length_le schema hsmall, ?_⟩⟩
  · rintro ⟨batch, hbatch⟩
    obtain ⟨table, rest, htable, hfits, hpayload, -⟩ := exists_table_of_decode hbatch
    exact ⟨table, rest, htable, hfits, hpayload⟩
  · rintro ⟨table, rest, htable, hfits, hpayload⟩
    have hread := map_contents_decode_eq_ok_iff.2 ⟨table, rest, htable, hfits, hpayload, rfl⟩
    cases hdecode : decode schema payload with
    | ok batch => exact ⟨batch, rfl⟩
    | error fault => simp [hdecode, Decoded.map] at hread
    | lost => simp [hdecode, Decoded.map] at hread
  · obtain ⟨table, rest, htable, -, hpayload, -⟩ := exists_table_of_decode hbatch
    exact (htransposes table rest batch htable hpayload hbatch).assembles htable
  · rintro table rest rfl
    rw [List.length_append] at hsmall
    exact Spelling.fitsOffsets_of_length_le (Nat.le_of_add_right_le hsmall)

/-- **Decoding transposes.**  Under a schema with columns, a payload is read exactly where it begins
with a table: a row count and so many rows with a cell for every column, of which no column has more
text than offsets can reach.  The batch then is this table by columns, and its columns fit together.
A builder is lost exactly where the payload begins with cells that have more text, for which it
takes more than 715827882 bytes.  Everything else is a payload that was cut short.  Under a schema
without columns, a payload is read exactly where it has a row count. -/
theorem decode_transposes (schema : ColumnSchema) (payload : Bytes) :
    (schema.columns ≠ [] → AnswersTable schema payload (decode schema payload)) ∧
      (schema.columns = [] → AnswersCount payload (decode schema payload)) :=
  ⟨fun _ => answersTable_decode schema payload, fun hempty => answersCount_decode hempty payload⟩

/-- Two rows of a number and a text with each cell missing once, and a byte too many; and no columns
at all. -/
theorem decode_transposes_two_rows :
    let schema : ColumnSchema := ⟨[.ofType "a" .integer, .ofType "b" .varchar]⟩
    let table : List (List Spelling) := [[.int 7, .null 9], [.null 1, .text [104, 105]]]
    let payload := Spelling.payload table ++ [255]
    schema.columns ≠ [] ∧ AnswersTable schema payload (decode schema payload) ∧
      (∃ batch, decode schema payload = .ok batch ∧ batch.Transposes schema table) ∧
      AnswersCount [0, 0, 0, 2, 9] (decode ⟨[]⟩ [0, 0, 0, 2, 9]) := by
  intro schema table payload
  have hcolumns : schema.columns ≠ [] := by simp [schema]
  have htable : Spelling.OfSchema schema table := by
    refine ⟨by decide, List.forall_mem_cons.2 ⟨?_, List.forall_mem_singleton.2 ?_⟩⟩
    · exact .cons rfl (.cons (by decide : (9 : UInt8) ≠ 0) .nil)
    · exact .cons (by decide : (1 : UInt8) ≠ 0) (.cons ⟨rfl, by decide⟩ .nil)
  have hread := (decode_transposes schema payload).1 hcolumns
  have hfits := (hread.small (by decide)).2 table [255] rfl
  obtain ⟨batch, hbatch⟩ := hread.reads.2 ⟨table, [255], htable, hfits, rfl⟩
  exact ⟨hcolumns, hread, ⟨batch, hbatch, hread.transposes table [255] batch htable rfl hbatch⟩,
    (decode_transposes ⟨[]⟩ [0, 0, 0, 2, 9]).2 rfl⟩

/-- Texts of 65535 malformed bytes, each of which has three once it has been replaced.  The builder
is lost at the 10923rd of them, whether the table ends there or has another row that is missing. -/
theorem decode_malformed_texts :
    let schema : ColumnSchema := ⟨[.ofType "c" .varchar]⟩
    let table : List (List Spelling) := List.replicate 10923 [.text (List.replicate 65535 255)]
    Spelling.OfSchema schema table ∧
      decode schema (Bytes.ofNatBE 4 10923 ++ Spelling.tableBytes table) = .lost ∧
      decode schema (Bytes.ofNatBE 4 10924 ++ Spelling.tableBytes table) = .lost := by
  intro schema table
  refine ⟨⟨by rw [List.length_replicate]; decide, fun row hmem => ?_⟩,
    decode_replicate_malformed_eq_lost rfl (by decide) (by decide) (by decide) (by decide)
      (by decide),
    decode_replicate_malformed_eq_lost rfl (by decide) (by decide) (by decide) (by decide)
      (by decide)⟩
  rw [List.eq_of_mem_replicate hmem]
  exact .cons ⟨rfl, by rw [List.length_replicate]; decide⟩ .nil

end Batch
end BatchBridge
