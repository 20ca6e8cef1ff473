import BatchBridge.Batch.Builder
import BatchBridge.Proofs.Batch.Overflow
import BatchBridge.Proofs.Text.Utf8

/-!
# What a producer packs, the bridge unpacks

What a producer writes is one of the ways to spell its rows, and a payload is read where a table is
spelled.

* `Value.spelling` — the cell that a producer writes for a value.
* **`encode_eq_ok_iff`**, **`encodeCells_eq_ok_iff`** — values are written as these cells, if the
  columns can hold them.
* `pushRows_eq_ok` — a builder that took all rows holds their bytes, one row behind the other.
* **`exists_spelling_of_rowBodies`** — these bytes spell the rows.
* **`decode_payloadOfRows`** — the payload of rows is read as a batch that holds these rows.
-/

namespace BatchBridge

/-! ## Cells and rows -/

/-- The cell that a producer writes for a value. -/
def Value.spelling : Value → Spelling
  | null => .null 1
  | int n => .int n
  | bigInt n => .bigInt n
  | double bits => .double bits
  | text s => .text (Utf8.encode s)

@[simp] theorem Value.value_spelling (value : Value) : value.spelling.value = value := by
  cases value with
  | text s => exact congrArg Value.text (Utf8.decodeLossy_encode s)
  | _ => rfl

/-- **What is written for a value spells it**, and it is written if the column can hold it. -/
theorem encode_eq_ok_iff {column : ColumnDef} {value : Value} {bytes : Bytes} :
    value.encode column = .ok bytes ↔
      value.spelling.OfType column.type ∧ value.spelling.bytes = bytes := by
  rcases column with ⟨name, type, declared⟩
  cases value with
  | null =>
    have hone : (Spelling.null 1).OfType type := (by decide : (1 : UInt8) ≠ 0)
    cases type <;> simp [Value.encode, Value.spelling, Spelling.bytes, hone]
  | text s =>
    have hfits : (Utf8.encode s).length ≤ maxTextBytes ↔ (Utf8.encode s).length < Bytes.span 2 :=
      Nat.lt_succ_iff.symm
    cases type with
    | varchar =>
      by_cases h : (Utf8.encode s).length ≤ maxTextBytes
      · simp [Value.encode, Value.spelling, Spelling.OfType, Spelling.bytes, h, hfits.1 h]
      · have hlong : ¬(Utf8.encode s).length < Bytes.span 2 := fun hlt => h (hfits.2 hlt)
        simp [Value.encode, Value.spelling, Spelling.OfType, h, hlong]
    | _ => simp [Value.encode, Value.spelling, Spelling.OfType]
  | _ => cases type <;> simp [Value.encode, Value.spelling, Spelling.OfType, Spelling.bytes]

/-- **What is written for values spells them.** -/
theorem encodeCells_eq_ok_iff {columns : List ColumnDef} {values : List Value} {bytes : Bytes}
    (hlength : values.length = columns.length) :
    encodeCells columns values = .ok bytes ↔
      Spelling.OfColumns columns (values.map Value.spelling) ∧
        Spelling.rowBytes (values.map Value.spelling) = bytes := by
  induction columns generalizing values bytes with
  | nil =>
    rw [List.eq_nil_of_length_eq_zero hlength]
    simp [encodeCells]
  | cons column columns ih =>
    cases values with
    | nil => cases hlength
    | cons value values =>
      have hlength : values.length = columns.length := Nat.succ.inj hlength
      constructor
      · intro h
        rw [encodeCells] at h
        cases hcell : value.encode column with
        | error fault => simp [hcell] at h
        | ok front =>
          cases hcells : encodeCells columns values with
          | error fault => simp [hcell, hcells] at h
          | ok more =>
            obtain ⟨htype, rfl⟩ := encode_eq_ok_iff.1 hcell
            obtain ⟨hcolumns, rfl⟩ := (ih hlength).1 hcells
            simp only [hcell, hcells, Except.ok.injEq] at h
            exact ⟨.cons htype hcolumns, h⟩
      · rintro ⟨hcolumns, rfl⟩
        obtain ⟨htype, hcolumns⟩ := List.forall₂_cons.1 hcolumns
        have hcell := encode_eq_ok_iff.2 ⟨htype, rfl⟩
        have hcells := (ih hlength).2 ⟨hcolumns, rfl⟩
        simp only [encodeCells, hcell, hcells, List.map_cons, Spelling.rowBytes_cons]

/-- An accepted row has a cell for every column. -/
theorem encodeRow_eq_ok_iff {schema : ColumnSchema} {values : List Value} {bytes : Bytes} :
    encodeRow schema values = .ok bytes ↔
      values.length = schema.columns.length ∧ encodeCells schema.columns values = .ok bytes := by
  rw [encodeRow, ColumnSchema.width]
  by_cases hlength : values.length = schema.columns.length
  · simp [hlength]
  · simp [hlength]

/-- These are the bytes of the rows, row by row. -/
abbrev RowBodies (schema : ColumnSchema) : List (List Value) → List Bytes → Prop :=
  List.Forall₂ fun values body => encodeRow schema values = .ok body

/-- **The bytes of rows spell these rows.** -/
theorem exists_spelling_of_rowBodies {schema : ColumnSchema} {table : List (List Value)}
    {bodies : List Bytes} (h : RowBodies schema table bodies) :
    ∃ spelled : List (List Spelling), (∀ row ∈ spelled, Spelling.OfColumns schema.columns row) ∧
      Spelling.values spelled = table ∧ Spelling.tableBytes spelled = bodies.flatten := by
  induction h with
  | nil => exact ⟨[], fun _ hmem => absurd hmem List.not_mem_nil, rfl, rfl⟩
  | cons hrow _ ih =>
    obtain ⟨hlength, hcells⟩ := encodeRow_eq_ok_iff.1 hrow
    obtain ⟨hcolumns, rfl⟩ := (encodeCells_eq_ok_iff hlength).1 hcells
    obtain ⟨spelled, hspelled, rfl, hbytes⟩ := ih
    refine ⟨_ :: spelled, List.forall_mem_cons.2 ⟨hcolumns, hspelled⟩, ?_, ?_⟩
    · simp [Spelling.values, Function.comp_def]
    · rw [Spelling.tableBytes_cons, hbytes, List.flatten_cons]

/-! ## Payloads -/

namespace PayloadBuilder

/-- A builder that took all rows holds their bytes behind what it held before. -/
theorem pushRows_eq_ok {builder last : PayloadBuilder} {table : List (List Value)}
    (h : builder.pushRows table = .ok last) :
    ∃ bodies, RowBodies builder.schema table bodies ∧
      last = { builder with rows := builder.rows + table.length,
                            body := builder.body ++ bodies.flatten } := by
  induction table generalizing builder with
  | nil =>
    cases Except.ok.inj h
    exact ⟨[], .nil, by simp⟩
  | cons values table ih =>
    rw [pushRows, pushRow] at h
    cases hrow : encodeRow builder.schema values with
    | error fault => simp [hrow] at h
    | ok body =>
      simp only [hrow] at h
      obtain ⟨bodies, hbodies, rfl⟩ := ih h
      exact ⟨body :: bodies, .cons hrow hbodies, by simp [Nat.add_comm, Nat.add_left_comm]⟩

/-- Rows that can be written are all taken, and their bytes go behind what was there. -/
theorem pushRows_of_rowBodies {builder : PayloadBuilder} {table : List (List Value)}
    {bodies : List Bytes} (h : RowBodies builder.schema table bodies) :
    builder.pushRows table = .ok { builder with rows := builder.rows + table.length,
                                                body := builder.body ++ bodies.flatten } := by
  induction table generalizing builder bodies with
  | nil =>
    cases h
    simp [pushRows]
  | cons row table ih =>
    obtain ⟨body, bodies, hrow, hrows, rfl⟩ := List.forall₂_cons_left_iff.1 h
    have hrest := @ih ⟨builder.schema, builder.rows + 1, builder.body ++ body⟩ bodies hrows
    simp only [pushRows, pushRow, hrow, hrest]
    simp [Nat.add_comm, Nat.add_left_comm]

end PayloadBuilder

/-- A payload is the row count and the bytes of the rows. -/
theorem eq_of_payloadOfRows {schema : ColumnSchema} {table : List (List Value)} {payload : Bytes}
    (h : payloadOfRows schema table = .ok payload) :
    ∃ bodies, RowBodies schema table bodies ∧
      payload = Bytes.ofNatBE 4 table.length ++ bodies.flatten := by
  rw [payloadOfRows] at h
  cases hpush : (PayloadBuilder.new schema).pushRows table with
  | error error => simp [hpush, Except.map] at h
  | ok last =>
    obtain ⟨bodies, hbodies, rfl⟩ := PayloadBuilder.pushRows_eq_ok hpush
    simp only [hpush, Except.map, Except.ok.injEq] at h
    exact ⟨bodies, hbodies, by simp [← h, PayloadBuilder.finish, PayloadBuilder.new]⟩

/-- The payload of rows is spelled by a table of these values. -/
theorem exists_table_of_payloadOfRows {schema : ColumnSchema} {table : List (List Value)}
    {payload : Bytes} (h : payloadOfRows schema table = .ok payload)
    (hcount : table.length < Bytes.span 4) :
    ∃ spelled, Spelling.OfSchema schema spelled ∧ Spelling.values spelled = table ∧
      payload = Spelling.payload spelled ++ [] := by
  obtain ⟨bodies, hbodies, rfl⟩ := eq_of_payloadOfRows h
  obtain ⟨spelled, hspelled, rfl, hbytes⟩ := exists_spelling_of_rowBodies hbodies
  rw [Spelling.length_values] at hcount ⊢
  exact ⟨spelled, ⟨hcount, hspelled⟩, rfl, by rw [Spelling.payload, hbytes, List.append_nil]⟩

/-- **The payload of rows that fit is read as these rows.** -/
theorem decode_payloadOfRows {schema : ColumnSchema} {table : List (List Value)} {payload : Bytes}
    (h : payloadOfRows schema table = .ok payload) (hcount : table.length < Bytes.span 4)
    (hfits : FitsOffsets table) :
    ∃ batch, Batch.decode schema payload = .ok batch ∧ batch.Holds schema table := by
  obtain ⟨spelled, hspelled, rfl, hpayload⟩ := exists_table_of_payloadOfRows h hcount
  have hseen := Batch.map_contents_decode_eq_ok_iff.2
    ⟨spelled, [], hspelled, hfits, hpayload, rfl⟩
  cases hdecode : Batch.decode schema payload with
  | error fault => simp [hdecode, Decoded.map] at hseen
  | lost => simp [hdecode, Decoded.map] at hseen
  | ok batch =>
    rw [hdecode, Decoded.map, Decoded.ok.injEq] at hseen
    exact ⟨batch, rfl, Batch.holds_of_contents_eq hspelled hseen⟩

/-- The payload of other rows is not read at all. -/
theorem decode_payloadOfRows_eq_lost {schema : ColumnSchema} {table : List (List Value)}
    {payload : Bytes} (h : payloadOfRows schema table = .ok payload)
    (hcount : table.length < Bytes.span 4) (hfits : ¬FitsOffsets table) :
    Batch.decode schema payload = .lost := by
  obtain ⟨spelled, hspelled, rfl, rfl⟩ := exists_table_of_payloadOfRows h hcount
  exact Batch.decode_payload_append_of_not_fits hspelled hfits []

/-- A payload is never empty: it begins with its row count. -/
theorem ne_nil_of_payloadOfRows {schema : ColumnSchema} {table : List (List Value)}
    {payload : Bytes} (h : payloadOfRows schema table = .ok payload) : payload ≠ [] := by
  obtain ⟨bodies, -, rfl⟩ := eq_of_payloadOfRows h
  simp [Bytes.ofNatBE]

end BatchBridge
