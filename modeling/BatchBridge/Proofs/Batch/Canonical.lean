import BatchBridge.Proofs.Batch.RoundTrip
import BatchBridge.Proofs.Batch.Truncation

/-!
# Writing a batch again

A payload need not come from the bridge's own producer.  Whatever it is, if its texts are UTF-8 then
the batch read from it can be written again, and what is written are the bytes it was read from, but
for the one thing that a payload can say in several ways: that a value is missing.

* `Spelling.canonical` — a cell with its indicator as a producer writes it.
* `Spelling.IsUtf8` — a cell whose text, if it has one, is UTF-8.
* **`Spelling.spelling_value`** — the value of such a cell is written as that cell.
* `Batch.ReadOff` — the batch of a payload, and the table that spells it there.
* **`Batch.pushRows_table_of_decode`** — pushing the rows of a batch gives the bytes it was read
  from.
-/

namespace BatchBridge

namespace Spelling

/-! ## The usual spelling -/

/-- The cell as a producer writes it: an indicator that is not zero becomes 1. -/
def canonical : Spelling → Spelling
  | null _ => null 1
  | cell => cell

/-- The cell has no text, or one that is UTF-8. -/
def IsUtf8 : Spelling → Prop
  | text bytes => ∃ s, Utf8.decode bytes = .ok s
  | _ => True

/-- The table with every cell as a producer writes it. -/
def canonicalTable (table : List (List Spelling)) : List (List Spelling) :=
  table.map (·.map canonical)

theorem OfType.canonical {type : LogicalType} {cell : Spelling} (h : cell.OfType type) :
    cell.canonical.OfType type := by
  cases cell with
  | null indicator => exact (by decide : (1 : UInt8) ≠ 0)
  | _ => exact h

theorem ofColumns_canonical {columns : List ColumnDef} {row : List Spelling}
    (h : OfColumns columns row) : OfColumns columns (row.map canonical) :=
  List.forall₂_map_right_iff.2 (h.imp fun _ _ => OfType.canonical)

@[simp] theorem value_canonical (cell : Spelling) : cell.canonical.value = cell.value := by
  cases cell <;> rfl

@[simp] theorem values_canonicalTable (table : List (List Spelling)) :
    values (canonicalTable table) = values table := by
  simp [values, canonicalTable, Function.comp_def]

@[simp] theorem length_canonicalTable (table : List (List Spelling)) :
    (canonicalTable table).length = table.length := List.length_map ..

theorem OfSchema.canonicalTable {schema : ColumnSchema} {table : List (List Spelling)}
    (h : OfSchema schema table) : OfSchema schema (canonicalTable table) where
  count := by
    rw [length_canonicalTable]
    exact h.count
  rows row hmem := by
    obtain ⟨spelled, hspelled, rfl⟩ := List.mem_map.1 hmem
    exact ofColumns_canonical (h.rows spelled hspelled)

/-! ## Writing what has been read -/

/-- **The value of a cell is written as the cell**, with the usual indicator. -/
theorem spelling_value {cell : Spelling} (h : cell.IsUtf8) :
    cell.value.spelling = cell.canonical := by
  cases cell with
  | text bytes =>
    obtain ⟨s, hs⟩ := h
    obtain rfl := Utf8.decode_eq_ok_iff.1 hs
    simp [value, Value.spelling, canonical, Utf8.decodeLossy_encode]
  | _ => rfl

theorem encodeCells_values {columns : List ColumnDef} {row : List Spelling}
    (hcolumns : OfColumns columns row) (hutf8 : ∀ cell ∈ row, cell.IsUtf8) :
    encodeCells columns (row.map value) = .ok (rowBytes (row.map canonical)) := by
  have hlength : (row.map value).length = columns.length := by
    rw [List.length_map, hcolumns.length_eq]
  have hspelling : (row.map value).map Value.spelling = row.map canonical := by
    rw [List.map_map]
    exact List.map_congr_left fun cell hmem => spelling_value (hutf8 cell hmem)
  rw [encodeCells_eq_ok_iff hlength, hspelling]
  exact ⟨ofColumns_canonical hcolumns, rfl⟩

/-- The rows of a table are written as the table. -/
theorem rowBodies_values {schema : ColumnSchema} {table : List (List Spelling)}
    (hrows : ∀ row ∈ table, OfColumns schema.columns row)
    (hutf8 : ∀ row ∈ table, ∀ cell ∈ row, cell.IsUtf8) :
    RowBodies schema (values table) ((canonicalTable table).map rowBytes) := by
  induction table with
  | nil => exact .nil
  | cons row table ih =>
    obtain ⟨hrow, hrows⟩ := List.forall_mem_cons.1 hrows
    obtain ⟨hcells, hutf8⟩ := List.forall_mem_cons.1 hutf8
    have hlength : (row.map value).length = schema.columns.length := by
      rw [List.length_map, hrow.length_eq]
    exact .cons (encodeRow_eq_ok_iff.2 ⟨hlength, encodeCells_values hrow hcells⟩) (ih hrows hutf8)

end Spelling

namespace Batch

/-! ## Batches -/

/-- The batch is read from the front of the payload, where the table is spelled. -/
structure ReadOff (schema : ColumnSchema) (payload : Bytes) (batch : Batch)
    (table : List (List Spelling)) : Prop where
  decoded : decode schema payload = .ok batch
  ofSchema : Spelling.OfSchema schema table
  consumed : Consumes schema payload batch (Spelling.payload table).length
  spelled : payload.take (Spelling.payload table).length = Spelling.payload table

theorem exists_readOff {schema : ColumnSchema} {payload : Bytes} {batch : Batch}
    (h : decode schema payload = .ok batch) : ∃ table, ReadOff schema payload batch table := by
  obtain ⟨table, rest, htable, hfits, rfl, hseen⟩ := exists_table_of_decode h
  exact ⟨table, h, htable, consumes_spelled htable hfits hseen, List.take_left ..⟩

/-- The rows of a batch can be seen of it. -/
theorem table_eq_of_contents_eq {batch batch' : Batch} (h : batch.contents = batch'.contents) :
    batch.table = batch'.table := by
  obtain ⟨hcount, hcolumns⟩ := Prod.mk.inj h
  have hrow : batch.row = batch'.row := by
    funext r
    rw [row, row, hcolumns]
  rw [Batch.table, Batch.table, hcount, hrow]

namespace ReadOff

variable {schema : ColumnSchema} {payload payload' : Bytes} {batch batch' : Batch}
  {table table' : List (List Spelling)}

/-- The payload is the table and what follows. -/
theorem payload_eq (h : ReadOff schema payload batch table) :
    payload = Spelling.payload table ++ payload.drop (Spelling.payload table).length := by
  conv_lhs => rw [← List.take_append_drop (Spelling.payload table).length payload, h.spelled]

/-- What can be seen of the batch are the values of the table. -/
theorem contents_eq (h : ReadOff schema payload batch table) :
    batch.contents = (table.length, columnsOf schema (Spelling.values table)) := by
  obtain ⟨table', rest, htable', -, hfront, hseen⟩ := exists_table_of_decode h.decoded
  obtain ⟨rfl, -⟩ :=
    Spelling.payload_append_inj h.ofSchema htable' (h.payload_eq.symm.trans hfront)
  exact hseen

/-- The table is determined by the payload. -/
theorem unique (h : ReadOff schema payload batch table)
    (h' : ReadOff schema payload batch' table') : table = table' :=
  (Spelling.payload_append_inj h.ofSchema h'.ofSchema (h.payload_eq.symm.trans h'.payload_eq)).1

/-- The rows of the batch are the values of the table. -/
theorem table_eq (h : ReadOff schema payload batch table) :
    batch.table = Spelling.values table :=
  (holds_of_contents_eq h.ofSchema h.contents_eq).table_eq

/-- **Writing the batch again gives the bytes it was read from**, with the usual indicators. -/
theorem pushRows_table (h : ReadOff schema payload batch table)
    (hutf8 : ∀ row ∈ table, ∀ cell ∈ row, cell.IsUtf8) :
    ∃ builder, (PayloadBuilder.new schema).pushRows batch.table = .ok builder ∧
      builder.finish = Spelling.payload (Spelling.canonicalTable table) := by
  have hbodies : RowBodies (PayloadBuilder.new schema).schema (Spelling.values table)
      ((Spelling.canonicalTable table).map Spelling.rowBytes) :=
    Spelling.rowBodies_values h.ofSchema.rows hutf8
  rw [h.table_eq]
  refine ⟨_, PayloadBuilder.pushRows_of_rowBodies hbodies, ?_⟩
  simp [PayloadBuilder.finish, PayloadBuilder.new, Spelling.payload, Spelling.tableBytes,
    List.flatMap_def]

/-- **The same batch is read from two payloads if and only if they say the same**, up to how they
say that a value is missing. -/
theorem contents_eq_iff (h : ReadOff schema payload batch table)
    (hutf8 : ∀ row ∈ table, ∀ cell ∈ row, cell.IsUtf8)
    (h' : ReadOff schema payload' batch' table')
    (hutf8' : ∀ row ∈ table', ∀ cell ∈ row, cell.IsUtf8) :
    batch.contents = batch'.contents ↔
      Spelling.payload (Spelling.canonicalTable table) =
        Spelling.payload (Spelling.canonicalTable table') := by
  constructor
  · intro hsame
    have hrows : batch.table = batch'.table := table_eq_of_contents_eq hsame
    obtain ⟨builder, hpush, hfinish⟩ := h.pushRows_table hutf8
    obtain ⟨builder', hpush', hfinish'⟩ := h'.pushRows_table hutf8'
    rw [hrows, hpush', Except.ok.injEq] at hpush
    rw [← hfinish, ← hfinish', hpush]
  · intro hsame
    have happend : Spelling.payload (Spelling.canonicalTable table) ++ [] =
        Spelling.payload (Spelling.canonicalTable table') ++ [] := by rw [hsame]
    obtain ⟨htables, -⟩ := Spelling.payload_append_inj h.ofSchema.canonicalTable
      h'.ofSchema.canonicalTable happend
    rw [h.contents_eq, h'.contents_eq, ← Spelling.length_canonicalTable table,
      ← Spelling.values_canonicalTable table, htables, Spelling.length_canonicalTable,
      Spelling.values_canonicalTable]

end ReadOff

/-- **Writing undoes reading.**  The bytes that a batch is read from spell one table.  If the texts
in it are UTF-8, then all rows of the batch can be pushed again, and the payload is these bytes with
every indicator that is not zero replaced by 1; and another such payload gives the same batch if and
only if these bytes are the same for both. -/
theorem pushRows_table_of_decode {schema : ColumnSchema} {payload : Bytes} {batch : Batch}
    (h : decode schema payload = .ok batch) :
    ∃ table, ReadOff schema payload batch table ∧
      (∀ other, ReadOff schema payload batch other → other = table) ∧
      ((∀ row ∈ table, ∀ cell ∈ row, Spelling.IsUtf8 cell) →
        (∃ builder, (PayloadBuilder.new schema).pushRows batch.table = .ok builder ∧
          builder.finish = Spelling.payload (Spelling.canonicalTable table)) ∧
        ∀ payload' batch' table', ReadOff schema payload' batch' table' →
          (∀ row ∈ table', ∀ cell ∈ row, Spelling.IsUtf8 cell) →
          (batch.contents = batch'.contents ↔
            Spelling.payload (Spelling.canonicalTable table) =
              Spelling.payload (Spelling.canonicalTable table'))) := by
  obtain ⟨table, htable⟩ := exists_readOff h
  refine ⟨table, htable, fun other hother => hother.unique htable, fun hutf8 => ⟨?_, ?_⟩⟩
  · exact htable.pushRows_table hutf8
  · intro payload' batch' table' htable' hutf8'
    exact htable.contents_eq_iff hutf8 htable' hutf8'

/-- Two rows with nulls that a producer would not write, and a byte behind them. -/
theorem pushRows_table_of_decode_two_rows :
    let schema : ColumnSchema := ⟨[.ofType "a" .integer, .ofType "b" .varchar]⟩
    ∃ batch builder,
      decode schema [0, 0, 0, 2, 255, 0, 0, 2, 104, 105, 0, 0, 0, 0, 7, 3, 170] = .ok batch ∧
        (PayloadBuilder.new schema).pushRows batch.table = .ok builder ∧
          builder.finish = [0, 0, 0, 2, 1, 0, 0, 2, 104, 105, 0, 0, 0, 0, 7, 1] := by
  intro schema
  have hspelled : Spelling.OfSchema schema [[.null 255, .text [104, 105]], [.int 7, .null 3]] :=
    ⟨by decide, by simp [schema, Spelling.OfType, ColumnDef.ofType, Bytes.span]⟩
  obtain ⟨batch, hbatch⟩ : ∃ batch,
      decode schema [0, 0, 0, 2, 255, 0, 0, 2, 104, 105, 0, 0, 0, 0, 7, 3, 170] = .ok batch :=
    ⟨_, rfl⟩
  obtain ⟨table, htable, -, hwrite⟩ := pushRows_table_of_decode hbatch
  have hpayload : Spelling.payload table ++ _ =
      Spelling.payload [[.null 255, .text [104, 105]], [.int 7, .null 3]] ++ [170] :=
    htable.payload_eq.symm.trans rfl
  obtain ⟨rfl, -⟩ := Spelling.payload_append_inj htable.ofSchema hspelled hpayload
  have hutf8 : Utf8.decode [104, 105] = .ok "hi" := by decide
  obtain ⟨⟨builder, hpush, hfinish⟩, -⟩ := hwrite (by simp [Spelling.IsUtf8, hutf8])
  exact ⟨batch, builder, hbatch, hpush, hfinish⟩

end Batch
end BatchBridge
