import BatchBridge.Proofs.Batch.Transposing

/-!
# What a batch counts

The sink counts the rows of a batch and its missing entries column by column.  The payload has a
row count in front and says cell by cell, in the order of the rows, which of them are missing.

* `ColumnBuilder.nulls` — how many entries of columns that are being filled hold nothing.
  `Batch.nulls_pushCells`: a row adds its own.
* **`Batch.nullCount_of_contents_eq`** — the missing entries of a batch are the cells that are
  spelled as such.
* **`Batch.rows_of_decode`** — the rows of a batch are those that its payload declares.
-/

namespace BatchBridge

/-- How many entries of all columns hold nothing so far. -/
def ColumnBuilder.nulls : List ColumnBuilder → Nat
  | [] => 0
  | builder :: builders => builder.values.count .null + nulls builders

namespace Batch

/-- **A row adds its missing cells.** -/
theorem nulls_pushCells {builders : List ColumnBuilder} {values : List Value}
    (h : values.length = builders.length) :
    ColumnBuilder.nulls (pushCells builders values) =
      ColumnBuilder.nulls builders + values.count .null := by
  rw [pushCells]
  induction builders generalizing values with
  | nil =>
    cases List.eq_nil_of_length_eq_zero h
    rfl
  | cons builder builders ih =>
    cases values with
    | nil => cases h
    | cons value values =>
      have hrest := ih (Nat.succ.inj h)
      rw [List.zipWith_cons_cons, ColumnBuilder.nulls, hrest, ColumnBuilder.nulls,
        ColumnBuilder.push, Array.count_push, List.count_cons]
      omega

/-- So do rows one after the other. -/
theorem nulls_foldl_pushCells {builders : List ColumnBuilder} {table : List (List Value)}
    (hwidth : ∀ values ∈ table, values.length = builders.length) :
    ColumnBuilder.nulls (table.foldl pushCells builders) =
      ColumnBuilder.nulls builders + table.flatten.count .null := by
  induction table generalizing builders with
  | nil => rfl
  | cons values table ih =>
    obtain ⟨hvalues, hrest⟩ := List.forall_mem_cons.1 hwidth
    have hsame : (pushCells builders values).length = builders.length := by
      simp [pushCells, hvalues]
    have hrest' : ∀ row ∈ table, row.length = (pushCells builders values).length := by
      rw [hsame]
      exact hrest
    rw [List.foldl_cons, ih hrest', nulls_pushCells hvalues, List.flatten_cons, List.count_append,
      Nat.add_assoc]

/-- Columns that have just been begun miss nothing. -/
theorem nulls_begun (columns : List ColumnDef) (capacity textRoom : Nat) :
    ColumnBuilder.nulls (columns.map (.withRoom capacity textRoom)) = 0 := by
  induction columns with
  | nil => rfl
  | cons column columns ih =>
    rw [List.map_cons, ColumnBuilder.nulls, ih]
    rfl

/-- What the columns of a batch miss is what they missed while they were filled. -/
theorem foldl_nullCount_finish (builders : List ColumnBuilder) (start : Nat) :
    (builders.map ColumnBuilder.finish).foldl (fun count column => count + column.nullCount) start =
      start + ColumnBuilder.nulls builders := by
  induction builders generalizing start with
  | nil => rfl
  | cons builder builders ih =>
    rw [List.map_cons, List.foldl_cons, ih, ColumnBuilder.nulls, Nat.add_assoc]
    rfl

variable {schema : ColumnSchema} {table : List (List Spelling)} {batch : Batch}

/-- The values that are missing are the cells that are spelled so. -/
theorem count_null_values (table : List (List Spelling)) :
    (Spelling.values table).flatten.count .null = table.flatten.countP Spelling.isNull := by
  rw [Spelling.values, ← List.map_flatten, List.count, List.countP_map]
  refine List.countP_congr fun cell _ => ?_
  simp [Spelling.value_eq_null_iff]

/-- **A batch counts as null the cells that its payload spells so**, of all rows and columns. -/
theorem nullCount_of_contents_eq (htable : Spelling.OfSchema schema table)
    (h : batch.contents = (table.length, columnsOf schema (Spelling.values table))) :
    batch.nullCount = table.flatten.countP Spelling.isNull := by
  have hcolumns : batch.columns = columnsOf schema (Spelling.values table) :=
    congrArg Prod.snd h
  have hwidth : ∀ row ∈ Spelling.values table, row.length = (begun schema 0 0).length := by
    rw [length_begun]
    exact Spelling.length_of_mem_values htable.rows
  rw [nullCount, hcolumns, columnsOf, foldl_nullCount_finish, nulls_foldl_pushCells hwidth,
    nulls_begun, Nat.zero_add, Nat.zero_add, count_null_values]

/-- **A batch has as many rows as its payload declares**, with columns and without. -/
theorem rows_of_decode {payload : Bytes} (h : decode schema payload = .ok batch) :
    batch.rows = Bytes.toNatBE (payload.take 4) := by
  obtain ⟨table, rest, htable, -, rfl, hseen⟩ := exists_table_of_decode h
  have hrows : batch.rows = table.length := congrArg Prod.fst hseen
  have hfront : (Spelling.payload table ++ rest).take 4 = Bytes.ofNatBE 4 table.length := by
    rw [Spelling.payload, List.append_assoc]
    exact List.take_left' (Bytes.length_ofNatBE ..)
  rw [hrows, hfront, Bytes.toNatBE_ofNatBE_of_lt htable.count]

end Batch
end BatchBridge
