import BatchBridge.Batch.Decoder

/-!
# Reading a payload row by row

`Batch.decode` sends every cell straight to its column.  What it reads, and where the bytes run out,
has nothing to do with columns, though: it is a list of rows.  This file takes the two apart.  What
is left to the columns is to be lost when their texts are too long.

* `Cursor.cells`, `Cursor.rows` — the rows that a payload spells, as plain lists of cells.
* `ColumnBuilder.push`, `ColumnBuilder.InReach` — one more cell, whether or not an offset can point
  behind its text, and whether one can.
* **`appendRow_eq_ok_iff`**, **`appendRows_eq_ok_iff`** — filling columns is reading rows and then
  handing each row's cells to the columns, if all texts are in reach.
* `Batch.Holds` — a batch has the columns of a schema, and its cells are exactly those of a list of
  rows.  It fixes everything that a sink can see of a batch.
* `Batch.read` — what a payload says, however long the texts.
* **`decode_eq_ok_iff`**, **`read_of_decode_eq_error`**, **`decode_eq_of_read`** — `decode` says the
  same, unless a builder is lost.
* **`holds_columnsOf`** — columns that were filled with rows hold these rows.
-/

namespace BatchBridge

/-! ## Rows -/

namespace Cursor

/-- The cells of one row, in column order. -/
def cells (row : Nat) : List ColumnDef → Cursor → Except BatchFault (List Value × Cursor)
  | [], cursor => .ok ([], cursor)
  | column :: columns, cursor =>
    match cursor.cell row column with
    | .error fault => .error fault
    | .ok (value, cursor) =>
      match cells row columns cursor with
      | .error fault => .error fault
      | .ok (values, cursor) => .ok (value :: values, cursor)

/-- `count` rows, of which the first has the number `row`. -/
def rows (columns : List ColumnDef) :
    Nat → Nat → Cursor → Except BatchFault (List (List Value) × Cursor)
  | 0, _, cursor => .ok ([], cursor)
  | count + 1, row, cursor =>
    match cells row columns cursor with
    | .error fault => .error fault
    | .ok (values, cursor) =>
      match rows columns count (row + 1) cursor with
      | .error fault => .error fault
      | .ok (more, cursor) => .ok (values :: more, cursor)

theorem cells_cons_eq_ok_iff {row : Nat} {column : ColumnDef} {columns : List ColumnDef}
    {cursor last : Cursor} {values : List Value} :
    cells row (column :: columns) cursor = .ok (values, last) ↔
      ∃ value next rest, cursor.cell row column = .ok (value, next) ∧
        cells row columns next = .ok (rest, last) ∧ values = value :: rest := by
  rw [cells]
  cases cursor.cell row column with
  | error fault => simp
  | ok read =>
    obtain ⟨value, next⟩ := read
    constructor
    · intro h
      cases hrest : cells row columns next with
      | error fault => simp [hrest] at h
      | ok more =>
        simp only [hrest, Except.ok.injEq, Prod.mk.injEq] at h
        obtain ⟨rfl, rfl⟩ := h
        exact ⟨value, next, more.1, rfl, hrest, rfl⟩
    · rintro ⟨_, _, rest, hread, hrest, rfl⟩
      cases hread
      simp [hrest]

theorem rows_succ_eq_ok_iff {columns : List ColumnDef} {count row : Nat} {cursor last : Cursor}
    {table : List (List Value)} :
    rows columns (count + 1) row cursor = .ok (table, last) ↔
      ∃ values next rest, cells row columns cursor = .ok (values, next) ∧
        rows columns count (row + 1) next = .ok (rest, last) ∧ table = values :: rest := by
  rw [rows]
  cases cells row columns cursor with
  | error fault => simp
  | ok read =>
    obtain ⟨values, next⟩ := read
    constructor
    · intro h
      cases hrest : rows columns count (row + 1) next with
      | error fault => simp [hrest] at h
      | ok more =>
        simp only [hrest, Except.ok.injEq, Prod.mk.injEq] at h
        obtain ⟨rfl, rfl⟩ := h
        exact ⟨values, next, more.1, rfl, hrest, rfl⟩
    · rintro ⟨_, _, rest, hread, hrest, rfl⟩
      cases hread
      simp [hrest]

/-- A row has a cell for every column. -/
theorem length_of_cells {row : Nat} {columns : List ColumnDef} {cursor last : Cursor}
    {values : List Value} (h : cells row columns cursor = .ok (values, last)) :
    values.length = columns.length := by
  induction columns generalizing cursor values with
  | nil =>
    simp only [cells, Except.ok.injEq, Prod.mk.injEq] at h
    rw [← h.1]
    rfl
  | cons column columns ih =>
    obtain ⟨value, next, rest, -, hrest, rfl⟩ := cells_cons_eq_ok_iff.1 h
    rw [List.length_cons, List.length_cons, ih hrest]

/-- So does every one of several rows. -/
theorem length_of_rows {columns : List ColumnDef} {count row : Nat} {cursor last : Cursor}
    {table : List (List Value)} (h : rows columns count row cursor = .ok (table, last)) :
    ∀ values ∈ table, values.length = columns.length := by
  induction count generalizing row cursor table with
  | zero =>
    simp only [rows, Except.ok.injEq, Prod.mk.injEq] at h
    rw [← h.1]
    exact fun _ hmem => absurd hmem List.not_mem_nil
  | succ count ih =>
    obtain ⟨values, next, rest, hcells, hrest, rfl⟩ := rows_succ_eq_ok_iff.1 h
    exact List.forall_mem_cons.2 ⟨length_of_cells hcells, ih hrest⟩

end Cursor

/-! ## Cells in reach -/

/-- Appends the text of a cell, wherever it ends. -/
def TextBuilder.append (builder : TextBuilder) (value : Value) : TextBuilder :=
  let texts := builder.texts.append value.textBytes
  ⟨texts, builder.offsets.push (Int32.ofNat texts.used)⟩

namespace ColumnBuilder

/-- One more cell, wherever its text ends. -/
def push (builder : ColumnBuilder) (value : Value) : ColumnBuilder :=
  { builder with values := builder.values.push value, texts := builder.texts.append value }

/-- How many bytes of text there are. -/
def textUsed (builder : ColumnBuilder) : Nat := builder.texts.texts.used

/-- An offset can point behind the texts. -/
def InReach (builder : ColumnBuilder) : Prop := builder.textUsed ≤ maxOffset

instance (builder : ColumnBuilder) : Decidable builder.InReach := Nat.decLe ..

variable {builder next : ColumnBuilder} {value : Value}

@[simp] theorem column_push : (builder.push value).column = builder.column := rfl

@[simp] theorem values_push : (builder.push value).values = builder.values.push value := rfl

@[simp] theorem textUsed_push :
    (builder.push value).textUsed = builder.textUsed + value.textBytes := rfl

theorem inReach_of_push (h : (builder.push value).InReach) : builder.InReach := by
  rw [InReach, textUsed_push] at h
  exact Nat.le_of_add_right_le h

theorem textBytes_finish_push (builder : ColumnBuilder) (value : Value) :
    (builder.push value).finish.textBytes = builder.finish.textBytes + value.textBytes := by
  simp [push, finish, Column.textBytes]

/-- As many bytes of text are counted as the cells have. -/
def Counts (builder : ColumnBuilder) : Prop := builder.textUsed = builder.finish.textBytes

theorem counts_withRoom (capacity textRoom : Nat) (column : ColumnDef) :
    (withRoom capacity textRoom column).Counts := rfl

theorem Counts.push (h : builder.Counts) (value : Value) : (builder.push value).Counts := by
  rw [Counts] at h
  rw [Counts, textUsed_push, textBytes_finish_push, h]

/-- **A cell is taken if an offset can point behind its text.** -/
theorem push?_eq (builder : ColumnBuilder) (value : Value) :
    builder.push? value =
      if (builder.push value).InReach then some (builder.push value) else none := by
  have hoffset : offset? (builder.texts.texts.append value.textBytes).used =
      if (builder.push value).InReach then
        some (Int32.ofNat (builder.texts.texts.append value.textBytes).used) else none := rfl
  rw [push?, TextBuilder.append?, hoffset]
  split <;> rfl

end ColumnBuilder

namespace Batch

/-! ## From rows to columns -/

/-- Hands a row's cells to the columns, one each. -/
def pushCells (builders : List ColumnBuilder) (values : List Value) : List ColumnBuilder :=
  List.zipWith ColumnBuilder.push builders values

/-- The texts of all columns are in reach. -/
abbrev InReach (builders : List ColumnBuilder) : Prop :=
  ∀ builder ∈ builders, builder.InReach

/-- **A row is taken if it can be read** and the columns can take its cells. -/
theorem appendRow_eq_ok_iff {row : Nat} {builders pushed : List ColumnBuilder}
    {cursor next : Cursor} :
    appendRow row builders cursor = .ok (pushed, next) ↔
      ∃ values, cursor.cells row (builders.map ColumnBuilder.column) = .ok (values, next) ∧
        pushed = pushCells builders values ∧ InReach pushed := by
  induction builders generalizing cursor pushed next with
  | nil =>
    simp only [appendRow, Decoded.ok.injEq, Prod.mk.injEq, List.map_nil, Cursor.cells,
      Except.ok.injEq, pushCells, List.zipWith_nil_left]
    constructor
    · rintro ⟨rfl, rfl⟩
      exact ⟨[], ⟨rfl, rfl⟩, rfl, fun _ hmem => absurd hmem List.not_mem_nil⟩
    · rintro ⟨_, ⟨-, rfl⟩, rfl, -⟩
      exact ⟨rfl, rfl⟩
  | cons builder builders ih =>
    rw [List.map_cons, appendRow]
    constructor
    · intro h
      cases hcell : cursor.cell row builder.column with
      | error fault => simp [hcell] at h
      | ok read =>
        obtain ⟨value, behind⟩ := read
        simp only [hcell, ColumnBuilder.push?_eq] at h
        by_cases hreach : (builder.push value).InReach
        · simp only [if_pos hreach] at h
          cases hrow : appendRow row builders behind with
          | error fault => simp [hrow, Decoded.map] at h
          | lost => simp [hrow, Decoded.map] at h
          | ok more =>
            obtain ⟨values, hcells, hpushed, hall⟩ := ih.1 hrow
            simp only [hrow, Decoded.map, Decoded.ok.injEq, Prod.mk.injEq] at h
            obtain ⟨rfl, rfl⟩ := h
            refine ⟨value :: values, Cursor.cells_cons_eq_ok_iff.2
              ⟨value, behind, values, hcell, hcells, rfl⟩, ?_, List.forall_mem_cons.2 ⟨hreach, hall⟩⟩
            rw [hpushed, pushCells, pushCells, List.zipWith_cons_cons]
        · simp [if_neg hreach] at h
    · rintro ⟨_, hcells, rfl, hall⟩
      obtain ⟨value, behind, values, hcell, hrest, rfl⟩ := Cursor.cells_cons_eq_ok_iff.1 hcells
      rw [pushCells, List.zipWith_cons_cons, InReach, List.forall_mem_cons] at hall
      have hrow := ih.2 ⟨values, hrest, rfl, hall.2⟩
      simp only [hcell, ColumnBuilder.push?_eq, if_pos hall.1, hrow, Decoded.map, pushCells,
        List.zipWith_cons_cons]

/-- A row that is refused cannot be read. -/
theorem cells_of_appendRow_eq_error {row : Nat} {builders : List ColumnBuilder} {cursor : Cursor}
    {fault : BatchFault} (h : appendRow row builders cursor = .error fault) :
    cursor.cells row (builders.map ColumnBuilder.column) = .error fault := by
  induction builders generalizing cursor with
  | nil => cases h
  | cons builder builders ih =>
    rw [appendRow] at h
    rw [List.map_cons, Cursor.cells]
    cases hcell : cursor.cell row builder.column with
    | error found =>
      simp only [hcell, Decoded.error.injEq] at h
      rw [h]
    | ok read =>
      simp only [hcell, ColumnBuilder.push?_eq] at h
      by_cases hreach : (builder.push read.1).InReach
      · simp only [if_pos hreach] at h
        cases hrow : appendRow row builders read.2 with
        | error found =>
          simp only [hrow, Decoded.map, Decoded.error.injEq] at h
          subst h
          simp only [ih hrow]
        | ok more => simp [hrow, Decoded.map] at h
        | lost => simp [hrow, Decoded.map] at h
      · simp [if_neg hreach] at h

theorem map_column_pushCells {builders : List ColumnBuilder} {values : List Value}
    (h : values.length = builders.length) :
    (pushCells builders values).map ColumnBuilder.column = builders.map ColumnBuilder.column := by
  rw [pushCells, List.map_zipWith]
  simp only [ColumnBuilder.column_push]
  induction builders generalizing values with
  | nil => rfl
  | cons builder builders ih =>
    cases values with
    | nil => simp at h
    | cons value values => simpa using ih (by simpa using h)

/-- What is in reach behind a row was in reach before it. -/
theorem inReach_of_pushCells {builders : List ColumnBuilder} {values : List Value}
    (hlength : values.length = builders.length) (h : InReach (pushCells builders values)) :
    InReach builders := by
  induction builders generalizing values with
  | nil => exact fun _ hmem => absurd hmem List.not_mem_nil
  | cons builder builders ih =>
    cases values with
    | nil => cases hlength
    | cons value values =>
      rw [pushCells, List.zipWith_cons_cons, InReach, List.forall_mem_cons] at h
      exact List.forall_mem_cons.2
        ⟨ColumnBuilder.inReach_of_push h.1, ih (Nat.succ.inj hlength) h.2⟩

/-- The same of rows. -/
theorem inReach_of_foldl_pushCells {builders : List ColumnBuilder} {table : List (List Value)}
    (hwidth : ∀ values ∈ table, values.length = builders.length)
    (h : InReach (table.foldl pushCells builders)) : InReach builders := by
  induction table generalizing builders with
  | nil => exact h
  | cons values table ih =>
    obtain ⟨hvalues, hrest⟩ := List.forall_mem_cons.1 hwidth
    have hsame : (pushCells builders values).length = builders.length := by
      simp [pushCells, hvalues]
    exact inReach_of_pushCells hvalues (ih (by rwa [hsame]) h)

/-- **Rows are taken if they can be read** and the columns can take their cells. -/
theorem appendRows_eq_ok_iff {count row : Nat} {builders pushed : List ColumnBuilder}
    {cursor next : Cursor} (hbuilders : InReach builders) :
    appendRows count row builders cursor = .ok (pushed, next) ↔
      ∃ table, cursor.rows (builders.map ColumnBuilder.column) count row = .ok (table, next) ∧
        pushed = table.foldl pushCells builders ∧ InReach pushed := by
  induction count generalizing row builders cursor with
  | zero =>
    simp only [appendRows, Decoded.ok.injEq, Prod.mk.injEq, Cursor.rows, Except.ok.injEq]
    constructor
    · rintro ⟨rfl, rfl⟩
      exact ⟨[], ⟨rfl, rfl⟩, rfl, hbuilders⟩
    · rintro ⟨_, ⟨rfl, rfl⟩, rfl, -⟩
      exact ⟨rfl, rfl⟩
  | succ count ih =>
    rw [appendRows]
    constructor
    · intro h
      cases hrow : appendRow row builders cursor with
      | error fault => simp [hrow, Decoded.bind] at h
      | lost => simp [hrow, Decoded.bind] at h
      | ok read =>
        obtain ⟨filled, behind⟩ := read
        obtain ⟨values, hcells, rfl, hreach⟩ := appendRow_eq_ok_iff.1 hrow
        have hlength : values.length = builders.length := by
          simpa using Cursor.length_of_cells hcells
        simp only [hrow, Decoded.bind] at h
        obtain ⟨table, hrows, hpushed, hall⟩ := (ih hreach).1 h
        rw [map_column_pushCells hlength] at hrows
        exact ⟨values :: table,
          Cursor.rows_succ_eq_ok_iff.2 ⟨values, behind, table, hcells, hrows, rfl⟩, hpushed, hall⟩
    · rintro ⟨_, hrows, rfl, hall⟩
      obtain ⟨values, behind, table, hcells, hrest, rfl⟩ := Cursor.rows_succ_eq_ok_iff.1 hrows
      have hlength : values.length = builders.length := by
        simpa using Cursor.length_of_cells hcells
      have hwidth : ∀ more ∈ table, more.length = (pushCells builders values).length := by
        intro more hmem
        rw [Cursor.length_of_rows hrest more hmem]
        simp [pushCells, hlength]
      have hreach := inReach_of_foldl_pushCells hwidth hall
      have hrow := appendRow_eq_ok_iff.2 ⟨values, hcells, rfl, hreach⟩
      rw [← map_column_pushCells hlength] at hrest
      simp only [hrow, Decoded.bind]
      exact (ih hreach).2 ⟨table, hrest, rfl, hall⟩

/-- Rows that are refused cannot be read. -/
theorem rows_of_appendRows_eq_error {count row : Nat} {builders : List ColumnBuilder}
    {cursor : Cursor} {fault : BatchFault}
    (h : appendRows count row builders cursor = .error fault) :
    cursor.rows (builders.map ColumnBuilder.column) count row = .error fault := by
  induction count generalizing row builders cursor with
  | zero => cases h
  | succ count ih =>
    rw [appendRows] at h
    rw [Cursor.rows]
    cases hrow : appendRow row builders cursor with
    | error found =>
      simp only [hrow, Decoded.bind, Decoded.error.injEq] at h
      simp only [cells_of_appendRow_eq_error hrow, h]
    | lost => simp [hrow, Decoded.bind] at h
    | ok read =>
      obtain ⟨filled, behind⟩ := read
      obtain ⟨values, hcells, rfl, -⟩ := appendRow_eq_ok_iff.1 hrow
      have hlength : values.length = builders.length := by
        simpa using Cursor.length_of_cells hcells
      simp only [hrow, Decoded.bind] at h
      have hrows := ih h
      rw [map_column_pushCells hlength] at hrows
      simp only [hcells, hrows]

/-! ## What columns hold -/

/-- The batch has the columns of the schema, and its cells are those of the rows. -/
structure Holds (schema : ColumnSchema) (table : List (List Value)) (batch : Batch) : Prop where
  rows : batch.rows = table.length
  fields : batch.columns.map Column.field = schema.fields
  sizes : ∀ column ∈ batch.columns, column.values.size = table.length
  cells : ∀ r (h : r < table.length), batch.row r = table[r]

/-- The columns so far hold these rows and nothing else. -/
structure Filled (table : List (List Value)) (builders : List ColumnBuilder) : Prop where
  sizes : ∀ builder ∈ builders, builder.values.size = table.length
  cells : ∀ r (h : r < table.length),
    builders.map (fun builder => builder.values.getD r .null) = table[r]

theorem filled_nil {builders : List ColumnBuilder}
    (h : ∀ builder ∈ builders, builder.values = #[]) :
    Filled [] builders where
  sizes builder hmem := by rw [h builder hmem]; rfl
  cells r hr := absurd hr (Nat.not_lt_zero r)

/-- A cell that is already there stays, and the new cells make up the new row. -/
theorem map_getD_pushCells {builders : List ColumnBuilder} {values : List Value} {n : Nat}
    (hsizes : ∀ builder ∈ builders, builder.values.size = n)
    (hlength : values.length = builders.length) (r : Nat) (hr : r ≤ n) :
    (pushCells builders values).map (fun builder => builder.values.getD r .null) =
      if r < n then builders.map (fun builder => builder.values.getD r .null) else values := by
  induction builders generalizing values with
  | nil =>
    have : values = [] := List.eq_nil_of_length_eq_zero hlength
    simp [pushCells, this]
  | cons builder builders ih =>
    cases values with
    | nil => simp at hlength
    | cons value values =>
      have hsize := hsizes builder List.mem_cons_self
      have hrest := ih (fun b hb => hsizes b (List.mem_cons_of_mem _ hb)) (by simpa using hlength)
      rw [pushCells] at hrest ⊢
      rw [List.zipWith_cons_cons, List.map_cons, hrest]
      by_cases hlt : r < n
      · simp [hlt, ColumnBuilder.push, Array.getD_eq_getD_getElem?, Array.getElem?_push, hsize,
          Nat.ne_of_lt hlt]
      · have hreq : r = builder.values.size := by omega
        simp only [hlt, if_false]
        simp [ColumnBuilder.push, Array.getD_eq_getD_getElem?, hreq]

theorem Filled.pushCells {table : List (List Value)} {builders : List ColumnBuilder}
    (h : Filled table builders) {values : List Value} (hlength : values.length = builders.length) :
    Filled (table ++ [values]) (pushCells builders values) where
  sizes builder hmem := by
    rw [Batch.pushCells] at hmem
    obtain ⟨i, hi, rfl⟩ := List.mem_iff_getElem.1 hmem
    rw [List.getElem_zipWith]
    simp only [ColumnBuilder.push, Array.size_push, List.length_append, List.length_singleton]
    rw [h.sizes _ (List.getElem_mem _)]
  cells r hr := by
    rw [List.length_append, List.length_singleton] at hr
    rw [map_getD_pushCells h.sizes hlength r (by omega), List.getElem_append]
    by_cases hlt : r < table.length
    · simp only [hlt, if_true, dif_pos]
      exact h.cells r hlt
    · simp [hlt]

theorem Filled.foldl_pushCells {table : List (List Value)} {builders : List ColumnBuilder}
    (h : Filled table builders) {more : List (List Value)}
    (hwidth : ∀ values ∈ more, values.length = builders.length) :
    Filled (table ++ more) (more.foldl Batch.pushCells builders) := by
  induction more generalizing table builders with
  | nil => simpa using h
  | cons values more ih =>
    have hvalues := hwidth values List.mem_cons_self
    have hcount : (Batch.pushCells builders values).length = builders.length := by
      simp [Batch.pushCells, hvalues]
    have hnext := ih (h.pushCells hvalues) fun v hv => by
      rw [hcount]
      exact hwidth v (List.mem_cons_of_mem _ hv)
    simpa using hnext

theorem map_column_foldl_pushCells {builders : List ColumnBuilder} {table : List (List Value)}
    (hwidth : ∀ values ∈ table, values.length = builders.length) :
    (table.foldl pushCells builders).map ColumnBuilder.column =
      builders.map ColumnBuilder.column := by
  induction table generalizing builders with
  | nil => rfl
  | cons values table ih =>
    have hvalues := hwidth values List.mem_cons_self
    have hcount : (pushCells builders values).length = builders.length := by
      simp [pushCells, hvalues]
    rw [List.foldl_cons, ih, map_column_pushCells hvalues]
    intro v hv
    rw [hcount]
    exact hwidth v (List.mem_cons_of_mem _ hv)

/-! ## Decoding -/

/-- A cell that columns have been given is the last of one of them. -/
theorem forall_mem_pushCells {P : ColumnBuilder → Prop} {builders : List ColumnBuilder}
    (h : ∀ builder ∈ builders, ∀ value, P (builder.push value)) (values : List Value) :
    ∀ builder ∈ pushCells builders values, P builder := by
  intro builder hmem
  rw [pushCells] at hmem
  obtain ⟨i, hi, rfl⟩ := List.mem_iff_getElem.1 hmem
  rw [List.getElem_zipWith]
  exact h _ (List.getElem_mem _) _

theorem counts_foldl_pushCells {builders : List ColumnBuilder}
    (h : ∀ builder ∈ builders, builder.Counts) (table : List (List Value)) :
    ∀ builder ∈ table.foldl pushCells builders, builder.Counts := by
  induction table generalizing builders with
  | nil => exact h
  | cons values table ih =>
    exact ih (forall_mem_pushCells (fun builder hmem => (h builder hmem).push) values)

/-- Finished columns depend on the cells alone. -/
theorem map_finish_foldl_pushCells {builders others : List ColumnBuilder}
    (h : builders.map ColumnBuilder.finish = others.map ColumnBuilder.finish)
    (table : List (List Value)) :
    (table.foldl pushCells builders).map ColumnBuilder.finish =
      (table.foldl pushCells others).map ColumnBuilder.finish := by
  have hrow (builders : List ColumnBuilder) (values : List Value) :
      (pushCells builders values).map ColumnBuilder.finish =
        List.zipWith (fun column value => { column with values := column.values.push value })
          (builders.map ColumnBuilder.finish) values := by
    rw [pushCells, List.map_zipWith, List.zipWith_map_left]
    rfl
  induction table generalizing builders others with
  | nil => exact h
  | cons values table ih => exact ih (by rw [hrow, hrow, h])

/-- The columns of a schema before the first row, with so much room set aside. -/
abbrev begun (schema : ColumnSchema) (capacity textRoom : Nat) : List ColumnBuilder :=
  schema.columns.map (.withRoom capacity textRoom)

theorem map_column_begun (schema : ColumnSchema) (capacity textRoom : Nat) :
    (begun schema capacity textRoom).map ColumnBuilder.column = schema.columns := by
  simp [ColumnBuilder.withRoom, Function.comp_def]

theorem length_begun (schema : ColumnSchema) (capacity textRoom : Nat) :
    (begun schema capacity textRoom).length = schema.columns.length := List.length_map _

/-- The columns of rows under a schema. -/
def columnsOf (schema : ColumnSchema) (table : List (List Value)) : List Column :=
  (table.foldl pushCells (begun schema 0 0)).map ColumnBuilder.finish

/-- How much room is set aside for columns does not show in them. -/
theorem map_finish_begun (schema : ColumnSchema) (capacity textRoom : Nat)
    (table : List (List Value)) :
    (table.foldl pushCells (begun schema capacity textRoom)).map ColumnBuilder.finish =
      columnsOf schema table :=
  map_finish_foldl_pushCells (by simp [ColumnBuilder.withRoom, ColumnBuilder.finish]) table

/-- All texts of a batch are in the reach of offsets. -/
def TextsInReach (batch : Batch) : Prop := ∀ column ∈ batch.columns, column.textBytes ≤ maxOffset

/-- Nor does it matter for what is in reach. -/
theorem inReach_begun_iff (schema : ColumnSchema) (capacity textRoom : Nat)
    (table : List (List Value)) :
    InReach (table.foldl pushCells (begun schema capacity textRoom)) ↔
      ∀ column ∈ columnsOf schema table, column.textBytes ≤ maxOffset := by
  have hbegun : ∀ builder ∈ begun schema capacity textRoom, builder.Counts := by
    intro builder hmem
    obtain ⟨column, -, rfl⟩ := List.mem_map.1 hmem
    exact ColumnBuilder.counts_withRoom ..
  have hcounts := counts_foldl_pushCells hbegun table
  rw [← map_finish_begun schema capacity textRoom, List.forall_mem_map]
  refine forall_congr' fun builder => forall_congr' fun hmem => ?_
  rw [ColumnBuilder.InReach, hcounts builder hmem]

/-- What a payload says under a schema, however long the texts are. -/
def read (schema : ColumnSchema) (payload : Bytes) : Except BatchFault Batch :=
  match (Cursor.ofPayload payload).number 4 with
  | .error short => .error (.truncated .rowCount short)
  | .ok (rows, cursor) =>
    if schema.columns.isEmpty then .ok { rows, columns := [] }
    else
      (cursor.rows schema.columns rows 0).map fun (table, _) =>
        { rows, columns := columnsOf schema table,
          textRoom := (builderCapacity rows cursor.rest.length schema.width).2 }

variable {schema : ColumnSchema} {payload : Bytes} {batch : Batch} {fault : BatchFault}

/-- Without columns there is nothing to read behind the row count. -/
theorem decode_of_isEmpty (hempty : schema.columns = []) {count : Nat} {start : Cursor}
    (hcount : (Cursor.ofPayload payload).number 4 = .ok (count, start)) :
    decode schema payload = .ok { rows := count, columns := [] } := by
  simp [decode, hcount, hempty]

theorem inReach_begun (schema : ColumnSchema) (capacity textRoom : Nat) :
    InReach (begun schema capacity textRoom) := by
  intro builder hmem
  obtain ⟨column, -, rfl⟩ := List.mem_map.1 hmem
  exact Nat.zero_le _

/-- **A batch is what a payload says, with all texts in reach.** -/
theorem decode_eq_ok_iff :
    decode schema payload = .ok batch ↔
      read schema payload = .ok batch ∧ batch.TextsInReach := by
  rw [decode, read]
  cases (Cursor.ofPayload payload).number 4 with
  | error short => simp
  | ok counted =>
    obtain ⟨count, start⟩ := counted
    by_cases hempty : schema.columns.isEmpty = true
    · simp only [hempty, if_true, Decoded.ok.injEq, Except.ok.injEq]
      constructor
      · rintro rfl
        exact ⟨rfl, fun _ hmem => absurd hmem List.not_mem_nil⟩
      · exact And.left
    simp only [hempty, Bool.false_eq_true, if_false]
    generalize builderCapacity count start.rest.length schema.width = room
    have hrows (pushed : List ColumnBuilder) (next : Cursor) :
        appendRows count 0 (begun schema room.1 room.2) start = .ok (pushed, next) ↔
          ∃ table, start.rows schema.columns count 0 = .ok (table, next) ∧
            pushed = table.foldl pushCells (begun schema room.1 room.2) ∧ InReach pushed := by
      simpa only [map_column_begun] using
        appendRows_eq_ok_iff (inReach_begun schema room.1 room.2)
    constructor
    · intro h
      cases happend : appendRows count 0 (begun schema room.1 room.2) start with
      | error fault => simp [happend, Decoded.map] at h
      | lost => simp [happend, Decoded.map] at h
      | ok pushed =>
        obtain ⟨table, hread, hpushed, hreach⟩ := (hrows _ _).1 happend
        simp only [happend, Decoded.map, Decoded.ok.injEq] at h
        rw [hpushed, inReach_begun_iff] at hreach
        subst h
        rw [hpushed, map_finish_begun, hread]
        exact ⟨rfl, hreach⟩
    · rintro ⟨h, hreach⟩
      cases hread : start.rows schema.columns count 0 with
      | error fault => simp [hread, Except.map] at h
      | ok read =>
        obtain ⟨table, next⟩ := read
        simp only [hread, Except.map, Except.ok.injEq] at h
        subst h
        have happend := (hrows _ _).2
          ⟨table, hread, rfl, (inReach_begun_iff schema room.1 room.2 table).2 hreach⟩
        simp only [happend, Decoded.map, map_finish_begun]

/-- **A payload that is refused says nothing**, and the fault is the one that is found in it. -/
theorem read_of_decode_eq_error (h : decode schema payload = .error fault) :
    read schema payload = .error fault := by
  rw [decode] at h
  rw [read]
  cases hcount : (Cursor.ofPayload payload).number 4 with
  | error short =>
    simp only [hcount, Decoded.error.injEq] at h
    exact congrArg Except.error h
  | ok counted =>
    obtain ⟨count, start⟩ := counted
    simp only [hcount] at h ⊢
    by_cases hempty : schema.columns.isEmpty = true
    · simp [hempty] at h
    simp only [hempty, Bool.false_eq_true, if_false] at h ⊢
    generalize builderCapacity count start.rest.length schema.width = room at h
    cases happend : appendRows count 0 (begun schema room.1 room.2) start with
    | ok pushed => simp [happend, Decoded.map] at h
    | lost => simp [happend, Decoded.map] at h
    | error found =>
      have hrows := rows_of_appendRows_eq_error happend
      rw [map_column_begun] at hrows
      simp only [happend, Decoded.map, Decoded.error.injEq] at h
      rw [hrows, h]
      rfl

/-- What a payload says is what comes of it, unless a builder is lost. -/
theorem decode_eq_of_read (h : decode schema payload ≠ .lost) :
    decode schema payload = .ofExcept (read schema payload) := by
  cases hdecode : decode schema payload with
  | ok batch =>
    rw [(decode_eq_ok_iff.1 hdecode).1]
    rfl
  | error fault =>
    rw [read_of_decode_eq_error hdecode]
    rfl
  | lost => exact absurd hdecode h

theorem holds_columnsOf {table : List (List Value)}
    (hwidth : ∀ values ∈ table, values.length = schema.columns.length)
    (hrows : batch.rows = table.length) (hcolumns : batch.columns = columnsOf schema table) :
    batch.Holds schema table := by
  have hempty : Filled [] (begun schema 0 0) := filled_nil fun builder hmem => by
    obtain ⟨column, -, rfl⟩ := List.mem_map.1 hmem
    rfl
  have hlength : ∀ values ∈ table, values.length = (begun schema 0 0).length := by
    rw [length_begun]
    exact hwidth
  have hfilled := hempty.foldl_pushCells hlength
  have hkept := map_column_foldl_pushCells hlength
  rw [map_column_begun] at hkept
  refine ⟨hrows, ?_, fun column hmem => ?_, fun r hr => ?_⟩
  · rw [hcolumns, columnsOf, List.map_map]
    show (List.foldl pushCells _ table).map (ColumnDef.field ∘ ColumnBuilder.column) = _
    rw [← List.map_map, hkept]
    simp [ColumnSchema.fields]
  · rw [hcolumns, columnsOf] at hmem
    obtain ⟨builder, hbuilder, rfl⟩ := List.mem_map.1 hmem
    exact hfilled.sizes builder hbuilder
  · rw [row, hcolumns, columnsOf, List.map_map]
    exact hfilled.cells r hr

end Batch
end BatchBridge
