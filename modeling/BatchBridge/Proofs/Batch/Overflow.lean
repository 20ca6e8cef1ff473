import BatchBridge.Proofs.Batch.Reading
import BatchBridge.Proofs.Text.Utf8
import Mathlib.Data.List.Induction

/-!
# Payloads with too much text

A text has at most 65535 bytes in its payload, but nothing limits how many texts a column has.  A
builder is lost with the first cell that ends where no offset can point, whatever stands behind that
cell, and if there are rows missing at the end nobody will ever know.

* `textTotal`, `textIn` — how much text cells have together, and rows in a column.
* `FitsOffsets` — no column of the rows has more text than offsets can reach.
  `Batch.inReach_foldl_begun_iff`: then, and only then, columns take them.
* **`Batch.map_contents_decode_eq_ok_iff`** — a batch is read exactly where a table is spelled that
  fits.
* `Spelling.Overflows`, **`Batch.decode_eq_lost_iff`** — a builder is lost exactly where a payload
  begins with cells that do not fit.  `Batch.decode_replicate_eq_lost`: one row will do, if it is
  repeated often enough.
* **`Batch.decode_append_of_lost`** — what follows these cells cannot make up for that.
-/

namespace BatchBridge

/-! ## Amounts of text -/

/-- The bytes of the texts of cells. -/
def textTotal (cells : List Value) : Nat :=
  cells.foldl (fun n value => n + value.textBytes) 0

theorem textTotal_concat (cells : List Value) (value : Value) :
    textTotal (cells ++ [value]) = textTotal cells + value.textBytes := by
  rw [textTotal, List.foldl_concat, textTotal]

theorem textTotal_append (front back : List Value) :
    textTotal (front ++ back) = textTotal front + textTotal back := by
  have hstart (start : Nat) : back.foldl (fun n value => n + value.textBytes) start =
      start + textTotal back := by
    rw [textTotal]
    induction back generalizing start with
    | nil => rfl
    | cons value back ih =>
      rw [List.foldl_cons, ih, List.foldl_cons, Nat.zero_add, ih value.textBytes, Nat.add_assoc]
  rw [textTotal, List.foldl_append, hstart]
  rfl

/-- The bytes of text that rows have in a column.  A row that ends before it has none there. -/
def textIn (table : List (List Value)) (c : Nat) : Nat :=
  textTotal (table.map (·.getD c .null))

theorem textIn_append (front back : List (List Value)) (c : Nat) :
    textIn (front ++ back) c = textIn front c + textIn back c := by
  rw [textIn, List.map_append, textTotal_append]
  rfl

theorem textIn_cons (row : List Value) (table : List (List Value)) (c : Nat) :
    textIn (row :: table) c = textIn [row] c + textIn table c := textIn_append [row] table c

theorem textIn_singleton (row : List Value) (c : Nat) :
    textIn [row] c = (row.getD c .null).textBytes := Nat.zero_add _

theorem textIn_replicate (n : Nat) (row : List Value) (c : Nat) :
    textIn (List.replicate n row) c = n * (row.getD c .null).textBytes := by
  induction n with
  | zero => exact (Nat.zero_mul _).symm
  | succ n ih =>
    rw [List.replicate_succ, textIn_cons, ih, textIn_singleton, Nat.succ_mul, Nat.add_comm]

/-- No column of the rows has more text than offsets can reach. -/
def FitsOffsets (table : List (List Value)) : Prop := ∀ c, textIn table c ≤ maxOffset

theorem FitsOffsets.of_append {front back : List (List Value)} (h : FitsOffsets (front ++ back)) :
    FitsOffsets front := fun c => by
  have hc := h c
  rw [textIn_append] at hc
  exact Nat.le_of_add_right_le hc

/-- Rows that are all alike do not fit if there are too many of them. -/
theorem not_fitsOffsets_replicate {n c : Nat} {row : List Value}
    (h : maxOffset < n * (row.getD c .null).textBytes) : ¬FitsOffsets (List.replicate n row) := by
  intro hfits
  have htext := hfits c
  rw [textIn_replicate] at htext
  exact Nat.not_lt_of_le htext h

/-- Behind the last column there is no text. -/
theorem textIn_eq_zero {table : List (List Value)} {width c : Nat}
    (hwidth : ∀ row ∈ table, row.length ≤ width) (hc : width ≤ c) : textIn table c = 0 := by
  induction table with
  | nil => rfl
  | cons row table ih =>
    obtain ⟨hrow, hrest⟩ := List.forall_mem_cons.1 hwidth
    have hnull : row.getD c .null = .null := by
      rw [List.getD_eq_getElem?_getD, List.getElem?_eq_none (Nat.le_trans hrow hc)]
      rfl
    rw [textIn_cons, ih hrest, textIn_singleton, hnull]
    rfl

namespace Batch

/-! ## Columns with much text -/

/-- A column gets the text of its own cell. -/
theorem textUsed_pushCells {builders : List ColumnBuilder} {values : List Value} {c : Nat}
    {pushed : ColumnBuilder} (h : (pushCells builders values)[c]? = some pushed) :
    ∃ builder, builders[c]? = some builder ∧
      pushed.textUsed = builder.textUsed + textIn [values] c := by
  rw [pushCells, List.getElem?_zipWith_eq_some] at h
  obtain ⟨builder, value, hbuilder, hvalue, rfl⟩ := h
  refine ⟨builder, hbuilder, ?_⟩
  rw [ColumnBuilder.textUsed_push, textIn_singleton, List.getD_eq_getElem?_getD, hvalue]
  rfl

/-- A column gets the text that the rows have there. -/
theorem textUsed_foldl_pushCells {builders : List ColumnBuilder} {table : List (List Value)}
    {c : Nat} {pushed : ColumnBuilder} (h : (table.foldl pushCells builders)[c]? = some pushed) :
    ∃ builder, builders[c]? = some builder ∧
      pushed.textUsed = builder.textUsed + textIn table c := by
  induction table generalizing builders with
  | nil => exact ⟨pushed, h, rfl⟩
  | cons values table ih =>
    obtain ⟨between, hbetween, hused⟩ := ih h
    obtain ⟨builder, hbuilder, hbetween⟩ := textUsed_pushCells hbetween
    refine ⟨builder, hbuilder, ?_⟩
    rw [hused, hbetween, textIn_cons values table, Nat.add_assoc]

theorem length_foldl_pushCells {builders : List ColumnBuilder} {table : List (List Value)}
    (hwidth : ∀ values ∈ table, values.length = builders.length) :
    (table.foldl pushCells builders).length = builders.length := by
  have hcolumns := congrArg List.length (map_column_foldl_pushCells hwidth)
  rwa [List.length_map, List.length_map] at hcolumns

/-- Columns are in reach if their texts are, and there are no others. -/
theorem inReach_iff_fitsOffsets {builders : List ColumnBuilder} {rows : List (List Value)}
    (hused : ∀ c builder, builders[c]? = some builder → builder.textUsed = textIn rows c)
    (hbeyond : ∀ c, builders.length ≤ c → textIn rows c ≤ maxOffset) :
    InReach builders ↔ FitsOffsets rows := by
  constructor
  · intro h c
    rcases Nat.lt_or_ge c builders.length with hc | hc
    · rw [← hused c _ (List.getElem?_eq_getElem hc)]
      exact h _ (List.getElem_mem _)
    · exact hbeyond c hc
  · intro h builder hmem
    obtain ⟨c, hc⟩ := List.mem_iff_getElem?.1 hmem
    rw [ColumnBuilder.InReach, hused c builder hc]
    exact h c

variable {schema : ColumnSchema} {table : List (List Value)}

theorem textUsed_foldl_begun {capacity textRoom c : Nat} {builder : ColumnBuilder}
    (h : (table.foldl pushCells (begun schema capacity textRoom))[c]? = some builder) :
    builder.textUsed = textIn table c := by
  obtain ⟨first, hfirst, hsum⟩ := textUsed_foldl_pushCells h
  obtain ⟨column, -, rfl⟩ := List.mem_map.1 (List.mem_of_getElem? hfirst)
  exact hsum.trans (Nat.zero_add _)

theorem length_foldl_begun (capacity textRoom : Nat)
    (hwidth : ∀ values ∈ table, values.length = schema.columns.length) :
    (table.foldl pushCells (begun schema capacity textRoom)).length = schema.columns.length := by
  rw [length_foldl_pushCells, length_begun]
  rwa [length_begun]

/-- **Columns take rows exactly if these fit.** -/
theorem inReach_foldl_begun_iff (capacity textRoom : Nat)
    (hwidth : ∀ values ∈ table, values.length = schema.columns.length) :
    InReach (table.foldl pushCells (begun schema capacity textRoom)) ↔ FitsOffsets table := by
  refine inReach_iff_fitsOffsets (fun c builder => textUsed_foldl_begun) fun c hc => ?_
  rw [length_foldl_begun capacity textRoom hwidth] at hc
  rw [textIn_eq_zero (fun values hmem => Nat.le_of_eq (hwidth values hmem)) hc]
  exact Nat.zero_le _

/-- The same of some cells of the next row. -/
theorem inReach_pushCells_foldl_begun_iff (capacity textRoom : Nat) {cells : List Value}
    (hwidth : ∀ values ∈ table, values.length = schema.columns.length)
    (hcells : cells.length ≤ schema.columns.length) (hbefore : FitsOffsets table) :
    InReach (pushCells (table.foldl pushCells (begun schema capacity textRoom)) cells) ↔
      FitsOffsets (table ++ [cells]) := by
  refine inReach_iff_fitsOffsets (fun c builder h => ?_) fun c hc => ?_
  · obtain ⟨filled, hfilled, hpushed⟩ := textUsed_pushCells h
    rw [hpushed, textUsed_foldl_begun hfilled, textIn_append]
  · rw [pushCells, List.length_zipWith, length_foldl_begun capacity textRoom hwidth,
      Nat.min_eq_right hcells] at hc
    have hnone : textIn [cells] c = 0 :=
      textIn_eq_zero (List.forall_mem_singleton.2 (Nat.le_refl _)) hc
    rw [textIn_append, hnone]
    exact hbefore c

/-! ## Payloads that fit -/

open Spelling

/-- The columns of rows that fit are in reach, and no others. -/
theorem textsInReach_iff {batch : Batch}
    (hwidth : ∀ values ∈ table, values.length = schema.columns.length)
    (hcolumns : batch.columns = columnsOf schema table) :
    batch.TextsInReach ↔ FitsOffsets table := by
  rw [TextsInReach, hcolumns, ← inReach_begun_iff schema 0 0, inReach_foldl_begun_iff 0 0 hwidth]

variable {payload : Bytes}

/-- **A batch is read exactly where a table is spelled that fits**, and what can be seen of it are
the values of the table.  What stands behind the table does not matter. -/
theorem map_contents_decode_eq_ok_iff {seen : Nat × List Column} :
    (decode schema payload).map contents = .ok seen ↔
      ∃ (table : List (List Spelling)) (rest : Bytes), Spelling.OfSchema schema table ∧
        FitsOffsets (Spelling.values table) ∧ payload = Spelling.payload table ++ rest ∧
        seen = (table.length, columnsOf schema (Spelling.values table)) := by
  constructor
  · intro h
    cases hdecode : decode schema payload with
    | error fault => simp [hdecode, Decoded.map] at h
    | lost => simp [hdecode, Decoded.map] at h
    | ok batch =>
      rw [hdecode, Decoded.map, Decoded.ok.injEq] at h
      obtain ⟨hread, hreach⟩ := decode_eq_ok_iff.1 hdecode
      have hseen : (read schema payload).map contents = .ok seen := by rw [hread, ← h]; rfl
      obtain ⟨table, rest, htable, hpayload, rfl⟩ := map_contents_read_eq_ok_iff.1 hseen
      have hcolumns := congrArg Prod.snd h
      exact ⟨table, rest, htable,
        (textsInReach_iff (length_of_mem_values htable.rows) hcolumns).1 hreach, hpayload, rfl⟩
  · rintro ⟨table, rest, htable, hfits, hpayload, rfl⟩
    obtain ⟨batch, hread, hseen⟩ := map_eq_ok_iff.1
      (map_contents_read_eq_ok_iff.2 ⟨table, rest, htable, hpayload, rfl⟩)
    have hcolumns := congrArg Prod.snd hseen
    have hreach := (textsInReach_iff (length_of_mem_values htable.rows) hcolumns).2 hfits
    rw [decode_eq_ok_iff.2 ⟨hread, hreach⟩, Decoded.map, hseen]

/-! ## Payloads that do not fit -/

/-- **A row is lost on the way to its end**, with the first cell that is not taken. -/
theorem appendRow_eq_lost_iff {row : Nat} {builders : List ColumnBuilder} {cursor : Cursor} :
    appendRow row builders cursor = .lost ↔
      ∃ (cells : List Spelling) (last : Cursor),
        OfColumns ((builders.map ColumnBuilder.column).take cells.length) cells ∧
        Cursor.Passes (rowBytes cells) cursor last ∧
        ¬InReach (pushCells builders (cells.map value)) := by
  induction builders generalizing cursor with
  | nil =>
    refine iff_of_false (by simp [appendRow]) ?_
    rintro ⟨cells, -, -, -, hlost⟩
    exact hlost fun _ hmem => absurd hmem List.not_mem_nil
  | cons builder builders ih =>
    rw [appendRow]
    constructor
    · intro h
      cases hcell : cursor.cell row builder.column with
      | error fault => simp [hcell] at h
      | ok read =>
        obtain ⟨found, next⟩ := read
        obtain ⟨cell, htype, rfl, hpasses⟩ := Cursor.cell_eq_ok_iff.1 hcell
        simp only [hcell, ColumnBuilder.push?_eq] at h
        by_cases hreach : (builder.push cell.value).InReach
        · cases hrow : appendRow row builders next with
          | error fault => simp [if_pos hreach, hrow, Decoded.map] at h
          | ok pushed => simp [if_pos hreach, hrow, Decoded.map] at h
          | lost =>
            obtain ⟨cells, last, hcells, hrest, hlost⟩ := ih.1 hrow
            refine ⟨cell :: cells, last, .cons htype hcells, ?_, fun hall => hlost ?_⟩
            · rw [rowBytes_cons]
              exact hpasses.trans hrest
            · exact (List.forall_mem_cons.1 hall).2
        · refine ⟨[cell], next, .cons htype .nil, ?_, fun hall => hreach ?_⟩
          · rw [rowBytes_cons, rowBytes_nil, List.append_nil]
            exact hpasses
          · exact (List.forall_mem_cons.1 hall).1
    · rintro ⟨cells, last, hcells, hpasses, hlost⟩
      cases cells with
      | nil => exact absurd (fun _ hmem => absurd hmem (by simp [pushCells])) hlost
      | cons cell cells =>
        obtain ⟨htype, hcells⟩ := List.forall₂_cons.1 hcells
        rw [rowBytes_cons] at hpasses
        obtain ⟨next, hcell, hrest⟩ := hpasses.exists_between
        have hread : cursor.cell row builder.column = .ok (cell.value, next) :=
          Cursor.cell_eq_ok_iff.2 ⟨cell, htype, rfl, hcell⟩
        simp only [hread, ColumnBuilder.push?_eq]
        by_cases hreach : (builder.push cell.value).InReach
        · have hrow := ih.2 ⟨cells, last, hcells, hrest, fun hall =>
            hlost (List.forall_mem_cons.2 ⟨hreach, hall⟩)⟩
          simp only [if_pos hreach, hrow, Decoded.map]
        · simp only [if_neg hreach]

/-- **Rows are lost with one of them**, the rows before it having been taken. -/
theorem appendRows_eq_lost_iff {count row : Nat} {builders : List ColumnBuilder} {cursor : Cursor} :
    appendRows count row builders cursor = .lost ↔
      ∃ (table : List (List Spelling)) (cells : List Spelling) (last : Cursor),
        table.length < count ∧
        (∀ spelled ∈ table, OfColumns (builders.map ColumnBuilder.column) spelled) ∧
        OfColumns ((builders.map ColumnBuilder.column).take cells.length) cells ∧
        Cursor.Passes (tableBytes table ++ rowBytes cells) cursor last ∧
        ¬InReach (pushCells ((values table).foldl pushCells builders) (cells.map value)) := by
  induction count generalizing row builders cursor with
  | zero =>
    refine iff_of_false (by simp [appendRows]) ?_
    rintro ⟨table, -, -, hcount, -⟩
    exact absurd hcount (Nat.not_lt_zero _)
  | succ count ih =>
    rw [appendRows]
    constructor
    · intro h
      cases hrow : appendRow row builders cursor with
      | error fault => simp [hrow, Decoded.bind] at h
      | lost =>
        obtain ⟨cells, last, hcells, hpasses, hlost⟩ := appendRow_eq_lost_iff.1 hrow
        exact ⟨[], cells, last, count.succ_pos, fun _ hmem => absurd hmem List.not_mem_nil, hcells,
          hpasses, hlost⟩
      | ok pushed =>
        obtain ⟨filled, next⟩ := pushed
        obtain ⟨_, hread, rfl, -⟩ := appendRow_eq_ok_iff.1 hrow
        obtain ⟨spelled, hspelled, rfl, hpasses⟩ := Cursor.cells_eq_ok_iff.1 hread
        have hlength : (spelled.map value).length = builders.length := by
          rw [List.length_map, ← hspelled.length_eq, List.length_map]
        simp only [hrow, Decoded.bind] at h
        obtain ⟨table, cells, last, hcount, htable, hcells, hrest, hlost⟩ := ih.1 h
        rw [map_column_pushCells hlength] at htable hcells
        refine ⟨spelled :: table, cells, last, Nat.succ_lt_succ hcount,
          List.forall_mem_cons.2 ⟨hspelled, htable⟩, hcells, ?_, hlost⟩
        rw [tableBytes_cons, List.append_assoc]
        exact hpasses.trans hrest
    · rintro ⟨table, cells, last, hcount, htable, hcells, hpasses, hlost⟩
      cases table with
      | nil =>
        have hrow : appendRow row builders cursor = .lost :=
          appendRow_eq_lost_iff.2 ⟨cells, last, hcells, hpasses, hlost⟩
        simp only [hrow, Decoded.bind]
      | cons spelled table =>
        obtain ⟨hspelled, htable⟩ := List.forall_mem_cons.1 htable
        rw [tableBytes_cons, List.append_assoc] at hpasses
        obtain ⟨next, hpasses, hrest⟩ := hpasses.exists_between
        by_cases hreach : InReach (pushCells builders (spelled.map value))
        · have hlength : (spelled.map value).length = builders.length := by
            rw [List.length_map, ← hspelled.length_eq, List.length_map]
          have hrow : appendRow row builders cursor = .ok (_, next) := appendRow_eq_ok_iff.2
            ⟨_, Cursor.cells_eq_ok_iff.2 ⟨spelled, hspelled, rfl, hpasses⟩, rfl, hreach⟩
          rw [← map_column_pushCells hlength] at htable hcells
          simp only [hrow, Decoded.bind]
          exact ih.2
            ⟨table, cells, last, Nat.lt_of_succ_lt_succ hcount, htable, hcells, hrest, hlost⟩
        · have hwhole : (builders.map ColumnBuilder.column).take spelled.length =
              builders.map ColumnBuilder.column :=
            List.take_of_length_le (Nat.le_of_eq hspelled.length_eq)
          have hrow : appendRow row builders cursor = .lost :=
            appendRow_eq_lost_iff.2 ⟨spelled, next, by rwa [hwhole], hpasses, hreach⟩
          simp only [hrow, Decoded.bind]

end Batch

/-- The payload begins with cells of rows that it declares, and they do not fit: complete rows, and
some cells of the next. -/
inductive Spelling.Overflows (schema : ColumnSchema) : Bytes → Prop where
  | intro {count : Nat} {table : List (List Spelling)} {cells : List Spelling} (rest : Bytes) :
      count < Bytes.span 4 → table.length < count → (∀ row ∈ table, OfColumns schema.columns row) →
      OfColumns (schema.columns.take cells.length) cells →
      ¬FitsOffsets (values table ++ [cells.map value]) →
      Overflows schema (Bytes.ofNatBE 4 count ++ (tableBytes table ++ (rowBytes cells ++ rest)))

namespace Batch

open Spelling

variable {schema : ColumnSchema} {payload : Bytes}

/-- Of the rows that do not fit, there is a first. -/
theorem exists_first_overflow {columns : List ColumnDef} {table : List (List Spelling)}
    {cells : List Spelling} (htable : ∀ row ∈ table, OfColumns columns row)
    (hcells : OfColumns (columns.take cells.length) cells)
    (h : ¬FitsOffsets (values table ++ [cells.map value])) (rest : Bytes) :
    ∃ (front : List (List Spelling)) (stub : List Spelling) (behind : Bytes),
      front.length ≤ table.length ∧ (∀ row ∈ front, OfColumns columns row) ∧
      OfColumns (columns.take stub.length) stub ∧ FitsOffsets (values front) ∧
      ¬FitsOffsets (values front ++ [stub.map value]) ∧
      tableBytes table ++ (rowBytes cells ++ rest) =
        tableBytes front ++ (rowBytes stub ++ behind) := by
  -- on the complete rows from behind: if they do not fit themselves, then one of them is the last
  induction table using List.reverseRecOn generalizing cells rest with
  | nil => exact ⟨[], cells, rest, Nat.le_refl _, htable, hcells, fun _ => Nat.zero_le _, h, rfl⟩
  | append_singleton table row ih =>
    by_cases hfits : FitsOffsets (values (table ++ [row]))
    · exact ⟨table ++ [row], cells, rest, Nat.le_refl _, htable, hcells, hfits, h, rfl⟩
    · obtain ⟨hbefore, hrow⟩ := List.forall_mem_append.1 htable
      have hrow := List.forall_mem_singleton.1 hrow
      rw [values, List.map_append] at hfits
      have hwhole : columns.take row.length = columns :=
        List.take_of_length_le (Nat.le_of_eq hrow.length_eq)
      obtain ⟨front, stub, behind, hlength, hfront, hstub, hfirst, hnext, hbytes⟩ :=
        ih hbefore (by rwa [hwhole]) hfits (rowBytes cells ++ rest)
      refine ⟨front, stub, behind, ?_, hfront, hstub, hfirst, hnext, ?_⟩
      · rw [List.length_append]
        exact Nat.le_add_right_of_le hlength
      · rw [← hbytes, tableBytes, tableBytes, List.flatMap_append, List.append_assoc]
        simp

/-- **A builder is lost exactly where a payload begins with cells that do not fit.** -/
theorem decode_eq_lost_iff : decode schema payload = .lost ↔ Overflows schema payload := by
  have hcolumns := map_column_begun schema
  constructor
  · intro h
    rw [decode] at h
    cases hcount : (Cursor.ofPayload payload).number 4 with
    | error short => simp [hcount] at h
    | ok counted =>
      obtain ⟨count, start⟩ := counted
      simp only [hcount] at h
      by_cases hempty : schema.columns.isEmpty = true
      · simp [hempty] at h
      simp only [hempty, Bool.false_eq_true, if_false] at h
      generalize builderCapacity count start.rest.length schema.width = room at h
      cases happend : appendRows count 0 (begun schema room.1 room.2) start with
      | ok pushed => simp [happend, Decoded.map] at h
      | error fault => simp [happend, Decoded.map] at h
      | lost =>
        obtain ⟨table, cells, last, hlength, htable, hcells, hpasses, hlost⟩ :=
          appendRows_eq_lost_iff.1 happend
        rw [hcolumns] at htable hcells
        obtain ⟨hlt, hstart⟩ := Cursor.number_eq_ok_iff.1 hcount
        have hrest := (hstart.trans hpasses).rest
        rw [Cursor.ofPayload, List.append_assoc, List.append_assoc] at hrest
        subst hrest
        have hwidth : (cells.map value).length ≤ schema.columns.length := by
          rw [List.length_map, ← hcells.length_eq]
          exact List.length_take_le' ..
        refine .intro last.rest hlt hlength htable hcells fun hfits => hlost ?_
        exact (inReach_pushCells_foldl_begun_iff room.1 room.2 (length_of_mem_values htable) hwidth
          hfits.of_append).2 hfits
  · rintro @⟨count, _, _, rest, hlt, hlength, htable, hcells, hlost⟩
    obtain ⟨front, stub, behind, hle, hfront, hstub, hfits, hnext, hbytes⟩ :=
      exists_first_overflow htable hcells hlost rest
    rw [hbytes]
    have hpasses : Cursor.Passes (Bytes.ofNatBE 4 count ++ (tableBytes front ++ rowBytes stub))
        (.ofPayload (Bytes.ofNatBE 4 count ++ (tableBytes front ++ (rowBytes stub ++ behind))))
        ⟨_, behind⟩ := ⟨by simp [Cursor.ofPayload], rfl⟩
    obtain ⟨start, hstart, hcellsPass⟩ := hpasses.exists_between
    have hcount := Cursor.number_eq_ok_iff.2 ⟨hlt, hstart⟩
    have hsome : schema.columns.isEmpty = false := by
      refine List.isEmpty_eq_false_iff.2 fun hnil => hnext fun c => ?_
      rw [hnil, List.take_nil, OfColumns, List.forall₂_nil_left_iff] at hstub
      rw [hstub, textIn_append]
      exact hfits c
    simp only [decode, hcount, hsome, Bool.false_eq_true, if_false]
    generalize builderCapacity count start.rest.length schema.width = room
    have hwidth : (stub.map value).length ≤ schema.columns.length := by
      rw [List.length_map, ← hstub.length_eq]
      exact List.length_take_le' ..
    have happend : appendRows count 0 (begun schema room.1 room.2) start = .lost := by
      refine appendRows_eq_lost_iff.2 ⟨front, stub, _, Nat.lt_of_le_of_lt hle hlength, ?_, ?_,
        hcellsPass, fun hreach => hnext ?_⟩
      · rwa [hcolumns]
      · rwa [hcolumns]
      · exact (inReach_pushCells_foldl_begun_iff room.1 room.2 (length_of_mem_values hfront) hwidth
          hfits).1 hreach
    simp only [happend, Decoded.map]

/-- So is one for a table that does not fit. -/
theorem decode_payload_append_of_not_fits {table : List (List Spelling)}
    (htable : OfSchema schema table) (h : ¬FitsOffsets (values table)) (rest : Bytes) :
    decode schema (Spelling.payload table ++ rest) = .lost := by
  obtain ⟨front, row, rfl⟩ : ∃ front row, table = front ++ [row] := by
    rcases List.eq_nil_or_concat table with rfl | ⟨front, row, htable⟩
    · exact absurd (fun _ => Nat.zero_le _) h
    · exact ⟨front, row, by rw [htable, List.concat_eq_append]⟩
  obtain ⟨hfront, hrow⟩ := List.forall_mem_append.1 htable.rows
  have hrow := List.forall_mem_singleton.1 hrow
  have hwhole : schema.columns.take row.length = schema.columns :=
    List.take_of_length_le (Nat.le_of_eq hrow.length_eq)
  rw [values, List.map_append] at h
  have hlost : Overflows schema (Bytes.ofNatBE 4 (front ++ [row]).length ++
      (tableBytes front ++ (rowBytes row ++ rest))) :=
    .intro rest htable.count (by simp) hfront (by rwa [hwhole]) h
  have hbytes : Spelling.payload (front ++ [row]) ++ rest =
      Bytes.ofNatBE 4 (front ++ [row]).length ++ (tableBytes front ++ (rowBytes row ++ rest)) := by
    simp [Spelling.payload, tableBytes]
  rw [hbytes]
  exact decode_eq_lost_iff.2 hlost

/-- So is one for a row that is repeated too often, however many rows are declared. -/
theorem decode_replicate_eq_lost {row : List Spelling} (hrow : OfColumns schema.columns row)
    {n count : Nat} (hspan : count < Bytes.span 4) (hcount : n ≤ count) {c : Nat}
    (hmuch : maxOffset < n * ((row.map value).getD c .null).textBytes) (rest : Bytes) :
    decode schema (Bytes.ofNatBE 4 count ++ (tableBytes (List.replicate n row) ++ rest)) =
      .lost := by
  cases n with
  | zero => simp at hmuch
  | succ n =>
    have hbytes : tableBytes (List.replicate (n + 1) row) ++ rest =
        tableBytes (List.replicate n row) ++ (rowBytes row ++ rest) := by
      simp [List.replicate_succ', tableBytes]
    have htable : ∀ spelled ∈ List.replicate n row, OfColumns schema.columns spelled :=
      fun spelled hmem => List.eq_of_mem_replicate hmem ▸ hrow
    have hwhole : schema.columns.take row.length = schema.columns :=
      List.take_of_length_le (Nat.le_of_eq hrow.length_eq)
    have hvalues : values (List.replicate n row) ++ [row.map value] =
        List.replicate (n + 1) (row.map value) := by
      rw [values, List.map_replicate, List.replicate_succ']
    rw [hbytes]
    refine decode_eq_lost_iff.2 (.intro rest hspan (by rwa [List.length_replicate]) htable
      (by rwa [hwhole]) ?_)
    rw [hvalues]
    exact not_fitsOffsets_replicate hmuch

/-- So is one for a single column of malformed texts, which are three times as long once they have
been replaced. -/
theorem decode_replicate_malformed_eq_lost {column : ColumnDef} (hcolumn : column.type = .varchar)
    {b : UInt8} (hb : Utf8.first b = .bad) {length n count : Nat} (hlength : length < Bytes.span 2)
    (hspan : count < Bytes.span 4) (hcount : n ≤ count) (hmuch : maxOffset < n * (3 * length)) :
    decode ⟨[column]⟩ (Bytes.ofNatBE 4 count ++
      tableBytes (List.replicate n [.text (List.replicate length b)])) = .lost := by
  have hbytes : (Utf8.decodeLossy (List.replicate length b)).utf8ByteSize = 3 * length := by
    have hbad : ∀ b' ∈ List.replicate length b, Utf8.first b' = .bad := fun b' hmem => by
      rwa [List.eq_of_mem_replicate hmem]
    rw [Utf8.utf8ByteSize_decodeLossy_of_bad hbad, List.length_replicate]
  have hrow : OfColumns (ColumnSchema.mk [column]).columns [.text (List.replicate length b)] :=
    .cons ⟨hcolumn, by rwa [List.length_replicate]⟩ .nil
  rw [← hbytes] at hmuch
  have hlost := decode_replicate_eq_lost (c := 0) hrow hspan hcount hmuch []
  rwa [List.append_nil] at hlost

/-- **What follows cannot make up for cells that do not fit.** -/
theorem decode_append_of_lost (h : decode schema payload = .lost) (more : Bytes) :
    decode schema (payload ++ more) = .lost := by
  obtain ⟨rest, hlt, hlength, htable, hcells, hlost⟩ := decode_eq_lost_iff.1 h
  simp only [List.append_assoc]
  exact decode_eq_lost_iff.2 (.intro (rest ++ more) hlt hlength htable hcells hlost)

end Batch

/-! ## Payloads that are too short for that -/

namespace Spelling

/-- A cell has no more text than three bytes for each of its own. -/
theorem textBytes_value_le (cell : Spelling) :
    cell.value.textBytes ≤ 3 * cell.bytes.length := by
  cases cell with
  | text bytes =>
    have htext := Utf8.utf8ByteSize_decodeLossy_le bytes
    simp only [value, Value.textBytes, Spelling.bytes, List.length_cons, List.length_append]
    omega
  | _ => exact Nat.zero_le _

/-- Nor has a row in one column. -/
theorem textIn_row_le (row : List Spelling) (c : Nat) :
    textIn [row.map value] c ≤ 3 * (rowBytes row).length := by
  rw [textIn_singleton]
  induction row generalizing c with
  | nil => exact Nat.zero_le _
  | cons cell row ih =>
    rw [rowBytes_cons, List.length_append, Nat.mul_add]
    cases c with
    | zero => exact Nat.le_add_right_of_le cell.textBytes_value_le
    | succ c => exact Nat.le_add_left_of_le (ih c)

theorem textIn_values_le (table : List (List Spelling)) (c : Nat) :
    textIn (values table) c ≤ 3 * (tableBytes table).length := by
  induction table with
  | nil => exact Nat.zero_le _
  | cons row table ih =>
    rw [tableBytes_cons, List.length_append, Nat.mul_add, values, List.map_cons, textIn_cons]
    exact Nat.add_le_add (textIn_row_le row c) ih

variable {schema : ColumnSchema} {payload : Bytes}

/-- A table of so few bytes fits. -/
theorem fitsOffsets_of_length_le {table : List (List Spelling)}
    (h : (Spelling.payload table).length ≤ maxOffset / 3) : FitsOffsets (values table) := by
  intro c
  have htext := textIn_values_le table c
  rw [Spelling.payload, List.length_append] at h
  omega

theorem not_overflows_of_length_le (h : payload.length ≤ maxOffset / 3) :
    ¬Overflows schema payload := by
  rintro @⟨count, table, cells, rest, -, -, -, -, hlost⟩
  refine hlost fun c => ?_
  have htable := textIn_values_le table c
  have hcells := textIn_row_le cells c
  rw [textIn_append]
  simp only [List.length_append] at h
  omega

end Spelling

/-- **A payload that is not too long loses no builder.** -/
theorem Batch.decode_ne_lost_of_length_le (schema : ColumnSchema) {payload : Bytes}
    (h : payload.length ≤ maxOffset / 3) : decode schema payload ≠ .lost := fun hlost =>
  Spelling.not_overflows_of_length_le h (decode_eq_lost_iff.1 hlost)

end BatchBridge
