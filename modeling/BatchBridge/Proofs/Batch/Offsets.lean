import BatchBridge.Proofs.Batch.Overflow
import BatchBridge.Proofs.Batch.Work

/-!
# How far the texts of a column reach

The texts of a column lie behind each other, and where each of them ends is an offset of 32 bits.  A
text has at most 65535 bytes in its payload, but nothing limits how many texts a column has, and
what is malformed in them is replaced by something that may be longer.

* `TextBuilder.Holds` — the offsets of a builder are the places where the texts end.
* **`TextBuilder.exists_holds`** — up to the largest offset, every cell is taken.
* **`Cursor.textBytes_add_le_of_cell`** — a cell has at most three bytes of text for each byte that
  it takes of the payload.
* **`Batch.Reaches.textBytes_add_le`** — hence so have all columns together, at any moment of the
  walk over the cells.
* **`Batch.addressable_of_length_le`** — a payload that is not too long fills no column beyond its
  offsets, however far it is read.
-/

namespace BatchBridge

/-! ## Offsets -/

theorem toInt_offset {bytes : Nat} (h : bytes ≤ maxOffset) : (Int32.ofNat bytes).toInt = bytes :=
  Int32.toInt_ofNat_of_lt (Nat.lt_succ_of_le h)

namespace TextBuilder

/-- The builder has these cells, and the offset behind each of them is the place where it ends. -/
structure Holds (builder : TextBuilder) (cells : List Value) : Prop where
  used : builder.texts.used = textTotal cells
  size : builder.offsets.size = cells.length + 1
  exact : ∀ r ≤ cells.length,
    builder.offsets[r]?.map Int32.toInt = some (textTotal (cells.take r) : Int)

variable {builder : TextBuilder} {cells : List Value} {value : Value}

theorem holds_withRoom (room : Nat) : (withRoom room).Holds [] where
  used := rfl
  size := rfl
  exact r hr := by
    cases Nat.le_zero.1 hr
    rfl

/-- **A cell is taken as long as an offset can point behind it.** -/
theorem Holds.append? (h : builder.Holds cells)
    (hfits : textTotal cells + value.textBytes ≤ maxOffset) :
    ∃ next, builder.append? value = some next ∧ next.Holds (cells ++ [value]) := by
  have hused : (builder.texts.append value.textBytes).used = textTotal (cells ++ [value]) := by
    rw [textTotal_concat, ← h.used]
    rfl
  have hlast : textTotal (cells ++ [value]) ≤ maxOffset := by
    rw [textTotal_concat]
    exact hfits
  refine ⟨⟨builder.texts.append value.textBytes,
    builder.offsets.push (Int32.ofNat (textTotal (cells ++ [value])))⟩, ?_, hused, ?_, ?_⟩
  · simp only [TextBuilder.append?, offset?, hused, if_pos hlast, Option.map_some]
  · rw [Array.size_push, h.size, List.length_append, List.length_singleton]
  · intro r hr
    rw [List.length_append, List.length_singleton] at hr
    rw [Array.getElem?_push, h.size]
    by_cases hnew : r = cells.length + 1
    · rw [if_pos hnew, Option.map_some, toInt_offset hlast, List.take_of_length_le (by simp [hnew])]
    · have hbefore : r ≤ cells.length := by omega
      rw [if_neg hnew, h.exact r hbefore, List.take_append_of_le_length hbefore]

/-- **Up to the largest offset, every cell is taken.** -/
theorem exists_holds (room : Nat) (hfits : textTotal cells ≤ maxOffset) :
    ∃ builder, cells.foldlM append? (withRoom room) = some builder ∧ builder.Holds cells := by
  -- on the cells from behind, as they are appended
  induction cells using List.reverseRecOn with
  | nil => exact ⟨_, rfl, holds_withRoom room⟩
  | append_singleton cells value ih =>
    rw [textTotal_concat] at hfits
    obtain ⟨builder, hbuilder, hholds⟩ := ih (Nat.le_of_add_right_le hfits)
    obtain ⟨next, hnext, hholds'⟩ := hholds.append? hfits
    refine ⟨next, ?_, hholds'⟩
    rw [List.foldlM_append, hbuilder]
    simpa using hnext

end TextBuilder

namespace Column

/-- The column with its offsets, if there are enough of them. -/
def textBuilder? (room : Nat) (column : Column) : Option TextBuilder :=
  column.values.foldlM TextBuilder.append? (.withRoom room)

/-- All texts of the column are in the reach of its offsets, and were so when they were appended. -/
structure Addressable (column : Column) : Prop where
  textBytes_le : column.textBytes ≤ maxOffset
  /-- However much room has been set aside. -/
  exists_builder : ∀ room, ∃ builder, column.textBuilder? room = some builder ∧
    builder.Holds column.values.toList

theorem textBytes_eq_textTotal (column : Column) :
    column.textBytes = textTotal column.values.toList := (Array.foldl_toList _).symm

theorem addressable_of_le {column : Column} (h : column.textBytes ≤ maxOffset) :
    column.Addressable := by
  refine ⟨h, fun room => ?_⟩
  rw [textBytes_eq_textTotal] at h
  rw [textBuilder?, ← Array.foldlM_toList]
  exact TextBuilder.exists_holds room h

/-- The bytes of all texts that columns have together. -/
def totalTextBytes : List Column → Nat
  | [] => 0
  | column :: columns => column.textBytes + totalTextBytes columns

@[simp] theorem totalTextBytes_append (front back : List Column) :
    totalTextBytes (front ++ back) = totalTextBytes front + totalTextBytes back := by
  induction front with
  | nil => simp [totalTextBytes]
  | cons column front ih => simp [totalTextBytes, ih, Nat.add_assoc]

theorem textBytes_le_totalTextBytes {column : Column} {columns : List Column}
    (h : column ∈ columns) : column.textBytes ≤ totalTextBytes columns := by
  obtain ⟨front, back, rfl⟩ := List.append_of_mem h
  simp only [totalTextBytes_append, totalTextBytes]
  omega

end Column

/-! ## Cells -/

/-- **A cell has at most three bytes of text for each byte that it takes.** -/
theorem Cursor.textBytes_add_le_of_cell {row : Nat} {column : ColumnDef} {cursor next : Cursor}
    {value : Value} (h : cursor.cell row column = .ok (value, next)) :
    value.textBytes + 3 * next.rest.length ≤ 3 * cursor.rest.length := by
  obtain ⟨cell, -, rfl, hpasses⟩ := cell_eq_ok_iff.1 h
  have htext := cell.textBytes_value_le
  rw [hpasses.rest, List.length_append]
  omega

namespace ColumnBuilder

/-- Columns that have just been begun have no text. -/
theorem totalTextBytes_begun (columns : List ColumnDef) (capacity textRoom : Nat) :
    Column.totalTextBytes ((columns.map (.withRoom capacity textRoom)).map finish) = 0 := by
  induction columns with
  | nil => rfl
  | cons column columns ih =>
    rw [List.map_cons, List.map_cons, Column.totalTextBytes, ih]
    rfl

end ColumnBuilder

namespace Batch

/-! ## The walk over the cells -/

namespace Walk

/-- The columns as far as they are filled. -/
def columns (walk : Walk) : List Column := (walk.done ++ walk.todo).map ColumnBuilder.finish

/-- The bytes of all texts that have been appended. -/
def textBytes (walk : Walk) : Nat := Column.totalTextBytes walk.columns

variable {count : Nat} {walk next : Walk}

theorem textBytes_start (schema : ColumnSchema) (payload : Bytes) :
    (start schema payload).textBytes = 0 :=
  ColumnBuilder.totalTextBytes_begun schema.columns ..

/-- **A step appends at most three bytes of text for each byte that it takes.** -/
theorem Steps.textBytes_add_le (h : Steps count walk next) :
    next.textBytes + 3 * next.cursor.rest.length ≤
      walk.textBytes + 3 * walk.cursor.rest.length := by
  cases h with
  | @cell row cells done todo builder cursor next value _ hcell =>
    have htext := Cursor.textBytes_add_le_of_cell hcell
    simp only [textBytes, columns, List.map_append, List.map_cons, List.map_nil,
      Column.totalTextBytes_append, Column.totalTextBytes, ColumnBuilder.textBytes_finish_push]
    omega
  | row => simp [textBytes, columns]

end Walk

variable {schema : ColumnSchema} {payload : Bytes} {walk : Walk} {batch : Batch}

/-- **At any moment of the walk, there are at most three bytes of text for each byte that has been
taken of the payload.** -/
theorem Reaches.textBytes_add_le (h : Reaches schema payload walk) :
    walk.textBytes + 3 * walk.cursor.rest.length ≤ 3 * (payload.length - 4) := by
  induction h with
  | refl =>
    have hstart := Walk.textBytes_start schema payload
    have hrest : (Walk.start schema payload).cursor.rest.length = payload.length - 4 :=
      List.length_drop ..
    omega
  | tail _ hsteps ih => exact Nat.le_trans hsteps.textBytes_add_le ih

theorem Reaches.textBytes_le (h : Reaches schema payload walk) :
    walk.textBytes ≤ 3 * (payload.length - 4) :=
  Nat.le_of_add_right_le h.textBytes_add_le

/-- At any moment of the walk, columns have counted their texts. -/
theorem Reaches.counts (h : Reaches schema payload walk) :
    ∀ builder ∈ walk.done ++ walk.todo, builder.Counts := by
  induction h with
  | refl =>
    intro builder hmem
    obtain ⟨column, -, rfl⟩ := List.mem_map.1 hmem
    exact ColumnBuilder.counts_withRoom ..
  | tail _ hsteps ih =>
    cases hsteps with
    | @cell _ _ _ _ builder _ _ value _ _ =>
      obtain ⟨hdone, htodo⟩ := List.forall_mem_append.1 ih
      obtain ⟨hbuilder, htodo⟩ := List.forall_mem_cons.1 htodo
      exact List.forall_mem_append.2 ⟨List.forall_mem_append.2
        ⟨hdone, List.forall_mem_singleton.2 (hbuilder.push value)⟩, htodo⟩
    | row => simpa using ih

/-- Columns are in reach if their texts are. -/
theorem Reaches.inReach (h : Reaches schema payload walk)
    (hcolumns : ∀ column ∈ walk.columns, column.textBytes ≤ maxOffset) : walk.InReach := by
  intro builder hmem
  rw [ColumnBuilder.InReach, h.counts builder hmem]
  exact hcolumns _ (List.mem_map_of_mem hmem)

/-- The columns of a batch are those that the walk has come to, with columns and without. -/
theorem exists_columns_of_decode (h : decode schema payload = .ok batch) :
    ∃ walk, Reaches schema payload walk ∧ batch.columns = walk.columns := by
  by_cases hlength : payload.length < 4
  · rw [decode_of_length_lt schema hlength] at h
    cases h
  have hcount := number_ofPayload (Nat.le_of_not_lt hlength)
  by_cases hcolumns : schema.columns = []
  · rw [decode_of_isEmpty hcolumns hcount] at h
    cases h
    exact ⟨_, .refl, by simp [Walk.columns, Walk.start, hcolumns]⟩
  · obtain ⟨last, hreaches, -, hdone, hfinish⟩ :=
      exists_end_of_decode hcolumns (Nat.le_of_not_lt hlength) h
    exact ⟨last, hreaches, by rw [hfinish, Walk.columns, hdone, List.nil_append]⟩

/-- A payload with room for its row count is refused in a cell that the walk has come to. -/
theorem exists_fails_of_refused {fault : BatchFault} (hlength : 4 ≤ payload.length)
    (h : decode schema payload = .error fault) :
    ∃ walk, Reaches schema payload walk ∧ walk.Fails (declaredRows payload) fault := by
  refine exists_fails_of_decode (fun hcolumns => ?_) hlength h
  rw [decode_of_isEmpty hcolumns (number_ofPayload hlength)] at h
  cases h

/-- However far the payload is read, all texts are in the reach of the offsets of their columns, and
no builder is lost. -/
structure Addressable (schema : ColumnSchema) (payload : Bytes) : Prop where
  walk : ∀ walk, Reaches schema payload walk → ∀ column ∈ walk.columns, column.Addressable
  inReach : ∀ walk, Reaches schema payload walk → walk.InReach
  batch : ∀ batch, decode schema payload = .ok batch →
    ∀ column ∈ batch.columns, column.Addressable
  kept : decode schema payload ≠ .lost

/-- **A payload that is not too long fills no column beyond its offsets.** -/
theorem addressable_of_length_le (schema : ColumnSchema) (h : payload.length ≤ maxOffset / 3) :
    Addressable schema payload := by
  have hbound : 3 * (payload.length - 4) ≤ maxOffset := by
    simp only [maxOffset] at h ⊢
    omega
  have hwalk : ∀ walk, Reaches schema payload walk → ∀ column ∈ walk.columns,
      column.Addressable := fun walk hreaches column hmem =>
    Column.addressable_of_le (Nat.le_trans (Column.textBytes_le_totalTextBytes hmem)
      (Nat.le_trans hreaches.textBytes_le hbound))
  refine ⟨hwalk, fun walk hreaches => ?_, fun batch hbatch => ?_,
    decode_ne_lost_of_length_le schema h⟩
  · exact hreaches.inReach fun column hmem => (hwalk walk hreaches column hmem).textBytes_le
  · obtain ⟨walk, hreaches, hcolumns⟩ := exists_columns_of_decode hbatch
    rw [hcolumns]
    exact hwalk walk hreaches

end Batch
end BatchBridge
