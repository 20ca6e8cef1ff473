import BatchBridge.Proofs.Batch.Faults
import Mathlib.Logic.Relation

/-!
# How much work a payload can ask for

A payload declares how many rows it has, and that is only a claim.  What is set aside for its
columns, and how many of its cells are looked at, is bounded by its size instead.

* `Batch.Walk` — a moment in the reading of a payload, cell by cell; `Batch.Walk.Steps` — what is
  read next.
* **`Batch.decode_eq_of_reaches`** — wherever the walk has come to, reading ends as it would end
  from there; **`Batch.Walk.exists_over`** — and it does come to an end.
* **`Batch.decode_eq_lost_iff_reaches`** — a builder is lost where the walk has come to a cell whose
  text no offset can point behind.  The walk itself does not care, and goes on.
* `Batch.Walk.Accounts` — how many cells have been read, how long the columns are, and how many
  bytes that has cost at least; **`Batch.Walk.Accounts.of_steps`** — another cell keeps the
  accounts.
* **`Batch.work_bounded`** — the bounds.
-/

namespace BatchBridge

/-- A cell takes its indicator at least. -/
theorem Cursor.length_lt_of_cell {row : Nat} {column : ColumnDef} {cursor next : Cursor}
    {value : Value} (h : cursor.cell row column = .ok (value, next)) :
    next.rest.length < cursor.rest.length := by
  obtain ⟨cell, -, -, hpasses⟩ := cell_eq_ok_iff.1 h
  have hbytes : 0 < cell.bytes.length := by
    cases cell <;> exact Nat.succ_pos _
  rw [hpasses.rest, List.length_append]
  omega

namespace Batch

/-- The row count that a payload declares. -/
def declaredRows (payload : Bytes) : Nat := Bytes.toNatBE (payload.take 4)

/-! ## The walk over the cells -/

/-- A moment in the reading of a payload. -/
structure Walk where
  /-- The row that is being read. -/
  row : Nat
  /-- The columns that have their cell of this row. -/
  done : List ColumnBuilder
  /-- The columns that do not have it yet. -/
  todo : List ColumnBuilder
  cursor : Cursor
  /-- How many cells have been read. -/
  cells : Nat

namespace Walk

/-- Before the first cell. -/
def start (schema : ColumnSchema) (payload : Bytes) : Walk where
  row := 0
  done := []
  todo :=
    let (capacity, textRoom) :=
      builderCapacity (declaredRows payload) (payload.length - 4) schema.width
    schema.columns.map (.withRoom capacity textRoom)
  cursor := ⟨payload.length, payload.drop 4⟩
  cells := 0

/-- What comes next as long as there are rows: a cell, or after the last column the next row. -/
inductive Steps (count : Nat) : Walk → Walk → Prop where
  | cell {row cells : Nat} {done todo : List ColumnBuilder} {builder : ColumnBuilder}
      {cursor next : Cursor} {value : Value} : row < count →
      cursor.cell row builder.column = .ok (value, next) →
      Steps count ⟨row, done, builder :: todo, cursor, cells⟩
        ⟨row, done ++ [builder.push value], todo, next, cells + 1⟩
  | row {row cells : Nat} {done : List ColumnBuilder} {cursor : Cursor} : row < count →
      Steps count ⟨row, done, [], cursor, cells⟩ ⟨row + 1, [], done, cursor, cells⟩

/-- The next cell cannot be read. -/
inductive Fails (count : Nat) (fault : BatchFault) : Walk → Prop where
  | intro {row cells : Nat} {done todo : List ColumnBuilder} {builder : ColumnBuilder}
      {cursor : Cursor} : row < count → cursor.cell row builder.column = .error fault →
      Fails count fault ⟨row, done, builder :: todo, cursor, cells⟩

/-- There is nothing more to read, or it cannot be read. -/
inductive Over (count : Nat) : Walk → Prop where
  | done {walk : Walk} : count ≤ walk.row → Over count walk
  | fails {walk : Walk} {fault : BatchFault} : walk.Fails count fault → Over count walk

/-- The texts of all columns are in reach. -/
def InReach (walk : Walk) : Prop := Batch.InReach (walk.done ++ walk.todo)

/-- How reading ends from here on. -/
def outcome (count : Nat) (walk : Walk) : Decoded BatchFault (List ColumnBuilder × Cursor) :=
  if walk.row < count then
    (appendRow walk.row walk.todo walk.cursor).bind fun (pushed, cursor) =>
      appendRows (count - (walk.row + 1)) (walk.row + 1) (walk.done ++ pushed) cursor
  else .ok (walk.done ++ walk.todo, walk.cursor)

variable {count : Nat} {walk next last : Walk} {fault : BatchFault}

/-- Between two rows, the remaining rows are read. -/
theorem outcome_between (count row cells : Nat) (todo : List ColumnBuilder) (cursor : Cursor) :
    outcome count ⟨row, [], todo, cursor, cells⟩ = appendRows (count - row) row todo cursor := by
  rw [outcome]
  by_cases hlt : row < count
  · have hcount : count - row = count - (row + 1) + 1 := by omega
    rw [if_pos hlt, hcount, appendRows]
    rfl
  · rw [if_neg hlt, Nat.sub_eq_zero_of_le (Nat.le_of_not_lt hlt)]
    rfl

/-- What is in reach behind a step was in reach before it. -/
theorem Steps.inReach (h : Steps count walk next) (hnext : next.InReach) : walk.InReach := by
  cases h with
  | cell _ _ =>
    obtain ⟨hbefore, htodo⟩ := List.forall_mem_append.1 hnext
    obtain ⟨hdone, hpushed⟩ := List.forall_mem_append.1 hbefore
    exact List.forall_mem_append.2 ⟨hdone, List.forall_mem_cons.2
      ⟨ColumnBuilder.inReach_of_push (List.forall_mem_singleton.1 hpushed), htodo⟩⟩
  | row _ =>
    rw [InReach, List.append_nil]
    exact hnext

/-- **Whatever has been read, reading ends in the same way**, as long as it is in reach. -/
theorem Steps.outcome_eq (h : Steps count walk next) (hnext : next.InReach) :
    next.outcome count = walk.outcome count := by
  cases h with
  | @cell row _ done todo builder cursor next value hrow hcell =>
    have hpushed : (builder.push value).InReach := hnext _ (by simp)
    simp only [outcome, if_pos hrow, appendRow, hcell, ColumnBuilder.push?_eq, if_pos hpushed,
      List.append_assoc, List.singleton_append]
    cases appendRow row todo next <;> rfl
  | row hrow =>
    rw [outcome_between]
    simp only [outcome, if_pos hrow, appendRow, List.append_nil, Decoded.bind]

/-- With the first text that is not, the builder is lost. -/
theorem Steps.outcome_eq_lost (h : Steps count walk next) (hwalk : walk.InReach)
    (hnext : ¬next.InReach) : walk.outcome count = .lost := by
  cases h with
  | @cell row _ done todo builder cursor next value hrow hcell =>
    have hpushed : ¬(builder.push value).InReach := by
      refine fun hpushed => hnext fun other hmem => ?_
      simp only [List.mem_append, List.mem_singleton] at hmem
      rcases hmem with (hdone | rfl) | htodo
      · exact hwalk other (List.mem_append_left _ hdone)
      · exact hpushed
      · exact hwalk other (List.mem_append_right _ (List.mem_cons_of_mem _ htodo))
    simp only [outcome, if_pos hrow, appendRow, hcell, ColumnBuilder.push?_eq, if_neg hpushed,
      Decoded.bind]
  | row _ =>
    rw [InReach, List.append_nil] at hwalk
    exact absurd hwalk hnext

theorem Fails.outcome_eq (h : walk.Fails count fault) : walk.outcome count = .error fault := by
  cases h with
  | intro hrow hcell => simp only [outcome, if_pos hrow, appendRow, hcell, Decoded.bind]

theorem outcome_of_le (h : count ≤ walk.row) :
    walk.outcome count = .ok (walk.done ++ walk.todo, walk.cursor) :=
  if_neg (Nat.not_lt_of_le h)

/-- Where a walk is over, no builder is lost any more. -/
theorem Over.outcome_ne_lost (h : walk.Over count) : walk.outcome count ≠ .lost := by
  cases h with
  | done hle => simp [outcome_of_le hle]
  | fails hfails => simp [hfails.outcome_eq]

/-- Something comes next, unless the walk is over. -/
theorem steps_or_over (count : Nat) (walk : Walk) :
    (∃ next, Steps count walk next) ∨ walk.Over count := by
  obtain ⟨row, done, todo, cursor, cells⟩ := walk
  by_cases hrow : row < count
  · cases todo with
    | nil => exact .inl ⟨_, .row hrow⟩
    | cons builder todo =>
      cases hcell : cursor.cell row builder.column with
      | error fault => exact .inr (.fails (.intro hrow hcell))
      | ok read => exact .inl ⟨_, .cell hrow hcell⟩
  · exact .inr (.done (Nat.le_of_not_lt hrow))

/-- **The walk comes to an end.**  Each step leaves fewer rows, or fewer columns of the same row. -/
theorem exists_over (count : Nat) (walk : Walk) :
    ∃ last, Relation.ReflTransGen (Steps count) walk last ∧ last.Over count := by
  rcases walk.steps_or_over count with ⟨next, hsteps⟩ | hover
  · obtain ⟨last, hreaches, hover⟩ := exists_over count next
    exact ⟨last, .head hsteps hreaches, hover⟩
  · exact ⟨walk, .refl, hover⟩
termination_by (count - walk.row, walk.todo.length)
decreasing_by
  cases hsteps with
  | cell => exact Prod.Lex.right _ (Nat.lt_succ_self _)
  | row hrow => exact Prod.Lex.left _ _ (by simp only; omega)

/-! ## The accounts -/

/-- What a walk has read, and what it has cost. -/
structure Accounts (schema : ColumnSchema) (payload : Bytes) (walk : Walk) : Prop where
  columns : (walk.done ++ walk.todo).map ColumnBuilder.column = schema.columns
  cells : walk.cells = schema.width * walk.row + walk.done.length
  /-- Every cell has taken a byte. -/
  bytes : walk.cells + walk.cursor.rest.length ≤ payload.length - 4
  done : ∀ builder ∈ walk.done, builder.values.size = walk.row + 1
  todo : ∀ builder ∈ walk.todo, builder.values.size = walk.row
  /-- A row that has been begun is one that is declared. -/
  declared : walk.row + (if walk.done = [] then 0 else 1) ≤ declaredRows payload

variable {schema : ColumnSchema} {payload : Bytes}

theorem accounts_start (schema : ColumnSchema) (payload : Bytes) :
    (start schema payload).Accounts schema payload where
  columns := map_column_begun ..
  cells := rfl
  bytes := by simp [start]
  done builder hmem := absurd hmem List.not_mem_nil
  todo builder hmem := by
    obtain ⟨column, -, rfl⟩ := List.mem_map.1 hmem
    rfl
  declared := Nat.zero_le _

/-- **Another cell keeps the accounts.** -/
theorem Accounts.of_steps (h : walk.Accounts schema payload)
    (hsteps : Steps (declaredRows payload) walk next) : next.Accounts schema payload := by
  cases hsteps with
  | @cell row cells done todo builder cursor next value hrow hcell =>
    have hbytes := h.bytes
    have hlt := Cursor.length_lt_of_cell hcell
    refine ⟨?_, ?_, ?_, ?_, fun other hmem => h.todo other (List.mem_cons_of_mem _ hmem), ?_⟩
    · simpa [ColumnBuilder.push] using h.columns
    · have hcells := h.cells
      simp only [List.length_append, List.length_singleton] at hcells ⊢
      omega
    · simp only at hbytes ⊢
      omega
    · intro other hmem
      rcases List.mem_append.1 hmem with hbefore | hnow
      · exact h.done other hbefore
      · rw [List.mem_singleton.1 hnow]
        simp [ColumnBuilder.push, h.todo builder List.mem_cons_self]
    · simpa [Nat.succ_le_iff] using hrow
  | @row row cells done cursor hrow =>
    obtain ⟨hcolumns, hcells, hbytes, hdone, -, -⟩ := h
    rw [List.append_nil] at hcolumns
    have hwidth : done.length = schema.width := by
      rw [ColumnSchema.width, ← hcolumns, List.length_map]
    refine ⟨hcolumns, ?_, hbytes, fun _ hmem => absurd hmem List.not_mem_nil, hdone, ?_⟩
    · rw [hwidth] at hcells
      exact hcells
    · rw [if_pos rfl]
      exact hrow

theorem Accounts.reaches (h : walk.Accounts schema payload)
    (hreaches : Relation.ReflTransGen (Steps (declaredRows payload)) walk last) :
    last.Accounts schema payload := by
  induction hreaches with
  | refl => exact h
  | tail _ hsteps ih => exact ih.of_steps hsteps

/-- No column holds more cells than rows have been declared. -/
theorem Accounts.size_le (h : walk.Accounts schema payload) {builder : ColumnBuilder}
    (hmem : builder ∈ walk.done ++ walk.todo) : builder.values.size ≤ declaredRows payload := by
  have hdeclared := h.declared
  rcases List.mem_append.1 hmem with hdone | htodo
  · rw [if_neg (List.ne_nil_of_mem hdone)] at hdeclared
    rw [h.done builder hdone]
    exact hdeclared
  · rw [h.todo builder htodo]
    omega

/-- Behind the last row, no other row has been begun. -/
theorem Accounts.between_of_le (h : walk.Accounts schema payload)
    (hrow : declaredRows payload ≤ walk.row) :
    walk.row = declaredRows payload ∧ walk.done = [] := by
  have hdeclared := h.declared
  by_cases hdone : walk.done = []
  · exact ⟨by omega, hdone⟩
  · rw [if_neg hdone] at hdeclared
    omega

/-- A fault that stands in one cell: the one of a row in a column. -/
inductive Blames (schema : ColumnSchema) (row index : Nat) : BatchFault → Prop where
  | indicator {column : ColumnDef} {short : Truncation} : schema.columns[index]? = some column →
      Blames schema row index (.truncated (.nullIndicator row column.name) short)
  | value {column : ColumnDef} {short : Truncation} : schema.columns[index]? = some column →
      Blames schema row index (.truncated (.value row column.name column.type) short)

/-- The fault names the cell that the walk has come to. -/
theorem Accounts.blames (h : walk.Accounts schema payload) (hfails : walk.Fails count fault) :
    Blames schema walk.row walk.done.length fault := by
  obtain @⟨row, cells, done, todo, builder, cursor, -, hcell⟩ := hfails
  have hcolumn : schema.columns[done.length]? = some builder.column := by
    rw [← h.columns]
    simp
  obtain ⟨_, _, _, short, hstop, -, rfl⟩ := Cursor.cell_eq_error_iff.1 hcell
  cases hstop with
  | indicator => exact .indicator hcolumn
  | head => exact .value hcolumn
  | text => exact .value hcolumn

end Walk

/-- A payload is read as far as this. -/
def Reaches (schema : ColumnSchema) (payload : Bytes) (walk : Walk) : Prop :=
  Relation.ReflTransGen (Walk.Steps (declaredRows payload)) (.start schema payload) walk

variable {schema : ColumnSchema} {payload : Bytes} {walk : Walk}

theorem Reaches.accounts (h : Reaches schema payload walk) : walk.Accounts schema payload :=
  (Walk.accounts_start schema payload).reaches h

theorem Reaches.outcome_eq (h : Reaches schema payload walk) (hwalk : walk.InReach) :
    walk.outcome (declaredRows payload) =
      (Walk.start schema payload).outcome (declaredRows payload) := by
  induction h with
  | refl => rfl
  | tail _ hsteps ih => rw [hsteps.outcome_eq hwalk, ih (hsteps.inReach hwalk)]

/-- If the walk comes to texts that are not in reach, then a builder is lost on the way. -/
theorem Reaches.outcome_eq_lost (h : Reaches schema payload walk) (hwalk : ¬walk.InReach) :
    (Walk.start schema payload).outcome (declaredRows payload) = .lost := by
  induction h with
  | refl => exact absurd (inReach_begun schema _ _) hwalk
  | @tail before after hreaches hsteps ih =>
    by_cases hbefore : before.InReach
    · rw [← Reaches.outcome_eq hreaches hbefore, hsteps.outcome_eq_lost hbefore hwalk]
    · exact ih hbefore

/-! ## Decoding -/

/-- Behind the row count, all other bytes are left. -/
theorem number_ofPayload (h : 4 ≤ payload.length) :
    (Cursor.ofPayload payload).number 4 =
      .ok (declaredRows payload, ⟨payload.length, payload.drop 4⟩) := by
  have htake : (Cursor.ofPayload payload).take 4 =
      .ok (payload.take 4, ⟨payload.length, payload.drop 4⟩) := by
    refine Cursor.take_eq_ok_iff.2 ⟨List.length_take_of_le h, ?_, rfl⟩
    exact (List.take_append_drop 4 payload).symm
  simp only [Cursor.number, htake, declaredRows]

/-- Reading ends as it ends from the start. -/
theorem decode_eq_outcome_start (hcolumns : schema.columns ≠ []) (hlength : 4 ≤ payload.length) :
    decode schema payload =
      ((Walk.start schema payload).outcome (declaredRows payload)).map fun (builders, _) =>
        { rows := declaredRows payload, columns := builders.map ColumnBuilder.finish,
          textRoom :=
            (builderCapacity (declaredRows payload) (payload.length - 4) schema.width).2 } := by
  have hsome : schema.columns.isEmpty = false := List.isEmpty_eq_false_iff.2 hcolumns
  rw [Walk.start, Walk.outcome_between, Nat.sub_zero]
  simp only [decode, number_ofPayload hlength, hsome, Bool.false_eq_true, if_false,
    List.length_drop]

/-- **Wherever the walk has come to, reading ends as it would end from there**, if all texts are in
reach. -/
theorem decode_eq_of_reaches (hcolumns : schema.columns ≠ []) (hlength : 4 ≤ payload.length)
    (h : Reaches schema payload walk) (hwalk : walk.InReach) :
    decode schema payload = (walk.outcome (declaredRows payload)).map fun (builders, _) =>
      { rows := declaredRows payload, columns := builders.map ColumnBuilder.finish,
        textRoom :=
          (builderCapacity (declaredRows payload) (payload.length - 4) schema.width).2 } := by
  rw [decode_eq_outcome_start hcolumns hlength, h.outcome_eq hwalk]

/-- A walk to texts that are not in reach loses a builder. -/
theorem Reaches.decode_eq_lost (hcolumns : schema.columns ≠ []) (hlength : 4 ≤ payload.length)
    (h : Reaches schema payload walk) (hwalk : ¬walk.InReach) : decode schema payload = .lost := by
  rw [decode_eq_outcome_start hcolumns hlength, h.outcome_eq_lost hwalk]
  rfl

/-- **The walk comes to an end**, and if no builder is lost then all texts are in reach there. -/
theorem exists_over_of_decode (hcolumns : schema.columns ≠ []) (hlength : 4 ≤ payload.length)
    (h : decode schema payload ≠ .lost) :
    ∃ last, Reaches schema payload last ∧ last.Over (declaredRows payload) ∧ last.InReach := by
  obtain ⟨last, hreaches, hover⟩ := (Walk.start schema payload).exists_over (declaredRows payload)
  refine ⟨last, hreaches, hover, Classical.byContradiction fun hlast => h ?_⟩
  exact Reaches.decode_eq_lost hcolumns hlength hreaches hlast

/-- **A builder is lost exactly if the walk comes to texts that are not in reach.** -/
theorem decode_eq_lost_iff_reaches (hcolumns : schema.columns ≠ [])
    (hlength : 4 ≤ payload.length) :
    decode schema payload = .lost ↔ ∃ walk, Reaches schema payload walk ∧ ¬walk.InReach := by
  constructor
  · intro h
    obtain ⟨last, hreaches, hover⟩ := (Walk.start schema payload).exists_over (declaredRows payload)
    refine ⟨last, hreaches, fun hlast => ?_⟩
    rw [decode_eq_of_reaches hcolumns hlength hreaches hlast] at h
    cases houtcome : last.outcome (declaredRows payload) with
    | ok read => simp [houtcome, Decoded.map] at h
    | error fault => simp [houtcome, Decoded.map] at h
    | lost => exact hover.outcome_ne_lost houtcome
  · rintro ⟨walk, hreaches, hwalk⟩
    exact hreaches.decode_eq_lost hcolumns hlength hwalk

/-- A payload that is refused is refused in the cell that the walk comes to. -/
theorem exists_fails_of_decode {fault : BatchFault} (hcolumns : schema.columns ≠ [])
    (hlength : 4 ≤ payload.length) (h : decode schema payload = .error fault) :
    ∃ walk, Reaches schema payload walk ∧ walk.Fails (declaredRows payload) fault := by
  obtain ⟨last, hreaches, hover, hlast⟩ :=
    exists_over_of_decode hcolumns hlength (by simp [h] : decode schema payload ≠ .lost)
  rw [decode_eq_of_reaches hcolumns hlength hreaches hlast] at h
  cases hover with
  | done hrow =>
    rw [Walk.outcome_of_le hrow] at h
    cases h
  | fails hfails =>
    rw [hfails.outcome_eq] at h
    cases h
    exact ⟨last, hreaches, hfails⟩

/-- A payload that is read is read to the last row, and the columns are those of the batch. -/
theorem exists_end_of_decode {batch : Batch} (hcolumns : schema.columns ≠ [])
    (hlength : 4 ≤ payload.length) (h : decode schema payload = .ok batch) :
    ∃ walk, Reaches schema payload walk ∧ walk.row = declaredRows payload ∧ walk.done = [] ∧
      batch.columns = walk.todo.map ColumnBuilder.finish := by
  obtain ⟨last, hreaches, hover, hlast⟩ :=
    exists_over_of_decode hcolumns hlength (by simp [h] : decode schema payload ≠ .lost)
  rw [decode_eq_of_reaches hcolumns hlength hreaches hlast] at h
  cases hover with
  | done hle =>
    obtain ⟨hrow, hdone⟩ := (Reaches.accounts hreaches).between_of_le hle
    rw [Walk.outcome_of_le hle, hdone] at h
    cases h
    exact ⟨last, hreaches, hrow, hdone, rfl⟩
  | fails hfails =>
    rw [hfails.outcome_eq] at h
    cases h

/-- No more cells are read than there are bytes behind the row count. -/
theorem Reaches.width_mul_le (h : Reaches schema payload walk) :
    schema.width * walk.row + walk.done.length ≤ payload.length - 4 := by
  have hbytes := h.accounts.bytes
  rw [h.accounts.cells] at hbytes
  omega

/-- **A walk that comes to a cell that cannot be read is how the payload is refused.** -/
theorem Reaches.decode_of_fails {fault : BatchFault} (hcolumns : schema.columns ≠ [])
    (hlength : 4 ≤ payload.length) (h : Reaches schema payload walk) (hwalk : walk.InReach)
    (hfails : walk.Fails (declaredRows payload) fault) : decode schema payload = .error fault := by
  rw [decode_eq_of_reaches hcolumns hlength h hwalk, hfails.outcome_eq]
  rfl

/-- A payload that is read has a byte for each of its cells. -/
theorem width_mul_declaredRows_le {batch : Batch} (hcolumns : schema.columns ≠ [])
    (hlength : 4 ≤ payload.length) (h : decode schema payload = .ok batch) :
    schema.width * declaredRows payload ≤ payload.length - 4 := by
  obtain ⟨last, hreaches, hrow, -, -⟩ := exists_end_of_decode hcolumns hlength h
  have hcells := hreaches.width_mul_le
  rw [hrow] at hcells
  exact Nat.le_of_add_right_le hcells

/-- A batch has the rows that are declared, and the room that has been set aside for its texts. -/
theorem rows_and_textRoom_of_decode {batch : Batch} (hcolumns : schema.columns ≠ [])
    (hlength : 4 ≤ payload.length) (h : decode schema payload = .ok batch) :
    batch.rows = declaredRows payload ∧ batch.textRoom =
      (builderCapacity (declaredRows payload) (payload.length - 4) schema.width).2 := by
  rw [decode_eq_outcome_start hcolumns hlength] at h
  cases houtcome : (Walk.start schema payload).outcome (declaredRows payload) with
  | error fault => simp [houtcome, Decoded.map] at h
  | lost => simp [houtcome, Decoded.map] at h
  | ok read =>
    rw [houtcome] at h
    cases h
    exact ⟨rfl, rfl⟩

/-- What is set aside for all columns together is no more than there is left to read. -/
theorem width_mul_builderCapacity_le (rows room width : Nat) :
    width * (builderCapacity rows room width).1 ≤ room ∧
      width * (builderCapacity rows room width).2 ≤ room := by
  have hshare : width * (room / max width 1) ≤ room :=
    Nat.le_trans (Nat.mul_le_mul_right _ (Nat.le_max_left ..)) (Nat.mul_div_le ..)
  exact ⟨Nat.le_trans (Nat.mul_le_mul_left _ (Nat.min_le_right ..)) hshare, hshare⟩

/-- If all rows can be there, then there is room for each of them. -/
theorem builderCapacity_eq_of_mul_le {rows room width : Nat} (hwidth : 0 < width)
    (h : width * rows ≤ room) : (builderCapacity rows room width).1 = rows := by
  have hmax : max width 1 = width := Nat.max_eq_left hwidth
  refine Nat.min_eq_left ((Nat.le_div_iff_mul_le (by omega)).2 ?_)
  rw [hmax, Nat.mul_comm]
  exact h

/-- **Work is bounded by the size of a payload, and not by the row count that it declares.**  What
is set aside for all columns together is no more than the bytes behind the row count.  Of a payload
that is read, these bytes are at least as many as its cells, so that every column has had room for
all of its rows from the start, and never holds more.  A payload that is refused is refused in the
cell that the walk has come to; before that, no more cells have been read than there are bytes.  The
same goes for the cells up to the one with which a builder is lost. -/
theorem work_bounded (schema : ColumnSchema) (payload : Bytes) (hcolumns : schema.columns ≠ [])
    (hlength : 4 ≤ payload.length) :
    let count := declaredRows payload
    let room := payload.length - 4
    let capacity := builderCapacity count room schema.width
    (schema.width * capacity.1 ≤ room ∧ schema.width * capacity.2 ≤ room) ∧
    (∀ batch, decode schema payload = .ok batch →
      schema.width * count ≤ room ∧ capacity.1 = count ∧ batch.rows = count ∧
      batch.textRoom = capacity.2 ∧
      (∃ walk, Reaches schema payload walk ∧ walk.row = count ∧ walk.done = [] ∧
        batch.columns = walk.todo.map ColumnBuilder.finish) ∧
      ∀ walk, Reaches schema payload walk →
        ∀ builder ∈ walk.done ++ walk.todo, builder.values.size ≤ capacity.1) ∧
    (∀ fault, decode schema payload = .error fault →
      ∃ walk, Reaches schema payload walk ∧ walk.Fails count fault) ∧
    (decode schema payload = .lost ↔ ∃ walk, Reaches schema payload walk ∧ ¬walk.InReach) ∧
    ∀ walk, Reaches schema payload walk →
      walk.cells = schema.width * walk.row + walk.done.length ∧ walk.cells ≤ room ∧
      ∀ fault, walk.Fails count fault →
        (walk.InReach → decode schema payload = .error fault) ∧
        Walk.Blames schema walk.row walk.done.length fault ∧
        schema.width * walk.row + walk.done.length ≤ room ∧
        walk.cells + 1 ≤ payload.length - 3 := by
  intro count room capacity
  refine ⟨width_mul_builderCapacity_le .., fun batch hbatch => ?_,
    fun fault => exists_fails_of_decode hcolumns hlength,
    decode_eq_lost_iff_reaches hcolumns hlength, fun walk hreaches => ?_⟩
  · have hroom := width_mul_declaredRows_le hcolumns hlength hbatch
    have hcapacity : capacity.1 = count :=
      builderCapacity_eq_of_mul_le (List.length_pos_of_ne_nil hcolumns) hroom
    obtain ⟨hrows, htextRoom⟩ := rows_and_textRoom_of_decode hcolumns hlength hbatch
    refine ⟨hroom, hcapacity, hrows, htextRoom, exists_end_of_decode hcolumns hlength hbatch, ?_⟩
    intro walk hreaches builder hmem
    rw [hcapacity]
    exact hreaches.accounts.size_le hmem
  · have hcells := hreaches.accounts.cells
    have hbound := hreaches.width_mul_le
    refine ⟨hcells, hcells ▸ hbound, fun fault hfails => ?_⟩
    exact ⟨fun hwalk => hreaches.decode_of_fails hcolumns hlength hwalk hfails,
      hreaches.accounts.blames hfails, hbound, by omega⟩

/-- Two rows of two columns; and a payload that has bytes for a row and a half, and declares as many
rows as can be declared. -/
theorem work_bounded_half_row :
    let schema : ColumnSchema := ⟨[.ofType "a" .varchar, .ofType "b" .varchar]⟩
    let payload : Bytes := [0, 0, 0, 2, 1, 1, 1, 1]
    let lying : Bytes := [255, 255, 255, 255, 1, 1, 1]
    let fault : BatchFault := .truncated (.nullIndicator 1 "b") ⟨1, 7, 0⟩
    builderCapacity (declaredRows payload) 4 2 = (2, 2) ∧
      (∃ batch walk, decode schema payload = .ok batch ∧ Reaches schema payload walk ∧
        walk.row = 2 ∧ batch.columns = walk.todo.map ColumnBuilder.finish) ∧
      builderCapacity (declaredRows lying) 3 2 = (1, 1) ∧ decode schema lying = .error fault ∧
      ∃ walk, Reaches schema lying walk ∧ walk.Fails (declaredRows lying) fault ∧
        2 * walk.row + walk.done.length ≤ 3 := by
  intro schema payload lying fault
  obtain ⟨-, hread, -⟩ := work_bounded schema payload (by decide) (by decide)
  obtain ⟨-, -, hrefused, -, hreached⟩ := work_bounded schema lying (by decide) (by decide)
  have hfault : decode schema lying = .error fault := rfl
  obtain ⟨-, -, -, -, ⟨last, hlast, hrow, -, hfinish⟩, -⟩ := hread _ rfl
  obtain ⟨walk, hreaches, hfails⟩ := hrefused fault hfault
  obtain ⟨-, -, hbound⟩ := hreached walk hreaches
  exact ⟨by decide, ⟨_, last, rfl, hlast, hrow, hfinish⟩, by decide, hfault, walk, hreaches, hfails,
    (hbound fault hfails).2.2.1⟩

end Batch
end BatchBridge
