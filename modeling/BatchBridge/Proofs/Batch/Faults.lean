import BatchBridge.Proofs.Batch.Reading

/-!
# Where a payload falls short

Reading can fail in one way only: bytes are asked for that are not there.  Which bytes are asked for
next depends on what has been read so far and on nothing else, so a fault can be told from the front
of the payload and the length of the rest.

* `Spelling.StopsInCell`, `Spelling.StopsInRow`, `Spelling.StopsInTable`,
  `Spelling.StopsInPayload` — the fronts after which a reader asks for bytes, what for, and how
  many.
* `Cursor.Lacks` — reading gets behind a front and then finds too few bytes.
* **`Batch.read_eq_error_iff`** — a payload cannot be read exactly where such a front has too few
  bytes behind it, and the fault says which front that is.
* **`Batch.add_needed_le_offset`** — with the missing bytes supplied, reading gets past them.
* **`Batch.fault_located`** — a fault names the row, the column and the place at which the payload
  ends, and counts the bytes correctly.
-/

namespace BatchBridge

/-- How many bytes follow the indicator of a present cell before anything else can be said of it:
those of its number, or of a text those of its length. -/
def LogicalType.headBytes : LogicalType → Nat
  | .integer => 4
  | .bigInt | .double => 8
  | .varchar => 2

namespace Spelling

/-! ## Fronts -/

/-- Where reading can stop: behind some bytes, on the way to something, for want of so many. -/
abbrev Stop := Bytes → CellContext → Nat → Prop

/-- Reading stops in a cell: before its indicator, before its number or the length of its text, or
before the text. -/
inductive StopsInCell (row : Nat) (column : ColumnDef) : Stop where
  | indicator : StopsInCell row column [] (.nullIndicator row column.name) 1
  | head : StopsInCell row column [0] (.value row column.name column.type) column.type.headBytes
  | text (length : Nat) : column.type = .varchar → length < Bytes.span 2 →
      StopsInCell row column (0 :: Bytes.ofNatBE 2 length)
        (.value row column.name column.type) length

/-- Reading stops in a row: some cells are complete, and it stops in the next. -/
inductive StopsInRow (row : Nat) (columns : List ColumnDef) : Stop where
  | after {column : ColumnDef} {stub : Bytes} {context : CellContext} {needed : Nat}
      (cells : List Spelling) :
      columns[cells.length]? = some column → OfColumns (columns.take cells.length) cells →
      StopsInCell row column stub context needed →
      StopsInRow row columns (rowBytes cells ++ stub) context needed

/-- Reading stops in one of `count` rows, of which the first has the number `row`: some rows are
complete, and it stops in the next. -/
inductive StopsInTable (row count : Nat) (columns : List ColumnDef) : Stop where
  | after {stub : Bytes} {context : CellContext} {needed : Nat} (table : List (List Spelling)) :
      table.length < count → (∀ cells ∈ table, OfColumns columns cells) →
      StopsInRow (row + table.length) columns stub context needed →
      StopsInTable row count columns (tableBytes table ++ stub) context needed

/-- Reading stops in a payload: before the row count or in one of the rows that it declares. -/
inductive StopsInPayload (schema : ColumnSchema) : Stop where
  | start : StopsInPayload schema [] .rowCount 4
  | after {stub : Bytes} {context : CellContext} {needed : Nat} (count : Nat) :
      count < Bytes.span 4 → StopsInTable 0 count schema.columns stub context needed →
      StopsInPayload schema (Bytes.ofNatBE 4 count ++ stub) context needed

end Spelling

/-! ## Readers -/

namespace Cursor

open Spelling

/-- Reading gets behind some bytes, and there it asks for `needed` more and finds too few. -/
def Lacks (used : Bytes) (needed : Nat) (cursor : Cursor) (short : Truncation) : Prop :=
  ∃ last, Passes used cursor last ∧ last.rest.length < needed ∧
    short = ⟨needed, last.offset, last.rest.length⟩

theorem lacks_nil_iff {needed : Nat} {cursor : Cursor} {short : Truncation} :
    Lacks [] needed cursor short ↔
      cursor.rest.length < needed ∧ short = ⟨needed, cursor.offset, cursor.rest.length⟩ := by
  simp [Lacks, passes_nil_iff]

/-- Bytes that have been passed do not matter for what is missing. -/
theorem lacks_append_iff {used more : Bytes} {needed : Nat} {cursor : Cursor} {short : Truncation} :
    Lacks (used ++ more) needed cursor short ↔
      ∃ next, Passes used cursor next ∧ Lacks more needed next short := by
  constructor
  · rintro ⟨last, hpasses, hlacks⟩
    obtain ⟨next, hused, hmore⟩ := hpasses.exists_between
    exact ⟨next, hused, last, hmore, hlacks⟩
  · rintro ⟨next, hused, last, hmore, hlacks⟩
    exact ⟨last, hused.trans hmore, hlacks⟩

/-- A fault says that reading has stopped in one of the ways given. -/
def Fails (stop : Stop) (cursor : Cursor) (fault : BatchFault) : Prop :=
  ∃ front context needed short, stop front context needed ∧ Lacks front needed cursor short ∧
    fault = .truncated context short

theorem take_eq_error_iff {n : Nat} {cursor : Cursor} {short : Truncation} :
    cursor.take n = .error short ↔ Lacks [] n cursor short := by
  rw [lacks_nil_iff, take]
  cases hsplit : Bytes.split? n cursor.rest with
  | none => simp [Bytes.split?_eq_none_iff.1 hsplit, eq_comm]
  | some parts =>
    obtain ⟨hrest, hlength⟩ := Bytes.split?_eq_some_iff.1 hsplit
    have hle : ¬cursor.rest.length < n := by
      rw [hrest, List.length_append, hlength]
      exact Nat.not_lt.2 (Nat.le_add_right ..)
    simp [hle]

theorem number_eq_error_iff {width : Nat} {cursor : Cursor} {short : Truncation} :
    cursor.number width = .error short ↔ Lacks [] width cursor short := by
  rw [← take_eq_error_iff, number]
  cases cursor.take width <;> simp

/-- Behind a number, reading goes on where the number has been read. -/
theorem lacks_number_append_iff {width n needed : Nat} (hn : n < Bytes.span width) {more : Bytes}
    {cursor : Cursor} {short : Truncation} :
    Lacks (Bytes.ofNatBE width n ++ more) needed cursor short ↔
      ∃ next, cursor.number width = .ok (n, next) ∧ Lacks more needed next short := by
  simp only [lacks_append_iff, number_eq_ok_iff, hn, true_and]

/-- A present cell lacks its number or the length of its text, or else a part of the text. -/
theorem value_eq_error_iff {type : LogicalType} {cursor : Cursor} {short : Truncation} :
    cursor.value type = .error short ↔ Lacks [] type.headBytes cursor short ∨
      ∃ length, type = .varchar ∧ length < Bytes.span 2 ∧
        Lacks (Bytes.ofNatBE 2 length) length cursor short := by
  cases type with
  | varchar =>
    constructor
    · intro h
      rw [value] at h
      cases hnumber : cursor.number 2 with
      | error short' =>
        simp only [hnumber, Except.error.injEq] at h
        subst h
        exact .inl (number_eq_error_iff.1 hnumber)
      | ok read =>
        obtain ⟨length, next⟩ := read
        simp only [hnumber, map_eq_error_iff] at h
        have hlt : length < Bytes.span 2 := (number_eq_ok_iff.1 hnumber).1
        have hlacks := (lacks_number_append_iff hlt).2 ⟨next, hnumber, take_eq_error_iff.1 h⟩
        rw [List.append_nil] at hlacks
        exact .inr ⟨length, rfl, hlt, hlacks⟩
    · rintro (hlacks | ⟨length, -, hlt, hlacks⟩)
      · have hnumber : cursor.number 2 = .error short := number_eq_error_iff.2 hlacks
        simp only [value, hnumber]
      · rw [← List.append_nil (Bytes.ofNatBE 2 length)] at hlacks
        obtain ⟨next, hnumber, htext⟩ := (lacks_number_append_iff hlt).1 hlacks
        simp only [value, hnumber, map_eq_error_iff, take_eq_error_iff.2 htext]
  | _ => simp [value, map_eq_error_iff, number_eq_error_iff, LogicalType.headBytes]

/-- Behind the indicator of a present cell, reading goes on where that has been read. -/
theorem lacks_zero_cons_iff {body : Bytes} {needed : Nat} {cursor : Cursor} {short : Truncation} :
    Lacks (0 :: body) needed cursor short ↔
      ∃ next, cursor.number 1 = .ok (0, next) ∧ Lacks body needed next short :=
  lacks_number_append_iff (show 0 < Bytes.span 1 by decide)

/-- **A cell is refused where reading stops in it.** -/
theorem cell_eq_error_iff {row : Nat} {column : ColumnDef} {cursor : Cursor} {fault : BatchFault} :
    cursor.cell row column = .error fault ↔ Fails (StopsInCell row column) cursor fault := by
  constructor
  · intro h
    rw [cell] at h
    cases hnumber : cursor.number 1 with
    | error short =>
      simp only [hnumber, Except.error.injEq] at h
      exact ⟨_, _, _, short, .indicator, number_eq_error_iff.1 hnumber, h.symm⟩
    | ok read =>
      obtain ⟨n, next⟩ := read
      by_cases hzero : n = 0
      · subst hzero
        cases hvalue : next.value column.type with
        | error short =>
          simp only [hnumber, hvalue, if_true, Except.error.injEq] at h
          rcases value_eq_error_iff.1 hvalue with hlacks | ⟨length, htype, hlt, hlacks⟩
          · exact ⟨_, _, _, short, .head, lacks_zero_cons_iff.2 ⟨next, hnumber, hlacks⟩, h.symm⟩
          · exact ⟨_, _, _, short, .text length htype hlt,
              lacks_zero_cons_iff.2 ⟨next, hnumber, hlacks⟩, h.symm⟩
        | ok found => simp [hnumber, hvalue] at h
      · simp [hnumber, hzero] at h
  · rintro ⟨_, _, needed, short, hstop, hlacks, rfl⟩
    cases hstop with
    | indicator => simp only [cell, number_eq_error_iff.2 hlacks]
    | head =>
      obtain ⟨next, hnumber, hbody⟩ := lacks_zero_cons_iff.1 hlacks
      have hvalue := value_eq_error_iff.2 (.inl hbody)
      simp only [cell, hnumber, if_true, hvalue]
    | text _ htype hlt =>
      obtain ⟨next, hnumber, hbody⟩ := lacks_zero_cons_iff.1 hlacks
      have hvalue := value_eq_error_iff.2 (.inr ⟨needed, htype, hlt, hbody⟩)
      simp only [cell, hnumber, if_true, hvalue]

/-- **A row is refused where reading stops in it**, in the first cell that is not complete. -/
theorem cells_eq_error_iff {row : Nat} {columns : List ColumnDef} {cursor : Cursor}
    {fault : BatchFault} :
    cells row columns cursor = .error fault ↔ Fails (StopsInRow row columns) cursor fault := by
  induction columns generalizing cursor with
  | nil =>
    constructor
    · intro h
      cases h
    · rintro ⟨_, _, _, _, ⟨cells, hcolumn, -, -⟩, -, -⟩
      cases hcolumn
  | cons column columns ih =>
    constructor
    · intro h
      rw [cells] at h
      cases hcell : cursor.cell row column with
      | error fault' =>
        simp only [hcell, Except.error.injEq] at h
        subst h
        obtain ⟨_, _, _, short, hstop, hlacks, rfl⟩ := cell_eq_error_iff.1 hcell
        exact ⟨_, _, _, short, .after [] rfl .nil hstop, hlacks, rfl⟩
      | ok read =>
        obtain ⟨v, next⟩ := read
        obtain ⟨cell, htype, -, hpasses⟩ := cell_eq_ok_iff.1 hcell
        have hrest : cells row columns next = .error fault := by
          cases hcells : cells row columns next with
          | error fault' => simpa [hcell, hcells] using h
          | ok more => simp [hcell, hcells] at h
        obtain ⟨_, _, _, short, ⟨front, hcolumn, hfront, hstop⟩, hlacks, rfl⟩ := ih.1 hrest
        refine ⟨_, _, _, short, .after (cell :: front) hcolumn (.cons htype hfront) hstop, ?_, rfl⟩
        rw [rowBytes_cons, List.append_assoc]
        exact lacks_append_iff.2 ⟨next, hpasses, hlacks⟩
    · rintro ⟨_, _, _, short, ⟨front, hcolumn, hfront, hstop⟩, hlacks, rfl⟩
      cases front with
      | nil =>
        cases hcolumn
        have hcell := cell_eq_error_iff.2 ⟨_, _, _, short, hstop, hlacks, rfl⟩
        simp only [cells, hcell]
      | cons cell front =>
        obtain ⟨htype, hfront⟩ := List.forall₂_cons.1 hfront
        rw [rowBytes_cons, List.append_assoc] at hlacks
        obtain ⟨next, hpasses, hlacks⟩ := lacks_append_iff.1 hlacks
        have hcell : cursor.cell row column = .ok (cell.value, next) :=
          cell_eq_ok_iff.2 ⟨cell, htype, rfl, hpasses⟩
        have hcells := ih.2 ⟨_, _, _, short, .after front hcolumn hfront hstop, hlacks, rfl⟩
        simp only [cells, hcell, hcells]

/-- **Rows are refused where reading stops in them**, in the first that is not complete. -/
theorem rows_eq_error_iff {columns : List ColumnDef} {count row : Nat} {cursor : Cursor}
    {fault : BatchFault} :
    rows columns count row cursor = .error fault ↔
      Fails (StopsInTable row count columns) cursor fault := by
  induction count generalizing row cursor with
  | zero =>
    constructor
    · intro h
      cases h
    · rintro ⟨_, _, _, _, ⟨table, hcount, -, -⟩, -, -⟩
      exact absurd hcount (Nat.not_lt_zero _)
  | succ count ih =>
    constructor
    · intro h
      rw [rows] at h
      cases hcells : cells row columns cursor with
      | error fault' =>
        simp only [hcells, Except.error.injEq] at h
        subst h
        obtain ⟨_, _, _, short, hstop, hlacks, rfl⟩ := cells_eq_error_iff.1 hcells
        exact ⟨_, _, _, short, .after [] count.succ_pos (fun _ hmem => absurd hmem List.not_mem_nil)
          hstop, hlacks, rfl⟩
      | ok read =>
        obtain ⟨vs, next⟩ := read
        obtain ⟨spelled, hspelled, -, hpasses⟩ := cells_eq_ok_iff.1 hcells
        have hrest : rows columns count (row + 1) next = .error fault := by
          cases hrows : rows columns count (row + 1) next with
          | error fault' => simpa [hcells, hrows] using h
          | ok more => simp [hcells, hrows] at h
        obtain ⟨_, _, _, short, ⟨table, hcount, htable, hstop⟩, hlacks, rfl⟩ := ih.1 hrest
        rw [Nat.add_right_comm] at hstop
        refine ⟨_, _, _, short, .after (spelled :: table) (Nat.succ_lt_succ hcount)
          (List.forall_mem_cons.2 ⟨hspelled, htable⟩) hstop, ?_, rfl⟩
        rw [tableBytes_cons, List.append_assoc]
        exact lacks_append_iff.2 ⟨next, hpasses, hlacks⟩
    · rintro ⟨_, _, _, short, ⟨table, hcount, htable, hstop⟩, hlacks, rfl⟩
      cases table with
      | nil =>
        have hcells : cells row columns cursor = .error _ :=
          cells_eq_error_iff.2 ⟨_, _, _, short, hstop, hlacks, rfl⟩
        simp only [rows, hcells]
      | cons spelled table =>
        obtain ⟨hspelled, htable⟩ := List.forall_mem_cons.1 htable
        rw [tableBytes_cons, List.append_assoc] at hlacks
        obtain ⟨next, hpasses, hlacks⟩ := lacks_append_iff.1 hlacks
        have hcells : cells row columns cursor = .ok (spelled.map Spelling.value, next) :=
          cells_eq_ok_iff.2 ⟨spelled, hspelled, rfl, hpasses⟩
        rw [List.length_cons, Nat.add_comm table.length, ← Nat.add_assoc] at hstop
        have hrows := ih.2 ⟨_, _, _, short, .after table (Nat.lt_of_succ_lt_succ hcount) htable
          hstop, hlacks, rfl⟩
        simp only [rows, hcells, hrows]

/-- At the start of a payload, what has been passed is its front. -/
theorem lacks_ofPayload_iff {front payload : Bytes} {needed : Nat} {short : Truncation} :
    Lacks front needed (.ofPayload payload) short ↔
      ∃ rest, payload = front ++ rest ∧ rest.length < needed ∧
        short = ⟨needed, front.length, rest.length⟩ := by
  have hoffset (rest : Bytes) :
      (⟨(front ++ rest).length, rest⟩ : Cursor).offset = front.length := by
    simp [offset]
  constructor
  · rintro ⟨⟨total, rest⟩, ⟨hrest, htotal⟩, hlt, rfl⟩
    simp only [ofPayload] at hrest htotal hlt
    subst hrest htotal
    exact ⟨rest, rfl, hlt, by rw [hoffset]⟩
  · rintro ⟨rest, rfl, hlt, rfl⟩
    exact ⟨⟨(front ++ rest).length, rest⟩, ⟨rfl, rfl⟩, hlt, by rw [hoffset]⟩

end Cursor

namespace Batch

open Spelling

/-! ## Payloads -/

/-- **A payload cannot be read exactly where reading stops with too few bytes left**, and the fault
names that front and counts what is missing. -/
theorem read_eq_error_iff {schema : ColumnSchema} {payload : Bytes} {fault : BatchFault} :
    read schema payload = .error fault ↔
      ∃ front rest context needed, StopsInPayload schema front context needed ∧
        payload = front ++ rest ∧ rest.length < needed ∧
        fault = .truncated context ⟨needed, front.length, rest.length⟩ := by
  have hfails : read schema payload = .error fault ↔
      Cursor.Fails (StopsInPayload schema) (.ofPayload payload) fault := by
    rw [← map_eq_error_iff (f := contents), map_contents_read]
    constructor
    · intro h
      cases hcount : (Cursor.ofPayload payload).number 4 with
      | error short =>
        simp only [hcount, Except.error.injEq] at h
        exact ⟨_, _, _, short, .start, Cursor.number_eq_error_iff.1 hcount, h.symm⟩
      | ok read =>
        obtain ⟨count, start⟩ := read
        simp only [hcount, map_eq_error_iff] at h
        have hlt : count < Bytes.span 4 := (Cursor.number_eq_ok_iff.1 hcount).1
        obtain ⟨_, _, _, short, hstop, hlacks, rfl⟩ := Cursor.rows_eq_error_iff.1 h
        exact ⟨_, _, _, short, .after count hlt hstop,
          (Cursor.lacks_number_append_iff hlt).2 ⟨start, hcount, hlacks⟩, rfl⟩
    · rintro ⟨_, _, _, short, hstop, hlacks, rfl⟩
      cases hstop with
      | start =>
        have hcount : (Cursor.ofPayload payload).number 4 = .error short :=
          Cursor.number_eq_error_iff.2 hlacks
        simp only [hcount]
      | after count hlt hstop =>
        obtain ⟨start, hcount, hlacks⟩ := (Cursor.lacks_number_append_iff hlt).1 hlacks
        have hrows := Cursor.rows_eq_error_iff.2 ⟨_, _, _, short, hstop, hlacks, rfl⟩
        simp only [hcount, hrows, Except.map]
  rw [hfails]
  constructor
  · rintro ⟨front, context, needed, _, hstop, hlacks, rfl⟩
    obtain ⟨rest, hpayload, hlt, rfl⟩ := Cursor.lacks_ofPayload_iff.1 hlacks
    exact ⟨front, rest, context, needed, hstop, hpayload, hlt, rfl⟩
  · rintro ⟨front, rest, context, needed, hstop, hpayload, hlt, rfl⟩
    exact ⟨front, context, needed, _, hstop,
      Cursor.lacks_ofPayload_iff.2 ⟨rest, hpayload, hlt, rfl⟩, rfl⟩

/-- **What is no batch lacks bytes.**  There is no other way for reading to fail. -/
theorem truncated_of_decode {schema : ColumnSchema} {payload : Bytes} {fault : BatchFault}
    (h : decode schema payload = .error fault) :
    ∃ context short, fault = .truncated context short := by
  obtain ⟨_, _, context, _, -, -, -, hfault⟩ := read_eq_error_iff.1 (read_of_decode_eq_error h)
  exact ⟨context, _, hfault⟩

variable {schema : ColumnSchema} {payload : Bytes} {context context' : CellContext}
  {short short' : Truncation}

/-- The bytes before the fault are such a front, and the others are too few. -/
theorem stops_of_decode (h : decode schema payload = .error (.truncated context short)) :
    short.offset + short.remaining = payload.length ∧ short.remaining < short.needed ∧
      StopsInPayload schema (payload.take short.offset) context short.needed := by
  obtain ⟨front, rest, _, needed, hstop, rfl, hlt, hfault⟩ :=
    read_eq_error_iff.1 (read_of_decode_eq_error h)
  cases hfault
  exact ⟨List.length_append.symm, hlt, by rwa [List.take_left]⟩

/-- Where reading stops for want of bytes, it does so however many of them are there. -/
theorem read_take_of_stops {offset needed m : Nat}
    (h : StopsInPayload schema (payload.take offset) context needed) (hoffset : offset ≤ m)
    (hneeded : m < offset + needed) (hm : m ≤ payload.length) :
    read schema (payload.take m) =
      .error (.truncated context ⟨needed, offset, m - offset⟩) := by
  have hfront : (payload.take offset).length = offset := by
    rw [List.length_take]
    omega
  have hrest : ((payload.take m).drop offset).length = m - offset := by
    rw [List.length_drop, List.length_take, Nat.min_eq_left hm]
  refine read_eq_error_iff.2 ⟨payload.take offset, (payload.take m).drop offset, context, needed,
    h, ?_, by omega, by rw [hfront, hrest]⟩
  conv_lhs => rw [← List.take_append_drop offset (payload.take m), List.take_take,
    Nat.min_eq_left hoffset]

/-- **With the missing bytes supplied, reading gets past them.** -/
theorem add_needed_le_offset {more : Bytes}
    (h : decode schema payload = .error (.truncated context short))
    (hmore : short.needed ≤ short.remaining + more.length)
    (h' : decode schema (payload ++ more) = .error (.truncated context' short')) :
    short.offset + short.needed ≤ short'.offset := by
  obtain ⟨hplace, hlt, hstop⟩ := stops_of_decode h
  obtain ⟨hplace', hlt', hstop'⟩ := stops_of_decode h'
  have hsame : (payload ++ more).take short.offset = payload.take short.offset :=
    List.take_append_of_le_length (by omega)
  rw [← hsame] at hstop
  rw [List.length_append] at hplace'
  refine Nat.le_of_not_lt fun hbefore => ?_
  -- One byte less than is needed is too little for both faults, so they are the same; but then
  -- there are bytes enough.
  have hm : short.offset + short.needed - 1 ≤ (payload ++ more).length := by
    rw [List.length_append]
    omega
  have hcut := read_take_of_stops hstop (m := short.offset + short.needed - 1) (by omega)
    (by omega) hm
  have hcut' := read_take_of_stops hstop' (m := short.offset + short.needed - 1) (by omega)
    (by omega) hm
  rw [hcut, Except.error.injEq, BatchFault.truncated.injEq, Truncation.mk.injEq] at hcut'
  omega

/-- The row count is asked for at the start, and never again. -/
theorem eq_of_stopsInPayload_rowCount {front : Bytes} {needed : Nat}
    (h : StopsInPayload schema front .rowCount needed) : front = [] ∧ needed = 4 := by
  cases h with
  | start => exact ⟨rfl, rfl⟩
  | after count _ hstop =>
    obtain ⟨table, -, -, cells, -, -, hstop⟩ := hstop
    cases hstop

theorem start_of_decode (h : decode schema payload = .error (.truncated .rowCount short)) :
    short.offset = 0 ∧ short.needed = 4 := by
  obtain ⟨hplace, -, hstop⟩ := stops_of_decode h
  obtain ⟨hfront, hneeded⟩ := eq_of_stopsInPayload_rowCount hstop
  have hlength := congrArg List.length hfront
  rw [List.length_take, List.length_nil] at hlength
  exact ⟨by omega, hneeded⟩

/-- Without room for the row count, that is what is missing. -/
theorem decode_of_length_lt (schema : ColumnSchema) {payload : Bytes} (h : payload.length < 4) :
    decode schema payload = .error (.truncated .rowCount ⟨4, 0, payload.length⟩) := by
  have hcount : (Cursor.ofPayload payload).number 4 = .error ⟨4, 0, payload.length⟩ := by
    refine Cursor.number_eq_error_iff.2 (Cursor.lacks_nil_iff.2 ⟨h, ?_⟩)
    simp [Cursor.ofPayload, Cursor.offset]
  simp only [decode, hcount]

theorem rowCount_iff_length_lt (h : decode schema payload = .error (.truncated context short)) :
    context = .rowCount ↔ payload.length < 4 := by
  constructor
  · rintro rfl
    obtain ⟨hplace, hlt, -⟩ := stops_of_decode h
    obtain ⟨hoffset, hneeded⟩ := start_of_decode h
    omega
  · intro hlt
    rw [decode_of_length_lt schema hlt, Decoded.error.injEq, BatchFault.truncated.injEq] at h
    exact h.1.symm

/-- Reading has stopped in a cell: behind the row count and rows and cells that are complete, it
asks for bytes of the next cell. -/
structure StopsAt (schema : ColumnSchema) (payload : Bytes) (context : CellContext)
    (short : Truncation) (table : List (List Spelling)) (cells : List Spelling)
    (column : ColumnDef) : Prop where
  /-- The row is one of those that are declared. -/
  declared : table.length < Bytes.toNatBE (payload.take 4)
  complete : ∀ row ∈ table, OfColumns schema.columns row
  begun : OfColumns (schema.columns.take cells.length) cells
  /-- The column is the next of the schema. -/
  next : schema.columns[cells.length]? = some column
  /-- Of the cell itself, no more has been read than is said by how reading stops in it. -/
  front : ∃ stub, StopsInCell table.length column stub context short.needed ∧
    payload.take short.offset = payload.take 4 ++ (tableBytes table ++ (rowBytes cells ++ stub))

/-- Everywhere else, a cell is asked for. -/
theorem stopsAt_of_decode (h : decode schema payload = .error (.truncated context short))
    (hcontext : context ≠ .rowCount) :
    ∃ table cells column, StopsAt schema payload context short table cells column := by
  obtain ⟨front, rest, _, needed, hstop, rfl, -, hfault⟩ :=
    read_eq_error_iff.1 (read_of_decode_eq_error h)
  cases hfault
  cases hstop with
  | start => exact absurd rfl hcontext
  | after count hlt hstop =>
    obtain ⟨table, hcount, htable, cells, hcolumn, hcells, hstop⟩ := hstop
    rw [Nat.zero_add] at hstop
    have hdeclared (back : Bytes) :
        (Bytes.ofNatBE 4 count ++ back).take 4 = Bytes.ofNatBE 4 count :=
      List.take_left' (Bytes.length_ofNatBE ..)
    refine ⟨table, cells, _, ?_, htable, hcells, hcolumn, _, hstop, ?_⟩
    · rwa [List.append_assoc, hdeclared, Bytes.toNatBE_ofNatBE_of_lt hlt]
    · rw [List.take_left, List.append_assoc, hdeclared]

/-- What a fault tells of the payload in which it was found. -/
structure Locates (schema : ColumnSchema) (payload : Bytes) (context : CellContext)
    (short : Truncation) : Prop where
  /-- The place is in the payload, and everything behind it is left. -/
  place : short.offset + short.remaining = payload.length
  lacking : short.remaining < short.needed
  /-- The row count is missing if and only if there is not even room for one. -/
  rowCount : context = .rowCount ↔ payload.length < 4
  start : context = .rowCount → short.offset = 0 ∧ short.needed = 4
  /-- In all other cases it is in a cell that reading has stopped. -/
  cell : context ≠ .rowCount →
    ∃ table cells column, StopsAt schema payload context short table cells column
  /-- If the missing bytes are supplied, then reading gets past them. -/
  past : ∀ more : Bytes, short.needed ≤ short.remaining + more.length → ∀ context' short',
    decode schema (payload ++ more) = .error (.truncated context' short') →
      short.offset + short.needed ≤ short'.offset

/-- **A fault locates what is missing.**  A payload without room for the row count is refused.
Every payload that is refused comes with a text that tells where reading has stopped, how many bytes
it needs there and how many are left; the place is the one where the payload ends, counted in
complete rows, cells and bytes; and it is not found again in a payload that goes on far enough. -/
theorem fault_located (schema : ColumnSchema) (payload : Bytes) :
    (payload.length < 4 → ∃ fault, decode schema payload = .error fault) ∧
    ∀ fault, decode schema payload = .error fault →
      ∃ context short, fault = .truncated context short ∧
        fault.message = context.message ++ ": " ++
          s!"need {short.needed} bytes at offset {short.offset}, only {short.remaining} remaining" ∧
        Locates schema payload context short := by
  refine ⟨fun hlt => ⟨_, decode_of_length_lt schema hlt⟩, fun fault hfault => ?_⟩
  obtain ⟨context, short, rfl⟩ := truncated_of_decode hfault
  obtain ⟨hplace, hlacking, -⟩ := stops_of_decode hfault
  refine ⟨context, short, rfl, rfl, hplace, hlacking, rowCount_iff_length_lt hfault, ?_,
    stopsAt_of_decode hfault, fun more hmore context' short' => add_needed_le_offset hfault hmore⟩
  rintro rfl
  exact start_of_decode hfault

/-- Two rows of a number and a text, of which the second text has lost its end; and the same with
as many bytes as it has lost. -/
theorem fault_located_second_text :
    let schema : ColumnSchema := ⟨[.ofType "a" .integer, .ofType "b" .varchar]⟩
    let payload : Bytes := [0, 0, 0, 2, 1, 0, 0, 1, 104, 0, 0, 0, 0, 7, 0, 0, 3, 105]
    let short : Truncation := ⟨3, 17, 1⟩
    decode schema payload = .error (.truncated (.value 1 "b" .varchar) short) ∧
      Locates schema payload (.value 1 "b" .varchar) short ∧
      (∃ batch, decode schema (payload ++ [106, 107]) = .ok batch) ∧
      ∃ fault, decode schema (payload.take 3) = .error fault := by
  intro schema payload short
  have hdecode : decode schema payload = .error (.truncated (.value 1 "b" .varchar) short) := rfl
  obtain ⟨context, short', hfault, -, hlocates⟩ := (fault_located schema payload).2 _ hdecode
  cases hfault
  exact ⟨hdecode, hlocates, ⟨_, rfl⟩, (fault_located schema (payload.take 3)).1 (by decide)⟩

end Batch
end BatchBridge
