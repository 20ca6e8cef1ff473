import BatchBridge.Proofs.Batch.Rows
import BatchBridge.Proofs.Batch.Spelling

/-!
# Batches are read where they are spelled

Each reader of a payload succeeds exactly where what it reads is spelled, leaves what stands behind
that, and gives the value that is spelled.  The statements are equivalences, so they say both what
is accepted and what is not.

* `Cursor.Passes` — reading goes on behind some bytes.
* **`Cursor.cell_eq_ok_iff`**, **`Cursor.cells_eq_ok_iff`**, **`Cursor.rows_eq_ok_iff`** — a cell, a
  row and rows.
* `Batch.contents`, `Batch.table` — what there is to see of a batch, by columns and by rows.
* **`Batch.map_contents_read_eq_ok_iff`** — a batch, however long its texts.
-/

namespace BatchBridge

theorem map_eq_ok_iff {ε α β : Type} {result : Except ε α} {f : α → β} {b : β} :
    result.map f = .ok b ↔ ∃ a, result = .ok a ∧ f a = b := by
  cases result <;> simp [Except.map]

theorem map_eq_error_iff {ε α β : Type} {result : Except ε α} {f : α → β} {e : ε} :
    result.map f = .error e ↔ result = .error e := by
  cases result <;> simp [Except.map]

namespace Cursor

/-! ## Numbers and bytes -/

/-- Reading goes on behind these bytes. -/
structure Passes (used : Bytes) (before after : Cursor) : Prop where
  rest : before.rest = used ++ after.rest
  total : after.total = before.total

theorem Passes.refl (cursor : Cursor) : Passes [] cursor cursor := ⟨rfl, rfl⟩

theorem Passes.trans {used more : Bytes} {a b c : Cursor} (h : Passes used a b)
    (h' : Passes more b c) : Passes (used ++ more) a c where
  rest := by rw [h.rest, h'.rest, List.append_assoc]
  total := h'.total.trans h.total

/-- What is passed in two parts is passed up to some point and then from there. -/
theorem Passes.exists_between {used more : Bytes} {a c : Cursor} (h : Passes (used ++ more) a c) :
    ∃ b, Passes used a b ∧ Passes more b c :=
  ⟨⟨a.total, more ++ c.rest⟩, ⟨h.rest.trans (List.append_assoc ..), rfl⟩, rfl, h.total⟩

theorem passes_nil_iff {a b : Cursor} : Passes [] a b ↔ a = b := by
  constructor
  · rintro ⟨hrest, htotal⟩
    rcases a with ⟨total, rest⟩
    rcases b with ⟨total', rest'⟩
    simp_all
  · rintro rfl
    exact .refl a

theorem take_eq_ok_iff {n : Nat} {cursor last : Cursor} {front : Bytes} :
    cursor.take n = .ok (front, last) ↔ front.length = n ∧ Passes front cursor last := by
  rcases last with ⟨total, rest⟩
  cases hsplit : Bytes.split? n cursor.rest with
  | none =>
    simp only [take, hsplit, reduceCtorEq, false_iff]
    rintro ⟨hlength, hpasses⟩
    have hfound := Bytes.split?_eq_some_iff.2 ⟨hpasses.rest, hlength⟩
    rw [hsplit] at hfound
    cases hfound
  | some parts =>
    obtain ⟨hrest, hlength⟩ := Bytes.split?_eq_some_iff.1 hsplit
    simp only [take, hsplit, Except.ok.injEq, Prod.mk.injEq, Cursor.mk.injEq]
    constructor
    · rintro ⟨rfl, rfl, rfl⟩
      exact ⟨hlength, hrest, rfl⟩
    · rintro ⟨hlength', hpasses⟩
      have hsame := Bytes.split?_eq_some_iff.2 ⟨hpasses.rest, hlength'⟩
      rw [hsplit, Option.some.injEq] at hsame
      exact ⟨congrArg Prod.fst hsame, hpasses.total.symm, congrArg Prod.snd hsame⟩

/-- **A number is read where it is written.** -/
theorem number_eq_ok_iff {width n : Nat} {cursor last : Cursor} :
    cursor.number width = .ok (n, last) ↔
      n < Bytes.span width ∧ Passes (Bytes.ofNatBE width n) cursor last := by
  rw [number]
  constructor
  · intro h
    cases htake : cursor.take width with
    | error short => simp [htake] at h
    | ok taken =>
      obtain ⟨hlength, hpasses⟩ := take_eq_ok_iff.1 htake
      simp only [htake, Except.ok.injEq, Prod.mk.injEq] at h
      obtain ⟨rfl, rfl⟩ := h
      rw [← hlength, Bytes.ofNatBE_toNatBE]
      exact ⟨Bytes.toNatBE_lt _, hpasses⟩
  · rintro ⟨hn, hpasses⟩
    have htake := take_eq_ok_iff.2 ⟨Bytes.length_ofNatBE width n, hpasses⟩
    simp [htake, Bytes.toNatBE_ofNatBE_of_lt hn]

theorem number_map_eq_ok_iff {α : Type} {width : Nat} {cursor last : Cursor} {a : α} (f : Nat → α) :
    ((cursor.number width).map fun (n, cursor) => (f n, cursor)) = .ok (a, last) ↔
      ∃ n, f n = a ∧ n < Bytes.span width ∧ Passes (Bytes.ofNatBE width n) cursor last := by
  rw [map_eq_ok_iff]
  constructor
  · rintro ⟨⟨n, next⟩, hnumber, hn⟩
    obtain ⟨rfl, rfl⟩ := Prod.mk.inj hn
    exact ⟨n, rfl, number_eq_ok_iff.1 hnumber⟩
  · rintro ⟨n, rfl, hn⟩
    exact ⟨(n, last), number_eq_ok_iff.2 hn, rfl⟩

/-! ## Cells -/

/-- **A present cell is read where it is spelled**, behind its indicator. -/
theorem value_eq_ok_iff {type : LogicalType} {cursor last : Cursor} {v : Value} :
    cursor.value type = .ok (v, last) ↔
      ∃ (cell : Spelling) (body : Bytes), cell.OfType type ∧ cell.bytes = 0 :: body ∧
        cell.value = v ∧ Passes body cursor last := by
  constructor
  · intro h
    cases type with
    | integer =>
      obtain ⟨n, rfl, hn, hpasses⟩ :=
        (number_map_eq_ok_iff fun n => Value.int (UInt32.ofNat n).toInt32).1 h
      refine ⟨.int (UInt32.ofNat n).toInt32, _, rfl, rfl, rfl, ?_⟩
      rwa [UInt32.toUInt32_toInt32, UInt32.toNat_ofNat_of_lt' hn]
    | bigInt =>
      obtain ⟨n, rfl, hn, hpasses⟩ :=
        (number_map_eq_ok_iff fun n => Value.bigInt (UInt64.ofNat n).toInt64).1 h
      refine ⟨.bigInt (UInt64.ofNat n).toInt64, _, rfl, rfl, rfl, ?_⟩
      rwa [UInt64.toUInt64_toInt64, UInt64.toNat_ofNat_of_lt' hn]
    | double =>
      obtain ⟨n, rfl, hn, hpasses⟩ :=
        (number_map_eq_ok_iff fun n => Value.double (UInt64.ofNat n)).1 h
      refine ⟨.double (UInt64.ofNat n), _, rfl, rfl, rfl, ?_⟩
      rwa [UInt64.toNat_ofNat_of_lt' hn]
    | varchar =>
      rw [value] at h
      cases hlength : cursor.number 2 with
      | error short => simp [hlength] at h
      | ok read =>
        simp only [hlength] at h
        obtain ⟨⟨text, next⟩, htake, hn⟩ := map_eq_ok_iff.1 h
        obtain ⟨rfl, rfl⟩ := Prod.mk.inj hn
        obtain ⟨hlt, hprefix⟩ := number_eq_ok_iff.1 hlength
        obtain ⟨htext, hpasses⟩ := take_eq_ok_iff.1 htake
        rw [← htext] at hlt hprefix
        exact ⟨.text text, _, ⟨rfl, hlt⟩, rfl, rfl, hprefix.trans hpasses⟩
  · rintro ⟨cell, body, htype, hbody, rfl, hpasses⟩
    cases cell with
    | null indicator => exact absurd (List.cons.inj hbody).1 htype
    | int n =>
      cases htype
      cases hbody
      exact (number_map_eq_ok_iff fun n => Value.int (UInt32.ofNat n).toInt32).2
        ⟨_, by simp [Spelling.value], n.toUInt32.toNat_lt, hpasses⟩
    | bigInt n =>
      cases htype
      cases hbody
      exact (number_map_eq_ok_iff fun n => Value.bigInt (UInt64.ofNat n).toInt64).2
        ⟨_, by simp [Spelling.value], n.toUInt64.toNat_lt, hpasses⟩
    | double bits =>
      cases htype
      cases hbody
      exact (number_map_eq_ok_iff fun n => Value.double (UInt64.ofNat n)).2
        ⟨_, by simp [Spelling.value], bits.toNat_lt, hpasses⟩
    | text text =>
      obtain ⟨rfl, hlt⟩ := htype
      cases hbody
      obtain ⟨next, hprefix, hpasses⟩ := hpasses.exists_between
      have hlength := number_eq_ok_iff.2 ⟨hlt, hprefix⟩
      have htake := take_eq_ok_iff.2 ⟨rfl, hpasses⟩
      simp only [value, hlength]
      exact map_eq_ok_iff.2 ⟨_, htake, rfl⟩

/-- An indicator is one byte. -/
theorem passes_indicator_iff {n : Nat} {cursor last : Cursor} :
    n < Bytes.span 1 ∧ Passes (Bytes.ofNatBE 1 n) cursor last ↔
      ∃ b : UInt8, b.toNat = n ∧ Passes [b] cursor last := by
  constructor
  · rintro ⟨hn, hpasses⟩
    refine ⟨UInt8.ofNat n, UInt8.toNat_ofNat_of_lt' hn, ?_⟩
    have hbyte : Bytes.ofNatBE 1 n = [UInt8.ofNat n] := by
      simp [Bytes.ofNatBE, Bytes.span, Nat.mod_eq_of_lt (show n < 256 from hn)]
    rwa [← hbyte]
  · rintro ⟨b, rfl, hpasses⟩
    have hbyte : Bytes.ofNatBE 1 b.toNat = [b] := by
      simp [Bytes.ofNatBE, Bytes.span]
    rw [hbyte]
    exact ⟨b.toNat_lt, hpasses⟩

/-- **A cell is read where it is spelled.** -/
theorem cell_eq_ok_iff {row : Nat} {column : ColumnDef} {cursor last : Cursor} {v : Value} :
    cursor.cell row column = .ok (v, last) ↔
      ∃ cell : Spelling, cell.OfType column.type ∧ cell.value = v ∧
        Passes cell.bytes cursor last := by
  rw [cell]
  constructor
  · intro h
    cases hnumber : cursor.number 1 with
    | error short => simp [hnumber] at h
    | ok read =>
      obtain ⟨n, next⟩ := read
      obtain ⟨b, rfl, hindicator⟩ := passes_indicator_iff.1 (number_eq_ok_iff.1 hnumber)
      simp only [hnumber] at h
      split at h
      · rename_i hzero
        obtain rfl : b = 0 := UInt8.toNat_inj.1 hzero
        cases hvalue : next.value column.type with
        | error short => simp [hvalue] at h
        | ok found =>
          obtain ⟨read, behind⟩ := found
          simp only [hvalue, Except.ok.injEq, Prod.mk.injEq] at h
          obtain ⟨rfl, rfl⟩ := h
          obtain ⟨cell, body, htype, hbody, rfl, hpasses⟩ := value_eq_ok_iff.1 hvalue
          refine ⟨cell, htype, rfl, ?_⟩
          rw [hbody]
          exact hindicator.trans hpasses
      · rename_i hnonzero
        simp only [Except.ok.injEq, Prod.mk.injEq] at h
        obtain ⟨rfl, rfl⟩ := h
        refine ⟨.null b, fun hzero => hnonzero ?_, rfl, hindicator⟩
        rw [hzero]
        rfl
  · rintro ⟨cell, htype, rfl, hpasses⟩
    by_cases hnull : ∃ b, cell = .null b
    · obtain ⟨b, rfl⟩ := hnull
      have hnumber := number_eq_ok_iff.2 (passes_indicator_iff.2 ⟨b, rfl, hpasses⟩)
      have hnonzero : b.toNat ≠ 0 := fun hzero => htype (UInt8.toNat_inj.1 hzero)
      simp only [hnumber, if_neg hnonzero]
      rfl
    · obtain ⟨body, hbody⟩ : ∃ body, cell.bytes = 0 :: body := by
        cases cell with
        | null b => exact absurd ⟨b, rfl⟩ hnull
        | _ => exact ⟨_, rfl⟩
      have hsplit : Passes ([0] ++ body) cursor last := by rwa [hbody] at hpasses
      obtain ⟨next, hindicator, hrest⟩ := hsplit.exists_between
      have hnumber := number_eq_ok_iff.2 (passes_indicator_iff.2 ⟨0, rfl, hindicator⟩)
      have hvalue := value_eq_ok_iff.2 ⟨cell, body, htype, hbody, rfl, hrest⟩
      simp only [hnumber, UInt8.toNat_zero, if_true, hvalue]

/-! ## Rows -/

/-- **A row is read where its cells are spelled.** -/
theorem cells_eq_ok_iff {row : Nat} {columns : List ColumnDef} {cursor last : Cursor}
    {vs : List Value} :
    cells row columns cursor = .ok (vs, last) ↔
      ∃ spelled : List Spelling, Spelling.OfColumns columns spelled ∧
        spelled.map Spelling.value = vs ∧ Passes (Spelling.rowBytes spelled) cursor last := by
  induction columns generalizing cursor vs with
  | nil =>
    simp only [cells, Except.ok.injEq, Prod.mk.injEq, List.forall₂_nil_left_iff, exists_eq_left,
      List.map_nil, Spelling.rowBytes_nil, passes_nil_iff]
  | cons column columns ih =>
    rw [cells_cons_eq_ok_iff]
    constructor
    · rintro ⟨v, next, rest, hcell, hcells, rfl⟩
      obtain ⟨cell, htype, rfl, hpasses⟩ := cell_eq_ok_iff.1 hcell
      obtain ⟨spelled, hspelled, rfl, hrest⟩ := ih.1 hcells
      exact ⟨cell :: spelled, .cons htype hspelled, rfl, hpasses.trans hrest⟩
    · rintro ⟨spelled, hspelled, rfl, hpasses⟩
      obtain ⟨cell, spelled, htype, hrest, rfl⟩ := List.forall₂_cons_left_iff.1 hspelled
      obtain ⟨next, hcell, hcells⟩ := hpasses.exists_between
      exact ⟨_, next, _, cell_eq_ok_iff.2 ⟨cell, htype, rfl, hcell⟩,
        ih.2 ⟨spelled, hrest, rfl, hcells⟩, rfl⟩

/-- **Rows are read where they are spelled.** -/
theorem rows_eq_ok_iff {columns : List ColumnDef} {count row : Nat} {cursor last : Cursor}
    {table : List (List Value)} :
    rows columns count row cursor = .ok (table, last) ↔
      ∃ spelled : List (List Spelling), spelled.length = count ∧
        (∀ cells ∈ spelled, Spelling.OfColumns columns cells) ∧
        Spelling.values spelled = table ∧ Passes (Spelling.tableBytes spelled) cursor last := by
  induction count generalizing row cursor table with
  | zero =>
    simp only [rows, Except.ok.injEq, Prod.mk.injEq, List.length_eq_zero_iff, exists_eq_left,
      List.not_mem_nil, false_imp_iff, implies_true, true_and, Spelling.tableBytes_nil,
      passes_nil_iff, Spelling.values, List.map_nil]
  | succ count ih =>
    rw [rows_succ_eq_ok_iff]
    constructor
    · rintro ⟨vs, next, rest, hcells, hrows, rfl⟩
      obtain ⟨cells, hcolumns, rfl, hpasses⟩ := cells_eq_ok_iff.1 hcells
      obtain ⟨spelled, rfl, hall, rfl, hrest⟩ := ih.1 hrows
      exact ⟨cells :: spelled, rfl, List.forall_mem_cons.2 ⟨hcolumns, hall⟩, rfl,
        hpasses.trans hrest⟩
    · rintro ⟨spelled, hlength, hall, rfl, hpasses⟩
      cases spelled with
      | nil => cases hlength
      | cons cells spelled =>
        obtain ⟨hcolumns, hall⟩ := List.forall_mem_cons.1 hall
        obtain ⟨next, hcells, hrows⟩ := hpasses.exists_between
        exact ⟨_, next, _, cells_eq_ok_iff.2 ⟨cells, hcolumns, rfl, hcells⟩,
          ih.2 ⟨spelled, Nat.succ.inj hlength, hall, rfl, hrows⟩, rfl⟩

/-- Without columns, any number of rows is spelled by nothing. -/
theorem rows_nil (count row : Nat) (cursor : Cursor) :
    cursor.rows [] count row = .ok (List.replicate count [], cursor) := by
  induction count generalizing row with
  | zero => rfl
  | succ count ih => simp [Cursor.rows, Cursor.cells, ih, List.replicate_succ]

end Cursor

namespace Batch

/-! ## Batches -/

/-- What there is to see of a batch.  How much room was set aside for it is no part of that. -/
def contents (batch : Batch) : Nat × List Column := (batch.rows, batch.columns)

/-- The rows of a batch, one after the other. -/
def table (batch : Batch) : List (List Value) := (List.range batch.rows).map batch.row

theorem Holds.table_eq {schema : ColumnSchema} {table : List (List Value)} {batch : Batch}
    (h : batch.Holds schema table) : batch.table = table := by
  rw [Batch.table, h.rows]
  refine List.ext_getElem (by simp) fun r hr _ => ?_
  rw [List.getElem_map, List.getElem_range]
  exact h.cells r (by simpa using hr)

theorem columnsOf_of_columns_eq_nil {schema : ColumnSchema} (h : schema.columns = [])
    (table : List (List Value)) : columnsOf schema table = [] := by
  have hnil : table.foldl pushCells [] = [] := by
    induction table with
    | nil => rfl
    | cons row table ih => exact ih
  rw [columnsOf, begun, h, List.map_nil, hnil, List.map_nil]

/-- What is seen of a batch is the row count and then the rows, whether there are columns or not. -/
theorem map_contents_read (schema : ColumnSchema) (payload : Bytes) :
    (read schema payload).map contents =
      match (Cursor.ofPayload payload).number 4 with
      | .error short => .error (.truncated .rowCount short)
      | .ok (count, start) =>
        (start.rows schema.columns count 0).map fun (table, _) =>
          (count, columnsOf schema table) := by
  rw [read]
  cases (Cursor.ofPayload payload).number 4 with
  | error short => rfl
  | ok counted =>
    obtain ⟨count, start⟩ := counted
    by_cases hempty : schema.columns = []
    · simp only [hempty, List.isEmpty_nil, if_true, Except.map, contents, Cursor.rows_nil,
        columnsOf_of_columns_eq_nil hempty]
    · simp only [List.isEmpty_eq_false_iff.2 hempty, Bool.false_eq_true, if_false]
      cases start.rows schema.columns count 0 with
      | error fault => rfl
      | ok table => rfl

/-- **A batch is read exactly where a table is spelled**, and what can be seen of it are the values
of the table.  What stands behind the table does not matter. -/
theorem map_contents_read_eq_ok_iff {schema : ColumnSchema} {payload : Bytes}
    {seen : Nat × List Column} :
    (read schema payload).map contents = .ok seen ↔
      ∃ (table : List (List Spelling)) (rest : Bytes), Spelling.OfSchema schema table ∧
        payload = Spelling.payload table ++ rest ∧
        seen = (table.length, columnsOf schema (Spelling.values table)) := by
  rw [map_contents_read]
  constructor
  · intro h
    cases hcount : (Cursor.ofPayload payload).number 4 with
    | error short => simp [hcount] at h
    | ok read =>
      obtain ⟨count, start⟩ := read
      simp only [hcount] at h
      obtain ⟨⟨values, last⟩, hrows, rfl⟩ := map_eq_ok_iff.1 h
      obtain ⟨hlt, hstart⟩ := Cursor.number_eq_ok_iff.1 hcount
      obtain ⟨table, rfl, hall, rfl, hlast⟩ := Cursor.rows_eq_ok_iff.1 hrows
      exact ⟨table, last.rest, ⟨hlt, hall⟩, (hstart.trans hlast).rest, rfl⟩
  · rintro ⟨table, rest, htable, rfl, rfl⟩
    have hpasses : Cursor.Passes (Spelling.payload table)
        (.ofPayload (Spelling.payload table ++ rest)) ⟨_, rest⟩ := ⟨rfl, rfl⟩
    obtain ⟨start, hstart, hlast⟩ := hpasses.exists_between
    have hcount := Cursor.number_eq_ok_iff.2 ⟨htable.count, hstart⟩
    have hrows : start.rows schema.columns table.length 0 =
        .ok (Spelling.values table, ⟨_, rest⟩) :=
      Cursor.rows_eq_ok_iff.2 ⟨table, rfl, htable.rows, rfl, hlast⟩
    simp only [hcount, hrows, Except.map]

/-- What can be seen of a batch are the rows that it holds. -/
theorem holds_of_contents_eq {schema : ColumnSchema} {table : List (List Spelling)} {batch : Batch}
    (htable : Spelling.OfSchema schema table)
    (h : batch.contents = (table.length, columnsOf schema (Spelling.values table))) :
    batch.Holds schema (Spelling.values table) := by
  obtain ⟨hrows, hcolumns⟩ := Prod.mk.inj h
  rw [← Spelling.length_values] at hrows
  exact holds_columnsOf (Spelling.length_of_mem_values htable.rows) hrows hcolumns

end Batch
end BatchBridge
