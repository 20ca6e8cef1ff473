import BatchBridge.Proofs.Batch.RoundTrip
import Mathlib.Algebra.Group.Nat.Defs

/-!
# Rows that are taken and rows that are not

A producer may offer rows that do not fit.  Those are refused one by one, and a batch is made of the
others.

* `ColumnDef.Admits`, `ColumnSchema.Admits` — the cells and rows that fit, told from their types and
  sizes.  **`encodeRow_eq_ok_iff_admits`** — just these can be written.
* `PayloadBuilder.pushEach` — offers rows one after the other, whatever becomes of each.
* **`PayloadBuilder.pushRows_pushEach`** — refused rows leave no trace.
* **`PayloadBuilder.decode_pushEach`** — what is read back are the rows that were taken.
-/

namespace BatchBridge

/-! ## What fits -/

/-- The value can stand in the column: a null always, anything else if it is of the column's type,
and a text if its length can be written down. -/
def ColumnDef.Admits (column : ColumnDef) : Value → Prop
  | .null => True
  | .int _ => column.type = .integer
  | .bigInt _ => column.type = .bigInt
  | .double _ => column.type = .double
  | .text s => column.type = .varchar ∧ (Utf8.encode s).length ≤ maxTextBytes

instance (column : ColumnDef) (value : Value) : Decidable (column.Admits value) :=
  match value with
  | .null => inferInstanceAs (Decidable True)
  | .int _ => inferInstanceAs (Decidable (column.type = .integer))
  | .bigInt _ => inferInstanceAs (Decidable (column.type = .bigInt))
  | .double _ => inferInstanceAs (Decidable (column.type = .double))
  | .text s => inferInstanceAs
      (Decidable (column.type = .varchar ∧ (Utf8.encode s).length ≤ maxTextBytes))

/-- The row has one value for each column, and each fits its column. -/
def ColumnSchema.Admits (schema : ColumnSchema) (row : List Value) : Prop :=
  List.Forall₂ ColumnDef.Admits schema.columns row

instance (schema : ColumnSchema) (row : List Value) : Decidable (schema.Admits row) :=
  inferInstanceAs (Decidable (List.Forall₂ ColumnDef.Admits schema.columns row))

/-- The value fits where the column can hold the cell that is written for it. -/
theorem ofType_spelling_iff {column : ColumnDef} {value : Value} :
    value.spelling.OfType column.type ↔ column.Admits value := by
  cases value with
  | null => exact iff_of_true (by decide : (1 : UInt8) ≠ 0) trivial
  | text s => exact and_congr_right fun _ => Nat.lt_succ_iff
  | _ => exact Iff.rfl

theorem ofColumns_spelling_iff {columns : List ColumnDef} {values : List Value} :
    Spelling.OfColumns columns (values.map Value.spelling) ↔
      List.Forall₂ ColumnDef.Admits columns values := by
  rw [Spelling.OfColumns, List.forall₂_map_right_iff]
  simp only [ofType_spelling_iff]

/-- **Just the rows that fit can be written**, each as the cells of its values. -/
theorem encodeRow_eq_ok_iff_admits {schema : ColumnSchema} {row : List Value} {bytes : Bytes} :
    encodeRow schema row = .ok bytes ↔
      schema.Admits row ∧ Spelling.rowBytes (row.map Value.spelling) = bytes := by
  rw [encodeRow_eq_ok_iff]
  constructor
  · rintro ⟨hlength, hcells⟩
    obtain ⟨hcolumns, hbytes⟩ := (encodeCells_eq_ok_iff hlength).1 hcells
    exact ⟨ofColumns_spelling_iff.1 hcolumns, hbytes⟩
  · rintro ⟨hadmits, hbytes⟩
    have hlength : row.length = schema.columns.length := (List.Forall₂.length_eq hadmits).symm
    exact ⟨hlength, (encodeCells_eq_ok_iff hlength).2 ⟨ofColumns_spelling_iff.2 hadmits, hbytes⟩⟩

/-- The payload of rows that fit is spelled by the cells of their values. -/
theorem payloadOfRows_of_admits {schema : ColumnSchema} {rows : List (List Value)}
    (h : ∀ row ∈ rows, schema.Admits row) :
    payloadOfRows schema rows = .ok (Spelling.payload (rows.map (·.map Value.spelling))) := by
  have hbodies : RowBodies schema rows
      (rows.map fun row => Spelling.rowBytes (row.map Value.spelling)) :=
    List.forall₂_map_right_iff.2
      (List.forall₂_same.2 fun row hmem => encodeRow_eq_ok_iff_admits.2 ⟨h row hmem, rfl⟩)
  rw [payloadOfRows,
    PayloadBuilder.pushRows_of_rowBodies (show RowBodies (PayloadBuilder.new schema).schema _ _ from
      hbodies)]
  simp [Except.map, PayloadBuilder.finish, PayloadBuilder.new, Spelling.payload,
    Spelling.tableBytes, List.flatMap, Function.comp_def]

namespace PayloadBuilder

/-! ## Offering rows -/

/-- Offers rows one after the other and goes on after each, whether it has been taken or not.  Tells
which rows have been taken, by what the calls have answered. -/
def pushEach (builder : PayloadBuilder) : List (List Value) → List (List Value) × PayloadBuilder
  | [] => ([], builder)
  | row :: rows =>
    match builder.pushRow row with
    | (.ok (), next) => (row :: (next.pushEach rows).1, (next.pushEach rows).2)
    | (.error _, next) => next.pushEach rows

/-- A call takes the row and writes it down, or leaves everything as it was. -/
theorem pushRow_cases (builder : PayloadBuilder) (row : List Value) :
    (∃ bytes, encodeRow builder.schema row = .ok bytes ∧ builder.pushRow row =
        (.ok (), { builder with rows := builder.rows + 1, body := builder.body ++ bytes })) ∨
      ∃ fault, encodeRow builder.schema row = .error fault ∧
        builder.pushRow row = (.error (.protocol fault), builder) := by
  rw [pushRow]
  cases encodeRow builder.schema row with
  | ok bytes => exact .inl ⟨bytes, rfl, rfl⟩
  | error fault => exact .inr ⟨fault, rfl, rfl⟩

/-- **Refused rows leave no trace**: the rows that were taken give the same when offered alone. -/
theorem pushRows_pushEach (builder : PayloadBuilder) (rows : List (List Value)) :
    builder.pushRows (builder.pushEach rows).1 = .ok (builder.pushEach rows).2 := by
  induction rows generalizing builder with
  | nil => rfl
  | cons row rows ih =>
    rw [pushEach]
    rcases pushRow_cases builder row with ⟨bytes, -, hpush⟩ | ⟨fault, -, hpush⟩
    · simp only [hpush, pushRows, ih]
    · simp only [hpush, ih]

/-- The rows that are taken are those that fit. -/
theorem pushEach_eq_filter (builder : PayloadBuilder) (rows : List (List Value)) :
    (builder.pushEach rows).1 = rows.filter (builder.schema.Admits ·) := by
  induction rows generalizing builder with
  | nil => rfl
  | cons row rows ih =>
    rw [pushEach]
    rcases pushRow_cases builder row with ⟨bytes, hbytes, hpush⟩ | ⟨fault, hfault, hpush⟩
    · have hfits : builder.schema.Admits row := (encodeRow_eq_ok_iff_admits.1 hbytes).1
      simp only [hpush, ih, hfits, decide_true, List.filter_cons_of_pos]
    · have hfits : ¬builder.schema.Admits row := fun h => by
        rw [encodeRow_eq_ok_iff_admits.2 ⟨h, rfl⟩] at hfault
        cases hfault
      simp only [hpush, ih, hfits, decide_false, Bool.false_eq_true, not_false_eq_true,
        List.filter_cons_of_neg]

/-- If all fit, all are taken. -/
theorem pushEach_of_admits {builder : PayloadBuilder} {rows : List (List Value)}
    (h : ∀ row ∈ rows, builder.schema.Admits row) : (builder.pushEach rows).1 = rows := by
  rw [pushEach_eq_filter, List.filter_eq_self]
  exact fun row hmem => decide_eq_true (h row hmem)

/-- The rows that were taken are those of the payload. -/
theorem payloadOfRows_pushEach (schema : ColumnSchema) (rows : List (List Value)) :
    payloadOfRows schema ((new schema).pushEach rows).1 =
      .ok ((new schema).pushEach rows).2.finish := by
  rw [payloadOfRows, show PayloadBuilder.pushRows _ _ = _ from pushRows_pushEach (new schema) rows]
  rfl

/-- **What is read back are the rows that were taken.**  However rows that fit and rows that do not
are mixed, the rows taken are those that fit; their number is the builder's; the builder is as if
there had been no others; and its payload is read as a batch with the columns of the schema and with
these rows, in their order and cell by cell.  The last of it holds as long as in no column the texts
come to more than offsets can reach, and then only: otherwise the builder of that column is lost. -/
theorem decode_pushEach (schema : ColumnSchema) (rows : List (List Value))
    (hcount : ((new schema).pushEach rows).1.length < 2 ^ 32) :
    let taken := ((new schema).pushEach rows).1
    let builder := ((new schema).pushEach rows).2
    taken = rows.filter (schema.Admits ·) ∧ builder.rows = taken.length ∧
      (new schema).pushRows taken = .ok builder ∧
      ((∀ c, textIn taken c ≤ 2147483647) →
        ∃ batch, Batch.decode schema builder.finish = .ok batch ∧ batch.Holds schema taken) ∧
      ((∃ c, 2147483647 < textIn taken c) → Batch.decode schema builder.finish = .lost) := by
  intro taken builder
  have hpush : (new schema).pushRows taken = .ok builder := pushRows_pushEach (new schema) rows
  obtain ⟨bodies, -, hbuilder⟩ := pushRows_eq_ok hpush
  have hrows : builder.rows = taken.length := by
    rw [hbuilder]
    exact Nat.zero_add _
  have hpayload := payloadOfRows_pushEach schema rows
  refine ⟨pushEach_eq_filter (new schema) rows, hrows, hpush,
    decode_payloadOfRows hpayload hcount, fun hmore => ?_⟩
  obtain ⟨c, hc⟩ := hmore
  exact decode_payloadOfRows_eq_lost hpayload hcount fun hfits => Nat.not_lt_of_le (hfits c) hc

/-- A row that is taken between one with too few values and one whose second value is of another
type. -/
theorem decode_pushEach_one_of_three :
    let schema : ColumnSchema := ⟨[.ofType "a" .integer, .ofType "b" .double]⟩
    let builder := ((new schema).pushEach
      [[.int 1], [.int 2, .double 0x8000000000000000], [.null, .bigInt 3]]).2
    builder.rows = 1 ∧ ∃ batch, Batch.decode schema builder.finish = .ok batch ∧
      batch.Holds schema [[.int 2, .double 0x8000000000000000]] := by
  intro schema builder
  obtain ⟨-, hrows, -, hbatch, -⟩ := decode_pushEach schema
    [[.int 1], [.int 2, .double 0x8000000000000000], [.null, .bigInt 3]] (by decide)
  refine ⟨hrows, hbatch fun c => ?_⟩
  have htaken : ((new schema).pushEach
      [[.int 1], [.int 2, .double 0x8000000000000000], [.null, .bigInt 3]]).1 =
        [[.int 2, .double 0x8000000000000000]] := by decide
  rw [htaken, textIn_singleton]
  rcases c with - | - | c <;> exact Nat.zero_le _

/-- Rows of the longest text there can be.  All of them are taken, but they cannot be read back. -/
theorem decode_pushEach_long_texts :
    let schema : ColumnSchema := ⟨[.ofType "c" .varchar]⟩
    let rows : List (List Value) :=
      List.replicate 32769 [.text (String.ofList (List.replicate 65535 'a'))]
    ((new schema).pushEach rows).1 = rows ∧ rows.length < 2 ^ 32 ∧
      Batch.decode schema ((new schema).pushEach rows).2.finish = .lost := by
  intro schema rows
  have hlength : rows.length = 32769 := List.length_replicate
  have htext := Utf8.utf8ByteSize_ofList_replicate 65535 'a'
  have hadmits : ∀ row ∈ rows, schema.Admits row := fun row hmem => by
    rw [List.eq_of_mem_replicate hmem]
    exact .cons ⟨rfl, by rw [Utf8.length_encode, htext]; decide⟩ .nil
  have htaken : ((new schema).pushEach rows).1 = rows := pushEach_of_admits hadmits
  have hpayload := payloadOfRows_pushEach schema rows
  rw [htaken] at hpayload
  have hmuch : ¬FitsOffsets rows := by
    refine not_fitsOffsets_replicate (c := 0) ?_
    rw [List.getD_cons_zero, Value.textBytes, htext]
    decide
  exact ⟨htaken, by rw [hlength]; decide,
    decode_payloadOfRows_eq_lost hpayload (by rw [hlength]; decide) hmuch⟩

end PayloadBuilder
end BatchBridge
