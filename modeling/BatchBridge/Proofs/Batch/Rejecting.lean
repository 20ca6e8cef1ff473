import BatchBridge.Proofs.Batch.Pushing

/-!
# Why a row is rejected

A row may be wrong in several ways at once: too short or too long, with values of other types, with
texts that are too long.  One of these is what the producer is told, and it does not depend on how
much of the row could have been written.

* `ColumnDef.Rejects` — what is wrong with a value in a column.
* `ColumnSchema.Rejects` — what is wrong with a row: its length, or else the leftmost value that
  does not fit.
* **`encodeRow_eq_error_iff`** — a row that cannot be written is wrong in this way.
* **`PayloadBuilder.pushRow_takes_or_rejects`** — a row that fits is appended, and any other is
  rejected for this reason and leaves the builder as it was.
-/

namespace BatchBridge

/-- What is wrong with a value: it is there and of another type than the column, or it is a text
that is too long. -/
inductive ColumnDef.Rejects (column : ColumnDef) : Value → ProtocolFault → Prop where
  | wrongType {value : Value} {type : LogicalType} : value.type? = some type → type ≠ column.type →
      column.Rejects value (.wrongType column.name column.type value)
  | textTooLong {s : String} : column.type = .varchar → maxTextBytes < (Utf8.encode s).length →
      column.Rejects (.text s) (.textTooLong column.name (Utf8.encode s).length)

/-- What is wrong with a row: its length, whatever its values; or else the leftmost value that does
not fit its column. -/
inductive ColumnSchema.Rejects (schema : ColumnSchema) (row : List Value) :
    ProtocolFault → Prop where
  | width : row.length ≠ schema.width → schema.Rejects row (.rowWidth row.length schema.width)
  | cell {i : Nat} {column : ColumnDef} {value : Value} {fault : ProtocolFault} :
      row.length = schema.width → schema.columns[i]? = some column → row[i]? = some value →
      List.Forall₂ ColumnDef.Admits (schema.columns.take i) (row.take i) →
      column.Rejects value fault → schema.Rejects row fault

/-- **What is wrong with a value is what is said of it.** -/
theorem encode_eq_error_iff {column : ColumnDef} {value : Value} {fault : ProtocolFault} :
    value.encode column = .error fault ↔ column.Rejects value fault := by
  rcases column with ⟨name, type, declared⟩
  constructor
  · intro h
    cases value with
    | null => cases type <;> cases h
    | text s =>
      cases type with
      | varchar =>
        simp only [Value.encode] at h
        split at h
        · cases h
        · rename_i hlong
          cases h
          exact .textTooLong rfl (Nat.lt_of_not_le hlong)
      | _ =>
        cases h
        exact .wrongType rfl (by simp)
    | _ =>
      cases type <;> cases h <;> exact .wrongType rfl (by simp)
  · rintro (⟨hvalue, hother⟩ | ⟨htype, hlong⟩)
    · cases value with
      | null => cases hvalue
      | _ => cases hvalue; cases type <;> first | rfl | exact absurd rfl hother
    · cases htype
      simp [Value.encode, Nat.not_le.2 hlong]

/-- The leftmost value that does not fit decides, whatever has been written before it. -/
theorem encodeCells_eq_error_iff {columns : List ColumnDef} {values : List Value}
    {fault : ProtocolFault} (hlength : values.length = columns.length) :
    encodeCells columns values = .error fault ↔
      ∃ i column value, columns[i]? = some column ∧ values[i]? = some value ∧
        List.Forall₂ ColumnDef.Admits (columns.take i) (values.take i) ∧
        column.Rejects value fault := by
  induction columns generalizing values with
  | nil =>
    rw [List.eq_nil_of_length_eq_zero hlength]
    simp [encodeCells]
  | cons column columns ih =>
    cases values with
    | nil => cases hlength
    | cons value values =>
      have hlength : values.length = columns.length := Nat.succ.inj hlength
      constructor
      · intro h
        rw [encodeCells] at h
        cases hcell : value.encode column with
        | error fault' =>
          simp only [hcell, Except.error.injEq] at h
          subst h
          exact ⟨0, column, value, rfl, rfl, .nil, encode_eq_error_iff.1 hcell⟩
        | ok front =>
          have hadmits : column.Admits value :=
            ofType_spelling_iff.1 (encode_eq_ok_iff.1 hcell).1
          have hrest : encodeCells columns values = .error fault := by
            cases hcells : encodeCells columns values with
            | error fault' => simpa [hcell, hcells] using h
            | ok more => simp [hcell, hcells] at h
          obtain ⟨i, other, bad, hcolumn, hvalue, hbefore, hrejects⟩ := (ih hlength).1 hrest
          exact ⟨i + 1, other, bad, hcolumn, hvalue, .cons hadmits hbefore, hrejects⟩
      · rintro ⟨i, other, bad, hcolumn, hvalue, hbefore, hrejects⟩
        cases i with
        | zero =>
          cases hcolumn
          cases hvalue
          simp only [encodeCells, encode_eq_error_iff.2 hrejects]
        | succ i =>
          obtain ⟨hadmits, hbefore⟩ := List.forall₂_cons.1 hbefore
          have hcell := encode_eq_ok_iff.2 ⟨ofType_spelling_iff.2 hadmits, rfl⟩
          have hcells := (ih hlength).2 ⟨i, other, bad, hcolumn, hvalue, hbefore, hrejects⟩
          simp only [encodeCells, hcell, hcells]

/-- **A row that cannot be written is wrong in its length or else in its leftmost bad value.** -/
theorem encodeRow_eq_error_iff {schema : ColumnSchema} {row : List Value} {fault : ProtocolFault} :
    encodeRow schema row = .error fault ↔ schema.Rejects row fault := by
  rw [encodeRow]
  by_cases hlength : row.length = schema.width
  · rw [if_pos hlength, encodeCells_eq_error_iff hlength]
    constructor
    · rintro ⟨i, column, value, hcolumn, hvalue, hbefore, hrejects⟩
      exact .cell hlength hcolumn hvalue hbefore hrejects
    · rintro (hother | ⟨-, hcolumn, hvalue, hbefore, hrejects⟩)
      · exact absurd hlength hother
      · exact ⟨_, _, _, hcolumn, hvalue, hbefore, hrejects⟩
  · rw [if_neg hlength]
    constructor
    · intro h
      cases h
      exact .width hlength
    · rintro (_ | ⟨hsame, -⟩)
      · rfl
      · exact absurd hsame hlength

namespace PayloadBuilder

/-- The builder with one more row, whose values are written as these cells. -/
def taking (builder : PayloadBuilder) (row : List Value) : PayloadBuilder :=
  { builder with rows := builder.rows + 1,
                 body := builder.body ++ Spelling.rowBytes (row.map Value.spelling) }

theorem pushRow_of_admits {builder : PayloadBuilder} {row : List Value}
    (h : builder.schema.Admits row) : builder.pushRow row = (.ok (), builder.taking row) := by
  rw [pushRow, encodeRow_eq_ok_iff_admits.2 ⟨h, rfl⟩]
  rfl

theorem pushRow_of_rejects {builder : PayloadBuilder} {row : List Value} {fault : ProtocolFault}
    (h : builder.schema.Rejects row fault) :
    builder.pushRow row = (.error (.protocol fault), builder) := by
  rw [pushRow, encodeRow_eq_error_iff.2 h]

/-- A row fits or there is something wrong with it. -/
theorem admits_or_rejects (schema : ColumnSchema) (row : List Value) :
    schema.Admits row ∨ ∃ fault, schema.Rejects row fault := by
  cases h : encodeRow schema row with
  | ok bytes => exact .inl (encodeRow_eq_ok_iff_admits.1 h).1
  | error fault => exact .inr ⟨fault, encodeRow_eq_error_iff.1 h⟩

/-- **A row is taken or rejected as a whole.**  It is taken if and only if it has a value for every
column and each fits, and then the builder has one row more and its body the bytes of the row.  Any
other row leaves the builder as it was, and is rejected for its length if that is wrong, and else
for its leftmost bad value.  Up to the largest count that can be written down, a payload declares
the rows that have been taken. -/
theorem pushRow_takes_or_rejects (builder : PayloadBuilder) (row : List Value) :
    ((builder.pushRow row).1 = .ok () ↔ builder.schema.Admits row) ∧
      (builder.schema.Admits row → builder.pushRow row = (.ok (), builder.taking row)) ∧
      (¬builder.schema.Admits row → ∃ fault, builder.schema.Rejects row fault) ∧
      (∀ fault, builder.schema.Rejects row fault ↔
        builder.pushRow row = (.error (.protocol fault), builder)) ∧
      (builder.rows < Bytes.span 4 - 1 →
        Bytes.toNatBE ((builder.pushRow row).2.finish.take 4) = (builder.pushRow row).2.rows) := by
  refine ⟨⟨fun hok => ?_, fun hadmits => by rw [pushRow_of_admits hadmits]⟩, pushRow_of_admits,
    fun hnot => (admits_or_rejects builder.schema row).resolve_left hnot,
    fun fault => ⟨pushRow_of_rejects, fun hpush => ?_⟩, fun hroom => ?_⟩
  · rcases admits_or_rejects builder.schema row with hadmits | ⟨fault, hrejects⟩
    · exact hadmits
    · rw [pushRow_of_rejects hrejects] at hok
      cases hok
  · rcases admits_or_rejects builder.schema row with hadmits | ⟨fault', hrejects⟩
    · rw [pushRow_of_admits hadmits] at hpush
      cases hpush
    · rw [pushRow_of_rejects hrejects] at hpush
      cases hpush
      exact hrejects
  · have hrows : (builder.pushRow row).2.rows < Bytes.span 4 := by
      rcases admits_or_rejects builder.schema row with hadmits | ⟨fault, hrejects⟩
      · rw [pushRow_of_admits hadmits]
        exact Nat.add_lt_of_lt_sub hroom
      · rw [pushRow_of_rejects hrejects]
        exact Nat.lt_of_lt_of_le hroom (Nat.sub_le ..)
    rw [finish, List.take_left' (Bytes.length_ofNatBE ..), Bytes.toNatBE_ofNatBE_of_lt hrows]

/-- A row that is taken; one with a number in place of a text before a value of yet another type;
and one that is too short, whatever its value. -/
theorem pushRow_takes_or_rejects_three_rows :
    let schema : ColumnSchema :=
      ⟨[.ofType "a" .integer, .ofType "b" .varchar, .ofType "c" .double]⟩
    let builder := (new schema).taking [.int 1, .text "hi", .null]
    (new schema).pushRow [.int 1, .text "hi", .null] = (.ok (), builder) ∧
      builder.body = [0, 0, 0, 0, 1, 0, 0, 2, 104, 105, 1] ∧
      Bytes.toNatBE (builder.finish.take 4) = 1 ∧
      builder.pushRow [.int 2, .bigInt 3, .text "x"] =
        (.error (.protocol (.wrongType "b" .varchar (.bigInt 3))), builder) ∧
      builder.pushRow [.text "x"] = (.error (.protocol (.rowWidth 1 3)), builder) := by
  intro schema builder
  have hbad : builder.schema.Rejects [.int 2, .bigInt 3, .text "x"]
      (.wrongType "b" .varchar (.bigInt 3)) :=
    .cell (i := 1) rfl rfl rfl (.cons rfl .nil) (.wrongType rfl (by decide))
  have hshort : builder.schema.Rejects [.text "x"] (.rowWidth 1 3) :=
    ColumnSchema.Rejects.width (by decide)
  obtain ⟨-, htaken, -, -, hcount⟩ :=
    pushRow_takes_or_rejects (new schema) [.int 1, .text "hi", .null]
  have hpush := htaken (by decide)
  rw [hpush] at hcount
  exact ⟨hpush, by decide, hcount (by decide),
    ((pushRow_takes_or_rejects builder _).2.2.2.1 _).1 hbad,
    ((pushRow_takes_or_rejects builder _).2.2.2.1 _).1 hshort⟩

end PayloadBuilder
end BatchBridge
