import BatchBridge.Proofs.Batch.Faults
import BatchBridge.Proofs.Batch.Overflow

/-!
# How much of a payload is read

A batch is read from a definite number of bytes at the front of its payload.  Cut anywhere inside
them, the payload is refused; whatever stands behind them is ignored.

* `Batch.FallsShort` — reading fails for want of bytes.
* `Batch.Consumes` — how many bytes a batch is read from, in terms of what `decode` makes of other
  payloads.
* **`Batch.consumes_spelled`** — they are the bytes that spell the table.
* **`Batch.cut_detected_rest_ignored`** — every payload has exactly one such number, or fails
  together with all that it begins with.
-/

namespace BatchBridge.Batch

/-- Reading fails because bytes are missing. -/
def FallsShort (schema : ColumnSchema) (payload : Bytes) : Prop :=
  ∃ context short, decode schema payload = .error (.truncated context short)

/-- The batch is read from the first `n` bytes: with these in front, it does not matter what
follows, and with fewer of them there is nothing to read.  Batches are compared by what can be seen
of them. -/
structure Consumes (schema : ColumnSchema) (payload : Bytes) (batch : Batch) (n : Nat) : Prop where
  le : n ≤ payload.length
  enough : ∀ more, (decode schema (payload.take n ++ more)).map contents = .ok batch.contents
  needed : ∀ k < n, FallsShort schema (payload.take k)

/-- A payload gives a batch or falls short, or a builder is lost. -/
theorem decode_or_fallsShort (schema : ColumnSchema) (payload : Bytes) :
    (∃ batch, decode schema payload = .ok batch) ∨ FallsShort schema payload ∨
      decode schema payload = .lost := by
  cases h : decode schema payload with
  | ok batch => exact .inl ⟨batch, rfl⟩
  | error fault =>
    obtain ⟨context, short, rfl⟩ := truncated_of_decode h
    exact .inr (.inl ⟨context, short, h⟩)
  | lost => exact .inr (.inr rfl)

theorem not_fallsShort_of_ok {schema : ColumnSchema} {payload : Bytes} {seen : Nat × List Column}
    (h : (decode schema payload).map contents = .ok seen) : ¬FallsShort schema payload := by
  rintro ⟨context, short, hfault⟩
  rw [hfault] at h
  cases h

/-- What a payload begins with loses no builder, unless the payload does. -/
theorem decode_take_ne_lost {schema : ColumnSchema} {payload : Bytes}
    (h : decode schema payload ≠ .lost) (k : Nat) : decode schema (payload.take k) ≠ .lost := by
  intro hlost
  have hmore := decode_append_of_lost hlost (payload.drop k)
  rw [List.take_append_drop] at hmore
  exact h hmore

/-- Every batch is spelled at the front of its payload. -/
theorem exists_table_of_decode {schema : ColumnSchema} {payload : Bytes} {batch : Batch}
    (h : decode schema payload = .ok batch) :
    ∃ table rest, Spelling.OfSchema schema table ∧ FitsOffsets (Spelling.values table) ∧
      payload = Spelling.payload table ++ rest ∧
      batch.contents = (table.length, columnsOf schema (Spelling.values table)) := by
  have hseen : (decode schema payload).map contents = .ok batch.contents := by rw [h]; rfl
  exact map_contents_decode_eq_ok_iff.1 hseen

/-- What begins with a batch is a batch. -/
theorem fallsShort_take {schema : ColumnSchema} {payload : Bytes} (h : FallsShort schema payload)
    (k : Nat) : FallsShort schema (payload.take k) := by
  obtain ⟨context, short, hfault⟩ := h
  rcases decode_or_fallsShort schema (payload.take k) with ⟨batch, hbatch⟩ | hshort | hlost
  · obtain ⟨table, rest, htable, hfits, hfront, -⟩ := exists_table_of_decode hbatch
    have hpayload : payload = Spelling.payload table ++ (rest ++ payload.drop k) := by
      rw [← List.append_assoc, ← hfront, List.take_append_drop]
    exact absurd ⟨context, short, hfault⟩ (not_fallsShort_of_ok
      (map_contents_decode_eq_ok_iff.2 ⟨table, _, htable, hfits, hpayload, rfl⟩))
  · exact hshort
  · exact absurd hlost (decode_take_ne_lost (by simp [hfault]) k)

/-- **A batch is read from the bytes that spell it**: not one of them can be missing. -/
theorem consumes_spelled {schema : ColumnSchema} {table : List (List Spelling)} {rest : Bytes}
    {batch : Batch} (htable : Spelling.OfSchema schema table)
    (hfits : FitsOffsets (Spelling.values table))
    (hbatch : batch.contents = (table.length, columnsOf schema (Spelling.values table))) :
    Consumes schema (Spelling.payload table ++ rest) batch (Spelling.payload table).length where
  le := by simp
  enough more := by
    rw [List.take_left]
    exact map_contents_decode_eq_ok_iff.2 ⟨table, more, htable, hfits, rfl, hbatch⟩
  needed k hk := by
    have hwhole : decode schema (Spelling.payload table ++ rest) ≠ .lost := by
      intro hlost
      have hseen := map_contents_decode_eq_ok_iff.2 ⟨table, rest, htable, hfits, rfl, rfl⟩
      rw [hlost] at hseen
      cases hseen
    rcases decode_or_fallsShort schema ((Spelling.payload table ++ rest).take k) with
      ⟨other, hother⟩ | hshort | hlost
    · -- A table that ends before byte `k` would be spelled in front of a longer one.
      obtain ⟨table', rest', htable', -, hfront, -⟩ := exists_table_of_decode hother
      have hpayload : Spelling.payload table ++ rest =
          Spelling.payload table' ++ (rest' ++ (Spelling.payload table ++ rest).drop k) := by
        rw [← List.append_assoc, ← hfront, List.take_append_drop]
      obtain ⟨rfl, -⟩ := Spelling.payload_append_inj htable htable' hpayload
      have hlength := congrArg List.length hfront
      simp only [List.length_take, List.length_append] at hlength
      omega
    · exact hshort
    · exact absurd hlost (decode_take_ne_lost hwhole k)

theorem Consumes.unique {schema : ColumnSchema} {payload : Bytes} {batch batch' : Batch} {m n : Nat}
    (hm : Consumes schema payload batch m) (hn : Consumes schema payload batch' n) : m = n := by
  rcases Nat.lt_trichotomy m n with hlt | heq | hlt
  · have henough := hm.enough []
    rw [List.append_nil] at henough
    exact absurd (hn.needed m hlt) (not_fallsShort_of_ok henough)
  · exact heq
  · have henough := hn.enough []
    rw [List.append_nil] at henough
    exact absurd (hm.needed n hlt) (not_fallsShort_of_ok henough)

/-- Without columns, a table has no bytes but its row count. -/
theorem length_payload_of_columns_eq_nil {schema : ColumnSchema} (h : schema.columns = [])
    {table : List (List Spelling)} (htable : Spelling.OfSchema schema table) :
    (Spelling.payload table).length = 4 := by
  have hempty : ∀ row ∈ table, Spelling.rowBytes row = [] := fun row hmem => by
    have hrow := htable.rows row hmem
    rw [h] at hrow
    rw [List.forall₂_nil_left_iff.1 hrow]
    rfl
  have hbytes : Spelling.tableBytes table = [] := List.flatMap_eq_nil_iff.2 hempty
  rw [Spelling.payload, hbytes, List.append_nil, Bytes.length_ofNatBE]

/-- **A cut is always detected, and what follows a batch is always ignored.**  A payload that is
read has exactly one number of bytes that it is read from, which is 4 if there are no columns; a
payload that is refused is refused for want of bytes, and so is everything that it begins with. -/
theorem cut_detected_rest_ignored (schema : ColumnSchema) (payload : Bytes) :
    (∀ batch, decode schema payload = .ok batch →
      (∃! n, Consumes schema payload batch n) ∧
        (schema.columns = [] → Consumes schema payload batch 4)) ∧
    ∀ fault, decode schema payload = .error fault → ∀ k, FallsShort schema (payload.take k) := by
  refine ⟨fun batch hbatch => ?_, fun fault hfault k => ?_⟩
  · obtain ⟨table, rest, htable, hfits, rfl, hseen⟩ := exists_table_of_decode hbatch
    have hconsumes : Consumes schema (Spelling.payload table ++ rest) batch _ :=
      consumes_spelled htable hfits hseen
    refine ⟨⟨_, hconsumes, fun n hn => hn.unique hconsumes⟩, fun hempty => ?_⟩
    rwa [length_payload_of_columns_eq_nil hempty htable] at hconsumes
  · obtain ⟨context, short, rfl⟩ := truncated_of_decode hfault
    exact fallsShort_take ⟨context, short, hfault⟩ k

/-- One row of a number, with a byte too many. -/
theorem cut_detected_rest_ignored_one_row :
    let schema : ColumnSchema := ⟨[.ofType "a" .integer]⟩
    let payload : Bytes := [0, 0, 0, 1, 0, 0, 0, 0, 7, 255]
    ∃ batch, decode schema payload = .ok batch ∧ (∃! n, Consumes schema payload batch n) ∧
      decode schema (payload.take 8) =
        .error (.truncated (.value 0 "a" .integer) ⟨4, 5, 3⟩) ∧
      FallsShort schema ((payload.take 8).take 6) := by
  intro schema payload
  refine ⟨_, rfl, ((cut_detected_rest_ignored schema payload).1 _ rfl).1, rfl, ?_⟩
  exact (cut_detected_rest_ignored schema (payload.take 8)).2 _ rfl 6

end BatchBridge.Batch
