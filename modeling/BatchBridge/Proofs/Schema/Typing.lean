import BatchBridge.Proofs.Schema.RoundTrip

/-!
# Types and tags

Whatever the policy, a schema that is accepted gives each column the type that its tag announces,
and the type of text if there is none.  So a schema is told apart by its names and tags, and these
are what is announced.

* `ColumnSchema.typed` — the schema with these names and tags.
* **`resolve_permissive`**, **`resolve_strict`** — the permissive policy accepts all tags, the strict
  one only known ones; it complains of the first that is not.
* `ColumnSchema.StrictOn` — the same in terms of the schema, whose remapped columns are the ones with
  unknown tags.
* `typed_of_parse` — what has been read off a payload is of this form.
* `ColumnSchema.Made` — a schema from columns of known types or off a payload.
* **`announcement_understood`** — announcing such a schema and reading the announcement leads back
  to it, unless the policy is strict and a tag is unknown.
-/

namespace BatchBridge

namespace ColumnDef

/-- The column with this name and tag.  A tag that announces no type is read as text. -/
def tagged (column : String × String) : ColumnDef :=
  ⟨column.1, (LogicalType.ofTag? column.2).getD .varchar, column.2⟩

/-- Its type is the one that its tag announces, or text. -/
def IsTagged (column : ColumnDef) : Prop :=
  column.type = (LogicalType.ofTag? column.declared).getD .varchar

theorem isTagged_tagged (column : String × String) : (tagged column).IsTagged := rfl

theorem isTagged_ofType (name : String) (type : LogicalType) : (ofType name type).IsTagged := by
  simp [IsTagged, ofType]

theorem IsTagged.eq {column : ColumnDef} (h : column.IsTagged) :
    tagged (column.name, column.declared) = column := by
  rw [IsTagged] at h
  rw [tagged, ← h]

/-- Exactly the columns with unknown tags are remapped. -/
theorem IsTagged.isRemapped_eq {column : ColumnDef} (h : column.IsTagged) :
    column.isRemapped = (LogicalType.ofTag? column.declared).isNone := by
  rw [isRemapped, h]
  cases htag : LogicalType.ofTag? column.declared with
  | some type => simp [LogicalType.ofTag?_eq_some_iff.1 htag]
  | none =>
    have hother : column.declared ≠ LogicalType.varchar.tag := fun heq => by
      rw [heq, LogicalType.ofTag?_tag] at htag
      cases htag
    simp [hother]

theorem isRemapped_tagged (column : String × String) :
    (tagged column).isRemapped = (LogicalType.ofTag? column.2).isNone :=
  (isTagged_tagged column).isRemapped_eq

end ColumnDef

namespace ColumnSchema

open LogicalType (ofTag?)

/-- The schema with these names and tags. -/
def typed (columns : List (String × String)) : ColumnSchema := ⟨columns.map ColumnDef.tagged⟩

/-! ## The two policies -/

theorem resolve_cons_of_known {policy : TypePolicy} {column : String × String}
    (h : (ofTag? column.2).isSome = true) (rest : List (String × String)) :
    resolve policy (column :: rest) =
      (resolve policy rest).map (ColumnDef.tagged column :: ·) := by
  obtain ⟨type, htag⟩ := Option.isSome_iff_exists.1 h
  simp [resolve, ColumnDef.tagged, htag]

/-- **The permissive policy accepts all tags.** -/
theorem resolve_permissive (columns : List (String × String)) :
    resolve .permissive columns = .ok (columns.map ColumnDef.tagged) := by
  induction columns with
  | nil => rfl
  | cons column rest ih =>
    cases htag : ofTag? column.2 <;>
      simp [resolve, ColumnDef.tagged, htag, ih, Except.map]

/-- What the strict policy makes of names and tags: it complains of the first unknown one. -/
inductive Strictly : List (String × String) → Except BridgeError (List ColumnDef) → Prop where
  | accepted {columns : List (String × String)} :
      (∀ column ∈ columns, (ofTag? column.2).isSome = true) →
      Strictly columns (.ok (columns.map ColumnDef.tagged))
  | refused {front back : List (String × String)} {column : String × String} :
      (∀ earlier ∈ front, (ofTag? earlier.2).isSome = true) → ofTag? column.2 = none →
      Strictly (front ++ column :: back) (.error (.unsupportedType column.1 column.2))

/-- **The strict policy accepts known tags only.** -/
theorem resolve_strict (columns : List (String × String)) :
    Strictly columns (resolve .strict columns) := by
  induction columns with
  | nil => exact .accepted fun _ h => by cases h
  | cons column rest ih =>
    cases htag : ofTag? column.2 with
    | none =>
      have hrefused : resolve .strict (column :: rest) =
          .error (.unsupportedType column.1 column.2) := by simp [resolve, htag]
      rw [hrefused]
      have hnone : ∀ earlier ∈ ([] : List (String × String)), (ofTag? earlier.2).isSome = true :=
        fun _ h => by cases h
      exact .refused hnone htag
    | some type =>
      have hknown : (ofTag? column.2).isSome = true := by rw [htag]; rfl
      rw [resolve_cons_of_known hknown]
      generalize resolve .strict rest = result at ih
      cases ih with
      | accepted hall => exact .accepted (List.forall_mem_cons.2 ⟨hknown, hall⟩)
      | @refused front back other hfront hnone =>
        have hearlier : ∀ earlier ∈ column :: front, (ofTag? earlier.2).isSome = true :=
          List.forall_mem_cons.2 ⟨hknown, hfront⟩
        exact .refused hearlier hnone

/-- What the strict policy makes of the announcement of a schema: the schema, if no column is
remapped, and else a complaint about the first one that is. -/
inductive StrictOn (schema : ColumnSchema) : Except BridgeError ColumnSchema → Prop where
  | same : (∀ column ∈ schema.columns, column.isRemapped = false) → StrictOn schema (.ok schema)
  | refused {front back : List ColumnDef} {column : ColumnDef} :
      schema.columns = front ++ column :: back →
      (∀ earlier ∈ front, earlier.isRemapped = false) → column.isRemapped = true →
      StrictOn schema (.error (.unsupportedType column.name column.declared))

theorem StrictOn.eq_ok_iff {schema : ColumnSchema} {result : Except BridgeError ColumnSchema}
    (h : StrictOn schema result) :
    result = .ok schema ↔ ∀ column ∈ schema.columns, column.isRemapped = false := by
  cases h with
  | same hsame => exact iff_of_true rfl hsame
  | @refused front back column hcolumns _ hremapped =>
    refine iff_of_false (fun hok => by cases hok) fun hsame => ?_
    have hmem : column ∈ schema.columns := by rw [hcolumns]; simp
    rw [hsame column hmem] at hremapped
    cases hremapped

/-- **The strict policy complains of the first remapped column.** -/
theorem strictOn_resolve (columns : List (String × String)) :
    StrictOn (typed columns) ((resolve .strict columns).map ColumnSchema.mk) := by
  have hknown (column : String × String) (htag : (ofTag? column.2).isSome = true) :
      (ColumnDef.tagged column).isRemapped = false := by
    rw [ColumnDef.isRemapped_tagged, ← Option.not_isSome, htag]
    rfl
  have hstrict := resolve_strict columns
  generalize resolve .strict columns = result at hstrict
  cases hstrict with
  | accepted hall =>
    refine .same fun column hmem => ?_
    obtain ⟨announced, hannounced, rfl⟩ := List.mem_map.1 hmem
    exact hknown announced (hall announced hannounced)
  | @refused front back column hfront hnone =>
    have hcolumns : (typed (front ++ column :: back)).columns =
        front.map ColumnDef.tagged ++ ColumnDef.tagged column :: back.map ColumnDef.tagged := by
      simp [typed]
    refine .refused hcolumns (fun earlier hmem => ?_) ?_
    · obtain ⟨announced, hannounced, rfl⟩ := List.mem_map.1 hmem
      exact hknown announced (hfront announced hannounced)
    · rw [ColumnDef.isRemapped_tagged, hnone]
      rfl

/-- Whatever the policy, what is accepted is read in the same way. -/
theorem eq_of_resolve {policy : TypePolicy} {columns : List (String × String)}
    {typed : List ColumnDef} (h : resolve policy columns = .ok typed) :
    typed = columns.map ColumnDef.tagged := by
  cases policy with
  | permissive =>
    rw [resolve_permissive] at h
    cases h
    rfl
  | strict =>
    have hstrict := resolve_strict columns
    rw [h] at hstrict
    cases hstrict
    rfl

theorem typed_of_parse {payload : Bytes} {policy : TypePolicy} {schema : ColumnSchema}
    (h : parse payload policy = .ok schema) :
    ∃ columns, schema = typed columns ∧ resolve policy columns = .ok schema.columns := by
  simp only [parse] at h
  split at h
  · cases h
  · split at h
    · cases h
    · rename_i columns _
      cases hresolve : resolve policy columns with
      | error error =>
        rw [hresolve] at h
        cases h
      | ok defs =>
        rw [hresolve] at h
        cases h
        refine ⟨columns, ?_, hresolve⟩
        rw [typed, ← eq_of_resolve hresolve]

/-! ## Announcing what has been read -/

/-- A schema that can come about: from columns of known types, or off a payload. -/
inductive Made : ColumnSchema → Prop where
  | ofTypes (columns : List (String × LogicalType)) : Made (ofTypes columns)
  | parsed {payload : Bytes} {policy : TypePolicy} {schema : ColumnSchema} :
      parse payload policy = .ok schema → Made schema

theorem Made.isTagged {schema : ColumnSchema} (h : schema.Made) :
    ∀ column ∈ schema.columns, column.IsTagged := by
  intro column hmem
  cases h with
  | ofTypes columns =>
    obtain ⟨⟨name, type⟩, -, rfl⟩ := List.mem_map.1 hmem
    exact ColumnDef.isTagged_ofType name type
  | parsed hparse =>
    obtain ⟨columns, rfl, -⟩ := typed_of_parse hparse
    obtain ⟨announced, -, rfl⟩ := List.mem_map.1 hmem
    exact ColumnDef.isTagged_tagged announced

/-- The names and tags of a schema determine it. -/
theorem map_tagged {columns : List ColumnDef} (h : ∀ column ∈ columns, column.IsTagged) :
    (columns.map fun column => (column.name, column.declared)).map ColumnDef.tagged = columns := by
  rw [List.map_map]
  refine (List.map_congr_left fun column hmem => ?_).trans columns.map_id
  exact (h column hmem).eq

theorem parse_toJson_permissive {schema : ColumnSchema}
    (h : ∀ column ∈ schema.columns, column.IsTagged) :
    parse (Utf8.encode schema.toJson) .permissive = .ok schema := by
  rw [parse_toJson, resolve_permissive, map_tagged h]
  rfl

/-- The strict policy accepts an announcement without remapped columns, and else complains of the
first one. -/
theorem parse_toJson_strict {schema : ColumnSchema}
    (h : ∀ column ∈ schema.columns, column.IsTagged) :
    StrictOn schema (parse (Utf8.encode schema.toJson) .strict) := by
  have hstrict := strictOn_resolve (schema.columns.map fun column => (column.name, column.declared))
  rwa [typed, map_tagged h, ← parse_toJson] at hstrict

/-- What has been read off a payload is announced as it was read. -/
theorem parse_toJson_of_parse {payload : Bytes} {policy : TypePolicy} {schema : ColumnSchema}
    (h : parse payload policy = .ok schema) :
    parse (Utf8.encode schema.toJson) policy = .ok schema := by
  obtain ⟨columns, rfl, hresolve⟩ := typed_of_parse h
  have hsent : (typed columns).columns.map (fun column => (column.name, column.declared)) =
      columns := by
    rw [typed, List.map_map]
    exact columns.map_id
  rw [parse_toJson, hsent, hresolve]
  rfl

/-- **An announced schema is understood as it was meant.**  Every column of a schema that can come
about has the type of its tag, or that of text if the tag is unknown.  Whatever its names and tags,
its announcement is read as the same schema by the permissive policy, and by the strict one exactly
if no column is remapped.  A schema that has been read off a payload is so read again, by the policy
that it was read by. -/
theorem announcement_understood {schema : ColumnSchema} (h : schema.Made) :
    (∀ column ∈ schema.columns,
      column.type = (ofTag? column.declared).getD .varchar) ∧
    parse (Utf8.encode schema.toJson) .permissive = .ok schema ∧
    (parse (Utf8.encode schema.toJson) .strict = .ok schema ↔
      ∀ column ∈ schema.columns, column.isRemapped = false) ∧
    ∀ payload policy, parse payload policy = .ok schema →
      parse (Utf8.encode schema.toJson) policy = .ok schema := by
  have htagged := h.isTagged
  exact ⟨htagged, parse_toJson_permissive htagged, (parse_toJson_strict htagged).eq_ok_iff,
    fun _ _ => parse_toJson_of_parse⟩

set_option maxRecDepth 10000 in
/-- A name with a quote, a backslash, a NUL and a character from beyond the basic plane, under an
unknown tag, and a second column that is spelled as a list. -/
theorem announcement_understood_date :
    let payload := Utf8.encode <|
      "\x7b\"columns\":[\x7b\"type\":\"DATE\",\"name\":\"\\\"\\\\\\u0000\\ud83d\\ude00\"\x7d," ++
        "[\"n\",\"\\u0042IGINT\"]]\x7d"
    let schema : ColumnSchema :=
      ⟨[⟨"\"\\\x00😀", .varchar, "DATE"⟩, ⟨"n", .bigInt, "BIGINT"⟩]⟩
    parse payload .permissive = .ok schema ∧
      parse (Utf8.encode schema.toJson) .permissive = .ok schema ∧
      parse (Utf8.encode schema.toJson) .strict ≠ .ok schema := by
  intro payload schema
  have hparse : parse payload .permissive = .ok schema := by rfl
  obtain ⟨-, hagain, hstrict, -⟩ := announcement_understood (.parsed hparse)
  refine ⟨hparse, hagain, fun hok => ?_⟩
  have hsame := hstrict.1 hok _ List.mem_cons_self
  revert hsame
  decide

end ColumnSchema
end BatchBridge
