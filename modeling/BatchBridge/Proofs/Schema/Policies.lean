import BatchBridge.Proofs.Schema.Grammar

/-!
# The strict policy refines the permissive one

The two policies read a payload in the same way and part only over tags.  Whatever one of them
refuses before it looks at tags, the other refuses for the same reason; and where the permissive
policy gets as far as a schema, this schema tells what the strict one makes of the payload.

* `ColumnSchema.Refines` — how the answers of the two policies belong together.
* **`ColumnSchema.refines_parse`** — they do so for every payload.
* `ColumnSchema.Reads` — the type of a column and whether it is remapped follow from its tag.
* `Json.Value.Lists` — a value announces whatever some elements are.
  **`ColumnSchema.parse_of_lists`** — if one of them is no column, then no tag matters.
* **`ColumnSchema.strict_refines_permissive`** — all this together.
-/

namespace BatchBridge

namespace Json.Value

/-- The value announces the elements, whether they are columns or not. -/
inductive Lists : Value → List Value → Prop where
  | listed (elements : List Value) : Lists (.array [.array elements]) elements
  | named {members : List (String × Value)} {elements : List Value} :
      Only "columns" members (.array elements) → Lists (.object members) elements

/-- An element that is no column spoils the announcement. -/
theorem Lists.not_announces {value : Value} {elements : List Value} (h : value.Lists elements)
    {element : Value} (hmem : element ∈ elements) (hno : ∀ column, ¬element.IsColumn column)
    (columns : List (String × String)) : ¬value.Announces columns := by
  have hspoilt : ¬(Value.array elements).IsColumns columns := by
    rintro ⟨hcolumns⟩
    obtain ⟨i, hi, rfl⟩ := List.mem_iff_getElem.1 hmem
    exact hno _ (hcolumns.get hi (hcolumns.length_eq ▸ hi))
  intro hannounces
  cases h with
  | listed =>
    cases hannounces with
    | listed hcolumns => exact hspoilt hcolumns
  | named honly =>
    cases hannounces with
    | named honly' hcolumns =>
      cases honly.symm.trans honly'
      exact hspoilt hcolumns

end Json.Value

namespace ColumnSchema

open LogicalType (ofTag?)

/-- The answer of the permissive policy and then that of the strict one. -/
inductive Refines : Except BridgeError ColumnSchema → Except BridgeError ColumnSchema → Prop where
  /-- No columns are found, and that is what both say. -/
  | malformed (fault : SchemaFault) :
      Refines (.error (.schemaParse fault)) (.error (.schemaParse fault))
  /-- The strict policy gives the same schema, or else complains of its first remapped column. -/
  | typed {schema : ColumnSchema} {strict : Except BridgeError ColumnSchema} :
      StrictOn schema strict → Refines (.ok schema) strict

/-- **The strict policy refines the permissive one.** -/
theorem refines_parse (payload : Bytes) :
    Refines (parse payload .permissive) (parse payload .strict) := by
  rw [parse, parse]
  cases Utf8.decode payload with
  | error fault => exact .malformed (.notText fault)
  | ok text =>
    cases hfound : (Json.parse? text).bind announced? with
    | none =>
      simp only [hfound]
      exact .malformed .notColumns
    | some columns =>
      simp only [hfound, resolve_permissive]
      exact .typed (strictOn_resolve columns)

/-- The column is read as its tag says: as the type that the tag announces, or else, and then it is
remapped, as text. -/
structure Reads (column : ColumnDef) : Prop where
  known : column.isRemapped = false → ofTag? column.declared = some column.type
  unknown : column.isRemapped = true → ofTag? column.declared = none ∧ column.type = .varchar

theorem reads_tagged (column : String × String) : Reads (ColumnDef.tagged column) where
  known h := by
    rw [ColumnDef.isRemapped_tagged] at h
    cases htag : ofTag? column.2 with
    | none =>
      rw [htag] at h
      cases h
    | some type => simp [ColumnDef.tagged, htag]
  unknown h := by
    rw [ColumnDef.isRemapped_tagged] at h
    have htag : ofTag? column.2 = none := Option.isNone_iff_eq_none.1 h
    exact ⟨htag, by simp [ColumnDef.tagged, htag]⟩

/-- Where an element is no column, both policies say so, and no tag matters. -/
theorem parse_of_lists {value : Json.Value} {elements : List Json.Value} {text : String}
    (htext : value.SpelledBy text) (h : value.Lists elements) {element : Json.Value}
    (hmem : element ∈ elements) (hno : ∀ column, ¬element.IsColumn column) (policy : TypePolicy) :
    parse (Utf8.encode text) policy = .error (.schemaParse .notColumns) := by
  have hfound : (Json.parse? text).bind announced? = none :=
    Option.eq_none_iff_forall_ne_some.2 fun columns hsome =>
      h.not_announces hmem hno columns ((bind_announced?_eq_some_iff htext columns).1 hsome)
  simp only [parse, Utf8.decode_encode, hfound]

/-- **The strict policy refines the permissive one.**  On every payload, both give the same schema
error, or the permissive policy gives a schema and the strict one the same if no column of it is
remapped, and else a complaint that names the first remapped one and its tag.  The schema has the
remapped columns as text, which are the ones with unknown tags, and all others as their tags say.
Where an element is no column, both say so, whatever tags are before or behind it. -/
theorem strict_refines_permissive :
    (∀ payload, Refines (parse payload .permissive) (parse payload .strict) ∧
      ∀ schema, parse payload .permissive = .ok schema →
        (parse payload .strict = .ok schema ↔
          ∀ column ∈ schema.columns, column.isRemapped = false) ∧
        ∀ column ∈ schema.columns, Reads column) ∧
    ∀ (value : Json.Value) (elements : List Json.Value) (text : String), value.SpelledBy text →
      value.Lists elements → (∃ element ∈ elements, ∀ column, ¬element.IsColumn column) →
      ∀ policy, parse (Utf8.encode text) policy = .error (.schemaParse .notColumns) := by
  refine ⟨fun payload => ⟨refines_parse payload, fun schema hschema => ?_⟩,
    fun value elements text htext hlists hspoilt policy => ?_⟩
  · have hrefines := refines_parse payload
    rw [hschema] at hrefines
    cases hrefines with
    | typed hstrict =>
      refine ⟨hstrict.eq_ok_iff, fun column hmem => ?_⟩
      obtain ⟨columns, rfl, -⟩ := typed_of_parse hschema
      obtain ⟨announced, -, rfl⟩ := List.mem_map.1 hmem
      exact reads_tagged announced
  · obtain ⟨element, hmem, hno⟩ := hspoilt
    exact parse_of_lists htext hlists hmem hno policy

set_option maxRecDepth 10000 in
/-- Three columns, of which the last two have unknown tags; and an unknown tag before a column that
has none. -/
theorem strict_refines_permissive_dates :
    let payload := Utf8.encode <|
      "\x7b\"columns\":[[\"n\",\"BIGINT\"]," ++ "[\"d\",\"DATE\"],[\"t\",\"TIME\"]]\x7d"
    let schema : ColumnSchema :=
      ⟨[⟨"n", .bigInt, "BIGINT"⟩, ⟨"d", .varchar, "DATE"⟩, ⟨"t", .varchar, "TIME"⟩]⟩
    parse payload .permissive = .ok schema ∧
      parse payload .strict = .error (.unsupportedType "d" "DATE") ∧
      Refines (parse payload .permissive) (parse payload .strict) ∧
      (∀ column ∈ schema.columns, Reads column) ∧
      ∀ policy, parse (Utf8.encode "[[[\"d\",\"DATE\"],[\"t\"]]]") policy =
        .error (.schemaParse .notColumns) := by
  intro payload schema
  have hparse : parse payload .permissive = .ok schema := by rfl
  obtain ⟨hrefines, hreads⟩ := strict_refines_permissive.1 payload
  have hstring (text : String) (h : (Json.Text.ofString text).decode? = some text) :
      Json.Denotes (.string (.ofString text)) (.string text) :=
    .string (Json.Text.decode?_eq_some_iff.1 h)
  have hd : Json.Denotes (.array [.string (.ofString "d"), .string (.ofString "DATE")])
      (.array [.string "d", .string "DATE"]) :=
    .array (.cons (hstring "d" rfl) (.cons (hstring "DATE" rfl) .nil))
  have ht : Json.Denotes (.array [.string (.ofString "t")]) (.array [.string "t"]) :=
    .array (.cons (hstring "t" rfl) .nil)
  have hspelled : (Json.Value.array [.array [.array [.string "d", .string "DATE"],
      .array [.string "t"]]]).SpelledBy "[[[\"d\",\"DATE\"],[\"t\"]]]" :=
    ⟨_, .array (.cons (.array (.cons hd (.cons ht .nil))) .nil),
      Json.spells_of_lex (by decide +kernel)⟩
  have hno : ∀ column, ¬(Json.Value.array [.string "t"]).IsColumn column := by
    rintro column ⟨⟩
  exact ⟨hparse, by rfl, hrefines, (hreads schema hparse).2,
    strict_refines_permissive.2 _ _ _ hspelled (.listed _) ⟨_, by simp, hno⟩⟩

end ColumnSchema
end BatchBridge
