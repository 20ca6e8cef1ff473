import BatchBridge.Proofs.Json.RoundTrip
import BatchBridge.Proofs.Text.Utf8
import BatchBridge.Schema.Text

/-!
# Announced schemas are understood

* `announced?_tree` — the tree of a schema announces exactly its names and declared tags, in order.
* **`parse_toJson`** — reading an announcement leaves only the policy's word on the tags.
* **`parse_toJson_of_declared`** — when every column is declared with the tag of its own type, there
  is nothing to decide, and either policy gives the schema back.  `ofTypes` is such a schema.
-/

namespace BatchBridge.ColumnSchema

/-- The announcement is spelled with closed tokens alone: names and tags are strings. -/
theorem closed_of_mem_columnTree (column : ColumnDef) {token : Json.Token}
    (h : token ∈ (columnTree column).tokens) : token.Closed := by
  simp only [columnTree, Json.tokens, Json.memberTokens, List.mem_cons, List.mem_append,
    List.not_mem_nil, or_false] at h
  rcases h with (rfl | (rfl | rfl | rfl) | rfl | rfl | rfl | rfl) | rfl <;> constructor

theorem closed_of_mem_elementTokens (columns : List ColumnDef) {token : Json.Token}
    (h : token ∈ Json.elementTokens (columns.map columnTree)) : token.Closed := by
  induction columns with
  | nil => simp [Json.elementTokens] at h
  | cons column rest ih =>
    cases rest with
    | nil =>
      simp only [List.map_cons, List.map_nil, Json.elementTokens] at h
      exact closed_of_mem_columnTree column h
    | cons next rest =>
      simp only [List.map_cons, Json.elementTokens, List.mem_append, List.mem_cons] at h ih
      rcases h with h | rfl | h
      · exact closed_of_mem_columnTree column h
      · exact .comma
      · exact ih h

theorem closed_of_mem_tree (schema : ColumnSchema) {token : Json.Token}
    (h : token ∈ schema.tree.tokens) : token.Closed := by
  simp only [tree, Json.tokens, Json.memberTokens, List.mem_cons, List.mem_append,
    List.not_mem_nil, or_false] at h
  rcases h with (rfl | rfl | rfl | (rfl | h) | rfl) | rfl
  · exact .openBrace
  · exact .string "columns"
  · exact .colon
  · exact .openBracket
  · exact closed_of_mem_elementTokens schema.columns h
  · exact .closeBracket
  · exact .closeBrace

/-- The text of an announcement is read as its tree. -/
theorem parse?_toJson (schema : ColumnSchema) : Json.parse? schema.toJson = some schema.tree :=
  Json.parse?_render fun _ h => closed_of_mem_tree schema h

theorem columnOf?_columnTree (column : ColumnDef) :
    columnOf? (columnTree column) = some (column.name, column.declared) := by
  simp [columnTree, columnOf?, Json.namedMembers?, Json.onlyMember?, Json.string?]

theorem columnsOf?_columnTrees (columns : List ColumnDef) :
    columnsOf? (.array (columns.map columnTree)) =
      some (columns.map fun column => (column.name, column.declared)) := by
  rw [columnsOf?]
  induction columns with
  | nil => rfl
  | cons column rest ih => simp [columnOf?_columnTree, ih]

/-- **The tree of a schema announces its names and declared tags.** -/
theorem announced?_tree (schema : ColumnSchema) :
    announced? schema.tree =
      some (schema.columns.map fun column => (column.name, column.declared)) := by
  simp [tree, announced?, Json.namedMembers?, Json.onlyMember?, columnsOf?_columnTrees]

/-- **Reading an announcement** gives the announced columns their types, and does nothing else. -/
theorem parse_toJson (schema : ColumnSchema) (policy : TypePolicy) :
    parse (Utf8.encode schema.toJson) policy =
      (resolve policy (schema.columns.map fun column => (column.name, column.declared))).map
        ColumnSchema.mk := by
  simp [parse, Utf8.decode_encode, parse?_toJson, announced?_tree]

theorem resolve_of_declared (policy : TypePolicy) (columns : List ColumnDef)
    (h : ∀ column ∈ columns, column.declared = column.type.tag) :
    resolve policy (columns.map fun column => (column.name, column.declared)) = .ok columns := by
  induction columns with
  | nil => rfl
  | cons column rest ih =>
    have hcolumn := h column List.mem_cons_self
    have hrest := ih fun c hc => h c (List.mem_cons_of_mem _ hc)
    have htag : LogicalType.ofTag? column.declared = some column.type :=
      LogicalType.ofTag?_eq_some_iff.2 hcolumn
    simp [resolve, htag, hrest, Except.map]

/-- **A schema without remapped columns is understood as it was announced**, under either
policy. -/
theorem parse_toJson_of_declared (schema : ColumnSchema) (policy : TypePolicy)
    (h : ∀ column ∈ schema.columns, column.declared = column.type.tag) :
    parse (Utf8.encode schema.toJson) policy = .ok schema := by
  rw [parse_toJson, resolve_of_declared policy schema.columns h]
  rfl

/-- The schema of columns that are declared with the tags of their types. -/
def ofTypes (columns : List (String × LogicalType)) : ColumnSchema :=
  ⟨columns.map fun column => .ofType column.1 column.2⟩

theorem parse_toJson_ofTypes (columns : List (String × LogicalType)) (policy : TypePolicy) :
    parse (Utf8.encode (ofTypes columns).toJson) policy = .ok (ofTypes columns) := by
  refine parse_toJson_of_declared (ofTypes columns) policy fun column h => ?_
  obtain ⟨_, -, rfl⟩ := List.mem_map.1 h
  rfl

end BatchBridge.ColumnSchema
