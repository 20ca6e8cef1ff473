import BatchBridge.Proofs.Schema.Typing

/-!
# What announces a schema

Whether a text announces a schema depends on the value that it spells, and there only on some of the
members of its objects.

* `Json.Value.IsColumn`, `IsColumns`, `Announces` — the values that announce columns.
* **`announced?_eq_some_iff`** — these are the ones in which columns are found.
* `Json.Value.bare` — a value without the members that announce nothing.  **`announces_bare_iff`**:
  it announces the same.
* **`parse_exactly_announced`** — the permissive policy accepts the texts of these values, and
  refuses all others.

JSON lets half a surrogate pair be escaped on its own.  A string with one is no text, and a tree with
such a string means no value.
-/

namespace BatchBridge

namespace Json.Value

/-! ## Announcements -/

/-- The column with this name and tag, as the list of both or as an object. -/
inductive IsColumn : Value → String × String → Prop where
  | listed (name tag : String) : IsColumn (.array [.string name, .string tag]) (name, tag)
  | named {members : List (String × Value)} {name tag : String} :
      Only "name" members (.string name) → Only "type" members (.string tag) →
      IsColumn (.object members) (name, tag)

/-- A list of columns. -/
inductive IsColumns : Value → List (String × String) → Prop where
  | list {elements : List Value} {columns : List (String × String)} :
      List.Forall₂ IsColumn elements columns → IsColumns (.array elements) columns

/-- The announcement of columns, as a list or as an object. -/
inductive Announces : Value → List (String × String) → Prop where
  | listed {value : Value} {columns : List (String × String)} : IsColumns value columns →
      Announces (.array [value]) columns
  | named {members : List (String × Value)} {value : Value} {columns : List (String × String)} :
      Only "columns" members value → IsColumns value columns →
      Announces (.object members) columns

/-! ## Members that announce nothing -/

/-- A column without members that are neither its name nor its tag. -/
def bareColumn : Value → Value
  | .object members => .object (members.filter fun member => member.1 == "name" || member.1 == "type")
  | value => value

def bareColumns : Value → Value
  | .array elements => .array (elements.map bareColumn)
  | value => value

/-- A value without the members that announce nothing. -/
def bare : Value → Value
  | .array [value] => .array [bareColumns value]
  | .object members =>
    .object ((members.filter (·.1 == "columns")).map fun member => (member.1, bareColumns member.2))
  | value => value

theorem isColumn_bareColumn_iff {value : Value} {column : String × String} :
    value.bareColumn.IsColumn column ↔ value.IsColumn column := by
  cases value with
  | object members =>
    have honly (name : String) (hname : name = "name" ∨ name = "type") (found : Value) :
        Only name (members.filter fun member => member.1 == "name" || member.1 == "type") found ↔
          Only name members found := by
      rw [Only, Only, List.filter_filter]
      have hfilter : (fun member : String × Value =>
          member.1 == name && (member.1 == "name" || member.1 == "type")) = (·.1 == name) := by
        funext member
        cases hmember : member.1 == name with
        | false => rfl
        | true => rcases hname with rfl | rfl <;> simp [hmember]
      rw [hfilter]
    constructor
    · rintro (_ | ⟨hname, htype⟩)
      exact .named ((honly _ (.inl rfl) _).1 hname) ((honly _ (.inr rfl) _).1 htype)
    · rintro (_ | ⟨hname, htype⟩)
      exact .named ((honly _ (.inl rfl) _).2 hname) ((honly _ (.inr rfl) _).2 htype)
  | _ => rfl

theorem isColumns_bareColumns_iff {value : Value} {columns : List (String × String)} :
    value.bareColumns.IsColumns columns ↔ value.IsColumns columns := by
  cases value with
  | array elements =>
    have hiff : List.Forall₂ IsColumn (elements.map bareColumn) columns ↔
        List.Forall₂ IsColumn elements columns := by
      rw [List.forall₂_map_left_iff]
      simp only [isColumn_bareColumn_iff]
    constructor
    · rintro ⟨h⟩
      exact .list (hiff.1 h)
    · rintro ⟨h⟩
      exact .list (hiff.2 h)
  | _ => rfl

theorem only_map_iff (f : Value → Value) {members : List (String × Value)} {name : String}
    {value : Value} :
    Only name ((members.filter (·.1 == name)).map fun member => (member.1, f member.2)) value ↔
      ∃ before, Only name members before ∧ f before = value := by
  have hfilter : ((members.filter (·.1 == name)).map fun member => (member.1, f member.2)).filter
      (·.1 == name) = (members.filter (·.1 == name)).map fun member => (member.1, f member.2) := by
    rw [List.filter_eq_self]
    intro member hmem
    obtain ⟨before, hbefore, rfl⟩ := List.mem_map.1 hmem
    exact (List.mem_filter.1 hbefore).2
  rw [Only, hfilter, List.map_eq_singleton_iff]
  constructor
  · rintro ⟨⟨found, before⟩, honly, heq⟩
    cases heq
    exact ⟨before, honly, rfl⟩
  · rintro ⟨before, honly, rfl⟩
    exact ⟨(name, before), honly, rfl⟩

/-- **Members that announce nothing have no influence.** -/
theorem announces_bare_iff {value : Value} {columns : List (String × String)} :
    value.bare.Announces columns ↔ value.Announces columns := by
  cases value with
  | array elements =>
    match elements with
    | [] | _ :: _ :: _ => rfl
    | [value] =>
      constructor
      · rintro (⟨h⟩ | _)
        exact .listed (isColumns_bareColumns_iff.1 h)
      · rintro (⟨h⟩ | _)
        exact .listed (isColumns_bareColumns_iff.2 h)
  | object members =>
    constructor
    · rintro (_ | ⟨honly, hcolumns⟩)
      obtain ⟨before, hbefore, rfl⟩ := (only_map_iff bareColumns).1 honly
      exact .named hbefore (isColumns_bareColumns_iff.1 hcolumns)
    · rintro (_ | ⟨honly, hcolumns⟩)
      have hbare := (only_map_iff bareColumns).2 ⟨_, honly, rfl⟩
      exact .named hbare (isColumns_bareColumns_iff.2 hcolumns)
  | _ => rfl

end Json.Value

namespace ColumnSchema

/-! ## Finding columns -/

theorem columnOf?_object_eq_some_iff {members : List (Json.Text × Json)}
    {named : List (String × Json)} (h : Json.namedMembers? members = some named)
    {name tag : String} :
    columnOf? (.object members) = some (name, tag) ↔
      (Json.onlyMember? "name" named).bind Json.string? = some name ∧
        (Json.onlyMember? "type" named).bind Json.string? = some tag := by
  simp only [columnOf?, h]
  cases Json.onlyMember? "name" named with
  | none => simp
  | some first =>
    cases Json.onlyMember? "type" named with
    | none => simp
    | some second =>
      cases hfirst : first.string? <;> cases hsecond : second.string? <;> simp [hfirst, hsecond]

theorem columnOf?_array_eq_some_iff {first second : Json} {name tag : String} :
    columnOf? (.array [first, second]) = some (name, tag) ↔
      first.string? = some name ∧ second.string? = some tag := by
  cases hfirst : first.string? <;> cases hsecond : second.string? <;>
    simp [columnOf?, hfirst, hsecond]

/-- A column is found in the values that announce one. -/
theorem columnOf?_eq_some_iff {tree : Json} {value : Json.Value} (h : tree.Denotes value)
    (column : String × String) : columnOf? tree = some column ↔ value.IsColumn column := by
  obtain ⟨name, tag⟩ := column
  cases h with
  | array helements =>
    match helements with
    | .nil | .cons _ .nil | .cons _ (.cons _ (.cons _ _)) =>
      exact iff_of_false (by simp [columnOf?]) (by rintro ⟨⟩)
    | .cons hfirst (.cons hsecond .nil) =>
      rw [columnOf?_array_eq_some_iff, Json.string?_eq_some_iff hfirst,
        Json.string?_eq_some_iff hsecond]
      constructor
      · rintro ⟨rfl, rfl⟩
        exact .listed name tag
      · rintro (⟨⟩ | _)
        exact ⟨rfl, rfl⟩
  | object hmembers hperm =>
    obtain ⟨named, hnamed, hdenote⟩ := Json.namedMembers?_of_denotes hmembers
    have hstring (key text : String) := Json.bind_onlyMember?_eq_some_iff
      (fun h _ => Json.string?_eq_some_iff h) hdenote hperm key text
    rw [columnOf?_object_eq_some_iff hnamed, hstring, hstring]
    constructor
    · rintro ⟨⟨_, hname, rfl⟩, _, htype, rfl⟩
      exact .named hname htype
    · rintro (_ | ⟨hname, htype⟩)
      exact ⟨⟨_, hname, rfl⟩, _, htype, rfl⟩
  | _ => exact iff_of_false (by simp [columnOf?]) (by rintro ⟨⟩)

theorem mapM_columnOf?_eq_some_iff {elements : List Json} {values : List Json.Value}
    (h : List.Forall₂ Json.Denotes elements values) (columns : List (String × String)) :
    elements.mapM columnOf? = some columns ↔
      List.Forall₂ Json.Value.IsColumn values columns := by
  induction h generalizing columns with
  | nil => simp [eq_comm]
  | cons hvalue _ ih =>
    rw [List.mapM_cons, List.forall₂_cons_left_iff]
    constructor
    · intro hsome
      obtain ⟨column, hcolumn, hsome⟩ := Option.bind_eq_some_iff.1 hsome
      obtain ⟨rest, hrest, heq⟩ := Option.bind_eq_some_iff.1 hsome
      cases heq
      exact ⟨column, rest, (columnOf?_eq_some_iff hvalue column).1 hcolumn, (ih rest).1 hrest, rfl⟩
    · rintro ⟨column, rest, hcolumn, hrest, rfl⟩
      rw [(columnOf?_eq_some_iff hvalue column).2 hcolumn, (ih rest).2 hrest]
      rfl

theorem columnsOf?_eq_some_iff {tree : Json} {value : Json.Value} (h : tree.Denotes value)
    (columns : List (String × String)) :
    columnsOf? tree = some columns ↔ value.IsColumns columns := by
  cases h with
  | array helements =>
    rw [columnsOf?, mapM_columnOf?_eq_some_iff helements]
    constructor
    · exact .list
    · rintro ⟨hcolumns⟩
      exact hcolumns
  | _ => exact iff_of_false (by simp [columnsOf?]) (by rintro ⟨⟩)

/-- **Columns are found in the values that announce them.** -/
theorem announced?_eq_some_iff {tree : Json} {value : Json.Value} (h : tree.Denotes value)
    (columns : List (String × String)) :
    announced? tree = some columns ↔ value.Announces columns := by
  cases h with
  | array helements =>
    rcases helements with _ | ⟨hcolumns, _ | _⟩
    · exact iff_of_false (by simp [announced?]) (by rintro ⟨⟩)
    · rw [announced?, columnsOf?_eq_some_iff hcolumns]
      constructor
      · exact .listed
      · rintro (h | _)
        exact h
    · exact iff_of_false (by simp [announced?]) (by rintro ⟨⟩)
  | object hmembers hperm =>
    obtain ⟨named, hnamed, hdenote⟩ := Json.namedMembers?_of_denotes hmembers
    simp only [announced?, hnamed]
    rw [Json.bind_onlyMember?_eq_some_iff columnsOf?_eq_some_iff hdenote hperm]
    constructor
    · rintro ⟨value, honly, hcolumns⟩
      exact .named honly hcolumns
    · rintro (_ | ⟨honly, hcolumns⟩)
      exact ⟨_, honly, hcolumns⟩
  | _ => exact iff_of_false (by simp [announced?]) (by rintro ⟨⟩)

/-! ## Reading payloads -/

/-- The permissive policy accepts a text in which columns are found. -/
theorem parse_permissive (text : String) :
    parse (Utf8.encode text) .permissive =
      match (Json.parse? text).bind announced? with
      | none => .error (.schemaParse .notColumns)
      | some columns => .ok (typed columns) := by
  simp only [parse, Utf8.decode_encode, resolve_permissive]
  rfl

theorem bind_announced?_eq_some_iff {value : Json.Value} {text : String} (h : value.SpelledBy text)
    (columns : List (String × String)) :
    (Json.parse? text).bind announced? = some columns ↔ value.Announces columns := by
  obtain ⟨tree, hdenotes, hspells⟩ := h
  rw [Json.parse?_eq_some_iff.2 hspells]
  exact announced?_eq_some_iff hdenotes columns

/-- **A schema is accepted exactly from the texts that announce it.**  Take any value and any text
that spells it.  If the value announces columns, the text is read as these, in their order; if it
announces none, the text is refused.  A text that spells the same value up to members that announce
nothing has the same outcome.  A text that is not JSON is refused. -/
theorem parse_exactly_announced :
    (∀ (value : Json.Value) (text : String), value.SpelledBy text →
      (∀ columns, value.Announces columns →
        parse (Utf8.encode text) .permissive = .ok (typed columns)) ∧
      ((∀ columns, ¬value.Announces columns) →
        parse (Utf8.encode text) .permissive = .error (.schemaParse .notColumns))) ∧
    (∀ (value other : Json.Value) (text others : String), value.SpelledBy text →
      other.SpelledBy others → value.bare = other.bare →
      parse (Utf8.encode text) .permissive = parse (Utf8.encode others) .permissive) ∧
    ∀ text : String, (∀ tree : Json, ¬Json.Spells tree.tokens text.toList) →
      parse (Utf8.encode text) .permissive = .error (.schemaParse .notColumns) := by
  refine ⟨fun value text h => ⟨fun columns hcolumns => ?_, fun hnone => ?_⟩,
    fun value other text others h hother hbare => ?_, fun text hnot => ?_⟩
  · rw [parse_permissive, (bind_announced?_eq_some_iff h columns).2 hcolumns]
  · have hfound : (Json.parse? text).bind announced? = none :=
      Option.eq_none_iff_forall_ne_some.2 fun columns hsome =>
        hnone columns ((bind_announced?_eq_some_iff h columns).1 hsome)
    rw [parse_permissive, hfound]
  · have hsame : (Json.parse? text).bind announced? = (Json.parse? others).bind announced? := by
      ext columns
      rw [bind_announced?_eq_some_iff h, bind_announced?_eq_some_iff hother,
        ← Json.Value.announces_bare_iff, hbare, Json.Value.announces_bare_iff]
    rw [parse_permissive, parse_permissive, hsame]
  · have hparse : Json.parse? text = none :=
      Option.eq_none_iff_forall_ne_some.2 fun tree hsome =>
        hnot tree (Json.parse?_eq_some_iff.1 hsome)
    rw [parse_permissive, hparse]
    rfl

/-- Two columns, one of each form, in a text with blanks, escapes and a further member. -/
theorem parse_exactly_announced_two_columns :
    let text := "\x7b \"x\": [1e5], \"columns\":\n[[\"n\", \"\\u0042IGINT\"], " ++
      "\x7b\"type\": \"DATE\", \"name\": \"\\ud83d\\ude00\"\x7d]\x7d"
    let value : Json.Value := .object
      [("columns", .array [.array [.string "n", .string "BIGINT"],
        .object [("name", .string "😀"), ("type", .string "DATE")]]),
        ("x", .array [.number ['1', 'e', '5']])]
    value.SpelledBy text ∧ value.Announces [("n", "BIGINT"), ("😀", "DATE")] ∧
      parse (Utf8.encode text) .permissive =
        .ok ⟨[⟨"n", .bigInt, "BIGINT"⟩, ⟨"😀", .varchar, "DATE"⟩]⟩ := by
  intro text value
  have hstring {spelled : Json.Text} {meant : String} (h : spelled.decode? = some meant) :
      Json.Denotes (.string spelled) (.string meant) :=
    .string (Json.Text.decode?_eq_some_iff.1 h)
  have hmember (name : String) {tree : Json} {value : Json.Value} (h : tree.Denotes value) :
      Json.MemberDenotes Json.Denotes (.ofString name, tree) (name, value) :=
    ⟨Json.Text.denotes_map_char name.toList, h⟩
  have hx : Json.Denotes (.array [.number ['1', 'e', '5']]) (.array [.number ['1', 'e', '5']]) :=
    .array (.cons (.number _) .nil)
  have hfirst : Json.Denotes (.array [.string (.ofString "n"), .string (.ofString "BIGINT")])
      (.array [.string "n", .string "BIGINT"]) :=
    .array (.cons (hstring rfl) (.cons (hstring rfl) .nil))
  have hsecond : Json.Denotes
      (.object [(.ofString "type", .string (.ofString "DATE")),
        (.ofString "name", .string [.surrogate 0xD83D, .surrogate 0xDE00])])
      (.object [("name", .string "😀"), ("type", .string "DATE")]) :=
    .object (.cons (hmember "type" (hstring rfl)) (.cons (hmember "name" (hstring rfl)) .nil))
      (.swap ..)
  have hcolumns := Json.Denotes.array (.cons hfirst (.cons hsecond .nil))
  have hspelled : value.SpelledBy text :=
    ⟨_, .object (.cons (hmember "x" hx) (.cons (hmember "columns" hcolumns) .nil)) (.swap ..),
      Json.spells_of_lex (by decide +kernel)⟩
  have hannounces : value.Announces [("n", "BIGINT"), ("😀", "DATE")] :=
    .named rfl (.list (.cons (.listed "n" "BIGINT") (.cons (.named rfl rfl) .nil)))
  exact ⟨hspelled, hannounces, (parse_exactly_announced.1 value text hspelled).1 _ hannounces⟩

end ColumnSchema
end BatchBridge
