import BatchBridge.Proofs.Toml.Numbers

/-!
# Documents read back

What is written for a document of plain values and tables of plain values is read as that document,
whatever its keys and strings are.

* `IsScalar`, `IsSection` — the values that stand in a line, and the tables that stand under a
  header.
* **`readValue_inlineText`** — a value in its line is read back.
* `Reads` — what a text does to the document that has been read before it.
  **`reads_memberLines`**, **`reads_underHeader`**: lines add their members, and a header its table.
* **`parse_render`** — a whole document.
-/

namespace BatchBridge.Toml

/-! ## Values in their lines -/

/-- A value that is written as one word. -/
def IsScalar : Toml → Prop
  | .string _ | .integer _ | .boolean _ => True
  | .float _ | .dateTime _ | .array _ | .table _ => False

/-- A table that is written under a header. -/
def IsSection : Toml → Prop
  | .table members => (members.map (·.1)).Nodup ∧ ∀ member ∈ members, IsScalar member.2
  | _ => False

/-- A value begins like one. -/
theorem exists_inlineText {value : Toml} (h : IsScalar value) :
    ∃ c more, (inlineText value).toList = c :: more ∧ isStart c = true := by
  cases value with
  | string text =>
    obtain ⟨c, more, htext, hc⟩ := exists_quoted text
    exact ⟨c, more, by rw [inlineText, htext], isStart_of_isQuote hc⟩
  | integer n =>
    obtain ⟨c, more, htext, hdigit | rfl⟩ := exists_toString n
    · exact ⟨c, more, by rw [inlineText, htext], isStart_of_isKeyChar (isKeyChar_of_isDigit hdigit)⟩
    · exact ⟨'-', more, by rw [inlineText, htext], rfl⟩
  | boolean b => cases b <;> exact ⟨_, _, rfl, rfl⟩
  | float _ | dateTime _ | array _ | table _ => exact h.elim

/-- An integer begins neither like a string nor like a truth value, and it is tried last. -/
theorem readScalar_toString (n : Int64) (rest : List Char) :
    readScalar ((toString n.toInt).toList ++ '\n' :: rest) = some (.integer n, '\n' :: rest) := by
  have hhead : ∀ {d more}, (toString n.toInt).toList ++ '\n' :: rest = d :: more →
      d.isDigit = true ∨ d = '-' := by
    intro d more heq
    obtain ⟨c, behind, htext, hc⟩ := exists_toString n
    rw [htext] at heq
    exact List.head_eq_of_cons_eq heq ▸ hc
  unfold readScalar
  split
  · rename_i heq
    exact absurd (hhead heq) (by decide)
  · rename_i heq
    exact absurd (hhead heq) (by decide)
  · rename_i heq
    exact absurd (hhead heq) (by decide)
  · rename_i heq
    exact absurd (hhead heq) (by decide)
  · simp only [readDateTime_toString, readFloat_toString, readInteger_toString, Option.map_some]

theorem readScalar_inlineText {value : Toml} (h : IsScalar value) (rest : List Char) :
    readScalar ((inlineText value).toList ++ '\n' :: rest) = some (value, '\n' :: rest) := by
  cases value with
  | string text =>
    have htext : readText ((quoted text).toList ++ '\n' :: rest) = some (text, '\n' :: rest) :=
      readText_quoted text (by simp) (by simp)
    obtain ⟨c, more, hquote, rfl | rfl⟩ := exists_quoted text
    all_goals
      rw [hquote, List.cons_append] at htext
      rw [inlineText, hquote, List.cons_append]
      simp only [readScalar, htext, Option.map_some]
  | integer n => exact readScalar_toString n rest
  | boolean b => cases b <;> rfl
  | float _ | dateTime _ | array _ | table _ => exact h.elim

/-- A text that begins neither an array nor an inline table holds a scalar. -/
theorem readValueTo_eq_readScalar {c : Char} (h : isStart c = true) (depth : Nat)
    (more : List Char) : readValueTo depth (c :: more) = readScalar (c :: more) := by
  have hbracket : c ≠ '[' := ne_of_isStart h (by decide)
  have hbrace : c ≠ '\x7b' := ne_of_isStart h (by decide)
  cases depth with
  | zero => rfl
  | succ depth => simp [readValueTo, hbracket, hbrace]

/-- A value in its line is read back. -/
theorem readValue_inlineText {value : Toml} (h : IsScalar value) (rest : List Char) :
    readValue ((inlineText value).toList ++ '\n' :: rest) = some (value, '\n' :: rest) := by
  rw [← readScalar_inlineText h rest]
  obtain ⟨c, more, htext, hc⟩ := exists_inlineText h
  rw [htext]
  exact readValueTo_eq_readScalar hc _ _

/-- A key with its value is read back. -/
theorem readPair_line (key : String) {value : Toml} (h : IsScalar value) (rest : List Char) :
    readPair readValue
        ((keyText key).toList ++ ' ' :: '=' :: ' ' :: ((inlineText value).toList ++ '\n' :: rest)) =
      some (([key], value), '\n' :: rest) := by
  have hkey := readKey_keyText key
    (' ' :: '=' :: ' ' :: ((inlineText value).toList ++ '\n' :: rest)) rfl
    (by simp [skipBlanks, isBlank])
  have hequals : skipBlanks (' ' :: '=' :: ' ' :: ((inlineText value).toList ++ '\n' :: rest)) =
      '=' :: ' ' :: ((inlineText value).toList ++ '\n' :: rest) := rfl
  have hblank : skipBlanks (' ' :: ((inlineText value).toList ++ '\n' :: rest)) =
      (inlineText value).toList ++ '\n' :: rest := by
    obtain ⟨c, more, htext, hc⟩ := exists_inlineText h
    rw [skipBlanks_blank, htext]
    exact skipBlanks_start hc _
  simp only [readPair, hkey, hequals, hblank, readValue_inlineText h, Option.map_some]

/-! ## Lines -/

/-- What a text does to the document that has been read before it. -/
def Reads (text : List Char) (document after : Document) : Prop :=
  ∀ rest rounds, (text ++ rest).length < rounds →
    ∃ left, rest.length < left ∧
      readLines rounds document (text ++ rest) = readLines left after rest

theorem reads_nil (document : Document) : Reads [] document document :=
  fun _ rounds hrounds => ⟨rounds, hrounds, rfl⟩

theorem Reads.append {first second : List Char} {document between after : Document}
    (hfirst : Reads first document between) (hsecond : Reads second between after) :
    Reads (first ++ second) document after := by
  intro rest rounds hrounds
  rw [List.append_assoc] at hrounds ⊢
  obtain ⟨left, hleft, heq⟩ := hfirst (second ++ rest) rounds hrounds
  obtain ⟨last, hlast, heq'⟩ := hsecond rest left hleft
  exact ⟨last, hlast, heq.trans heq'⟩

/-- A text that has been read is a document. -/
theorem Reads.readLines {text : List Char} {document after : Document}
    (h : Reads text document after) : readLines (text.length + 1) document text = some after := by
  obtain ⟨left, hleft, heq⟩ := h [] (text.length + 1) (by simp)
  obtain ⟨more, rfl⟩ : ∃ more, left = more + 1 := ⟨left - 1, by simp at hleft; omega⟩
  rw [List.append_nil] at heq
  rw [heq]
  rfl

/-- An empty line changes nothing. -/
theorem reads_feed (document : Document) : Reads ['\n'] document document := by
  intro rest rounds hrounds
  refine ⟨rounds, by simp at hrounds; omega, ?_⟩
  cases rounds with
  | zero => rfl
  | succ rounds => rfl

/-- Nothing is skipped in front of a key or a header. -/
theorem skipSpace_of_ne {c : Char} (hblank : isBlank c = false) (hcomment : c ≠ '#')
    (hfeed : c ≠ '\n') (hreturn : c ≠ '\r') (rounds : Nat) (more : List Char) :
    skipSpace rounds (c :: more) = c :: more := by
  cases rounds with
  | zero => rfl
  | succ rounds => simp [skipSpace, skipBlanks, hblank, skipComment, hcomment, hfeed, hreturn]

/-- A line of a document is read, and its end is skipped. -/
theorem reads_line {line : List Char} {document after : Document} (hne : line ≠ [])
    (hskip : ∀ rounds rest, skipSpace rounds (line ++ rest) = line ++ rest)
    (hline : ∀ rest, readLine document (line ++ '\n' :: rest) = some (after, '\n' :: rest)) :
    Reads (line ++ ['\n']) document after := by
  intro rest rounds hrounds
  obtain ⟨left, rfl⟩ : ∃ left, rounds = left + 1 := ⟨rounds - 1, by omega⟩
  obtain ⟨c, more, rfl⟩ := List.exists_cons_of_ne_nil hne
  refine ⟨left, by simp at hrounds; omega, ?_⟩
  have htrailing : readTrailing ('\n' :: rest) = some rest := rfl
  have htext : c :: more ++ ['\n'] ++ rest = c :: more ++ '\n' :: rest := by simp
  rw [htext, Toml.readLines, hskip]
  simp only [List.cons_append] at hline ⊢
  simp only [hline, htrailing]

/-- A key with its value adds the value. -/
theorem reads_pair {document after : Document} {key : String} {value : Toml} (h : IsScalar value)
    (hassign : document.assign [key] value = some after) :
    Reads ((keyText key).toList ++ ' ' :: '=' :: ' ' :: (inlineText value).toList ++ ['\n'])
      document after := by
  obtain ⟨c, more, htext, hc⟩ := exists_keyText key
  refine reads_line (by simp) ?_ ?_
  · intro rounds rest
    rw [htext]
    exact skipSpace_of_ne (isBlank_of_isStart hc) (ne_of_isStart hc (by decide))
      (ne_of_isStart hc (by decide)) (ne_of_isStart hc (by decide)) _ _
  · intro rest
    have hpair := readPair_line key h rest
    rw [htext] at hpair ⊢
    have hbracket : c ≠ '[' := ne_of_isStart hc (by decide)
    simp only [List.cons_append, List.append_assoc] at hpair ⊢
    simp [readLine, hbracket, hpair, hassign]

/-- A header opens its table. -/
theorem reads_header {document after : Document} {key : String}
    (hopen : document.open Node.openTable [key] = some after) :
    Reads ('[' :: (keyText key).toList ++ [']'] ++ ['\n']) document after := by
  refine reads_line (by simp) ?_ ?_
  · intro rounds rest
    exact skipSpace_of_ne rfl (by decide) (by decide) (by decide) _ _
  · intro rest
    have hkey := readKey_keyText key (']' :: '\n' :: rest) rfl
      (by simp [skipBlanks, isBlank])
    have hbracket : skipBlanks (']' :: '\n' :: rest) = ']' :: '\n' :: rest := rfl
    obtain ⟨c, more, htext, hc⟩ := exists_keyText key
    have hne : c ≠ '[' := ne_of_isStart hc (by decide)
    rw [hbracket, htext] at hkey
    rw [htext]
    simp only [List.cons_append, List.append_assoc, List.nil_append] at hkey ⊢
    simp [readLine, hne, hkey, hopen]

/-! ## Members -/

/-- Values as what their keys stand for. -/
def valueNodes (members : Members) : Node.Nodes :=
  members.map fun member => (member.1, .value member.2)

/-- Documents that differ in the table to which lines add. -/
def Adds (place : Node.Nodes → Document) : Prop :=
  ∀ key value nodes, (place nodes).assign [key] value =
    (Node.insertNew key (.value value) nodes).map place

theorem adds_top : Adds fun nodes => ⟨nodes, []⟩ := fun _ _ _ => rfl

theorem lookup_of_fresh {α : Type} {key : String} {entries : List (String × α)}
    (h : key ∉ entries.map (·.1)) : entries.lookup key = none := by
  refine List.lookup_eq_none_iff.mpr fun entry hentry => bne_iff_ne.mpr fun heq => h ?_
  exact heq ▸ List.mem_map_of_mem hentry

theorem insertNew_of_fresh {key : String} {nodes : Node.Nodes} (h : key ∉ nodes.map (·.1))
    (node : Node) : Node.insertNew key node nodes = some (nodes ++ [(key, node)]) := by
  have hany : nodes.any (·.1 = key) = false := by
    rw [List.any_eq_false]
    intro old hold heq
    exact h (of_decide_eq_true heq ▸ List.mem_map_of_mem hold)
  simp [Node.insertNew, hany]

theorem replace_of_fresh {key : String} {nodes : Node.Nodes} (h : key ∉ nodes.map (·.1))
    (node : Node) : Node.replace key node nodes = nodes := by
  refine (List.map_congr_left fun entry hentry => ?_).trans (List.map_id nodes)
  have hne : entry.1 ≠ key := fun heq => h (heq ▸ List.mem_map_of_mem hentry)
  exact if_neg hne

theorem replace_last {key : String} {before : Node.Nodes} (h : key ∉ before.map (·.1))
    (old node : Node) :
    Node.replace key node (before ++ [(key, old)]) = before ++ [(key, node)] := by
  have hbefore := replace_of_fresh h node
  rw [Node.replace] at hbefore ⊢
  rw [List.map_append, hbefore]
  simp

/-- Lines under a header add to its table. -/
theorem adds_section {key : String} {before : Node.Nodes} (h : key ∉ before.map (·.1)) :
    Adds fun nodes => ⟨before ++ [(key, .table .header nodes)], [key]⟩ := by
  intro name value nodes
  have hlookup : (before ++ [(key, Node.table .header nodes)]).lookup key =
      some (.table .header nodes) := by
    simp [List.lookup_append, lookup_of_fresh h]
  cases hinsert : Node.insertNew name (.value value) nodes with
  | none => simp [Document.assign, Node.changeAt, hlookup, Node.assign, hinsert]
  | some inner =>
    simp [Document.assign, Node.changeAt, hlookup, Node.assign, hinsert, replace_last h]

/-- The lines of a table, from its first member on. -/
theorem toList_memberLines_cons (key : String) (value : Toml) (members : Members) :
    (memberLines ((key, value) :: members)).toList =
      (keyText key).toList ++ ' ' :: '=' :: ' ' :: (inlineText value).toList ++ ['\n'] ++
        (memberLines members).toList := by
  simp [memberLines, memberTexts, String.join_cons]

/-- The lines of a table add its members. -/
theorem reads_memberLines {place : Node.Nodes → Document} (hplace : Adds place) {members : Members}
    (hscalars : ∀ member ∈ members, IsScalar member.2) (nodes : Node.Nodes)
    (hkeys : (nodes.map (·.1) ++ members.map (·.1)).Nodup) :
    Reads (memberLines members).toList (place nodes) (place (nodes ++ valueNodes members)) := by
  induction members generalizing nodes with
  | nil => simpa [memberLines, memberTexts, valueNodes] using reads_nil (place nodes)
  | cons member members ih =>
    obtain ⟨key, value⟩ := member
    obtain ⟨hscalar, hrest⟩ := List.forall_mem_cons.mp hscalars
    have hfresh : key ∉ nodes.map (·.1) := fun hmem =>
      (List.nodup_append.mp hkeys).2.2 key hmem key (by simp) rfl
    have hassign : (place nodes).assign [key] value =
        some (place (nodes ++ [(key, .value value)])) := by
      rw [hplace, insertNew_of_fresh hfresh, Option.map_some]
    have hmore : ((nodes ++ [(key, Node.value value)]).map (·.1) ++ members.map (·.1)).Nodup := by
      simpa using hkeys
    rw [toList_memberLines_cons]
    simpa [valueNodes] using (reads_pair hscalar hassign).append (ih hrest _ hmore)

/-! ## Tables -/

/-- A table as what its key stands for. -/
def sectionNode : Toml → Node
  | .table members => .table .header (valueNodes members)
  | value => .value value

/-- Tables as what their keys stand for. -/
def sectionNodes (tables : Members) : Node.Nodes :=
  tables.map fun table => (table.1, sectionNode table.2)

/-- A header and the lines below it add a table. -/
theorem reads_underHeader {key : String} {value : Toml} (hsection : IsSection value)
    {before : Node.Nodes} (hfresh : key ∉ before.map (·.1)) (header : List String) :
    Reads (underHeader key value).toList ⟨before, header⟩
      ⟨before ++ [(key, sectionNode value)], [key]⟩ := by
  cases value with
  | table members =>
    obtain ⟨hkeys, hscalars⟩ := hsection
    have hopen : (Document.mk before header).open Node.openTable [key] =
        some ⟨before ++ [(key, .table .header [])], [key]⟩ := by
      simp [Document.open, Node.changeAt, Node.openTable, lookup_of_fresh hfresh]
    have hlines := reads_memberLines (adds_section hfresh) hscalars []
      (by simpa using hkeys)
    have htext : (underHeader key (.table members)).toList =
        ['\n'] ++ ('[' :: (keyText key).toList ++ [']'] ++ ['\n']) ++
          (memberLines members).toList := by
      simp [underHeader]
    rw [htext]
    exact ((reads_feed _).append (reads_header hopen)).append hlines
  | string _ | integer _ | float _ | boolean _ | dateTime _ | array _ => exact hsection.elim

/-- Headers and the lines below them add their tables. -/
theorem reads_sections {tables : Members} (hsections : ∀ table ∈ tables, IsSection table.2)
    (before : Node.Nodes) (hkeys : (before.map (·.1) ++ tables.map (·.1)).Nodup)
    (header : List String) :
    ∃ last, Reads (String.join (tables.map fun (key, value) => underHeader key value)).toList
      ⟨before, header⟩ ⟨before ++ sectionNodes tables, last⟩ := by
  induction tables generalizing before header with
  | nil => exact ⟨header, by simpa [sectionNodes] using reads_nil _⟩
  | cons table tables ih =>
    obtain ⟨key, value⟩ := table
    obtain ⟨hsection, hrest⟩ := List.forall_mem_cons.mp hsections
    have hfresh : key ∉ before.map (·.1) := fun hmem =>
      (List.nodup_append.mp hkeys).2.2 key hmem key (by simp) rfl
    obtain ⟨last, hmore⟩ := ih hrest (before ++ [(key, sectionNode value)])
      (by simpa using hkeys) [key]
    refine ⟨last, ?_⟩
    simpa [String.join_cons, sectionNodes] using
      (reads_underHeader hsection hfresh header).append hmore

/-! ## Documents -/

theorem nodesToMembers_append (first second : Node.Nodes) :
    Node.nodesToMembers (first ++ second) =
      Node.nodesToMembers first ++ Node.nodesToMembers second := by
  induction first with
  | nil => rfl
  | cons node first ih => simp [Node.nodesToMembers, ih]

theorem nodesToMembers_valueNodes (members : Members) :
    Node.nodesToMembers (valueNodes members) = members := by
  induction members with
  | nil => rfl
  | cons member members ih =>
    rw [valueNodes] at ih
    simp [valueNodes, Node.nodesToMembers, Node.toToml, ih]

theorem toToml_sectionNode (value : Toml) : (sectionNode value).toToml = value := by
  cases value with
  | table members => simp [sectionNode, Node.toToml, nodesToMembers_valueNodes]
  | string _ | integer _ | float _ | boolean _ | dateTime _ | array _ =>
    simp [sectionNode, Node.toToml]

theorem nodesToMembers_sectionNodes (tables : Members) :
    Node.nodesToMembers (sectionNodes tables) = tables := by
  induction tables with
  | nil => rfl
  | cons table tables ih =>
    rw [sectionNodes] at ih
    simp [sectionNodes, Node.nodesToMembers, toToml_sectionNode, ih]

/-- No document begins with the mark of an encoding. -/
theorem skipMark_of_ne {text : List Char} (h : text.head? ≠ some '\ufeff') :
    skipMark text = text := by
  unfold skipMark
  split
  · exact absurd rfl h
  · rfl

theorem isTable_of_isScalar {value : Toml} (h : IsScalar value) : isTable value = false := by
  cases value with
  | table _ => exact h.elim
  | string _ | integer _ | float _ | boolean _ | dateTime _ | array _ => rfl

theorem isTable_of_isSection {value : Toml} (h : IsSection value) : isTable value = true := by
  cases value with
  | table _ => rfl
  | string _ | integer _ | float _ | boolean _ | dateTime _ | array _ => exact h.elim

theorem underHeader_of_isScalar {value : Toml} (h : IsScalar value) (key : String) :
    underHeader key value = "" := by
  cases value with
  | table _ => exact h.elim
  | string _ | integer _ | float _ | boolean _ | dateTime _ | array _ => rfl

/-- A document is written as its lines and its tables. -/
theorem render_append {values tables : Members} (hvalues : ∀ value ∈ values, IsScalar value.2)
    (htables : ∀ table ∈ tables, IsSection table.2) :
    render (values ++ tables) =
      memberLines values ++
        String.join (tables.map fun (key, value) => underHeader key value) := by
  have hlines : (values ++ tables).filter (fun (_, value) => !isTable value) = values := by
    rw [List.filter_append, List.filter_eq_self.mpr, List.filter_eq_nil_iff.mpr, List.append_nil]
    · intro table htable
      simp [isTable_of_isSection (htables table htable)]
    · intro value hvalue
      simp [isTable_of_isScalar (hvalues value hvalue)]
  have hempty : String.join (values.map fun (key, value) => underHeader key value) = "" := by
    rw [← String.toList_inj, String.toList_join]
    simp only [List.flatMap_map, List.flatMap_eq_nil_iff, String.toList_eq_nil_iff,
      String.toList_empty]
    intro value hvalue
    exact underHeader_of_isScalar (hvalues value hvalue) value.1
  rw [render, hlines, List.map_append, String.join_append, hempty, String.empty_append]

/-- What is written does not begin with the mark of an encoding. -/
theorem head?_render {values tables : Members} (hvalues : ∀ value ∈ values, IsScalar value.2)
    (htables : ∀ table ∈ tables, IsSection table.2) :
    (render (values ++ tables)).toList.head? ≠ some '\ufeff' := by
  rw [render_append hvalues htables]
  cases values with
  | cons value values =>
    obtain ⟨c, more, htext, hc⟩ := exists_keyText value.1
    rw [String.toList_append, toList_memberLines_cons, htext]
    simpa using ne_of_isStart hc (by decide)
  | nil =>
    cases tables with
    | nil => simp [memberLines, memberTexts]
    | cons table tables =>
      obtain ⟨key, value⟩ := table
      cases value with
      | table members => simp [memberLines, memberTexts, String.join_cons, underHeader]
      | string _ | integer _ | float _ | boolean _ | dateTime _ | array _ =>
        exact (htables _ List.mem_cons_self).elim

/-- What is written for a document is read as that document. -/
theorem parse_render {values tables : Members} (hvalues : ∀ value ∈ values, IsScalar value.2)
    (htables : ∀ table ∈ tables, IsSection table.2)
    (hkeys : (values.map (·.1) ++ tables.map (·.1)).Nodup) :
    parse (render (values ++ tables)) = some (values ++ tables) := by
  have hlines := reads_memberLines adds_top hvalues [] (List.nodup_append.mp hkeys).1
  have hnodes : (([] : Node.Nodes) ++ valueNodes values).map (·.1) = values.map (·.1) := by
    simp [valueNodes]
  obtain ⟨last, hsections⟩ :=
    reads_sections htables ([] ++ valueNodes values) (by rwa [hnodes]) []
  have hall := (hlines.append hsections).readLines
  rw [← String.toList_append, ← render_append hvalues htables] at hall
  simp only [parse, skipMark_of_ne (head?_render hvalues htables), hall, Option.map_some,
    nodesToMembers_append, nodesToMembers_valueNodes, nodesToMembers_sectionNodes, List.nil_append]

end BatchBridge.Toml
