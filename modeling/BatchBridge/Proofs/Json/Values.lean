import BatchBridge.Proofs.Json.Parsing
import BatchBridge.Schema.Text
import Mathlib.Data.List.Forall2

/-!
# What JSON texts mean

A tree keeps how its strings were escaped and in which order its members came.  Neither matters.

* `Text.Denotes` — the characters that the contents of a string stand for.  Half a surrogate pair
  stands for none.  **`Text.decode?_eq_some_iff`**: this is how the reader takes them.
* `Value` — a tree whose strings are texts.
* `Denotes` — a tree spells a value, up to the order of members.
* `Value.SpelledBy` — so does a text.
* `Value.Only` — a name that one member has.  **`onlyMember?_of_denotes`**: the reader finds it,
  wherever it stands.
-/

namespace BatchBridge.Json

/-! ## Strings -/

/-- Two codes that make a surrogate pair, and the character that they stand for. -/
structure SurrogatePair (high low : Nat) (c : Char) : Prop where
  high_range : 0xD800 ≤ high ∧ high < 0xDC00
  low_range : 0xDC00 ≤ low ∧ low < 0xE000
  toNat_eq : c.toNat = 0x10000 + (high - 0xD800) * 0x400 + (low - 0xDC00)

/-- The characters that the contents of a string stand for. -/
inductive Text.Denotes : Text → List Char → Prop where
  | nil : Denotes [] []
  | char {c : Char} {text : Text} {chars : List Char} : Denotes text chars →
      Denotes (.char c :: text) (c :: chars)
  | pair {high low : Nat} {c : Char} {text : Text} {chars : List Char} :
      SurrogatePair high low c → Denotes text chars →
      Denotes (.surrogate high :: .surrogate low :: text) (c :: chars)

theorem pair?_eq_some_iff {high low : Nat} {c : Char} :
    pair? high low = some c ↔ SurrogatePair high low c := by
  rw [pair?]
  constructor
  · intro h
    split_ifs at h with hrange
    obtain rfl := Option.some.inj h
    exact ⟨⟨hrange.1, hrange.2.1⟩, hrange.2.2, Utf8.toNat_char_ofNat (by omega)⟩
  · rintro ⟨hhigh, hlow, hc⟩
    rw [if_pos ⟨hhigh.1, hhigh.2, hlow.1, hlow.2⟩, ← hc, Char.ofNat_toNat]

theorem Text.decodeFrom_of_denotes {text : Text} {chars : List Char} (h : text.Denotes chars)
    (done : String) : decodeFrom done text = some (done ++ String.ofList chars) := by
  induction h generalizing done with
  | nil => simp [decodeFrom]
  | char _ ih =>
    rw [decodeFrom, ih]
    simp [← String.toList_inj]
  | pair hpair _ ih =>
    rw [decodeFrom, pair?_eq_some_iff.2 hpair]
    show decodeFrom _ _ = _
    rw [ih]
    simp [← String.toList_inj]

theorem Text.denotes_of_decodeFrom {text : Text} {done meant : String}
    (h : decodeFrom done text = some meant) :
    ∃ chars, text.Denotes chars ∧ meant = done ++ String.ofList chars := by
  fun_induction decodeFrom done text with
  | case1 done =>
    cases h
    exact ⟨[], .nil, by simp⟩
  | case2 done c text ih =>
    obtain ⟨chars, hchars, rfl⟩ := ih h
    exact ⟨c :: chars, .char hchars, by simp [← String.toList_inj]⟩
  | case3 done high low text c hpair ih =>
    obtain ⟨chars, hchars, rfl⟩ := ih h
    exact ⟨c :: chars, .pair (pair?_eq_some_iff.1 hpair) hchars, by simp [← String.toList_inj]⟩
  | case4 => cases h
  | case5 => cases h

/-- **A string is read as the characters that it stands for.** -/
theorem Text.decode?_eq_some_iff {text : Text} {meant : String} :
    text.decode? = some meant ↔ text.Denotes meant.toList := by
  rw [decode?]
  constructor
  · intro h
    obtain ⟨chars, hchars, rfl⟩ := denotes_of_decodeFrom h
    simpa using hchars
  · intro h
    rw [decodeFrom_of_denotes h]
    simp

/-! ## Values -/

/-- A tree whose strings are texts. -/
inductive Value where
  | null
  | bool (value : Bool)
  | number (digits : List Char)
  | string (text : String)
  | array (elements : List Value)
  | object (members : List (String × Value))

/-- A member whose key is a text and whose value is related to another one. -/
inductive MemberDenotes (R : Json → Value → Prop) : Text × Json → String × Value → Prop where
  | intro {key : Text} {name : String} {tree : Json} {value : Value} :
      key.Denotes name.toList → R tree value → MemberDenotes R (key, tree) (name, value)

/-- What a tree means.  The order of its members does not. -/
inductive Denotes : Json → Value → Prop where
  | null : Denotes .null .null
  | bool (b : Bool) : Denotes (.bool b) (.bool b)
  | number (digits : List Char) : Denotes (.number digits) (.number digits)
  | string {text : Text} {meant : String} : text.Denotes meant.toList →
      Denotes (.string text) (.string meant)
  | array {elements : List Json} {values : List Value} : List.Forall₂ Denotes elements values →
      Denotes (.array elements) (.array values)
  | object {members : List (Text × Json)} {listed values : List (String × Value)} :
      List.Forall₂ (MemberDenotes Denotes) members listed → listed.Perm values →
      Denotes (.object members) (.object values)

/-- A text that spells a value: with any blanks between its tokens, any order of members and any
escapes in its strings. -/
def Value.SpelledBy (value : Value) (text : String) : Prop :=
  ∃ tree : Json, tree.Denotes value ∧ Spells tree.tokens text.toList

/-- The name occurs once among the members, with this value. -/
def Value.Only (name : String) (members : List (String × Value)) (value : Value) : Prop :=
  members.filter (·.1 == name) = [(name, value)]

theorem string?_eq_some_iff {tree : Json} {value : Value} (h : tree.Denotes value)
    {text : String} : tree.string? = some text ↔ value = .string text := by
  cases h with
  | @string spelled meant hmeant =>
    rw [string?, Text.decode?_eq_some_iff.2 hmeant]
    simp [eq_comm]
  | _ => simp [string?]

/-! ## Members -/

/-- Members with their names as text, and what they denote. -/
def MembersDenote (named : List (String × Json)) (values : List (String × Value)) : Prop :=
  List.Forall₂ (fun member value => member.1 = value.1 ∧ member.2.Denotes value.2) named values

theorem namedMembers?_of_denotes {members : List (Text × Json)} {values : List (String × Value)}
    (h : List.Forall₂ (MemberDenotes Denotes) members values) :
    ∃ named, namedMembers? members = some named ∧ MembersDenote named values := by
  induction h with
  | nil => exact ⟨[], rfl, .nil⟩
  | cons hmember _ ih =>
    obtain ⟨named, hnamed, hdenote⟩ := ih
    obtain ⟨hkey, hvalue⟩ := hmember
    refine ⟨(_, _) :: named, ?_, .cons ⟨rfl, hvalue⟩ hdenote⟩
    simp only [namedMembers?, Text.decode?_eq_some_iff.2 hkey, hnamed]

/-- **The only member with a name is found**, and it is the one with that name in every order. -/
theorem onlyMember?_of_denotes {named : List (String × Json)}
    {listed values : List (String × Value)} (h : MembersDenote named listed)
    (hperm : listed.Perm values) (name : String) :
    (∃ tree value, onlyMember? name named = some tree ∧ Value.Only name values value ∧
        tree.Denotes value) ∨
      onlyMember? name named = none ∧ ∀ value, ¬Value.Only name values value := by
  have hfilter : MembersDenote (named.filter (·.1 == name)) (listed.filter (·.1 == name)) :=
    List.rel_filter (fun _ _ hmember => by simp [hmember.1]) h
  have hfilterPerm := hperm.filter (·.1 == name)
  rw [onlyMember?]
  generalize named.filter (·.1 == name) = found at hfilter
  generalize hlisted : listed.filter (·.1 == name) = wanted at hfilter hfilterPerm
  have hlength : ∀ value, Value.Only name values value → wanted.length = 1 := fun value honly => by
    rw [Value.Only] at honly
    rw [honly] at hfilterPerm
    exact hfilterPerm.length_eq
  cases hfilter with
  | nil => exact .inr ⟨rfl, fun value honly => absurd (hlength value honly) (by simp)⟩
  | @cons member value found wanted hmember hrest =>
    cases hrest with
    | nil =>
      have hname : value.1 = name := by
        have hmem : value ∈ listed.filter (·.1 == name) := by simp [hlisted]
        simpa using (List.mem_filter.1 hmem).2
      refine .inl ⟨member.2, value.2, rfl, ?_, hmember.2⟩
      rw [Value.Only, ← List.singleton_perm.1 hfilterPerm, ← hname]
    | cons => exact .inr ⟨rfl, fun value honly => absurd (hlength value honly) (by simp)⟩

/-- What is read off the only member with a name is what its value denotes, if the reader of values
does so. -/
theorem bind_onlyMember?_eq_some_iff {α : Type} {read : Json → Option α} {Means : Value → α → Prop}
    (hread : ∀ {tree : Json} {value : Value}, tree.Denotes value →
      ∀ a, read tree = some a ↔ Means value a)
    {named : List (String × Json)} {listed values : List (String × Value)}
    (h : MembersDenote named listed) (hperm : listed.Perm values) (name : String) (a : α) :
    (onlyMember? name named).bind read = some a ↔
      ∃ value, Value.Only name values value ∧ Means value a := by
  rcases onlyMember?_of_denotes h hperm name with
    ⟨tree, value, hfound, honly, hdenotes⟩ | ⟨hfound, hnone⟩
  · rw [hfound]
    constructor
    · exact fun hsome => ⟨value, honly, (hread hdenotes a).1 hsome⟩
    · rintro ⟨other, hother, hmeans⟩
      rw [Value.Only] at honly hother
      rw [honly] at hother
      cases hother
      exact (hread hdenotes a).2 hmeans
  · rw [hfound]
    constructor
    · exact fun hsome => by cases hsome
    · rintro ⟨value, honly, -⟩
      exact absurd honly (hnone value)

end BatchBridge.Json
