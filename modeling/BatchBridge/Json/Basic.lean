/-!
# JSON values

* `Json` — a JSON text as a tree.  Members keep their order and may repeat, and numbers keep their
  spelling: what a tree means is up to its reader.
* `Json.Unit`, `Json.Text` — strings as they are written.  An escape can name half of a surrogate
  pair, so a string is a list of units, and **`Json.Text.decode?`** tells whether it is text.
* `Json.Token` and `Json.tokens` — the tokens of a tree, which determine it.
-/

namespace BatchBridge

namespace Json

/-- What one character or escape of a string contributes. -/
inductive Unit where
  | char (c : Char)
  /-- One half of a surrogate pair, from an escape such as `\ud83d`. -/
  | surrogate (code : Nat)
  deriving DecidableEq, Repr

/-- The contents of a string. -/
abbrev Text := List Unit

/-- The unit that a four-digit escape stands for. -/
def Unit.ofCode (code : Nat) : Unit :=
  if 0xD800 ≤ code ∧ code < 0xE000 then .surrogate code else .char (Char.ofNat code)

/-- The character of a surrogate pair, if the two halves make one. -/
def pair? (high low : Nat) : Option Char :=
  if 0xD800 ≤ high ∧ high < 0xDC00 ∧ 0xDC00 ≤ low ∧ low < 0xE000 then
    some (Char.ofNat (0x10000 + (high - 0xD800) * 0x400 + (low - 0xDC00)))
  else none

/-- Reads on after the text `done`. -/
def Text.decodeFrom (done : String) : Text → Option String
  | [] => some done
  | .char c :: rest => decodeFrom (done.push c) rest
  | .surrogate high :: .surrogate low :: rest =>
    match pair? high low with
    | some c => decodeFrom (done.push c) rest
    | none => none
  | .surrogate _ :: _ => none

/-- The text a string stands for, unless one half of a pair stands alone. -/
def Text.decode? (text : Text) : Option String := decodeFrom "" text

/-- A text as the contents of a string. -/
def Text.ofString (text : String) : Text := text.toList.map Unit.char

end Json

/-- A JSON text as a tree. -/
inductive Json where
  | null
  | bool (value : Bool)
  | number (digits : List Char)
  | string (text : Json.Text)
  | array (elements : List Json)
  | object (members : List (Json.Text × Json))

namespace Json

/-- The lexical elements of JSON. -/
inductive Token where
  | openBrace
  | closeBrace
  | openBracket
  | closeBracket
  | comma
  | colon
  | null
  | bool (value : Bool)
  | number (digits : List Char)
  | string (text : Text)
  deriving DecidableEq, Repr

mutual

/-- The tokens of a tree. -/
def tokens : Json → List Token
  | .null => [.null]
  | .bool value => [.bool value]
  | .number digits => [.number digits]
  | .string text => [.string text]
  | .array elements => .openBracket :: elementTokens elements ++ [.closeBracket]
  | .object members => .openBrace :: memberTokens members ++ [.closeBrace]

/-- The tokens of the elements of a list, with commas between them. -/
def elementTokens : List Json → List Token
  | [] => []
  | [element] => element.tokens
  | element :: next :: rest => element.tokens ++ .comma :: elementTokens (next :: rest)

/-- The tokens of the members of an object, with commas between them. -/
def memberTokens : List (Text × Json) → List Token
  | [] => []
  | [(key, value)] => .string key :: .colon :: value.tokens
  | (key, value) :: next :: rest =>
    .string key :: .colon :: value.tokens ++ .comma :: memberTokens (next :: rest)

end

end Json
end BatchBridge
