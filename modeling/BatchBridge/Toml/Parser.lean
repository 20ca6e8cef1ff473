import BatchBridge.Toml.DateTime
import BatchBridge.Toml.Section

/-!
# Reading TOML

A document is a sequence of lines: headers, keys with values, comments.  Everything that is read
goes into one tree of nodes right away, at the place that the last header has opened.

* `readKey` — a dotted key.
* `readValue` — a value.  Arrays and inline tables nest up to a fixed depth.
* `Document`, `readLines` — the lines.
* `parse` — the members of a whole document.
-/

namespace BatchBridge.Toml

/-! ## Blanks and keys -/

def skipBlanks (text : List Char) : List Char := text.dropWhile isBlank

/-- Skips a comment, if one is there, up to the end of its line. -/
def skipComment : List Char → List Char
  | '#' :: rest => rest.dropWhile isLineChar
  | text => text

/-- Skips a line end.  The end of the text is one too. -/
def readLineEnd : List Char → Option (List Char)
  | [] => some []
  | '\n' :: rest => some rest
  | '\r' :: '\n' :: rest => some rest
  | _ => none

/-- Skips the rest of a line that holds nothing but blanks and a comment. -/
def readTrailing (text : List Char) : Option (List Char) :=
  readLineEnd (skipComment (skipBlanks text))

/-- Skips blanks, line ends and comments, in a number of rounds of which each skips something. -/
def skipSpace : Nat → List Char → List Char
  | 0, text => text
  | rounds + 1, text =>
    let text := skipComment (skipBlanks text)
    match text with
    | '\n' :: rest => skipSpace rounds rest
    | '\r' :: '\n' :: rest => skipSpace rounds rest
    | _ => text

/-- A key without dots. -/
def readSimpleKey (text : List Char) : Option (String × List Char) :=
  match text with
  | '"' :: _ | '\'' :: _ => readShort text
  | _ =>
    let (key, rest) := text.span isKeyChar
    if key.isEmpty then none else some (String.ofList key, rest)

/-- The deepest nesting, of values and of dotted keys. -/
def maxDepth : Nat := 79

/-- A dotted key with at most `n` parts; there may be blanks around each. -/
def readKeyParts : Nat → List Char → Option (List String × List Char)
  | 0, _ => none
  | n + 1, text =>
    match readSimpleKey (skipBlanks text) with
    | none => none
    | some (key, rest) =>
      match skipBlanks rest with
      | '.' :: rest => (readKeyParts n rest).map fun (keys, rest) => (key :: keys, rest)
      | rest => some ([key], rest)

/-- A dotted key. -/
def readKey (text : List Char) : Option (List String × List Char) := readKeyParts maxDepth text

/-! ## Values -/

/-- A value that holds no others. -/
def readScalar (text : List Char) : Option (Toml × List Char) :=
  match text with
  | '"' :: _ | '\'' :: _ => (readText text).map fun (s, rest) => (.string s, rest)
  | 't' :: 'r' :: 'u' :: 'e' :: rest => some (.boolean true, rest)
  | 'f' :: 'a' :: 'l' :: 's' :: 'e' :: rest => some (.boolean false, rest)
  | _ =>
    match readDateTime text with
    | some (s, rest) => some (.dateTime s, rest)
    | none =>
      match readFloat text with
      | some (s, rest) => some (.float s, rest)
      | none => (readInteger text).map fun (n, rest) => (.integer n, rest)

/-- The elements of an array behind its bracket, in a number of rounds, one for each. -/
def readElements (element : List Char → Option (Toml × List Char)) :
    Nat → List Char → Option (List Toml × List Char)
  | 0, _ => none
  | rounds + 1, text =>
    match skipSpace text.length text with
    | ']' :: rest => some ([], rest)
    | text =>
      match element text with
      | none => none
      | some (value, rest) =>
        match skipSpace rest.length rest with
        | ',' :: rest =>
          (readElements element rounds rest).map fun (values, rest) => (value :: values, rest)
        | ']' :: rest => some ([value], rest)
        | _ => none

/-- A key, an equals sign and a value. -/
def readPair (element : List Char → Option (Toml × List Char)) (text : List Char) :
    Option ((List String × Toml) × List Char) :=
  match readKey text with
  | some (key, '=' :: rest) =>
    (element (skipBlanks rest)).map fun (value, rest) => ((key, value), rest)
  | _ => none

/-- The pairs of an inline table behind its brace, of which there is one at least. -/
def readPairs (element : List Char → Option (Toml × List Char)) :
    Nat → List Char → Option (List (List String × Toml) × List Char)
  | 0, _ => none
  | rounds + 1, text =>
    match readPair element text with
    | none => none
    | some (pair, rest) =>
      match skipBlanks rest with
      | ',' :: rest =>
        (readPairs element rounds rest).map fun (pairs, rest) => (pair :: pairs, rest)
      | '\x7d' :: rest => some ([pair], rest)
      | _ => none

/-- The table that pairs make up, if no two of them are at odds. -/
def tableOfPairs (pairs : List (List String × Toml)) : Option Toml :=
  (pairs.foldlM (fun nodes (key, value) => Node.assign value key nodes) []).map fun nodes =>
    .table (Node.nodesToMembers nodes)

/-- An inline table behind its brace. -/
def readInline (element : List Char → Option (Toml × List Char)) (text : List Char) :
    Option (Toml × List Char) :=
  match skipBlanks text with
  | '\x7d' :: rest => some (.table [], rest)
  | text =>
    match readPairs element text.length text with
    | none => none
    | some (pairs, rest) => (tableOfPairs pairs).map fun table => (table, rest)

/-- A value that holds others up to a depth. -/
def readValueTo : Nat → List Char → Option (Toml × List Char)
  | 0, text => readScalar text
  | depth + 1, text =>
    match text with
    | '[' :: rest =>
      (readElements (readValueTo depth) (rest.length + 1) rest).map fun (values, rest) =>
        (.array values, rest)
    | '\x7b' :: rest => readInline (readValueTo depth) rest
    | text => readScalar text

/-- A value. -/
def readValue (text : List Char) : Option (Toml × List Char) := readValueTo maxDepth text

/-! ## Lines -/

/-- A document that has been read up to some line. -/
structure Document where
  nodes : Node.Nodes
  /-- The last header. -/
  header : List String

/-- Takes in a key and its value. -/
def Document.assign (document : Document) (key : List String) (value : Toml) : Option Document :=
  (Node.changeAt (Node.assign value key) document.header document.nodes).map fun nodes =>
    { document with nodes }

/-- Takes in a header. -/
def Document.open (document : Document) (openLast : String → Node.Nodes → Option Node.Nodes)
    (header : List String) : Option Document :=
  match header.getLast? with
  | none => none
  | some key =>
    (Node.changeAt (openLast key) header.dropLast document.nodes).map fun nodes =>
      { nodes, header }

/-- A line that is neither blank nor a comment. -/
def readLine (document : Document) (text : List Char) : Option (Document × List Char) :=
  match text with
  | '[' :: '[' :: rest =>
    match readKey rest with
    | some (key, ']' :: ']' :: rest) => (document.open Node.openArray key).map (·, rest)
    | _ => none
  | '[' :: rest =>
    match readKey rest with
    | some (key, ']' :: rest) => (document.open Node.openTable key).map (·, rest)
    | _ => none
  | _ =>
    match readPair readValue text with
    | some ((key, value), rest) => (document.assign key value).map (·, rest)
    | none => none

/-- The lines of a document, in a number of rounds, one for each. -/
def readLines : Nat → Document → List Char → Option Document
  | 0, _, _ => none
  | rounds + 1, document, text =>
    match skipSpace text.length text with
    | [] => some document
    | text =>
      match readLine document text with
      | none => none
      | some (document, rest) =>
        match readTrailing rest with
        | none => none
        | some rest => readLines rounds document rest

/-- A mark at the start of a text that says how it is encoded. -/
def skipMark : List Char → List Char
  | '\ufeff' :: rest => rest
  | text => text

/-- The members of a document. -/
def parse (text : String) : Option Members :=
  let characters := skipMark text.toList
  (readLines (characters.length + 1) ⟨[], []⟩ characters).map fun document =>
    Node.nodesToMembers document.nodes

end BatchBridge.Toml
