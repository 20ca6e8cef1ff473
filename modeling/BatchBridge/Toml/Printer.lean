import BatchBridge.Toml.Text
import BatchBridge.Toml.Basic

/-!
# Writing TOML

A document is written with its plain values first, a line each, and then its tables, each under a
header with an empty line before it.  Strings are written to be read: without escapes where that is
possible, and over several lines where they have line ends.

* `TextForm`, `textForm` — the ways to write a string, and the one that is taken.
* `writeText` — a string written in one of them.
* `quoted`, `quotedLine` — a string as a value, and as a key, which has to be on one line.
* `inlineText` — a value where it stands.
* `render` — a document whose tables hold no further tables.
-/

namespace BatchBridge.Toml

/-! ## Strings -/

/-- The ways to write a string: between double quotes, with escapes, or single ones, as it is; and
between one of them each, on one line, or three. -/
inductive TextForm where
  | basic
  | literal
  | longBasic
  | longLiteral
  deriving DecidableEq, Repr

/-- Whether a character can only be written as an escape. -/
def isCode (c : Char) : Bool := c ≠ '\n' && !isLineChar c

/-- Whether there are never more than so many quotes in a row, where `run` of them stand in front of
the characters. -/
def runsWithin (quote : Char) (most : Nat) : Nat → List Char → Bool
  | _, [] => true
  | run, c :: rest =>
    if c = quote then run < most && runsWithin quote most (run + 1) rest
    else runsWithin quote most 0 rest

/-- How a string is written: on one line and without escapes if that is possible, over several lines
if not, and with escapes if it has to be. -/
def textForm (chars : List Char) : TextForm :=
  let codes := chars.any isCode
  let slash := chars.contains '\\'
  let feed := chars.contains '\n'
  if !codes && !slash && !feed && runsWithin '"' 0 0 chars then .basic
  else if !codes && !feed && runsWithin '\'' 0 0 chars then .literal
  else if !codes && !slash && runsWithin '"' 2 0 chars then .longBasic
  else if !codes && runsWithin '\'' 2 0 chars then .longLiteral
  else if feed then .longBasic
  else .basic

/-- How a string is written that has to be on one line. -/
def lineForm (chars : List Char) : TextForm :=
  if textForm chars = .literal then .literal else .basic

/-- A digit of a code point. -/
def upperHexDigit (n : Nat) : Char := if n < 10 then Char.ofNat (48 + n) else Char.ofNat (55 + n)

/-- A character between double quotes.  Control characters cannot stand for themselves. -/
def quotedChar (c : Char) : List Char :=
  if c = '"' then ['\\', '"']
  else if c = '\\' then ['\\', '\\']
  else if c = '\x08' then ['\\', 'b']
  else if c = '\t' then ['\\', 't']
  else if c = '\n' then ['\\', 'n']
  else if c = '\x0c' then ['\\', 'f']
  else if c = '\r' then ['\\', 'r']
  else if isLineChar c then [c]
  else
    ['\\', 'u', '0', '0', upperHexDigit (c.toNat / 16 % 16), upperHexDigit (c.toNat % 16)]

/-- The characters between three double quotes, behind `run` quotes.  Line ends stand for themselves
there, and so do two quotes in a row. -/
def longChars : Nat → List Char → List Char
  | _, [] => []
  | run, c :: rest =>
    if c = '"' then
      if run < 2 then '"' :: longChars (run + 1) rest else '\\' :: '"' :: longChars 0 rest
    else if c = '\n' then '\n' :: longChars 0 rest
    else quotedChar c ++ longChars 0 rest

/-- A string that has line ends begins on a line of its own. -/
def leadFeed (chars : List Char) : List Char := if chars.contains '\n' then ['\n'] else []

/-- A string. -/
def writeText (form : TextForm) (chars : List Char) : List Char :=
  match form with
  | .basic => '"' :: (chars.flatMap quotedChar ++ ['"'])
  | .literal => '\'' :: (chars ++ ['\''])
  | .longBasic =>
    '"' :: '"' :: '"' :: (leadFeed chars ++ (longChars 0 chars ++ ['"', '"', '"']))
  | .longLiteral => '\'' :: '\'' :: '\'' :: (leadFeed chars ++ (chars ++ ['\'', '\'', '\'']))

/-- A string as a value. -/
def quoted (text : String) : String :=
  String.ofList (writeText (textForm text.toList) text.toList)

/-- A string on one line. -/
def quotedLine (text : String) : String :=
  String.ofList (writeText (lineForm text.toList) text.toList)

/-- A key, between quotes if it has to be. -/
def keyText (key : String) : String :=
  if !key.isEmpty && key.toList.all isKeyChar then key else quotedLine key

/-! ## Documents -/

mutual

/-- A value where it stands. -/
def inlineText : Toml → String
  | .string text => quoted text
  | .integer n => toString n.toInt
  | .float text => text
  | .boolean b => if b then "true" else "false"
  | .dateTime text => text
  | .array elements => "[" ++ ", ".intercalate (elementTexts elements) ++ "]"
  | .table members => "\x7b" ++ ", ".intercalate (memberTexts members) ++ "\x7d"

/-- The elements of an array. -/
def elementTexts : List Toml → List String
  | [] => []
  | value :: rest => inlineText value :: elementTexts rest

/-- The members of a table, as pairs. -/
def memberTexts : List (String × Toml) → List String
  | [] => []
  | (key, value) :: rest => (keyText key ++ " = " ++ inlineText value) :: memberTexts rest

end

/-- A line for each member of a table. -/
def memberLines (members : Members) : String :=
  String.join ((memberTexts members).map (· ++ "\n"))

/-- Whether a value is written under a header of its own. -/
def isTable : Toml → Bool
  | .table _ => true
  | _ => false

/-- A table under its header. -/
def underHeader (key : String) : Toml → String
  | .table members => "\n[" ++ keyText key ++ "]\n" ++ memberLines members
  | _ => ""

/-- A document. -/
def render (members : Members) : String :=
  memberLines (members.filter fun (_, value) => !isTable value) ++
    String.join (members.map fun (key, value) => underHeader key value)

end BatchBridge.Toml
