import BatchBridge.Json.Basic

/-!
# Writing JSON

Compact text: no blanks, and escapes only where the grammar asks for them.
-/

namespace BatchBridge.Json

/-- A code of up to sixteen bits as an escape. -/
def hexEscape (code : Nat) : List Char :=
  let digits := Nat.toDigits 16 code
  ['\\', 'u'] ++ List.replicate (4 - digits.length) '0' ++ digits

/-- How a unit is written between quotes. -/
def Unit.write : Unit → List Char
  | .surrogate code => hexEscape code
  | .char c =>
    if c = '"' then ['\\', '"']
    else if c = '\\' then ['\\', '\\']
    else if c = '\x08' then ['\\', 'b']
    else if c = '\x0c' then ['\\', 'f']
    else if c = '\n' then ['\\', 'n']
    else if c = '\r' then ['\\', 'r']
    else if c = '\t' then ['\\', 't']
    else if c.toNat < 0x20 then hexEscape c.toNat
    else [c]

/-- The spelling of a token. -/
def Token.write : Token → List Char
  | .openBrace => ['{']
  | .closeBrace => ['}']
  | .openBracket => ['[']
  | .closeBracket => [']']
  | .comma => [',']
  | .colon => [':']
  | .null => ['n', 'u', 'l', 'l']
  | .bool true => ['t', 'r', 'u', 'e']
  | .bool false => ['f', 'a', 'l', 's', 'e']
  | .number digits => digits
  | .string text => '"' :: text.flatMap Unit.write ++ ['"']

/-- The compact text of a tree. -/
def render (tree : Json) : String :=
  String.ofList (tree.tokens.flatMap Token.write)

end BatchBridge.Json
