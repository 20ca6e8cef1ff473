import BatchBridge.Json.Basic
import BatchBridge.Text.Hex

/-!
# Tokens of JSON text

The lexer takes one character at a time, so reading is one fold over the text.

* `Scan` — what the characters since the last whole token amount to.
* `scanChar` — takes in a character; `none` means that no JSON text goes on this way.
* `lex` — the tokens of a text.

A run of characters that can occur in numbers is taken as one number and checked at its end
(`isNumber`), a run of letters as one word.  No valid text has two of these side by side.
-/

namespace BatchBridge.Json

/-- Space, tab, line feed and carriage return may stand between tokens. -/
def isBlank (c : Char) : Bool :=
  c = ' ' || c = '\t' || c = '\n' || c = '\r'

/-! ## Numbers -/

/-- Characters that numbers are made of. -/
def isNumberChar (c : Char) : Bool :=
  c.isDigit || c = '-' || c = '+' || c = '.' || c = 'e' || c = 'E'

/-- Where a reader of a number stands. -/
inductive NumberState where
  | start
  | minus
  | zero
  | whole
  | point
  | fraction
  | e
  | expSign
  | exponent
  deriving DecidableEq, Repr

/-- The grammar of numbers: an optional minus, digits without leading zeros, and then perhaps a
fraction and an exponent. -/
def NumberState.next? (state : NumberState) (c : Char) : Option NumberState :=
  match state with
  | .start => if c = '-' then some .minus else if c = '0' then some .zero
    else if c.isDigit then some .whole else none
  | .minus => if c = '0' then some .zero else if c.isDigit then some .whole else none
  | .zero => if c = '.' then some .point else if c = 'e' ∨ c = 'E' then some .e else none
  | .whole => if c.isDigit then some .whole else if c = '.' then some .point
    else if c = 'e' ∨ c = 'E' then some .e else none
  | .point => if c.isDigit then some .fraction else none
  | .fraction => if c.isDigit then some .fraction else if c = 'e' ∨ c = 'E' then some .e else none
  | .e => if c = '+' ∨ c = '-' then some .expSign else if c.isDigit then some .exponent else none
  | .expSign => if c.isDigit then some .exponent else none
  | .exponent => if c.isDigit then some .exponent else none

/-- Whether a number may end here. -/
def NumberState.isFinal : NumberState → Bool
  | .zero | .whole | .fraction | .exponent => true
  | _ => false

/-- Whether the characters spell a number. -/
def isNumber (digits : List Char) : Bool :=
  match digits.foldlM NumberState.next? .start with
  | some state => state.isFinal
  | none => false

/-- The token of a word. -/
def word? (letters : List Char) : Option Token :=
  if letters = ['t', 'r', 'u', 'e'] then some (.bool true)
  else if letters = ['f', 'a', 'l', 's', 'e'] then some (.bool false)
  else if letters = ['n', 'u', 'l', 'l'] then some .null
  else none

/-! ## The lexer -/

/-- What the characters since the last whole token amount to; lists are in reverse. -/
inductive Scan where
  | between
  | string (units : List Unit)
  /-- After a backslash. -/
  | escape (units : List Unit)
  /-- After `\u` and `digits` hexadecimal digits. -/
  | hex (units : List Unit) (digits : Nat) (code : Nat)
  | number (chars : List Char)
  | word (letters : List Char)

/-- The character that a one-letter escape stands for. -/
def escaped? (c : Char) : Option Char :=
  if c = '"' then some '"'
  else if c = '\\' then some '\\'
  else if c = '/' then some '/'
  else if c = 'b' then some '\x08'
  else if c = 'f' then some '\x0c'
  else if c = 'n' then some '\n'
  else if c = 'r' then some '\r'
  else if c = 't' then some '\t'
  else none

/-- A character between tokens, after the tokens `done` (in reverse). -/
def scanFresh (done : List Token) (c : Char) : Option (List Token × Scan) :=
  if isBlank c then some (done, .between)
  else if c = '{' then some (.openBrace :: done, .between)
  else if c = '}' then some (.closeBrace :: done, .between)
  else if c = '[' then some (.openBracket :: done, .between)
  else if c = ']' then some (.closeBracket :: done, .between)
  else if c = ',' then some (.comma :: done, .between)
  else if c = ':' then some (.colon :: done, .between)
  else if c = '"' then some (done, .string [])
  else if isNumberChar c && c != 'e' && c != 'E' then some (done, .number [c])
  else if c.isAlpha then some (done, .word [c])
  else none

/-- Ends a run: the tokens with the one that the run spells. -/
def closeRun (done : List Token) : Scan → Option (List Token)
  | .between => some done
  | .number chars =>
    let digits := chars.reverse
    if isNumber digits then some (.number digits :: done) else none
  | .word letters => (word? letters.reverse).map (· :: done)
  | .string _ | .escape _ | .hex .. => none

/-- Takes in a character. -/
def scanChar : List Token × Scan → Char → Option (List Token × Scan)
  | (done, .between), c => scanFresh done c
  | (done, .string units), c =>
    if c = '"' then some (.string units.reverse :: done, .between)
    else if c = '\\' then some (done, .escape units)
    else if c.toNat < 0x20 then none
    else some (done, .string (.char c :: units))
  | (done, .escape units), c =>
    if c = 'u' then some (done, .hex units 0 0)
    else (escaped? c).map fun e => (done, .string (.char e :: units))
  | (done, .hex units digits code), c =>
    (Text.hexDigit? c).map fun value =>
      let code := code * 16 + value
      if digits < 3 then (done, .hex units (digits + 1) code)
      else (done, .string (Unit.ofCode code :: units))
  | (done, .number chars), c =>
    if isNumberChar c then some (done, .number (c :: chars))
    else (closeRun done (.number chars)).bind (scanFresh · c)
  | (done, .word letters), c =>
    if c.isAlpha then some (done, .word (c :: letters))
    else (closeRun done (.word letters)).bind (scanFresh · c)

/-- The tokens of a text, if it consists of tokens and blanks. -/
def lex (text : List Char) : Option (List Token) :=
  match text.foldlM scanChar ([], .between) with
  | some (done, scan) => (closeRun done scan).map List.reverse
  | none => none

end BatchBridge.Json
