import BatchBridge.Text.Hex

/-!
# Strings of TOML

Strings are written in four ways: between single or double quotes, on one line or between three
quotes each over several lines.  Only double quotes know escapes.

* `shortText` — the rest of a one-line string behind its opening quote.
* `longText` — the rest of a string of several lines.  Line ends are read as one line feed, and one
  right behind the opening quotes is skipped.  Up to two quotes may stand anywhere, also right
  before the closing ones, and a backslash at the end of a line swallows all blanks that follow.

Both read character by character, with a state for what has been begun.
-/

namespace BatchBridge.Toml

/-- Whether a character may stand in a line: no control character but the tab. -/
def isLineChar (c : Char) : Bool := c = '\t' || (' ' ≤ c && c ≠ '\x7f')

/-- Whether a character may stand in a key without quotes. -/
def isKeyChar (c : Char) : Bool := c.isAlphanum || c = '-' || c = '_'

def isBlank (c : Char) : Bool := c = ' ' || c = '\t'

/-! ## Escapes -/

/-- What a backslash and a letter stand for, if they are complete. -/
def simpleEscape? : Char → Option Char
  | 'b' => some '\x08'
  | 't' => some '\t'
  | 'n' => some '\n'
  | 'f' => some '\x0c'
  | 'r' => some '\r'
  | '"' => some '"'
  | '\\' => some '\\'
  | _ => none

/-- How many hexadecimal digits follow a backslash and a letter. -/
def codeLength? : Char → Option Nat
  | 'u' => some 4
  | 'U' => some 8
  | _ => none

/-- What has been begun inside a string. -/
inductive TextState where
  | plain
  /-- Behind a backslash. -/
  | escape
  /-- Inside a code point, with digits missing and the value so far. -/
  | code (missing : Nat) (value : Nat)
  /-- Behind a carriage return. -/
  | carriageReturn
  /-- Behind a backslash at the end of a line; the line feed may be still to come. -/
  | swallow (ended : Bool)
  | swallowReturn
  /-- Behind quotes, less than three of which do not close the string. -/
  | quotes (count : Nat)

/-- Takes in the character behind a backslash. -/
def afterBackslash (text : String) (c : Char) : Option (TextState × String) :=
  match simpleEscape? c, codeLength? c with
  | some meant, _ => some (.plain, text.push meant)
  | none, some n => some (.code n 0, text)
  | none, none => none

/-- Takes in a digit of a code point, which has to be that of a character. -/
def afterDigit (missing value : Nat) (text : String) (c : Char) : Option (TextState × String) :=
  match Text.hexDigit? c with
  | none => none
  | some digit =>
    let value := value * 16 + digit
    if 1 < missing then some (.code (missing - 1) value, text)
    else if value.isValidChar then some (.plain, text.push (Char.ofNat value))
    else none

/-! ## One line -/

/-- Takes in a character of a one-line string that does not close it. -/
def shortStep (escapes : Bool) (state : TextState) (text : String) (c : Char) :
    Option (TextState × String) :=
  match state with
  | .escape => afterBackslash text c
  | .code missing value => afterDigit missing value text c
  | _ =>
    if escapes && c = '\\' then some (.escape, text)
    else if isLineChar c then some (.plain, text.push c)
    else none

/-- A one-line string up to its closing quote, and what follows that. -/
def shortText (quote : Char) (escapes : Bool) (state : TextState) (text : String) :
    List Char → Option (String × List Char)
  | [] => none
  | c :: rest =>
    match state with
    | .plain =>
      if c = quote then some (text, rest)
      else
        match shortStep escapes .plain text c with
        | some (state, text) => shortText quote escapes state text rest
        | none => none
    | state =>
      match shortStep escapes state text c with
      | some (state, text) => shortText quote escapes state text rest
      | none => none

/-! ## Several lines -/

/-- Appends quotes. -/
def pushQuotes (quote : Char) : Nat → String → String
  | 0, text => text
  | n + 1, text => pushQuotes quote n (text.push quote)

/-- Takes in a character where nothing has been begun. -/
def longPlain (quote : Char) (escapes : Bool) (text : String) (c : Char) :
    Option (TextState × String) :=
  if c = quote then some (.quotes 1, text)
  else if escapes && c = '\\' then some (.escape, text)
  else if c = '\n' then some (.plain, text.push '\n')
  else if c = '\r' then some (.carriageReturn, text)
  else if isLineChar c then some (.plain, text.push c)
  else none

/-- Takes in a character that does not close the string. -/
def longStep (quote : Char) (escapes : Bool) (state : TextState) (text : String) (c : Char) :
    Option (TextState × String) :=
  match state with
  | .plain => longPlain quote escapes text c
  | .quotes n =>
    if c = quote then some (.quotes (n + 1), text)
    else longPlain quote escapes (pushQuotes quote n text) c
  | .carriageReturn => if c = '\n' then some (.plain, text.push '\n') else none
  | .escape =>
    if isBlank c then some (.swallow false, text)
    else if c = '\n' then some (.swallow true, text)
    else if c = '\r' then some (.swallowReturn, text)
    else afterBackslash text c
  | .code missing value => afterDigit missing value text c
  | .swallow ended =>
    if isBlank c then some (.swallow ended, text)
    else if c = '\n' then some (.swallow true, text)
    else if c = '\r' then some (.swallowReturn, text)
    else if ended then longPlain quote escapes text c
    else none
  | .swallowReturn => if c = '\n' then some (.swallow true, text) else none

/-- A string of several lines up to its closing quotes, and what follows them.  Of five quotes the
first two belong to the text; a sixth is not looked at. -/
def longText (quote : Char) (escapes : Bool) (state : TextState) (text : String) :
    List Char → Option (String × List Char)
  | [] =>
    match state with
    | .quotes n => if 3 ≤ n then some (pushQuotes quote (n - 3) text, []) else none
    | _ => none
  | c :: rest =>
    let closed : Option (String × List Char) :=
      match state with
      | .quotes n =>
        if c = quote then if n = 4 then some (pushQuotes quote 2 text, rest) else none
        else if 3 ≤ n then some (pushQuotes quote (n - 3) text, c :: rest)
        else none
      | _ => none
    match closed with
    | some result => some result
    | none =>
      match longStep quote escapes state text c with
      | some (state, text) => longText quote escapes state text rest
      | none => none

/-- Skips a line end right behind the opening quotes. -/
def skipLineEnd : List Char → List Char
  | '\n' :: rest => rest
  | '\r' :: '\n' :: rest => rest
  | text => text

/-! ## All strings -/

/-- A string on one line. -/
def readShort : List Char → Option (String × List Char)
  | '"' :: rest => shortText '"' true .plain "" rest
  | '\'' :: rest => shortText '\'' false .plain "" rest
  | _ => none

/-- A string of any kind. -/
def readText : List Char → Option (String × List Char)
  | '"' :: '"' :: '"' :: rest => longText '"' true .plain "" (skipLineEnd rest)
  | '\'' :: '\'' :: '\'' :: rest => longText '\'' false .plain "" (skipLineEnd rest)
  | text => readShort text

end BatchBridge.Toml
