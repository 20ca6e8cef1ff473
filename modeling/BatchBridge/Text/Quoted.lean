import BatchBridge.Text.Printable

/-!
# Quoted text

Messages that show a value quote its text: between double quotes, with escapes for whatever would
not be seen or would end the quotation.

* `quoted` — the quoted form.
* `unicodeEscape` — the escape by code point, in hexadecimal without leading zeros.
-/

namespace BatchBridge.Text

/-- A code point as an escape, such as `\u{1f}`. -/
def unicodeEscape (c : Char) : List Char :=
  ['\\', 'u', '\x7b'] ++ Nat.toDigits 16 c.toNat ++ ['\x7d']

/-- How one character is written between double quotes. -/
def quotedChar (c : Char) : List Char :=
  if c = '"' then ['\\', '"']
  else if c = '\\' then ['\\', '\\']
  else if c = '\n' then ['\\', 'n']
  else if c = '\r' then ['\\', 'r']
  else if c = '\t' then ['\\', 't']
  else if c = '\x00' then ['\\', '0']
  else if isPrintable c then [c]
  else unicodeEscape c

/-- The text between double quotes. -/
def quoted (text : String) : String :=
  let body := text.toList.foldl (fun out c => (quotedChar c).foldl String.push out) "\""
  body.push '"'

end BatchBridge.Text
