import BatchBridge.Toml.Text

/-!
# Numbers of TOML

* `readInteger` — a number of 64 bits with a sign, in one of four bases.
* `readFloat` — a floating-point number.  Only its form matters here, and that it is not too large:
  a positive number that rounds to infinity is refused.
* `readDigits` — digits with single underscores between them.
-/

namespace BatchBridge.Toml

/-- A run of digits and underscores, and what follows it. -/
def spanDigits (isDigit : Char → Bool) (text : List Char) : List Char × List Char :=
  text.span fun c => isDigit c || c = '_'

/-- Whether no underscore stands first, last, or next to another. -/
def wellSpaced : List Char → Bool
  | [] => false
  | '_' :: _ => false
  | [_] => true
  | _ :: '_' :: rest => wellSpaced rest
  | _ :: rest => wellSpaced rest

/-- The digits of a run, and what follows it. -/
def readDigits (isDigit : Char → Bool) (text : List Char) : Option (List Char × List Char) :=
  let (run, rest) := spanDigits isDigit text
  if wellSpaced run then some (run.filter (· ≠ '_'), rest) else none

/-- The value of digits. -/
def digitsValue (base : Nat) (digits : List Char) : Nat :=
  digits.foldl (fun n c => n * base + (Text.hexDigit? c).getD 0) 0

/-- Whether a character is a digit of a base. -/
def isDigitOf (base : Nat) (c : Char) : Bool := (Text.hexDigit? c).any (· < base)

/-- Whether a sign stands in front, and what follows it. -/
def readSign : List Char → Bool × List Char
  | '-' :: rest => (true, rest)
  | '+' :: rest => (false, rest)
  | text => (false, text)

/-- The digits of a decimal number: a zero, or digits that begin with another one. -/
def readWhole : List Char → Option (List Char × List Char)
  | '0' :: rest => some (['0'], rest)
  | text => readDigits Char.isDigit text

/-! ## Integers -/

/-- A number, if 64 bits with a sign can hold it. -/
def int64? (n : Int) : Option Int64 :=
  if Int64.minValue.toInt ≤ n ∧ n ≤ Int64.maxValue.toInt then some (Int64.ofInt n) else none

/-- A number in a base, behind its mark. -/
def readBased (base : Nat) (text : List Char) : Option (Int64 × List Char) :=
  match readDigits (isDigitOf base) text with
  | some (digits, rest) => (int64? (digitsValue base digits)).map fun n => (n, rest)
  | none => none

/-- An integer. -/
def readInteger (text : List Char) : Option (Int64 × List Char) :=
  match text with
  | '0' :: 'x' :: rest => readBased 16 rest
  | '0' :: 'o' :: rest => readBased 8 rest
  | '0' :: 'b' :: rest => readBased 2 rest
  | _ =>
    let (negative, rest) := readSign text
    match readWhole rest with
    | some (digits, rest) =>
      let n : Int := digitsValue 10 digits
      (int64? (if negative then -n else n)).map fun n => (n, rest)
    | none => none

/-! ## Floating-point numbers -/

/-- The parts of a number: its digits without the point, and the power of ten they are taken to. -/
structure Scientific where
  digits : List Char
  exponent : Int

/-- The point and the digits behind it. -/
def readFraction (whole : List Char) : List Char → Option (Scientific × List Char)
  | '.' :: rest =>
    (readDigits Char.isDigit rest).map fun (digits, rest) =>
      (⟨whole ++ digits, -(digits.length : Int)⟩, rest)
  | text => some (⟨whole, 0⟩, text)

/-- The exponent, if one is there. -/
def readExponent (number : Scientific) (text : List Char) : Option (Scientific × List Char) :=
  match text with
  | c :: rest =>
    if c = 'e' || c = 'E' then
      let (negative, rest) := readSign rest
      match readDigits Char.isDigit rest with
      | some (digits, rest) =>
        let n : Int := digitsValue 10 digits
        some ({ number with exponent := number.exponent + if negative then -n else n }, rest)
      | none => none
    else some (number, text)
  | [] => some (number, text)

/-- The least number that is rounded to infinity. -/
def overflowBound : Nat := 1 <<< 1024 - 1 <<< 970

/-- Whether a number is rounded to infinity.  Numbers of more than 400 places before the point are,
and for the others the powers of ten stay small. -/
def Scientific.overflows (number : Scientific) : Bool :=
  let digits := number.digits.dropWhile (· = '0')
  let places := number.exponent + digits.length
  if digits.isEmpty || places < 300 then false
  else if 400 < places then true
  else
    let value := digitsValue 10 digits
    if 0 ≤ number.exponent then overflowBound ≤ value * Nat.pow 10 number.exponent.toNat
    else overflowBound * Nat.pow 10 (-number.exponent).toNat ≤ value

/-- Infinity or no number, by name. -/
def readSpecial : List Char → Option (List Char)
  | 'i' :: 'n' :: 'f' :: rest => some rest
  | 'n' :: 'a' :: 'n' :: rest => some rest
  | _ => none

/-- What follows a floating-point number; it has a point, an exponent or a name. -/
def skipFloat (text : List Char) : Option (List Char) :=
  let (negative, unsigned) := readSign text
  match readWhole unsigned with
  | none => readSpecial unsigned
  | some (whole, rest) =>
    match readFraction whole rest with
    | none => none
    | some (number, behind) =>
      match readExponent number behind with
      | none => none
      | some (number, last) =>
        if last.length = rest.length || (!negative && number.overflows) then none else some last

/-- The text that has been read when `rest` is what follows. -/
def textBefore (text rest : List Char) : String :=
  String.ofList (text.take (text.length - rest.length))

/-- A floating-point number. -/
def readFloat (text : List Char) : Option (String × List Char) :=
  (skipFloat text).map fun rest => (textBefore text rest, rest)

end BatchBridge.Toml
