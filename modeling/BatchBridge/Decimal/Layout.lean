import BatchBridge.Decimal.Shortest

/-!
# Written decimals

How a decimal `digits · 10 ^ power` is put on paper: positionally where that stays readable, else
in scientific notation.

* `Layout` — the decisions of a format.
* `Layout.write` — the text of a number under these decisions.
-/

namespace BatchBridge.Decimal

/-- What a format decides: the decimal exponents of the first digit for which it writes numbers
out, and the words for what has no digits. -/
structure Layout where
  /-- The least exponent written positionally. -/
  least : Int
  /-- The first exponent that is too large for it. -/
  bound : Int
  nan : String
  infinity : String
  deriving DecidableEq, Repr

/-- Digits with a point `places` digits from the right, at least one on either side of it. -/
def positional (digits : String) (power : Int) : String :=
  if 0 ≤ power then digits ++ String.ofList (List.replicate power.toNat '0') ++ ".0"
  else
    let places := (-power).toNat
    if places < digits.length then
      let cs := digits.toList
      String.ofList (cs.take (digits.length - places) ++ '.' :: cs.drop (digits.length - places))
    else "0." ++ String.ofList (List.replicate (places - digits.length) '0') ++ digits

/-- One digit, a point if more follow, and the exponent. -/
def scientific (digits : String) (exponent : Int) : String :=
  match digits.toList with
  | [] => ""
  | [d] => String.ofList [d] ++ "e" ++ toString exponent
  | d :: more => String.ofList (d :: '.' :: more) ++ "e" ++ toString exponent

/-- The text of a double, given by its bits. -/
def Layout.write (format : Layout) (bits : UInt64) : String :=
  let sign (negative : Bool) (text : String) := if negative then "-" ++ text else text
  match Binary64.ofBits bits with
  | .nan => format.nan
  | .infinite negative => sign negative format.infinity
  | .zero negative => sign negative "0.0"
  | .finite negative mantissa exponent lowest =>
    let (digits, power) := shortest mantissa exponent lowest
    let text := toString digits
    let leading := power + text.length - 1
    sign negative
      (if format.least ≤ leading && leading < format.bound then positional text power
       else scientific text leading)

end BatchBridge.Decimal
