/-!
# Shortest decimals

A binary floating-point number stands for all reals that round to it.  Its shortest decimal is the
one with the fewest significant digits among them, and the nearest of those.

* `Binary64` — the fields of a double: sign, and either a special value or `m · 2 ^ q`.
* `Interval` — the reals that round to `m · 2 ^ q`, scaled to whole numbers.  Its ends belong to it
  exactly when `m` is even, because ties go to the even neighbour.
* `shortest` — the digits and the decimal exponent.

On the grid of decimals with a given number of digits only the two neighbours of the number itself
matter: if any point of the grid lies in the interval, one of these two does.  So it is enough to
try one grid after the other, coarse ones first, and on each the two neighbours.
-/

namespace BatchBridge.Decimal

/-- A double taken apart. -/
inductive Binary64 where
  | nan
  | infinite (negative : Bool)
  | zero (negative : Bool)
  /-- `mantissa · 2 ^ exponent`; `lowest` says that the gap below is half the gap above. -/
  | finite (negative : Bool) (mantissa : Nat) (exponent : Int) (lowest : Bool)
  deriving DecidableEq, Repr

/-- The fields of the interchange format, from its 64 bits. -/
def Binary64.ofBits (bits : UInt64) : Binary64 :=
  let negative := bits >>> 63 = 1
  let biased := ((bits >>> 52) &&& 0x7FF).toNat
  let fraction := (bits &&& 0xFFFFFFFFFFFFF).toNat
  if biased = 0x7FF then if fraction = 0 then .infinite negative else .nan
  else if biased = 0 then
    if fraction = 0 then .zero negative else .finite negative fraction (-1074) false
  else .finite negative (fraction + 1 <<< 52) (biased - 1075) (fraction = 0 && biased > 1)

/-- The reals that round to a number, as multiples of a common unit: `value` lies between `low`
and `high`, which belong to the interval if it is `closed`. -/
structure Interval where
  value : Nat
  low : Nat
  high : Nat
  unit : Nat
  closed : Bool

/-- The interval around `mantissa · 2 ^ exponent`: half a gap to either side.  Numbers are counted
in quarters of the gap above, and `unit` of those make one. -/
def Interval.around (mantissa : Nat) (exponent : Int) (lowest : Bool) : Interval :=
  let scale := 1 <<< exponent.toNat
  { value := 4 * mantissa * scale
    low := (4 * mantissa - if lowest then 1 else 2) * scale
    high := (4 * mantissa + 2) * scale
    unit := 4 * (1 <<< (-exponent).toNat)
    closed := mantissa % 2 = 0 }

/-- Whether the decimal `digits · 10 ^ power` lies in the interval. -/
def Interval.contains (range : Interval) (digits : Nat) (power : Int) : Bool :=
  let point := digits * Nat.pow 10 power.toNat * range.unit
  let shift := Nat.pow 10 (-power).toNat
  if range.closed then range.low * shift ≤ point && point ≤ range.high * shift
  else range.low * shift < point && point < range.high * shift

/-- The decimal exponent of the first digit: `10 ^ e ≤ value < 10 ^ (e + 1)`. -/
def Interval.leading (range : Interval) : Int :=
  let whole := range.value / range.unit
  if whole > 0 then (Nat.toDigits 10 whole).length - 1
  else
    -- `unit / value` lies above one; its first digit gives the exponent but for a power of ten
    let inverse := range.unit / range.value
    let e := (Nat.toDigits 10 inverse).length
    if range.value * Nat.pow 10 (e - 1) = range.unit then 1 - (e : Int) else -e

/-- The neighbour of the number on the grid `n · 10 ^ power` that lies in the interval, the nearer
one if both do, the upper one if they are equally near. -/
def Interval.gridPoint? (range : Interval) (power : Int) : Option Nat :=
  let scaled := range.value * Nat.pow 10 (-power).toNat
  let step := range.unit * Nat.pow 10 power.toNat
  let below := scaled / step
  let left := scaled % step
  let above := if left = 0 then below else below + 1
  match range.contains below power, range.contains above power with
  | true, true =>
    some (if 2 * left < step then below else above)
  | true, false => some below
  | false, true => some above
  | false, false => none

/-- Tries grids with more and more digits after the one that `power` stands for. -/
def Interval.search (range : Interval) : Nat → Int → Nat × Int
  | 0, power => (range.value * Nat.pow 10 (-power).toNat / (range.unit * Nat.pow 10 power.toNat), power)
  | tries + 1, power =>
    match range.gridPoint? power with
    | some digits => (digits, power)
    | none => range.search tries (power - 1)

/-- Moves zeros at the end of the digits into the exponent. -/
def dropZeros : Nat → Nat → Int → Nat × Int
  | 0, digits, power => (digits, power)
  | tries + 1, digits, power =>
    if digits ≠ 0 && digits % 10 = 0 then dropZeros tries (digits / 10) (power + 1)
    else (digits, power)

/-- The digits `d` and the power `p` of the shortest decimal `d · 10 ^ p`; seventeen digits always
suffice. -/
def shortest (mantissa : Nat) (exponent : Int) (lowest : Bool) : Nat × Int :=
  let range := Interval.around mantissa exponent lowest
  let (digits, power) := range.search 17 range.leading
  dropZeros 20 digits power

end BatchBridge.Decimal
