import BatchBridge.Address.Basic

/-!
# Numeric addresses

Hosts that are given by number.

* `IpAddress` — the two kinds of number.  `IpAddress.text` writes one in its canonical form, where
  the longest run of zero groups is left out.
* `IpAddress.readV4`, `readLooseV4`, `readV6` — the ways a host may spell a number.  Four plain
  decimal numbers are the usual form of the first kind; the loose form has one to four numbers, any
  of which may be octal or hexadecimal, and the last of which fills all remaining bytes.
* `Address.socket` — the resolved address, if the host is numeric.
-/

namespace BatchBridge

/-- The number of a host. -/
inductive IpAddress where
  | v4 (bits : UInt32)
  /-- Eight groups of 16 bits, and the zone if there is one. -/
  | v6 (groups : List Nat) (zone : Nat)
  deriving DecidableEq, Repr

namespace IpAddress

/-! ## Reading -/

/-- The value of a digit, if it is one in the base. -/
def digit? (base : Nat) (c : Char) : Option Nat :=
  let value? : Option Nat :=
    if '0' ≤ c ∧ c ≤ '9' then some (c.toNat - 48)
    else if 'a' ≤ c ∧ c ≤ 'f' then some (c.toNat - 87)
    else if 'A' ≤ c ∧ c ≤ 'F' then some (c.toNat - 55)
    else none
  value?.filter (· < base)

/-- A number in a base, of one digit at least. -/
def number? (base : Nat) (digits : List Char) : Option Nat :=
  if digits.isEmpty then none
  else digits.foldlM (fun n c => (digit? base c).map (n * base + ·)) 0

/-- Splits a text at every separator. -/
def fields (separator : Char) : List Char → List (List Char)
  | [] => [[]]
  | c :: rest =>
    if c = separator then [] :: fields separator rest
    else
      match fields separator rest with
      | first :: others => (c :: first) :: others
      | [] => [[c]]

/-- A number of at most three decimal digits that fits a byte, without leading zeros. -/
def byte? (digits : List Char) : Option Nat :=
  if digits.head? = some '0' && digits.length ≠ 1 then none
  else (number? 10 digits).filter (· < 256)

/-- The four bytes of the usual form. -/
def readV4 (host : List Char) : Option Nat :=
  match (fields '.' host).mapM byte? with
  | some [a, b, c, d] => some (((a * 256 + b) * 256 + c) * 256 + d)
  | _ => none

/-- A number of the loose form: hexadecimal after `0x`, octal after another zero, else decimal. -/
def looseNumber? : List Char → Option Nat
  | '0' :: 'x' :: digits => number? 16 digits
  | '0' :: 'X' :: digits => number? 16 digits
  | '0' :: digits => if digits.isEmpty then some 0 else number? 8 digits
  | digits => number? 10 digits

/-- The value of a loose form: all numbers but the last are bytes. -/
def looseValue? (position : Nat) : List Nat → Option Nat
  | [] => none
  | [last] => if last < 1 <<< (8 * (4 - position)) then some last else none
  | n :: rest =>
    if n < 256 ∧ position < 3 then
      (looseValue? (position + 1) rest).map (n <<< (8 * (3 - position)) + ·)
    else none

/-- The bytes of the loose form. -/
def readLooseV4 (host : List Char) : Option Nat :=
  ((fields '.' host).mapM looseNumber?).bind (looseValue? 0)

/-- A group of 16 bits. -/
def group? (digits : List Char) : Option Nat :=
  if digits.length ≤ 4 then number? 16 digits else none

/-- Groups with colons between them; the last two may be written as bytes. -/
def groups? (text : List Char) : Option (List Nat) :=
  let parts := fields ':' text
  match parts.getLast?.bind readV4 with
  | some bits => (parts.dropLast.mapM group?).map (· ++ [bits / 65536, bits % 65536])
  | none => parts.mapM group?

/-- Groups, of which there may be none. -/
def someGroups? (text : List Char) : Option (List Nat) :=
  if text.isEmpty then some [] else groups? text

/-- What stands before and after a double colon. -/
def splitElided : List Char → Option (List Char × List Char)
  | ':' :: ':' :: rest => some ([], rest)
  | c :: rest => (splitElided rest).map fun (front, back) => (c :: front, back)
  | [] => none

/-- Eight groups; a double colon stands for as many zeros as are missing, one at least. -/
def readV6 (text : List Char) : Option (List Nat) :=
  match splitElided text with
  | none => (groups? text).filter (·.length = 8)
  | some (front, back) =>
    if (readV4 ((fields ':' front).getLast?.getD [])).isSome then none
    else
      match someGroups? front, someGroups? back with
      | some front, some back =>
        let missing := 8 - (front.length + back.length)
        if front.length + back.length < 8 then some (front ++ List.replicate missing 0 ++ back)
        else none
      | _, _ => none

/-- Eight groups and perhaps a zone by number. -/
def readZoned (text : List Char) : Option IpAddress :=
  match readV6 (text.takeWhile (· ≠ '%')), text.dropWhile (· ≠ '%') with
  | some groups, [] => some (.v6 groups 0)
  | some groups, _ :: zone =>
    ((number? 10 zone).filter (· < UInt32.size)).map (.v6 groups)
  | none, _ => none

/-- The number of a host; brackets belong to the second kind. -/
def ofHost? (host : String) : Option IpAddress :=
  match host.toList with
  | '[' :: rest => if rest.getLast? = some ']' then readZoned rest.dropLast else none
  | characters =>
    match readV4 characters <|> readLooseV4 characters with
    | some bits => some (.v4 (UInt32.ofNat bits))
    | none => readZoned characters

/-! ## Writing -/

/-- The four bytes in decimal. -/
def textV4 (bits : Nat) : String :=
  ".".intercalate ([24, 16, 8, 0].map fun shift => toString ((bits >>> shift) % 256))

/-- A group in hexadecimal. -/
def groupText (group : Nat) : String := String.ofList (Nat.toDigits 16 group)

/-- Groups with colons between them. -/
def groupsText (groups : List Nat) : String := ":".intercalate (groups.map groupText)

/-- The start and length of the longest run of zeros, the first of equals. -/
def longestZeros (groups : List Nat) : Nat × Nat :=
  let runs := (List.range groups.length).map fun i =>
    (i, ((groups.drop i).takeWhile (· = 0)).length)
  runs.foldl (fun best run => if best.2 < run.2 then run else best) (0, 0)

/-- The eight groups.  A run of two zeros or more is left out; an embedded first kind keeps its own
form. -/
def textV6 (groups : List Nat) : String :=
  match groups with
  | [0, 0, 0, 0, 0, 0xFFFF, high, low] => "::ffff:" ++ textV4 (high * 65536 + low)
  | _ =>
    let (start, length) := longestZeros groups
    if length < 2 then groupsText groups
    else groupsText (groups.take start) ++ "::" ++ groupsText (groups.drop (start + length))

end IpAddress

namespace Address

/-- The resolved address of a numeric host. -/
def socket (address : Address) : Option String :=
  let port := ":" ++ toString address.port.toNat
  (IpAddress.ofHost? address.host).map fun
    | .v4 bits => IpAddress.textV4 bits.toNat ++ port
    | .v6 groups zone =>
      let zoned := if zone = 0 then "" else "%" ++ toString zone
      "[" ++ IpAddress.textV6 groups ++ zoned ++ "]" ++ port

end Address
end BatchBridge
