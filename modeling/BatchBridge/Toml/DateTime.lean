import BatchBridge.Toml.Number

/-!
# Dates and times of TOML

* `readDateTime` — a date, a time, or a date, a time and perhaps an offset.  Days have to exist;
  seconds may be 60.
-/

namespace BatchBridge.Toml

/-- A number of exactly `n` digits. -/
def fixedDigits (n : Nat) (text : List Char) : Option (Nat × List Char) :=
  let digits := text.take n
  if digits.length = n && digits.all Char.isDigit then
    some (digitsValue 10 digits, text.drop n)
  else none

/-- A number of two digits between bounds. -/
def twoDigits (low high : Nat) (text : List Char) : Option (Nat × List Char) :=
  (fixedDigits 2 text).filter fun (n, _) => low ≤ n && n ≤ high

/-- A character that has to be there. -/
def skip (c : Char) : List Char → Option (List Char)
  | d :: rest => if d = c then some rest else none
  | [] => none

/-- How many days a month has. -/
def daysIn (year month : Nat) : Nat :=
  if month = 2 then
    if year % 4 = 0 && (year % 100 ≠ 0 || year % 400 = 0) then 29 else 28
  else if month = 4 || month = 6 || month = 9 || month = 11 then 30
  else 31

/-- A date. -/
def skipDate (text : List Char) : Option (List Char) := do
  let (year, text) ← fixedDigits 4 text
  let (month, text) ← twoDigits 1 12 (← skip '-' text)
  let (_, text) ← twoDigits 1 (daysIn year month) (← skip '-' text)
  pure text

/-- A fraction of a second, if one is there. -/
def skipFraction : List Char → Option (List Char)
  | '.' :: rest =>
    if rest.head?.any Char.isDigit then some (rest.dropWhile Char.isDigit) else none
  | text => some text

/-- A time of day. -/
def skipTime (text : List Char) : Option (List Char) := do
  let (_, text) ← twoDigits 0 23 text
  let (_, text) ← twoDigits 0 59 (← skip ':' text)
  let (_, text) ← twoDigits 0 60 (← skip ':' text)
  skipFraction text

/-- An offset, if one is there. -/
def skipOffset : List Char → Option (List Char)
  | 'Z' :: rest | 'z' :: rest => some rest
  | '+' :: rest | '-' :: rest => do
    let (_, text) ← twoDigits 0 23 rest
    let (_, text) ← twoDigits 0 59 (← skip ':' text)
    pure text
  | text => some text

/-- Whether a character stands between a date and a time. -/
def isTimeMark (c : Char) : Bool := c = 'T' || c = 't' || c = ' '

/-- A time and its offset behind a date, if they are there. -/
def skipTimeOfDate (text : List Char) : Option (List Char) :=
  match text with
  | mark :: rest =>
    if isTimeMark mark then
      match skipTime rest with
      | some rest => skipOffset rest
      | none => some text
    else some text
  | [] => some text

/-- A date or a time or both. -/
def readDateTime (text : List Char) : Option (String × List Char) :=
  let rest? :=
    match skipDate text with
    | some rest => skipTimeOfDate rest
    | none => skipTime text
  rest?.map fun rest => (textBefore text rest, rest)

end BatchBridge.Toml
