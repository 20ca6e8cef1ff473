/-!
# Durations

Spans of time, counted in nanoseconds, and their text: the largest unit that is not zero, with a
fraction only as long as it needs to be.
-/

namespace BatchBridge

/-- A span of time. -/
structure Duration where
  nanos : Nat
  deriving DecidableEq, Repr, Inhabited

namespace Duration

/-- A number of seconds. -/
def ofSeconds (n : Nat) : Duration := ⟨n * 1000000000⟩

/-- A number of milliseconds. -/
def ofMillis (n : Nat) : Duration := ⟨n * 1000000⟩

/-- `n / unit` as a decimal, where `unit` is the power of ten with `places` zeros. -/
def fraction (n places : Nat) : String :=
  let unit := Nat.pow 10 places
  let digits := toString (n % unit)
  let padded := String.ofList (List.replicate (places - digits.length) '0') ++ digits
  let kept := padded.toList.reverse.dropWhile (· == '0')
  if kept.isEmpty then toString (n / unit)
  else toString (n / unit) ++ "." ++ String.ofList kept.reverse

/-- The text of a duration, such as `1.5s`, `50ms` or, for none at all, `0ns`. -/
def text (d : Duration) : String :=
  if 1000000000 ≤ d.nanos then fraction d.nanos 9 ++ "s"
  else if 1000000 ≤ d.nanos then fraction d.nanos 6 ++ "ms"
  else if 1000 ≤ d.nanos then fraction d.nanos 3 ++ "µs"
  else toString d.nanos ++ "ns"

end Duration
end BatchBridge
