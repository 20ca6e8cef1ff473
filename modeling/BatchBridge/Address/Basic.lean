/-!
# Addresses

A host, by name or number, and a port.

* `Address.text` — the two with a colon between them.
* `Address.endpoint` — the address as a URL; a host may bring its own scheme.
* `Address.isUrl` — whether that is a URL at all.
-/

namespace BatchBridge

/-- Where to listen or connect to. -/
structure Address where
  host : String
  port : UInt16
  deriving DecidableEq, Repr

namespace Address

/-- Host and port. -/
def text (address : Address) : String := address.host ++ ":" ++ toString address.port.toNat

/-- Whether a host brings its scheme with it. -/
def hasScheme (host : String) : Bool :=
  "http://".toList.isPrefixOf host.toList || "https://".toList.isPrefixOf host.toList

/-- The address as a URL. -/
def endpoint (address : Address) : String :=
  if hasScheme address.host then address.text else "http://" ++ address.text

/-! ## Well-formed URLs -/

/-- The characters that a URL is written in, besides escapes. -/
def isUrlChar (c : Char) : Bool :=
  c.isAlphanum || "!#$&'()*+,-./:;=?@[]_~".toList.contains c

/-- What ends the authority of a URL. -/
def endsAuthority (c : Char) : Bool := c = '/' || c = '?' || c = '#'

/-- The most colons that an authority has in one stretch: those of a numeric host and its port. -/
def maxColons : Nat := 8

/-- What has been seen of an authority. -/
structure Authority where
  /-- Colons since the last `@` or `]`. -/
  colons : Nat
  /-- An escape since the last `@` or `]`. -/
  escaped : Bool
  opened : Bool
  closed : Bool
  /-- The last character was an `@`. -/
  endsInAt : Bool

namespace Authority

/-- Takes in a character; an authority has no other than URL characters and escapes, and at most
one pair of brackets, which encloses a host without escapes before it. -/
def step (seen : Authority) (c : Char) : Option Authority :=
  let seen := { seen with endsInAt := c = '@' }
  if c = '[' then
    if seen.opened || seen.escaped then none else some { seen with opened := true }
  else if c = ']' then
    if seen.opened && !seen.closed then
      some { seen with closed := true, colons := 0, escaped := false }
    else none
  else if c = ':' then
    if seen.colons < maxColons then some { seen with colons := seen.colons + 1 } else none
  else if c = '@' then some { seen with colons := 0, escaped := false }
  else if c = '%' then some { seen with escaped := true }
  else if isUrlChar c then some seen
  else none

/-- Whether nothing is amiss: at most one port, brackets that match, a host behind the user, and
escapes in front of it only. -/
def isComplete (seen : Authority) : Bool :=
  seen.opened == seen.closed && seen.colons ≤ 1 && !seen.endsInAt && !seen.escaped

/-- Whether characters form an authority. -/
def accepts (characters : List Char) : Bool :=
  match characters.foldlM step ⟨0, false, false, false, false⟩ with
  | some seen => !characters.isEmpty && seen.isComplete
  | none => false

end Authority

/-- Whether a character may stand in the path of a URL. -/
def isPathChar (c : Char) : Bool :=
  isUrlChar c || "%\"\x7b|\x7d\\^".toList.contains c || 0x80 ≤ c.toNat

/-- Whether a character may stand in the query of a URL. -/
def isQueryChar (c : Char) : Bool :=
  (isPathChar c && c ≠ '"') || c = '\x60'

/-- Whether what follows the authority is a path and a query; a fragment is not looked at. -/
def isTail (characters : List Char) : Bool :=
  let tail := characters.takeWhile (· ≠ '#')
  (tail.takeWhile (· ≠ '?')).all isPathChar && (tail.dropWhile (· ≠ '?')).all isQueryChar

/-- The longest URL, in bytes. -/
def maxUrlBytes : Nat := 65534

/-- Whether the endpoint of the address is a URL. -/
def isUrl (address : Address) : Bool :=
  let afterScheme := (address.endpoint.toList.dropWhile (· ≠ '/')).drop 2
  address.endpoint.utf8ByteSize ≤ maxUrlBytes &&
    Authority.accepts (afterScheme.takeWhile (!endsAuthority ·)) &&
    isTail (afterScheme.dropWhile (!endsAuthority ·))

end Address
end BatchBridge
