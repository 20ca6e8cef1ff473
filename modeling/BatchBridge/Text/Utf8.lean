import BatchBridge.Bytes

/-!
# UTF-8

Text travels as UTF-8, in the well-formed subset: no overlong forms, no surrogates, nothing above
U+10FFFF.  One byte machine serves both readers.

* `first`, `Tail.next` — the machine.  A first byte fixes how many bytes follow and, for the
  second byte, the only range in which the sequence can still become a character.  A sequence is
  therefore refused at the first byte that rules it out, and what came before that byte is the
  longest prefix of it that was still possible.
* `decode` — strict reading, with the place and length of the first malformed sequence.
* `decodeLossy` — every malformed sequence becomes one U+FFFD.
* `encode` — the bytes of a text.
-/

namespace BatchBridge.Utf8

/-- The bytes of a text. -/
def encode (text : String) : Bytes :=
  text.toList.flatMap String.utf8EncodeChar

/-! ## The byte machine -/

/-- A sequence that has begun: the bits read so far, how many bytes are still `needed`, how many
have been `seen`, and the range in which the next byte has to lie. -/
structure Tail where
  code : Nat
  needed : Nat
  seen : Nat
  low : UInt8
  high : UInt8
  deriving DecidableEq, Repr

/-- What one more byte does to a sequence. -/
inductive Step where
  /-- It completes a character. -/
  | char (c : Char)
  /-- The sequence goes on. -/
  | more (tail : Tail)
  /-- The byte cannot stand here. -/
  | bad
  deriving DecidableEq, Repr

/-- The first byte of a sequence. -/
def first (b : UInt8) : Step :=
  if b < 0x80 then .char (Char.ofNat b.toNat)
  else if b < 0xC2 then .bad
  else if b < 0xE0 then .more ⟨b.toNat - 0xC0, 1, 1, 0x80, 0xBF⟩
  else if b < 0xF0 then
    .more ⟨b.toNat - 0xE0, 2, 1, if b = 0xE0 then 0xA0 else 0x80, if b = 0xED then 0x9F else 0xBF⟩
  else if b < 0xF5 then
    .more ⟨b.toNat - 0xF0, 3, 1, if b = 0xF0 then 0x90 else 0x80, if b = 0xF4 then 0x8F else 0xBF⟩
  else .bad

/-- A later byte.  After the second one every byte from 80 to BF will do. -/
def Tail.next (tail : Tail) (b : UInt8) : Step :=
  if tail.low ≤ b ∧ b ≤ tail.high then
    let code := tail.code * 64 + (b.toNat - 0x80)
    if tail.needed ≤ 1 then .char (Char.ofNat code)
    else .more ⟨code, tail.needed - 1, tail.seen + 1, 0x80, 0xBF⟩
  else .bad

/-! ## Strict reading -/

/-- Why bytes are not text: the index at which a malformed sequence starts, and how many bytes it
has.  No length means that the bytes end inside a sequence that was possible so far. -/
structure Fault where
  index : Nat
  length : Option Nat
  deriving DecidableEq, Repr

/-- The fault in words. -/
def Fault.message (fault : Fault) : String :=
  match fault.length with
  | some n => s!"invalid utf-8 sequence of {n} bytes from index {fault.index}"
  | none => s!"incomplete utf-8 byte sequence from index {fault.index}"

/-- Reads on from `index` with `text` read so far and perhaps a sequence begun. -/
def decodeFrom (index : Nat) (text : String) : Option Tail → Bytes → Except Fault String
  | none, [] => .ok text
  | some tail, [] => .error ⟨index - tail.seen, none⟩
  | none, b :: rest =>
    match first b with
    | .char c => decodeFrom (index + 1) (text.push c) none rest
    | .more tail => decodeFrom (index + 1) text (some tail) rest
    | .bad => .error ⟨index, some 1⟩
  | some tail, b :: rest =>
    match tail.next b with
    | .char c => decodeFrom (index + 1) (text.push c) none rest
    | .more tail => decodeFrom (index + 1) text (some tail) rest
    | .bad => .error ⟨index - tail.seen, some tail.seen⟩

/-- The text that the bytes spell, or the first fault. -/
def decode (bytes : Bytes) : Except Fault String :=
  decodeFrom 0 "" none bytes

/-! ## Lossy reading -/

/-- Stands for a malformed sequence. -/
def replacement : Char := '\uFFFD'

/-- Takes in a byte at the start of a sequence. -/
def lossyFirst (text : String) (b : UInt8) : String × Option Tail :=
  match first b with
  | .char c => (text.push c, none)
  | .more tail => (text, some tail)
  | .bad => (text.push replacement, none)

/-- Takes in a byte.  One that does not continue the sequence begun ends it, malformed, and then
starts a sequence of its own. -/
def lossyStep : String × Option Tail → UInt8 → String × Option Tail
  | (text, none), b => lossyFirst text b
  | (text, some tail), b =>
    match tail.next b with
    | .char c => (text.push c, none)
    | .more tail => (text, some tail)
    | .bad => lossyFirst (text.push replacement) b

/-- The text of the bytes, with U+FFFD for every malformed sequence and for an unfinished one at
the end. -/
def decodeLossy (bytes : Bytes) : String :=
  match bytes.foldl lossyStep ("", none) with
  | (text, none) => text
  | (text, some _) => text.push replacement

end BatchBridge.Utf8
