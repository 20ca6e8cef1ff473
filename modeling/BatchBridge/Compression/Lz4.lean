import BatchBridge.Compression.Window
import BatchBridge.Error

/-!
# LZ4 blocks

A block is a list of sequences: a token, literal bytes, and a match to copy from earlier output.
The token's high half counts the literals and its low half the match, four less than it is; a half
of 15 is continued by further bytes.  Only the last sequence has no match, and the block ends right
behind its literals.

* `Lz4.Target` — what output is written to; `appending` is output that grows.
* `Lz4.sequence` — one sequence: what it writes, and what it leaves of the block.
* `Lz4.expand` — the output of a block, of at most `limit` bytes.
* `Lz4.write` — a block of literals alone.
-/

namespace BatchBridge.Compression.Lz4

/-! ## Lengths -/

/-- Reads on a length that is continued: bytes are added up to one below 255. -/
def continued : Nat → Bytes → Except Lz4Fault (Nat × Bytes)
  | _, [] => .error .missingByte
  | length, b :: rest =>
    if b = 255 then continued (length + 255) rest else .ok (length + b.toNat, rest)

/-- The length that half a token begins. -/
def lengthOf (half : Nat) (input : Bytes) : Except Lz4Fault (Nat × Bytes) :=
  if half = 15 then continued 15 input else .ok (half, input)

/-- The shortest match. -/
def minMatch : Nat := 4

/-! ## Targets -/

/-- What output is written to. -/
structure Target (σ : Type) where
  /-- How much has been written. -/
  size : σ → Nat
  write : Bytes → σ → σ
  /-- Writes a number of bytes, each of them the byte a distance back. -/
  copy : Nat → Nat → σ → σ

/-- Bytes that output is appended to. -/
def appending : Target ByteArray where
  size := ByteArray.size
  write piece output := output ++ ⟨piece.toArray⟩
  copy := copyBack

/-! ## Expanding -/

/-- A step of expanding.  A failure leaves what has been written. -/
abbrev Expander (σ : Type) := EStateM Lz4Fault σ

section

variable {σ : Type} (target : Target σ) (limit : Nat)

/-- Takes over what has been found out about the block. -/
def found {α : Type} (result : Except Lz4Fault α) : Expander σ α :=
  match result with
  | .ok a => pure a
  | .error fault => throw fault

/-- Refuses output past the limit. -/
def reserve (length : Nat) : Expander σ Unit := fun s =>
  if target.size s + length ≤ limit then .ok () s
  else .error (.outputTooSmall limit (target.size s + length)) s

/-- The literals of a sequence, of which there are `length`. -/
def literals (length : Nat) (input : Bytes) : Expander σ Bytes :=
  match Bytes.split? length input with
  | none => throw .literalOutOfBounds
  | some (piece, rest) => do
    reserve target limit length
    modify (target.write piece)
    pure rest

/-- Repeats what stands an offset back. -/
def repeated (length offset : Nat) : Expander σ Unit := fun s =>
  if offset ≤ target.size s then .ok () (target.copy length offset s)
  else .error .offsetOutOfBounds s

/-- The match of a sequence: its offset, low byte first, and the rest of its length. -/
def matched (half : Nat) (input : Bytes) : Expander σ Bytes :=
  match input with
  | low :: high :: rest =>
    let offset := low.toNat + 256 * high.toNat
    if offset = 0 then throw .zeroOffset
    else do
      let (length, rest) ← found (lengthOf half rest)
      reserve target limit (length + minMatch)
      repeated target (length + minMatch) offset
      pure rest
  | _ => throw .missingByte

/-- One sequence, and what it leaves of the block; nothing is left at the end.  The low half of the
last token means nothing. -/
def sequence (input : Bytes) : Expander σ (Option Bytes) :=
  match input with
  | [] => throw .missingByte
  | token :: rest => do
    let (length, rest) ← found (lengthOf (token.toNat / 16) rest)
    let rest ← literals target limit length rest
    if rest.isEmpty then pure none
    else
      let rest ← matched target limit (token.toNat % 16) rest
      pure (some rest)

/-- The sequences of a block.  Each takes a byte at least, so as many rounds as there are bytes,
and one more to notice that none is left, are enough. -/
def sequences : Nat → Bytes → Expander σ Unit
  | 0, _ => throw .missingByte
  | rounds + 1, input => do
    match ← sequence target limit input with
    | none => pure ()
    | some rest => sequences rounds rest

end

/-- The output of a block, if it has at most `limit` bytes.  `room` is how much to expect. -/
def expand (limit room : Nat) (input : Bytes) : Except Lz4Fault ByteArray :=
  match sequences appending limit (input.length + 1) input (ByteArray.emptyWithCapacity room) with
  | .ok _ output => .ok output
  | .error fault _ => .error fault

/-! ## Writing -/

/-- The bytes that continue a length. -/
def continuation (n : Nat) : Bytes :=
  List.replicate (n / 255) 255 ++ [UInt8.ofNat (n % 255)]

/-- A block of literals alone. -/
def write (data : Bytes) : Bytes :=
  if data.length < 15 then UInt8.ofNat (data.length * 16) :: data
  else 0xF0 :: continuation (data.length - 15) ++ data

end BatchBridge.Compression.Lz4
