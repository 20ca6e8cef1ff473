import BatchBridge.Compression.Adler
import BatchBridge.Compression.Huffman
import BatchBridge.Compression.Window
import BatchBridge.Error

/-!
# Inflating zlib streams

A zlib stream is a header of two bytes, a deflate stream and a checksum.  The deflate stream is a
sequence of blocks: bytes as they are, or symbols of two codes, one for literals and lengths and
one for distances.

* `State`, `Inflater` — the input and how far it has been read, bit by bit from the low end of each
  byte, and the output so far.  A failure leaves the output in place.
* `blocks` — the deflate stream.  A distance that reaches back before the output finds zeros: the
  window that matches are copied from starts out that way.
* `inflateOnto` — the output of a whole stream, of at most `limit` bytes, behind what is there.
* `inflate` — the same, from nothing.

The output is handed over when a window of it is full, when a piece of the input has been read to
its end, and at the end of the stream.  Only then does its size count.  So a fault in the window
that passes the limit is still a fault if it comes before the output is handed over, and else the
stream is too long.
-/

namespace BatchBridge.Compression

/-- The size of the window that matches are copied from. -/
def windowBytes : Nat := 32768

/-- The size of the pieces in which the input is taken in. -/
def pieceBytes : Nat := 32768

/-- Why inflating stops early. -/
inductive Stop where
  /-- The input has no more bits. -/
  | incomplete
  | corrupt
  /-- More output than allowed is handed over. -/
  | full
  deriving DecidableEq, Repr

/-- How far inflating has come. -/
structure State where
  input : ByteArray
  /-- The number of bits read. -/
  position : Nat
  output : ByteArray
  /-- The largest output that may be handed over. -/
  limit : Nat

/-- A step of inflating. -/
abbrev Inflater := EStateM Stop State

namespace Inflater

/-! ## Bits -/

/-- The next bit.  The first one of a piece is only there once the output so far is handed over. -/
def bit : Inflater Nat := fun s =>
  if s.position % (8 * pieceBytes) = 0 && s.output.size > s.limit then .error .full s
  else if h : s.position / 8 < s.input.size then
    .ok (((s.input[s.position / 8]).toNat >>> (s.position % 8)) % 2)
      { s with position := s.position + 1 }
  else .error .incomplete s

/-- A number of `n` bits, the lowest first. -/
def bits : Nat → Inflater Nat
  | 0 => pure 0
  | n + 1 => do
    let low ← bit
    let rest ← bits n
    pure (low + 2 * rest)

/-- Skips the rest of a byte that has been begun. -/
def align : Inflater Unit :=
  modify fun s => { s with position := (s.position + 7) / 8 * 8 }

/-- The next symbol of a code.  `first` is the first word of the length at hand and `index` the
place of its symbol; a word that belongs to no symbol is noticed once it is as long as any. -/
def symbolFrom (symbols : Array Nat) : List Nat → Nat → Nat → Nat → Inflater Nat
  | [], _, _, _ => throw .corrupt
  | count :: counts, word, first, index => do
    let word := word + (← bit)
    if word < first + count then
      pure (symbols.getD (index + (word - first)) 0)
    else symbolFrom symbols counts (word * 2) ((first + count) * 2) (index + count)

/-- The next symbol of a code. -/
def symbol (code : Code) : Inflater Nat := symbolFrom code.symbols code.counts 0 0 0

/-! ## Output -/

/-- Makes sure that `n` more bytes fit into the window that passes the limit. -/
def reserve (n : Nat) : Inflater Unit := fun s =>
  if s.output.size + n ≤ s.limit + windowBytes then .ok () s else .error .full s

/-- One byte of output. -/
def put (b : UInt8) : Inflater Unit := do
  reserve 1
  modify fun s => { s with output := s.output.push b }

/-- A match: `n` bytes from `distance` back. -/
def putMatch (n distance : Nat) : Inflater Unit := do
  reserve n
  modify fun s => { s with output := copyBack n distance s.output }

/-- The next bytes of the input, which stands at the start of a byte: `n` at most, and no more than
the piece at hand has and the window that passes the limit takes.  Their number is returned. -/
def putPiece (n : Nat) : Inflater Nat := fun s =>
  let start := s.position / 8
  let offset := start % pieceBytes
  if offset = 0 && s.output.size > s.limit then .error .full s
  else
    let size := min n (min (pieceBytes - offset) (s.limit + windowBytes - s.output.size))
    let piece := s.input.extract start (start + size)
    if piece.size = 0 then .error .incomplete s
    else
      .ok piece.size
        { s with position := s.position + 8 * piece.size, output := s.output ++ piece }

/-- The next `n` bytes of the input, which stands at the start of a byte.  Every round takes one at
least. -/
def putInput : Nat → Nat → Inflater Unit
  | rounds + 1, n + 1 => do
    reserve 1
    let taken ← putPiece (n + 1)
    putInput rounds (n + 1 - taken)
  | _, _ => pure ()

/-! ## Blocks -/

/-- The shortest length of each length symbol, and the bits that follow it. -/
def lengthTable : Array (Nat × Nat) := #[
  (3, 0), (4, 0), (5, 0), (6, 0), (7, 0), (8, 0), (9, 0), (10, 0), (11, 1), (13, 1), (15, 1),
  (17, 1), (19, 2), (23, 2), (27, 2), (31, 2), (35, 3), (43, 3), (51, 3), (59, 3), (67, 4),
  (83, 4), (99, 4), (115, 4), (131, 5), (163, 5), (195, 5), (227, 5), (258, 0)]

/-- The shortest distance of each distance symbol, and the bits that follow it. -/
def distanceTable : Array (Nat × Nat) := #[
  (1, 0), (2, 0), (3, 0), (4, 0), (5, 1), (7, 1), (9, 2), (13, 2), (17, 3), (25, 3), (33, 4),
  (49, 4), (65, 5), (97, 5), (129, 6), (193, 6), (257, 7), (385, 7), (513, 8), (769, 8),
  (1025, 9), (1537, 9), (2049, 10), (3073, 10), (4097, 11), (6145, 11), (8193, 12), (12289, 12),
  (16385, 13), (24577, 13)]

/-- A length or distance: the entry of its symbol and the bits that follow. -/
def extended (table : Array (Nat × Nat)) (entry : Nat) : Inflater Nat := do
  match table[entry]? with
  | none => throw .corrupt
  | some (base, extra) =>
    let more ← bits extra
    pure (base + more)

/-- The symbol that ends a block. -/
def endOfBlock : Nat := 256

/-- The symbols of a block up to its end.  Every round reads a bit at least, so as many rounds as
there are bits are enough. -/
def symbols (literals distances : Code) : Nat → Inflater Unit
  | 0 => throw .incomplete
  | rounds + 1 => do
    let s ← symbol literals
    if s < endOfBlock then
      put (UInt8.ofNat s)
      symbols literals distances rounds
    else if s = endOfBlock then pure ()
    else
      let length ← extended lengthTable (s - endOfBlock - 1)
      let d ← symbol distances
      let distance ← extended distanceTable d
      putMatch length distance
      symbols literals distances rounds

/-- The code lengths of the code for literals and lengths that blocks share. -/
def sharedLiteralLengths : List Nat :=
  List.replicate 144 8 ++ List.replicate 112 9 ++ List.replicate 24 7 ++ List.replicate 8 8

/-- The code lengths of the code for distances that blocks share. -/
def sharedDistanceLengths : List Nat := List.replicate 32 5

/-- The order in which the lengths of the code for code lengths are sent. -/
def lengthOrder : List Nat := [16, 17, 18, 0, 8, 7, 9, 6, 10, 5, 11, 4, 12, 3, 13, 2, 14, 1, 15]

/-- A code, or the end of it all if there is none with these lengths. -/
def codeOf (sparse : Sparse) (lengths : List Nat) : Inflater Code :=
  match Code.ofLengths? sparse lengths with
  | some code => pure code
  | none => throw .corrupt

/-- The lengths of the code for code lengths, `n` of which are sent. -/
def lengthCodeLengths : Nat → List Nat → Array Nat → Inflater (Array Nat)
  | n + 1, symbol :: order, lengths => do
    let length ← bits 3
    lengthCodeLengths n order (lengths.set! symbol length)
  | _, _, lengths => pure lengths

/-- Code lengths, until there are `total` of them or more; every round adds one at least. -/
def codeLengths (code : Code) (total : Nat) : Nat → Array Nat → Inflater (Array Nat)
  | 0, lengths => pure lengths
  | rounds + 1, lengths => do
    if total ≤ lengths.size then pure lengths
    else
      let s ← symbol code
      if s < 16 then codeLengths code total rounds (lengths.push s)
      else if s = 16 then
        match lengths.back? with
        | none => throw .corrupt
        | some last =>
          let more ← bits 2
          codeLengths code total rounds (lengths ++ Array.replicate (3 + more) last)
      else if s = 17 then
        let more ← bits 3
        codeLengths code total rounds (lengths ++ Array.replicate (3 + more) 0)
      else
        let more ← bits 7
        codeLengths code total rounds (lengths ++ Array.replicate (11 + more) 0)

/-- The two codes that a block brings with it.  The end of the block has to have a word. -/
def ownCodes : Inflater (Code × Code) := do
  let literals := (← bits 5) + 257
  let distances := (← bits 5) + 1
  let sent := (← bits 4) + 4
  if literals > 286 || distances > 30 then throw .corrupt
  let lengthCode ← codeOf .never (← lengthCodeLengths sent lengthOrder (.replicate 19 0)).toList
  let total := literals + distances
  let lengths ← codeLengths lengthCode total total #[]
  if lengths.size ≠ total then throw .corrupt
  if lengths.getD endOfBlock 0 = 0 then throw .corrupt
  let literalCode ← codeOf .single (lengths.toList.take literals)
  let distanceCode ← codeOf .empty (lengths.toList.drop literals)
  pure (literalCode, distanceCode)

/-- A block of bytes as they are, with their number and its complement before them. -/
def storedBlock : Inflater Unit := do
  align
  let length ← bits 16
  let complement ← bits 16
  if length + complement ≠ 65535 then throw .corrupt
  putInput length length

/-- The blocks of a deflate stream, up to one that says it is the last. -/
def blocks (bitCount : Nat) : Nat → Inflater Unit
  | 0 => throw .incomplete
  | rounds + 1 => do
    let last ← bit
    let kind ← bits 2
    if kind = 0 then storedBlock
    else if kind = 1 then
      let literals ← codeOf .never sharedLiteralLengths
      let distances ← codeOf .never sharedDistanceLengths
      symbols literals distances bitCount
    else if kind = 2 then
      let (literals, distances) ← ownCodes
      symbols literals distances bitCount
    else throw .corrupt
    if last = 0 then blocks bitCount rounds

/-! ## Zlib streams -/

/-- The header: method and window size, and flags with check bits. -/
def header : Inflater Unit := do
  let method ← bits 8
  let flags ← bits 8
  if (method * 256 + flags) % 31 ≠ 0 || flags / 32 % 2 ≠ 0 || method % 16 ≠ 8 || method / 16 > 7 then
    throw .corrupt

/-- The checksum of the output. -/
def checksum : Inflater Unit := do
  align
  let b₃ ← bits 8
  let b₂ ← bits 8
  let b₁ ← bits 8
  let b₀ ← bits 8
  let s ← get
  if ((b₃ * 256 + b₂) * 256 + b₁) * 256 + b₀ ≠ Adler.ofBytes s.output then throw .corrupt

/-- A whole zlib stream. -/
def stream (bitCount : Nat) : Inflater Unit := do
  header
  blocks bitCount bitCount
  checksum

end Inflater

/-- Appends the output of a zlib stream, unless all of it is more than `limit` bytes.  Bytes after
the stream are ignored.  What has been put out stays, also if the stream fails. -/
def inflateOnto (limit : Nat) (output input : ByteArray) : Except ZlibFault Unit × ByteArray :=
  match Inflater.stream (8 * input.size + 1) { input, position := 0, output, limit } with
  | .ok () s => (if s.output.size ≤ limit then .ok () else .error (.tooLong limit), s.output)
  | .error .corrupt s => (.error .corrupt, s.output)
  | .error .full s => (.error (.tooLong limit), s.output)
  | .error .incomplete s =>
    (.error (if s.output.size ≤ limit then .incomplete else .tooLong limit), s.output)

/-- The output of a zlib stream, if it has at most `limit` bytes.  `room` is how much output to
expect. -/
def inflate (limit room : Nat) (input : ByteArray) : Except ZlibFault ByteArray :=
  match inflateOnto limit (ByteArray.emptyWithCapacity room) input with
  | (.ok (), output) => .ok output
  | (.error fault, _) => .error fault

end BatchBridge.Compression
