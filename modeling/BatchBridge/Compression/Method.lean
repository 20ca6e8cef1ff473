import BatchBridge.Compression.Inflate
import BatchBridge.Compression.InPlace

/-!
# Compression methods

Once a client has announced a method, the payload of every batch frame is compressed with it.

* `Method` — the methods and their codes.
* `compress` — a payload as a client may send it.  Both formats allow bytes as they are, and no
  more is needed: whoever reads them accepts any other encoding too.
* `Decompressor` — the receiving side.  All that is compressed is written to one scratch: a zlib
  stream is appended to it after it has been cleared, an LZ4 block is written over its front.
* `Decompressor.expand` — the payload of a frame on its own.
-/

namespace BatchBridge.Compression

/-- How batch payloads are compressed. -/
inductive Method where
  | none
  | zlib
  | lz4
  deriving DecidableEq, Repr

namespace Method

/-- The number that announces the method. -/
def code : Method → Nat
  | none => 0
  | zlib => 1
  | lz4 => 2

/-- The method that a number announces. -/
def ofCode (code : Nat) : Except BridgeError Method :=
  match code with
  | 0 => .ok none
  | 1 => .ok zlib
  | 2 => .ok lz4
  | other => .error (.protocol (.unknownCompression other))

@[simp] theorem ofCode_code (method : Method) : ofCode method.code = .ok method := by
  cases method <;> rfl

/-- The name of a method. -/
def name : Method → String
  | none => "NONE"
  | zlib => "ZLIB"
  | lz4 => "LZ4"

end Method

/-! ## Compressing -/

/-- The longest stored block. -/
def maxStored : Nat := 65535

/-- Two bytes, the lower first. -/
def lowFirst (n : Nat) : Bytes := (Bytes.ofNatBE 2 n).reverse

/-- A stored block.  `last` is 1 for the last block of a stream and else 0. -/
def storedBlock (last : UInt8) (data : Bytes) : Bytes :=
  last :: lowFirst data.length ++ lowFirst (maxStored - data.length) ++ data

/-- Data as stored blocks, `rounds` full ones at most before the last. -/
def storedBlocks : Nat → Bytes → Bytes
  | 0, data => storedBlock 1 data
  | rounds + 1, data =>
    match data.drop maxStored with
    | [] => storedBlock 1 data
    | b :: rest => storedBlock 0 (data.take maxStored) ++ storedBlocks rounds (b :: rest)

/-- A zlib stream of stored blocks. -/
def deflateStored (data : Bytes) : Bytes :=
  0x78 :: 0x01 :: storedBlocks (data.length / maxStored) data ++
    Bytes.ofNatBE 4 (Adler.ofBytes ⟨data.toArray⟩)

/-- A payload compressed with a method. -/
def compress (method : Method) (data : Bytes) : Bytes :=
  match method with
  | .none => data
  | .zlib => deflateStored data
  | .lz4 => Lz4.write data

/-! ## Decompressing -/

/-- The largest batch payload after decompression. -/
def maxDecompressed : Nat := 32 * 1024 * 1024

/-- The payload of one frame, given how much room to expect it to take. -/
def Decompressor.expand (method : Method) (room : Nat) (frame : Bytes) :
    Except BatchFault ByteArray :=
  match method with
  | .none => .ok ⟨frame.toArray⟩
  | .zlib => (inflate maxDecompressed room ⟨frame.toArray⟩).mapError .zlib
  | .lz4 => (Lz4.expand maxDecompressed room frame).mapError .lz4

/-! ### The scratch -/

/-- So many zeros.  They are made by doubling, since there may be millions. -/
def zeros : Nat → ByteArray
  | 0 => .empty
  | n + 1 =>
    let half := zeros ((n + 1) / 2)
    if (n + 1) % 2 = 0 then half ++ half else (half ++ half).push 0
termination_by n => n

/-- Grows a buffer to a size, if it is smaller. -/
def grown (size : Nat) (buffer : ByteArray) : ByteArray :=
  if buffer.size < size then buffer ++ zeros (size - buffer.size) else buffer

/-- Nothing, with as much room as the buffer has taken. -/
def cleared (buffer : ByteArray) : ByteArray := ByteArray.emptyWithCapacity buffer.size

@[simp] theorem size_zeros (n : Nat) : (zeros n).size = n := by
  induction n using zeros.induct with
  | case1 => rw [zeros, ByteArray.size_empty]
  | case2 n heven ih =>
    simp only [zeros, heven, if_true, ByteArray.size_append, ih]
    omega
  | case3 n hodd ih =>
    simp only [zeros, hodd, if_false, ByteArray.size_push, ByteArray.size_append, ih]
    omega

/-- It has that size then, if it has not been larger. -/
theorem size_grown {size : Nat} {buffer : ByteArray} (h : buffer.size ≤ size) :
    (grown size buffer).size = size := by
  rw [grown]
  split
  · rw [ByteArray.size_append, size_zeros]
    omega
  · omega

/-- The receiving side of a stream of compressed payloads. -/
structure Decompressor where
  method : Method
  /-- What payloads are written to.  What an earlier frame has left there stays there. -/
  scratch : ByteArray
  /-- Output into the scratch is limited by its size. -/
  bounded : method = .lz4 → scratch.size ≤ maxDecompressed

namespace Decompressor

/-- Before the first payload. -/
def new (method : Method) : Decompressor := ⟨method, .empty, fun _ => Nat.zero_le _⟩

/-- The payload of one frame.  A zlib stream is appended to the cleared scratch.  An LZ4 block is
written over the front of a scratch that has been grown to the largest payload. -/
def decompress (decompressor : Decompressor) (frame : Bytes) :
    Except BatchFault ByteArray × Decompressor :=
  match decompressor with
  | ⟨.none, scratch, bounded⟩ => (.ok ⟨frame.toArray⟩, ⟨.none, scratch, bounded⟩)
  | ⟨.zlib, scratch, _⟩ =>
    let (result, scratch) := inflateOnto maxDecompressed (cleared scratch) ⟨frame.toArray⟩
    ((result.map fun () => scratch).mapError .zlib, ⟨.zlib, scratch, fun h => nomatch h⟩)
  | ⟨.lz4, scratch, bounded⟩ =>
    let buffer := grown maxDecompressed scratch
    let outcome := Lz4.expandInto buffer frame
    ((outcome.1.map fun length => outcome.2.extract 0 length).mapError .lz4,
      ⟨.lz4, outcome.2, fun _ => by
        have hsize := (Lz4.expandInto_eq buffer 0 frame).2
        exact Nat.le_of_eq (hsize.trans (size_grown (bounded rfl)))⟩)

end Decompressor
end BatchBridge.Compression
