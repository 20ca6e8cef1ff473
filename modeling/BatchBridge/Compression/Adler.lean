import BatchBridge.Bytes

/-!
# Adler-32

The checksum of a zlib stream: two running sums modulo the largest prime below 65536.
-/

namespace BatchBridge.Compression

/-- The running sums. -/
structure Adler where
  low : Nat
  high : Nat
  deriving DecidableEq, Repr

namespace Adler

def modulus : Nat := 65521

/-- Of no bytes. -/
def empty : Adler := ⟨1, 0⟩

/-- Takes in a byte. -/
def step (sum : Adler) (b : UInt8) : Adler :=
  let low := (sum.low + b.toNat) % modulus
  ⟨low, (sum.high + low) % modulus⟩

/-- The sums as one number of 32 bits. -/
def value (sum : Adler) : Nat := sum.high * 65536 + sum.low

/-- The checksum of a byte array. -/
def ofBytes (data : ByteArray) : Nat := (data.foldl step empty).value

end Adler
end BatchBridge.Compression
