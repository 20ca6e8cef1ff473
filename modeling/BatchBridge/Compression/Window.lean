/-!
# Copying from earlier output

Both compressed formats name a piece of their output as a repetition of what stands a distance
back.  The piece may be longer than the distance, and then repeats itself.
-/

namespace BatchBridge.Compression

/-- Appends `n` bytes, each of them the byte `distance` back.  Before the first byte there are
zeros. -/
def copyBack : Nat → Nat → ByteArray → ByteArray
  | 0, _, out => out
  | n + 1, distance, out =>
    let b := if distance ≤ out.size then out.get! (out.size - distance) else 0
    copyBack n distance (out.push b)

end BatchBridge.Compression
