import BatchBridge.Bytes

/-!
# Canonical codes

A deflate code is given by the lengths of its words alone: words of one length are consecutive
numbers in the order of their symbols, and shorter words come first.

* `Code` — how many words there are of each length, and the symbols in the order of their words.
* `Code.ofLengths?` — the code with given lengths.  They have to fill the code space exactly, but
  for the exceptions that a `Sparse` names.
-/

namespace BatchBridge.Compression

/-- The longest word of a code, in bits. -/
def maxCodeLength : Nat := 15

/-- Which codes may leave a part of the code space unused. -/
inductive Sparse where
  | never
  /-- A code whose only word is one bit long. -/
  | single
  /-- The same, and a code without words. -/
  | empty
  deriving DecidableEq, Repr

/-- Whether a code that leaves code space unused is allowed; `words` are the lengths of its words. -/
def Sparse.allows : Sparse → List Nat → Bool
  | .never, _ => false
  | .single, words => words = [1]
  | .empty, words => words = [1] || words.isEmpty

/-- A canonical code. -/
structure Code where
  /-- The number of words of length 1, 2, … up to the longest; of a code without words the number
  of words of length 1. -/
  counts : List Nat
  symbols : Array Nat
  deriving Repr

namespace Code

/-- The symbols whose word has a length. -/
def ofLength (lengths : List Nat) (length : Nat) : List Nat :=
  lengths.zipIdx.filterMap fun (l, symbol) => if l = length then some symbol else none

/-- The number of words of the longest length, which is the size of the code space. -/
def codeSpace : Nat := 1 <<< maxCodeLength

/-- How much of the code space the words take up. -/
def filled (lengths : List Nat) : Nat :=
  lengths.foldl (fun taken l => if l = 0 then taken else taken + 1 <<< (maxCodeLength - l)) 0

/-- The code with given word lengths; length 0 stands for a symbol without a word. -/
def ofLengths? (sparse : Sparse) (lengths : List Nat) : Option Code :=
  let groups := (List.range (lengths.foldl max 1)).map fun i => ofLength lengths (i + 1)
  if filled lengths = codeSpace || sparse.allows (lengths.filter (· ≠ 0)) then
    some { counts := groups.map List.length, symbols := groups.flatten.toArray }
  else none

end Code
end BatchBridge.Compression
