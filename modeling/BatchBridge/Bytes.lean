/-!
# Bytes and big-endian numbers

Everything that travels is a list of bytes, and every number on the wire is big-endian with a
fixed width.

* `Bytes` — the list of bytes that messages, payloads and buffers are made of.
* `Bytes.span` — how many numbers can be written with `w` bytes.
* `Bytes.ofNatBE`, `Bytes.toNatBE` — a number as exactly `w` bytes, most significant first, and
  back.  **`toNatBE_ofNatBE`** says that nothing but the bits above `8 * w` is lost, and
  **`ofNatBE_toNatBE`** that every byte string is the writing of its number.
* `Bytes.split?` — the first `n` bytes and the rest, if there are that many.
-/

namespace BatchBridge

/-- A finite string of bytes. -/
abbrev Bytes := List UInt8

namespace Bytes

/-! ## Big-endian numbers -/

/-- How many numbers can be written with so many bytes. -/
def span : Nat → Nat
  | 0 => 1
  | w + 1 => span w * 256

theorem span_pos (w : Nat) : 0 < span w := by
  induction w with
  | zero => decide
  | succ w ih => exact Nat.mul_pos ih (by decide)

theorem span_add (v w : Nat) : span (v + w) = span v * span w := by
  induction w with
  | zero => exact (Nat.mul_one _).symm
  | succ w ih => rw [Nat.add_succ, span, span, ih, Nat.mul_assoc]

/-- The `w` big-endian bytes of `n`; bits above `8 * w` are dropped. -/
def ofNatBE : Nat → Nat → Bytes
  | 0, _ => []
  | w + 1, n => UInt8.ofNat (n / span w % 256) :: ofNatBE w n

/-- The number that a byte string spells, most significant byte first. -/
def toNatBE (bytes : Bytes) : Nat :=
  bytes.foldl (fun n b => n * 256 + b.toNat) 0

@[simp] theorem length_ofNatBE (w n : Nat) : (ofNatBE w n).length = w := by
  induction w with
  | zero => rfl
  | succ w ih => simp only [ofNatBE, List.length_cons, ih]

@[simp] theorem toNatBE_nil : toNatBE [] = 0 := rfl

/-- Reading from an accumulated value shifts that value past all bytes still to come. -/
theorem foldl_base (bytes : Bytes) (n : Nat) :
    bytes.foldl (fun n b => n * 256 + b.toNat) n = n * span bytes.length + toNatBE bytes := by
  induction bytes generalizing n with
  | nil => simp [toNatBE, span]
  | cons b bs ih =>
    simp only [toNatBE, List.foldl_cons, List.length_cons] at ih ⊢
    rw [ih (n * 256 + b.toNat), ih (0 * 256 + b.toNat), span]
    simp only [Nat.add_mul, Nat.zero_mul, Nat.zero_add]
    rw [Nat.mul_assoc, Nat.mul_comm 256, Nat.add_assoc]

@[simp] theorem toNatBE_cons (b : UInt8) (bs : Bytes) :
    toNatBE (b :: bs) = b.toNat * span bs.length + toNatBE bs := by
  have h := foldl_base bs (0 * 256 + b.toNat)
  simp only [Nat.zero_mul, Nat.zero_add] at h
  simpa [toNatBE] using h

/-- A byte string of length `w` spells a number below `span w`. -/
theorem toNatBE_lt (bytes : Bytes) : toNatBE bytes < span bytes.length := by
  induction bytes with
  | nil => decide
  | cons b bs ih =>
    have hb : b.toNat < 256 := b.toNat_lt
    rw [toNatBE_cons, List.length_cons, span]
    calc b.toNat * span bs.length + toNatBE bs
        < b.toNat * span bs.length + span bs.length := Nat.add_lt_add_left ih _
      _ = (b.toNat + 1) * span bs.length := by rw [Nat.add_mul, Nat.one_mul]
      _ ≤ 256 * span bs.length := Nat.mul_le_mul_right _ hb
      _ = span bs.length * 256 := Nat.mul_comm _ _

/-- **Writing and reading back** keeps the low `8 * w` bits. -/
theorem toNatBE_ofNatBE (w n : Nat) : toNatBE (ofNatBE w n) = n % span w := by
  induction w with
  | zero => exact (Nat.mod_one n).symm
  | succ w ih =>
    have h : n / span w % 256 % UInt8.size = n / span w % 256 :=
      Nat.mod_eq_of_lt (Nat.mod_lt _ (by decide))
    rw [ofNatBE, toNatBE_cons, length_ofNatBE, ih, UInt8.toNat_ofNat', h, span, Nat.mod_mul,
      Nat.add_comm, Nat.mul_comm]

theorem toNatBE_ofNatBE_of_lt {w n : Nat} (h : n < span w) : toNatBE (ofNatBE w n) = n := by
  rw [toNatBE_ofNatBE, Nat.mod_eq_of_lt h]

/-- The bytes of a number do not depend on what is dropped above them. -/
theorem ofNatBE_add_mul (w n k : Nat) : ofNatBE w (n + k * span w) = ofNatBE w n := by
  suffices ∀ v, v ≤ w → ofNatBE v (n + k * span w) = ofNatBE v n from this w (Nat.le_refl w)
  intro v
  induction v with
  | zero => intro _; rfl
  | succ v ih =>
    intro hv
    have hspan : k * span w = span v * (k * span (w - v - 1) * 256) := by
      have : w = v + (w - v - 1) + 1 := by omega
      conv => lhs; rw [this, span, span_add]
      ac_rfl
    rw [ofNatBE, ofNatBE, ih (by omega)]
    congr 2
    rw [hspan, Nat.add_mul_div_left _ _ (span_pos v), Nat.add_mul_mod_self_right]

/-- **Every byte string is the writing of its number.** -/
theorem ofNatBE_toNatBE (bytes : Bytes) : ofNatBE bytes.length (toNatBE bytes) = bytes := by
  induction bytes with
  | nil => rfl
  | cons b bs ih =>
    have hb : b.toNat < 256 := b.toNat_lt
    rw [List.length_cons, ofNatBE, toNatBE_cons]
    congr 1
    · rw [Nat.add_comm, Nat.add_mul_div_right _ _ (span_pos _), Nat.div_eq_of_lt (toNatBE_lt bs),
        Nat.zero_add, Nat.mod_eq_of_lt hb, UInt8.ofNat_toNat]
    · rw [Nat.add_comm, ofNatBE_add_mul, ih]

/-! ## Taking bytes off the front -/

/-- The first `n` bytes and what follows them, or nothing if fewer than `n` are there. -/
def split? (n : Nat) (bytes : Bytes) : Option (Bytes × Bytes) :=
  let front := bytes.take n
  if front.length = n then some (front, bytes.drop n) else none

theorem split?_eq_some_iff {n : Nat} {bytes front rest : Bytes} :
    split? n bytes = some (front, rest) ↔ bytes = front ++ rest ∧ front.length = n := by
  constructor
  · intro h
    simp only [split?] at h
    split at h
    · rename_i hlen
      simp only [Option.some.injEq, Prod.mk.injEq] at h
      obtain ⟨rfl, rfl⟩ := h
      exact ⟨(List.take_append_drop n bytes).symm, hlen⟩
    · simp at h
  · rintro ⟨rfl, rfl⟩
    simp [split?]

theorem split?_eq_none_iff {n : Nat} {bytes : Bytes} :
    split? n bytes = none ↔ bytes.length < n := by
  simp only [split?, List.length_take]
  split
  · simp only [reduceCtorEq, false_iff]; omega
  · simp only [true_iff]; omega

/-- Splitting sees only the front, so more bytes behind it change only the rest. -/
theorem split?_append {n : Nat} {bytes front rest : Bytes} (h : split? n bytes = some (front, rest))
    (more : Bytes) : split? n (bytes ++ more) = some (front, rest ++ more) := by
  obtain ⟨rfl, hlen⟩ := split?_eq_some_iff.1 h
  exact split?_eq_some_iff.2 ⟨List.append_assoc .., hlen⟩

end Bytes
end BatchBridge
