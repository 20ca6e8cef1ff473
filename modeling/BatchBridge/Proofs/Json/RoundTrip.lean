import BatchBridge.Json.Printer
import BatchBridge.Proofs.Json.Values
import Mathlib.Tactic.SplitIfs

/-!
# JSON trees survive being written

A tree is written in one of its spellings, and so it is read back.

* `Token.Closed` — a token that ends by itself.  Numbers and words do not: what follows decides
  where they end.
* **`Token.Closed.spelling_write`** — a closed token is written in one of its spellings.
* **`parse?_render`** — a tree of closed tokens is read back.
* `Text.decode?_ofString` — and so is the text in its strings.
-/

namespace BatchBridge.Json

/-- A token that ends by itself, and that holds text. -/
inductive Token.Closed : Token → Prop where
  | openBrace : Closed .openBrace
  | closeBrace : Closed .closeBrace
  | openBracket : Closed .openBracket
  | closeBracket : Closed .closeBracket
  | comma : Closed .comma
  | colon : Closed .colon
  | string (text : String) : Closed (.string (.ofString text))

/-! ## Strings -/

/-- A control character is written with two hexadecimal digits that count. -/
theorem hexEscape_control {n : Nat} (h : n < 32) :
    hexEscape n = ['\\', 'u', '0', '0', Nat.digitChar (n / 16), Nat.digitChar (n % 16)] := by
  have all : ∀ n < 32,
      hexEscape n = ['\\', 'u', '0', '0', Nat.digitChar (n / 16), Nat.digitChar (n % 16)] := by
    decide
  exact all n h

theorem spelling_hexEscape {c : Char} (h : c.toNat < 32) :
    (Unit.char c).Spelling (hexEscape c.toNat) := by
  have hzero : HexDigit '0' 0 := .small (n := 0) (by decide)
  have hzeros : HexDigits ['0', '0'] 0 := (HexDigits.nil.snoc hzero).snoc hzero
  have hhigh : HexDigit (Nat.digitChar (c.toNat / 16)) (c.toNat / 16) := .small (by omega)
  have hlow : HexDigit (Nat.digitChar (c.toNat % 16)) (c.toNat % 16) := .small (by omega)
  have hdigits := (hzeros.snoc hhigh).snoc hlow
  rw [show (0 * 16 + c.toNat / 16) * 16 + c.toNat % 16 = c.toNat by omega] at hdigits
  rw [hexEscape_control h]
  exact .code rfl hdigits

/-- **A character is written in one of its spellings.** -/
theorem spelling_write_char (c : Char) : (Unit.char c).Spelling (Unit.write (.char c)) := by
  rw [Unit.write]
  split_ifs with h₁ h₂ h₃ h₄ h₅ h₆ h₇ h₈
  · subst h₁; exact .short (by decide)
  · subst h₂; exact .short (by decide)
  · subst h₃; exact .short (by decide)
  · subst h₄; exact .short (by decide)
  · subst h₅; exact .short (by decide)
  · subst h₆; exact .short (by decide)
  · subst h₇; exact .short (by decide)
  · exact spelling_hexEscape h₈
  · exact .plain (Nat.le_of_not_lt h₈) h₁ h₂

theorem spelling_write_chars (chars : List Char) :
    Text.Spelling (chars.map Unit.char) ((chars.map Unit.char).flatMap Unit.write) := by
  induction chars using List.reverseRecOn with
  | nil => exact .nil
  | append_singleton chars c ih =>
    rw [List.map_append, List.flatMap_append, List.map_singleton, List.flatMap_singleton]
    exact .snoc ih (spelling_write_char c)

/-! ## Tokens -/

/-- **A closed token is written in one of its spellings.** -/
theorem Token.Closed.spelling_write {token : Token} (h : token.Closed) :
    token.Spelling token.write := by
  cases h with
  | string text => exact .string (spelling_write_chars text.toList)
  | _ => exact .mark rfl

theorem spells_write {tokens : List Token} (h : ∀ token ∈ tokens, token.Closed) :
    Spells tokens (tokens.flatMap Token.write) := by
  induction tokens using List.reverseRecOn with
  | nil => exact .nil
  | append_singleton tokens token ih =>
    rw [List.flatMap_append, List.flatMap_singleton]
    have hlast : token.Closed := h token (List.mem_append_right _ List.mem_cons_self)
    exact .token (ih fun t ht => h t (List.mem_append_left _ ht)) hlast.spelling_write

/-- **A tree of closed tokens is read back** from what it is written as. -/
theorem parse?_render {tree : Json} (h : ∀ token ∈ tree.tokens, token.Closed) :
    parse? tree.render = some tree := by
  rw [parse?_eq_some_iff, render, String.toList_ofList]
  exact spells_write h

/-! ## Text -/

theorem Text.denotes_map_char (chars : List Char) : Text.Denotes (chars.map Unit.char) chars := by
  induction chars with
  | nil => exact .nil
  | cons c chars ih => exact .char ih

/-- The contents of a string that was made from text are that text. -/
@[simp] theorem Text.decode?_ofString (text : String) :
    (Text.ofString text).decode? = some text :=
  Text.decode?_eq_some_iff.2 (denotes_map_char text.toList)

end BatchBridge.Json
