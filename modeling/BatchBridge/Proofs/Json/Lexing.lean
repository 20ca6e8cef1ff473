import BatchBridge.Proofs.Json.Numbers
import BatchBridge.Proofs.Text.Utf8
import Mathlib.Data.List.Chain

/-!
# The grammar of tokens

A text is made of tokens and of blanks between them.  The lexer takes one character at a time.

* `Unit.Spelling`, `Text.Spelling`, `Token.Spelling` — how a character of a string, a string and a
  token can be written.
* `Spells` — the texts that are made of some tokens.
* `Reads` — what the lexer has read so far, by its state.  **`spells_of_lex`**: the tokens that it
  finds are what the text is made of.
* `Settled` — the lexer has read whole tokens.
* **`lex_eq_some_iff`** — it finds the tokens of every text that is made of some, as long as no two
  words, numbers or strings stand side by side, which they do in no JSON text.
-/

namespace BatchBridge.Json

/-! ## The grammar -/

/-- A hexadecimal digit and its value. -/
inductive HexDigit : Char → Nat → Prop where
  | small {n : Nat} : n < 16 → HexDigit (Nat.digitChar n) n
  | capital {n : Nat} : 10 ≤ n → n < 16 → HexDigit (Nat.digitChar n).toUpper n

/-- Hexadecimal digits and the number that they spell. -/
inductive HexDigits : List Char → Nat → Prop where
  | nil : HexDigits [] 0
  | snoc {digits : List Char} {code : Nat} {c : Char} {value : Nat} : HexDigits digits code →
      HexDigit c value → HexDigits (digits ++ [c]) (code * 16 + value)

/-- The letters of the short escapes, with the characters that they stand for. -/
def shortEscapes : List (Char × Char) :=
  [('"', '"'), ('\\', '\\'), ('/', '/'), ('b', '\x08'), ('f', '\x0c'), ('n', '\n'), ('r', '\r'),
    ('t', '\t')]

/-- A character may stand for itself, unless it is a control character, a quote or a backslash; it
may be escaped by a letter, if there is one for it, or by its code.  Half of a surrogate pair can
only be written by its code. -/
inductive Unit.Spelling : Unit → List Char → Prop where
  | plain {c : Char} : 0x20 ≤ c.toNat → c ≠ '"' → c ≠ '\\' → Spelling (.char c) [c]
  | short {letter c : Char} : (letter, c) ∈ shortEscapes → Spelling (.char c) ['\\', letter]
  | code {c : Char} {digits : List Char} : digits.length = 4 → HexDigits digits c.toNat →
      Spelling (.char c) ('\\' :: 'u' :: digits)
  | half {digits : List Char} {code : Nat} : digits.length = 4 → HexDigits digits code →
      0xD800 ≤ code → code < 0xE000 → Spelling (.surrogate code) ('\\' :: 'u' :: digits)

/-- What stands between the quotes of a string. -/
inductive Text.Spelling : Text → List Char → Prop where
  | nil : Spelling [] []
  | snoc {text : Text} {unit : Unit} {chars more : List Char} : Spelling text chars →
      unit.Spelling more → Spelling (text ++ [unit]) (chars ++ more)

/-- A token that consists of one character. -/
def Token.mark? : Token → Option Char
  | .openBrace => some '{'
  | .closeBrace => some '}'
  | .openBracket => some '['
  | .closeBracket => some ']'
  | .comma => some ','
  | .colon => some ':'
  | _ => none

inductive Token.Spelling : Token → List Char → Prop where
  | mark {token : Token} {c : Char} : token.mark? = some c → Spelling token [c]
  | null : Spelling .null ['n', 'u', 'l', 'l']
  | true : Spelling (.bool true) ['t', 'r', 'u', 'e']
  | false : Spelling (.bool false) ['f', 'a', 'l', 's', 'e']
  | number {digits : List Char} : Number digits → Spelling (.number digits) digits
  | string {text : Text} {chars : List Char} : text.Spelling chars →
      Spelling (.string text) ('"' :: (chars ++ ['"']))

/-- A text that is made of tokens and blanks. -/
inductive Spells : List Token → List Char → Prop where
  | nil : Spells [] []
  | blank {tokens : List Token} {chars : List Char} {c : Char} : Spells tokens chars →
      isBlank c = true → Spells tokens (chars ++ [c])
  | token {tokens : List Token} {token : Token} {chars more : List Char} : Spells tokens chars →
      token.Spelling more → Spells (tokens ++ [token]) (chars ++ more)

/-! ## Characters of strings -/

theorem hexDigit?_of_hexDigit {c : Char} {value : Nat} (h : HexDigit c value) :
    Text.hexDigit? c = some value := by
  have hsmall : ∀ n < 16, Text.hexDigit? (Nat.digitChar n) = some n := by decide
  have hcapital : ∀ n < 16, 10 ≤ n → Text.hexDigit? (Nat.digitChar n).toUpper = some n := by decide
  cases h with
  | small hn => exact hsmall _ hn
  | capital hten hn => exact hcapital _ hn hten

theorem toNat_le_of_le {a b : Char} (h : a ≤ b) : a.toNat ≤ b.toNat := by
  rwa [Char.le_def, UInt32.le_iff_toNat_le] at h

theorem hexDigit_of_hexDigit? {c : Char} {value : Nat} (h : Text.hexDigit? c = some value) :
    HexDigit c value := by
  have hdecimal : ∀ n < 10, Nat.digitChar n = Char.ofNat (48 + n) := by decide
  have hsmall : ∀ n < 16, 10 ≤ n → Nat.digitChar n = Char.ofNat (87 + n) := by decide
  have hcapital : ∀ n < 16, 10 ≤ n → (Nat.digitChar n).toUpper = Char.ofNat (55 + n) := by decide
  have hzero : '0'.toNat = 48 := rfl
  have hnine : '9'.toNat = 57 := rfl
  have ha : 'a'.toNat = 97 := rfl
  have hf : 'f'.toNat = 102 := rfl
  have hA : 'A'.toNat = 65 := rfl
  have hF : 'F'.toNat = 70 := rfl
  rw [Text.hexDigit?] at h
  split at h
  · rename_i hdigit
    rw [Char.isDigit, Bool.and_eq_true, decide_eq_true_eq, decide_eq_true_eq] at hdigit
    have hlow := toNat_le_of_le (show '0' ≤ c from hdigit.1)
    have hhigh := toNat_le_of_le (show c ≤ '9' from hdigit.2)
    cases h
    have hc : c = Nat.digitChar (c.toNat - '0'.toNat) := by
      rw [hdecimal _ (by omega), show 48 + (c.toNat - '0'.toNat) = c.toNat by omega,
        Char.ofNat_toNat]
    conv => lhs; rw [hc]
    exact .small (by omega)
  · split at h
    · rename_i hletter
      have hlow := toNat_le_of_le hletter.1
      have hhigh := toNat_le_of_le hletter.2
      cases h
      have hc : c = Nat.digitChar (c.toNat - 'a'.toNat + 10) := by
        rw [hsmall _ (by omega) (by omega),
          show 87 + (c.toNat - 'a'.toNat + 10) = c.toNat by omega, Char.ofNat_toNat]
      conv => lhs; rw [hc]
      exact .small (by omega)
    · split at h
      · rename_i hletter
        have hlow := toNat_le_of_le hletter.1
        have hhigh := toNat_le_of_le hletter.2
        cases h
        have hc : c = (Nat.digitChar (c.toNat - 'A'.toNat + 10)).toUpper := by
          rw [hcapital _ (by omega) (by omega),
            show 55 + (c.toNat - 'A'.toNat + 10) = c.toNat by omega, Char.ofNat_toNat]
        conv => lhs; rw [hc]
        exact .capital (by omega) (by omega)
      · cases h

theorem HexDigit.lt {c : Char} {value : Nat} (h : HexDigit c value) : value < 16 := by
  cases h <;> assumption

theorem escaped?_eq_some_iff {letter c : Char} :
    escaped? letter = some c ↔ (letter, c) ∈ shortEscapes := by
  simp only [escaped?, shortEscapes, List.mem_cons, Prod.mk.injEq, List.not_mem_nil, or_false]
  grind

/-- Four digits spell a code of sixteen bits. -/
theorem HexDigits.lt {digits : List Char} {code : Nat} (h : HexDigits digits code) :
    code < Nat.pow 16 digits.length := by
  induction h with
  | nil => decide
  | @snoc digits _ _ _ _ hdigit ih =>
    have hvalue := hdigit.lt
    rw [List.length_append, List.length_singleton]
    show _ < Nat.pow 16 digits.length * 16
    omega

/-- The unit of an escaped code is one that the code spells. -/
theorem spelling_ofCode {digits : List Char} {code : Nat} (hlength : digits.length = 4)
    (h : HexDigits digits code) : (Unit.ofCode code).Spelling ('\\' :: 'u' :: digits) := by
  have hsmall := h.lt
  rw [hlength] at hsmall
  have hsmall : code < 65536 := hsmall
  rw [Unit.ofCode]
  split
  · rename_i hrange
    exact .half hlength h hrange.1 hrange.2
  · rename_i hrange
    have hcode : (Char.ofNat code).toNat = code := Utf8.toNat_char_ofNat (by omega)
    exact .code hlength (hcode.symm ▸ h)

/-! ## What the lexer has read -/

/-- What has been read, by the state of the lexer. -/
inductive Reads : List Char → List Token × Scan → Prop where
  | between {done : List Token} {chars : List Char} : Spells done.reverse chars →
      Reads chars (done, .between)
  | string {done : List Token} {units : List Unit} {front inner : List Char} :
      Spells done.reverse front → Text.Spelling units.reverse inner →
      Reads (front ++ '"' :: inner) (done, .string units)
  | escape {done : List Token} {units : List Unit} {front inner : List Char} :
      Spells done.reverse front → Text.Spelling units.reverse inner →
      Reads (front ++ '"' :: inner ++ ['\\']) (done, .escape units)
  | hex {done : List Token} {units : List Unit} {front inner digits : List Char} {code : Nat} :
      Spells done.reverse front → Text.Spelling units.reverse inner → HexDigits digits code →
      digits.length < 4 →
      Reads (front ++ '"' :: inner ++ '\\' :: 'u' :: digits) (done, .hex units digits.length code)
  | number {done : List Token} {front chars : List Char} : Spells done.reverse front →
      Reads (front ++ chars.reverse) (done, .number chars)
  | word {done : List Token} {front letters : List Char} : Spells done.reverse front →
      Reads (front ++ letters.reverse) (done, .word letters)

theorem reads_mark {done : List Token} {chars : List Char} {token : Token} {c : Char}
    (h : Spells done.reverse chars) (hmark : token.mark? = some c) :
    Reads (chars ++ [c]) (token :: done, .between) :=
  .between (List.reverse_cons ▸ .token h (.mark hmark))

theorem reads_scanFresh {done : List Token} {chars : List Char} {c : Char}
    {state : List Token × Scan} (h : Spells done.reverse chars)
    (hscan : scanFresh done c = some state) : Reads (chars ++ [c]) state := by
  rw [scanFresh] at hscan
  rcases ite_eq_iff.1 hscan with ⟨hblank, ⟨⟩⟩ | ⟨-, hscan⟩
  · exact .between (.blank h hblank)
  -- The six marks.
  rcases ite_eq_iff.1 hscan with ⟨rfl, ⟨⟩⟩ | ⟨-, hscan⟩
  · exact reads_mark h rfl
  rcases ite_eq_iff.1 hscan with ⟨rfl, ⟨⟩⟩ | ⟨-, hscan⟩
  · exact reads_mark h rfl
  rcases ite_eq_iff.1 hscan with ⟨rfl, ⟨⟩⟩ | ⟨-, hscan⟩
  · exact reads_mark h rfl
  rcases ite_eq_iff.1 hscan with ⟨rfl, ⟨⟩⟩ | ⟨-, hscan⟩
  · exact reads_mark h rfl
  rcases ite_eq_iff.1 hscan with ⟨rfl, ⟨⟩⟩ | ⟨-, hscan⟩
  · exact reads_mark h rfl
  rcases ite_eq_iff.1 hscan with ⟨rfl, ⟨⟩⟩ | ⟨-, hscan⟩
  · exact reads_mark h rfl
  rcases ite_eq_iff.1 hscan with ⟨rfl, ⟨⟩⟩ | ⟨-, hscan⟩
  · exact .string h .nil
  rcases ite_eq_iff.1 hscan with ⟨-, ⟨⟩⟩ | ⟨-, hscan⟩
  · have hnumber : Reads (chars ++ [c].reverse) (done, .number [c]) := .number h
    exact hnumber
  rcases ite_eq_iff.1 hscan with ⟨-, ⟨⟩⟩ | ⟨-, ⟨⟩⟩
  have hword : Reads (chars ++ [c].reverse) (done, .word [c]) := .word h
  exact hword

theorem spelling_of_word? {letters : List Char} {token : Token} (h : word? letters = some token) :
    token.Spelling letters := by
  rw [word?] at h
  split_ifs at h with htrue hfalse hnull <;> cases h
  · exact htrue ▸ .true
  · exact hfalse ▸ .false
  · exact hnull ▸ .null

/-- What ends a run completes its token. -/
theorem spells_of_closeRun {done all : List Token} {scan : Scan} {chars : List Char}
    (h : Reads chars (done, scan)) (hclose : closeRun done scan = some all) :
    Spells all.reverse chars := by
  cases h with
  | between hdone =>
    cases hclose
    exact hdone
  | string => cases hclose
  | escape => cases hclose
  | hex => cases hclose
  | @number _ _ chars hfront =>
    simp only [closeRun] at hclose
    split_ifs at hclose with hnumber
    cases hclose
    rw [List.reverse_cons]
    exact .token hfront (.number (isNumber_iff.1 hnumber))
  | @word _ _ letters hfront =>
    obtain ⟨token, hword, rfl⟩ := Option.map_eq_some_iff.1 hclose
    rw [List.reverse_cons]
    exact .token hfront (spelling_of_word? hword)

/-- A unit more of a string has been read. -/
theorem reads_unit {done : List Token} {units : List Unit} {unit : Unit}
    {front inner more : List Char} (hfront : Spells done.reverse front)
    (hinner : Text.Spelling units.reverse inner) (hunit : unit.Spelling more) :
    Reads (front ++ '"' :: inner ++ more) (done, .string (unit :: units)) := by
  rw [List.append_assoc, List.cons_append]
  refine .string hfront ?_
  rw [List.reverse_cons]
  exact .snoc hinner hunit

/-- **A character is read.** -/
theorem reads_scanChar {chars : List Char} {state next : List Token × Scan} {c : Char}
    (h : Reads chars state) (hscan : scanChar state c = some next) : Reads (chars ++ [c]) next := by
  cases h with
  | between hdone => exact reads_scanFresh hdone hscan
  | string hfront hinner =>
    simp only [scanChar] at hscan
    split_ifs at hscan with hquote hbackslash hcontrol <;> cases hscan
    · subst hquote
      refine .between ?_
      rw [List.reverse_cons, List.append_assoc, List.cons_append]
      exact .token hfront (.string hinner)
    · exact hbackslash ▸ .escape hfront hinner
    · exact reads_unit hfront hinner (.plain (Nat.le_of_not_lt hcontrol) hquote hbackslash)
  | escape hfront hinner =>
    simp only [scanChar] at hscan
    split_ifs at hscan with hcode
    · cases hscan
      subst hcode
      have hnone : HexDigits [] 0 := .nil
      rw [List.append_assoc]
      exact .hex hfront hinner hnone (by decide)
    · obtain ⟨meant, hescaped, rfl⟩ := Option.map_eq_some_iff.1 hscan
      rw [List.append_assoc]
      exact reads_unit hfront hinner (.short (escaped?_eq_some_iff.1 hescaped))
  | @hex _ _ front inner digits code hfront hinner hdigits hlength =>
    obtain ⟨value, hvalue, rfl⟩ := Option.map_eq_some_iff.1 hscan
    have hmore := hdigits.snoc (hexDigit_of_hexDigit? hvalue)
    rw [List.append_assoc]
    show Reads (front ++ '"' :: inner ++ '\\' :: 'u' :: (digits ++ [c])) _
    simp only
    split_ifs with hless
    · have hreads := Reads.hex hfront hinner hmore
      rw [List.length_append, List.length_singleton] at hreads
      exact hreads (by omega)
    · refine reads_unit hfront hinner (spelling_ofCode ?_ hmore)
      rw [List.length_append, List.length_singleton]
      omega
  | number hfront =>
    simp only [scanChar] at hscan
    split_ifs at hscan with hrun
    · cases hscan
      rw [List.append_assoc, ← List.reverse_cons]
      exact .number hfront
    · obtain ⟨all, hclose, hfresh⟩ := Option.bind_eq_some_iff.1 hscan
      exact reads_scanFresh (spells_of_closeRun (.number hfront) hclose) hfresh
  | word hfront =>
    simp only [scanChar] at hscan
    split_ifs at hscan with hrun
    · cases hscan
      rw [List.append_assoc, ← List.reverse_cons]
      exact .word hfront
    · obtain ⟨all, hclose, hfresh⟩ := Option.bind_eq_some_iff.1 hscan
      exact reads_scanFresh (spells_of_closeRun (.word hfront) hclose) hfresh

theorem reads_foldlM {more chars : List Char} {state final : List Token × Scan}
    (h : Reads chars state) (hscan : more.foldlM scanChar state = some final) :
    Reads (chars ++ more) final := by
  induction more generalizing chars state with
  | nil =>
    cases hscan
    rwa [List.append_nil]
  | cons c more ih =>
    rw [List.foldlM_cons] at hscan
    obtain ⟨next, hnext, hscan⟩ := Option.bind_eq_some_iff.1 hscan
    rw [List.append_cons]
    exact ih (reads_scanChar h hnext) hscan

/-- **The tokens that the lexer finds are what a text is made of.** -/
theorem spells_of_lex {chars : List Char} {tokens : List Token} (h : lex chars = some tokens) :
    Spells tokens chars := by
  rw [lex] at h
  split at h
  · rename_i done scan hscan
    obtain ⟨all, hclose, rfl⟩ := Option.map_eq_some_iff.1 h
    have hreads : Reads [] ([], .between) := .between .nil
    exact spells_of_closeRun (reads_foldlM hreads hscan) hclose
  · cases h

/-! ## What the lexer makes of a text -/

theorem foldlM_hexDigits {digits : List Char} {code : Nat} (h : HexDigits digits code)
    (hlength : digits.length < 4) (done : List Token) (units : List Unit) :
    digits.foldlM scanChar (done, .hex units 0 0) = some (done, .hex units digits.length code) := by
  induction h with
  | nil => rfl
  | @snoc digits code c value _ hdigit ih =>
    rw [List.length_append, List.length_singleton] at hlength ⊢
    rw [List.foldlM_append, ih (by omega)]
    simp [scanChar, hexDigit?_of_hexDigit hdigit, show digits.length < 3 by omega]

theorem foldlM_code {digits : List Char} {code : Nat} (hlength : digits.length = 4)
    (h : HexDigits digits code) (done : List Token) (units : List Unit) :
    ('\\' :: 'u' :: digits).foldlM scanChar (done, .string units) =
      some (done, .string (Unit.ofCode code :: units)) := by
  show digits.foldlM scanChar (done, .hex units 0 0) = _
  cases h with
  | nil => cases hlength
  | @snoc digits code c value hdigits hdigit =>
    rw [List.length_append, List.length_singleton] at hlength
    rw [List.foldlM_append, foldlM_hexDigits hdigits (by omega)]
    simp [scanChar, hexDigit?_of_hexDigit hdigit, show ¬digits.length < 3 by omega]

theorem ofCode_toNat (c : Char) : Unit.ofCode c.toNat = .char c := by
  have hvalid : c.toNat < 0xD800 ∨ 0xDFFF < c.toNat ∧ c.toNat < 0x110000 := c.valid
  rw [Unit.ofCode, if_neg (by omega), Char.ofNat_toNat]

/-- A unit is read from each of its spellings. -/
theorem foldlM_unit {unit : Unit} {chars : List Char} (h : unit.Spelling chars)
    (done : List Token) (units : List Unit) :
    chars.foldlM scanChar (done, .string units) = some (done, .string (unit :: units)) := by
  cases h with
  | plain hlow hquote hbackslash =>
    simp [scanChar, hquote, hbackslash, Nat.not_lt_of_le hlow]
  | @short letter c hescape =>
    have hletter : letter ≠ 'u' := by
      rintro rfl
      cases (show escaped? 'u' = none from rfl).symm.trans (escaped?_eq_some_iff.2 hescape)
    simp [scanChar, hletter, escaped?_eq_some_iff.2 hescape]
  | code hlength hdigits => rw [foldlM_code hlength hdigits, ofCode_toNat]
  | half hlength hdigits hlow hhigh =>
    rw [foldlM_code hlength hdigits, Unit.ofCode, if_pos ⟨hlow, hhigh⟩]

theorem foldlM_text {text : Text} {chars : List Char} (h : text.Spelling chars)
    (done : List Token) :
    chars.foldlM scanChar (done, .string []) = some (done, .string text.reverse) := by
  induction h with
  | nil => rfl
  | snoc _ hunit ih =>
    rw [List.foldlM_append, ih, List.reverse_concat]
    exact foldlM_unit hunit done _

/-- Whole tokens have been read: nothing is missing, and a character that goes on no run finds them
as they are. -/
structure Settled (state : List Token × Scan) (done : List Token) : Prop where
  close : closeRun state.1 state.2 = some done
  next : ∀ c, isNumberChar c = false → c.isAlpha = false → scanChar state c = scanFresh done c

theorem settled_between (done : List Token) : Settled (done, .between) done :=
  ⟨rfl, fun _ _ _ => rfl⟩

theorem settled_number {digits : List Char} (h : Number digits) (done : List Token) :
    Settled (done, .number digits.reverse) (.number digits :: done) := by
  have hclose : closeRun done (.number digits.reverse) = some (.number digits :: done) := by
    simp [closeRun, isNumber_iff.2 h]
  refine ⟨hclose, fun c hnumber _ => ?_⟩
  simp [scanChar, hnumber, hclose]

theorem settled_word (letters : List Char) {token : Token} (h : word? letters = some token)
    (done : List Token) : Settled (done, .word letters.reverse) (token :: done) := by
  have hclose : closeRun done (.word letters.reverse) = some (token :: done) := by
    simp [closeRun, h]
  refine ⟨hclose, fun c _ halpha => ?_⟩
  simp [scanChar, halpha, hclose]

/-- A run of characters of numbers goes on. -/
theorem foldlM_numberChars {more : List Char} (h : ∀ c ∈ more, isNumberChar c = true)
    (done : List Token) (chars : List Char) :
    more.foldlM scanChar (done, .number chars) = some (done, .number (more.reverse ++ chars)) := by
  induction more generalizing chars with
  | nil => rfl
  | cons c more ih =>
    obtain ⟨hc, hmore⟩ := List.forall_mem_cons.1 h
    rw [List.foldlM_cons, scanChar, if_pos hc]
    show more.foldlM scanChar (done, .number (c :: chars)) = _
    rw [ih hmore, List.reverse_cons, List.append_assoc]
    rfl

theorem foldlM_number {digits : List Char} (h : Number digits) (done : List Token) :
    digits.foldlM scanChar (done, .between) = some (done, .number digits.reverse) := by
  obtain ⟨c, rest, rfl, hfirst⟩ := h.exists_head
  have hall := h.all
  obtain ⟨hc, hrest⟩ := List.forall_mem_cons.1 hall
  have hscan : scanFresh done c = some (done, .number [c]) := by
    rcases hfirst with hdigit | rfl
    · have hne (other : Char) (hother : other.isDigit = false) : c ≠ other :=
        ne_of_isDigit hdigit hother
      simp [scanFresh, isBlank, hc, hne]
    · rfl
  rw [List.foldlM_cons, scanChar, hscan]
  show rest.foldlM scanChar (done, .number [c]) = _
  rw [foldlM_numberChars hrest, List.reverse_cons]

theorem scanFresh_mark {token : Token} {c : Char} (h : token.mark? = some c) (done : List Token) :
    scanFresh done c = some (token :: done, .between) := by
  cases token <;> cases h <;> rfl

theorem scanFresh_blank {c : Char} (h : isBlank c = true) (done : List Token) :
    scanFresh done c = some (done, .between) := by
  rw [scanFresh, if_pos h]

/-- A token is read from each of its spellings. -/
theorem foldlM_token {token : Token} {chars : List Char} (h : token.Spelling chars)
    (done : List Token) :
    ∃ state, chars.foldlM scanChar (done, .between) = some state ∧
      Settled state (token :: done) := by
  cases h with
  | mark hmark =>
    refine ⟨_, ?_, settled_between _⟩
    simp [scanChar, scanFresh_mark hmark]
  | null => exact ⟨_, rfl, settled_word ['n', 'u', 'l', 'l'] rfl done⟩
  | true => exact ⟨_, rfl, settled_word ['t', 'r', 'u', 'e'] rfl done⟩
  | false => exact ⟨_, rfl, settled_word ['f', 'a', 'l', 's', 'e'] rfl done⟩
  | number hnumber => exact ⟨_, foldlM_number hnumber done, settled_number hnumber done⟩
  | @string text chars htext =>
    refine ⟨_, ?_, settled_between _⟩
    show (chars ++ ['"']).foldlM scanChar (done, .string []) = _
    rw [List.foldlM_append, foldlM_text htext]
    simp [scanChar]

/-! ## Texts -/

/-- Of two tokens side by side, one is a mark. -/
def Apart (token next : Token) : Prop := token.mark?.isSome = true ∨ next.mark?.isSome = true

theorem not_run_of_blank {c : Char} (h : isBlank c = true) :
    isNumberChar c = false ∧ c.isAlpha = false := by
  simp only [isBlank, Bool.or_eq_true, decide_eq_true_eq] at h
  rcases h with ((rfl | rfl) | rfl) | rfl <;> exact ⟨rfl, rfl⟩

theorem not_run_of_mark {token : Token} {c : Char} (h : token.mark? = some c) :
    isNumberChar c = false ∧ c.isAlpha = false := by
  cases token <;> cases h <;> exact ⟨rfl, rfl⟩

theorem Token.Spelling.eq_mark {token : Token} {chars : List Char} {c : Char}
    (h : token.Spelling chars) (hmark : token.mark? = some c) : chars = [c] := by
  cases h with
  | mark hother =>
    rw [hmark] at hother
    cases hother
    rfl
  | _ => cases hmark

/-- **A text that is made of tokens leaves the lexer with them.**  Where it is not within a run, it
knows so. -/
theorem settled_of_spells {tokens : List Token} {chars : List Char} (h : Spells tokens chars)
    (hapart : tokens.IsChain Apart) :
    ∃ state, chars.foldlM scanChar ([], .between) = some state ∧ Settled state tokens.reverse ∧
      ((∀ last ∈ tokens.getLast?, last.mark?.isSome = true) →
        state = (tokens.reverse, .between)) := by
  induction h with
  | nil => exact ⟨_, rfl, settled_between [], fun _ => rfl⟩
  | @blank tokens chars c _ hblank ih =>
    obtain ⟨state, hscan, hsettled, -⟩ := ih hapart
    obtain ⟨hnumber, halpha⟩ := not_run_of_blank hblank
    refine ⟨_, ?_, settled_between _, fun _ => rfl⟩
    rw [List.foldlM_append, hscan]
    simp [hsettled.next c hnumber halpha, scanFresh_blank hblank]
  | @token tokens token chars more _ htoken ih =>
    obtain ⟨hbefore, -, hlast⟩ := List.isChain_append.1 hapart
    obtain ⟨state, hscan, hsettled, hbetween⟩ := ih hbefore
    rw [List.reverse_append, List.reverse_singleton, List.singleton_append, List.foldlM_append,
      hscan, List.getLast?_concat]
    cases hmark : token.mark? with
    | some c =>
      obtain ⟨hnumber, halpha⟩ := not_run_of_mark hmark
      refine ⟨_, ?_, settled_between _, fun _ => rfl⟩
      rw [htoken.eq_mark hmark]
      simp [hsettled.next c hnumber halpha, scanFresh_mark hmark]
    | none =>
      -- What stands before it is then a mark, and the lexer is between tokens.
      have hafter : state = (tokens.reverse, .between) := hbetween fun last hmem => by
        rcases hlast last hmem token rfl with hmarked | hmarked
        · exact hmarked
        · rw [hmark] at hmarked
          cases hmarked
      obtain ⟨next, hread, hnext⟩ := foldlM_token htoken tokens.reverse
      refine ⟨next, hafter ▸ hread, hnext, fun hmarked => ?_⟩
      have hnone := hmarked token rfl
      rw [hmark] at hnone
      cases hnone

/-- **The lexer finds the tokens that a text is made of**, and no others. -/
theorem lex_eq_some_iff {tokens : List Token} {chars : List Char}
    (hapart : tokens.IsChain Apart) : lex chars = some tokens ↔ Spells tokens chars := by
  refine ⟨spells_of_lex, fun h => ?_⟩
  obtain ⟨⟨done, scan⟩, hscan, hsettled, -⟩ := settled_of_spells h hapart
  rw [lex, hscan]
  simp [hsettled.close]

end BatchBridge.Json
