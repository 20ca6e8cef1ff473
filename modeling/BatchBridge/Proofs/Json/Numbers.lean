import BatchBridge.Json.Lexer
import Mathlib.Tactic.SplitIfs

/-!
# The grammar of numbers

A number is a sign, a whole part, a fraction and an exponent, where only the whole part has to be
there.  The reader of numbers is a machine of nine states.

* `Number` — the grammar.
* `NumberState.Rest` — what has still to come, by the state of the machine.  `NumberState.rest_nil`
  and `NumberState.rest_cons`: the machine keeps track of it.
* **`isNumber_iff`** — the machine accepts what the grammar derives.
* `Number.exists_head`, `Number.all` — what numbers look like to the lexer.
-/

namespace BatchBridge.Json

/-! ## The grammar -/

/-- Digits, or none. -/
def Digits (chars : List Char) : Prop := ∀ c ∈ chars, c.isDigit = true

/-- One digit at least. -/
inductive SomeDigits : List Char → Prop where
  | mk {c : Char} {chars : List Char} : c.isDigit = true → Digits chars → SomeDigits (c :: chars)

/-- The whole part has no leading zeros. -/
inductive Whole : List Char → Prop where
  | zero : Whole ['0']
  | digits {c : Char} {chars : List Char} : c.isDigit = true → c ≠ '0' → Digits chars →
      Whole (c :: chars)

/-- A point and digits, or nothing. -/
inductive Fraction : List Char → Prop where
  | none : Fraction []
  | some {chars : List Char} : SomeDigits chars → Fraction ('.' :: chars)

/-- What follows the letter of an exponent. -/
inductive Power : List Char → Prop where
  | unsigned {chars : List Char} : SomeDigits chars → Power chars
  | signed {sign : Char} {chars : List Char} : sign = '+' ∨ sign = '-' → SomeDigits chars →
      Power (sign :: chars)

/-- An exponent, or nothing. -/
inductive Exponent : List Char → Prop where
  | none : Exponent []
  | some {letter : Char} {chars : List Char} : letter = 'e' ∨ letter = 'E' → Power chars →
      Exponent (letter :: chars)

/-- A number without its sign. -/
inductive Unsigned : List Char → Prop where
  | mk {whole fraction exponent : List Char} : Whole whole → Fraction fraction →
      Exponent exponent → Unsigned (whole ++ (fraction ++ exponent))

/-- A number. -/
inductive Number : List Char → Prop where
  | positive {chars : List Char} : Unsigned chars → Number chars
  | negative {chars : List Char} : Unsigned chars → Number ('-' :: chars)

/-! ## Digits -/

theorem digits_nil : Digits [] := fun _ h => by cases h

@[simp] theorem digits_cons_iff {c : Char} {chars : List Char} :
    Digits (c :: chars) ↔ c.isDigit = true ∧ Digits chars := List.forall_mem_cons

@[simp] theorem someDigits_cons_iff {c : Char} {chars : List Char} :
    SomeDigits (c :: chars) ↔ c.isDigit = true ∧ Digits chars :=
  ⟨fun | .mk hdigit hrest => ⟨hdigit, hrest⟩, fun ⟨hdigit, hrest⟩ => .mk hdigit hrest⟩

@[simp] theorem not_someDigits_nil : ¬SomeDigits [] := nofun

/-- Digits are none of the other characters of numbers. -/
theorem ne_of_isDigit {c other : Char} (h : c.isDigit = true) (hother : other.isDigit = false) :
    c ≠ other := by
  rintro rfl
  rw [h] at hother
  cases hother

theorem not_isDigit_of_sign {c : Char} (h : c = '+' ∨ c = '-') : c.isDigit = false := by
  rcases h with rfl | rfl <;> rfl

/-! ## The machine -/

namespace NumberState

/-- What has still to come. -/
def Rest : NumberState → List Char → Prop
  | .start, chars => Number chars
  | .minus, chars => Unsigned chars
  | .zero, chars => ∃ fraction exponent, chars = fraction ++ exponent ∧ Fraction fraction ∧
      Exponent exponent
  | .whole, chars => ∃ digits fraction exponent, chars = digits ++ (fraction ++ exponent) ∧
      Digits digits ∧ Fraction fraction ∧ Exponent exponent
  | .point, chars => ∃ digits exponent, chars = digits ++ exponent ∧ SomeDigits digits ∧
      Exponent exponent
  | .fraction, chars => ∃ digits exponent, chars = digits ++ exponent ∧ Digits digits ∧
      Exponent exponent
  | .e, chars => Power chars
  | .expSign, chars => SomeDigits chars
  | .exponent, chars => Digits chars

end NumberState

theorem exponent_cons_iff {c : Char} {chars : List Char} :
    Exponent (c :: chars) ↔ (c = 'e' ∨ c = 'E') ∧ Power chars :=
  ⟨fun | .some hletter hpower => ⟨hletter, hpower⟩, fun ⟨hletter, hpower⟩ => .some hletter hpower⟩

theorem power_cons_iff {c : Char} {chars : List Char} :
    Power (c :: chars) ↔
      c.isDigit = true ∧ Digits chars ∨ (c = '+' ∨ c = '-') ∧ SomeDigits chars := by
  constructor
  · rintro (hdigits | ⟨hsign, hdigits⟩)
    · exact .inl (someDigits_cons_iff.1 hdigits)
    · exact .inr ⟨hsign, hdigits⟩
  · rintro (⟨hdigit, hrest⟩ | ⟨hsign, hdigits⟩)
    · exact .unsigned (.mk hdigit hrest)
    · exact .signed hsign hdigits

/-- Digits and an exponent go on with a digit or with the exponent. -/
theorem rest_fraction_cons_iff {c : Char} {chars : List Char} :
    NumberState.Rest .fraction (c :: chars) ↔
      c.isDigit = true ∧ NumberState.Rest .fraction chars ∨ Exponent (c :: chars) := by
  constructor
  · rintro ⟨digits, exponent, hchars, hdigits, hexponent⟩
    cases digits with
    | nil => exact .inr (hchars ▸ hexponent)
    | cons digit digits =>
      obtain ⟨rfl, rfl⟩ := List.cons.inj hchars
      obtain ⟨hdigit, hrest⟩ := digits_cons_iff.1 hdigits
      exact .inl ⟨hdigit, digits, exponent, rfl, hrest, hexponent⟩
  · rintro (⟨hdigit, digits, exponent, rfl, hdigits, hexponent⟩ | hexponent)
    · exact ⟨c :: digits, exponent, rfl, digits_cons_iff.2 ⟨hdigit, hdigits⟩, hexponent⟩
    · exact ⟨[], c :: chars, rfl, digits_nil, hexponent⟩

theorem rest_point_cons_iff {c : Char} {chars : List Char} :
    NumberState.Rest .point (c :: chars) ↔
      c.isDigit = true ∧ NumberState.Rest .fraction chars := by
  constructor
  · rintro ⟨digits, exponent, hchars, ⟨hdigit, hdigits⟩, hexponent⟩
    obtain ⟨rfl, rfl⟩ := List.cons.inj hchars
    exact ⟨hdigit, _, exponent, rfl, hdigits, hexponent⟩
  · rintro ⟨hdigit, digits, exponent, rfl, hdigits, hexponent⟩
    exact ⟨c :: digits, exponent, rfl, .mk hdigit hdigits, hexponent⟩

/-- A fraction and an exponent go on with a point or with the letter of the exponent. -/
theorem rest_zero_cons_iff {c : Char} {chars : List Char} :
    NumberState.Rest .zero (c :: chars) ↔
      c = '.' ∧ NumberState.Rest .point chars ∨ (c = 'e' ∨ c = 'E') ∧ Power chars := by
  constructor
  · rintro ⟨fraction, exponent, hchars, hfraction, hexponent⟩
    cases hfraction with
    | none =>
      rw [List.nil_append] at hchars
      exact .inr (exponent_cons_iff.1 (hchars ▸ hexponent))
    | some hdigits =>
      obtain ⟨rfl, rfl⟩ := List.cons.inj hchars
      exact .inl ⟨rfl, _, exponent, rfl, hdigits, hexponent⟩
  · rintro (⟨rfl, digits, exponent, rfl, hdigits, hexponent⟩ | hexponent)
    · exact ⟨'.' :: digits, exponent, rfl, .some hdigits, hexponent⟩
    · exact ⟨[], c :: chars, rfl, .none, exponent_cons_iff.2 hexponent⟩

theorem rest_whole_cons_iff {c : Char} {chars : List Char} :
    NumberState.Rest .whole (c :: chars) ↔
      c.isDigit = true ∧ NumberState.Rest .whole chars ∨ NumberState.Rest .zero (c :: chars) := by
  constructor
  · rintro ⟨digits, fraction, exponent, hchars, hdigits, hfraction, hexponent⟩
    cases digits with
    | nil => exact .inr ⟨fraction, exponent, hchars, hfraction, hexponent⟩
    | cons digit digits =>
      obtain ⟨rfl, rfl⟩ := List.cons.inj hchars
      obtain ⟨hdigit, hrest⟩ := digits_cons_iff.1 hdigits
      exact .inl ⟨hdigit, digits, fraction, exponent, rfl, hrest, hfraction, hexponent⟩
  · rintro (⟨hdigit, digits, fraction, exponent, rfl, hdigits, hfraction, hexponent⟩ |
      ⟨fraction, exponent, hchars, hfraction, hexponent⟩)
    · exact ⟨c :: digits, fraction, exponent, rfl, digits_cons_iff.2 ⟨hdigit, hdigits⟩, hfraction,
        hexponent⟩
    · exact ⟨[], fraction, exponent, hchars, digits_nil, hfraction, hexponent⟩

theorem unsigned_cons_iff {c : Char} {chars : List Char} :
    Unsigned (c :: chars) ↔
      c = '0' ∧ NumberState.Rest .zero chars ∨
        c.isDigit = true ∧ c ≠ '0' ∧ NumberState.Rest .whole chars := by
  constructor
  · intro h
    generalize htext : c :: chars = text at h
    cases h with
    | @mk whole fraction exponent hwhole hfraction hexponent =>
      cases hwhole with
      | zero =>
        obtain ⟨rfl, rfl⟩ := List.cons.inj htext
        exact .inl ⟨rfl, fraction, exponent, rfl, hfraction, hexponent⟩
      | digits hdigit hzero hdigits =>
        obtain ⟨rfl, rfl⟩ := List.cons.inj htext
        exact .inr ⟨hdigit, hzero, _, fraction, exponent, rfl, hdigits, hfraction, hexponent⟩
  · rintro (⟨rfl, fraction, exponent, rfl, hfraction, hexponent⟩ |
      ⟨hdigit, hzero, digits, fraction, exponent, rfl, hdigits, hfraction, hexponent⟩)
    · exact .mk .zero hfraction hexponent
    · exact .mk (.digits hdigit hzero hdigits) hfraction hexponent

theorem number_cons_iff {c : Char} {chars : List Char} :
    Number (c :: chars) ↔ c = '-' ∧ Unsigned chars ∨ Unsigned (c :: chars) := by
  constructor
  · rintro (hunsigned | hunsigned)
    · exact .inr hunsigned
    · exact .inl ⟨rfl, hunsigned⟩
  · rintro (⟨rfl, hunsigned⟩ | hunsigned)
    · exact .negative hunsigned
    · exact .positive hunsigned

namespace NumberState

theorem rest_nil (state : NumberState) : state.Rest [] ↔ state.isFinal = true := by
  have hunsigned : ¬Unsigned [] := by
    intro h
    generalize htext : ([] : List Char) = text at h
    cases h with
    | mk hwhole _ _ => cases hwhole <;> cases htext
  cases state with
  | start => exact iff_of_false (fun | .positive h => hunsigned h) Bool.false_ne_true
  | minus => exact iff_of_false hunsigned Bool.false_ne_true
  | zero => exact iff_of_true ⟨[], [], rfl, .none, .none⟩ rfl
  | whole => exact iff_of_true ⟨[], [], [], rfl, digits_nil, .none, .none⟩ rfl
  | point =>
    refine iff_of_false ?_ Bool.false_ne_true
    rintro ⟨digits, exponent, hchars, ⟨_, _⟩, -⟩
    cases hchars
  | fraction => exact iff_of_true ⟨[], [], rfl, digits_nil, .none⟩ rfl
  | e => exact iff_of_false (fun | .unsigned h => not_someDigits_nil h) Bool.false_ne_true
  | expSign => exact iff_of_false not_someDigits_nil Bool.false_ne_true
  | exponent => exact iff_of_true digits_nil rfl

/-- **The machine keeps track of what has still to come.** -/
theorem rest_cons (state : NumberState) (c : Char) (chars : List Char) :
    state.Rest (c :: chars) ↔ ∃ next, state.next? c = some next ∧ next.Rest chars := by
  -- A digit is none of the marks, and no mark is another.
  have hmarks : c.isDigit = true → c ≠ '.' ∧ c ≠ '-' ∧ c ≠ '+' ∧ c ≠ 'e' ∧ c ≠ 'E' := fun h =>
    ⟨ne_of_isDigit h rfl, ne_of_isDigit h rfl, ne_of_isDigit h rfl, ne_of_isDigit h rfl,
      ne_of_isDigit h rfl⟩
  have hzero : c = '0' → c.isDigit = true := fun h => h ▸ rfl
  have hpoint : c = '.' → c ≠ 'e' ∧ c ≠ 'E' := fun h => by subst h; decide
  have hminus : c = '-' → c ≠ '0' ∧ c.isDigit = false := fun h => by subst h; decide
  cases state with
  | start =>
    rw [show Rest .start (c :: chars) ↔ _ from number_cons_iff, unsigned_cons_iff, next?]
    split_ifs <;> simp_all [Rest]
  | minus =>
    rw [show Rest .minus (c :: chars) ↔ _ from unsigned_cons_iff, next?]
    split_ifs <;> simp_all
  | zero =>
    rw [rest_zero_cons_iff, next?]
    split_ifs <;> simp_all [Rest]
  | whole =>
    rw [rest_whole_cons_iff, rest_zero_cons_iff, next?]
    split_ifs <;> simp_all [Rest]
  | point =>
    rw [rest_point_cons_iff, next?]
    split_ifs <;> simp_all
  | fraction =>
    rw [rest_fraction_cons_iff, exponent_cons_iff, next?]
    split_ifs <;> simp_all [Rest]
  | e =>
    have hsign : c = '+' ∨ c = '-' → c.isDigit = false := not_isDigit_of_sign
    rw [show Rest .e (c :: chars) ↔ _ from power_cons_iff, next?]
    split_ifs <;> simp_all [Rest]
  | expSign =>
    rw [show Rest .expSign (c :: chars) ↔ _ from someDigits_cons_iff, next?]
    split_ifs <;> simp_all [Rest]
  | exponent =>
    rw [show Rest .exponent (c :: chars) ↔ _ from digits_cons_iff, next?]
    split_ifs <;> simp_all [Rest]

/-- What the machine accepts from a state on is what has still to come. -/
theorem rest_iff (state : NumberState) (chars : List Char) :
    state.Rest chars ↔ ∃ final, chars.foldlM next? state = some final ∧ final.isFinal = true := by
  induction chars generalizing state with
  | nil => simp [rest_nil]
  | cons c chars ih =>
    rw [rest_cons, List.foldlM_cons]
    cases state.next? c with
    | none => simp
    | some next => simp [ih]

end NumberState

/-- **The machine accepts what the grammar derives.** -/
theorem isNumber_iff {chars : List Char} : isNumber chars = true ↔ Number chars := by
  rw [show Number chars ↔ _ from NumberState.rest_iff .start chars, isNumber]
  cases chars.foldlM NumberState.next? .start <;> simp

/-! ## What numbers look like -/

theorem isNumberChar_of_isDigit {c : Char} (h : c.isDigit = true) : isNumberChar c = true := by
  simp [isNumberChar, h]

theorem SomeDigits.digits {chars : List Char} (h : SomeDigits chars) : Digits chars := by
  cases h with
  | mk hdigit hrest => exact digits_cons_iff.2 ⟨hdigit, hrest⟩

theorem Digits.all {chars : List Char} (h : Digits chars) : ∀ c ∈ chars, isNumberChar c = true :=
  fun c hmem => isNumberChar_of_isDigit (h c hmem)

theorem Power.all {chars : List Char} (h : Power chars) : ∀ c ∈ chars, isNumberChar c = true := by
  cases h with
  | unsigned hdigits => exact hdigits.digits.all
  | signed hsign hdigits =>
    refine List.forall_mem_cons.2 ⟨?_, hdigits.digits.all⟩
    rcases hsign with rfl | rfl <;> rfl

theorem Exponent.all {chars : List Char} (h : Exponent chars) :
    ∀ c ∈ chars, isNumberChar c = true := by
  cases h with
  | none => exact fun _ h => by cases h
  | some hletter hpower =>
    refine List.forall_mem_cons.2 ⟨?_, hpower.all⟩
    rcases hletter with rfl | rfl <;> rfl

theorem Fraction.all {chars : List Char} (h : Fraction chars) :
    ∀ c ∈ chars, isNumberChar c = true := by
  cases h with
  | none => exact fun _ h => by cases h
  | some hdigits => exact List.forall_mem_cons.2 ⟨rfl, hdigits.digits.all⟩

theorem Whole.all {chars : List Char} (h : Whole chars) : ∀ c ∈ chars, isNumberChar c = true := by
  cases h with
  | zero => exact List.forall_mem_singleton.2 rfl
  | digits hdigit _ hdigits =>
    exact List.forall_mem_cons.2 ⟨isNumberChar_of_isDigit hdigit, hdigits.all⟩

theorem Unsigned.all {chars : List Char} (h : Unsigned chars) :
    ∀ c ∈ chars, isNumberChar c = true := by
  cases h with
  | mk hwhole hfraction hexponent =>
    exact List.forall_mem_append.2
      ⟨hwhole.all, List.forall_mem_append.2 ⟨hfraction.all, hexponent.all⟩⟩

/-- A number is one run for the lexer. -/
theorem Number.all {chars : List Char} (h : Number chars) : ∀ c ∈ chars, isNumberChar c = true := by
  cases h with
  | positive hunsigned => exact hunsigned.all
  | negative hunsigned => exact List.forall_mem_cons.2 ⟨rfl, hunsigned.all⟩

/-- A number begins with a digit or a minus. -/
theorem Number.exists_head {chars : List Char} (h : Number chars) :
    ∃ c rest, chars = c :: rest ∧ (c.isDigit = true ∨ c = '-') := by
  cases chars with
  | nil => exact absurd ((NumberState.rest_nil .start).1 h) Bool.false_ne_true
  | cons c rest =>
    refine ⟨c, rest, rfl, ?_⟩
    rcases number_cons_iff.1 h with ⟨rfl, -⟩ | hunsigned
    · exact .inr rfl
    · rcases unsigned_cons_iff.1 hunsigned with ⟨rfl, -⟩ | ⟨hdigit, -⟩
      · exact .inl rfl
      · exact .inl hdigit

end BatchBridge.Json
