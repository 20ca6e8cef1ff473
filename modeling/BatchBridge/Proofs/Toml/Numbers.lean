import BatchBridge.Proofs.Toml.Texts

/-!
# Numbers read back

What is written for an integer is read as that integer, up to the end of its line.  Dates, times and
floating-point numbers begin with digits as well, and they are tried first, so that an integer must
be none of them.

* `Decimal` — digits without a leading zero.  **`decimal_toDigits`**: what is written for a natural
  number.
* `skip_of_fixedDigits` — no mark of a date or a time stands in or behind the digits.
* `withSign`, `Decimal.readInteger` — numbers with their sign.
* **`readInteger_toString`**, `readDateTime_toString`, `readFloat_toString` — integers.
-/

namespace BatchBridge.Toml

/-! ## Natural numbers -/

/-- Digits without a leading zero. -/
structure Decimal (digits : List Char) (n : Nat) : Prop where
  isDigit : ∀ c ∈ digits, c.isDigit = true
  value : digitsValue 10 digits = n
  noZero : digits.head? = some '0' → digits = ['0']
  nonempty : digits ≠ []

theorem hexDigit?_of_isDigit {c : Char} (h : c.isDigit = true) :
    Text.hexDigit? c = some (c.toNat - '0'.toNat) := if_pos h

theorem digitsValue_eq_ofDigitChars {digits : List Char} (h : ∀ c ∈ digits, c.isDigit = true) :
    digitsValue 10 digits = Nat.ofDigitChars 10 digits 0 := by
  suffices hfrom : ∀ start, digits.foldl (fun n c => n * 10 + (Text.hexDigit? c).getD 0) start =
      Nat.ofDigitChars 10 digits start from hfrom 0
  induction digits with
  | nil => exact fun _ => rfl
  | cons c digits ih =>
    obtain ⟨hc, hrest⟩ := List.forall_mem_cons.mp h
    intro start
    rw [List.foldl_cons, hexDigit?_of_isDigit hc, Option.getD_some, Nat.mul_comm]
    exact ih hrest _

/-- What is written for a positive number does not begin with a zero. -/
theorem head?_toDigits {n : Nat} (h : 0 < n) : (Nat.toDigits 10 n).head? ≠ some '0' := by
  induction n using Nat.strongRecOn with
  | ind n ih =>
    rw [Nat.toDigits_eq_if (by omega)]
    split_ifs with hlt
    · have hall : ∀ k < 10, 0 < k → [k.digitChar].head? ≠ some '0' := by decide
      exact hall n hlt h
    · have hnext := ih (n / 10) (by omega) (by omega)
      cases hdigits : Nat.toDigits 10 (n / 10) with
      | nil => exact absurd hdigits Nat.toDigits_ne_nil
      | cons c digits => simpa [hdigits] using hnext

theorem isDigit_toDigits (n : Nat) : ∀ c ∈ Nat.toDigits 10 n, c.isDigit = true :=
  fun _ hc => Nat.isDigit_of_mem_toDigits (by omega) (by omega) hc

theorem decimal_toDigits (n : Nat) : Decimal (Nat.toDigits 10 n) n where
  isDigit := isDigit_toDigits n
  value := by
    rw [digitsValue_eq_ofDigitChars (isDigit_toDigits n)]
    exact Nat.ofDigitChars_toDigits (by omega) (by omega)
  noZero h := by
    rcases Nat.eq_zero_or_pos n with rfl | hpos
    · rfl
    · exact absurd h (head?_toDigits hpos)
  nonempty := Nat.toDigits_ne_nil

/-! ## Reading numbers -/

/-- Digits of a fixed number are followed by another digit or by the line end, but by no mark. -/
theorem skip_of_fixedDigits {digits rest behind : List Char} {k value : Nat}
    (h : ∀ c ∈ digits, c.isDigit = true)
    (hfixed : fixedDigits k (digits ++ '\n' :: rest) = some (value, behind)) (mark : Char)
    (hmark : mark.isDigit = false) (hfeed : mark ≠ '\n') : skip mark behind = none := by
  simp only [fixedDigits, Option.ite_none_right_eq_some, Option.some.injEq, Prod.mk.injEq,
    Bool.and_eq_true, decide_eq_true_eq, List.all_eq_true] at hfixed
  obtain ⟨⟨-, hall⟩, -, rfl⟩ := hfixed
  have hshort : k ≤ digits.length := Nat.le_of_not_lt fun hlong => by
    have hmem : '\n' ∈ (digits ++ '\n' :: rest).take k := by
      rw [List.take_append, List.mem_append]
      obtain ⟨more, hmore⟩ : ∃ more, k - digits.length = more + 1 :=
        ⟨k - digits.length - 1, by omega⟩
      exact .inr (by simp [hmore])
    exact absurd (hall _ hmem) (by decide)
  rw [List.drop_append_of_le_length hshort]
  cases hdrop : digits.drop k with
  | nil => simp [skip, hfeed.symm]
  | cons c more =>
    have hmem : c ∈ digits := List.mem_of_mem_drop (hdrop ▸ List.mem_cons_self)
    have hne : c ≠ mark := by
      rintro rfl
      rw [h c hmem] at hmark
      cases hmark
    simp [skip, hne]

theorem skipDate_digits {digits : List Char} (h : ∀ c ∈ digits, c.isDigit = true)
    (rest : List Char) : skipDate (digits ++ '\n' :: rest) = none := by
  unfold skipDate
  cases hyear : fixedDigits 4 (digits ++ '\n' :: rest) with
  | none => rfl
  | some year => simp [skip_of_fixedDigits h hyear '-' (by decide) (by decide)]

theorem skipTime_digits {digits : List Char} (h : ∀ c ∈ digits, c.isDigit = true)
    (rest : List Char) : skipTime (digits ++ '\n' :: rest) = none := by
  unfold skipTime
  cases hhour : twoDigits 0 23 (digits ++ '\n' :: rest) with
  | none => rfl
  | some hour =>
    have hfixed := (Option.filter_eq_some_iff.mp hhour).1
    simp [skip_of_fixedDigits h hfixed ':' (by decide) (by decide)]

/-- Digits up to the line end are no date and no time. -/
theorem readDateTime_digits {digits : List Char} (h : ∀ c ∈ digits, c.isDigit = true)
    (rest : List Char) : readDateTime (digits ++ '\n' :: rest) = none := by
  simp [readDateTime, skipDate_digits h, skipTime_digits h]

/-- Dates and times have no sign. -/
theorem readDateTime_minus (rest : List Char) : readDateTime ('-' :: rest) = none := by
  have hfixed : ∀ k, fixedDigits (k + 1) ('-' :: rest) = none := by
    intro k
    simp [fixedDigits]
  simp [readDateTime, skipDate, skipTime, twoDigits, hfixed]

theorem span_digits {digits : List Char} (h : ∀ c ∈ digits, c.isDigit = true) (rest : List Char) :
    spanDigits Char.isDigit (digits ++ '\n' :: rest) = (digits, '\n' :: rest) := by
  have hall : ∀ c ∈ digits, (c.isDigit || c = '_') = true := fun c hc => by simp [h c hc]
  unfold spanDigits
  rw [List.span_eq_takeWhile_dropWhile, List.takeWhile_append_of_pos hall,
    List.dropWhile_append_of_pos hall]
  simp

theorem ne_underscore {c : Char} (h : c.isDigit = true) : c ≠ '_' := by
  rintro rfl
  exact absurd h (by decide)

theorem wellSpaced_digits {digits : List Char} (h : ∀ c ∈ digits, c.isDigit = true)
    (hne : digits ≠ []) : wellSpaced digits = true := by
  induction digits with
  | nil => exact absurd rfl hne
  | cons c digits ih =>
    obtain ⟨hc, hrest⟩ := List.forall_mem_cons.mp h
    cases digits with
    | nil => simp [wellSpaced, ne_underscore hc]
    | cons d digits =>
      have hd := hrest d List.mem_cons_self
      have hnext := ih hrest (by simp)
      simp [wellSpaced, ne_underscore hc, ne_underscore hd, hnext]

theorem readDigits_digits {digits : List Char} (h : ∀ c ∈ digits, c.isDigit = true)
    (hne : digits ≠ []) (rest : List Char) :
    readDigits Char.isDigit (digits ++ '\n' :: rest) = some (digits, '\n' :: rest) := by
  have hfilter : digits.filter (· ≠ '_') = digits :=
    List.filter_eq_self.mpr fun c hc => by simpa using ne_underscore (h c hc)
  simp only [readDigits, span_digits h, wellSpaced_digits h hne, if_true, hfilter]

theorem Decimal.readWhole {digits : List Char} {n : Nat} (h : Decimal digits n)
    (rest : List Char) : readWhole (digits ++ '\n' :: rest) = some (digits, '\n' :: rest) := by
  by_cases hzero : digits.head? = some '0'
  · rw [h.noZero hzero]
    rfl
  · rw [← readDigits_digits h.isDigit h.nonempty rest]
    cases digits with
    | nil => exact absurd rfl h.nonempty
    | cons c digits =>
      have hne : c ≠ '0' := fun heq => hzero (by simp [heq])
      simp [Toml.readWhole, hne]

/-! ## Signed numbers -/

/-- Puts a minus in front. -/
def withSign (negative : Bool) (chars : List Char) : List Char :=
  if negative then '-' :: chars else chars

/-- A number begins with a digit or a minus. -/
theorem Decimal.exists_withSign {digits : List Char} {n : Nat} (h : Decimal digits n)
    (negative : Bool) :
    ∃ c more, withSign negative digits = c :: more ∧ (c.isDigit = true ∨ c = '-') := by
  cases negative with
  | true => exact ⟨_, _, rfl, .inr rfl⟩
  | false =>
    obtain ⟨c, more, rfl⟩ := List.exists_cons_of_ne_nil h.nonempty
    exact ⟨c, more, rfl, .inl (h.isDigit c List.mem_cons_self)⟩

theorem Decimal.readSign {digits : List Char} {n : Nat} (h : Decimal digits n) (negative : Bool)
    (rest : List Char) :
    readSign (withSign negative digits ++ rest) = (negative, digits ++ rest) := by
  cases negative with
  | true => rfl
  | false =>
    obtain ⟨c, more, rfl⟩ := List.exists_cons_of_ne_nil h.nonempty
    have hc : c.isDigit = true := h.isDigit c List.mem_cons_self
    have hminus : c ≠ '-' := by rintro rfl; exact absurd hc (by decide)
    have hplus : c ≠ '+' := by rintro rfl; exact absurd hc (by decide)
    simp [Toml.readSign, withSign, hminus, hplus]

theorem Decimal.readDateTime {digits : List Char} {n : Nat} (h : Decimal digits n)
    (negative : Bool) (rest : List Char) :
    readDateTime (withSign negative digits ++ '\n' :: rest) = none := by
  cases negative with
  | true => exact readDateTime_minus _
  | false => exact readDateTime_digits h.isDigit rest

/-- Digits up to the line end are no floating-point number, since neither a point nor an exponent
follows. -/
theorem Decimal.readFloat {digits : List Char} {n : Nat} (h : Decimal digits n) (negative : Bool)
    (rest : List Char) : readFloat (withSign negative digits ++ '\n' :: rest) = none := by
  simp [Toml.readFloat, skipFloat, h.readSign, h.readWhole, readFraction, readExponent]

/-- A zero is followed by the line end, and so not by the mark of another base. -/
theorem Decimal.not_based {digits rest more : List Char} {n : Nat} {mark : Char}
    (h : Decimal digits n) (negative : Bool) (hmark : mark ≠ '\n') :
    withSign negative digits ++ '\n' :: rest ≠ '0' :: mark :: more := by
  intro heq
  cases negative with
  | true => exact absurd (List.head_eq_of_cons_eq heq) (by decide)
  | false =>
    obtain ⟨c, behind, rfl⟩ := List.exists_cons_of_ne_nil h.nonempty
    have hzero : c = '0' := List.head_eq_of_cons_eq heq
    have hone : behind = [] := List.tail_eq_of_cons_eq (h.noZero (by simp [hzero]))
    subst hone
    exact hmark (List.head_eq_of_cons_eq (List.tail_eq_of_cons_eq heq)).symm

theorem Decimal.readInteger {digits : List Char} {n : Nat} (h : Decimal digits n)
    (negative : Bool) (rest : List Char) :
    readInteger (withSign negative digits ++ '\n' :: rest) =
      (int64? (if negative then -(n : Int) else n)).map (·, '\n' :: rest) := by
  unfold Toml.readInteger
  split
  · rename_i heq
    exact absurd heq (h.not_based negative (by decide))
  · rename_i heq
    exact absurd heq (h.not_based negative (by decide))
  · rename_i heq
    exact absurd heq (h.not_based negative (by decide))
  · simp only [h.readSign, h.readWhole, h.value]

/-! ## Integers -/

theorem toList_toString_int (n : Int) :
    (toString n).toList = withSign (decide (n < 0)) (Nat.toDigits 10 n.natAbs) := by
  cases n with
  | ofNat n => exact Nat.toList_repr
  | negSucc n =>
    have hneg : decide (Int.negSucc n < 0) = true := decide_eq_true (Int.negSucc_lt_zero n)
    have htext : toString (Int.negSucc n) = "-" ++ Nat.repr (n + 1) := rfl
    rw [htext, hneg, String.toList_append, Nat.toList_repr]
    rfl

theorem int64?_toInt (n : Int64) : int64? n.toInt = some n := by
  rw [int64?, if_pos ⟨n.minValue_le_toInt, n.toInt_le⟩, Int64.ofInt_toInt]

/-- An integer is read back, up to the end of its line. -/
theorem readInteger_toString (n : Int64) (rest : List Char) :
    readInteger ((toString n.toInt).toList ++ '\n' :: rest) = some (n, '\n' :: rest) := by
  have hvalue : (if decide (n.toInt < 0) = true then -(n.toInt.natAbs : Int) else n.toInt.natAbs) =
      n.toInt := by
    by_cases hneg : n.toInt < 0
    · rw [if_pos (decide_eq_true hneg)]
      omega
    · rw [if_neg (by simpa using hneg)]
      omega
  rw [toList_toString_int, (decimal_toDigits _).readInteger, hvalue, int64?_toInt]
  rfl

/-- An integer is neither a date or a time nor a floating-point number. -/
theorem readDateTime_toString (n : Int64) (rest : List Char) :
    readDateTime ((toString n.toInt).toList ++ '\n' :: rest) = none := by
  rw [toList_toString_int]
  exact (decimal_toDigits _).readDateTime _ rest

theorem readFloat_toString (n : Int64) (rest : List Char) :
    readFloat ((toString n.toInt).toList ++ '\n' :: rest) = none := by
  rw [toList_toString_int]
  exact (decimal_toDigits _).readFloat _ rest

/-- An integer begins with a digit or a minus. -/
theorem exists_toString (n : Int64) :
    ∃ c more, (toString n.toInt).toList = c :: more ∧ (c.isDigit = true ∨ c = '-') := by
  rw [toList_toString_int]
  exact (decimal_toDigits _).exists_withSign _

end BatchBridge.Toml
