import BatchBridge.Toml.Parser
import BatchBridge.Toml.Printer
import Mathlib.Data.List.TakeDrop
import Mathlib.Tactic.SplitIfs

/-!
# Keys and strings read back

What is written for a string is read as that string, and what is written for a key as that key,
whether it stands between quotes or not.

* `isStart` — the characters with which keys and values begin.  No blank, comment or line end does.
* `shortText_flatMap`, `shortText_literal`, `longText_longChars`, `longText_literal` — the
  characters of a string in each of the ways to write it.
* **`readText_quoted`**, **`readKey_keyText`** — strings and keys.
-/

namespace BatchBridge.Toml

/-! ## Characters -/

/-- A character that begins a key or a value. -/
def isStart (c : Char) : Bool := isKeyChar c || c = '"' || c = '\''

theorem ne_of_isStart {c other : Char} (h : isStart c = true) (hother : isStart other = false) :
    c ≠ other := by
  rintro rfl
  rw [h] at hother
  cases hother

theorem isStart_of_isKeyChar {c : Char} (h : isKeyChar c = true) : isStart c = true := by
  simp [isStart, h]

theorem isKeyChar_of_isDigit {c : Char} (h : c.isDigit = true) : isKeyChar c = true := by
  simp [isKeyChar, Char.isAlphanum, h]

theorem isBlank_of_isStart {c : Char} (h : isStart c = true) : isBlank c = false := by
  have hspace : c ≠ ' ' := ne_of_isStart h (by decide)
  have htab : c ≠ '\t' := ne_of_isStart h (by decide)
  simp [isBlank, hspace, htab]

theorem skipBlanks_start {c : Char} (h : isStart c = true) (rest : List Char) :
    skipBlanks (c :: rest) = c :: rest := by
  simp [skipBlanks, isBlank_of_isStart h]

theorem skipBlanks_blank (rest : List Char) : skipBlanks (' ' :: rest) = skipBlanks rest := rfl

/-! ## Strings -/

theorem hexDigit?_upperHexDigit {n : Nat} (h : n < 16) :
    Text.hexDigit? (upperHexDigit n) = some n := by
  have hall : ∀ k < 16, Text.hexDigit? (upperHexDigit k) = some k := by decide
  exact hall n h

/-- The code points that are written as such. -/
theorem toNat_of_not_isLineChar {c : Char} (h : isLineChar c = false) : c.toNat < 128 := by
  simp only [isLineChar, Bool.or_eq_false_iff, Bool.and_eq_false_iff] at h
  obtain ⟨-, hlow | hdelete⟩ := h
  · have hlow : c.val < 32 := by simpa [Char.le_def] using hlow
    have hlow : c.toNat < 32 := by simpa [UInt32.lt_iff_toNat_lt] using hlow
    omega
  · have hdelete : c = '\x7f' := by simpa using hdelete
    subst hdelete
    decide

/-- A digit of a code point that is not the last. -/
theorem shortText_digit {missing n : Nat} (h : n < 16) (hmissing : 1 < missing) (value : Nat)
    (text : String) (rest : List Char) :
    shortText '"' true (.code missing value) text (upperHexDigit n :: rest) =
      shortText '"' true (.code (missing - 1) (value * 16 + n)) text rest := by
  simp [shortText, shortStep, afterDigit, hexDigit?_upperHexDigit h, hmissing]

/-- The last digit of a code point. -/
theorem shortText_lastDigit {n value : Nat} (h : n < 16) (hvalid : (value * 16 + n).isValidChar)
    (text : String) (rest : List Char) :
    shortText '"' true (.code 1 value) text (upperHexDigit n :: rest) =
      shortText '"' true .plain (text.push (Char.ofNat (value * 16 + n))) rest := by
  simp [shortText, shortStep, afterDigit, hexDigit?_upperHexDigit h, hvalid]

/-- A code point in four digits. -/
theorem shortText_code {n : Nat} (h : n < 128) (text : String) (rest : List Char) :
    shortText '"' true .plain text
        ('\\' :: 'u' :: '0' :: '0' :: upperHexDigit (n / 16 % 16) :: upperHexDigit (n % 16) ::
          rest) =
      shortText '"' true .plain (text.push (Char.ofNat n)) rest := by
  have hdigits : n / 16 % 16 * 16 + n % 16 = n := by omega
  calc shortText '"' true .plain text
        ('\\' :: 'u' :: '0' :: '0' :: upperHexDigit (n / 16 % 16) :: upperHexDigit (n % 16) ::
          rest)
      = shortText '"' true (.code 2 0) text
          (upperHexDigit (n / 16 % 16) :: upperHexDigit (n % 16) :: rest) := rfl
    _ = shortText '"' true (.code 1 (n / 16 % 16)) text (upperHexDigit (n % 16) :: rest) := by
        rw [shortText_digit (Nat.mod_lt _ (by omega)) (by omega)]
        simp
    _ = shortText '"' true .plain (text.push (Char.ofNat n)) rest := by
        rw [shortText_lastDigit (Nat.mod_lt _ (by omega))]
        · rw [hdigits]
        · rw [hdigits]
          exact .inl (by omega)

/-- A character between double quotes is read back. -/
theorem shortText_quotedChar (text : String) (c : Char) (rest : List Char) :
    shortText '"' true .plain text (quotedChar c ++ rest) =
      shortText '"' true .plain (text.push c) rest := by
  unfold quotedChar
  split_ifs with hquote hslash hback htab hfeed hform hreturn hline
  · subst hquote; rfl
  · subst hslash; rfl
  · subst hback; rfl
  · subst htab; rfl
  · subst hfeed; rfl
  · subst hform; rfl
  · subst hreturn; rfl
  · simp [shortText, shortStep, hquote, hslash, hline]
  · have hlow : c.toNat < 128 := toNat_of_not_isLineChar (Bool.eq_false_iff.mpr hline)
    simpa using shortText_code hlow text rest

/-- A character is written as an escape or stands for itself. -/
theorem quotedChar_cases (c : Char) :
    (∃ rest, quotedChar c = '\\' :: rest) ∨
      quotedChar c = [c] ∧ c ≠ '"' ∧ isLineChar c = true := by
  unfold quotedChar
  split_ifs with hquote _ _ _ _ _ _ hline
  -- The eighth branch is that of the characters without an escape.
  on_goal 8 => exact .inr ⟨rfl, hquote, hline⟩
  all_goals exact .inl ⟨_, rfl⟩

theorem push_append (text : String) (c : Char) (chars : List Char) :
    text.push c ++ String.ofList chars = text ++ String.ofList (c :: chars) :=
  String.toList_inj.mp (by simp)

/-- The characters between double quotes are read back, up to the closing quote. -/
theorem shortText_flatMap (chars : List Char) (text : String) (rest : List Char) :
    shortText '"' true .plain text (chars.flatMap quotedChar ++ '"' :: rest) =
      some (text ++ String.ofList chars, rest) := by
  induction chars generalizing text with
  | nil => simp [shortText]
  | cons c chars ih =>
    rw [List.flatMap_cons, List.append_assoc, shortText_quotedChar, ih, push_append]

/-- The characters between single quotes are. -/
theorem shortText_literal {chars : List Char} (h : ∀ c ∈ chars, isLineChar c = true ∧ c ≠ '\'')
    (text : String) (rest : List Char) :
    shortText '\'' false .plain text (chars ++ '\'' :: rest) =
      some (text ++ String.ofList chars, rest) := by
  induction chars generalizing text with
  | nil => simp [shortText]
  | cons c chars ih =>
    obtain ⟨⟨hline, hquote⟩, hrest⟩ := List.forall_mem_cons.mp h
    rw [← push_append, ← ih hrest]
    simp [shortText, shortStep, hquote, hline]

/-! ## Strings over several lines -/

theorem pushQuotes_push (quote : Char) (n : Nat) (text : String) :
    pushQuotes quote n (text.push quote) = (pushQuotes quote n text).push quote := by
  induction n generalizing text with
  | zero => rfl
  | succ n ih => exact ih (text.push quote)

section Long

variable {quote : Char} {escapes : Bool} {run : Nat}

/-- To have begun no quotes is to have begun nothing. -/
theorem longText_plain (text : String) (chars : List Char) :
    longText quote escapes .plain text chars = longText quote escapes (.quotes 0) text chars := by
  cases chars with
  | nil => rfl
  | cons c chars =>
    by_cases hc : c = quote
    · simp [longText, longStep, longPlain, hc]
    · simp [longText, longStep, pushQuotes, hc]

/-- A quote that is not the third. -/
theorem longText_quote (hrun : run < 2) (text : String) (rest : List Char) :
    longText quote escapes (.quotes run) text (quote :: rest) =
      longText quote escapes (.quotes (run + 1)) text rest := by
  have hfour : run ≠ 4 := by omega
  simp [longText, longStep, hfour]

/-- A character that stands for itself. -/
theorem longText_char (hrun : run ≤ 2) {c : Char} (hquote : c ≠ quote)
    (hslash : escapes = true → c ≠ '\\') (hc : c = '\n' ∨ isLineChar c = true) (text : String)
    (rest : List Char) :
    longText quote escapes (.quotes run) text (c :: rest) =
      longText quote escapes (.quotes 0) ((pushQuotes quote run text).push c) rest := by
  have hopen : ¬3 ≤ run := by omega
  have hescape : ¬(escapes = true ∧ c = '\\') := fun h => hslash h.1 h.2
  have hreturn : c ≠ '\r' := by
    rintro rfl
    rcases hc with hc | hc <;> cases hc
  rw [← longText_plain]
  rcases hc with rfl | hc
  · simp [longText, longStep, longPlain, hquote, hopen]
  · by_cases hfeed : c = '\n'
    · subst hfeed
      cases hc
    · simp [longText, longStep, longPlain, hquote, hopen, hescape, hreturn, hfeed, hc]

/-- Three quotes close the string. -/
theorem longText_close (hrun : run ≤ 2) (text : String) {rest : List Char}
    (h : rest.head? ≠ some quote) :
    longText quote escapes (.quotes run) text (quote :: quote :: quote :: rest) =
      some (pushQuotes quote run text, rest) := by
  have hrun : run = 0 ∨ run = 1 ∨ run = 2 := by omega
  cases rest with
  | nil => rcases hrun with rfl | rfl | rfl <;> simp [longText, longStep, pushQuotes]
  | cons c rest =>
    have hc : c ≠ quote := fun heq => h (congrArg some heq)
    rcases hrun with rfl | rfl | rfl <;> simp [longText, longStep, pushQuotes, hc]

/-- **What stands between three single quotes is read back.** -/
theorem longText_literal {chars : List Char} (hchars : ∀ c ∈ chars, c = '\n' ∨ isLineChar c = true)
    (hruns : runsWithin quote 2 run chars = true) (hrun : run ≤ 2) (text : String)
    {rest : List Char} (h : rest.head? ≠ some quote) :
    longText quote false (.quotes run) text (chars ++ quote :: quote :: quote :: rest) =
      some (pushQuotes quote run text ++ String.ofList chars, rest) := by
  induction chars generalizing run text with
  | nil => simpa using longText_close hrun text h
  | cons c chars ih =>
    obtain ⟨hc, hchars⟩ := List.forall_mem_cons.mp hchars
    by_cases hquote : c = quote
    · subst hquote
      simp only [runsWithin, if_true, Bool.and_eq_true, decide_eq_true_eq] at hruns
      rw [List.cons_append, longText_quote hruns.1, ih hchars hruns.2 (by omega), pushQuotes,
        pushQuotes_push, push_append]
    · simp only [runsWithin, hquote, if_false] at hruns
      rw [List.cons_append, longText_char hrun hquote (by simp) hc, ih hchars hruns (by omega),
        pushQuotes, push_append]

end Long

section Escapes

variable {run : Nat}

/-- A code point in four digits. -/
theorem longText_code (hrun : run ≤ 2) {n : Nat} (h : n < 128) (text : String) (rest : List Char) :
    longText '"' true (.quotes run) text
        ('\\' :: 'u' :: '0' :: '0' :: upperHexDigit (n / 16 % 16) :: upperHexDigit (n % 16) ::
          rest) =
      longText '"' true (.quotes 0) ((pushQuotes '"' run text).push (Char.ofNat n)) rest := by
  have hopen : ¬3 ≤ run := by omega
  have hdigits : n / 16 % 16 * 16 + n % 16 = n := by omega
  have hfirst := hexDigit?_upperHexDigit (n := n / 16 % 16) (Nat.mod_lt _ (by omega))
  have hlast := hexDigit?_upperHexDigit (n := n % 16) (Nat.mod_lt _ (by omega))
  have hvalid : n.isValidChar := .inl (by omega)
  have hzero : Text.hexDigit? '0' = some 0 := rfl
  rw [← longText_plain]
  simp [longText, longStep, longPlain, afterBackslash, simpleEscape?, codeLength?, afterDigit,
    hopen, hzero, hfirst, hlast, hdigits, hvalid, isBlank]

/-- A backslash and a letter. -/
theorem longText_escape (hrun : run ≤ 2) {letter meant : Char}
    (h : simpleEscape? letter = some meant) (text : String) (rest : List Char) :
    longText '"' true (.quotes run) text ('\\' :: letter :: rest) =
      longText '"' true (.quotes 0) ((pushQuotes '"' run text).push meant) rest := by
  have hopen : ¬3 ≤ run := by omega
  have hblank : isBlank letter = false ∧ letter ≠ '\n' ∧ letter ≠ '\r' := by
    refine ⟨Bool.eq_false_iff.mpr fun hblank => ?_, ?_, ?_⟩
    · simp only [isBlank, Bool.or_eq_true, decide_eq_true_eq] at hblank
      rcases hblank with rfl | rfl <;> cases h
    all_goals rintro rfl; cases h
  rw [← longText_plain]
  simp [longText, longStep, longPlain, afterBackslash, hopen, hblank, h]

/-- A character between three double quotes is read back. -/
theorem longText_quotedChar (hrun : run ≤ 2) (text : String) (c : Char) (rest : List Char) :
    longText '"' true (.quotes run) text (quotedChar c ++ rest) =
      longText '"' true (.quotes 0) ((pushQuotes '"' run text).push c) rest := by
  unfold quotedChar
  split_ifs with hquote hslash hback htab hfeed hform hreturn hline
  · subst hquote; exact longText_escape hrun rfl text rest
  · subst hslash; exact longText_escape hrun rfl text rest
  · subst hback; exact longText_escape hrun rfl text rest
  · subst htab; exact longText_escape hrun rfl text rest
  · subst hfeed; exact longText_escape hrun rfl text rest
  · subst hform; exact longText_escape hrun rfl text rest
  · subst hreturn; exact longText_escape hrun rfl text rest
  · exact longText_char hrun hquote (fun _ => hslash) (.inr hline) text rest
  · have hlow : c.toNat < 128 := toNat_of_not_isLineChar (Bool.eq_false_iff.mpr hline)
    simpa using longText_code hrun hlow text rest

/-- **What stands between three double quotes is read back.** -/
theorem longText_longChars {chars : List Char} (hrun : run ≤ 2) (text : String) {rest : List Char}
    (h : rest.head? ≠ some '"') :
    longText '"' true (.quotes run) text (longChars run chars ++ '"' :: '"' :: '"' :: rest) =
      some (pushQuotes '"' run text ++ String.ofList chars, rest) := by
  induction chars generalizing run text with
  | nil => simpa [longChars] using longText_close hrun text h
  | cons c chars ih =>
    rw [longChars, ← push_append]
    split_ifs with hquote htwo hfeed
    · subst hquote
      rw [List.cons_append, longText_quote htwo, ih (by omega), pushQuotes, pushQuotes_push]
    · subst hquote
      exact (longText_escape hrun rfl text _).trans (ih (by omega) _)
    · subst hfeed
      exact (longText_char hrun hquote (by decide) (.inl rfl) text _).trans (ih (by omega) _)
    · rw [List.append_assoc, longText_quotedChar hrun, ih (by omega)]
      rfl

end Escapes

/-! ## All strings -/

theorem ne_of_runsWithin {quote : Char} {run : Nat} {chars : List Char}
    (h : runsWithin quote 0 run chars = true) : ∀ c ∈ chars, c ≠ quote := by
  induction chars generalizing run with
  | nil => simp
  | cons c chars ih =>
    by_cases hc : c = quote
    · simp [runsWithin, hc] at h
    · rw [runsWithin, if_neg hc] at h
      exact List.forall_mem_cons.mpr ⟨hc, ih h⟩

/-- A string without characters that need escapes. -/
theorem forall_of_any_isCode {chars : List Char} (h : chars.any isCode = false) :
    ∀ c ∈ chars, c = '\n' ∨ isLineChar c = true := by
  intro c hmem
  have hc : isCode c = false := by simpa using List.any_eq_false.mp h c hmem
  by_cases hfeed : c = '\n'
  · exact .inl hfeed
  · simpa [isCode, hfeed] using hc

/-- What can be written as it is on one line. -/
theorem of_textForm_literal {chars : List Char} (h : textForm chars = .literal) :
    chars ≠ [] ∧ ∀ c ∈ chars, isLineChar c = true ∧ c ≠ '\'' := by
  simp only [textForm] at h
  split_ifs at h with hbasic hliteral
  simp only [Bool.and_eq_true, Bool.not_eq_true', List.contains_eq_mem,
    decide_eq_false_iff_not] at hliteral
  obtain ⟨⟨hcodes, hfeed⟩, hruns⟩ := hliteral
  refine ⟨?_, fun c hmem => ⟨?_, ne_of_runsWithin hruns c hmem⟩⟩
  · rintro rfl
    exact hbasic rfl
  · rcases forall_of_any_isCode hcodes c hmem with rfl | hline
    · exact absurd hmem hfeed
    · exact hline

/-- What can be written as it is over several lines. -/
theorem of_textForm_longLiteral {chars : List Char} (h : textForm chars = .longLiteral) :
    (∀ c ∈ chars, c = '\n' ∨ isLineChar c = true) ∧ runsWithin '\'' 2 0 chars = true := by
  simp only [textForm] at h
  split_ifs at h with hbasic hliteral hlong hlongLiteral
  simp only [Bool.and_eq_true, Bool.not_eq_true'] at hlongLiteral
  exact ⟨forall_of_any_isCode hlongLiteral.1, hlongLiteral.2⟩

/-- No line end follows the opening quotes but the one that is skipped. -/
theorem skipLineEnd_leadFeed {chars text : List Char}
    (h : '\n' ∉ chars → ∀ c, text.head? = some c → c ≠ '\n' ∧ c ≠ '\r') :
    skipLineEnd (leadFeed chars ++ text) = text := by
  by_cases hfeed : '\n' ∈ chars
  · simp [leadFeed, hfeed, skipLineEnd]
  · cases text with
    | nil => simp [leadFeed, hfeed, skipLineEnd]
    | cons c text =>
      obtain ⟨hc, hreturn⟩ := h hfeed c rfl
      simp [leadFeed, hfeed, skipLineEnd, hc, hreturn]

theorem not_isLineEnd_of_isLineChar {c : Char} (h : isLineChar c = true) : c ≠ '\n' ∧ c ≠ '\r' := by
  constructor <;> rintro rfl <;> cases h

theorem head?_longChars {chars rest : List Char} (h : '\n' ∉ chars) {c : Char}
    (hc : (longChars 0 chars ++ '"' :: rest).head? = some c) : c ≠ '\n' ∧ c ≠ '\r' := by
  cases chars with
  | nil =>
    cases hc
    decide
  | cons d chars =>
    have hfeed : d ≠ '\n' := fun heq => h (heq ▸ List.mem_cons_self)
    by_cases hquote : d = '"'
    · subst hquote
      cases hc
      decide
    · rw [longChars, if_neg hquote, if_neg hfeed] at hc
      obtain ⟨behind, hd⟩ | ⟨hd, -, hline⟩ := quotedChar_cases d
      · rw [hd] at hc
        cases hc
        decide
      · rw [hd] at hc
        cases hc
        exact not_isLineEnd_of_isLineChar hline

/-- A string between double quotes is read back. -/
theorem readShort_basic (chars rest : List Char) :
    readShort (writeText .basic chars ++ rest) = some (String.ofList chars, rest) := by
  simpa [readShort, writeText] using shortText_flatMap chars "" rest

/-- A string between single quotes is read back. -/
theorem readShort_literal {chars : List Char} (h : textForm chars = .literal) (rest : List Char) :
    readShort (writeText .literal chars ++ rest) = some (String.ofList chars, rest) := by
  simpa [readShort, writeText] using shortText_literal (of_textForm_literal h).2 "" rest

/-- What is written for a character does not begin with a quote. -/
theorem exists_quotedChar (c : Char) : ∃ d rest, quotedChar c = d :: rest ∧ d ≠ '"' := by
  obtain ⟨rest, hc⟩ | ⟨hc, hquote, -⟩ := quotedChar_cases c
  · exact ⟨'\\', rest, hc, by decide⟩
  · exact ⟨c, [], hc, hquote⟩

/-- Without three quotes there is no string of several lines. -/
theorem readText_of_not_three {quote : Char} {rest : List Char}
    (h : ∀ more, rest ≠ quote :: quote :: more) :
    readText (quote :: rest) = readShort (quote :: rest) := by
  unfold readText
  split
  · rename_i more heq
    cases heq
    exact absurd rfl (h more)
  · rename_i more heq
    cases heq
    exact absurd rfl (h more)
  · rfl

/-- A string between double quotes is read back where one of several lines might stand: no quote may
follow, since two quotes and one more begin such a string. -/
theorem readText_basic (chars : List Char) {rest : List Char} (h : rest.head? ≠ some '"') :
    readText (writeText .basic chars ++ rest) = some (String.ofList chars, rest) := by
  rw [← readShort_basic chars rest]
  refine readText_of_not_three fun more heq => ?_
  cases chars with
  | nil =>
    have hrest : rest = '"' :: more := List.tail_eq_of_cons_eq heq
    exact h (congrArg List.head? hrest)
  | cons c chars =>
    obtain ⟨d, behind, hd, hne⟩ := exists_quotedChar c
    rw [List.flatMap_cons, hd] at heq
    exact hne (List.head_eq_of_cons_eq heq)

theorem readText_literal {chars : List Char} (h : textForm chars = .literal) (rest : List Char) :
    readText (writeText .literal chars ++ rest) = some (String.ofList chars, rest) := by
  rw [← readShort_literal h rest]
  refine readText_of_not_three fun more heq => ?_
  obtain ⟨hne, hchars⟩ := of_textForm_literal h
  obtain ⟨c, chars, rfl⟩ := List.exists_cons_of_ne_nil hne
  exact (hchars c List.mem_cons_self).2 (List.head_eq_of_cons_eq heq)

theorem readText_longBasic (chars : List Char) {rest : List Char} (h : rest.head? ≠ some '"') :
    readText (writeText .longBasic chars ++ rest) = some (String.ofList chars, rest) := by
  have hfeed : skipLineEnd (leadFeed chars ++ (longChars 0 chars ++ '"' :: '"' :: '"' :: rest)) =
      longChars 0 chars ++ '"' :: '"' :: '"' :: rest :=
    skipLineEnd_leadFeed fun hnone _ hc => head?_longChars hnone hc
  have hread : longText '"' true (.quotes 0) "" (longChars 0 chars ++ '"' :: '"' :: '"' :: rest) =
      some (pushQuotes '"' 0 "" ++ String.ofList chars, rest) :=
    longText_longChars (by omega) "" h
  rw [← longText_plain] at hread
  simpa [writeText, readText, hfeed, pushQuotes] using hread

theorem readText_longLiteral {chars : List Char} (hform : textForm chars = .longLiteral)
    {rest : List Char} (h : rest.head? ≠ some '\'') :
    readText (writeText .longLiteral chars ++ rest) = some (String.ofList chars, rest) := by
  obtain ⟨hchars, hruns⟩ := of_textForm_longLiteral hform
  have hfeed : skipLineEnd (leadFeed chars ++ (chars ++ '\'' :: '\'' :: '\'' :: rest)) =
      chars ++ '\'' :: '\'' :: '\'' :: rest := by
    refine skipLineEnd_leadFeed fun hnone c hc => ?_
    cases chars with
    | nil =>
      cases hc
      decide
    | cons d chars =>
      cases hc
      rcases hchars c List.mem_cons_self with rfl | hline
      · exact absurd List.mem_cons_self hnone
      · exact not_isLineEnd_of_isLineChar hline
  have hread := longText_literal hchars hruns (by omega) "" h
  rw [← longText_plain] at hread
  simpa [writeText, readText, hfeed, pushQuotes] using hread

/-- **A string is read back**, if no quote follows. -/
theorem readText_quoted (text : String) {rest : List Char} (hdouble : rest.head? ≠ some '"')
    (hsingle : rest.head? ≠ some '\'') :
    readText ((quoted text).toList ++ rest) = some (text, rest) := by
  have hread : readText (writeText (textForm text.toList) text.toList ++ rest) =
      some (String.ofList text.toList, rest) := by
    cases hform : textForm text.toList with
    | basic => exact readText_basic _ hdouble
    | literal => exact readText_literal hform rest
    | longBasic => exact readText_longBasic _ hdouble
    | longLiteral => exact readText_longLiteral hform hsingle
  rw [quoted, String.toList_ofList, hread, String.ofList_toList]

-- Backslashes are kept between single quotes, and line ends between three.
example : quoted "a\\b" = "'a\\b'" ∧ quoted "a\nb" = "\"\"\"\na\nb\"\"\"" := by decide

/-- A string on one line is read back where only such strings are read. -/
theorem readShort_quotedLine (text : String) (rest : List Char) :
    readShort ((quotedLine text).toList ++ rest) = some (text, rest) := by
  rw [quotedLine, String.toList_ofList, lineForm]
  split_ifs with hform
  · rw [readShort_literal hform, String.ofList_toList]
  · rw [readShort_basic, String.ofList_toList]

/-- A string begins with a quote. -/
theorem exists_writeText (form : TextForm) (chars : List Char) :
    ∃ c more, writeText form chars = c :: more ∧ (c = '"' ∨ c = '\'') := by
  cases form with
  | basic | longBasic => exact ⟨_, _, rfl, .inl rfl⟩
  | literal | longLiteral => exact ⟨_, _, rfl, .inr rfl⟩

theorem exists_quoted (text : String) :
    ∃ c more, (quoted text).toList = c :: more ∧ (c = '"' ∨ c = '\'') := by
  rw [quoted, String.toList_ofList]
  exact exists_writeText ..

theorem exists_quotedLine (text : String) :
    ∃ c more, (quotedLine text).toList = c :: more ∧ (c = '"' ∨ c = '\'') := by
  rw [quotedLine, String.toList_ofList]
  exact exists_writeText ..

theorem isStart_of_isQuote {c : Char} (h : c = '"' ∨ c = '\'') : isStart c = true := by
  rcases h with rfl | rfl <;> rfl

/-! ## Keys -/

/-- A key that stands for itself is read back, if no character of a key follows. -/
theorem readSimpleKey_bare {key : List Char} (h : ∀ c ∈ key, isKeyChar c = true) (hne : key ≠ [])
    {rest : List Char} (hrest : rest.head?.any isKeyChar = false) :
    readSimpleKey (key ++ rest) = some (String.ofList key, rest) := by
  have hspan : (key ++ rest).span isKeyChar = (key, rest) := by
    rw [List.span_eq_takeWhile_dropWhile, List.takeWhile_append_of_pos h,
      List.dropWhile_append_of_pos h]
    cases rest with
    | nil => simp
    | cons c rest => simp_all
  cases key with
  | nil => exact absurd rfl hne
  | cons c key =>
    have hc : isKeyChar c = true := h c List.mem_cons_self
    unfold readSimpleKey
    split
    · rename_i heq
      rw [List.head_eq_of_cons_eq heq] at hc
      exact absurd hc (by decide)
    · rename_i heq
      rw [List.head_eq_of_cons_eq heq] at hc
      exact absurd hc (by decide)
    · rw [hspan]
      rfl

/-- A key is written as it is, or between quotes. -/
theorem keyText_cases (key : String) :
    (keyText key = key ∧ (∀ c ∈ key.toList, isKeyChar c = true) ∧ key.toList ≠ []) ∨
      keyText key = quotedLine key := by
  unfold keyText
  split_ifs with h
  · simp only [Bool.and_eq_true, Bool.not_eq_true', List.all_eq_true] at h
    exact .inl ⟨rfl, h.2, by simpa [String.isEmpty_iff] using h.1⟩
  · exact .inr rfl

/-- A key is read back, if no character of a key follows. -/
theorem readSimpleKey_keyText (key : String) {rest : List Char}
    (hrest : rest.head?.any isKeyChar = false) :
    readSimpleKey ((keyText key).toList ++ rest) = some (key, rest) := by
  obtain ⟨htext, hall, hne⟩ | htext := keyText_cases key
  · rw [htext, readSimpleKey_bare hall hne hrest, String.ofList_toList]
  · rw [htext, ← readShort_quotedLine key rest]
    obtain ⟨c, more, hchars, rfl | rfl⟩ := exists_quotedLine key
    all_goals rw [hchars]; rfl

/-- A key begins like a key. -/
theorem exists_keyText (key : String) :
    ∃ c more, (keyText key).toList = c :: more ∧ isStart c = true := by
  obtain ⟨htext, hall, hne⟩ | htext := keyText_cases key
  · obtain ⟨c, more, hchars⟩ := List.exists_cons_of_ne_nil hne
    have hc : isKeyChar c = true := hall c (hchars ▸ List.mem_cons_self)
    exact ⟨c, more, by rw [htext, hchars], isStart_of_isKeyChar hc⟩
  · obtain ⟨c, more, hchars, hc⟩ := exists_quotedLine key
    exact ⟨c, more, by rw [htext, hchars], isStart_of_isQuote hc⟩

/-- A key without dots is read back. -/
theorem readKeyParts_keyText (n : Nat) (key : String) (rest : List Char)
    (hrest : rest.head?.any isKeyChar = false) (hdot : (skipBlanks rest).head? ≠ some '.') :
    readKeyParts (n + 1) ((keyText key).toList ++ rest) = some ([key], skipBlanks rest) := by
  have hblanks : skipBlanks ((keyText key).toList ++ rest) = (keyText key).toList ++ rest := by
    obtain ⟨c, more, hchars, hc⟩ := exists_keyText key
    rw [hchars]
    exact skipBlanks_start hc _
  simp only [readKeyParts, hblanks, readSimpleKey_keyText key hrest]
  split
  · rename_i behind heq
    exact absurd (by rw [heq]; rfl) hdot
  · rfl

theorem readKey_keyText (key : String) (rest : List Char)
    (hrest : rest.head?.any isKeyChar = false) (hdot : (skipBlanks rest).head? ≠ some '.') :
    readKey ((keyText key).toList ++ rest) = some ([key], skipBlanks rest) :=
  readKeyParts_keyText 78 key rest hrest hdot

end BatchBridge.Toml
