import BatchBridge.Text.Utf8

/-!
# Text survives the trip through its bytes

Both readers of UTF-8 drive one byte machine.  The machine is met here once, character by
character: the bytes that a character is written with take the machine from between characters to
that character (`spells_encodeChar`).  What the two readers make of written text follows by going
through the text, with the reader's own bookkeeping carried along.

* `Tail.Completes`, `Spells` — a run of the machine that ends in a character.
* **`decode_encode`** — strict reading gives back the text.
* **`decode_eq_ok_iff`** — strict reading accepts what is written and nothing else.
* **`decodeLossy_encode`** — lossy reading gives back the text as well: it replaces nothing.
* **`utf8ByteSize_decodeLossy_le`** — of any bytes, lossy reading makes a text of three times as
  many at most.
-/

namespace BatchBridge.Utf8

/-! ## Runs of the byte machine -/

/-- From a sequence that has begun, the bytes are exactly what is missing of a character. -/
inductive Tail.Completes : Tail → Bytes → Char → Prop where
  | last {tail : Tail} {b : UInt8} {c : Char} : tail.next b = .char c → Completes tail [b] c
  | more {tail next : Tail} {b : UInt8} {bytes : Bytes} {c : Char} :
      tail.next b = .more next → Completes next bytes c → Completes tail (b :: bytes) c

/-- From between characters, the bytes are exactly one character. -/
inductive Spells : Bytes → Char → Prop where
  | single {b : UInt8} {c : Char} : first b = .char c → Spells [b] c
  | several {b : UInt8} {tail : Tail} {bytes : Bytes} {c : Char} :
      first b = .more tail → tail.Completes bytes c → Spells (b :: bytes) c

/-! ### The machine on bytes given as numbers

The machine compares bytes and the writer computes numbers; these lemmas are where the two meet.
-/

theorem toNat_ofNat_byte {n : Nat} (h : n < 256) : (UInt8.ofNat n).toNat = n := by
  rw [UInt8.toNat_ofNat', Nat.mod_eq_of_lt h]

theorem ofNat_lt_iff {n : Nat} (h : n < 256) (b : UInt8) : UInt8.ofNat n < b ↔ n < b.toNat := by
  rw [UInt8.lt_iff_toNat_lt, toNat_ofNat_byte h]

theorem ofNat_eq_iff {n : Nat} (h : n < 256) (b : UInt8) : UInt8.ofNat n = b ↔ n = b.toNat := by
  rw [← UInt8.toNat_inj, toNat_ofNat_byte h]

theorem first_ofNat {n : Nat} (h : n < 256) :
    first (UInt8.ofNat n) =
      if n < 0x80 then .char (Char.ofNat n)
      else if n < 0xC2 then .bad
      else if n < 0xE0 then .more ⟨n - 0xC0, 1, 1, 0x80, 0xBF⟩
      else if n < 0xF0 then
        .more ⟨n - 0xE0, 2, 1, if n = 0xE0 then 0xA0 else 0x80, if n = 0xED then 0x9F else 0xBF⟩
      else if n < 0xF5 then
        .more ⟨n - 0xF0, 3, 1, if n = 0xF0 then 0x90 else 0x80, if n = 0xF4 then 0x8F else 0xBF⟩
      else .bad := by
  simp only [first, ofNat_lt_iff h, ofNat_eq_iff h, toNat_ofNat_byte h]
  rfl

theorem first_two {n : Nat} (low : 0xC2 ≤ n) (high : n < 0xE0) :
    first (UInt8.ofNat n) = .more ⟨n - 0xC0, 1, 1, 0x80, 0xBF⟩ := by
  rw [first_ofNat (by omega), if_neg (by omega), if_neg (by omega), if_pos high]

theorem first_three {n : Nat} (low : 0xE0 ≤ n) (high : n < 0xF0) :
    first (UInt8.ofNat n) = .more ⟨n - 0xE0, 2, 1, if n = 0xE0 then 0xA0 else 0x80,
      if n = 0xED then 0x9F else 0xBF⟩ := by
  rw [first_ofNat (by omega), if_neg (by omega), if_neg (by omega), if_neg (by omega), if_pos high]

theorem first_four {n : Nat} (low : 0xF0 ≤ n) (high : n < 0xF5) :
    first (UInt8.ofNat n) = .more ⟨n - 0xF0, 3, 1, if n = 0xF0 then 0x90 else 0x80,
      if n = 0xF4 then 0x8F else 0xBF⟩ := by
  rw [first_ofNat (by omega), if_neg (by omega), if_neg (by omega), if_neg (by omega),
    if_neg (by omega), if_pos high]

/-- A byte in range is taken in; whether a character is complete depends on how many are needed. -/
theorem Tail.next_ofNat {tail : Tail} {n : Nat} (low : tail.low.toNat ≤ n)
    (high : n ≤ tail.high.toNat) :
    tail.next (UInt8.ofNat n) =
      if tail.needed ≤ 1 then .char (Char.ofNat (tail.code * 64 + (n - 0x80)))
      else .more ⟨tail.code * 64 + (n - 0x80), tail.needed - 1, tail.seen + 1, 0x80, 0xBF⟩ := by
  have hn := toNat_ofNat_byte (show n < 256 from Nat.lt_of_le_of_lt high tail.high.toNat_lt)
  have hrange : tail.low ≤ UInt8.ofNat n ∧ UInt8.ofNat n ≤ tail.high := by
    rw [UInt8.le_iff_toNat_le, UInt8.le_iff_toNat_le, hn]
    exact ⟨low, high⟩
  rw [Tail.next, if_pos hrange, hn]

theorem Tail.completes_last {tail : Tail} {n : Nat} {c : Char} (low : tail.low.toNat ≤ n)
    (high : n ≤ tail.high.toNat) (needed : tail.needed = 1)
    (code : tail.code * 64 + (n - 0x80) = c.toNat) : tail.Completes [UInt8.ofNat n] c := by
  refine .last ?_
  rw [next_ofNat low high, needed, if_pos (Nat.le_refl 1), code, Char.ofNat_toNat]

theorem Tail.completes_more {tail : Tail} {n k : Nat} {bytes : Bytes} {c : Char}
    (low : tail.low.toNat ≤ n) (high : n ≤ tail.high.toNat) (needed : tail.needed = k + 2)
    (rest : Completes ⟨tail.code * 64 + (n - 0x80), k + 1, tail.seen + 1, 0x80, 0xBF⟩ bytes c) :
    tail.Completes (UInt8.ofNat n :: bytes) c := by
  refine .more ?_ rest
  rw [next_ofNat low high, needed, if_neg (by omega)]
  rfl

/-! ## Written characters -/

theorem spells_encodeChar (c : Char) : Spells (String.utf8EncodeChar c) c := by
  have hvalid : c.val.toNat < 0xD800 ∨ 0xDFFF < c.val.toNat ∧ c.val.toNat < 0x110000 := c.valid
  fun_cases String.utf8EncodeChar c with
  | case1 v h =>
    refine .single ?_
    rw [first_ofNat (by omega), if_pos (by omega)]
    exact congrArg Step.char (Char.ofNat_toNat c)
  | case2 v h₁ h₂ =>
    refine .several (first_two (by omega) (by omega)) (Tail.completes_last ?_ ?_ rfl ?_)
    · simp
    · simp; omega
    · show _ = v
      simp only []
      omega
  | case3 v h₁ h₂ h₃ =>
    refine .several (first_three (by omega) (by omega))
      (Tail.completes_more ?_ ?_ rfl (Tail.completes_last ?_ ?_ rfl ?_))
    · simp only []
      split <;> simp
      omega
    · simp only []
      split <;> simp <;> omega
    · simp
    · simp; omega
    · show _ = v
      simp only []
      omega
  | case4 v h₁ h₂ h₃ =>
    refine .several (first_four (by omega) (by omega))
      (Tail.completes_more ?_ ?_ rfl
        (Tail.completes_more ?_ ?_ rfl (Tail.completes_last ?_ ?_ rfl ?_)))
    · simp only []
      split <;> simp
      omega
    · simp only []
      split <;> simp <;> omega
    · simp
    · simp; omega
    · simp
    · simp; omega
    · show _ = v
      simp only []
      omega

/-! ## Strict reading -/

theorem decodeFrom_completes {tail : Tail} {bytes : Bytes} {c : Char} (h : tail.Completes bytes c)
    (index : Nat) (text : String) (rest : Bytes) :
    decodeFrom index text (some tail) (bytes ++ rest) =
      decodeFrom (index + bytes.length) (text.push c) none rest := by
  induction h generalizing index with
  | last hb => simp [decodeFrom, hb]
  | more hb _ ih =>
    simp only [List.cons_append, decodeFrom, hb, ih, List.length_cons]
    congr 1
    omega

/-- **One character** is read from the bytes that spell it. -/
theorem decodeFrom_spells {bytes : Bytes} {c : Char} (h : Spells bytes c) (index : Nat)
    (text : String) (rest : Bytes) :
    decodeFrom index text none (bytes ++ rest) =
      decodeFrom (index + bytes.length) (text.push c) none rest := by
  cases h with
  | single hb => simp [decodeFrom, hb]
  | several hb hrest =>
    simp only [List.cons_append, decodeFrom, hb, decodeFrom_completes hrest, List.length_cons]
    congr 1
    omega

theorem decodeFrom_encode (chars : List Char) (index : Nat) (text : String) :
    decodeFrom index text none (chars.flatMap String.utf8EncodeChar) =
      .ok (text ++ String.ofList chars) := by
  induction chars generalizing index text with
  | nil => simp [decodeFrom]
  | cons c chars ih =>
    rw [List.flatMap_cons, decodeFrom_spells (spells_encodeChar c), ih]
    simp [← String.toList_inj]

/-- **Strict reading gives back what was written.** -/
theorem decode_encode (text : String) : decode (encode text) = .ok text := by
  rw [decode, encode, decodeFrom_encode]
  simp

/-! ## What strict reading accepts

The other way round: a run of the machine that ends in a character has gone over the bytes that the
character is written with.
-/

theorem first_eq_char {b : UInt8} {c : Char} (h : first b = .char c) :
    b.toNat < 0x80 ∧ c = Char.ofNat b.toNat := by
  have hfirst := first_ofNat b.toNat_lt
  rw [UInt8.ofNat_toNat, h] at hfirst
  grind

/-- The second byte of a sequence is narrowed down where an overlong form, a surrogate or a number
that is too large has to be kept out. -/
theorem first_eq_more {b : UInt8} {tail : Tail} (h : first b = .more tail) :
    (0xC2 ≤ b.toNat ∧ b.toNat < 0xE0 ∧ tail = ⟨b.toNat - 0xC0, 1, 1, 0x80, 0xBF⟩) ∨
      (∃ low high : UInt8, 0xE0 ≤ b.toNat ∧ b.toNat < 0xF0 ∧
        tail = ⟨b.toNat - 0xE0, 2, 1, low, high⟩ ∧ 0x80 ≤ low.toNat ∧ high.toNat ≤ 0xBF ∧
        (b.toNat = 0xE0 → 0xA0 ≤ low.toNat) ∧ (b.toNat = 0xED → high.toNat ≤ 0x9F)) ∨
      ∃ low high : UInt8, 0xF0 ≤ b.toNat ∧ b.toNat < 0xF5 ∧
        tail = ⟨b.toNat - 0xF0, 3, 1, low, high⟩ ∧ 0x80 ≤ low.toNat ∧ high.toNat ≤ 0xBF ∧
        (b.toNat = 0xF0 → 0x90 ≤ low.toNat) ∧ (b.toNat = 0xF4 → high.toNat ≤ 0x8F) := by
  have hfirst := first_ofNat b.toNat_lt
  rw [UInt8.ofNat_toNat, h] at hfirst
  split at hfirst
  · cases hfirst
  split at hfirst
  · cases hfirst
  split at hfirst
  · exact .inl ⟨by omega, by assumption, Step.more.inj hfirst⟩
  split at hfirst
  · refine .inr (.inl ⟨_, _, by omega, by assumption, Step.more.inj hfirst, ?_, ?_, ?_, ?_⟩) <;>
      split <;> simp only [UInt8.reduceToNat] <;> omega
  split at hfirst
  · refine .inr (.inr ⟨_, _, by omega, by assumption, Step.more.inj hfirst, ?_, ?_, ?_, ?_⟩) <;>
      split <;> simp only [UInt8.reduceToNat] <;> omega
  · cases hfirst

theorem Tail.next_eq_char {tail : Tail} {b : UInt8} {c : Char} (h : tail.next b = .char c) :
    tail.low.toNat ≤ b.toNat ∧ b.toNat ≤ tail.high.toNat ∧ tail.needed ≤ 1 ∧
      c = Char.ofNat (tail.code * 64 + (b.toNat - 0x80)) := by
  simp only [next, UInt8.le_iff_toNat_le] at h
  grind

theorem Tail.next_eq_more {tail after : Tail} {b : UInt8} (h : tail.next b = .more after) :
    tail.low.toNat ≤ b.toNat ∧ b.toNat ≤ tail.high.toNat ∧ 1 < tail.needed ∧
      after = ⟨tail.code * 64 + (b.toNat - 0x80), tail.needed - 1, tail.seen + 1, 0x80, 0xBF⟩ := by
  simp only [next, UInt8.le_iff_toNat_le] at h
  grind

theorem Tail.Completes.of_last {tail : Tail} {bytes : Bytes} {c : Char}
    (h : tail.Completes bytes c) (needed : tail.needed = 1) :
    ∃ b : UInt8, bytes = [b] ∧ tail.low.toNat ≤ b.toNat ∧ b.toNat ≤ tail.high.toNat ∧
      c = Char.ofNat (tail.code * 64 + (b.toNat - 0x80)) := by
  cases h with
  | last hb =>
    obtain ⟨low, high, -, hc⟩ := next_eq_char hb
    exact ⟨_, rfl, low, high, hc⟩
  | more hb =>
    have := (next_eq_more hb).2.2.1
    omega

theorem Tail.Completes.of_more {tail : Tail} {bytes : Bytes} {c : Char} {k : Nat}
    (h : tail.Completes bytes c) (needed : tail.needed = k + 2) :
    ∃ (b : UInt8) (rest : Bytes), bytes = b :: rest ∧ tail.low.toNat ≤ b.toNat ∧
      b.toNat ≤ tail.high.toNat ∧
      Completes ⟨tail.code * 64 + (b.toNat - 0x80), k + 1, tail.seen + 1, 0x80, 0xBF⟩ rest c := by
  cases h with
  | last hb =>
    have := (next_eq_char hb).2.2.1
    omega
  | more hb hrest =>
    obtain ⟨low, high, -, rfl⟩ := next_eq_more hb
    rw [needed] at hrest
    exact ⟨_, _, rfl, low, high, hrest⟩

theorem toNat_char_ofNat {n : Nat} (h : n < 0xD800 ∨ 0xDFFF < n ∧ n < 0x110000) :
    (Char.ofNat n).val.toNat = n := by
  have hvalid : n.isValidChar := h
  rw [Char.ofNat, dif_pos hvalid]
  rfl

theorem ofNat_eq_of_toNat {n : Nat} {b : UInt8} (h : n = b.toNat) : UInt8.ofNat n = b := by
  rw [h, UInt8.ofNat_toNat]

/-- **A character is spelled in one way only**, and that is how it is written. -/
theorem eq_encodeChar_of_spells {bytes : Bytes} {c : Char} (h : Spells bytes c) :
    bytes = String.utf8EncodeChar c := by
  cases h with
  | @single b _ hb =>
    obtain ⟨hlt, hc⟩ := first_eq_char hb
    have hv : c.val.toNat = b.toNat := by rw [hc, toNat_char_ofNat (by omega)]
    rw [String.utf8EncodeChar]
    simp only [hv, show b.toNat ≤ 127 by omega, if_true, UInt8.ofNat_toNat]
  | @several b tail rest _ hb hrest =>
    rcases first_eq_more hb with ⟨low, high, rfl⟩ |
      ⟨lowest, highest, low, high, rfl, hlowest, hhighest, hover, hsurrogate⟩ |
      ⟨lowest, highest, low, high, rfl, hlowest, hhighest, hover, hlarge⟩
    · obtain ⟨b₁, rfl, low₁, high₁, hc⟩ := hrest.of_last rfl
      simp only [UInt8.reduceToNat] at low₁ high₁ hc
      have hv : c.val.toNat = (b.toNat - 0xC0) * 64 + (b₁.toNat - 0x80) := by
        rw [hc, toNat_char_ofNat (by omega)]
      rw [String.utf8EncodeChar]
      simp only [hv]
      rw [if_neg (by omega), if_pos (by omega), ofNat_eq_of_toNat (b := b) (by omega),
        ofNat_eq_of_toNat (b := b₁) (by omega)]
    · obtain ⟨b₁, _, rfl, low₁, high₁, hrest⟩ := hrest.of_more rfl
      obtain ⟨b₂, rfl, low₂, high₂, hc⟩ := hrest.of_last rfl
      simp only [UInt8.reduceToNat] at low₁ high₁ low₂ high₂ hc
      have hv : c.val.toNat =
          ((b.toNat - 0xE0) * 64 + (b₁.toNat - 0x80)) * 64 + (b₂.toNat - 0x80) := by
        rw [hc, toNat_char_ofNat (by omega)]
      rw [String.utf8EncodeChar]
      simp only [hv]
      rw [if_neg (by omega), if_neg (by omega), if_pos (by omega),
        ofNat_eq_of_toNat (b := b) (by omega), ofNat_eq_of_toNat (b := b₁) (by omega),
        ofNat_eq_of_toNat (b := b₂) (by omega)]
    · obtain ⟨b₁, _, rfl, low₁, high₁, hrest⟩ := hrest.of_more rfl
      obtain ⟨b₂, _, rfl, low₂, high₂, hrest⟩ := hrest.of_more rfl
      obtain ⟨b₃, rfl, low₃, high₃, hc⟩ := hrest.of_last rfl
      simp only [UInt8.reduceToNat] at low₁ high₁ low₂ high₂ low₃ high₃ hc
      have hv : c.val.toNat = (((b.toNat - 0xF0) * 64 + (b₁.toNat - 0x80)) * 64 +
          (b₂.toNat - 0x80)) * 64 + (b₃.toNat - 0x80) := by
        rw [hc, toNat_char_ofNat (by omega)]
      rw [String.utf8EncodeChar]
      simp only [hv]
      rw [if_neg (by omega), if_neg (by omega), if_neg (by omega),
        ofNat_eq_of_toNat (b := b) (by omega), ofNat_eq_of_toNat (b := b₁) (by omega),
        ofNat_eq_of_toNat (b := b₂) (by omega), ofNat_eq_of_toNat (b := b₃) (by omega)]

/-- Strict reading of a sequence begun goes through to the character. -/
theorem exists_completes_of_decodeFrom {index : Nat} {text result : String} {tail : Tail}
    {bytes : Bytes} (h : decodeFrom index text (some tail) bytes = .ok result) :
    ∃ c front rest, bytes = front ++ rest ∧ tail.Completes front c ∧
      decodeFrom (index + front.length) (text.push c) none rest = .ok result := by
  induction bytes generalizing index tail with
  | nil => simp [decodeFrom] at h
  | cons b bytes ih =>
    rw [decodeFrom] at h
    cases hb : tail.next b with
    | char c =>
      rw [hb] at h
      exact ⟨c, [b], bytes, rfl, .last hb, h⟩
    | more after =>
      rw [hb] at h
      obtain ⟨c, front, rest, rfl, hfront, hrest⟩ := ih h
      refine ⟨c, b :: front, rest, rfl, .more hb hfront, ?_⟩
      rwa [List.length_cons, Nat.add_comm front.length, ← Nat.add_assoc]
    | bad => simp [hb] at h

/-- Strict reading goes character by character. -/
theorem exists_spells_of_decodeFrom {index : Nat} {text result : String} {b : UInt8}
    {bytes : Bytes} (h : decodeFrom index text none (b :: bytes) = .ok result) :
    ∃ c front rest, b :: bytes = front ++ rest ∧ Spells front c ∧
      decodeFrom (index + front.length) (text.push c) none rest = .ok result := by
  rw [decodeFrom] at h
  cases hb : first b with
  | char c =>
    rw [hb] at h
    exact ⟨c, [b], bytes, rfl, .single hb, h⟩
  | more tail =>
    rw [hb] at h
    obtain ⟨c, front, rest, rfl, hfront, hrest⟩ := exists_completes_of_decodeFrom h
    refine ⟨c, b :: front, rest, rfl, .several hb hfront, ?_⟩
    rwa [List.length_cons, Nat.add_comm front.length, ← Nat.add_assoc]
  | bad => simp [hb] at h

theorem Spells.length_pos {bytes : Bytes} {c : Char} (h : Spells bytes c) : 0 < bytes.length := by
  cases h <;> exact Nat.succ_pos _

theorem eq_of_decodeFrom {index : Nat} {text result : String} {bytes : Bytes}
    (h : decodeFrom index text none bytes = .ok result) :
    ∃ chars, result = text ++ String.ofList chars ∧
      bytes = chars.flatMap String.utf8EncodeChar := by
  induction hsize : bytes.length using Nat.strongRecOn generalizing index text bytes with
  | ind size ih =>
    cases bytes with
    | nil =>
      cases Except.ok.inj h
      exact ⟨[], by simp, rfl⟩
    | cons b bytes =>
      obtain ⟨c, front, rest, hbytes, hfront, hrest⟩ := exists_spells_of_decodeFrom h
      rw [hbytes] at hsize ⊢
      have hlt : rest.length < size := by
        have := hfront.length_pos
        rw [← hsize, List.length_append]
        omega
      obtain ⟨chars, rfl, rfl⟩ := ih rest.length hlt hrest rfl
      refine ⟨c :: chars, ?_, ?_⟩
      · simp [← String.toList_inj]
      · rw [List.flatMap_cons, eq_encodeChar_of_spells hfront]

/-- **Strict reading accepts what is written, and nothing else.** -/
theorem decode_eq_ok_iff {bytes : Bytes} {text : String} :
    decode bytes = .ok text ↔ encode text = bytes := by
  constructor
  · intro h
    obtain ⟨chars, rfl, rfl⟩ := eq_of_decodeFrom h
    simp [encode]
  · rintro rfl
    exact decode_encode text

/-! ## Lossy reading -/

theorem foldl_lossyStep_completes {tail : Tail} {bytes : Bytes} {c : Char}
    (h : tail.Completes bytes c) (text : String) :
    bytes.foldl lossyStep (text, some tail) = (text.push c, none) := by
  induction h with
  | last hb => simp [lossyStep, hb]
  | more hb _ ih => simp [lossyStep, hb, ih]

theorem foldl_lossyStep_spells {bytes : Bytes} {c : Char} (h : Spells bytes c) (text : String) :
    bytes.foldl lossyStep (text, none) = (text.push c, none) := by
  cases h with
  | single hb => simp [lossyStep, lossyFirst, hb]
  | several hb hrest =>
    simp [lossyStep, lossyFirst, hb, foldl_lossyStep_completes hrest]

theorem foldl_lossyStep_encode (chars : List Char) (text : String) :
    (chars.flatMap String.utf8EncodeChar).foldl lossyStep (text, none) =
      (text ++ String.ofList chars, none) := by
  induction chars generalizing text with
  | nil => simp
  | cons c chars ih =>
    rw [List.flatMap_cons, List.foldl_append, foldl_lossyStep_spells (spells_encodeChar c), ih]
    simp [← String.toList_inj]

/-- **Lossy reading loses nothing of what was written.** -/
theorem decodeLossy_encode (text : String) : decodeLossy (encode text) = text := by
  have h := foldl_lossyStep_encode text.toList ""
  simp only [String.ofList_toList, String.empty_append] at h
  rw [decodeLossy, encode, h]

/-! ## Length -/

theorem length_encode (text : String) : (encode text).length = text.utf8ByteSize := by
  rw [String.utf8ByteSize, ← String.utf8Encode_toList, List.utf8Encode, List.size_toByteArray,
    encode]

theorem utf8ByteSize_ofList_replicate (n : Nat) (c : Char) :
    (String.ofList (List.replicate n c)).utf8ByteSize = n * c.utf8Size := by
  rw [← length_encode, encode, String.toList_ofList, List.flatMap_replicate]
  simp

@[simp] theorem encode_eq_nil_iff {text : String} : encode text = [] ↔ text = "" := by
  constructor
  · intro h
    have hdecode := decode_encode text
    rw [h] at hdecode
    exact (Except.ok.inj hdecode).symm
  · rintro rfl
    rfl

/-! ### After lossy reading -/

@[simp] theorem utf8Size_replacement : replacement.utf8Size = 3 := by decide

/-- The bytes that a sequence may still come to that has begun: those of the replacement, if nothing
completes it. -/
def owed : Option Tail → Nat
  | none => 0
  | some _ => replacement.utf8Size

theorem utf8Size_of_first {b : UInt8} {c : Char} (h : first b = .char c) : c.utf8Size = 1 := by
  obtain ⟨hlt, rfl⟩ := first_eq_char h
  rw [Char.utf8Size_eq_one_iff, UInt32.le_iff_toNat_le, toNat_char_ofNat (by omega)]
  exact Nat.le_of_lt_succ hlt

/-- A byte that starts a sequence adds three bytes at most. -/
theorem lossyFirst_owed_le (text : String) (b : UInt8) :
    (lossyFirst text b).1.utf8ByteSize + owed (lossyFirst text b).2 ≤
      text.utf8ByteSize + 3 := by
  rw [lossyFirst]
  cases hb : first b with
  | char c => simp [owed, utf8Size_of_first hb]
  | more tail => simp [owed]
  | bad => simp [owed]

/-- **Every byte adds three bytes at most**, if what is owed for the sequence begun is counted in. -/
theorem lossyStep_owed_le (state : String × Option Tail) (b : UInt8) :
    (lossyStep state b).1.utf8ByteSize + owed (lossyStep state b).2 ≤
      state.1.utf8ByteSize + owed state.2 + 3 := by
  obtain ⟨text, _ | tail⟩ := state
  · exact lossyFirst_owed_le text b
  · rw [lossyStep]
    cases tail.next b with
    | char c =>
      have hc := c.utf8Size_le_four
      simp only [owed, utf8Size_replacement, String.utf8ByteSize_push]
      omega
    | more after => simp [owed]
    | bad =>
      have hfirst := lossyFirst_owed_le (text.push replacement) b
      simp only [owed, String.utf8ByteSize_push] at hfirst ⊢
      exact hfirst

theorem foldl_lossyStep_owed_le (bytes : Bytes) (state : String × Option Tail) :
    (bytes.foldl lossyStep state).1.utf8ByteSize + owed (bytes.foldl lossyStep state).2 ≤
      state.1.utf8ByteSize + owed state.2 + 3 * bytes.length := by
  induction bytes generalizing state with
  | nil => exact Nat.le_refl _
  | cons b bytes ih =>
    have hrest := ih (lossyStep state b)
    have hstep := lossyStep_owed_le state b
    simp only [List.foldl_cons, List.length_cons]
    omega

/-- **Lossy reading makes a text three times as long at most.** -/
theorem utf8ByteSize_decodeLossy_le (bytes : Bytes) :
    (decodeLossy bytes).utf8ByteSize ≤ 3 * bytes.length := by
  have hfold := foldl_lossyStep_owed_le bytes ("", none)
  rw [decodeLossy]
  generalize bytes.foldl lossyStep ("", none) = state at hfold
  obtain ⟨text, _ | tail⟩ := state
  · simpa [owed] using hfold
  · simpa [owed] using hfold

theorem foldl_lossyStep_of_bad {bytes : Bytes} (h : ∀ b ∈ bytes, first b = .bad) (text : String) :
    ∃ longer, bytes.foldl lossyStep (text, none) = (longer, none) ∧
      longer.utf8ByteSize = text.utf8ByteSize + 3 * bytes.length := by
  induction bytes generalizing text with
  | nil => exact ⟨text, rfl, rfl⟩
  | cons b bytes ih =>
    obtain ⟨hb, hrest⟩ := List.forall_mem_cons.1 h
    obtain ⟨longer, hfold, hsize⟩ := ih hrest (text.push replacement)
    refine ⟨longer, ?_, ?_⟩
    · rw [List.foldl_cons, lossyStep, lossyFirst, hb]
      exact hfold
    · rw [hsize, String.utf8ByteSize_push, utf8Size_replacement, List.length_cons]
      omega

/-- Where every byte is malformed by itself, it is three times as long. -/
theorem utf8ByteSize_decodeLossy_of_bad {bytes : Bytes} (h : ∀ b ∈ bytes, first b = .bad) :
    (decodeLossy bytes).utf8ByteSize = 3 * bytes.length := by
  obtain ⟨longer, hfold, hsize⟩ := foldl_lossyStep_of_bad h ""
  rw [decodeLossy, hfold]
  exact hsize.trans (Nat.zero_add _)

end BatchBridge.Utf8
