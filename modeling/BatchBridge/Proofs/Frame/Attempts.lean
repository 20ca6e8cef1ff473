import BatchBridge.Proofs.Frame.Wire

/-!
# Attempts of a codec

A reader whose calls fail and are made again, under other caps and for other items, has a codec that
may stand anywhere.  What one attempt of it can do is said here once, for any codec whatever.

* `Codec.started?` — the frame that a codec is at: its length, and what there is behind it.
* `Codec.Attempted` — how an attempt can go, and **`Codec.attempted_decode`**, that it goes so.
* `Codec.awaited` — the size of the item that is being read, and how much of it is there.
* **`Codec.missing_of_attempted`** — what is missing in the end is the rest of that item.
* **`Codec.decode_again`** — an attempt that finds nothing takes nothing from the next one.
-/

namespace BatchBridge.Frame.Codec

/-- The frame that a codec is at, as far as it is there: its length, and the bytes behind it. -/
def started? (codec : Codec) (input : Bytes) : Option (Nat × Bytes) :=
  match codec.phase with
  | .body length => some (length, input)
  | .head => (Bytes.split? prefixBytes input).map fun parts => (Bytes.toNatBE parts.1, parts.2)

/-- A codec that stands in a frame has noted a length. -/
def Notes (codec : Codec) : Prop := ∀ length, codec.phase = .body length → codec.pending ≠ none

/-- How an attempt can go. -/
inductive Attempted (codec : Codec) (input : Bytes) : Want → Outcome → Prop where
  | word {word rest : Bytes} : input = word ++ rest → word.length = prefixBytes →
      Attempted codec input .word ⟨.ok (some word), codec, rest⟩
  | noWord : input.length < prefixBytes → Attempted codec input .word ⟨.ok none, codec, input⟩
  /-- A length is not there yet. -/
  | short : codec.started? input = none → Attempted codec input .frame ⟨.ok none, codec, input⟩
  /-- The length is above the cap.  It stays where it is and is noted, unless another one has been
  noted before. -/
  | refused {length limit : Nat} {behind : Bytes} : codec.phase = .head →
      codec.started? input = some (length, behind) → codec.cap = some limit → limit < length →
      Attempted codec input .frame
        ⟨.error (.frameTooLarge (codec.pending.getD length) limit),
          { codec with pending := some (codec.pending.getD length) }, input⟩
  | payload {length : Nat} {payload rest : Bytes} :
      codec.started? input = some (length, payload ++ rest) →
      (codec.phase = .head → length ≤ codec.cap.getD maxLength) → payload.length = length →
      Attempted codec input .frame
        ⟨.ok (some payload), { codec with phase := .head, pending := none }, rest⟩
  /-- The length has been taken off, but there are fewer bytes behind it. -/
  | begun {length : Nat} {behind : Bytes} : codec.started? input = some (length, behind) →
      (codec.phase = .head → length ≤ codec.cap.getD maxLength) → behind.length < length →
      Attempted codec input .frame
        ⟨.ok none,
          { codec with phase := .body length, pending := some (codec.pending.getD length) }, behind⟩

variable {codec next : Codec} {want : Want} {input rest : Bytes}

theorem attempted_takeBody {length : Nat} {behind : Bytes} {noted : Codec}
    (hstarted : codec.started? input = some (length, behind))
    (hcap : codec.phase = .head → length ≤ codec.cap.getD maxLength)
    (hnoted : noted = { codec with pending := some (codec.pending.getD length) }) :
    Attempted codec input .frame (noted.takeBody length behind) := by
  subst hnoted
  rw [takeBody]
  cases hsplit : Bytes.split? length behind with
  | none => exact .begun hstarted hcap (Bytes.split?_eq_none_iff.1 hsplit)
  | some parts =>
    obtain ⟨payload, rest⟩ := parts
    obtain ⟨rfl, hlength⟩ := Bytes.split?_eq_some_iff.1 hsplit
    exact .payload hstarted hcap hlength

/-- **An attempt goes in one of these ways.** -/
theorem attempted_decode (h : codec.Notes) (want : Want) (input : Bytes) :
    Attempted codec input want (codec.decode want input) := by
  cases want with
  | word =>
    rw [decode]
    cases hsplit : Bytes.split? prefixBytes input with
    | none => exact .noWord (Bytes.split?_eq_none_iff.1 hsplit)
    | some parts =>
      obtain ⟨word, rest⟩ := parts
      obtain ⟨hinput, hlength⟩ := Bytes.split?_eq_some_iff.1 hsplit
      exact .word hinput hlength
  | frame =>
    obtain ⟨cap, phase, pending⟩ := codec
    cases phase with
    | body length =>
      obtain ⟨noted, rfl⟩ := Option.ne_none_iff_exists'.1 (h length rfl)
      exact attempted_takeBody rfl (fun hhead => by cases hhead) rfl
    | head =>
      cases hsplit : Bytes.split? prefixBytes input with
      | none =>
        have hshort : started? ⟨cap, .head, pending⟩ input = none := by simp [started?, hsplit]
        have hstays := Attempted.short hshort
        cases pending <;> simpa [decode, note, takeFrame, hsplit] using hstays
      | some parts =>
        obtain ⟨front, behind⟩ := parts
        have hstarted : started? ⟨cap, .head, pending⟩ input =
            some (Bytes.toNatBE front, behind) := by simp [started?, hsplit]
        have hnote : note ⟨cap, .head, pending⟩ input =
            ⟨cap, .head, some (pending.getD (Bytes.toNatBE front))⟩ := by
          cases pending <;> simp [note, hsplit]
        simp only [decode, hnote, takeFrame, hsplit]
        by_cases hcap : Bytes.toNatBE front ≤ cap.getD maxLength
        · rw [if_pos hcap]
          exact attempted_takeBody hstarted (fun _ => hcap) rfl
        · rw [if_neg hcap]
          cases cap with
          | none =>
            have hprefix := (Bytes.split?_eq_some_iff.1 hsplit).2
            exact absurd (toNatBE_le_maxLength hprefix) hcap
          | some limit => exact .refused rfl hstarted rfl (Nat.lt_of_not_le hcap)

/-- The length in front stays noted as long as the codec is at its payload. -/
theorem Notes.attempted {result : Except BridgeError (Option Bytes)} (h : codec.Notes)
    (hattempt : Attempted codec input want ⟨result, next, rest⟩) : next.Notes := by
  intro length hphase
  cases hattempt with
  | word => exact h length hphase
  | noWord => exact h length hphase
  | short => exact h length hphase
  | refused => simp
  | payload => cases hphase
  | begun => simp

theorem Notes.decode {result : Except BridgeError (Option Bytes)} (h : codec.Notes)
    (hdecode : codec.decode want input = ⟨result, next, rest⟩) : next.Notes := by
  have hattempt := attempted_decode h want input
  rw [hdecode] at hattempt
  exact h.attempted hattempt

/-- An attempt fails only because of a length. -/
theorem eq_frameTooLarge_of_decode {error : BridgeError} (h : codec.Notes)
    (hdecode : codec.decode want input = ⟨.error error, next, rest⟩) :
    ∃ length limit, error = .frameTooLarge length limit := by
  have hattempt := attempted_decode h want input
  rw [hdecode] at hattempt
  cases hattempt with
  | refused => exact ⟨_, _, rfl⟩

/-- **An attempt that finds nothing takes nothing from the next one**, whatever has come since. -/
theorem decode_again (h : codec.Notes)
    (hdecode : codec.decode want input = ⟨.ok none, next, rest⟩) (more : Bytes) :
    next.decode want (rest ++ more) = codec.decode want (input ++ more) := by
  have hattempt := attempted_decode h want input
  rw [hdecode] at hattempt
  cases hattempt with
  | noWord => rfl
  | short => rfl
  | @begun length behind hstarted hcap hshort =>
    obtain ⟨cap, phase, pending⟩ := codec
    cases phase with
    | body =>
      obtain ⟨noted, rfl⟩ := Option.ne_none_iff_exists'.1 (h _ rfl)
      simp only [started?, Option.some.injEq, Prod.mk.injEq] at hstarted
      obtain ⟨rfl, rfl⟩ := hstarted
      rfl
    | head =>
      simp only [started?, Option.map_eq_some_iff, Prod.mk.injEq] at hstarted
      obtain ⟨⟨front, behind⟩, hsplit, rfl, rfl⟩ := hstarted
      have hmore := Bytes.split?_append hsplit more
      have hnote : note ⟨cap, .head, pending⟩ (input ++ more) =
          ⟨cap, .head, some (pending.getD (Bytes.toNatBE front))⟩ := by
        cases pending <;> simp [note, hmore]
      simp only [decode, hnote, takeFrame, hmore, hcap rfl, if_true]
      rfl

/-! ## What is missing -/

/-- The size of the item that is being read, and how much of it is there. -/
def awaited (codec : Codec) (want : Want) (input : Bytes) : Nat × Nat :=
  match want with
  | .word => (prefixBytes, input.length)
  | .frame =>
    match codec.started? input with
    | none => (prefixBytes, input.length)
    | some (length, behind) => (length, behind.length)

theorem eq_connectionClosed_of_missing {error : BridgeError}
    (h : missing want codec input = some error) :
    ∃ expected received, error = .connectionClosed expected received := by
  rw [missing.eq_def] at h
  split at h
  · split at h
    · cases h
    · exact ⟨_, _, (Option.some.inj h).symm⟩
  · exact ⟨_, _, (Option.some.inj h).symm⟩
  · exact ⟨_, _, (Option.some.inj h).symm⟩

theorem length_lt_of_started?_eq_none (h : codec.started? input = none) :
    codec.phase = .head ∧ input.length < prefixBytes := by
  obtain ⟨cap, phase, pending⟩ := codec
  cases phase with
  | body => simp [started?] at h
  | head =>
    simp only [started?, Option.map_eq_none_iff] at h
    exact ⟨rfl, Bytes.split?_eq_none_iff.1 h⟩

/-- What an attempt has not found is not all there. -/
theorem awaited_lt_of_attempted (h : Attempted codec input want ⟨.ok none, next, rest⟩) :
    (codec.awaited want input).2 < (codec.awaited want input).1 := by
  cases h with
  | noWord hshort => exact hshort
  | short hstarted =>
    simp only [awaited, hstarted]
    exact (length_lt_of_started?_eq_none hstarted).2
  | begun hstarted _ hshort =>
    simp only [awaited, hstarted]
    exact hshort

/-- **What is missing in the end is the rest of the item**, but for its size: if another length has
been noted before, then that one is told. -/
theorem missing_of_attempted (h : Attempted codec input want ⟨.ok none, next, rest⟩) :
    (missing want next rest = none ∧ codec.awaited want input = (prefixBytes, 0)) ∨
      ∃ expected,
        missing want next rest =
          some (.connectionClosed expected (codec.awaited want input).2) ∧
        (expected = (codec.awaited want input).1 ∨
          want = .frame ∧ codec.pending = some expected) := by
  cases h with
  | noWord hshort =>
    cases hpending : codec.pending with
    | some noted => exact .inr ⟨prefixBytes, by simp [missing, hpending, awaited], .inl rfl⟩
    | none =>
      cases input with
      | nil => exact .inl ⟨by simp [missing, hpending], rfl⟩
      | cons b input => exact .inr ⟨prefixBytes, by simp [missing, hpending, awaited], .inl rfl⟩
  | short hstarted =>
    cases hpending : codec.pending with
    | some noted =>
      exact .inr ⟨noted, by simp [missing, hpending, awaited, hstarted], .inr ⟨rfl, rfl⟩⟩
    | none =>
      cases input with
      | nil => exact .inl ⟨by simp [missing, hpending], by simp [awaited, hstarted]⟩
      | cons b input =>
        exact .inr ⟨prefixBytes, by simp [missing, hpending, awaited, hstarted],
          .inl (by simp [awaited, hstarted])⟩
  | @begun length behind hstarted _ hshort =>
    refine .inr ⟨codec.pending.getD length, by simp [missing, awaited, hstarted], ?_⟩
    cases hpending : codec.pending with
    | none => exact .inl (by simp [awaited, hstarted])
    | some noted => exact .inr ⟨rfl, by simp⟩

end BatchBridge.Frame.Codec
