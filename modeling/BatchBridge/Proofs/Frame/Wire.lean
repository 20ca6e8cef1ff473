import BatchBridge.Frame.Codec

/-!
# What stands on the wire

A stream of frames and words has a meaning of its own, apart from any reader, its buffer and the
chunks in which bytes arrive.  `Frame.read` is that meaning: what the front of a byte string says,
if nothing follows it.

* `Fits` — a payload may be sent as one frame and is within a cap.
* `read` — the next item and what is behind it, or why there is none.
* **`read_frame_eq_ok_iff`**, **`read_word_eq_ok_iff`** — exactly what an item looks like.
* **`read_append_of_ok`**, **`read_append_of_error`** — items delimit themselves: what comes later
  matters only to a string that was cut.
-/

namespace BatchBridge

/-- The peer was gone before an item was complete. -/
def BridgeError.IsCut (error : BridgeError) : Prop := error.kind = .connectionClosed

namespace Frame

/-- The payload can be sent as a frame, and the frame is within the cap. -/
structure Fits (cap : Option Nat) (payload : Bytes) : Prop where
  cap : payload.length ≤ cap.getD maxLength
  length : payload.length ≤ maxLength

/-- What the front of a byte string holds that ends where it ends. -/
def read (cap : Option Nat) : Want → Bytes → Except BridgeError (Bytes × Bytes)
  | .word, input =>
    match Bytes.split? prefixBytes input with
    | none => .error (.connectionClosed prefixBytes input.length)
    | some (word, rest) => .ok (word, rest)
  | .frame, input =>
    match Bytes.split? prefixBytes input with
    | none => .error (.connectionClosed prefixBytes input.length)
    | some (front, rest) =>
      if Bytes.toNatBE front ≤ cap.getD maxLength then
        match Bytes.split? (Bytes.toNatBE front) rest with
        | none => .error (.connectionClosed (Bytes.toNatBE front) rest.length)
        | some (payload, rest) => .ok (payload, rest)
      else .error (.frameTooLarge (Bytes.toNatBE front) (cap.getD maxLength))

theorem span_prefixBytes : Bytes.span prefixBytes = maxLength + 1 := rfl

/-- Four bytes never spell more than the largest length. -/
theorem toNatBE_le_maxLength {front : Bytes} (h : front.length = prefixBytes) :
    Bytes.toNatBE front ≤ maxLength := by
  have hlt := Bytes.toNatBE_lt front
  rw [h, span_prefixBytes] at hlt
  omega

/-- A length takes the first four bytes. -/
theorem split?_length (length : Nat) (behind : Bytes) :
    Bytes.split? prefixBytes (Bytes.ofNatBE prefixBytes length ++ behind) =
      some (Bytes.ofNatBE prefixBytes length, behind) :=
  Bytes.split?_eq_some_iff.2 ⟨rfl, Bytes.length_ofNatBE ..⟩

theorem toNatBE_length {length : Nat} (h : length ≤ maxLength) :
    Bytes.toNatBE (Bytes.ofNatBE prefixBytes length) = length :=
  Bytes.toNatBE_ofNatBE_of_lt (by rw [span_prefixBytes]; exact Nat.lt_succ_of_le h)

/-- Any four bytes are a length. -/
theorem exists_length {input : Bytes} (h : prefixBytes ≤ input.length) :
    ∃ length behind, length ≤ maxLength ∧ input = Bytes.ofNatBE prefixBytes length ++ behind := by
  have hfront : (input.take prefixBytes).length = prefixBytes := by
    rw [List.length_take]
    omega
  refine ⟨Bytes.toNatBE (input.take prefixBytes), input.drop prefixBytes,
    toNatBE_le_maxLength hfront, ?_⟩
  have hback := Bytes.ofNatBE_toNatBE (input.take prefixBytes)
  rw [hfront] at hback
  rw [hback, List.take_append_drop]

theorem length_bytes (payload : Bytes) : (bytes payload).length = prefixBytes + payload.length := by
  simp [bytes]

/-! ## What items look like -/

/-- **A word is read from its four bytes**, and from nothing else. -/
theorem read_word_eq_ok_iff {cap : Option Nat} {input word rest : Bytes} :
    read cap .word input = .ok (word, rest) ↔ input = word ++ rest ∧ word.length = prefixBytes := by
  rw [read, ← Bytes.split?_eq_some_iff]
  cases Bytes.split? prefixBytes input with
  | none => simp
  | some parts => simp [Prod.ext_iff]

/-- **A frame is read from its bytes**, if it is within the cap, and from nothing else. -/
theorem read_frame_eq_ok_iff {cap : Option Nat} {input payload rest : Bytes} :
    read cap .frame input = .ok (payload, rest) ↔
      input = bytes payload ++ rest ∧ Fits cap payload := by
  constructor
  · intro h
    simp only [read] at h
    split at h
    · cases h
    · rename_i front behind hfront
      split at h
      · rename_i hcap
        split at h
        · cases h
        · rename_i hbody
          simp only [Except.ok.injEq, Prod.mk.injEq] at h
          obtain ⟨rfl, rfl⟩ := h
          obtain ⟨rfl, hprefix⟩ := Bytes.split?_eq_some_iff.1 hfront
          obtain ⟨rfl, hlength⟩ := Bytes.split?_eq_some_iff.1 hbody
          refine ⟨?_, by rw [hlength]; exact hcap,
            by rw [hlength]; exact toNatBE_le_maxLength hprefix⟩
          rw [bytes, hlength, ← hprefix, Bytes.ofNatBE_toNatBE, List.append_assoc]
      · cases h
  · rintro ⟨rfl, hfits⟩
    have hbody : Bytes.split? payload.length (payload ++ rest) = some (payload, rest) :=
      Bytes.split?_eq_some_iff.2 ⟨rfl, rfl⟩
    rw [bytes, List.append_assoc]
    simp only [read, split?_length, toNatBE_length hfits.length, hbody, hfits.cap, if_true]

theorem read_bytes {cap : Option Nat} {payload : Bytes} (h : Fits cap payload) (rest : Bytes) :
    read cap .frame (bytes payload ++ rest) = .ok (payload, rest) :=
  read_frame_eq_ok_iff.2 ⟨rfl, h⟩

/-- The empty frame is within any cap. -/
theorem read_bytes_nil (cap : Option Nat) (rest : Bytes) :
    read cap .frame (bytes [] ++ rest) = .ok ([], rest) :=
  read_bytes ⟨Nat.zero_le _, Nat.zero_le _⟩ rest

/-- A read fails because the string was cut, or because a frame is longer than the cap. -/
theorem read_eq_error {cap : Option Nat} {want : Want} {input : Bytes} {error : BridgeError}
    (h : read cap want input = .error error) :
    (∃ expected received, error = .connectionClosed expected received) ∨
      ∃ length limit, error = .frameTooLarge length limit ∧ cap = some limit ∧ want = .frame := by
  cases want with
  | word =>
    simp only [read] at h
    split at h
    · exact .inl ⟨_, _, (Except.error.inj h).symm⟩
    · cases h
  | frame =>
    simp only [read] at h
    split at h
    · exact .inl ⟨_, _, (Except.error.inj h).symm⟩
    · rename_i hfront
      split at h
      · split at h
        · exact .inl ⟨_, _, (Except.error.inj h).symm⟩
        · cases h
      · rename_i hcap
        have hprefix := (Bytes.split?_eq_some_iff.1 hfront).2
        cases cap with
        | none => exact absurd (toNatBE_le_maxLength hprefix) hcap
        | some limit => exact .inr ⟨_, limit, (Except.error.inj h).symm, rfl, rfl⟩

/-! ## What comes later -/

/-- **An item that is complete stays what it is**, whatever follows it. -/
theorem read_append_of_ok {cap : Option Nat} {want : Want} {input item rest : Bytes}
    (h : read cap want input = .ok (item, rest)) (more : Bytes) :
    read cap want (input ++ more) = .ok (item, rest ++ more) := by
  cases want with
  | word =>
    obtain ⟨rfl, hlength⟩ := read_word_eq_ok_iff.1 h
    exact read_word_eq_ok_iff.2 ⟨List.append_assoc .., hlength⟩
  | frame =>
    obtain ⟨rfl, hfits⟩ := read_frame_eq_ok_iff.1 h
    exact read_frame_eq_ok_iff.2 ⟨List.append_assoc .., hfits⟩

/-- **A frame that is too long stays too long**, whatever follows its length. -/
theorem read_append_of_error {cap : Option Nat} {want : Want} {input : Bytes} {error : BridgeError}
    (h : read cap want input = .error error) (hcut : ¬error.IsCut) (more : Bytes) :
    read cap want (input ++ more) = .error error := by
  rcases read_eq_error h with ⟨expected, received, rfl⟩ | ⟨length, limit, rfl, rfl, rfl⟩
  · exact absurd rfl hcut
  · simp only [read] at h ⊢
    cases hfront : Bytes.split? prefixBytes input with
    | none => simp [hfront] at h
    | some parts =>
      obtain ⟨front, rest⟩ := parts
      simp only [hfront] at h
      split at h
      · split at h <;> cases h
      · rename_i hcap
        simp only [Bytes.split?_append hfront more, if_neg hcap]
        exact h

end Frame
end BatchBridge
