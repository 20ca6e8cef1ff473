import BatchBridge.Proofs.Frame.Reading

/-!
# Frames out of chunks

Bytes arrive in chunks that have nothing to do with where frames begin and end.  Between chunks a
codec stands wherever the last one has left it: before a length, behind one, or at one that it
refuses.  Nonetheless what it gives, and how it stands in the end, depends on the bytes alone.

* `Splits`, `Leaves` — a byte string as frames and a rest; and how a codec stands that has been left
  with such a rest.
* `Codec.exhaust`, `feed` — asks for frames until there is none or one is refused, after each chunk.
* **`Leaves.decode_append`** — a codec that has been left with a rest is as good as a new one before
  it.
* **`Fed.Accounts.next`** — one more chunk, and **`accounts_feed`** — any chunks.
* **`feed_exact`** — framing is exact and does not depend on the chunks.
-/

namespace BatchBridge.Frame

/-! ## Frames and a rest -/

/-- The byte string is these frames, each within the cap, and the rest behind them. -/
structure Splits (cap : Option Nat) (input : Bytes) (frames : List Bytes) (rest : Bytes) :
    Prop where
  input_eq : input = frames.flatMap bytes ++ rest
  fits : ∀ frame ∈ frames, Fits cap frame

/-- How a codec stands that has taken all frames. -/
structure Standing where
  codec : Codec
  buffer : Bytes
  /-- What one more attempt fails with, if it fails. -/
  refusal : Option BridgeError
  /-- What an attempt gives if nothing more comes. -/
  atEnd : Except BridgeError (Option Bytes)

/-- A byte string that does not begin with a frame within the cap, and how a codec stands that has
been left with it. -/
inductive Leaves (cap : Option Nat) : Bytes → Standing → Prop where
  /-- A length is not there yet. -/
  | short {rest : Bytes} : rest.length < prefixBytes →
      Leaves cap rest ⟨.new cap, rest, none,
        if rest = [] then .ok none else .error (.connectionClosed prefixBytes rest.length)⟩
  /-- A length is above the cap: everything stays where it is. -/
  | refused {limit length : Nat} {behind : Bytes} : cap = some limit → limit < length →
      length ≤ maxLength →
      Leaves cap (Bytes.ofNatBE prefixBytes length ++ behind)
        ⟨⟨cap, .head, some length⟩, Bytes.ofNatBE prefixBytes length ++ behind,
          some (.frameTooLarge length limit), .error (.frameTooLarge length limit)⟩
  /-- A length is within the cap, but there are fewer bytes behind it: the length is taken off. -/
  | cut {length : Nat} {body : Bytes} : length ≤ cap.getD maxLength → length ≤ maxLength →
      body.length < length →
      Leaves cap (Bytes.ofNatBE prefixBytes length ++ body)
        ⟨⟨cap, .body length, some length⟩, body, none,
          .error (.connectionClosed length body.length)⟩

/-- What one more attempt gives. -/
def Standing.result (standing : Standing) : Except BridgeError (Option Bytes) :=
  match standing.refusal with
  | none => .ok none
  | some error => .error error

theorem splits_nil (cap : Option Nat) (input : Bytes) : Splits cap input [] input where
  input_eq := rfl
  fits _ hmem := absurd hmem List.not_mem_nil

theorem Splits.append {cap : Option Nat} {input more rest rest' : Bytes}
    {frames frames' : List Bytes} (h : Splits cap input frames rest)
    (h' : Splits cap (rest ++ more) frames' rest') :
    Splits cap (input ++ more) (frames ++ frames') rest' where
  input_eq := by
    rw [h.input_eq, List.append_assoc, h'.input_eq, List.flatMap_append, List.append_assoc]
  fits frame hmem := (List.mem_append.1 hmem).elim (h.fits frame) (h'.fits frame)

/-- A byte string begins with a frame or is left as it is. -/
theorem frame_or_leaves (cap : Option Nat) (input : Bytes) :
    (∃ frame more, Fits cap frame ∧ input = bytes frame ++ more) ∨
      ∃ standing, Leaves cap input standing := by
  by_cases hshort : input.length < prefixBytes
  · exact .inr ⟨_, .short hshort⟩
  · obtain ⟨length, behind, hlength, rfl⟩ := exists_length (Nat.le_of_not_lt hshort)
    by_cases hcap : length ≤ cap.getD maxLength
    · by_cases hcut : behind.length < length
      · exact .inr ⟨_, .cut hcap hlength hcut⟩
      · have hframe : (behind.take length).length = length := by
          rw [List.length_take]
          omega
        refine .inl ⟨behind.take length, behind.drop length, ⟨?_, ?_⟩, ?_⟩
        · rwa [hframe]
        · rwa [hframe]
        · rw [bytes, hframe, List.append_assoc, List.take_append_drop]
    · cases cap with
      | none => exact absurd hlength hcap
      | some limit => exact .inr ⟨_, .refused rfl (Nat.lt_of_not_le hcap) hlength⟩

/-- Every byte string is frames and a rest. -/
theorem exists_splits (cap : Option Nat) (input : Bytes) :
    ∃ frames rest standing, Splits cap input frames rest ∧ Leaves cap rest standing := by
  induction hsize : input.length using Nat.strongRecOn generalizing input with
  | _ size ih =>
    rcases frame_or_leaves cap input with ⟨frame, more, hfits, rfl⟩ | ⟨standing, hleaves⟩
    · rw [List.length_append, length_bytes, prefixBytes] at hsize
      obtain ⟨frames, rest, standing, hsplits, hleaves⟩ := ih more.length (by omega) more rfl
      refine ⟨frame :: frames, rest, standing, ⟨?_, List.forall_mem_cons.2 ⟨hfits, hsplits.fits⟩⟩,
        hleaves⟩
      rw [List.flatMap_cons, List.append_assoc, ← hsplits.input_eq]
    · exact ⟨[], input, standing, splits_nil cap input, hleaves⟩

/-! ## Attempts -/

namespace Codec

/-- Where a codec stands does not matter once the length is off the buffer. -/
theorem takeBody_phase (cap pending : Option Nat) (phase phase' : Phase) (length : Nat)
    (buffer : Bytes) : takeBody ⟨cap, phase, pending⟩ length buffer =
      takeBody ⟨cap, phase', pending⟩ length buffer := by
  rw [takeBody, takeBody]

/-- A length is noted, and is held against the cap. -/
theorem decode_new_length {cap : Option Nat} {length : Nat} (h : length ≤ maxLength)
    (behind : Bytes) :
    (new cap).decode .frame (Bytes.ofNatBE prefixBytes length ++ behind) =
      if length ≤ cap.getD maxLength then takeBody ⟨cap, .head, some length⟩ length behind
      else ⟨.error (refusal ⟨cap, .head, some length⟩), ⟨cap, .head, some length⟩,
        Bytes.ofNatBE prefixBytes length ++ behind⟩ := by
  simp only [decode, note, new, takeFrame, split?_length, toNatBE_length h]

theorem decode_new_short {cap : Option Nat} {buffer : Bytes} (h : buffer.length < prefixBytes) :
    (new cap).decode .frame buffer = ⟨.ok none, new cap, buffer⟩ := by
  simp only [decode, note, new, takeFrame, Bytes.split?_eq_none_iff.2 h]

/-- **A frame within the cap is taken.** -/
theorem decode_new_bytes {cap : Option Nat} {frame : Bytes} (h : Fits cap frame) (more : Bytes) :
    (new cap).decode .frame (bytes frame ++ more) = ⟨.ok (some frame), new cap, more⟩ := by
  have hbody : Bytes.split? frame.length (frame ++ more) = some (frame, more) :=
    Bytes.split?_eq_some_iff.2 ⟨rfl, rfl⟩
  rw [bytes, List.append_assoc, decode_new_length h.length, if_pos h.cap, takeBody, hbody]
  rfl

theorem phase_note (codec : Codec) (buffer : Bytes) : (codec.note buffer).phase = codec.phase := by
  rw [note]
  split <;> rfl

/-- Behind a payload stands a length. -/
theorem unread_of_takeBody {codec next : Codec} {length : Nat} {buffer rest frame : Bytes}
    (h : codec.takeBody length buffer = ⟨.ok (some frame), next, rest⟩) :
    next.unread rest = rest ∧ rest.length ≤ buffer.length := by
  rw [takeBody] at h
  cases hbody : Bytes.split? length buffer with
  | none => simp [hbody] at h
  | some parts =>
    simp only [hbody, Outcome.mk.injEq, Except.ok.injEq, Option.some.injEq] at h
    obtain ⟨-, rfl, rfl⟩ := h
    obtain ⟨rfl, -⟩ := Bytes.split?_eq_some_iff.1 hbody
    exact ⟨rfl, by simp⟩

/-- An attempt that gives a frame uses up its length at least. -/
theorem length_unread_of_decode {codec next : Codec} {buffer rest frame : Bytes}
    (h : codec.decode .frame buffer = ⟨.ok (some frame), next, rest⟩) :
    (next.unread rest).length < (codec.unread buffer).length := by
  rw [decode, takeFrame, phase_note] at h
  rw [unread.eq_def codec]
  cases hphase : codec.phase with
  | body length =>
    simp only [hphase] at h ⊢
    obtain ⟨hrest, hle⟩ := unread_of_takeBody h
    rw [hrest, List.length_append, Bytes.length_ofNatBE, prefixBytes]
    omega
  | head =>
    simp only [hphase] at h ⊢
    cases hfront : Bytes.split? prefixBytes buffer with
    | none => simp [hfront] at h
    | some parts =>
      simp only [hfront] at h
      split at h
      · obtain ⟨hrest, hle⟩ := unread_of_takeBody h
        obtain ⟨rfl, hprefix⟩ := Bytes.split?_eq_some_iff.1 hfront
        rw [hrest, List.length_append, hprefix, prefixBytes]
        omega
      · cases h

end Codec

/-! ## Asking until there is nothing more -/

/-- What has come of feeding a codec: the frames and the errors that it has given, and how it
stands. -/
structure Fed where
  frames : List Bytes
  errors : List BridgeError
  codec : Codec
  buffer : Bytes

namespace Codec

/-- Asks for frames until there is none or one is refused. -/
def exhaust (codec : Codec) (buffer : Bytes) : Fed :=
  match _ : codec.decode .frame buffer with
  | ⟨.ok none, next, rest⟩ => ⟨[], [], next, rest⟩
  | ⟨.error error, next, rest⟩ => ⟨[], [error], next, rest⟩
  | ⟨.ok (some frame), next, rest⟩ =>
    let more := exhaust next rest
    { more with frames := frame :: more.frames }
termination_by (codec.unread buffer).length
decreasing_by exact length_unread_of_decode ‹_›

theorem exhaust_congr {codec codec' : Codec} {buffer buffer' : Bytes}
    (h : codec.decode .frame buffer = codec'.decode .frame buffer') :
    codec.exhaust buffer = codec'.exhaust buffer' := by
  rw [exhaust, exhaust]
  generalize codec.decode .frame buffer = outcome at h
  subst h
  rfl

theorem exhaust_of_frame {codec next : Codec} {buffer rest frame : Bytes}
    (h : codec.decode .frame buffer = ⟨.ok (some frame), next, rest⟩) :
    codec.exhaust buffer =
      { next.exhaust rest with frames := frame :: (next.exhaust rest).frames } := by
  rw [exhaust]
  generalize codec.decode .frame buffer = outcome at h
  subst h
  rfl

theorem exhaust_of_standing {codec : Codec} {buffer : Bytes} {standing : Standing}
    (h : codec.decode .frame buffer = ⟨standing.result, standing.codec, standing.buffer⟩) :
    codec.exhaust buffer =
      ⟨[], standing.refusal.toList, standing.codec, standing.buffer⟩ := by
  rw [exhaust]
  generalize codec.decode .frame buffer = outcome at h
  subst h
  rcases standing with ⟨codec, buffer, refusal, atEnd⟩
  cases refusal <;> rfl

end Codec

/-! ## What a rest does to a codec -/

namespace Leaves

variable {cap : Option Nat} {rest : Bytes} {standing standing' : Standing}

/-- **A codec that has been left with a rest is as good as a new one before it**, whatever comes. -/
theorem decode_append (h : Leaves cap rest standing) (more : Bytes) :
    standing.codec.decode .frame (standing.buffer ++ more) =
      (Codec.new cap).decode .frame (rest ++ more) := by
  cases h with
  | short _ => rfl
  | @refused limit length behind hcap hlimit hlength =>
    subst hcap
    rw [List.append_assoc, Codec.decode_new_length hlength]
    simp only [Codec.decode, Codec.note, Codec.takeFrame, split?_length, toNatBE_length hlength]
  | @cut length body hcap hlength hcut =>
    rw [List.append_assoc, Codec.decode_new_length hlength, if_pos hcap]
    exact Codec.takeBody_phase ..

/-- A new codec before a rest ends where the rest leaves it. -/
theorem decode_new (h : Leaves cap rest standing) :
    (Codec.new cap).decode .frame rest = ⟨standing.result, standing.codec, standing.buffer⟩ := by
  cases h with
  | short hshort => exact Codec.decode_new_short hshort
  | @refused limit length behind hcap hlimit hlength =>
    subst hcap
    have habove : ¬length ≤ (some limit).getD maxLength := Nat.not_le_of_lt hlimit
    rw [Codec.decode_new_length hlength, if_neg habove]
    rfl
  | @cut length body hcap hlength hcut =>
    rw [Codec.decode_new_length hlength, if_pos hcap, Codec.takeBody,
      Bytes.split?_eq_none_iff.2 hcut]
    rfl

theorem decode_standing (h : Leaves cap rest standing) :
    standing.codec.decode .frame standing.buffer =
      ⟨standing.result, standing.codec, standing.buffer⟩ := by
  have hsame := h.decode_append []
  rwa [List.append_nil, List.append_nil, h.decode_new] at hsame

/-- If nothing more comes, the codec says what is missing. -/
theorem decodeEof_standing (h : Leaves cap rest standing) :
    standing.codec.decodeEof .frame standing.buffer =
      ⟨standing.atEnd, standing.codec, standing.buffer⟩ := by
  rw [Codec.decodeEof, h.decode_standing]
  cases h with
  | @short rest hshort => cases rest <;> rfl
  | refused _ _ _ => rfl
  | cut _ _ _ => rfl

/-- A refused length stays refused. -/
theorem append_of_refusal (h : Leaves cap rest standing) {error : BridgeError}
    (herror : standing.refusal = some error) (more : Bytes) :
    ∃ standing', Leaves cap (rest ++ more) standing' ∧ standing'.refusal = some error := by
  cases h with
  | short _ => cases herror
  | cut _ _ _ => cases herror
  | refused hcap hlimit hlength =>
    rw [List.append_assoc]
    exact ⟨_, .refused hcap hlimit hlength, herror⟩

/-- How a codec stands is determined by what it has been left with. -/
theorem unique (h : Leaves cap rest standing) (h' : Leaves cap rest standing') :
    standing = standing' := by
  have hnew := h.decode_new
  rw [h'.decode_new] at hnew
  have hend := h.decodeEof_standing
  rcases standing with ⟨codec, buffer, refusal, atEnd⟩
  rcases standing' with ⟨codec', buffer', refusal', atEnd'⟩
  simp only [Codec.Outcome.mk.injEq] at hnew
  obtain ⟨hresult, rfl, rfl⟩ := hnew
  obtain rfl : refusal = refusal' := by
    cases refusal <;> cases refusal' <;> simp_all [Standing.result]
  rw [h'.decodeEof_standing] at hend
  cases hend
  rfl

/-- What is left with a codec is not a frame. -/
theorem ne_bytes_append (h : Leaves cap rest standing) {frame : Bytes} (hfits : Fits cap frame)
    (more : Bytes) : rest ≠ bytes frame ++ more := by
  rintro rfl
  have hnew := h.decode_new
  rw [Codec.decode_new_bytes hfits] at hnew
  rcases standing with ⟨codec, buffer, refusal, atEnd⟩
  cases refusal <;> cases hnew

end Leaves

/-- **There is only one way to take a byte string apart.** -/
theorem Splits.unique {cap : Option Nat} {input rest rest' : Bytes} {frames frames' : List Bytes}
    {standing standing' : Standing} (h : Splits cap input frames rest)
    (hleaves : Leaves cap rest standing) (h' : Splits cap input frames' rest')
    (hleaves' : Leaves cap rest' standing') : frames' = frames ∧ rest' = rest := by
  obtain ⟨rfl, hfits⟩ := h
  obtain ⟨hinput, hfits'⟩ := h'
  induction frames generalizing frames' with
  | nil =>
    cases frames' with
    | nil => exact ⟨rfl, hinput.symm⟩
    | cons frame frames' =>
      rw [List.flatMap_cons, List.append_assoc] at hinput
      exact absurd hinput (hleaves.ne_bytes_append (hfits' frame List.mem_cons_self) _)
  | cons frame frames ih =>
    obtain ⟨hframe, hframes⟩ := List.forall_mem_cons.1 hfits
    rw [List.flatMap_cons, List.append_assoc] at hinput
    cases frames' with
    | nil => exact absurd hinput.symm (hleaves'.ne_bytes_append hframe _)
    | cons frame' frames' =>
      obtain ⟨hframe', hframes'⟩ := List.forall_mem_cons.1 hfits'
      rw [List.flatMap_cons, List.append_assoc] at hinput
      have hread := read_bytes hframe (frames.flatMap bytes ++ rest)
      rw [hinput, read_bytes hframe'] at hread
      obtain ⟨rfl, hmore⟩ := Prod.mk.inj (Except.ok.inj hread)
      obtain ⟨rfl, rfl⟩ := ih hframes hmore.symm hframes'
      exact ⟨rfl, rfl⟩

/-- **A new codec gives all frames** and stands as the rest leaves it. -/
theorem Splits.exhaust_new {cap : Option Nat} {input rest : Bytes} {frames : List Bytes}
    {standing : Standing} (h : Splits cap input frames rest) (hleaves : Leaves cap rest standing) :
    (Codec.new cap).exhaust input =
      ⟨frames, standing.refusal.toList, standing.codec, standing.buffer⟩ := by
  obtain ⟨rfl, hfits⟩ := h
  induction frames with
  | nil => exact Codec.exhaust_of_standing hleaves.decode_new
  | cons frame frames ih =>
    obtain ⟨hframe, hfits⟩ := List.forall_mem_cons.1 hfits
    rw [List.flatMap_cons, List.append_assoc,
      Codec.exhaust_of_frame (Codec.decode_new_bytes hframe _), ih hfits]

/-! ## Feeding chunks -/

namespace Fed

/-- Before the first chunk. -/
def start (cap : Option Nat) : Fed := ⟨[], [], .new cap, []⟩

/-- Puts a chunk behind what is buffered, and asks for frames again. -/
def next (fed : Fed) (chunk : Bytes) : Fed :=
  let more := fed.codec.exhaust (fed.buffer ++ chunk)
  ⟨fed.frames ++ more.frames, fed.errors ++ more.errors, more.codec, more.buffer⟩

/-- All that has come of feeding these bytes is accounted for: the frames are those that the bytes
begin with, the codec stands as it is left with the rest, and an error has been given if and only if
the rest is refused, and never another one. -/
structure Accounts (cap : Option Nat) (input rest : Bytes) (standing : Standing) (fed : Fed) :
    Prop where
  splits : Splits cap input fed.frames rest
  leaves : Leaves cap rest standing
  codec : fed.codec = standing.codec
  buffer : fed.buffer = standing.buffer
  errors : ∀ error ∈ fed.errors, standing.refusal = some error
  told : fed.errors = [] → standing.refusal = none

theorem accounts_start (cap : Option Nat) :
    Accounts cap [] [] ⟨.new cap, [], none, .ok none⟩ (start cap) where
  splits := splits_nil cap []
  leaves := .short (by decide : ([] : Bytes).length < prefixBytes)
  codec := rfl
  buffer := rfl
  errors _ hmem := absurd hmem List.not_mem_nil
  told _ := rfl

/-- **One more chunk is accounted for**, wherever the last one ended. -/
theorem Accounts.next {cap : Option Nat} {input rest : Bytes} {standing : Standing} {fed : Fed}
    (h : Accounts cap input rest standing fed) (chunk : Bytes) :
    ∃ rest' standing', Accounts cap (input ++ chunk) rest' standing' (fed.next chunk) := by
  obtain ⟨frames, rest', standing', hsplits, hleaves⟩ := exists_splits cap (rest ++ chunk)
  have hmore : fed.codec.exhaust (fed.buffer ++ chunk) =
      ⟨frames, standing'.refusal.toList, standing'.codec, standing'.buffer⟩ := by
    rw [h.codec, h.buffer, Codec.exhaust_congr (h.leaves.decode_append chunk)]
    exact hsplits.exhaust_new hleaves
  refine ⟨rest', standing', ?_⟩
  rw [Fed.next, hmore]
  refine ⟨h.splits.append hsplits, hleaves, rfl, rfl, fun error hmem => ?_, fun hnone => ?_⟩
  · rcases List.mem_append.1 hmem with hbefore | hnow
    · -- What has been refused before is all there is to see for the new attempt.
      obtain ⟨last, hlast, hrefusal⟩ := h.leaves.append_of_refusal (h.errors error hbefore) chunk
      obtain ⟨rfl, rfl⟩ := hsplits.unique hleaves (splits_nil cap (rest ++ chunk)) hlast
      rwa [hleaves.unique hlast]
    · exact Option.mem_toList.1 hnow
  · exact Option.toList_eq_nil_iff.1 (List.append_eq_nil_iff.1 hnone).2

theorem Accounts.foldl {cap : Option Nat} {input rest : Bytes} {standing : Standing} {fed : Fed}
    (h : Accounts cap input rest standing fed) (chunks : List Bytes) :
    ∃ rest' standing',
      Accounts cap (input ++ chunks.flatten) rest' standing' (chunks.foldl Fed.next fed) := by
  induction chunks generalizing input rest standing fed with
  | nil =>
    rw [List.flatten_nil, List.append_nil]
    exact ⟨rest, standing, h⟩
  | cons chunk chunks ih =>
    obtain ⟨rest', standing', hnext⟩ := h.next chunk
    rw [List.flatten_cons, ← List.append_assoc]
    exact ih hnext

end Fed

/-- Feeds chunks to a new codec, one after the other. -/
def feed (cap : Option Nat) (chunks : List Bytes) : Fed := chunks.foldl Fed.next (.start cap)

theorem accounts_feed (cap : Option Nat) (chunks : List Bytes) :
    ∃ rest standing, (feed cap chunks).Accounts cap chunks.flatten rest standing :=
  (Fed.accounts_start cap).foldl chunks

namespace Fed.Accounts

variable {cap : Option Nat} {input rest : Bytes} {standing : Standing} {fed : Fed}

/-- There is no other way to account for it. -/
theorem unique (h : Accounts cap input rest standing fed) {frames : List Bytes} {rest' : Bytes}
    {standing' : Standing} (hsplits : Splits cap input frames rest')
    (hleaves : Leaves cap rest' standing') :
    frames = fed.frames ∧ rest' = rest ∧ standing' = standing := by
  obtain ⟨rfl, rfl⟩ := h.splits.unique h.leaves hsplits hleaves
  exact ⟨rfl, rfl, hleaves.unique h.leaves⟩

/-- The error is that of the rest. -/
theorem head?_errors (h : Accounts cap input rest standing fed) :
    fed.errors.head? = standing.refusal := by
  cases herrors : fed.errors with
  | nil => exact (h.told herrors).symm
  | cons error _ => exact (h.errors error (by simp [herrors])).symm

/-- Whole frames leave nothing behind. -/
theorem eq_of_flatMap_bytes {payloads : List Bytes}
    (h : Accounts cap (payloads.flatMap bytes) rest standing fed)
    (hfits : ∀ payload ∈ payloads, Fits cap payload) :
    fed = ⟨payloads, [], .new cap, []⟩ ∧ standing = ⟨.new cap, [], none, .ok none⟩ := by
  have hsplits : Splits cap (payloads.flatMap bytes) payloads [] :=
    ⟨(List.append_nil _).symm, hfits⟩
  have hleaves : Leaves cap [] ⟨.new cap, [], none, .ok none⟩ :=
    (accounts_start cap).leaves
  obtain ⟨rfl, rfl, rfl⟩ := h.unique hsplits hleaves
  have herrors : fed.errors = [] :=
    List.eq_nil_iff_forall_not_mem.2 fun error hmem => by cases h.errors error hmem
  rcases fed with ⟨frames, errors, codec, buffer⟩
  obtain rfl : codec = .new cap := h.codec
  obtain rfl : buffer = [] := h.buffer
  obtain rfl : errors = [] := herrors
  exact ⟨rfl, rfl⟩

end Fed.Accounts

/-- **Framing is exact, and does not depend on the chunks.**  There is one way to take the bytes
apart into frames within the cap and a rest that does not begin with one.  The codec gives just
these frames, fails if and only if the rest is refused, and stands as the rest leaves it; if nothing
more comes, it says what is missing.  Other chunks of the same bytes come to the same.  If the bytes
are payloads encoded one after the other, and all are within the cap, then these are the frames and
nothing is left. -/
theorem feed_exact (cap : Option Nat) (chunks : List Bytes) :
    let fed := feed cap chunks
    (∃ rest standing, fed.Accounts cap chunks.flatten rest standing ∧
      (∀ frames rest' standing', Splits cap chunks.flatten frames rest' →
        Leaves cap rest' standing' →
        frames = fed.frames ∧ rest' = rest ∧ standing' = standing) ∧
      fed.errors.head? = standing.refusal ∧
      fed.codec.decode .frame fed.buffer = ⟨standing.result, standing.codec, standing.buffer⟩ ∧
      fed.codec.decodeEof .frame fed.buffer =
        ⟨standing.atEnd, standing.codec, standing.buffer⟩) ∧
    (∀ other : List Bytes, other.flatten = chunks.flatten →
      (feed cap other).frames = fed.frames ∧ (feed cap other).errors.head? = fed.errors.head? ∧
        (feed cap other).codec = fed.codec ∧ (feed cap other).buffer = fed.buffer) ∧
    ∀ payloads : List Bytes, (∀ payload ∈ payloads, Fits cap payload) →
      chunks.flatten = payloads.flatMap bytes →
      fed = ⟨payloads, [], .new cap, []⟩ ∧
        fed.codec.decodeEof .frame fed.buffer = ⟨.ok none, .new cap, []⟩ := by
  intro fed
  obtain ⟨rest, standing, haccounts⟩ :
      ∃ rest standing, fed.Accounts cap chunks.flatten rest standing := accounts_feed cap chunks
  have hend : fed.codec.decodeEof .frame fed.buffer =
      ⟨standing.atEnd, standing.codec, standing.buffer⟩ := by
    rw [haccounts.codec, haccounts.buffer, haccounts.leaves.decodeEof_standing]
  refine ⟨⟨rest, standing, haccounts, fun _ _ _ => haccounts.unique, haccounts.head?_errors, ?_,
    hend⟩, fun other hother => ?_, fun payloads hfits hbytes => ?_⟩
  · rw [haccounts.codec, haccounts.buffer, haccounts.leaves.decode_standing]
  · obtain ⟨rest', standing', haccounts'⟩ := accounts_feed cap other
    rw [hother] at haccounts'
    obtain ⟨hframes, rfl, rfl⟩ := haccounts.unique haccounts'.splits haccounts'.leaves
    refine ⟨hframes, ?_, ?_, ?_⟩
    · rw [haccounts'.head?_errors, haccounts.head?_errors]
    · rw [haccounts'.codec, haccounts.codec]
    · rw [haccounts'.buffer, haccounts.buffer]
  · rw [hbytes] at haccounts
    obtain ⟨hfed, rfl⟩ := haccounts.eq_of_flatMap_bytes hfits
    exact ⟨hfed, hend⟩

/-- Two frames and a length that is too large, in five chunks. -/
theorem feed_exact_five_chunks :
    let fed := feed (some 3) [[0, 0], [0, 2, 7], [8, 0, 0, 0], [0], [0, 0, 0, 9, 1]]
    fed.frames = [[7, 8], []] ∧ fed.errors.head? = some (.frameTooLarge 9 3) ∧
      fed.buffer = [0, 0, 0, 9, 1] ∧
      (fed.codec.decodeEof .frame fed.buffer).result = .error (.frameTooLarge 9 3) := by
  intro fed
  obtain ⟨⟨rest, standing, haccounts, hunique, herrors, -, hend⟩, -, -⟩ :=
    feed_exact (some 3) [[0, 0], [0, 2, 7], [8, 0, 0, 0], [0], [0, 0, 0, 9, 1]]
  have hsplits : Splits (some 3) [0, 0, 0, 2, 7, 8, 0, 0, 0, 0, 0, 0, 0, 9, 1] [[7, 8], []]
      (Bytes.ofNatBE prefixBytes 9 ++ [1]) := by
    refine ⟨rfl, fun frame hmem => ?_⟩
    obtain rfl | rfl : frame = [7, 8] ∨ frame = [] := by simpa using hmem
    · exact ⟨by decide, by decide⟩
    · exact ⟨by decide, by decide⟩
  have hleaves : Leaves (some 3) (Bytes.ofNatBE prefixBytes 9 ++ [1]) _ :=
    .refused rfl (by decide) (by decide)
  obtain ⟨hframes, rfl, rfl⟩ := hunique _ _ _ hsplits hleaves
  exact ⟨hframes.symm, herrors, haccounts.buffer, congrArg Codec.Outcome.result hend⟩

end BatchBridge.Frame
