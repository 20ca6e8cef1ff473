import BatchBridge.Proofs.Frame.Wire
import BatchBridge.Session.Run

/-!
# What opens an export

Everything before the batches, read off a byte string that is there as a whole: the token, the query
id, the compression code and the schema.

* `Preamble.Reading` — reads from the front of a byte string, or is refused in some state of a
  session.  `Preamble.takeItem` is the one way of doing so: an item is taken and made sense of.
* `Preamble.read` — all four of them.
* **`Preamble.read_eq_ok_iff`** — what the front of a byte string has to look like, in terms of the
  frames that it consists of (`Preamble.Spelled`).
* `Preamble.Stable` — bytes behind what has been read do not matter, and none behind a refusal that
  is not for want of bytes.  **`Preamble.stable_read`**: this is so.
-/

namespace BatchBridge

/-- Why a session is over before it opens a stream, and in which state. -/
structure Refusal where
  error : BridgeError
  state : SessionState

/-- What comes before the batches. -/
structure Preamble where
  queryId : String
  method : Compression.Method
  schema : ColumnSchema

namespace Preamble

/-! ## Reading -/

/-- Takes something off the front of a byte string. -/
abbrev Reading := StateT Bytes (Except Refusal)

/-- Takes an item and makes sense of it. -/
def takeItem {α : Type} (cap : Option Nat) (want : Frame.Want) (state : SessionState)
    (lost : BridgeError → BridgeError) (interpret : Bytes → Except BridgeError α) : Reading α :=
  fun input =>
    match Frame.read cap want input with
    | .error error => .error ⟨lost error, state⟩
    | .ok (item, rest) =>
      match interpret item with
      | .error error => .error ⟨error, state⟩
      | .ok a => .ok (a, rest)

/-- Only a token that is too long is an error of its own. -/
def tokenLost : BridgeError → BridgeError
  | .frameTooLarge length limit => .unauthorized (.tooLong length limit)
  | error => error

/-- Compares what has been presented. -/
def checkToken (expected : String) (presented : Bytes) : Except BridgeError Unit :=
  if presented.isEmpty then .error (.unauthorized .empty)
  else if presented = Utf8.encode expected then .ok ()
  else .error (.unauthorized .mismatch)

/-- Takes the token, if there has to be one. -/
def takeToken : Option String → Reading Unit
  | none => pure ()
  | some expected =>
    takeItem (some maxTokenBytes) .frame .authenticating tokenLost (checkToken expected)

/-- Takes the query id. -/
def takeQueryId : Reading String :=
  takeItem (some maxQueryIdBytes) .frame .readingQueryId id Session.parseQueryId

/-- Takes the compression code, if there has to be one. -/
def takeMethod (negotiate : Bool) : Reading Compression.Method :=
  if negotiate then
    takeItem none .word .readingQueryId id fun word =>
      Compression.Method.ofCode (Bytes.toNatBE word)
  else pure .none

/-- Takes the schema. -/
def takeSchema (cap : Option Nat) (policy : TypePolicy) : Reading ColumnSchema :=
  takeItem cap .frame .readingSchema id fun payload => ColumnSchema.parse payload policy

/-- Takes what follows the compression code. -/
def readFromSchema (options : SessionOptions) (queryId : String) (method : Compression.Method) :
    Reading Preamble := do
  let schema ← takeSchema options.limits.maxFrameBytes options.policy
  return { queryId, method, schema }

/-- Takes what follows the query id. -/
def readFromMethod (options : SessionOptions) (queryId : String) : Reading Preamble := do
  let method ← takeMethod options.negotiate
  readFromSchema options queryId method

/-- Takes what follows the token. -/
def readFromQueryId (options : SessionOptions) : Reading Preamble := do
  let queryId ← takeQueryId
  readFromMethod options queryId

/-- Takes everything that comes before the batches. -/
def read (options : SessionOptions) : Reading Preamble := do
  takeToken options.token
  readFromQueryId options

/-! ## What has been read -/

/-- The token that is expected has been presented. -/
def Presented : Option String → Bytes → Prop
  | none, bytes => bytes = []
  | some expected, bytes =>
    bytes = Frame.bytes (Utf8.encode expected) ∧ Utf8.encode expected ≠ [] ∧
      (Utf8.encode expected).length ≤ maxTokenBytes

/-- A frame names the query. -/
def Named (queryId : String) (bytes : Bytes) : Prop :=
  ∃ text, bytes = Frame.bytes text ∧ text.length ≤ maxQueryIdBytes ∧
    Utf8.decode text = .ok queryId ∧ queryId.isEmpty = false

/-- The method has been announced; there is none if there is nothing to be announced. -/
def Announced (negotiate : Bool) (method : Compression.Method) (bytes : Bytes) : Prop :=
  if negotiate then
    bytes.length = Frame.prefixBytes ∧
      Compression.Method.ofCode (Bytes.toNatBE bytes) = .ok method
  else bytes = [] ∧ method = .none

/-- A frame within the cap gives the schema. -/
def Described (cap : Option Nat) (policy : TypePolicy) (schema : ColumnSchema) (bytes : Bytes) :
    Prop :=
  ∃ text, bytes = Frame.bytes text ∧ Frame.Fits cap text ∧
    ColumnSchema.parse text policy = .ok schema

/-- A byte string opens an export and goes on with `body`. -/
def Spelled (options : SessionOptions) (preamble : Preamble) (input body : Bytes) : Prop :=
  ∃ token name code text, input = token ++ (name ++ (code ++ (text ++ body))) ∧
    Presented options.token token ∧ Named preamble.queryId name ∧
    Announced options.negotiate preamble.method code ∧
    Described options.limits.maxFrameBytes options.policy preamble.schema text

section Item

variable {α β : Type} {cap : Option Nat} {want : Frame.Want} {state : SessionState}
  {lost : BridgeError → BridgeError} {interpret : Bytes → Except BridgeError α}

theorem takeItem_eq_ok_iff {input rest : Bytes} {a : α} :
    takeItem cap want state lost interpret input = .ok (a, rest) ↔
      ∃ bytes, Frame.read cap want input = .ok (bytes, rest) ∧ interpret bytes = .ok a := by
  rw [takeItem]
  cases Frame.read cap want input with
  | error error => exact iff_of_false nofun fun ⟨_, h, _⟩ => by cases h
  | ok taken =>
    obtain ⟨bytes, after⟩ := taken
    simp only
    cases hinterpret : interpret bytes with
    | error error =>
      refine iff_of_false nofun ?_
      rintro ⟨_, ⟨⟩, h⟩
      rw [hinterpret] at h
      cases h
    | ok b =>
      constructor
      · rintro ⟨⟩
        exact ⟨bytes, rfl, hinterpret⟩
      · rintro ⟨_, ⟨⟩, h⟩
        rw [hinterpret] at h
        cases h
        rfl

/-- Either there is no item, or it makes no sense. -/
theorem takeItem_eq_error {input : Bytes} {refusal : Refusal}
    (h : takeItem cap want state lost interpret input = .error refusal) :
    (∃ error, Frame.read cap want input = .error error ∧ refusal = ⟨lost error, state⟩) ∨
      ∃ bytes rest error, Frame.read cap want input = .ok (bytes, rest) ∧
        interpret bytes = .error error ∧ refusal = ⟨error, state⟩ := by
  rw [takeItem] at h
  cases hread : Frame.read cap want input with
  | error error =>
    rw [hread] at h
    cases h
    exact .inl ⟨error, rfl, rfl⟩
  | ok taken =>
    rw [hread] at h
    simp only at h
    cases hinterpret : interpret taken.1 with
    | error error =>
      rw [hinterpret] at h
      cases h
      exact .inr ⟨_, _, error, rfl, hinterpret, rfl⟩
    | ok a =>
      rw [hinterpret] at h
      cases h

theorem bind_of_ok {reading : Reading α} {next : α → Reading β} {input rest : Bytes} {a : α}
    (h : reading input = .ok (a, rest)) : (reading >>= next) input = next a rest := by
  rw [show (reading >>= next) input =
      (reading input >>= fun taken => next taken.1 taken.2) from rfl,
    h]
  rfl

theorem bind_of_error {reading : Reading α} {next : α → Reading β} {input : Bytes}
    {refusal : Refusal} (h : reading input = .error refusal) :
    (reading >>= next) input = .error refusal := by
  rw [show (reading >>= next) input =
      (reading input >>= fun taken => next taken.1 taken.2) from rfl,
    h]
  rfl

theorem bind_eq_ok_iff {reading : Reading α} {next : α → Reading β} {input rest : Bytes} {b : β} :
    (reading >>= next) input = .ok (b, rest) ↔
      ∃ a middle, reading input = .ok (a, middle) ∧ next a middle = .ok (b, rest) := by
  cases htaken : reading input with
  | error refusal =>
    rw [bind_of_error htaken]
    exact iff_of_false nofun fun ⟨_, _, h, _⟩ => by cases h
  | ok taken =>
    rw [bind_of_ok htaken]
    constructor
    · intro h
      exact ⟨taken.1, taken.2, rfl, h⟩
    · rintro ⟨_, _, ⟨⟩, h⟩
      exact h

theorem bind_eq_error {reading : Reading α} {next : α → Reading β} {input : Bytes}
    {refusal : Refusal} (h : (reading >>= next) input = .error refusal) :
    reading input = .error refusal ∨
      ∃ a middle, reading input = .ok (a, middle) ∧ next a middle = .error refusal := by
  cases htaken : reading input with
  | error other =>
    rw [bind_of_error htaken] at h
    cases h
    exact .inl rfl
  | ok taken =>
    rw [bind_of_ok htaken] at h
    exact .inr ⟨taken.1, taken.2, rfl, h⟩

end Item

theorem checkToken_eq_ok_iff {expected : String} {presented : Bytes} :
    checkToken expected presented = .ok () ↔
      presented = Utf8.encode expected ∧ Utf8.encode expected ≠ [] := by
  rw [checkToken]
  by_cases hempty : presented.isEmpty = true
  · rw [if_pos hempty, List.isEmpty_iff.1 hempty]
    exact iff_of_false nofun fun ⟨h, hne⟩ => hne h.symm
  · rw [if_neg hempty]
    by_cases hmatch : presented = Utf8.encode expected
    · rw [if_pos hmatch]
      subst hmatch
      exact iff_of_true rfl ⟨rfl, fun h => hempty (List.isEmpty_iff.2 h)⟩
    · rw [if_neg hmatch]
      exact iff_of_false nofun fun h => hmatch h.1

/-- What is within a cap of this kind can be sent. -/
theorem fits_of_length_le {limit : Nat} (hlimit : limit ≤ Frame.maxLength) {payload : Bytes} :
    Frame.Fits (some limit) payload ↔ payload.length ≤ limit :=
  ⟨fun h => h.cap, fun h => ⟨h, Nat.le_trans h hlimit⟩⟩

theorem takeToken_eq_ok_iff {expected : Option String} {input rest : Bytes} {u : Unit} :
    takeToken expected input = .ok (u, rest) ↔
      ∃ bytes, input = bytes ++ rest ∧ Presented expected bytes := by
  cases u
  cases expected with
  | none =>
    constructor
    · rintro ⟨⟩
      exact ⟨[], rfl, rfl⟩
    · rintro ⟨_, rfl, rfl⟩
      rfl
  | some expected =>
    rw [takeToken, takeItem_eq_ok_iff]
    simp only [checkToken_eq_ok_iff, Frame.read_frame_eq_ok_iff,
      fits_of_length_le (show maxTokenBytes ≤ Frame.maxLength by decide)]
    constructor
    · rintro ⟨_, ⟨rfl, hlength⟩, rfl, hne⟩
      exact ⟨_, rfl, rfl, hne, hlength⟩
    · rintro ⟨_, rfl, rfl, hne, hlength⟩
      exact ⟨_, ⟨rfl, hlength⟩, rfl, hne⟩

theorem parseQueryId_eq_ok_iff {frame : Bytes} {id : String} :
    Session.parseQueryId frame = .ok id ↔ Utf8.decode frame = .ok id ∧ id.isEmpty = false := by
  rw [Session.parseQueryId]
  cases Utf8.decode frame with
  | error fault => exact iff_of_false nofun fun h => by cases h.1
  | ok text =>
    simp only
    cases hempty : text.isEmpty with
    | true =>
      refine iff_of_false nofun ?_
      rintro ⟨⟨⟩, h⟩
      rw [hempty] at h
      cases h
    | false =>
      constructor
      · rintro ⟨⟩
        exact ⟨rfl, hempty⟩
      · rintro ⟨⟨⟩, _⟩
        rfl

theorem takeQueryId_eq_ok_iff {input rest : Bytes} {id : String} :
    takeQueryId input = .ok (id, rest) ↔ ∃ bytes, input = bytes ++ rest ∧ Named id bytes := by
  rw [takeQueryId, takeItem_eq_ok_iff]
  simp only [parseQueryId_eq_ok_iff, Frame.read_frame_eq_ok_iff,
    fits_of_length_le (show maxQueryIdBytes ≤ Frame.maxLength by decide)]
  constructor
  · rintro ⟨text, ⟨rfl, hlength⟩, hdecode, hne⟩
    exact ⟨_, rfl, text, rfl, hlength, hdecode, hne⟩
  · rintro ⟨_, rfl, text, rfl, hlength, hdecode, hne⟩
    exact ⟨text, ⟨rfl, hlength⟩, hdecode, hne⟩

theorem takeMethod_eq_ok_iff {negotiate : Bool} {input rest : Bytes} {method : Compression.Method} :
    takeMethod negotiate input = .ok (method, rest) ↔
      ∃ bytes, input = bytes ++ rest ∧ Announced negotiate method bytes := by
  cases negotiate with
  | false =>
    constructor
    · rintro ⟨⟩
      exact ⟨[], rfl, rfl, rfl⟩
    · rintro ⟨_, rfl, rfl, rfl⟩
      rfl
  | true =>
    rw [takeMethod, if_pos rfl, takeItem_eq_ok_iff]
    simp only [Frame.read_word_eq_ok_iff, Announced, if_true]
    constructor
    · rintro ⟨word, ⟨rfl, hlength⟩, hcode⟩
      exact ⟨word, rfl, hlength, hcode⟩
    · rintro ⟨word, rfl, hlength, hcode⟩
      exact ⟨word, ⟨rfl, hlength⟩, hcode⟩

theorem takeSchema_eq_ok_iff {cap : Option Nat} {policy : TypePolicy} {input rest : Bytes}
    {schema : ColumnSchema} :
    takeSchema cap policy input = .ok (schema, rest) ↔
      ∃ bytes, input = bytes ++ rest ∧ Described cap policy schema bytes := by
  rw [takeSchema, takeItem_eq_ok_iff]
  simp only [Frame.read_frame_eq_ok_iff]
  constructor
  · rintro ⟨text, ⟨rfl, hfits⟩, hparse⟩
    exact ⟨_, rfl, text, rfl, hfits, hparse⟩
  · rintro ⟨_, rfl, text, rfl, hfits, hparse⟩
    exact ⟨text, ⟨rfl, hfits⟩, hparse⟩

/-- **A preamble is read exactly where one is spelled.** -/
theorem read_eq_ok_iff {options : SessionOptions} {preamble : Preamble} {input body : Bytes} :
    read options input = .ok (preamble, body) ↔ preamble.Spelled options input body := by
  simp only [read, readFromQueryId, readFromMethod, readFromSchema, bind_eq_ok_iff,
    takeToken_eq_ok_iff, takeQueryId_eq_ok_iff, takeMethod_eq_ok_iff, takeSchema_eq_ok_iff]
  constructor
  · rintro ⟨_, _, ⟨token, rfl, htoken⟩, id, _, ⟨name, rfl, hname⟩, method, _, ⟨code, rfl, hcode⟩,
      schema, _, ⟨text, rfl, htext⟩, ⟨⟩⟩
    exact ⟨token, name, code, text, rfl, htoken, hname, hcode, htext⟩
  · rintro ⟨token, name, code, text, rfl, htoken, hname, hcode, htext⟩
    exact ⟨(), _, ⟨token, rfl, htoken⟩, _, _, ⟨name, rfl, hname⟩, _, _, ⟨code, rfl, hcode⟩,
      _, _, ⟨text, rfl, htext⟩, rfl⟩

/-- What spells a preamble does so whatever it is followed by. -/
theorem Spelled.exists_front {options : SessionOptions} {preamble : Preamble} {input body : Bytes}
    (h : preamble.Spelled options input body) :
    ∃ front, input = front ++ body ∧ ∀ other, preamble.Spelled options (front ++ other) other := by
  obtain ⟨token, name, code, text, rfl, htoken, hname, hcode, htext⟩ := h
  have hassoc (other : Bytes) : token ++ name ++ code ++ text ++ other =
      token ++ (name ++ (code ++ (text ++ other))) := by
    simp only [List.append_assoc]
  refine ⟨token ++ name ++ code ++ text, (hassoc body).symm, fun other => ?_⟩
  exact ⟨token, name, code, text, hassoc other, htoken, hname, hcode, htext⟩

/-! ## What comes later -/

/-- What is behind what has been taken does not matter, and after a refusal nothing does, unless it
was for want of bytes. -/
structure Stable {α : Type} (reading : Reading α) : Prop where
  ok : ∀ {input rest a}, reading input = .ok (a, rest) →
    ∀ more, reading (input ++ more) = .ok (a, rest ++ more)
  error : ∀ {input refusal}, reading input = .error refusal → ¬refusal.error.IsCut →
    ∀ more, reading (input ++ more) = .error refusal

section Stable

variable {α β : Type} {cap : Option Nat} {want : Frame.Want} {state : SessionState}
  {lost : BridgeError → BridgeError} {interpret : Bytes → Except BridgeError α}

theorem stable_pure (a : α) : Stable (pure a : Reading α) where
  ok h more := by
    cases h
    rfl
  error h := by cases h

theorem stable_bind {reading : Reading α} {next : α → Reading β} (h : Stable reading)
    (hnext : ∀ a, Stable (next a)) : Stable (reading >>= next) where
  ok hok more := by
    obtain ⟨a, middle, htaken, hafter⟩ := bind_eq_ok_iff.1 hok
    exact bind_eq_ok_iff.2 ⟨a, middle ++ more, h.ok htaken more, (hnext a).ok hafter more⟩
  error {input refusal} herror hcut more := by
    rcases bind_eq_error herror with hrefused | ⟨a, middle, htaken, hrefused⟩
    · exact bind_of_error (h.error hrefused hcut more)
    · rw [bind_of_ok (h.ok htaken more)]
      exact (hnext a).error hrefused hcut more

/-- An item that has been cut is not passed off as anything else. -/
theorem stable_takeItem (hlost : ∀ error : BridgeError, error.IsCut → lost error = error) :
    Stable (takeItem cap want state lost interpret) where
  ok h more := by
    obtain ⟨bytes, hread, hinterpret⟩ := takeItem_eq_ok_iff.1 h
    exact takeItem_eq_ok_iff.2 ⟨bytes, Frame.read_append_of_ok hread more, hinterpret⟩
  error {input refusal} h hcut more := by
    rw [takeItem]
    rcases takeItem_eq_error h with ⟨error, hread, rfl⟩ | ⟨bytes, rest, error, hread, hbad, rfl⟩
    · have hwhole : ¬error.IsCut := by
        intro hcut'
        rw [hlost error hcut'] at hcut
        exact hcut hcut'
      rw [Frame.read_append_of_error hread hwhole more]
    · rw [Frame.read_append_of_ok hread more]
      simp only [hbad]

theorem tokenLost_of_isCut (error : BridgeError) (h : error.IsCut) : tokenLost error = error := by
  cases error with
  | frameTooLarge => cases h
  | _ => rfl

theorem stable_takeToken (expected : Option String) : Stable (takeToken expected) := by
  cases expected with
  | none => exact stable_pure ()
  | some expected => exact stable_takeItem tokenLost_of_isCut

theorem stable_takeMethod (negotiate : Bool) : Stable (takeMethod negotiate) := by
  cases negotiate with
  | false => exact stable_pure _
  | true => exact stable_takeItem fun _ _ => rfl

/-- **More bytes change nothing about a preamble**, or about a refusal that is not for want of
bytes. -/
theorem stable_read (options : SessionOptions) : Stable (read options) :=
  stable_bind (stable_takeToken _) fun _ =>
    stable_bind (stable_takeItem fun _ _ => rfl) fun _ =>
      stable_bind (stable_takeMethod _) fun _ =>
        stable_bind (stable_takeItem fun _ _ => rfl) fun _ => stable_pure _

end Stable

end Preamble
end BatchBridge
