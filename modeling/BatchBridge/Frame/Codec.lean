import BatchBridge.Error

/-!
# Frames

A frame is a 4-byte big-endian length and that many payload bytes.

* `Frame.encode` — the bytes of a frame, if a payload of that length may be sent.
* `Frame.Codec` — takes frames off the front of a buffer that fills up over time.  It stands either
  before a length (`Phase.head`) or before a payload whose length has already been taken off
  (`Phase.body`), and it notes the length it has `pending`, so that it can tell what was missing.
* `Frame.Codec.decode`, `Frame.Codec.decodeEof` — one attempt, while more bytes may come and after
  the last byte has come.

A length above the cap is refused where it stands: it stays in the buffer, and asking again is
refused again.  The cap is looked at only when a length is taken off.

Between frames a stream may also carry a bare 4-byte word.  Which of the two is wanted is said with
each attempt (`Want`); a word is taken off without regard to where the codec stands.
-/

namespace BatchBridge.Frame

/-- The size of a length, and of a bare word. -/
def prefixBytes : Nat := 4

/-- The largest length that four bytes can hold. -/
def maxLength : Nat := 4294967295

/-- The bytes of a frame. -/
def bytes (payload : Bytes) : Bytes := Bytes.ofNatBE prefixBytes payload.length ++ payload

/-- The bytes of a frame, if its payload is no longer than `cap`. -/
def encode (cap : Option Nat) (payload : Bytes) : Except BridgeError Bytes :=
  if payload.length ≤ cap.getD maxLength then .ok (bytes payload) else .error (.io .frameTooBig)

/-- What is to be taken off the stream next. -/
inductive Want where
  | frame
  | word
  deriving DecidableEq, Repr

/-- Where a codec stands in the frame it is working on. -/
inductive Phase where
  /-- Before its length. -/
  | head
  /-- Before its payload, of the length given. -/
  | body (length : Nat)
  deriving DecidableEq, Repr

/-- A reader of frames. -/
structure Codec where
  /-- The largest length accepted. -/
  cap : Option Nat
  phase : Phase
  /-- The declared length of the frame that is being worked on. -/
  pending : Option Nat
  deriving DecidableEq, Repr

namespace Codec

/-- Before the first frame. -/
def new (cap : Option Nat) : Codec := { cap, phase := .head, pending := none }

/-- What an attempt leads to: an item if one is complete, and what remains. -/
structure Outcome where
  result : Except BridgeError (Option Bytes)
  codec : Codec
  buffer : Bytes

/-- The refusal of a length above the cap. -/
def refusal (codec : Codec) : BridgeError :=
  match codec.pending, codec.cap with
  | some length, some limit => .frameTooLarge length limit
  | _, _ => .io .frameTooBig

/-- Takes the payload off the buffer once all of it is there. -/
def takeBody (codec : Codec) (length : Nat) (buffer : Bytes) : Outcome :=
  match Bytes.split? length buffer with
  | none => ⟨.ok none, { codec with phase := .body length }, buffer⟩
  | some (payload, rest) => ⟨.ok (some payload), { codec with phase := .head, pending := none }, rest⟩

/-- Takes the length off the buffer, and the payload if it is there. -/
def takeFrame (codec : Codec) (buffer : Bytes) : Outcome :=
  match codec.phase with
  | .body length => codec.takeBody length buffer
  | .head =>
    match Bytes.split? prefixBytes buffer with
    | none => ⟨.ok none, codec, buffer⟩
    | some (front, rest) =>
      if Bytes.toNatBE front ≤ codec.cap.getD maxLength then
        codec.takeBody (Bytes.toNatBE front) rest
      else ⟨.error codec.refusal, codec, buffer⟩

/-- Notes the length in front of the buffer, unless one is noted already. -/
def note (codec : Codec) (buffer : Bytes) : Codec :=
  match codec.pending, Bytes.split? prefixBytes buffer with
  | none, some (front, _) => { codec with pending := some (Bytes.toNatBE front) }
  | _, _ => codec

/-- An attempt while more bytes may come. -/
def decode (want : Want) (codec : Codec) (buffer : Bytes) : Outcome :=
  match want with
  | .word =>
    match Bytes.split? prefixBytes buffer with
    | none => ⟨.ok none, codec, buffer⟩
    | some (word, rest) => ⟨.ok (some word), codec, rest⟩
  | .frame => (codec.note buffer).takeFrame buffer

/-- What is missing from an item when the stream has ended; nothing if none was begun. -/
def missing (want : Want) (codec : Codec) (buffer : Bytes) : Option BridgeError :=
  match codec.pending, want with
  | none, _ =>
    if buffer.isEmpty then none else some (.connectionClosed prefixBytes buffer.length)
  | some length, .frame => some (.connectionClosed length buffer.length)
  | some _, .word => some (.connectionClosed prefixBytes buffer.length)

/-- An attempt after the last byte has come. -/
def decodeEof (want : Want) (codec : Codec) (buffer : Bytes) : Outcome :=
  let outcome := codec.decode want buffer
  match outcome.result with
  | .ok none =>
    match missing want outcome.codec outcome.buffer with
    | none => outcome
    | some error => { outcome with result := .error error }
  | _ => outcome

end Codec
end BatchBridge.Frame
