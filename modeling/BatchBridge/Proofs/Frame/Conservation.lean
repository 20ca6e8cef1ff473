import BatchBridge.Proofs.Frame.Chunks

/-!
# What a codec holds at any time

Bytes may come at any time, also after the end or behind a length that has been refused, and a frame
may be asked for at any time, also behind an error.  Whatever is done in whatever order, the three
parts of a codec fit together: the length that it has noted, the place where it stands, and its
buffer.  Together with the frames that it has given they are the bytes that it has been fed.

* `Codec.Handling`, `Codec.Handled.run` — bytes and attempts in any order, and what comes of them.
* `Codec.Coherent` — how the parts of a codec fit together.
* **`Codec.Coherent.attempt`** — an attempt takes a frame off the bytes that are left, or changes
  nothing about them and stands where they leave it.
* `Codec.Handled.Conserves` — the codec fits together and nothing has been lost;
  **`Codec.Handled.Conserves.next`**: so it is after whatever is done next.
* **`Codec.handled_conserves`** — so it is at any time.
-/

namespace BatchBridge.Frame.Codec

/-! ## Bytes and attempts -/

/-- What can be done with a codec that is asked for frames. -/
inductive Handling where
  /-- Bytes come. -/
  | feed (chunk : Bytes)
  /-- A frame is asked for, while more bytes may come or after the last one. -/
  | ask (atEnd : Bool)
  deriving DecidableEq, Repr

/-- The bytes that come. -/
def Handling.chunk : Handling → Bytes
  | feed chunk => chunk
  | ask _ => []

/-- An attempt at a frame, while more bytes may come or after the last one. -/
def attempt (atEnd : Bool) (codec : Codec) (buffer : Bytes) : Outcome :=
  if atEnd then codec.decodeEof .frame buffer else codec.decode .frame buffer

/-- What has come of handling a codec: how it stands, and what it has answered. -/
structure Handled where
  codec : Codec
  buffer : Bytes
  answers : List (Except BridgeError (Option Bytes))

namespace Handled

/-- Before anything is done. -/
def start (cap : Option Nat) : Handled := ⟨.new cap, [], []⟩

/-- Does what is next.  Bytes go behind what is buffered. -/
def next (handled : Handled) : Handling → Handled
  | .feed chunk => { handled with buffer := handled.buffer ++ chunk }
  | .ask atEnd =>
    let outcome := handled.codec.attempt atEnd handled.buffer
    ⟨outcome.codec, outcome.buffer, handled.answers ++ [outcome.result]⟩

/-- Does one thing after the other with a new codec. -/
def run (cap : Option Nat) (handlings : List Handling) : Handled :=
  handlings.foldl next (start cap)

/-- The frames that have been given. -/
def frames (handled : Handled) : List Bytes :=
  handled.answers.filterMap fun
    | .ok frame => frame
    | .error _ => none

end Handled

/-! ## How the parts fit together -/

/-- In front stands a length that is above the cap. -/
inductive Exceeds (cap : Option Nat) (length : Nat) : Bytes → Prop where
  | intro {limit : Nat} {behind : Bytes} : cap = some limit → limit < length →
      length ≤ maxLength → Exceeds cap length (Bytes.ofNatBE prefixBytes length ++ behind)

/-- How a codec stands and what it has noted.  What is in the buffer matters only if a length has
been refused that stands there. -/
inductive Coherent (cap : Option Nat) : Codec → Bytes → Prop where
  | between (buffer : Bytes) : Coherent cap (.new cap) buffer
  | inside {length : Nat} (buffer : Bytes) : length ≤ cap.getD maxLength → length ≤ maxLength →
      Coherent cap ⟨cap, .body length, some length⟩ buffer
  | refused {length : Nat} {buffer : Bytes} : Exceeds cap length buffer →
      Coherent cap ⟨cap, .head, some length⟩ buffer

/-- What an error says: which length is above the cap, or how much there is of an item. -/
inductive Explains (cap : Option Nat) : BridgeError → Prop where
  | tooLarge {length limit : Nat} : cap = some limit → limit < length →
      Explains cap (.frameTooLarge length limit)
  | cut {expected received : Nat} : received < expected →
      Explains cap (.connectionClosed expected received)

variable {cap : Option Nat} {codec : Codec} {buffer : Bytes} {length : Nat}

/-- There is one length in front. -/
theorem Exceeds.unique {other : Nat} (h : Exceeds cap length buffer)
    (h' : Exceeds cap other buffer) : length = other := by
  obtain @⟨limit, behind, -, -, hlength⟩ := h
  generalize hbuffer : Bytes.ofNatBE prefixBytes length ++ behind = buffer at h'
  obtain @⟨limit', behind', -, -, hother⟩ := h'
  have hsplit := split?_length length behind
  rw [hbuffer, split?_length, Option.some.injEq, Prod.mk.injEq] at hsplit
  rw [← toNatBE_length hlength, ← hsplit.1, toNatBE_length hother]

theorem Exceeds.append (h : Exceeds cap length buffer) (more : Bytes) :
    Exceeds cap length (buffer ++ more) := by
  obtain ⟨hcap, hlimit, hlength⟩ := h
  rw [List.append_assoc]
  exact .intro hcap hlimit hlength

theorem Exceeds.prefixBytes_le (h : Exceeds cap length buffer) : prefixBytes ≤ buffer.length := by
  obtain ⟨-, -, -⟩ := h
  simp

namespace Coherent

theorem append (h : Coherent cap codec buffer) (more : Bytes) :
    Coherent cap codec (buffer ++ more) := by
  cases h with
  | between => exact .between _
  | inside _ hcap hlength => exact .inside _ hcap hlength
  | refused hexceeds => exact .refused (hexceeds.append more)

/-- A length that has been noted is the one that the codec stands behind, or it is refused. -/
theorem of_pending (h : Coherent cap codec buffer) (hpending : codec.pending = some length) :
    codec.phase = .body length ∨ codec.phase = .head ∧ Exceeds cap length buffer := by
  cases h with
  | between => cases hpending
  | inside => cases hpending; exact .inl rfl
  | refused hexceeds => cases hpending; exact .inr ⟨rfl, hexceeds⟩

/-- A length that has been taken off has been noted. -/
theorem pending_of_body (h : Coherent cap codec buffer) (hbody : codec.phase = .body length) :
    codec.pending = some length := by
  cases h with
  | between => cases hbody
  | inside => cases hbody; rfl
  | refused => cases hbody

/-- A codec is as good as a new one before all that it has left. -/
theorem decode_eq (h : Coherent cap codec buffer) :
    codec.decode .frame buffer = (new cap).decode .frame (codec.unread buffer) := by
  cases h with
  | between => rfl
  | inside _ hcap hlength =>
    rw [unread, decode_new_length hlength, if_pos hcap]
    exact takeBody_phase ..
  | refused hexceeds =>
    obtain @⟨limit, behind, hcap, hlimit, hlength⟩ := hexceeds
    subst hcap
    rw [unread, decode_new_length hlength]
    simp only [decode, note, takeFrame, split?_length, toNatBE_length hlength]

end Coherent

/-! ## Attempts -/

/-- After the last byte, an attempt depends on nothing but what it would be before. -/
theorem decodeEof_congr {want : Want} {codec codec' : Codec} {buffer buffer' : Bytes}
    (h : codec.decode want buffer = codec'.decode want buffer') :
    codec.decodeEof want buffer = codec'.decodeEof want buffer' := by
  rw [decodeEof, decodeEof, h]

end Codec

/-- What an attempt gives, while more bytes may come or after the last one. -/
def Standing.answer (standing : Standing) (atEnd : Bool) : Except BridgeError (Option Bytes) :=
  if atEnd then standing.atEnd else standing.result

namespace Leaves

open Codec

variable {cap : Option Nat} {rest : Bytes} {standing : Standing}

/-- What is left with a codec is what the codec has left. -/
theorem unread_eq (h : Leaves cap rest standing) :
    standing.codec.unread standing.buffer = rest := by
  cases h with
  | short => rfl
  | refused => rfl
  | cut => rfl

theorem coherent (h : Leaves cap rest standing) :
    Codec.Coherent cap standing.codec standing.buffer := by
  cases h with
  | short => exact .between _
  | refused hcap hlimit hlength => exact .refused (.intro hcap hlimit hlength)
  | cut hcap hlength => exact .inside _ hcap hlength

/-- It is asked again and again to no avail. -/
theorem attempt_standing (h : Leaves cap rest standing) (atEnd : Bool) :
    standing.codec.attempt atEnd standing.buffer =
      ⟨standing.answer atEnd, standing.codec, standing.buffer⟩ := by
  cases atEnd with
  | false => exact h.decode_standing
  | true => exact h.decodeEof_standing

theorem answer_ne_frame (h : Leaves cap rest standing) (atEnd : Bool) (frame : Bytes) :
    standing.answer atEnd ≠ .ok (some frame) := by
  intro hframe
  cases h with
  | short =>
    cases atEnd with
    | false => cases hframe
    | true =>
      simp only [Standing.answer, if_true] at hframe
      split at hframe <;> cases hframe
  | refused => cases atEnd <;> cases hframe
  | cut => cases atEnd <;> cases hframe

/-- What is answered by an error is what it says. -/
theorem explains (h : Leaves cap rest standing) {atEnd : Bool} {error : BridgeError}
    (herror : standing.answer atEnd = .error error) : Explains cap error := by
  cases h with
  | short hshort =>
    cases atEnd with
    | false => cases herror
    | true =>
      simp only [Standing.answer, if_true] at herror
      split at herror
      · cases herror
      · cases herror
        exact .cut hshort
  | refused hcap hlimit => cases atEnd <;> cases herror <;> exact .tooLarge hcap hlimit
  | cut _ _ hcut =>
    cases atEnd with
    | false => cases herror
    | true => cases herror; exact .cut hcut

/-- A length that is refused has been noted. -/
theorem pending_of_exceeds (h : Leaves cap rest standing) {length : Nat}
    (hhead : standing.codec.phase = .head) (hexceeds : Exceeds cap length standing.buffer) :
    standing.codec.pending = some length := by
  cases h with
  | short hshort => exact absurd hexceeds.prefixBytes_le (Nat.not_le_of_lt hshort)
  | refused hcap hlimit hlength =>
    exact congrArg some (Exceeds.unique (.intro hcap hlimit hlength) hexceeds)
  | cut => cases hhead

end Leaves

namespace Codec

variable {cap : Option Nat} {codec : Codec} {buffer : Bytes}

/-- How an attempt goes: it takes a frame off what is left, or it leaves that as it is. -/
inductive Goes (cap : Option Nat) (left : Bytes) (atEnd : Bool) : Outcome → Prop where
  | frame {frame more : Bytes} : Fits cap frame → left = bytes frame ++ more →
      Goes cap left atEnd ⟨.ok (some frame), .new cap, more⟩
  | stands {standing : Standing} : Leaves cap left standing →
      Goes cap left atEnd ⟨standing.answer atEnd, standing.codec, standing.buffer⟩

/-- **An attempt takes a frame off what is left, or it leaves that as it is.** -/
theorem Coherent.attempt (h : Coherent cap codec buffer) (atEnd : Bool) :
    Goes cap (codec.unread buffer) atEnd (codec.attempt atEnd buffer) := by
  have hdecode := h.decode_eq
  rcases frame_or_leaves cap (codec.unread buffer) with
    ⟨frame, more, hfits, hleft⟩ | ⟨standing, hleaves⟩
  · rw [hleft, decode_new_bytes hfits] at hdecode
    have hattempt : codec.attempt atEnd buffer = ⟨.ok (some frame), .new cap, more⟩ := by
      cases atEnd with
      | false => exact hdecode
      | true => simp only [Codec.attempt, if_true, decodeEof, hdecode]
    rw [hattempt]
    exact .frame hfits hleft
  · rw [hleaves.decode_new, ← hleaves.decode_standing] at hdecode
    have hattempt : codec.attempt atEnd buffer = standing.codec.attempt atEnd standing.buffer := by
      cases atEnd with
      | false => exact hdecode
      | true => exact decodeEof_congr hdecode
    rw [hattempt, hleaves.attempt_standing]
    exact .stands hleaves

namespace Handled

/-! ## Whatever is done -/

/-- The parts of a codec fit together, and nothing that it has been fed is lost. -/
structure Conserves (cap : Option Nat) (fed : Bytes) (handled : Handled) : Prop where
  coherent : Coherent cap handled.codec handled.buffer
  frames : ∀ frame ∈ handled.frames, Fits cap frame
  fed : handled.frames.flatMap bytes ++ handled.codec.unread handled.buffer = fed
  errors : ∀ error, .error error ∈ handled.answers → Explains cap error

theorem conserves_start (cap : Option Nat) : Conserves cap [] (start cap) where
  coherent := .between []
  frames _ hmem := absurd hmem List.not_mem_nil
  fed := rfl
  errors _ hmem := absurd hmem List.not_mem_nil

theorem frames_append (codec codec' : Codec) (buffer buffer' : Bytes)
    (answers : List (Except BridgeError (Option Bytes)))
    (answer : Except BridgeError (Option Bytes)) :
    frames ⟨codec', buffer', answers ++ [answer]⟩ =
      frames ⟨codec, buffer, answers⟩ ++ frames ⟨codec, buffer, [answer]⟩ :=
  List.filterMap_append

/-- **Whatever is done next, the parts fit together and nothing is lost.** -/
theorem Conserves.next {fed : Bytes} {handled : Handled} (h : Conserves cap fed handled)
    (handling : Handling) : Conserves cap (fed ++ handling.chunk) (handled.next handling) := by
  obtain ⟨codec, buffer, answers⟩ := handled
  cases handling with
  | feed chunk =>
    refine ⟨h.coherent.append chunk, h.frames, ?_, h.errors⟩
    show _ ++ codec.unread (buffer ++ chunk) = _
    rw [unread_append, ← List.append_assoc]
    exact congrArg (· ++ chunk) h.fed
  | ask atEnd =>
    have hgoes := h.coherent.attempt atEnd
    simp only [Handled.next, Handling.chunk, List.append_nil]
    generalize codec.attempt atEnd buffer = outcome at hgoes
    cases hgoes with
    | @frame frame more hfits hleft =>
      have hframes : Handled.frames ⟨.new cap, more, answers ++ [.ok (some frame)]⟩ =
          Handled.frames ⟨codec, buffer, answers⟩ ++ [frame] := frames_append ..
      refine ⟨.between more, ?_, ?_, ?_⟩
      · rw [hframes]
        intro other hmem
        rcases List.mem_append.1 hmem with hbefore | hnow
        · exact h.frames other hbefore
        · rw [List.mem_singleton.1 hnow]
          exact hfits
      · rw [hframes, List.flatMap_append, List.flatMap_singleton, List.append_assoc, ← h.fed]
        exact congrArg (_ ++ ·) hleft.symm
      · intro error hmem
        rcases List.mem_append.1 hmem with hbefore | hnow
        · exact h.errors error hbefore
        · cases List.mem_singleton.1 hnow
    | @stands standing hleaves =>
      have hframes :
          Handled.frames
              ⟨standing.codec, standing.buffer, answers ++ [standing.answer atEnd]⟩ =
            Handled.frames ⟨codec, buffer, answers⟩ := by
        rw [frames_append codec _ buffer]
        have hnone : Handled.frames ⟨codec, buffer, [standing.answer atEnd]⟩ = [] := by
          cases hanswer : standing.answer atEnd with
          | error => rfl
          | ok found =>
            cases found with
            | none => rfl
            | some frame => exact absurd hanswer (hleaves.answer_ne_frame atEnd frame)
        rw [hnone, List.append_nil]
      refine ⟨hleaves.coherent, ?_, ?_, ?_⟩
      · rw [hframes]
        exact h.frames
      · rw [hframes, ← h.fed]
        exact congrArg (_ ++ ·) hleaves.unread_eq
      · intro error hmem
        rcases List.mem_append.1 hmem with hbefore | hnow
        · exact h.errors error hbefore
        · exact hleaves.explains (List.mem_singleton.1 hnow).symm

theorem Conserves.foldl {fed : Bytes} {handled : Handled} (h : Conserves cap fed handled)
    (handlings : List Handling) :
    Conserves cap (fed ++ handlings.flatMap Handling.chunk)
      (handlings.foldl Handled.next handled) := by
  induction handlings generalizing fed handled with
  | nil => rwa [List.flatMap_nil, List.append_nil]
  | cons handling handlings ih =>
    rw [List.flatMap_cons, ← List.append_assoc]
    exact ih (h.next handling)

theorem conserves_run (cap : Option Nat) (handlings : List Handling) :
    Conserves cap (handlings.flatMap Handling.chunk) (run cap handlings) :=
  (conserves_start cap).foldl handlings

end Handled

/-- **A codec fits together at any time, and loses nothing.**  If a length is noted, then the codec
stands behind that length, or the length stands in front of the buffer and is above the cap; if the
codec stands behind a length, then that one is noted.  The frames that have been given, encoded as
they would be sent, and then what is left are the bytes that have come.  Every error names a length
above the cap, or tells that less is there than is expected.  An attempt that does not give a frame
has noted a length that it refuses; made again, it gives the same and changes nothing. -/
theorem handled_conserves (cap : Option Nat) (handlings : List Handling) :
    let handled := Handled.run cap handlings
    (∀ length, handled.codec.pending = some length →
      handled.codec.phase = .body length ∨
        handled.codec.phase = .head ∧ Exceeds cap length handled.buffer) ∧
    (∀ length, handled.codec.phase = .body length → handled.codec.pending = some length) ∧
    (∀ frame ∈ handled.frames, encode cap frame = .ok (bytes frame)) ∧
    handled.frames.flatMap bytes ++ handled.codec.unread handled.buffer =
      handlings.flatMap Handling.chunk ∧
    (∀ error, .error error ∈ handled.answers → Explains cap error) ∧
    ∀ atEnd, let outcome := handled.codec.attempt atEnd handled.buffer
      (∀ frame, outcome.result ≠ .ok (some frame)) →
        (∀ length, outcome.codec.phase = .head → Exceeds cap length outcome.buffer →
          outcome.codec.pending = some length) ∧
        outcome.codec.attempt atEnd outcome.buffer = outcome := by
  intro handled
  have hconserves : Handled.Conserves cap (handlings.flatMap Handling.chunk) handled :=
    Handled.conserves_run cap handlings
  refine ⟨fun _ => hconserves.coherent.of_pending, fun _ => hconserves.coherent.pending_of_body,
    fun frame hmem => ?_, hconserves.fed, hconserves.errors, fun atEnd => ?_⟩
  · rw [encode, if_pos (hconserves.frames frame hmem).cap]
  · have hgoes := hconserves.coherent.attempt atEnd
    generalize handled.codec.attempt atEnd handled.buffer = outcome at hgoes
    intro outcome' hnone
    cases hgoes with
    | frame => exact absurd rfl (hnone _)
    | stands hleaves =>
      exact ⟨fun _ => hleaves.pending_of_exceeds, hleaves.attempt_standing atEnd⟩

/-- A frame, a length that is too large, the end, and more bytes behind it. -/
theorem handled_conserves_behind_error :
    let handled := Handled.run (some 3)
      [.feed [0, 0, 0, 1, 7, 0, 0], .ask false, .ask true, .feed [0, 9], .ask true, .feed [5]]
    handled.answers =
        [.ok (some [7]), .error (.connectionClosed 4 2), .error (.frameTooLarge 9 3)] ∧
      handled.codec.pending = some 9 ∧ handled.codec.phase = .head ∧
      Exceeds (some 3) 9 handled.buffer ∧ Explains (some 3) (.frameTooLarge 9 3) ∧
      encode (some 3) [7] = .ok (bytes [7]) ∧
      handled.codec.attempt false handled.buffer =
        ⟨.error (.frameTooLarge 9 3), handled.codec, handled.buffer⟩ := by
  intro handled
  have hanswers : handled.answers =
      [.ok (some [7]), .error (.connectionClosed 4 2), .error (.frameTooLarge 9 3)] := rfl
  obtain ⟨hpending, -, hframes, -, herrors, hagain⟩ := handled_conserves (some 3)
    [.feed [0, 0, 0, 1, 7, 0, 0], .ask false, .ask true, .feed [0, 9], .ask true, .feed [5]]
  have hexceeds : Exceeds (some 3) 9 handled.buffer := by
    rcases hpending 9 rfl with hbody | ⟨-, hexceeds⟩
    · cases hbody
    · exact hexceeds
  have hrefused := (hagain false (fun frame hframe => by cases hframe)).2
  refine ⟨hanswers, rfl, rfl, hexceeds, herrors _ ?_, hframes [7] ?_, hrefused⟩
  · show _ ∈ handled.answers
    simp [hanswers]
  · show _ ∈ handled.frames
    simp [Handled.frames, hanswers]

end Codec
end BatchBridge.Frame
