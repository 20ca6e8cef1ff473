import BatchBridge.Proofs.Frame.Reading

/-!
# Calls of a reader

A caller mixes frames, frames with a cap of their own, and bare words, and it stops when a call
fails.  What it is given can be said of the byte string alone, with an offset in place of a buffer,
a codec and a source.

* `Request.parse` — what a call at an offset gives, and the offset behind it.
* `outcomes` — what a sequence of calls gives, with the offset after each.
* `Reader.transcript` — the same of a reader, with its own count of bytes.
* `Reader.Spares` — the settings and the count, which no wait for an item touches.
* **`Reader.counts_call`** — a call counts its item, and its cap does not outlast it, whatever it
  meets.
* **`Reader.At.agrees`** — a call that finds a reader at an offset does what `Request.parse` does,
  however much has been read ahead.
* **`Reader.transcript_eq_outcomes`** — so do all calls, in whatever chunks the bytes arrive.
-/

namespace BatchBridge

namespace Source

/-- Chunks of bytes, each at its time, and then the end. -/
def ofChunks (chunks : List (Nat × Bytes)) : Source :=
  .new (chunks.map fun (due, bytes) => .data due bytes) .closed

/-- Chunks without bytes are none. -/
theorem bytes_new (arrivals : List Arrival) (ending : Ending) :
    (new arrivals ending).bytes = Frame.bytesOf arrivals := by
  rw [bytes, new, Frame.bytesOf, bytes]
  induction arrivals with
  | nil => rfl
  | cons arrival arrivals ih =>
    cases arrival with
    | failure due kind => exact ih
    | data due bytes =>
      cases bytes with
      | nil => exact ih
      | cons b bytes => exact congrArg (b :: bytes ++ ·) ih

theorem bytes_ofChunks (chunks : List (Nat × Bytes)) :
    (ofChunks chunks).bytes = chunks.flatMap Prod.snd := by
  rw [ofChunks, bytes_new, Frame.bytesOf, bytes, List.flatMap_map]

theorem intact_ofChunks (chunks : List (Nat × Bytes)) :
    Frame.Intact (ofChunks chunks).arrivals := by
  intro arrival hmem
  obtain ⟨⟨due, bytes⟩, -, rfl⟩ := List.mem_map.1 (List.mem_filter.1 hmem).1
  exact ⟨due, bytes, rfl⟩

end Source

namespace Frame

/-! ## A parser without a reader -/

/-- The payload of the frame at an offset, and the offset behind it. -/
def frameAt (cap : Option Nat) (input : Bytes) (offset : Nat) : Except BridgeError (Bytes × Nat) :=
  let left := input.length - offset
  if left < prefixBytes then .error (.connectionClosed prefixBytes left)
  else
    let length := Bytes.toNatBE ((input.drop offset).take prefixBytes)
    match cap.filter (· < length) with
    | some limit => .error (.frameTooLarge length limit)
    | none =>
      if left - prefixBytes < length then .error (.connectionClosed length (left - prefixBytes))
      else .ok ((input.drop (offset + prefixBytes)).take length, offset + prefixBytes + length)

/-- The number at an offset, and the offset behind it. -/
def wordAt (input : Bytes) (offset : Nat) : Except BridgeError (Nat × Nat) :=
  let left := input.length - offset
  if left < prefixBytes then .error (.connectionClosed prefixBytes left)
  else .ok (Bytes.toNatBE ((input.drop offset).take prefixBytes), offset + prefixBytes)

/-- What a caller can ask for. -/
inductive Request where
  | frame
  /-- A frame with a cap of its own in place of the usual one. -/
  | frameCapped (cap : Option Nat)
  | word
  deriving DecidableEq, Repr

/-- What a caller can be given. -/
inductive Item where
  | payload (bytes : Bytes)
  | word (number : Nat)
  deriving DecidableEq, Repr

/-- What an item takes up in the input. -/
def Item.size : Item → Nat
  | .payload bytes => prefixBytes + bytes.length
  | .word _ => prefixBytes

/-- What a call at an offset gives, and the offset behind it. -/
def Request.parse (limit : Option Nat) (input : Bytes) (offset : Nat) :
    Request → Except BridgeError (Item × Nat)
  | .frame => (frameAt limit input offset).map fun (payload, next) => (.payload payload, next)
  | .frameCapped cap =>
    (frameAt cap input offset).map fun (payload, next) => (.payload payload, next)
  | .word => (wordAt input offset).map fun (number, next) => (.word number, next)

/-- What calls give, one after the other, with the offset after each; nothing comes after a call
that fails, and that one leaves the offset where it is. -/
def outcomes (limit : Option Nat) (input : Bytes) :
    Nat → List Request → List (Except BridgeError Item × Nat)
  | _, [] => []
  | offset, request :: requests =>
    match request.parse limit input offset with
    | .ok (item, next) => (.ok item, next) :: outcomes limit input next requests
    | .error error => [(.error error, offset)]

theorem split?_drop_of_lt {n offset : Nat} {input : Bytes} (h : input.length - offset < n) :
    Bytes.split? n (input.drop offset) = none :=
  Bytes.split?_eq_none_iff.2 (by rwa [List.length_drop])

theorem split?_drop_of_le {n offset : Nat} {input : Bytes} (h : n ≤ input.length - offset) :
    Bytes.split? n (input.drop offset) =
      some ((input.drop offset).take n, input.drop (offset + n)) := by
  refine Bytes.split?_eq_some_iff.2 ⟨?_, ?_⟩
  · rw [← List.drop_drop, List.take_append_drop]
  · rw [List.length_take, List.length_drop]
    exact Nat.min_eq_left h

/-- The frame at an offset is the one that the bytes behind the offset begin with. -/
theorem read_frame_drop (cap : Option Nat) (input : Bytes) (offset : Nat) :
    read cap .frame (input.drop offset) =
      (frameAt cap input offset).map fun (payload, next) => (payload, input.drop next) := by
  by_cases hshort : input.length - offset < prefixBytes
  · simp only [read, frameAt, split?_drop_of_lt hshort, if_pos hshort, List.length_drop]
    rfl
  have henough := Nat.le_of_not_lt hshort
  have hfront : ((input.drop offset).take prefixBytes).length = prefixBytes := by
    rw [List.length_take, List.length_drop]
    exact Nat.min_eq_left henough
  have hlength := toNatBE_le_maxLength hfront
  simp only [read, frameAt, split?_drop_of_le henough, if_neg hshort]
  generalize Bytes.toNatBE ((input.drop offset).take prefixBytes) = length at hlength ⊢
  cases hfilter : cap.filter (· < length) with
  | some limit =>
    obtain ⟨rfl, habove⟩ := Option.filter_eq_some_iff.1 hfilter
    exact if_neg (Nat.not_le_of_lt (of_decide_eq_true habove))
  | none =>
    have hcap : length ≤ cap.getD maxLength := by
      cases cap with
      | none => exact hlength
      | some limit => simpa using hfilter
    rw [if_pos hcap]
    by_cases hcut : input.length - offset - prefixBytes < length
    · rw [split?_drop_of_lt (by rwa [Nat.sub_add_eq]), if_pos hcut, List.length_drop,
        Nat.sub_add_eq]
      rfl
    · rw [split?_drop_of_le (by rw [Nat.sub_add_eq]; exact Nat.le_of_not_lt hcut), if_neg hcut]
      rfl

theorem read_of_frameAt_ok {cap : Option Nat} {input payload : Bytes} {offset next : Nat}
    (h : frameAt cap input offset = .ok (payload, next)) :
    read cap .frame (input.drop offset) = .ok (payload, input.drop next) := by
  rw [read_frame_drop, h]
  rfl

theorem read_of_frameAt_error {cap : Option Nat} {input : Bytes} {offset : Nat}
    {error : BridgeError} (h : frameAt cap input offset = .error error) :
    read cap .frame (input.drop offset) = .error error := by
  rw [read_frame_drop, h]
  rfl

theorem read_of_wordAt_ok {input : Bytes} {offset number next : Nat}
    (h : wordAt input offset = .ok (number, next)) (cap : Option Nat) :
    ∃ word, read cap .word (input.drop offset) = .ok (word, input.drop next) ∧
      Bytes.toNatBE word = number := by
  simp only [wordAt] at h
  split at h
  · cases h
  · rename_i henough
    cases h
    exact ⟨_, by simp only [read, split?_drop_of_le (Nat.le_of_not_lt henough)], rfl⟩

theorem read_of_wordAt_error {input : Bytes} {offset : Nat} {error : BridgeError}
    (h : wordAt input offset = .error error) (cap : Option Nat) :
    read cap .word (input.drop offset) = .error error := by
  simp only [wordAt] at h
  split at h
  · rename_i hshort
    cases h
    simp only [read, split?_drop_of_lt hshort, List.length_drop]
  · cases h

/-- A call moves the offset by the size of its item. -/
theorem Request.next_of_parse_ok {limit : Option Nat} {input : Bytes} {offset next : Nat}
    {request : Request} {item : Item} (h : request.parse limit input offset = .ok (item, next)) :
    next = offset + item.size := by
  have hframe {cap : Option Nat}
      (h : (frameAt cap input offset).map (fun (payload, next) => (Item.payload payload, next)) =
        .ok (item, next)) : next = offset + item.size := by
    cases hat : frameAt cap input offset with
    | error => rw [hat] at h; cases h
    | ok found =>
      rw [hat] at h
      cases h
      simp only [frameAt] at hat
      split at hat
      · cases hat
      split at hat
      · cases hat
      split at hat
      · cases hat
      · rename_i hwhole
        cases hat
        rw [Item.size, List.length_take, List.length_drop, Nat.sub_add_eq,
          Nat.min_eq_left (Nat.le_of_not_lt hwhole), Nat.add_assoc]
  cases request with
  | frame => exact hframe h
  | frameCapped cap => exact hframe h
  | word =>
    simp only [parse, wordAt] at h
    split at h <;> cases h
    rfl

/-! ## What a call leaves alone -/

namespace Codec

theorem cap_note (codec : Codec) (buffer : Bytes) : (codec.note buffer).cap = codec.cap := by
  rw [note.eq_def]
  split <;> rfl

theorem cap_takeBody (codec : Codec) (length : Nat) (buffer : Bytes) :
    (codec.takeBody length buffer).codec.cap = codec.cap := by
  rw [takeBody]
  split <;> rfl

theorem cap_takeFrame (codec : Codec) (buffer : Bytes) :
    (codec.takeFrame buffer).codec.cap = codec.cap := by
  rw [takeFrame]
  split
  · exact cap_takeBody ..
  · split
    · rfl
    · split
      · exact cap_takeBody ..
      · rfl

theorem cap_decode (want : Want) (codec : Codec) (buffer : Bytes) :
    (codec.decode want buffer).codec.cap = codec.cap := by
  cases want with
  | word =>
    rw [decode]
    split <;> rfl
  | frame => exact (cap_takeFrame ..).trans (cap_note ..)

theorem cap_decodeEof (want : Want) (codec : Codec) (buffer : Bytes) :
    (codec.decodeEof want buffer).codec.cap = codec.cap := by
  rw [← cap_decode want codec buffer, decodeEof]
  split
  · split <;> rfl
  · rfl

end Codec

namespace Reader

/-- What a call leaves alone while it waits for its item. -/
structure Spares (before after : Reader) : Prop where
  limits : after.limits = before.limits
  cap : after.codec.cap = before.codec.cap
  bytesRead : after.bytesRead = before.bytesRead

theorem Spares.refl (reader : Reader) : Spares reader reader := ⟨rfl, rfl, rfl⟩

theorem Spares.trans {a b c : Reader} (h : Spares a b) (h' : Spares b c) : Spares a c :=
  ⟨h'.limits.trans h.limits, h'.cap.trans h.cap, h'.bytesRead.trans h.bytesRead⟩

theorem spares_drain (want : Want) (reader : Reader) : Spares reader (reader.drain want).2 := by
  rw [drain]
  split
  · exact ⟨rfl, rfl, rfl⟩
  split
  · have hcap : (if reader.eof then reader.codec.decodeEof want reader.buffer
        else reader.codec.decode want reader.buffer).codec.cap = reader.codec.cap := by
      split
      · exact Codec.cap_decodeEof ..
      · exact Codec.cap_decode ..
    simp only
    split <;> exact ⟨rfl, hcap, rfl⟩
  · exact .refl reader

theorem spares_pollEnd (want : Want) (deadline : Option Nat) (clock : Nat) (reader : Reader) :
    Spares reader (reader.pollEnd want deadline clock).2 := by
  have hdrain := spares_drain want { reader.leave [] clock with eof := true, readable := true }
  unfold pollEnd
  split
  · exact ⟨rfl, rfl, rfl⟩
  · simp only
    split
    · exact ⟨rfl, rfl, rfl⟩
    · have hspares : Spares reader
          ({ reader.leave [] clock with eof := true, readable := true }.drain want).2 :=
        ⟨hdrain.limits, hdrain.cap, hdrain.bytesRead⟩
      split
      · rename_i hdrained
        rwa [hdrained] at hspares
      · rename_i hdrained
        rwa [hdrained] at hspares

theorem spares_pollFrom (want : Want) (deadline : Option Nat) (arrivals : List Arrival)
    (clock : Nat) (reader : Reader) :
    Spares reader (pollFrom want deadline arrivals clock reader).2 := by
  induction arrivals generalizing clock reader with
  | nil =>
    have hdrain := spares_drain want reader
    rw [pollFrom]
    generalize reader.drain want = drained at hdrain
    obtain ⟨polled, after⟩ := drained
    cases polled with
    | some polled => exact hdrain.trans ⟨rfl, rfl, rfl⟩
    | none => exact hdrain.trans (spares_pollEnd ..)
  | cons arrival rest ih =>
    have hdrain := spares_drain want reader
    rw [pollFrom]
    generalize reader.drain want = drained at hdrain
    obtain ⟨polled, after⟩ := drained
    cases polled with
    | some polled => exact hdrain.trans ⟨rfl, rfl, rfl⟩
    | none =>
      simp only
      split
      · exact hdrain.trans ⟨rfl, rfl, rfl⟩
      · cases arrival with
        | failure due kind => exact hdrain.trans ⟨rfl, rfl, rfl⟩
        | data due bytes =>
          have hmore : Spares after
              { after with buffer := after.buffer ++ bytes, eof := false, readable := true } :=
            ⟨rfl, rfl, rfl⟩
          exact (hdrain.trans hmore).trans (ih _ _)

/-- **Waiting for an item changes no setting and counts nothing**, whatever comes of it. -/
theorem spares_next (want : Want) (reader : Reader) : Spares reader (reader.next want).2 := by
  have hpoll : Spares reader (reader.poll want).2 := spares_pollFrom ..
  rw [next]
  split <;> simp_all

/-! ## Calls -/

/-- Makes a call. -/
def call (reader : Reader) : Request → Except BridgeError Item × Reader
  | .frame => (reader.readFrame.1.map .payload, reader.readFrame.2)
  | .frameCapped cap =>
    ((reader.readFrameCapped cap).1.map .payload, (reader.readFrameCapped cap).2)
  | .word => (reader.readWord.1.map .word, reader.readWord.2)

/-- What calls give, one after the other, with the count of bytes after each; the caller stops when
one fails. -/
def transcript : List Request → Reader → List (Except BridgeError Item × Nat)
  | [], _ => []
  | request :: requests, reader =>
    match reader.call request with
    | (.ok item, after) => (.ok item, after.bytesRead) :: transcript requests after
    | (.error error, after) => [(.error error, after.bytesRead)]

/-- Makes all calls, also those behind one that fails. -/
def afterCalls (requests : List Request) (reader : Reader) : Reader :=
  requests.foldl (fun reader request => (reader.call request).2) reader

/-- The usual cap is in force. -/
def Settled (reader : Reader) : Prop := reader.codec.cap = reader.limits.maxFrameBytes

theorem settled_new (limits : Limits) (source : Source) : Settled (new limits source) := rfl

/-- A call that counts what it gives, and counts nothing if it fails. -/
structure Counts {α : Type} (size : α → Nat) (before : Reader)
    (called : Except BridgeError α × Reader) : Prop where
  limits : called.2.limits = before.limits
  settled : Settled before → Settled called.2
  ok : ∀ item, called.1 = .ok item → called.2.bytesRead = before.bytesRead + size item
  error : ∀ error, called.1 = .error error → called.2.bytesRead = before.bytesRead

theorem Spares.settled {before after : Reader} (h : Spares before after)
    (hbefore : Settled before) : Settled after := by
  rw [Settled, h.cap, h.limits]
  exact hbefore

theorem counts_readFrame (reader : Reader) :
    Counts (fun payload => prefixBytes + payload.length) reader reader.readFrame := by
  have hspares := spares_next .frame reader
  rw [readFrame]
  generalize reader.next .frame = called at hspares
  obtain ⟨result, after⟩ := called
  cases result with
  | ok payload =>
    refine ⟨hspares.limits, hspares.settled, fun item h => ?_, fun _ h => by cases h⟩
    cases h
    show after.bytesRead + prefixBytes + payload.length = _
    rw [hspares.bytesRead, Nat.add_assoc]
  | error error =>
    exact ⟨hspares.limits, hspares.settled, fun _ h => by (cases h), fun _ _ => hspares.bytesRead⟩

/-- The cap of one call is gone after it, whether it fails or not. -/
theorem counts_readFrameCapped (cap : Option Nat) (reader : Reader) :
    Counts (fun payload => prefixBytes + payload.length) reader (reader.readFrameCapped cap) :=
  have hframe := counts_readFrame (reader.setCap cap)
  ⟨hframe.limits, fun _ => rfl, hframe.ok, hframe.error⟩

theorem counts_readWord (reader : Reader) :
    Counts (fun _ => prefixBytes) reader reader.readWord := by
  have hspares := spares_next .word reader
  rw [readWord]
  generalize reader.next .word = called at hspares
  obtain ⟨result, after⟩ := called
  cases result with
  | ok word =>
    exact ⟨hspares.limits, hspares.settled,
      fun _ _ => congrArg (· + prefixBytes) hspares.bytesRead, fun _ h => by cases h⟩
  | error error =>
    exact ⟨hspares.limits, hspares.settled, fun _ h => by (cases h), fun _ _ => hspares.bytesRead⟩

theorem Counts.map {α β : Type} {size : α → Nat} {size' : β → Nat} {f : α → β} {before : Reader}
    {called : Except BridgeError α × Reader} (h : Counts size before called)
    (hsize : ∀ item, size' (f item) = size item) :
    Counts size' before (called.1.map f, called.2) := by
  obtain ⟨result, after⟩ := called
  refine ⟨h.limits, h.settled, fun item hitem => ?_, fun error herror => ?_⟩
  · cases result with
    | error => cases hitem
    | ok item =>
      cases hitem
      rw [hsize]
      exact h.ok item rfl
  · cases result with
    | error error => exact h.error error rfl
    | ok => cases herror

/-- **A call counts its item, and its cap does not outlast it**, whatever it meets. -/
theorem counts_call (reader : Reader) (request : Request) :
    Counts Item.size reader (reader.call request) := by
  cases request with
  | frame => exact (counts_readFrame reader).map fun _ => rfl
  | frameCapped cap => exact (counts_readFrameCapped cap reader).map fun _ => rfl
  | word => exact (counts_readWord reader).map fun _ => rfl

theorem cap_afterCalls {reader : Reader} (h : Settled reader) (requests : List Request) :
    (reader.afterCalls requests).codec.cap = reader.limits.maxFrameBytes := by
  induction requests generalizing reader with
  | nil => exact h
  | cons request requests ih =>
    have hcounts := counts_call reader request
    rw [← hcounts.limits]
    exact ih (hcounts.settled h)

/-! ## Calls follow the parser -/

/-- A reader without a deadline, between two calls that got as far as the offset.  How much of what
comes next is in its buffer already is left open. -/
structure At (limit : Option Nat) (input : Bytes) (offset : Nat) (reader : Reader) : Prop where
  limits : reader.limits = ⟨limit, none⟩
  awaits : reader.Awaits limit (input.drop offset)
  bytesRead : reader.bytesRead = offset

/-- How a call and the parser go together. -/
inductive Agrees (limit : Option Nat) (input : Bytes) (offset : Nat) :
    Except BridgeError (Item × Nat) → Except BridgeError Item × Reader → Prop where
  | ok {item : Item} {next : Nat} {after : Reader} : At limit input next after →
      Agrees limit input offset (.ok (item, next)) (.ok item, after)
  | error {error : BridgeError} {after : Reader} : after.bytesRead = offset →
      Agrees limit input offset (.error error) (.error error, after)

section

variable {limit : Option Nat} {input : Bytes} {offset : Nat} {reader : Reader} {request : Request}

theorem At.ends (h : At limit input offset reader) : reader.Ends := .inr (by rw [h.limits])

theorem At.agrees_ok (h : At limit input offset reader) {item : Item} {next : Nat} {after : Reader}
    (hparse : request.parse limit input offset = .ok (item, next))
    (hcall : reader.call request = (.ok item, after))
    (hawaits : Awaits after limit (input.drop next)) :
    Agrees limit input offset (request.parse limit input offset) (reader.call request) := by
  have hcounts := counts_call reader request
  rw [hcall] at hcounts
  rw [hparse, hcall]
  refine .ok ⟨hcounts.limits.trans h.limits, hawaits, ?_⟩
  rw [hcounts.ok item rfl, h.bytesRead, Request.next_of_parse_ok hparse]

theorem At.agrees_error (h : At limit input offset reader) {error : BridgeError}
    (hparse : request.parse limit input offset = .error error)
    (hcall : (reader.call request).1 = .error error) :
    Agrees limit input offset (request.parse limit input offset) (reader.call request) := by
  have hcounts := counts_call reader request
  have hsame : reader.call request = (.error error, (reader.call request).2) :=
    Prod.ext hcall rfl
  rw [hparse, hsame]
  exact .error ((hcounts.error error hcall).trans h.bytesRead)

/-- **A call does what the parser does at the offset**, however much has been read ahead. -/
theorem At.agrees (h : At limit input offset reader) (request : Request) :
    Agrees limit input offset (request.parse limit input offset) (reader.call request) := by
  cases request with
  | frame =>
    cases hat : frameAt limit input offset with
    | ok found =>
      obtain ⟨payload, next⟩ := found
      obtain ⟨after, hframe, hawaits, -⟩ := readFrame_of_read_ok h.awaits (read_of_frameAt_ok hat)
      exact h.agrees_ok (by rw [Request.parse, hat]; rfl) (by rw [call, hframe]; rfl) hawaits
    | error error =>
      have hframe := readFrame_of_read_error h.awaits (fun _ => h.ends) (read_of_frameAt_error hat)
      exact h.agrees_error (by rw [Request.parse, hat]; rfl) (by rw [call, hframe]; rfl)
  | frameCapped cap =>
    cases hat : frameAt cap input offset with
    | ok found =>
      obtain ⟨payload, next⟩ := found
      obtain ⟨after, hframe, hawaits, -⟩ :=
        readFrameCapped_of_read_ok h.awaits (read_of_frameAt_ok hat)
      rw [h.limits] at hawaits
      exact h.agrees_ok (by rw [Request.parse, hat]; rfl) (by rw [call, hframe]; rfl) hawaits
    | error error =>
      have hframe :=
        readFrameCapped_of_read_error h.awaits (fun _ => h.ends) (read_of_frameAt_error hat)
      exact h.agrees_error (by rw [Request.parse, hat]; rfl) (by rw [call, hframe]; rfl)
  | word =>
    cases hat : wordAt input offset with
    | ok found =>
      obtain ⟨number, next⟩ := found
      obtain ⟨word, hread, rfl⟩ := read_of_wordAt_ok hat limit
      obtain ⟨after, hword, hawaits, -⟩ := readWord_of_read_ok h.awaits hread
      exact h.agrees_ok (by rw [Request.parse, hat]; rfl) (by rw [call, hword]; rfl) hawaits
    | error error =>
      have hword :=
        readWord_of_read_error h.awaits (fun _ => h.ends) (read_of_wordAt_error hat limit)
      exact h.agrees_error (by rw [Request.parse, hat]; rfl) (by rw [call, hword]; rfl)

theorem At.transcript (h : At limit input offset reader) (requests : List Request) :
    reader.transcript requests = outcomes limit input offset requests := by
  induction requests generalizing offset reader with
  | nil => rfl
  | cons request requests ih =>
    have hagrees := h.agrees request
    rw [Reader.transcript, outcomes]
    generalize reader.call request = called at hagrees
    generalize request.parse limit input offset = parsed at hagrees
    cases hagrees with
    | ok hafter => simp only [hafter.bytesRead, ih hafter]
    | error hcount => simp only [hcount]

end

/-- Without a deadline, only the bytes of the chunks matter. -/
theorem at_new (limit : Option Nat) (chunks : List (Nat × Bytes)) :
    At limit (chunks.flatMap Prod.snd) 0 (new ⟨limit, none⟩ (.ofChunks chunks)) := by
  have hawaits :
      Awaits (new ⟨limit, none⟩ (.ofChunks chunks)) limit (Source.ofChunks chunks).bytes :=
    awaits_new (Source.intact_ofChunks chunks) fun _ hlimit => by cases hlimit
  rw [Source.bytes_ofChunks] at hawaits
  exact ⟨rfl, hawaits, rfl⟩

/-- **A reader is a parser of its bytes.**  Whatever the chunks are in which bytes arrive before the
end, and however frames, frames with caps of their own and words are mixed, each call up to the
first that fails gives what the parser gives at the offset so far, and the count of bytes is the
offset.  After any calls at all, the cap in force is the one of the settings. -/
theorem transcript_eq_outcomes (limit : Option Nat) (chunks : List (Nat × Bytes))
    (requests : List Request) :
    let reader := new ⟨limit, none⟩ (.ofChunks chunks)
    reader.transcript requests = outcomes limit (chunks.flatMap Prod.snd) 0 requests ∧
      (reader.afterCalls requests).codec.cap = limit :=
  ⟨(at_new limit chunks).transcript requests, cap_afterCalls (settled_new ..) requests⟩

/-- A frame, a word and a frame that is longer than one call allows, in four chunks. -/
example :
    transcript [.frame, .word, .frameCapped (some 2), .frame]
        (new ⟨none, none⟩ (.ofChunks [(0, [0, 0]), (5, [0, 1, 7, 0, 0]), (6, []),
          (9, [0, 2, 0, 0, 0, 3, 1, 2, 3])])) =
      [(.ok (.payload [7]), 5), (.ok (.word 2), 9), (.error (.frameTooLarge 3 2), 9)] := rfl

end Reader
end Frame
end BatchBridge
