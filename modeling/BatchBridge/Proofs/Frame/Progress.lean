import BatchBridge.Frame.Reader

/-!
# Progress of a reader

What holds of a reader in any circumstances: whatever arrives, fails or is late, and whatever went
wrong before.

* `Reader.remaining` — the bytes that are buffered and those that are still to come.
* `Reader.Consumes` — a call takes nothing that is not there, and an item takes its own length at
  least.  **`Reader.consumes_readFrame`**, **`Reader.consumes_readFrameCapped`** and
  **`Reader.consumes_readWord`** say so of every call.
* `BridgeError.IsReading` — the ways in which a read can fail.
-/

namespace BatchBridge

/-- A failure to get an item off the connection. -/
inductive BridgeError.IsReading : BridgeError → Prop where
  | cut {expected received : Nat} : IsReading (.connectionClosed expected received)
  | tooLarge {length limit : Nat} : IsReading (.frameTooLarge length limit)
  | late {after : Duration} : IsReading (.timeout after)
  | io {fault : IoFault} : IsReading (.io fault)

namespace Frame

/-! ## The codec -/

namespace Codec

/-- An attempt that leaves a buffer with this much in it. -/
inductive Takes (size : Nat) : Outcome → Prop where
  | item {item buffer : Bytes} {codec : Codec} : buffer.length + item.length ≤ size →
      Takes size ⟨.ok (some item), codec, buffer⟩
  | nothing {codec : Codec} {buffer : Bytes} : buffer.length ≤ size →
      Takes size ⟨.ok none, codec, buffer⟩
  | failed {error : BridgeError} {codec : Codec} {buffer : Bytes} : error.IsReading →
      buffer.length ≤ size → Takes size ⟨.error error, codec, buffer⟩

theorem Takes.mono {size size' : Nat} {outcome : Outcome} (h : Takes size outcome)
    (hle : size ≤ size') : Takes size' outcome := by
  cases h with
  | item hsize => exact .item (Nat.le_trans hsize hle)
  | nothing hsize => exact .nothing (Nat.le_trans hsize hle)
  | failed hkind hsize => exact .failed hkind (Nat.le_trans hsize hle)

theorem length_of_split? {n : Nat} {bytes front rest : Bytes}
    (h : Bytes.split? n bytes = some (front, rest)) :
    rest.length + front.length = bytes.length := by
  obtain ⟨rfl, -⟩ := Bytes.split?_eq_some_iff.1 h
  rw [List.length_append, Nat.add_comm]

theorem takes_takeBody (codec : Codec) (length : Nat) (buffer : Bytes) :
    Takes buffer.length (codec.takeBody length buffer) := by
  rw [takeBody]
  cases hsplit : Bytes.split? length buffer with
  | none => exact .nothing (Nat.le_refl _)
  | some parts => exact .item (Nat.le_of_eq (length_of_split? hsplit))

theorem isReading_refusal (codec : Codec) : codec.refusal.IsReading := by
  rw [refusal.eq_def]
  split
  · exact .tooLarge
  · exact .io

theorem takes_takeFrame (codec : Codec) (buffer : Bytes) :
    Takes buffer.length (codec.takeFrame buffer) := by
  rw [takeFrame]
  split
  · exact takes_takeBody ..
  · split
    · exact .nothing (Nat.le_refl _)
    · rename_i hfront
      split
      · refine (takes_takeBody ..).mono ?_
        have hlength := length_of_split? hfront
        omega
      · exact .failed (isReading_refusal codec) (Nat.le_refl _)

theorem takes_decode (want : Want) (codec : Codec) (buffer : Bytes) :
    Takes buffer.length (codec.decode want buffer) := by
  cases want with
  | frame => exact takes_takeFrame ..
  | word =>
    rw [decode]
    cases hfront : Bytes.split? prefixBytes buffer with
    | none => exact .nothing (Nat.le_refl _)
    | some parts => exact .item (Nat.le_of_eq (length_of_split? hfront))

theorem isReading_of_missing {want : Want} {codec : Codec} {buffer : Bytes} {error : BridgeError}
    (h : missing want codec buffer = some error) : error.IsReading := by
  unfold missing at h
  split at h
  · split at h <;> cases h
    exact .cut
  · cases h
    exact .cut
  · cases h
    exact .cut

theorem takes_decodeEof (want : Want) (codec : Codec) (buffer : Bytes) :
    Takes buffer.length (codec.decodeEof want buffer) := by
  have htakes := takes_decode want codec buffer
  rw [decodeEof]
  generalize codec.decode want buffer = outcome at htakes
  cases htakes with
  | item hsize => exact .item hsize
  | failed hkind hsize => exact .failed hkind hsize
  | nothing hsize =>
    cases hmissing : missing want _ _ with
    | none => exact .nothing hsize
    | some error => exact .failed (isReading_of_missing hmissing) hsize

end Codec

/-! ## The reader -/

namespace Reader

/-- The bytes that a reader has yet to give out, if it ever will. -/
def remaining (reader : Reader) : Nat := reader.buffer.length + reader.source.bytes.length

/-- What the buffer can yield. -/
inductive Drains (before : Reader) : Option Polled × Reader → Prop where
  | item {item : Bytes} {after : Reader} : after.source = before.source →
      after.buffer.length + item.length ≤ before.buffer.length →
      Drains before (some (.item item), after)
  | failed {error : BridgeError} {after : Reader} : error.IsReading →
      after.source = before.source → after.buffer.length ≤ before.buffer.length →
      Drains before (some (.failed error), after)
  | ended {after : Reader} : after.source = before.source →
      after.buffer.length ≤ before.buffer.length → Drains before (some .ended, after)
  | nothing {after : Reader} : after.source = before.source →
      after.buffer.length ≤ before.buffer.length → Drains before (none, after)

theorem drains_drain (want : Want) (reader : Reader) : Drains reader (reader.drain want) := by
  rw [drain]
  split
  · exact .ended rfl (Nat.le_refl _)
  split
  · have htakes : Codec.Takes reader.buffer.length
        (if reader.eof then reader.codec.decodeEof want reader.buffer
          else reader.codec.decode want reader.buffer) := by
      split
      · exact Codec.takes_decodeEof ..
      · exact Codec.takes_decode ..
    simp only
    generalize (if reader.eof then reader.codec.decodeEof want reader.buffer
      else reader.codec.decode want reader.buffer) = outcome at htakes
    cases htakes with
    | item hsize => exact .item rfl hsize
    | failed hkind hsize => exact .failed hkind rfl hsize
    | nothing hsize =>
      show Drains reader (if reader.eof then some Polled.ended else none, _)
      split
      · exact .ended rfl hsize
      · exact .nothing rfl hsize
  · exact .nothing rfl (Nat.le_refl _)

/-- What a poll can come to, of this many bytes. -/
inductive Yields (size : Nat) : Polled × Reader → Prop where
  | item {item : Bytes} {after : Reader} : after.remaining + item.length ≤ size →
      Yields size (.item item, after)
  | failed {error : BridgeError} {after : Reader} : error.IsReading → after.remaining ≤ size →
      Yields size (.failed error, after)
  | ended {after : Reader} : after.remaining ≤ size → Yields size (.ended, after)
  | late {after : Reader} : after.remaining ≤ size → Yields size (.late, after)

theorem remaining_leave (reader : Reader) (arrivals : List Arrival) (clock : Nat) :
    (reader.leave arrivals clock).remaining =
      reader.buffer.length + (Source.mk arrivals reader.source.ending clock).bytes.length := rfl

/-- What the buffer yields is what the poll comes to. -/
theorem Drains.yields {reader after : Reader} {polled : Polled}
    (h : Drains reader (some polled, after)) : Yields reader.remaining (polled, after) := by
  have hremaining {n : Nat} (hsource : after.source = reader.source)
      (hsize : after.buffer.length + n ≤ reader.buffer.length) :
      after.remaining + n ≤ reader.remaining := by
    rw [remaining, remaining, hsource]
    omega
  cases h with
  | item hsource hsize => exact .item (hremaining hsource hsize)
  | failed hkind hsource hsize => exact .failed hkind (hremaining (n := 0) hsource hsize)
  | ended hsource hsize => exact .ended (hremaining (n := 0) hsource hsize)

theorem Drains.leave {reader after : Reader} {polled : Option Polled}
    (h : Drains reader (polled, after)) (arrivals : List Arrival) (clock : Nat) :
    Drains (reader.leave arrivals clock) (polled, after.leave arrivals clock) := by
  have hleft (hsource : after.source = reader.source) :
      (after.leave arrivals clock).source = (reader.leave arrivals clock).source := by
    rw [Reader.leave, Reader.leave, hsource]
  cases h with
  | item hsource hsize => exact .item (hleft hsource) hsize
  | failed hkind hsource hsize => exact .failed hkind (hleft hsource) hsize
  | ended hsource hsize => exact .ended (hleft hsource) hsize
  | nothing hsource hsize => exact .nothing (hleft hsource) hsize

theorem yields_pollEnd (want : Want) (deadline : Option Nat) (clock : Nat) (reader : Reader) :
    Yields reader.buffer.length (reader.pollEnd want deadline clock) := by
  unfold pollEnd
  split
  · exact .late (Nat.le_refl _)
  · simp only
    split
    · exact .ended (Nat.le_refl _)
    · have hdrains := drains_drain want
        { reader.leave [] clock with eof := true, readable := true }
      generalize drain want { reader.leave [] clock with eof := true, readable := true } = drained
        at hdrains
      obtain ⟨polled, after⟩ := drained
      cases polled with
      | some polled => exact hdrains.yields
      | none =>
        cases hdrains with
        | nothing hsource hsize => exact .ended (by rw [remaining, hsource]; exact hsize)

theorem Yields.mono {size size' : Nat} {result : Polled × Reader} (h : Yields size result)
    (hle : size ≤ size') : Yields size' result := by
  cases h with
  | item hsize => exact .item (Nat.le_trans hsize hle)
  | failed hkind hsize => exact .failed hkind (Nat.le_trans hsize hle)
  | ended hsize => exact .ended (Nat.le_trans hsize hle)
  | late hsize => exact .late (Nat.le_trans hsize hle)

/-- **A poll takes nothing that is not there**, whatever it meets on its way. -/
theorem yields_pollFrom (want : Want) (deadline : Option Nat) (arrivals : List Arrival)
    (clock : Nat) (reader : Reader) :
    Yields (reader.leave arrivals clock).remaining
      (pollFrom want deadline arrivals clock reader) := by
  induction arrivals generalizing clock reader with
  | nil =>
    have hdrains := drains_drain want reader
    rw [pollFrom]
    generalize reader.drain want = drained at hdrains
    obtain ⟨polled, after⟩ := drained
    cases polled with
    | some polled => exact (hdrains.leave [] clock).yields
    | none =>
      cases hdrains with
      | nothing _ hsize => exact (yields_pollEnd want deadline clock after).mono hsize
  | cons arrival rest ih =>
    have hdrains := drains_drain want reader
    rw [pollFrom]
    generalize reader.drain want = drained at hdrains
    obtain ⟨polled, after⟩ := drained
    cases polled with
    | some polled => exact (hdrains.leave (arrival :: rest) clock).yields
    | none =>
      cases hdrains with
      | nothing hsource hsize =>
        have hleft (clock' : Nat) : (after.leave (arrival :: rest) clock').remaining ≤
            (reader.leave (arrival :: rest) clock).remaining := by
          rw [remaining_leave, remaining_leave, hsource]
          exact Nat.add_le_add_right hsize _
        simp only
        split
        · exact .late (hleft _)
        · cases arrival with
          | failure due kind => exact .failed .io (hleft (max clock due))
          | data due bytes =>
            refine (ih _ _).mono (Nat.le_trans (Nat.le_of_eq ?_) (hleft clock))
            simp only [remaining_leave, Source.bytes, List.flatMap_cons, List.length_append]
            exact Nat.add_assoc ..

/-! ## Calls -/

/-- A call that takes nothing that is not there, and at least so much for what it gives. -/
structure Consumes {α : Type} (size : α → Nat) (before : Reader)
    (called : Except BridgeError α × Reader) : Prop where
  remaining : called.2.remaining ≤ before.remaining
  ok : ∀ item, called.1 = .ok item → called.2.remaining + size item ≤ before.remaining
  error : ∀ error, called.1 = .error error → error.IsReading

theorem consumes_next (want : Want) (reader : Reader) :
    Consumes List.length reader (reader.next want) := by
  have hyields : Yields reader.remaining (reader.poll want) := yields_pollFrom ..
  rw [next]
  generalize reader.poll want = polled at hyields
  cases hyields with
  | item hsize =>
    exact ⟨Nat.le_trans (Nat.le_add_right ..) hsize, fun _ h => by cases h; exact hsize,
      fun _ h => by cases h⟩
  | failed hkind hsize =>
    exact ⟨hsize, fun _ h => by (cases h), fun _ h => by cases h; exact hkind⟩
  | ended hsize => exact ⟨hsize, fun _ h => by (cases h), fun _ h => by cases h; exact .cut⟩
  | late hsize => exact ⟨hsize, fun _ h => by (cases h), fun _ h => by cases h; exact .late⟩

theorem consumes_readFrame (reader : Reader) :
    Consumes List.length reader reader.readFrame := by
  have hnext := consumes_next .frame reader
  rw [readFrame]
  generalize reader.next .frame = called at hnext
  obtain ⟨result, after⟩ := called
  cases result with
  | ok => exact ⟨hnext.remaining, hnext.ok, hnext.error⟩
  | error =>
    refine ⟨hnext.remaining, fun _ h => by (cases h), fun _ h => ?_⟩
    cases h
    exact hnext.error _ rfl

theorem consumes_readFrameCapped (cap : Option Nat) (reader : Reader) :
    Consumes List.length reader (reader.readFrameCapped cap) :=
  have hframe := consumes_readFrame (reader.setCap cap)
  ⟨hframe.remaining, hframe.ok, hframe.error⟩

theorem consumes_readWord (reader : Reader) :
    Consumes (fun _ => 0) reader reader.readWord := by
  have hnext := consumes_next .word reader
  rw [readWord]
  generalize reader.next .word = called at hnext
  obtain ⟨result, after⟩ := called
  cases result with
  | ok => exact ⟨hnext.remaining, fun _ _ => hnext.remaining, fun _ h => by cases h⟩
  | error =>
    refine ⟨hnext.remaining, fun _ h => by (cases h), fun _ h => ?_⟩
    cases h
    exact hnext.error _ rfl

end Reader
end Frame
end BatchBridge
