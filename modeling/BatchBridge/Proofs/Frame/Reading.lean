import BatchBridge.Frame.Reader
import BatchBridge.Proofs.Frame.Wire

/-!
# A reader reads what stands on the wire

Whatever chunks its bytes arrive in, a reader that no deadline interrupts gives the items of
`Frame.read`, one after the other, and stops where `Frame.read` does.

* `Codec.unread` — the bytes that a codec and its buffer have yet to account for.  A length that has
  been taken off the buffer is put back in front, so this is a piece of the input again.
* `Codec.Stands` — where a codec can stand between attempts.
* **`Codec.decode_cases`** — one attempt finds out what `Frame.read` says of the unread bytes.
* `Reader.Between` — a reader between items; `Reader.Awaits` — the same, with the bytes that are
  still to come.
* **`Reader.next_of_read_ok`**, **`Reader.next_of_read_error`** — one call gives what `Frame.read`
  gives, and leaves a reader between items again.
-/

namespace BatchBridge.Frame

/-! ## One attempt -/

namespace Codec

/-- What a codec and its buffer have yet to account for. -/
def unread (codec : Codec) (buffer : Bytes) : Bytes :=
  match codec.phase with
  | .head => buffer
  | .body length => Bytes.ofNatBE prefixBytes length ++ buffer

/-- Where a codec can stand between attempts at an item.  Words are only asked for between
frames. -/
inductive Stands (cap : Option Nat) : Want → Codec → Prop where
  | head {want : Want} : Stands cap want (.new cap)
  | body {length : Nat} : length ≤ cap.getD maxLength → length ≤ maxLength →
      Stands cap .frame ⟨cap, .body length, some length⟩

theorem unread_append (codec : Codec) (buffer more : Bytes) :
    codec.unread (buffer ++ more) = codec.unread buffer ++ more := by
  rw [unread, unread]
  cases codec.phase with
  | head => rfl
  | body length => exact (List.append_assoc ..).symm

/-- Once its length is known, a frame is its payload. -/
theorem read_of_length {cap : Option Nat} {length : Nat}
    (hcap : length ≤ cap.getD maxLength) (hlength : length ≤ maxLength) (buffer : Bytes) :
    read cap .frame (Bytes.ofNatBE prefixBytes length ++ buffer) =
      match Bytes.split? length buffer with
      | none => .error (.connectionClosed length buffer.length)
      | some (payload, rest) => .ok (payload, rest) := by
  cases hbody : Bytes.split? length buffer with
  | none => simp only [read, split?_length, toNatBE_length hlength, hcap, if_true, hbody]
  | some parts => simp only [read, split?_length, toNatBE_length hlength, hcap, if_true, hbody]

/-- Between frames, the only thing that can be missing is a length, or a word. -/
theorem missing_new (cap : Option Nat) (want : Want) (buffer : Bytes) :
    missing want (.new cap) buffer = some (.connectionClosed prefixBytes buffer.length) ∨
      missing want (.new cap) buffer = none ∧
        BridgeError.connectionClosed prefixBytes buffer.length =
          .connectionClosed prefixBytes 0 := by
  cases buffer with
  | nil => exact .inr ⟨rfl, rfl⟩
  | cons b rest => exact .inl rfl

/-- How an attempt can end, and what the unread bytes say then. -/
inductive Attempt (cap : Option Nat) (want : Want) (input : Bytes) : Outcome → Prop where
  | item {item rest : Bytes} : read cap want input = .ok (item, rest) →
      Attempt cap want input ⟨.ok (some item), .new cap, rest⟩
  | refused {error : BridgeError} {codec : Codec} {buffer : Bytes} :
      read cap want input = .error error → ¬error.IsCut →
      Attempt cap want input ⟨.error error, codec, buffer⟩
  /-- Everything is still there, and `missing` says what the string was cut off from. -/
  | more {error : BridgeError} {codec : Codec} {buffer : Bytes} :
      read cap want input = .error error → error.IsCut →
      Stands cap want codec → codec.unread buffer = input →
      (missing want codec buffer = some error ∨
        missing want codec buffer = none ∧ error = .connectionClosed prefixBytes 0) →
      Attempt cap want input ⟨.ok none, codec, buffer⟩

theorem attempt_takeBody {cap : Option Nat} {length : Nat}
    (hcap : length ≤ cap.getD maxLength) (hlength : length ≤ maxLength) (phase : Phase)
    (buffer : Bytes) :
    Attempt cap .frame (Bytes.ofNatBE prefixBytes length ++ buffer)
      (takeBody ⟨cap, phase, some length⟩ length buffer) := by
  have hread := read_of_length hcap hlength buffer
  rw [takeBody]
  cases hsplit : Bytes.split? length buffer with
  | none =>
    rw [hsplit] at hread
    exact .more hread rfl (.body hcap hlength) rfl (.inl rfl)
  | some parts =>
    rw [hsplit] at hread
    exact .item hread

/-- **An attempt finds out what the unread bytes say.** -/
theorem decode_cases {cap : Option Nat} {want : Want} {codec : Codec} (h : Stands cap want codec)
    (buffer : Bytes) : Attempt cap want (codec.unread buffer) (codec.decode want buffer) := by
  cases h with
  | body hcap hlength => exact attempt_takeBody hcap hlength _ buffer
  | head =>
    show Attempt cap want buffer _
    cases hfront : Bytes.split? prefixBytes buffer with
    | none =>
      cases want with
      | word =>
        have hread : read cap .word buffer =
            .error (.connectionClosed prefixBytes buffer.length) := by simp only [read, hfront]
        simp only [decode, hfront]
        exact .more hread rfl .head rfl (missing_new cap _ buffer)
      | frame =>
        have hread : read cap .frame buffer =
            .error (.connectionClosed prefixBytes buffer.length) := by simp only [read, hfront]
        simp only [decode, note, new, takeFrame, hfront]
        exact .more hread rfl .head rfl (missing_new cap _ buffer)
    | some parts =>
      obtain ⟨front, rest⟩ := parts
      cases want with
      | word =>
        simp only [decode, hfront]
        exact .item (by simp only [read, hfront])
      | frame =>
        obtain ⟨hbuffer, hprefix⟩ := Bytes.split?_eq_some_iff.1 hfront
        have hlength := toNatBE_le_maxLength hprefix
        simp only [decode, note, new, takeFrame, hfront]
        split
        · rename_i hcap
          have hback : Bytes.ofNatBE prefixBytes (Bytes.toNatBE front) ++ rest = buffer := by
            rw [← hprefix, Bytes.ofNatBE_toNatBE, hbuffer]
          have hattempt := attempt_takeBody hcap hlength .head rest
          rwa [hback] at hattempt
        · rename_i hcap
          have hread : read cap .frame buffer =
              .error (.frameTooLarge (Bytes.toNatBE front) (cap.getD maxLength)) := by
            simp only [read, hfront, if_neg hcap]
          cases cap with
          | none => exact absurd hlength hcap
          | some limit =>
            exact .refused hread (by simp [BridgeError.IsCut, refusal, BridgeError.kind])

/-- After the last byte, an attempt gives the error that the unread bytes are worth; no error at all
is what a string without any bytes is worth. -/
theorem decodeEof_of_read_error {cap : Option Nat} {want : Want} {codec : Codec}
    (h : Stands cap want codec) {buffer : Bytes} {error : BridgeError}
    (hread : read cap want (codec.unread buffer) = .error error) :
    (codec.decodeEof want buffer).result = .error error ∨
      (codec.decodeEof want buffer).result = .ok none ∧
        error = .connectionClosed prefixBytes 0 := by
  rw [decodeEof]
  generalize houtcome : codec.decode want buffer = outcome
  have hattempt := decode_cases h buffer
  rw [houtcome] at hattempt
  cases hattempt with
  | item hitem => rw [hread] at hitem; cases hitem
  | refused hrefused =>
    rw [hread] at hrefused
    cases hrefused
    exact .inl rfl
  | more hmore _ _ _ hmissing =>
    rw [hread] at hmore
    cases hmore
    rcases hmissing with hmissing | ⟨hmissing, hzero⟩
    · exact .inl (by simp only [hmissing])
    · exact .inr ⟨by simp only [hmissing], hzero⟩

end Codec

/-! ## One call -/

/-- The bytes of arrivals. -/
abbrev bytesOf (arrivals : List Arrival) : Bytes :=
  (Source.mk arrivals .closed 0).bytes

theorem bytesOf_cons (due : Nat) (bytes : Bytes) (rest : List Arrival) :
    bytesOf (.data due bytes :: rest) = bytes ++ bytesOf rest := rfl

/-- No arrival is a failure. -/
def Intact (arrivals : List Arrival) : Prop :=
  ∀ arrival ∈ arrivals, ∃ due bytes, arrival = .data due bytes

theorem Intact.rest {arrival : Arrival} {rest : List Arrival} (h : Intact (arrival :: rest)) :
    Intact rest := fun a ha => h a (List.mem_cons_of_mem _ ha)

/-- Everything arrives before the deadline, if there is one. -/
def InTime (deadline : Option Nat) (arrivals : List Arrival) : Prop :=
  ∀ limit ∈ deadline, ∀ arrival ∈ arrivals, arrival.due ≤ limit

theorem InTime.rest {deadline : Option Nat} {arrival : Arrival} {rest : List Arrival}
    (h : InTime deadline (arrival :: rest)) : InTime deadline rest :=
  fun limit hlimit a ha => h limit hlimit a (List.mem_cons_of_mem _ ha)

theorem isLate_of_inTime {deadline : Option Nat} {clock : Nat} {arrival : Arrival}
    {rest : List Arrival} (h : InTime deadline (arrival :: rest)) :
    Reader.isLate deadline clock arrival.due = false := by
  cases deadline with
  | none => rfl
  | some limit =>
    have hdue := h limit rfl arrival List.mem_cons_self
    simp [Reader.isLate, Nat.not_lt.mpr hdue]

/-- When an item that is asked for at a time has to be complete. -/
def deadlineFrom (timeout : Option Duration) (clock : Nat) : Option Nat :=
  timeout.map fun timeout => clock + timeout.nanos

/-- An item that is asked for later may take until later. -/
theorem InTime.later {timeout : Option Duration} {clock clock' : Nat} {arrivals : List Arrival}
    (h : InTime (deadlineFrom timeout clock) arrivals) (hclock : clock ≤ clock') :
    InTime (deadlineFrom timeout clock') arrivals := by
  cases timeout with
  | none => exact fun _ hlimit => by cases hlimit
  | some timeout =>
    intro limit hlimit a ha
    cases hlimit
    exact Nat.le_trans (h _ rfl a ha) (Nat.add_le_add_right hclock _)

namespace Reader

/-- A reader in the middle of a call, with the bytes it has got so far. -/
structure Polls (cap : Option Nat) (want : Want) (reader : Reader) (input : Bytes) : Prop where
  stands : Codec.Stands cap want reader.codec
  unread : reader.codec.unread reader.buffer = input
  errored : reader.errored = false
  eof : reader.eof = false
  /-- If it is known that the buffer yields nothing, then that is because something is missing. -/
  quiet : reader.readable = false → ∃ error, read cap want input = .error error ∧ error.IsCut

/-- What stays the same during a call, whatever its outcome. -/
structure Kept (before after : Reader) : Prop where
  limits : after.limits = before.limits
  ending : after.source.ending = before.source.ending

theorem Kept.refl (reader : Reader) : Kept reader reader := ⟨rfl, rfl⟩

theorem Kept.trans {a b c : Reader} (h : Kept a b) (h' : Kept b c) : Kept a c :=
  ⟨h'.limits.trans h.limits, h'.ending.trans h.ending⟩

/-- What the buffer can yield in the middle of a call. -/
inductive Drained (cap : Option Nat) (want : Want) (reader : Reader) (input : Bytes) :
    Option Polled × Reader → Prop where
  | item {item rest : Bytes} : read cap want input = .ok (item, rest) →
      Drained cap want reader input
        (some (.item item), { reader with codec := .new cap, buffer := rest, readable := true })
  | failed {error : BridgeError} {after : Reader} : read cap want input = .error error →
      ¬error.IsCut → Drained cap want reader input (some (.failed error), after)
  | nothing {error : BridgeError} {after : Reader} : read cap want input = .error error →
      error.IsCut → Polls cap want after input → after.readable = false → Kept reader after →
      Drained cap want reader input (none, after)

theorem drained_of_polls {cap : Option Nat} {want : Want} {reader : Reader} {input : Bytes}
    (h : Polls cap want reader input) : Drained cap want reader input (reader.drain want) := by
  rw [drain, h.errored, if_neg Bool.false_ne_true]
  cases hreadable : reader.readable with
  | false =>
    obtain ⟨error, hread, hcut⟩ := h.quiet hreadable
    exact .nothing hread hcut h hreadable (.refl reader)
  | true =>
    rw [if_pos rfl, h.eof, if_neg Bool.false_ne_true]
    have hattempt := Codec.decode_cases h.stands reader.buffer
    rw [h.unread] at hattempt
    generalize reader.codec.decode want reader.buffer = outcome at hattempt
    cases hattempt with
    | item hread =>
      have hitem : Drained cap want reader input (_, _) := .item hread
      rw [← hreadable] at hitem
      exact hitem
    | refused hread hcut => exact .failed hread hcut
    | more hread hcut hstands hunread _ =>
      have hopen : ¬reader.eof = true := by rw [h.eof]; exact Bool.false_ne_true
      show Drained cap want reader input (if reader.eof = true then some Polled.ended else none, _)
      rw [if_neg hopen]
      refine .nothing hread hcut ?_ rfl ⟨rfl, rfl⟩
      exact ⟨hstands, hunread, h.errored, h.eof, fun _ => ⟨_, hread, hcut⟩⟩

/-- A reader between items, with a cap in force. -/
structure Between (cap : Option Nat) (reader : Reader) : Prop where
  codec : reader.codec = .new cap
  errored : reader.errored = false
  eof : reader.eof = false
  fresh : reader.readable = false → reader.buffer = []

/-- Between items, everything that is there has been accounted for. -/
theorem Between.polls {reader : Reader} {cap : Option Nat} (h : Between cap reader) (want : Want) :
    Polls cap want reader reader.buffer where
  stands := by rw [h.codec]; exact .head
  unread := by rw [h.codec]; rfl
  errored := h.errored
  eof := h.eof
  quiet hquiet := by
    rw [h.fresh hquiet]
    refine ⟨.connectionClosed prefixBytes 0, ?_, rfl⟩
    cases want <;> rfl

/-- A reader between items: with a cap in force, it has these bytes still to come, and they all come
before the next item is due. -/
structure Awaits (reader : Reader) (cap : Option Nat) (input : Bytes) : Prop where
  codec : reader.codec = .new cap
  errored : reader.errored = false
  eof : reader.eof = false
  fresh : reader.readable = false → reader.buffer = []
  input : reader.buffer ++ reader.source.bytes = input
  intact : Intact reader.source.arrivals
  inTime : InTime (deadlineFrom reader.limits.readTimeout reader.source.clock)
    reader.source.arrivals

/-- What is between items when a call has given an item. -/
theorem awaits_of_item {reader : Reader} {arrivals : List Arrival} {clock : Nat}
    (cap : Option Nat) (rest : Bytes) (herrored : reader.errored = false)
    (heof : reader.eof = false)
    (hintact : Intact arrivals)
    (htime : InTime (deadlineFrom reader.limits.readTimeout clock) arrivals) :
    Awaits
      ({ reader with codec := .new cap, buffer := rest, readable := true }.leave arrivals clock)
      cap (rest ++ bytesOf arrivals) where
  codec := rfl
  errored := herrored
  eof := heof
  fresh h := Bool.noConfusion h
  input := rfl
  intact := hintact
  inTime := htime

/-- Having found nothing in the buffer, a reader goes on with what arrives next. -/
theorem pollFrom_data {cap : Option Nat} {want : Want} {deadline : Option Nat} {clock due : Nat}
    {bytes : Bytes} {arrivals : List Arrival} {reader after : Reader} {input : Bytes}
    (hdrain : reader.drain want = (none, after)) (hpolls : Polls cap want after input)
    (hlate : isLate deadline clock due = false) :
    ∃ next, pollFrom want deadline (.data due bytes :: arrivals) clock reader =
        pollFrom want deadline arrivals (max clock due) next ∧
      Polls cap want next (input ++ bytes) ∧ Kept after next := by
  refine ⟨{ after with buffer := after.buffer ++ bytes, eof := false, readable := true }, ?_,
    ⟨hpolls.stands, ?_, hpolls.errored, rfl, fun h => Bool.noConfusion h⟩, ⟨rfl, rfl⟩⟩
  · simp only [pollFrom, hdrain, Arrival.due, hlate, Bool.false_eq_true, if_false]
  · rw [Codec.unread_append, hpolls.unread]

/-- **A call gives an item** once the bytes that are there and those that arrive hold one. -/
theorem pollFrom_of_read_ok {cap : Option Nat} {want : Want} {deadline : Option Nat}
    {arrivals : List Arrival} {clock : Nat} {reader : Reader} {input item rest : Bytes}
    (h : Polls cap want reader input) (hintact : Intact arrivals)
    (htime : InTime deadline arrivals)
    (hlater : InTime (deadlineFrom reader.limits.readTimeout clock) arrivals)
    (hread : read cap want (input ++ bytesOf arrivals) = .ok (item, rest)) :
    ∃ after, pollFrom want deadline arrivals clock reader = (.item item, after) ∧
      Awaits after cap rest ∧ Kept reader after := by
  induction arrivals generalizing clock reader input with
  | nil =>
    have hdrained := drained_of_polls h
    have hnow : read cap want input = .ok (item, rest) := by
      simpa [bytesOf, Source.bytes] using hread
    rw [pollFrom]
    generalize reader.drain want = drained at hdrained
    cases hdrained with
    | item hitem =>
      rw [hnow] at hitem
      cases hitem
      have hawaits := awaits_of_item cap rest h.errored h.eof hintact hlater
      exact ⟨_, rfl, by simpa [bytesOf, Source.bytes] using hawaits, ⟨rfl, rfl⟩⟩
    | failed herror => rw [hnow] at herror; cases herror
    | nothing herror => rw [hnow] at herror; cases herror
  | cons arrival arrivals ih =>
    have hdrained := drained_of_polls h
    generalize hdrain : reader.drain want = drained at hdrained
    cases hdrained with
    | item hitem =>
      rw [read_append_of_ok hitem] at hread
      cases hread
      simp only [pollFrom, hdrain]
      exact ⟨_, rfl, awaits_of_item cap _ h.errored h.eof hintact hlater, ⟨rfl, rfl⟩⟩
    | failed herror hcut => rw [read_append_of_error herror hcut] at hread; cases hread
    | nothing _ _ hpolls _ hkept =>
      obtain ⟨due, bytes, rfl⟩ := hintact arrival List.mem_cons_self
      have hlate : isLate deadline clock due = false := isLate_of_inTime htime
      obtain ⟨next, hpoll, hnext, hkept'⟩ := pollFrom_data hdrain hpolls hlate
      have hsame := hkept.trans hkept'
      rw [bytesOf_cons, ← List.append_assoc] at hread
      rw [hpoll]
      have hlater' : InTime (deadlineFrom next.limits.readTimeout (max clock due)) arrivals := by
        rw [hsame.limits]
        exact hlater.rest.later (Nat.le_max_left ..)
      obtain ⟨last, hlast, hawaits, hkept''⟩ := ih hnext hintact.rest htime.rest hlater' hread
      exact ⟨last, hlast, hawaits, hsame.trans hkept''⟩

/-! ### Errors -/

theorem Polls.leave {cap : Option Nat} {want : Want} {reader : Reader} {input : Bytes}
    (h : Polls cap want reader input) (arrivals : List Arrival) (clock : Nat) :
    Polls cap want (reader.leave arrivals clock) input :=
  ⟨h.stands, h.unread, h.errored, h.eof, h.quiet⟩

/-- The error that the way a call ended amounts to, if no deadline has passed. -/
def means (error : BridgeError) : Polled → Prop
  | .failed e => e = error
  | .ended => error = .connectionClosed prefixBytes 0
  | .item _ | .late => False

/-- At the end of its source, a reader says what the bytes it has are worth. -/
theorem drain_eof_means {cap : Option Nat} {want : Want} {reader : Reader} {input : Bytes}
    {error : BridgeError} (h : Polls cap want reader input)
    (hread : read cap want input = .error error) :
    ∃ polled after, { reader with eof := true, readable := true }.drain want =
      (some polled, after) ∧ means error polled := by
  have hread' := hread
  rw [← h.unread] at hread'
  have heof := Codec.decodeEof_of_read_error h.stands hread'
  simp only [drain, h.errored, Bool.false_eq_true, if_false, if_true]
  generalize reader.codec.decodeEof want reader.buffer = outcome at heof
  rcases heof with heof | ⟨heof, hzero⟩
  · simp only [heof]
    exact ⟨_, _, rfl, rfl⟩
  · simp only [heof]
    exact ⟨_, _, rfl, hzero⟩

theorem pollEnd_means {cap : Option Nat} {want : Want} {deadline : Option Nat} {clock : Nat}
    {reader : Reader} {input : Bytes} {error : BridgeError} (h : Polls cap want reader input)
    (hend : reader.source.ending = .closed ∨ deadline = none)
    (hread : read cap want input = .error error) :
    means error (reader.pollEnd want deadline clock).1 := by
  have hleft := h.leave [] clock
  have hopen : ¬(reader.leave [] clock).eof = true := by rw [hleft.eof]; exact Bool.false_ne_true
  obtain ⟨polled, after, hdrain, hmeans⟩ := drain_eof_means hleft hread
  have hclosed : reader.pollEnd want deadline clock = (polled, after) := by
    unfold pollEnd
    rcases hend with hend | rfl
    · rw [hend]
      cases deadline <;> simp only [if_neg hopen, hdrain]
    · cases reader.source.ending <;> simp only [if_neg hopen, hdrain]
  rw [hclosed]
  exact hmeans

/-- **A call fails** if the bytes that are there and those that arrive hold no item.  When they are
cut off, this takes an end of the stream or the absence of a deadline. -/
theorem pollFrom_of_read_error {cap : Option Nat} {want : Want} {deadline : Option Nat}
    {arrivals : List Arrival} {clock : Nat} {reader : Reader} {input : Bytes} {error : BridgeError}
    (h : Polls cap want reader input) (hintact : Intact arrivals)
    (htime : InTime deadline arrivals)
    (hend : error.IsCut → reader.source.ending = .closed ∨ deadline = none)
    (hread : read cap want (input ++ bytesOf arrivals) = .error error) :
    means error (pollFrom want deadline arrivals clock reader).1 := by
  induction arrivals generalizing clock reader input with
  | nil =>
    have hdrained := drained_of_polls h
    have hnow : read cap want input = .error error := by
      simpa [bytesOf, Source.bytes] using hread
    rw [pollFrom]
    generalize reader.drain want = drained at hdrained
    cases hdrained with
    | item hitem => rw [hnow] at hitem; cases hitem
    | failed herror =>
      rw [hnow] at herror
      cases herror
      exact rfl
    | nothing herror hcut hpolls _ hkept =>
      rw [hnow] at herror
      cases herror
      exact pollEnd_means hpolls (hkept.ending ▸ hend hcut) hnow
  | cons arrival arrivals ih =>
    have hdrained := drained_of_polls h
    generalize hdrain : reader.drain want = drained at hdrained
    cases hdrained with
    | item hitem => rw [read_append_of_ok hitem] at hread; cases hread
    | failed herror hcut =>
      rw [read_append_of_error herror hcut] at hread
      cases hread
      simp only [pollFrom, hdrain]
      exact rfl
    | nothing _ _ hpolls _ hkept =>
      obtain ⟨due, bytes, rfl⟩ := hintact arrival List.mem_cons_self
      have hlate : isLate deadline clock due = false := isLate_of_inTime htime
      obtain ⟨next, hpoll, hnext, hkept'⟩ := pollFrom_data hdrain hpolls hlate
      rw [bytesOf_cons, ← List.append_assoc] at hread
      rw [hpoll]
      exact ih hnext hintact.rest htime.rest ((hkept.trans hkept').ending ▸ hend) hread

/-! ## Items of a reader -/

theorem awaits_new {limits : Limits} {source : Source} (hintact : Intact source.arrivals)
    (htime : InTime (deadlineFrom limits.readTimeout source.clock) source.arrivals) :
    Awaits (new limits source) limits.maxFrameBytes source.bytes :=
  ⟨rfl, rfl, rfl, fun _ => rfl, rfl, hintact, htime⟩

theorem Awaits.between {reader : Reader} {cap : Option Nat} {input : Bytes}
    (h : Awaits reader cap input) : Between cap reader := ⟨h.codec, h.errored, h.eof, h.fresh⟩

theorem Awaits.bytes_eq {reader : Reader} {cap : Option Nat} {input : Bytes}
    (h : Awaits reader cap input) : reader.buffer ++ bytesOf reader.source.arrivals = input :=
  h.input

/-- **The next item** is the one that the bytes to come begin with. -/
theorem next_of_read_ok {reader : Reader} {cap : Option Nat} {want : Want}
    {input item rest : Bytes} (h : Awaits reader cap input)
    (hread : read cap want input = .ok (item, rest)) :
    ∃ after, reader.next want = (.ok item, after) ∧ Awaits after cap rest ∧ Kept reader after := by
  rw [← h.bytes_eq] at hread
  obtain ⟨after, hpoll, hawaits, hkept⟩ :=
    pollFrom_of_read_ok (h.between.polls want) h.intact h.inTime h.inTime hread
  refine ⟨after, ?_, hawaits, hkept⟩
  rw [next, show reader.poll want = (.item item, after) from hpoll]

/-- A reader that notices when its source has nothing more to give. -/
def Ends (reader : Reader) : Prop :=
  reader.source.ending = .closed ∨ reader.limits.readTimeout = none

theorem Ends.kept {before after : Reader} (h : Ends before) (hkept : Kept before after) :
    Ends after := by
  rw [Ends, hkept.ending, hkept.limits]
  exact h

/-- **There is no next item** if the bytes to come do not begin with one. -/
theorem next_of_read_error {reader : Reader} {cap : Option Nat} {want : Want} {input : Bytes}
    {error : BridgeError} (h : Awaits reader cap input) (hends : error.IsCut → reader.Ends)
    (hread : read cap want input = .error error) : (reader.next want).1 = .error error := by
  rw [← h.bytes_eq] at hread
  have hends' : error.IsCut → reader.source.ending = .closed ∨
      deadlineFrom reader.limits.readTimeout reader.source.clock = none :=
    fun hcut => (hends hcut).imp id fun h => by rw [h]; rfl
  have hmeans : means error (reader.poll want).1 :=
    pollFrom_of_read_error (h.between.polls want) h.intact h.inTime hends' hread
  rw [next]
  generalize reader.poll want = polled at hmeans
  obtain ⟨polled, after⟩ := polled
  cases polled with
  | item => exact hmeans.elim
  | late => exact hmeans.elim
  | failed e => rw [show e = error from hmeans]
  | ended => rw [show error = _ from hmeans]

/-! ## Frames and words -/

theorem Awaits.setCap {reader : Reader} {cap : Option Nat} {input : Bytes}
    (h : Awaits reader cap input) (other : Option Nat) : Awaits (reader.setCap other) other input :=
  ⟨by rw [Reader.setCap, h.codec]; rfl, h.errored, h.eof, h.fresh, h.input, h.intact, h.inTime⟩

/-- What has been counted makes no difference. -/
theorem Awaits.count {reader : Reader} {cap : Option Nat} {input : Bytes}
    (h : Awaits reader cap input) (n : Nat) : Awaits { reader with bytesRead := n } cap input :=
  ⟨h.codec, h.errored, h.eof, h.fresh, h.input, h.intact, h.inTime⟩

theorem readFrame_of_read_ok {reader : Reader} {cap : Option Nat} {input payload rest : Bytes}
    (h : Awaits reader cap input) (hread : read cap .frame input = .ok (payload, rest)) :
    ∃ after, reader.readFrame = (.ok payload, after) ∧ Awaits after cap rest ∧
      Kept reader after := by
  obtain ⟨after, hnext, hawaits, hkept⟩ := next_of_read_ok h hread
  refine ⟨{ after with bytesRead := after.bytesRead + prefixBytes + payload.length }, ?_,
    hawaits.count _, ⟨hkept.limits, hkept.ending⟩⟩
  simp only [readFrame, hnext]

theorem readFrame_of_read_error {reader : Reader} {cap : Option Nat} {input : Bytes}
    {error : BridgeError} (h : Awaits reader cap input) (hends : error.IsCut → reader.Ends)
    (hread : read cap .frame input = .error error) : reader.readFrame.1 = .error error := by
  have hnext := next_of_read_error h hends hread
  rw [readFrame]
  generalize reader.next .frame = called at hnext
  obtain ⟨result, after⟩ := called
  rw [show result = .error error from hnext]

theorem readFrameCapped_of_read_ok {reader : Reader} {cap other : Option Nat}
    {input payload rest : Bytes} (h : Awaits reader other input)
    (hread : read cap .frame input = .ok (payload, rest)) :
    ∃ after, reader.readFrameCapped cap = (.ok payload, after) ∧
      Awaits after reader.limits.maxFrameBytes rest ∧ Kept reader after := by
  obtain ⟨after, hframe, hawaits, hkept⟩ := readFrame_of_read_ok (h.setCap cap) hread
  have hlimits : after.limits = reader.limits := hkept.limits
  refine ⟨after.setCap reader.limits.maxFrameBytes, ?_, hawaits.setCap _, ⟨hlimits, hkept.ending⟩⟩
  simp only [readFrameCapped, hframe, hlimits]

theorem readFrameCapped_of_read_error {reader : Reader} {cap other : Option Nat} {input : Bytes}
    {error : BridgeError} (h : Awaits reader other input) (hends : error.IsCut → reader.Ends)
    (hread : read cap .frame input = .error error) :
    (reader.readFrameCapped cap).1 = .error error :=
  readFrame_of_read_error (h.setCap cap) hends hread

theorem readWord_of_read_ok {reader : Reader} {cap : Option Nat} {input word rest : Bytes}
    (h : Awaits reader cap input) (hread : read cap .word input = .ok (word, rest)) :
    ∃ after, reader.readWord = (.ok (Bytes.toNatBE word), after) ∧ Awaits after cap rest ∧
      Kept reader after := by
  obtain ⟨after, hnext, hawaits, hkept⟩ := next_of_read_ok h hread
  refine ⟨{ after with bytesRead := after.bytesRead + prefixBytes }, ?_, hawaits.count _,
    ⟨hkept.limits, hkept.ending⟩⟩
  simp only [readWord, hnext]

theorem readWord_of_read_error {reader : Reader} {cap : Option Nat} {input : Bytes}
    {error : BridgeError} (h : Awaits reader cap input) (hends : error.IsCut → reader.Ends)
    (hread : read cap .word input = .error error) : reader.readWord.1 = .error error := by
  have hnext := next_of_read_error h hends hread
  rw [readWord]
  generalize reader.next .word = called at hnext
  obtain ⟨result, after⟩ := called
  rw [show result = .error error from hnext]

end Reader
end BatchBridge.Frame
