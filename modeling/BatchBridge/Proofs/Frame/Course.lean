import BatchBridge.Proofs.Frame.Attempts
import BatchBridge.Proofs.Frame.Caps
import BatchBridge.Proofs.Frame.Calls

/-!
# The course of a call

What a call does to a reader, in whatever state an earlier call has left it: after a deadline, after
an error, behind the end of the stream, in the middle of a frame.

* `Reader.Drainage` — what the buffer can yield; **`Reader.drainage_drain`**.
* `Reader.pollFrom_of_yield` and the lemmas behind it — how reading on begins.
* `Reader.Sound` — what holds of a reader between any two calls: behind the end of its source there
  is nothing more to read.
* `Reader.Course` — how a call can go, held against one attempt at everything that it has met.
  **`Reader.course_poll`** says that it goes in one of these ways.
-/

namespace BatchBridge.Frame

/-- All bytes of one part of the arrivals and of the part behind it. -/
theorem bytesOf_append (met rest : List Arrival) :
    bytesOf (met ++ rest) = bytesOf met ++ bytesOf rest := by
  simp [bytesOf, Source.bytes]

namespace Reader

variable {want : Want} {before reader : Reader}

/-! ## The buffer -/

/-- What the buffer can yield. -/
inductive Drainage (want : Want) (reader : Reader) : Option Polled × Reader → Prop where
  | owed : reader.errored = true →
      Drainage want reader (some .ended, { reader with errored := false, readable := false })
  /-- The buffer is not looked at. -/
  | quiet : reader.errored = false → reader.readable = false → Drainage want reader (none, reader)
  | item {item buffer : Bytes} {codec : Codec} : reader.errored = false → reader.readable = true →
      reader.codec.decode want reader.buffer = ⟨.ok (some item), codec, buffer⟩ →
      Drainage want reader (some (.item item), { reader with codec, buffer })
  | refused {error : BridgeError} {codec : Codec} {buffer : Bytes} : reader.errored = false →
      reader.readable = true →
      reader.codec.decode want reader.buffer = ⟨.error error, codec, buffer⟩ →
      Drainage want reader (some (.failed error), { reader with codec, buffer, errored := true })
  | nothing {codec : Codec} {buffer : Bytes} : reader.errored = false → reader.eof = false →
      reader.codec.decode want reader.buffer = ⟨.ok none, codec, buffer⟩ →
      Drainage want reader (none, { reader with codec, buffer, readable := false })
  | cut {error : BridgeError} {codec : Codec} {buffer : Bytes} : reader.errored = false →
      reader.eof = true → reader.readable = true →
      reader.codec.decode want reader.buffer = ⟨.ok none, codec, buffer⟩ →
      Codec.missing want codec buffer = some error →
      Drainage want reader (some (.failed error), { reader with codec, buffer, errored := true })
  | clean {codec : Codec} {buffer : Bytes} : reader.errored = false → reader.eof = true →
      reader.readable = true →
      reader.codec.decode want reader.buffer = ⟨.ok none, codec, buffer⟩ →
      Codec.missing want codec buffer = none →
      Drainage want reader (some .ended, { reader with codec, buffer, readable := false })

theorem drainage_drain (want : Want) (reader : Reader) :
    Drainage want reader (reader.drain want) := by
  cases herrored : reader.errored with
  | true =>
    have howed : Drainage want reader _ := .owed herrored
    simpa [drain, herrored] using howed
  | false =>
    cases hreadable : reader.readable with
    | false =>
      have hquiet : Drainage want reader _ := .quiet herrored hreadable
      simpa [drain, herrored, hreadable] using hquiet
    | true =>
      cases hdecode : reader.codec.decode want reader.buffer with
      | mk result codec buffer =>
        rcases result with error | _ | item
        · have hrefused := Drainage.refused herrored hreadable hdecode
          cases heof : reader.eof <;>
            simpa [drain, herrored, hreadable, heof, Codec.decodeEof, hdecode, adopt] using hrefused
        · cases heof : reader.eof with
          | false =>
            have hnothing := Drainage.nothing herrored heof hdecode
            simpa [drain, herrored, hreadable, heof, hdecode, adopt] using hnothing
          | true =>
            cases hmissing : Codec.missing want codec buffer with
            | none =>
              have hclean := Drainage.clean herrored heof hreadable hdecode hmissing
              simpa [drain, herrored, hreadable, heof, Codec.decodeEof, hdecode, hmissing, adopt]
                using hclean
            | some error =>
              have hcut := Drainage.cut herrored heof hreadable hdecode hmissing
              simpa [drain, herrored, hreadable, heof, Codec.decodeEof, hdecode, hmissing, adopt]
                using hcut
        · have hitem := Drainage.item herrored hreadable hdecode
          cases heof : reader.eof <;>
            simpa [drain, herrored, hreadable, heof, Codec.decodeEof, hdecode, adopt] using hitem

/-! ## Reading on -/

section

variable {deadline : Option Nat} {clock : Nat} {arrival : Arrival} {rest : List Arrival}
  {after : Reader}

/-- What the buffer yields is what a poll comes to. -/
theorem pollFrom_of_yield {polled : Polled} (h : reader.drain want = (some polled, after))
    (deadline : Option Nat) (arrivals : List Arrival) (clock : Nat) :
    pollFrom want deadline arrivals clock reader = (polled, after.leave arrivals clock) := by
  cases arrivals with
  | nil => rw [pollFrom, h]
  | cons => rw [pollFrom, h]

theorem pollFrom_nil (h : reader.drain want = (none, after)) (deadline : Option Nat) (clock : Nat) :
    pollFrom want deadline [] clock reader = after.pollEnd want deadline clock := by
  rw [pollFrom, h]

theorem isLate_none (clock due : Nat) : isLate none clock due = false := rfl

theorem pollFrom_of_late (h : reader.drain want = (none, after))
    (hlate : isLate deadline clock arrival.due = true) (rest : List Arrival) :
    pollFrom want deadline (arrival :: rest) clock reader =
      (.late, after.leave (arrival :: rest) (deadline.getD clock)) := by
  simp only [pollFrom, h, hlate, if_true]

theorem pollFrom_of_failure {due : Nat} {kind : IoKind} (h : reader.drain want = (none, after))
    (hlate : isLate deadline clock (Arrival.failure due kind).due = false) (rest : List Arrival) :
    pollFrom want deadline (.failure due kind :: rest) clock reader =
      (.failed (.io (.transport kind)),
        { after.leave rest (max clock due) with errored := true }) := by
  simp only [pollFrom, h, hlate, Bool.false_eq_true, if_false]
  rfl

theorem pollFrom_of_data {due : Nat} {bytes : Bytes} (h : reader.drain want = (none, after))
    (hlate : isLate deadline clock (Arrival.data due bytes).due = false) (rest : List Arrival) :
    pollFrom want deadline (.data due bytes :: rest) clock reader =
      pollFrom want deadline rest (max clock due)
        { after with buffer := after.buffer ++ bytes, eof := false, readable := true } := by
  simp only [pollFrom, h, hlate, Bool.false_eq_true, if_false]
  rfl

end

/-! ## A call -/

/-- What holds of a reader between any two calls. -/
structure Sound (reader : Reader) : Prop where
  notes : reader.codec.Notes
  /-- Nothing comes behind the end of the stream. -/
  atEnd : reader.eof = true → reader.source.arrivals = [] ∧ reader.Ends

theorem sound_new (limits : Limits) (source : Source) : Sound (new limits source) :=
  ⟨fun _ hphase => (by cases hphase), fun heof => by cases heof⟩

/-- A reader that looks at its buffer or reads on, before it reports anything. -/
def Open (reader : Reader) : Prop :=
  reader.errored = false ∧ (reader.eof = true → reader.readable = true)

/-- What a call leaves, but for the clock and the flags. -/
structure Leaves (before : Reader) (codec : Codec) (buffer : Bytes) (rest : List Arrival)
    (after : Reader) : Prop where
  limits : after.limits = before.limits
  ending : after.source.ending = before.source.ending
  bytesRead : after.bytesRead = before.bytesRead
  codec : after.codec = codec
  buffer : after.buffer = buffer
  arrivals : after.source.arrivals = rest

/-- A call that has met these arrivals has not found its item in them: the codec has not been asked
at all, or it has found nothing. -/
def Waits (want : Want) (before : Reader) (met : List Arrival) (codec : Codec) (buffer : Bytes) :
    Prop :=
  met = [] ∧ codec = before.codec ∧ buffer = before.buffer ∨
    before.codec.decode want (before.buffer ++ bytesOf met) = ⟨.ok none, codec, buffer⟩

/-- How a call can go. -/
inductive Course (want : Want) (before : Reader) : Polled × Reader → Prop where
  /-- After a failure, the end of the stream is reported once. -/
  | owed {after : Reader} : before.errored = true →
      Leaves before before.codec before.buffer before.source.arrivals after →
      after.errored = false → after.readable = false → after.eof = before.eof →
      Course want before (.ended, after)
  /-- The end of the stream has been seen before, and there is nothing to look at. -/
  | finished {after : Reader} : before.errored = false → before.eof = true →
      before.readable = false → Leaves before before.codec before.buffer [] after →
      after.errored = false → after.readable = false → after.eof = true →
      Course want before (.ended, after)
  | item {met rest : List Arrival} {item buffer : Bytes} {codec : Codec} {after : Reader} :
      before.Open → before.source.arrivals = met ++ rest →
      before.codec.decode want (before.buffer ++ bytesOf met) = ⟨.ok (some item), codec, buffer⟩ →
      Leaves before codec buffer rest after → after.errored = false → after.readable = true →
      (after.eof = true → rest = [] ∧ before.Ends) → Course want before (.item item, after)
  | refused {met rest : List Arrival} {error : BridgeError} {codec : Codec} {buffer : Bytes}
      {after : Reader} : before.Open → before.source.arrivals = met ++ rest →
      before.codec.decode want (before.buffer ++ bytesOf met) = ⟨.error error, codec, buffer⟩ →
      Leaves before codec buffer rest after → after.errored = true →
      (after.eof = true → rest = [] ∧ before.Ends) → Course want before (.failed error, after)
  /-- The stream has ended in the middle of an item. -/
  | cut {error : BridgeError} {codec : Codec} {buffer : Bytes} {after : Reader} :
      before.Open → before.Ends →
      before.codec.decode want before.ahead = ⟨.ok none, codec, buffer⟩ →
      Codec.missing want codec buffer = some error →
      Leaves before codec buffer [] after → after.errored = true → after.eof = true →
      Course want before (.failed error, after)
  /-- The stream has ended between two items. -/
  | clean {codec : Codec} {buffer : Bytes} {after : Reader} :
      before.Open → before.Ends →
      before.codec.decode want before.ahead = ⟨.ok none, codec, buffer⟩ →
      Codec.missing want codec buffer = none →
      Leaves before codec buffer [] after → after.errored = false → after.readable = false →
      after.eof = true → Course want before (.ended, after)
  | late {met rest : List Arrival} {codec : Codec} {buffer : Bytes} {after : Reader} :
      before.Open → before.source.arrivals = met ++ rest →
      Waits want before met codec buffer → Leaves before codec buffer rest after →
      after.errored = false → after.eof = false → Course want before (.late, after)
  | broken {met rest : List Arrival} {due : Nat} {kind : IoKind} {codec : Codec} {buffer : Bytes}
      {after : Reader} : before.Open →
      before.source.arrivals = met ++ .failure due kind :: rest →
      Waits want before met codec buffer → Leaves before codec buffer rest after →
      after.errored = true → after.eof = false →
      Course want before (.failed (.io (.transport kind)), after)

/-- A reader in the middle of a call, which has met these arrivals. -/
structure Halfway (want : Want) (before : Reader) (met : List Arrival) (reader : Reader) :
    Prop where
  fresh : before.errored = false
  limits : reader.limits = before.limits
  ending : reader.source.ending = before.source.ending
  bytesRead : reader.bytesRead = before.bytesRead
  errored : reader.errored = false
  notes : reader.codec.Notes
  /-- The codec has not taken anything from the item. -/
  again : ∀ more, reader.codec.decode want (reader.buffer ++ more) =
    before.codec.decode want (before.buffer ++ bytesOf met ++ more)
  waits : reader.readable = false → Waits want before met reader.codec reader.buffer
  eof : reader.eof = before.eof
  /-- Behind the end of the stream there is nothing to meet. -/
  kept : before.eof = true → met = [] ∧ reader = before

variable {met rest : List Arrival}

theorem halfway_refl (h : Sound before) (herrored : before.errored = false) :
    Halfway want before [] before where
  fresh := herrored
  limits := rfl
  ending := rfl
  bytesRead := rfl
  errored := herrored
  notes := h.notes
  again more := by simp [bytesOf, Source.bytes]
  waits _ := .inl ⟨rfl, rfl, rfl⟩
  eof := rfl
  kept _ := ⟨rfl, rfl⟩

/-- What the buffer holds says what everything says that has come since the call began. -/
theorem Halfway.decode (h : Halfway want before met reader) :
    reader.codec.decode want reader.buffer =
      before.codec.decode want (before.buffer ++ bytesOf met) := by
  have hagain := h.again []
  rwa [List.append_nil, List.append_nil] at hagain

/-- If that is all that will come, it is what there is ahead. -/
theorem Halfway.decode_ahead (h : Halfway want before met reader)
    (harrivals : before.source.arrivals = met) :
    reader.codec.decode want reader.buffer = before.codec.decode want before.ahead := by
  rw [h.decode, ahead, harrivals]

theorem Halfway.isOpen (h : Halfway want before met reader)
    (hreadable : reader.eof = true → reader.readable = true) : before.Open := by
  refine ⟨h.fresh, fun heof => ?_⟩
  obtain ⟨rfl, rfl⟩ := h.kept heof
  exact hreadable heof

theorem Halfway.isOpen_of_not_eof (h : Halfway want before met reader)
    (heof : reader.eof = false) : before.Open :=
  h.isOpen fun htrue => by
    rw [heof] at htrue
    cases htrue

theorem Halfway.ended (h : Halfway want before met reader) (hsound : Sound before)
    (harrivals : before.source.arrivals = met ++ rest) (heof : reader.eof = true) :
    rest = [] ∧ before.Ends := by
  rw [h.eof] at heof
  obtain ⟨hnone, hends⟩ := hsound.atEnd heof
  rw [hnone] at harrivals
  exact ⟨(List.append_eq_nil_iff.1 harrivals.symm).2, hends⟩

/-- Having found nothing, a reader is as far as before. -/
theorem Halfway.nothing (h : Halfway want before met reader) (heof : reader.eof = false)
    {codec : Codec} {buffer : Bytes}
    (hdecode : reader.codec.decode want reader.buffer = ⟨.ok none, codec, buffer⟩) :
    Halfway want before met { reader with codec, buffer, readable := false } where
  fresh := h.fresh
  limits := h.limits
  ending := h.ending
  bytesRead := h.bytesRead
  errored := h.errored
  notes := h.notes.decode hdecode
  again more := by
    rw [← h.again more]
    exact Codec.decode_again h.notes hdecode more
  waits _ := .inr (h.decode.symm.trans hdecode)
  eof := h.eof
  kept htrue := by
    rw [← h.eof, heof] at htrue
    cases htrue

/-- What arrives belongs to what has been met. -/
theorem Halfway.data (h : Halfway want before met reader) (heof : reader.eof = false) (due : Nat)
    (bytes : Bytes) :
    Halfway want before (met ++ [.data due bytes])
      { reader with buffer := reader.buffer ++ bytes, eof := false, readable := true } where
  fresh := h.fresh
  limits := h.limits
  ending := h.ending
  bytesRead := h.bytesRead
  errored := h.errored
  notes := h.notes
  again more := by
    have hmet : bytesOf (met ++ [.data due bytes]) = bytesOf met ++ bytes := by
      simp [bytesOf, Source.bytes]
    show reader.codec.decode want (reader.buffer ++ bytes ++ more) = _
    rw [hmet, List.append_assoc, h.again]
    simp only [List.append_assoc]
  waits hreadable := by cases hreadable
  eof := heof.symm.trans h.eof
  kept htrue := by
    rw [← h.eof, heof] at htrue
    cases htrue

/-- What a look at the buffer comes to in the middle of a call. -/
theorem Halfway.drainage (h : Halfway want before met reader) (hsound : Sound before)
    (harrivals : before.source.arrivals = met ++ rest) (clock : Nat) :
    (∃ polled after, reader.drain want = (some polled, after) ∧
        Course want before (polled, after.leave rest clock)) ∨
      ∃ after, reader.drain want = (none, after) ∧ after.readable = false ∧
        Halfway want before met after := by
  have hdrainage := drainage_drain want reader
  have hended := h.ended hsound harrivals
  generalize hdrain : reader.drain want = drained at hdrainage
  cases hdrainage with
  | owed herrored =>
    rw [h.errored] at herrored
    cases herrored
  | quiet _ hreadable => exact .inr ⟨_, rfl, hreadable, h⟩
  | nothing _ heof hdecode => exact .inr ⟨_, rfl, rfl, h.nothing heof hdecode⟩
  | item herrored hreadable hdecode =>
    exact .inl ⟨_, _, rfl, .item (h.isOpen fun _ => hreadable) harrivals
      (h.decode.symm.trans hdecode) ⟨h.limits, h.ending, h.bytesRead, rfl, rfl, rfl⟩
      herrored hreadable hended⟩
  | refused _ hreadable hdecode =>
    exact .inl ⟨_, _, rfl, .refused (h.isOpen fun _ => hreadable) harrivals
      (h.decode.symm.trans hdecode) ⟨h.limits, h.ending, h.bytesRead, rfl, rfl, rfl⟩ rfl hended⟩
  | cut _ heof hreadable hdecode hmissing =>
    obtain ⟨rfl, hends⟩ := hended heof
    rw [List.append_nil] at harrivals
    exact .inl ⟨_, _, rfl, .cut (h.isOpen fun _ => hreadable) hends
      ((h.decode_ahead harrivals).symm.trans hdecode) hmissing
      ⟨h.limits, h.ending, h.bytesRead, rfl, rfl, rfl⟩ rfl heof⟩
  | clean herrored heof hreadable hdecode hmissing =>
    obtain ⟨rfl, hends⟩ := hended heof
    rw [List.append_nil] at harrivals
    exact .inl ⟨_, _, rfl, .clean (h.isOpen fun _ => hreadable) hends
      ((h.decode_ahead harrivals).symm.trans hdecode) hmissing
      ⟨h.limits, h.ending, h.bytesRead, rfl, rfl, rfl⟩ herrored rfl heof⟩

theorem pollEnd_none (want : Want) (clock : Nat) (reader : Reader) :
    reader.pollEnd want none clock =
      if reader.eof then (.ended, reader.leave [] clock)
      else
        match { reader.leave [] clock with eof := true, readable := true }.drain want with
        | (some polled, reader) => (polled, reader)
        | (none, reader) => (.ended, reader) := by
  unfold pollEnd
  cases reader.source.ending <;> rfl

/-- A source that has nothing more to give, for a reader that has just noticed. -/
theorem Halfway.course_ended (h : Halfway want before met reader) (hends : before.Ends)
    (harrivals : before.source.arrivals = met) (heof : reader.eof = false) (clock : Nat)
    {polled : Option Polled} {after : Reader}
    (hdrain : { reader.leave [] clock with eof := true, readable := true }.drain want =
      (polled, after)) :
    ∃ result, polled = some result ∧ Course want before (result, after) := by
  have hopen := h.isOpen_of_not_eof heof
  have hmet : before.source.arrivals = met ++ [] := by rw [harrivals, List.append_nil]
  have hdrainage :=
    drainage_drain want { reader.leave [] clock with eof := true, readable := true }
  rw [hdrain] at hdrainage
  cases hdrainage with
  | owed herrored =>
    have htrue : reader.errored = true := herrored
    rw [h.errored] at htrue
    cases htrue
  | quiet _ hreadable => cases hreadable
  | nothing _ hfalse => cases hfalse
  | item herrored _ hdecode =>
    exact ⟨_, rfl, .item hopen hmet (h.decode.symm.trans hdecode)
      ⟨h.limits, h.ending, h.bytesRead, rfl, rfl, rfl⟩ herrored rfl fun _ => ⟨rfl, hends⟩⟩
  | refused herrored _ hdecode =>
    exact ⟨_, rfl, .refused hopen hmet (h.decode.symm.trans hdecode)
      ⟨h.limits, h.ending, h.bytesRead, rfl, rfl, rfl⟩ rfl fun _ => ⟨rfl, hends⟩⟩
  | cut _ _ _ hdecode hmissing =>
    exact ⟨_, rfl, .cut hopen hends ((h.decode_ahead harrivals).symm.trans hdecode) hmissing
      ⟨h.limits, h.ending, h.bytesRead, rfl, rfl, rfl⟩ rfl rfl⟩
  | clean herrored _ _ hdecode hmissing =>
    exact ⟨_, rfl, .clean hopen hends ((h.decode_ahead harrivals).symm.trans hdecode) hmissing
      ⟨h.limits, h.ending, h.bytesRead, rfl, rfl, rfl⟩ herrored rfl rfl⟩

theorem Halfway.course_pollEnd (h : Halfway want before met reader) (hsound : Sound before)
    (hreadable : reader.readable = false) (harrivals : before.source.arrivals = met)
    (start clock : Nat) :
    Course want before
      (reader.pollEnd want (deadlineFrom before.limits.readTimeout start) clock) := by
  by_cases hends : before.Ends
  · have hnever : reader.pollEnd want (deadlineFrom before.limits.readTimeout start) clock =
        reader.pollEnd want none clock := by
      rcases hends with hclosed | hnone
      · simp [pollEnd, h.ending, hclosed]
      · rw [hnone]
        rfl
    rw [hnever, pollEnd_none]
    cases heof : reader.eof with
    | true =>
      rw [h.eof] at heof
      obtain ⟨rfl, rfl⟩ := h.kept heof
      exact .finished h.fresh heof hreadable ⟨rfl, rfl, rfl, rfl, rfl, rfl⟩ h.errored hreadable heof
    | false =>
      cases hdrain : { reader.leave [] clock with eof := true, readable := true }.drain want with
      | mk polled after =>
        obtain ⟨result, rfl, hcourse⟩ := h.course_ended hends harrivals heof clock hdrain
        exact hcourse
  · have hsilent : before.source.ending = .silent := by
      cases hending : before.source.ending with
      | closed => exact absurd (.inl hending) hends
      | silent => rfl
    obtain ⟨timeout, htimeout⟩ : ∃ timeout, before.limits.readTimeout = some timeout :=
      Option.ne_none_iff_exists'.1 fun hnone => hends (.inr hnone)
    have heof : reader.eof = false := by
      refine Bool.eq_false_iff.2 fun htrue => hends ?_
      rw [h.eof] at htrue
      exact (hsound.atEnd htrue).2
    have hmet : before.source.arrivals = met ++ [] := by rw [harrivals, List.append_nil]
    simp only [pollEnd, h.ending, hsilent, htimeout, deadlineFrom, Option.map_some]
    exact .late (h.isOpen_of_not_eof heof) hmet (h.waits hreadable)
      ⟨h.limits, h.ending, h.bytesRead, rfl, rfl, rfl⟩ h.errored heof

/-- **From the middle of a call, it goes on in one of these ways.** -/
theorem Halfway.course_pollFrom (h : Halfway want before met reader) (hsound : Sound before)
    (harrivals : before.source.arrivals = met ++ rest) (start clock : Nat) :
    Course want before
      (pollFrom want (deadlineFrom before.limits.readTimeout start) rest clock reader) := by
  -- on what is still to arrive; what arrives joins what has been met
  induction rest generalizing met reader clock with
  | nil =>
    rcases h.drainage hsound harrivals clock with
      ⟨polled, after, hdrain, hcourse⟩ | ⟨after, hdrain, hreadable, hafter⟩
    · rw [pollFrom_of_yield hdrain]
      exact hcourse
    · rw [List.append_nil] at harrivals
      rw [pollFrom_nil hdrain]
      exact hafter.course_pollEnd hsound hreadable harrivals start clock
  | cons arrival rest ih =>
    rcases h.drainage hsound harrivals clock with
      ⟨polled, after, hdrain, hcourse⟩ | ⟨after, hdrain, hreadable, hafter⟩
    · rw [pollFrom_of_yield hdrain]
      exact hcourse
    · have heof : after.eof = false := Bool.eq_false_iff.2 fun htrue => by
        cases (hafter.ended hsound harrivals htrue).1
      have hopen := hafter.isOpen_of_not_eof heof
      have hwaits := hafter.waits hreadable
      cases hlate : isLate (deadlineFrom before.limits.readTimeout start) clock arrival.due with
      | true =>
        rw [pollFrom_of_late hdrain hlate]
        exact .late hopen harrivals hwaits
          ⟨hafter.limits, hafter.ending, hafter.bytesRead, rfl, rfl, rfl⟩ hafter.errored heof
      | false =>
        cases arrival with
        | failure due kind =>
          rw [pollFrom_of_failure hdrain hlate]
          exact .broken hopen harrivals hwaits
            ⟨hafter.limits, hafter.ending, hafter.bytesRead, rfl, rfl, rfl⟩ rfl heof
        | data due bytes =>
          have hmore : before.source.arrivals = (met ++ [.data due bytes]) ++ rest := by
            rw [harrivals, List.append_assoc]
            rfl
          rw [pollFrom_of_data hdrain hlate]
          exact ih (hafter.data heof due bytes) hmore _

/-- **A poll goes in one of these ways**, in whatever state an earlier call has left the reader. -/
theorem course_poll (h : Sound before) (want : Want) : Course want before (before.poll want) := by
  cases herrored : before.errored with
  | false => exact (halfway_refl h herrored).course_pollFrom h rfl _ _
  | true =>
    have hdrain : before.drain want =
        (some .ended, { before with errored := false, readable := false }) := by
      rw [drain, herrored, if_pos rfl]
    rw [poll, pollFrom_of_yield hdrain]
    exact .owed herrored ⟨rfl, rfl, rfl, rfl, rfl, rfl⟩ rfl rfl rfl

theorem Leaves.ends {codec : Codec} {buffer : Bytes} {after : Reader}
    (h : Leaves before codec buffer rest after) (hends : before.Ends) : after.Ends :=
  hends.kept ⟨h.limits, h.ending⟩

theorem Leaves.sound {codec : Codec} {buffer : Bytes} {after : Reader}
    (h : Leaves before codec buffer rest after) (hnotes : codec.Notes)
    (hatEnd : after.eof = true → rest = [] ∧ before.Ends) : Sound after := by
  refine ⟨?_, fun heof => ?_⟩
  · rw [h.codec]
    exact hnotes
  · obtain ⟨rfl, hends⟩ := hatEnd heof
    exact ⟨h.arrivals, h.ends hends⟩

theorem Waits.notes {codec : Codec} {buffer : Bytes} (h : Waits want before met codec buffer)
    (hsound : Sound before) : codec.Notes := by
  rcases h with ⟨-, rfl, -⟩ | hdecode
  · exact hsound.notes
  · exact hsound.notes.decode hdecode

/-- **However a call goes, the next one finds a reader that holds together.** -/
theorem Course.sound {polled : Polled} {after : Reader} (h : Course want before (polled, after))
    (hsound : Sound before) : Sound after := by
  cases h with
  | owed _ hleaves _ _ heof =>
    refine hleaves.sound hsound.notes fun htrue => ?_
    rw [heof] at htrue
    exact hsound.atEnd htrue
  | finished _ heof _ hleaves =>
    exact hleaves.sound hsound.notes fun _ => ⟨rfl, (hsound.atEnd heof).2⟩
  | item _ _ hdecode hleaves _ _ hended => exact hleaves.sound (hsound.notes.decode hdecode) hended
  | refused _ _ hdecode hleaves _ hended => exact hleaves.sound (hsound.notes.decode hdecode) hended
  | cut _ hends hdecode _ hleaves =>
    exact hleaves.sound (hsound.notes.decode hdecode) fun _ => ⟨rfl, hends⟩
  | clean _ hends hdecode _ hleaves =>
    exact hleaves.sound (hsound.notes.decode hdecode) fun _ => ⟨rfl, hends⟩
  | late _ _ hwaits hleaves _ heof =>
    refine hleaves.sound (hwaits.notes hsound) fun htrue => ?_
    rw [heof] at htrue
    cases htrue
  | broken _ _ hwaits hleaves _ heof =>
    refine hleaves.sound (hwaits.notes hsound) fun htrue => ?_
    rw [heof] at htrue
    cases htrue

theorem Course.leaves {polled : Polled} {after : Reader} (h : Course want before (polled, after)) :
    ∃ codec buffer rest, Leaves before codec buffer rest after := by
  cases h with
  | owed _ hleaves => exact ⟨_, _, _, hleaves⟩
  | finished _ _ _ hleaves => exact ⟨_, _, _, hleaves⟩
  | item _ _ _ hleaves => exact ⟨_, _, _, hleaves⟩
  | refused _ _ _ hleaves => exact ⟨_, _, _, hleaves⟩
  | cut _ _ _ _ hleaves => exact ⟨_, _, _, hleaves⟩
  | clean _ _ _ _ hleaves => exact ⟨_, _, _, hleaves⟩
  | late _ _ _ hleaves => exact ⟨_, _, _, hleaves⟩
  | broken _ _ _ hleaves => exact ⟨_, _, _, hleaves⟩

/-- Only a call that its deadline cuts off is reported as late. -/
theorem Course.kind_ne_timeout {error : BridgeError} {after : Reader}
    (h : Course want before (.failed error, after)) (hsound : Sound before) :
    error.kind ≠ .timeout := by
  cases h with
  | refused _ _ hdecode =>
    obtain ⟨length, limit, rfl⟩ := Codec.eq_frameTooLarge_of_decode hsound.notes hdecode
    simp [BridgeError.kind]
  | cut _ _ _ hmissing =>
    obtain ⟨expected, received, rfl⟩ := Codec.eq_connectionClosed_of_missing hmissing
    simp [BridgeError.kind]
  | broken => simp [BridgeError.kind]

/-! ## Calls -/

end Reader

/-- What a call asks its codec for. -/
def Request.want : Request → Want
  | .word => .word
  | .frame | .frameCapped _ => .frame

/-- The cap that a call is made under. -/
def Request.cap (usual : Option Nat) : Request → Option Nat
  | .frameCapped cap => cap
  | .frame | .word => usual

/-- What a call makes of the bytes that it has got. -/
def Request.made : Request → Bytes → Item
  | .word, bytes => .word (Bytes.toNatBE bytes)
  | .frame, bytes | .frameCapped _, bytes => .payload bytes

namespace Reader

variable {reader : Reader}

/-- What a call makes of its poll: the item is counted, and the usual cap is in force again. -/
def conclude (request : Request) (usual : Option Nat) :
    Polled × Reader → Except BridgeError Item × Reader
  | (.item bytes, after) =>
    (.ok (request.made bytes),
      { after.setCap usual with bytesRead := after.bytesRead + (request.made bytes).size })
  | (.failed error, after) => (.error error, after.setCap usual)
  | (.ended, after) => (.error (.connectionClosed prefixBytes 0), after.setCap usual)
  | (.late, after) =>
    (.error (.timeout (after.limits.readTimeout.getD default)), after.setCap usual)

theorem setCap_self {cap : Option Nat} (h : reader.codec.cap = cap) :
    reader.setCap cap = reader := by
  subst h
  rfl

theorem spares_poll (want : Want) (reader : Reader) : Spares reader (reader.poll want).2 :=
  spares_pollFrom ..

/-- **A call is a poll under its cap.** -/
theorem call_eq (h : Settled reader) (request : Request) :
    reader.call request = conclude request reader.limits.maxFrameBytes
      ((reader.setCap (request.cap reader.limits.maxFrameBytes)).poll request.want) := by
  cases request with
  | frame =>
    have hspares := spares_poll .frame reader
    rw [Request.cap, setCap_self h, call, readFrame, next, Request.want]
    generalize reader.poll .frame = result at hspares
    obtain ⟨polled, after⟩ := result
    have hcap := setCap_self (hspares.cap.trans h)
    cases polled <;> simp [conclude, hcap, Request.made, Item.size, Except.map, Nat.add_assoc]
  | word =>
    have hspares := spares_poll .word reader
    rw [Request.cap, setCap_self h, call, readWord, next, Request.want]
    generalize reader.poll .word = result at hspares
    obtain ⟨polled, after⟩ := result
    have hcap := setCap_self (hspares.cap.trans h)
    cases polled <;> simp [conclude, hcap, Request.made, Item.size, Except.map]
  | frameCapped cap =>
    have hspares := spares_poll .frame (reader.setCap cap)
    have hlimits : (reader.setCap cap).limits = reader.limits := rfl
    rw [Request.cap, call, readFrameCapped, readFrame, next, Request.want]
    generalize (reader.setCap cap).poll .frame = result at hspares
    obtain ⟨polled, after⟩ := result
    have hafter : after.limits = reader.limits := hspares.limits
    cases polled <;>
      simp [conclude, setCap, hafter, Request.made, Item.size, Except.map, Nat.add_assoc]

/-- A reader between any two calls. -/
structure Ready (reader : Reader) : Prop where
  settled : Settled reader
  sound : Sound reader

theorem ready_new (limits : Limits) (source : Source) : Ready (new limits source) :=
  ⟨settled_new limits source, sound_new limits source⟩

/-- The reader as a call finds it that is made under these limits. -/
abbrev prepared (request : Request) (limits : Limits) (reader : Reader) : Reader :=
  reader.setCap (request.cap limits.maxFrameBytes)

theorem Ready.prepared (h : Ready reader) (request : Request) (limits : Limits) :
    Sound (reader.prepared request limits) := ⟨h.sound.notes, h.sound.atEnd⟩

/-- **How a call goes.** -/
theorem Ready.course (h : Ready reader) (request : Request) :
    ∃ poll, (reader.prepared request reader.limits).poll request.want = poll ∧
      reader.call request = conclude request reader.limits.maxFrameBytes poll ∧
        Course request.want (reader.prepared request reader.limits) poll :=
  ⟨_, rfl, call_eq h.settled request, course_poll (h.prepared request reader.limits) request.want⟩

theorem Ready.call (h : Ready reader) (request : Request) : Ready (reader.call request).2 := by
  refine ⟨(counts_call reader request).settled h.settled, ?_⟩
  obtain ⟨⟨polled, after⟩, -, hcall, hcourse⟩ := h.course request
  have hsound := hcourse.sound (h.prepared request reader.limits)
  rw [hcall]
  cases polled <;> exact ⟨hsound.notes, hsound.atEnd⟩

end Reader
end BatchBridge.Frame
