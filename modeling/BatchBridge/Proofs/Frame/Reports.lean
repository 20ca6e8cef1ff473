import BatchBridge.Proofs.Frame.History

/-!
# What the errors of a reader report

An error names an item: its size, and how much of it there is.  After any calls, what an error says
of the item at the place of the reader is true but for three things.  A call that has failed owes an
end of the stream, which the next call reports wherever the stream is; once the end has been
reported, it is reported again; and a length that has been refused is reported in the place of a
later one if a word has been read over it.

* `Tells` — what an error says after the calls in a log.
* **`Reader.error_tells`** — that is what it says, for every source and after any calls.
-/

namespace BatchBridge.Frame

/-- What an error of a call says, which is made after the calls in the log and leaves these
arrivals. -/
inductive Tells (entries : List Entry) (want : Want) (cap : Option Nat) (before : Reader)
    (left : List Arrival) : BridgeError → Prop where
  /-- A call that has failed owes an end of the stream, and the next one reports it. -/
  | owed {entry : Entry} : entries.getLast? = some entry → entry.Fails →
      Tells entries want cap before left (.connectionClosed prefixBytes 0)
  /-- The stream has ended, and the last call has reported that. -/
  | finished {entry : Entry} : before.source.arrivals = [] → before.Ends →
      entries.getLast? = some entry → entry.ReportsEnd →
      Tells entries want cap before left (.connectionClosed prefixBytes 0)
  /-- The stream has ended before the item has. -/
  | cut {expected size received : Nat} : left = [] → before.Ends →
      before.codec.awaited want before.ahead = (size, received) → received < size →
      (expected = size ∨ want = .frame ∧ Stale expected entries) →
      Tells entries want cap before left (.connectionClosed expected received)
  /-- The length in front is above the cap. -/
  | tooLarge {told length limit : Nat} : want = .frame → before.codec.phase = .head →
      declared? before.ahead = some length → cap = some limit → limit < length →
      (told = length ∨ Stale told entries) →
      Tells entries want cap before left (.frameTooLarge told limit)
  /-- The connection has failed. -/
  | transport {error : BridgeError} : error.IsTransport → Tells entries want cap before left error

namespace Codec

variable {codec : Codec} {input : Bytes}

/-- Before a length, the frame is the one that is declared. -/
theorem awaited_of_declared {length : Nat} (hhead : codec.phase = .head)
    (h : declared? input = some length) : (codec.awaited .frame input).1 = length := by
  rw [declared?, Option.map_eq_some_iff] at h
  obtain ⟨⟨front, behind⟩, hsplit, rfl⟩ := h
  simp [awaited, started?, hhead, hsplit]

theorem awaited_of_body {length : Nat} (h : codec.phase = .body length) (input : Bytes) :
    (codec.awaited .frame input).1 = length := by
  simp [awaited, started?, h]

end Codec

variable {usual : Option Nat} {entries : List Entry} {codec : Codec} {ahead : Bytes}

/-- What has been noted is the size of the frame that is being read, or it is stale. -/
theorem Recalls.size_or_stale (h : Recalls usual entries codec ahead) {noted : Nat}
    (hnoted : codec.pending = some noted) :
    noted = (codec.awaited .frame ahead).1 ∨ Stale noted entries := by
  cases hphase : codec.phase with
  | head =>
    rcases (h.head noted hphase hnoted).2 with hdeclared | hstale
    · exact .inl (Codec.awaited_of_declared hphase hdeclared).symm
    · exact .inr hstale
  | body length =>
    rw [Codec.awaited_of_body hphase]
    exact h.noted length noted hphase hnoted

namespace Reader

variable {limits : Limits} {source : Source} {reader : Reader}

/-- What is missing at the end of the stream. -/
theorem History.tells_of_missing (h : History limits source entries reader) {request : Request}
    {codec : Codec} {buffer : Bytes} {left : List Arrival} {error : BridgeError}
    (hopen : (reader.prepared request limits).Open) (hleft : left = []) (hends : reader.Ends)
    (hdecode : (reader.prepared request limits).codec.decode request.want reader.ahead =
      ⟨.ok none, codec, buffer⟩)
    (hmissing : Codec.missing request.want codec buffer = some error ∨
      Codec.missing request.want codec buffer = none ∧ error = .connectionClosed prefixBytes 0) :
    Tells entries request.want (request.cap limits.maxFrameBytes) reader left error := by
  have hattempt :=
    Codec.attempted_decode (h.ready.prepared request limits).notes request.want reader.ahead
  rw [hdecode] at hattempt
  have hsize : reader.codec.awaited request.want reader.ahead = (_, _) :=
    Prod.ext rfl rfl
  have hshort := Codec.awaited_lt_of_attempted hattempt
  rcases Codec.missing_of_attempted hattempt with ⟨hnone, hclean⟩ | ⟨expected, hsome, hexpected⟩
  · rcases hmissing with hmissing | ⟨-, rfl⟩
    · rw [hnone] at hmissing
      cases hmissing
    · exact .cut hleft hends hclean (by decide) (.inl rfl)
  · rcases hmissing with hmissing | ⟨hmissing, -⟩
    · rw [hsome] at hmissing
      obtain rfl := Option.some.inj hmissing
      refine .cut hleft hends hsize hshort ?_
      rcases hexpected with hexpected | ⟨hwant, hnoted⟩
      · exact .inl hexpected
      · have hrecalls := h.recalls.resolve_left fun hover => hover.2 hopen
        rw [hwant]
        exact (hrecalls.size_or_stale hnoted).imp_right fun hstale => ⟨rfl, hstale⟩
    · rw [hsome] at hmissing
      cases hmissing

/-- **An error tells what there is at the place of the reader**, after the calls in the log. -/
theorem History.tells (h : History limits source entries reader) {request : Request}
    {error : BridgeError} (hcall : (reader.call request).1 = .error error) :
    Tells entries request.want (request.cap limits.maxFrameBytes) reader
      (reader.call request).2.source.arrivals error := by
  have hsound := h.ready.prepared request limits
  obtain ⟨poll, hpoll, hcourse⟩ := h.course request
  rw [hpoll] at hcall ⊢
  cases hcourse with
  | owed herrored =>
    obtain ⟨entry, hlast, hfails⟩ := h.owed herrored
    cases hcall
    exact .owed hlast hfails
  | finished herrored heof hreadable =>
    obtain ⟨entry, hlast, hend⟩ := h.finished herrored heof hreadable
    obtain ⟨hnone, hends⟩ := h.ready.sound.atEnd heof
    cases hcall
    exact .finished hnone hends hlast hend
  | item => cases hcall
  | @refused met rest _ codec buffer after hopen harrivals hdecode =>
    cases hcall
    have hattempt := Codec.attempted_decode hsound.notes request.want
      ((reader.prepared request limits).buffer ++ bytesOf met)
    rw [hdecode] at hattempt
    generalize hwant : request.want = want at hattempt
    cases hattempt with
    | @refused length limit behind hhead hstarted hcap hlimit =>
      have hdeclared : declared? reader.ahead = some length := by
        have hfront := Codec.declared?_of_started? hhead hstarted (bytesOf rest)
        rwa [← ahead_of_arrivals harrivals] at hfront
      refine .tooLarge rfl hhead hdeclared hcap hlimit ?_
      cases hnoted : (reader.prepared request limits).codec.pending with
      | none => exact .inl rfl
      | some noted =>
        have hrecalls := h.recalls.resolve_left fun hover => hover.2 hopen
        have hsize : reader.codec.awaited .frame reader.ahead = (length, _) :=
          Prod.ext (Codec.awaited_of_declared hhead hdeclared) rfl
        have hstale := hrecalls.size_or_stale hnoted
        rwa [hsize] at hstale
  | cut hopen hends hdecode hmissing hleaves =>
    cases hcall
    exact h.tells_of_missing hopen hleaves.arrivals hends hdecode (.inl hmissing)
  | clean hopen hends hdecode hmissing hleaves =>
    cases hcall
    exact h.tells_of_missing hopen hleaves.arrivals hends hdecode (.inr ⟨hmissing, rfl⟩)
  | late =>
    cases hcall
    exact .transport .late
  | broken =>
    cases hcall
    exact .transport .broken

/-- **What the errors of a reader report is what there is at its place**, but for an end of the
stream that is owed or reported again, and for a refused length that a word has been read over.
This is so for every source, its failures and its times, and behind any calls at all; the place is
counted from what the calls have given. -/
theorem error_tells (limits : Limits) (source : Source) (requests : List Request)
    (request : Request) (error : BridgeError) :
    let reader := (new limits source).afterCalls requests
    (reader.call request).1 = .error error →
      Placed source.bytes reader.bytesRead reader.codec.phase reader.ahead ∧
        Tells ((new limits source).log requests) request.want (request.cap limits.maxFrameBytes)
          reader (reader.call request).2.source.arrivals error := by
  intro reader hcall
  have hhistory := history_afterCalls limits source requests
  exact ⟨hhistory.placed, hhistory.tells hcall⟩

/-- A stream that ends in the payload of a frame, behind a call that timed out there. -/
theorem error_tells_two_of_five :
    let limits : Limits := ⟨none, some ⟨50⟩⟩
    let source : Source := .new [.data 0 [0, 0, 0, 5, 1], .data 80 [2]] .closed
    let reader := (new limits source).afterCalls [.frame]
    (reader.call .frame).1 = .error (.connectionClosed 5 2) ∧
      Placed [0, 0, 0, 5, 1, 2] 0 (.body 5) [1, 2] ∧
        Tells ((new limits source).log [.frame]) .frame none reader [] (.connectionClosed 5 2) :=
  ⟨rfl, error_tells ⟨none, some ⟨50⟩⟩ (.new [.data 0 [0, 0, 0, 5, 1], .data 80 [2]] .closed)
    [.frame] .frame (.connectionClosed 5 2) rfl⟩

/-- A length that has been refused is reported in the place of the one behind it, if a word has been
read over it; and the call behind a refusal reports an end of the stream that is not there. -/
theorem stale_length_reported :
    let reader := new ⟨some 16, none⟩ (.ofBytes [0, 0, 0, 20, 0, 0, 0, 30])
    (reader.log [.frame, .frame, .word, .frame]).map Entry.outcome =
        [.error (.frameTooLarge 20 16), .error (.connectionClosed 4 0), .ok (.word 20),
          .error (.frameTooLarge 20 16)] ∧
      declared? (reader.afterCalls [.frame, .frame, .word]).ahead = some 30 ∧
        (reader.afterCalls [.frame]).ahead = [0, 0, 0, 20, 0, 0, 0, 30] :=
  ⟨rfl, rfl, rfl⟩

end Reader
end BatchBridge.Frame
