import BatchBridge.Proofs.Frame.Course

/-!
# The history of a reader

A caller may go on after a call that has failed or timed out, and may ask for something else then.
What the reader has kept from earlier calls, and what it still owes, is told here by the log of the
calls so far.

* `Reader.log` — what calls give, also behind one that fails.
* `Lasts` — something has happened, and no payload has been given since.
* `Interrupted`, `Refused`, `Stale` — a length has been taken off the stream by a call that the
  connection then failed; a length has been refused; it has been refused, and words have been read
  over it.
* `Reader.Placed` — where in all bytes of the source a reader is.
* `Reader.Recalls` — what the codec has noted goes back to one of these calls.
* **`Reader.History.call`** — every call keeps all this, and **`Reader.history_afterCalls`**, so do
  all calls.
* **`Reader.payload_within_cap`** — a frame is within the cap of the call that gives it, or of the
  interrupted call that took its length.
-/

namespace BatchBridge.Frame

/-! ## Logs -/

/-- A call that has been made. -/
structure Entry where
  request : Request
  outcome : Except BridgeError Item
  /-- The count of bytes after the call. -/
  bytesRead : Nat

namespace Entry

/-- It has given a payload. -/
def GivesPayload (entry : Entry) : Prop := ∃ payload, entry.outcome = .ok (.payload payload)

/-- It has given a word. -/
def GivesWord (entry : Entry) : Prop := ∃ number, entry.outcome = .ok (.word number)

/-- It has failed, and not for its time. -/
def Fails (entry : Entry) : Prop :=
  ∃ error, entry.outcome = .error error ∧ error.kind ≠ .timeout

/-- It has reported an end of the stream, before a length. -/
def ReportsEnd (entry : Entry) : Prop :=
  entry.outcome = .error (.connectionClosed prefixBytes 0)

theorem not_givesPayload_of_error {entry : Entry} {error : BridgeError}
    (h : entry.outcome = .error error) : ¬entry.GivesPayload := by
  rintro ⟨payload, hpayload⟩
  rw [h] at hpayload
  cases hpayload

theorem GivesWord.not_givesPayload {entry : Entry} (h : entry.GivesWord) : ¬entry.GivesPayload := by
  obtain ⟨number, hword⟩ := h
  rintro ⟨payload, hpayload⟩
  rw [hword] at hpayload
  cases hpayload

end Entry

/-- What calls give, one after the other, also behind one that fails. -/
def Reader.log : List Request → Reader → List Entry
  | [], _ => []
  | request :: requests, reader =>
    let (outcome, after) := reader.call request
    ⟨request, outcome, after.bytesRead⟩ :: log requests after

/-- A call has done something, seen together with the calls before it, and no payload has been given
since. -/
def Lasts (cause : List Entry → Entry → Prop) (entries : List Entry) : Prop :=
  ∃ done entry since, entries = done ++ entry :: since ∧ cause done entry ∧
    ∀ later ∈ since, ¬later.GivesPayload

variable {cause : List Entry → Entry → Prop} {entries : List Entry} {entry : Entry}

theorem lasts_of_last (h : cause entries entry) : Lasts cause (entries ++ [entry]) :=
  ⟨entries, entry, [], rfl, h, fun _ hmem => by cases hmem⟩

theorem Lasts.append (h : Lasts cause entries) (hentry : ¬entry.GivesPayload) :
    Lasts cause (entries ++ [entry]) := by
  obtain ⟨done, first, since, rfl, hcause, hsince⟩ := h
  refine ⟨done, first, since ++ [entry], by simp, hcause, fun later hmem => ?_⟩
  rcases List.mem_append.1 hmem with hmem | hmem
  · exact hsince later hmem
  · rw [List.mem_singleton.1 hmem]
    exact hentry

/-- A length has been taken off the stream by a call for a frame, under a cap that admits it, and
then the connection has failed that call. -/
def Interrupted (usual : Option Nat) (length : Nat) : List Entry → Prop :=
  Lasts fun _ entry =>
    entry.request.want = .frame ∧ length ≤ (entry.request.cap usual).getD maxLength ∧
      ∃ error, entry.outcome = .error error ∧ error.IsTransport

/-- A length has been refused. -/
def Refused (length : Nat) : List Entry → Prop :=
  Lasts fun _ entry => ∃ limit, entry.outcome = .error (.frameTooLarge length limit)

/-- A length has been refused, and a word has been read over it since. -/
def Stale (length : Nat) : List Entry → Prop :=
  Lasts fun done entry => Refused length done ∧ entry.GivesWord

namespace Codec

variable {codec : Codec} {input : Bytes}

/-- The length in front of a payload is in front of it, or has been taken off. -/
theorem started?_eq_some_iff {length : Nat} {behind : Bytes} :
    codec.started? input = some (length, behind) ↔
      codec.phase = .body length ∧ input = behind ∨
        codec.phase = .head ∧ ∃ front, input = front ++ behind ∧ front.length = prefixBytes ∧
          Bytes.toNatBE front = length := by
  obtain ⟨cap, phase, pending⟩ := codec
  cases phase with
  | body taken => simp [started?]
  | head =>
    simp only [started?, Option.map_eq_some_iff, Prod.exists, Bytes.split?_eq_some_iff,
      Prod.mk.injEq, reduceCtorEq, false_and, false_or, true_and]
    constructor
    · rintro ⟨front, rest, ⟨hinput, hprefix⟩, hlength, rfl⟩
      exact ⟨front, hinput, hprefix, hlength⟩
    · rintro ⟨front, hinput, hprefix, hlength⟩
      exact ⟨front, behind, ⟨hinput, hprefix⟩, hlength, rfl⟩

/-- Before a length, it is the one that stands in front. -/
theorem declared?_of_started? {length : Nat} {behind : Bytes} (hhead : codec.phase = .head)
    (h : codec.started? input = some (length, behind)) (more : Bytes) :
    declared? (input ++ more) = some length := by
  rcases started?_eq_some_iff.1 h with ⟨hbody, -⟩ | ⟨-, front, rfl, hprefix, rfl⟩
  · rw [hhead] at hbody
    cases hbody
  · have hsplit : Bytes.split? prefixBytes (front ++ behind ++ more) =
        some (front, behind ++ more) :=
      Bytes.split?_eq_some_iff.2 ⟨List.append_assoc .., hprefix⟩
    rw [declared?, hsplit]
    rfl

end Codec

/-- What a codec has noted goes back to calls in the log. -/
structure Recalls (usual : Option Nat) (entries : List Entry) (codec : Codec) (ahead : Bytes) :
    Prop where
  body : ∀ length, codec.phase = .body length → Interrupted usual length entries
  head : ∀ noted, codec.phase = .head → codec.pending = some noted →
    Refused noted entries ∧ (declared? ahead = some noted ∨ Stale noted entries)
  noted : ∀ length noted, codec.phase = .body length → codec.pending = some noted →
    noted = length ∨ Stale noted entries

/-- Where in the input a codec is that has these bytes ahead: behind the items that have been
counted, and behind the length of its frame.  Words may have been read behind such a length. -/
inductive Placed (input : Bytes) (counted : Nat) : Phase → Bytes → Prop where
  | head {done ahead : Bytes} : input = done ++ ahead → done.length = counted →
      Placed input counted .head ahead
  | body {done front words ahead : Bytes} : input = done ++ front ++ words ++ ahead →
      front.length = prefixBytes → done.length + words.length = counted →
      Placed input counted (.body (Bytes.toNatBE front)) ahead

/-- What an item takes up in the input, if there is one. -/
def taken (want : Want) : Except BridgeError (Option Bytes) → Nat
  | .ok (some item) =>
    match want with
    | .frame => prefixBytes + item.length
    | .word => prefixBytes
  | _ => 0

/-- How a call reports what its codec has said last. -/
inductive Entry.Reports (entry : Entry) : Except BridgeError (Option Bytes) → Prop where
  | item {bytes : Bytes} : entry.outcome = .ok (entry.request.made bytes) →
      Reports entry (.ok (some bytes))
  | refused {error : BridgeError} : entry.outcome = .error error → Reports entry (.error error)
  | failed {error : BridgeError} : entry.outcome = .error error → error.IsTransport →
      Reports entry (.ok none)

namespace Entry

theorem Reports.not_givesPayload {entry : Entry} (h : entry.Reports (.ok none)) :
    ¬entry.GivesPayload := by
  cases h with
  | failed houtcome => exact not_givesPayload_of_error houtcome

theorem Reports.givesWord {entry : Entry} {bytes : Bytes} (h : entry.Reports (.ok (some bytes)))
    (hwant : entry.request.want = .word) : entry.GivesWord := by
  cases h with
  | item houtcome =>
    refine ⟨Bytes.toNatBE bytes, houtcome.trans ?_⟩
    cases hrequest : entry.request with
    | word => rfl
    | frame =>
      rw [hrequest] at hwant
      cases hwant
    | frameCapped =>
      rw [hrequest] at hwant
      cases hwant

end Entry

section

variable {input behind : Bytes} {counted : Nat}

theorem Placed.word {phase : Phase} {word ahead : Bytes}
    (h : Placed input counted phase (word ++ ahead)) (hlength : word.length = prefixBytes) :
    Placed input (counted + prefixBytes) phase ahead := by
  cases h with
  | @head done _ hinput hdone =>
    have hall : input = (done ++ word) ++ ahead := by rw [hinput, List.append_assoc]
    exact .head hall (by rw [List.length_append, hdone, hlength])
  | @body done front words _ hinput hfront hdone =>
    have hall : input = done ++ front ++ (words ++ word) ++ ahead := by
      rw [hinput]
      simp only [List.append_assoc]
    refine .body hall hfront ?_
    rw [List.length_append, ← Nat.add_assoc, hdone, hlength]

theorem Placed.begun {codec : Codec} {front more : Bytes} {length : Nat}
    (h : Placed input counted codec.phase (front ++ more))
    (hstarted : codec.started? front = some (length, behind)) :
    Placed input counted (.body length) (behind ++ more) := by
  rcases Codec.started?_eq_some_iff.1 hstarted with ⟨hbody, rfl⟩ | ⟨hhead, first, rfl, hfirst, rfl⟩
  · rwa [hbody] at h
  · rw [hhead] at h
    cases h with
    | @head done _ hinput hdone =>
      have hall : input = done ++ first ++ [] ++ (behind ++ more) := by
        rw [hinput]
        simp only [List.append_assoc, List.nil_append]
      exact .body hall hfirst hdone

theorem Placed.payload {length : Nat} {payload ahead : Bytes}
    (h : Placed input counted (.body length) (payload ++ ahead)) :
    Placed input (counted + (prefixBytes + payload.length)) .head ahead := by
  cases h with
  | @body done front words _ hinput hfront hdone =>
    have hall : input = (done ++ front ++ words ++ payload) ++ ahead := by
      rw [hinput]
      simp only [List.append_assoc]
    refine .head hall ?_
    simp only [List.length_append, hfront]
    omega

end

namespace Recalls

variable {usual : Option Nat} {codec : Codec} {ahead : Bytes}

theorem append (h : Recalls usual entries codec ahead) (hentry : ¬entry.GivesPayload) :
    Recalls usual (entries ++ [entry]) codec ahead where
  body length hphase := (h.body length hphase).append hentry
  head noted hphase hpending :=
    ⟨(h.head noted hphase hpending).1.append hentry,
      (h.head noted hphase hpending).2.imp_right fun hstale => hstale.append hentry⟩
  noted length noted hphase hpending :=
    (h.noted length noted hphase hpending).imp_right fun hstale => hstale.append hentry

/-- The cap has nothing to do with it. -/
theorem setCap (h : Recalls usual entries codec ahead) (cap : Option Nat) :
    Recalls usual entries { codec with cap } ahead := ⟨h.body, h.head, h.noted⟩

/-- What has been noted is not taken back when a word is read. -/
theorem word (h : Recalls usual entries codec ahead) (hword : entry.GivesWord) (behind : Bytes) :
    Recalls usual (entries ++ [entry]) codec behind where
  body length hphase := (h.body length hphase).append hword.not_givesPayload
  head noted hphase hpending := by
    have hrefused := (h.head noted hphase hpending).1
    exact ⟨hrefused.append hword.not_givesPayload, .inr (lasts_of_last ⟨hrefused, hword⟩)⟩
  noted length noted hphase hpending :=
    (h.noted length noted hphase hpending).imp_right
      fun hstale => hstale.append hword.not_givesPayload

theorem refused (h : Recalls usual entries codec ahead) {length limit : Nat}
    (hhead : codec.phase = .head) (hdeclared : declared? ahead = some length)
    (houtcome : entry.outcome = .error (.frameTooLarge (codec.pending.getD length) limit)) :
    Recalls usual (entries ++ [entry]) { codec with pending := some (codec.pending.getD length) }
      ahead where
  body taken hbody := absurd (hhead.symm.trans hbody) (by simp)
  head noted _ hpending := by
    obtain rfl := Option.some.inj hpending
    refine ⟨lasts_of_last ⟨limit, houtcome⟩, ?_⟩
    cases hnoted : codec.pending with
    | none => exact .inl hdeclared
    | some noted =>
      exact (h.head noted hhead hnoted).2.imp_right
        fun hstale => hstale.append (Entry.not_givesPayload_of_error houtcome)
  noted taken _ hbody := absurd (hhead.symm.trans hbody) (by simp)

theorem begun {front behind more : Bytes} {length : Nat} {error : BridgeError}
    (h : Recalls usual entries codec (front ++ more))
    (hstarted : codec.started? front = some (length, behind))
    (houtcome : entry.outcome = .error error)
    (hinterrupted : codec.phase = .head → entry.request.want = .frame ∧
      length ≤ (entry.request.cap usual).getD maxLength ∧
        ∃ error, entry.outcome = .error error ∧ error.IsTransport) :
    Recalls usual (entries ++ [entry])
      { codec with phase := .body length, pending := some (codec.pending.getD length) }
      (behind ++ more) where
  body taken hphase := by
    obtain rfl := Phase.body.inj hphase
    rcases Codec.started?_eq_some_iff.1 hstarted with ⟨hbody, -⟩ | ⟨hhead, -⟩
    · exact (h.body _ hbody).append (Entry.not_givesPayload_of_error houtcome)
    · exact lasts_of_last (hinterrupted hhead)
  head noted hphase := by cases hphase
  noted taken noted hphase hpending := by
    obtain rfl := Phase.body.inj hphase
    obtain rfl := Option.some.inj hpending
    have hentry := Entry.not_givesPayload_of_error houtcome
    cases hnoted : codec.pending with
    | none => exact .inl rfl
    | some noted =>
      rcases Codec.started?_eq_some_iff.1 hstarted with ⟨hbody, -⟩ | ⟨hhead, -⟩
      · exact (h.noted _ noted hbody hnoted).imp_right fun hstale => hstale.append hentry
      · rcases (h.head noted hhead hnoted).2 with hdeclared | hstale
        · rw [Codec.declared?_of_started? hhead hstarted] at hdeclared
          exact .inl (Option.some.inj hdeclared).symm
        · exact .inr (hstale.append hentry)

end Recalls

namespace Reader

variable {want : Want} {before after reader : Reader}

/-! ## What one call takes -/

/-- How far a call has got in what is ahead, and what its codec has said last. -/
inductive Advance (want : Want) (before after : Reader) :
    Except BridgeError (Option Bytes) → Prop where
  | still : after.codec = before.codec → after.ahead = before.ahead →
      Advance want before after (.ok none)
  | attempt {input more : Bytes} {result : Except BridgeError (Option Bytes)} :
      before.ahead = input ++ more → after.ahead = after.buffer ++ more →
      Codec.Attempted before.codec input want ⟨result, after.codec, after.buffer⟩ →
      Advance want before after result

variable {result : Except BridgeError (Option Bytes)} {input : Bytes} {counted : Nat}

/-- **What has been counted is what has been taken off.** -/
theorem Advance.placed (h : Advance want before after result)
    (hplaced : Placed input counted before.codec.phase before.ahead) :
    Placed input (counted + taken want result) after.codec.phase after.ahead := by
  cases h with
  | still hcodec hahead => rwa [hcodec, hahead]
  | attempt hbefore hafter hattempt =>
    rw [hbefore] at hplaced
    rw [hafter]
    generalize after.codec = codec at hattempt
    generalize after.buffer = buffer at hattempt
    cases hattempt with
    | noWord => exact hplaced
    | short => exact hplaced
    | refused => exact hplaced
    | word hinput hlength =>
      rw [hinput, List.append_assoc] at hplaced
      exact hplaced.word hlength
    | begun hstarted => exact hplaced.begun hstarted
    | payload hstarted =>
      have hbegun := hplaced.begun hstarted
      rw [List.append_assoc] at hbegun
      exact hbegun.payload

/-- **What the codec notes goes back to this call**, or to an earlier one. -/
theorem Advance.recalls {usual : Option Nat} {entries : List Entry} {entry : Entry}
    (h : Advance want before after result)
    (hrecalls : Recalls usual entries before.codec before.ahead)
    (hwant : entry.request.want = want) (hcap : before.codec.cap = entry.request.cap usual)
    (hreports : entry.Reports result) :
    Recalls usual (entries ++ [entry]) after.codec after.ahead := by
  cases h with
  | still hcodec hahead =>
    rw [hcodec, hahead]
    exact hrecalls.append hreports.not_givesPayload
  | attempt hbefore hafter hattempt =>
    rw [hbefore] at hrecalls
    rw [hafter]
    generalize after.codec = codec at hattempt
    generalize after.buffer = buffer at hattempt
    cases hattempt with
    | noWord => exact hrecalls.append hreports.not_givesPayload
    | short => exact hrecalls.append hreports.not_givesPayload
    | word => exact hrecalls.word (hreports.givesWord hwant) _
    | refused hhead hstarted =>
      cases hreports with
      | refused houtcome =>
        exact hrecalls.refused hhead (Codec.declared?_of_started? hhead hstarted _) houtcome
    | payload =>
      exact ⟨fun _ hphase => by (cases hphase), fun _ _ hpending => by (cases hpending),
        fun _ _ hphase _ => by cases hphase⟩
    | begun hstarted hlimit =>
      rw [hcap] at hlimit
      cases hreports with
      | failed houtcome htransport =>
        exact hrecalls.begun hstarted houtcome fun hhead =>
          ⟨hwant, hlimit hhead, _, houtcome, htransport⟩

/-! ## How calls advance -/

theorem ahead_of_arrivals {met rest : List Arrival} (h : before.source.arrivals = met ++ rest) :
    before.ahead = before.buffer ++ bytesOf met ++ bytesOf rest := by
  rw [ahead, h, bytesOf_append, List.append_assoc]

/-- A failure carries no bytes. -/
theorem ahead_of_broken {met rest : List Arrival} {due : Nat} {kind : IoKind}
    (h : before.source.arrivals = met ++ .failure due kind :: rest) :
    before.ahead = before.buffer ++ bytesOf met ++ bytesOf rest := by
  rw [ahead_of_arrivals h]
  rfl

theorem Leaves.ahead {codec : Codec} {buffer : Bytes} {rest : List Arrival}
    (h : Leaves before codec buffer rest after) : after.ahead = buffer ++ bytesOf rest := by
  rw [Reader.ahead, h.buffer, h.arrivals]

theorem advance_of_decode {front buffer : Bytes} {codec : Codec} {rest : List Arrival}
    (hsound : Sound before) (hahead : before.ahead = front ++ bytesOf rest)
    (hdecode : before.codec.decode want front = ⟨result, codec, buffer⟩)
    (hleaves : Leaves before codec buffer rest after) : Advance want before after result := by
  have hattempt := Codec.attempted_decode hsound.notes want front
  rw [hdecode, ← hleaves.codec, ← hleaves.buffer] at hattempt
  refine .attempt hahead ?_ hattempt
  rw [hleaves.ahead, hleaves.buffer]

theorem Waits.advance {met rest : List Arrival} {codec : Codec} {buffer : Bytes}
    (h : Waits want before met codec buffer) (hsound : Sound before)
    (hahead : before.ahead = before.buffer ++ bytesOf met ++ bytesOf rest)
    (hleaves : Leaves before codec buffer rest after) : Advance want before after (.ok none) := by
  rcases h with ⟨rfl, rfl, rfl⟩ | hdecode
  · refine .still hleaves.codec ?_
    rw [hleaves.ahead, hahead]
    simp [bytesOf, Source.bytes]
  · exact advance_of_decode hsound hahead hdecode hleaves

/-! ## All calls -/

/-- A reader that has seen the end of its stream, and has nothing to look at. -/
def Over (reader : Reader) : Prop := reader.eof = true ∧ ¬reader.Open

/-- A reader for these bytes, after the calls in the log. -/
structure History (limits : Limits) (source : Source) (entries : List Entry) (reader : Reader) :
    Prop where
  sameLimits : reader.limits = limits
  ready : Ready reader
  owed : reader.errored = true → ∃ entry, entries.getLast? = some entry ∧ entry.Fails
  finished : reader.errored = false → reader.eof = true → reader.readable = false →
    ∃ entry, entries.getLast? = some entry ∧ entry.ReportsEnd
  recalls : reader.Over ∨ Recalls limits.maxFrameBytes entries reader.codec reader.ahead
  placed : Placed source.bytes reader.bytesRead reader.codec.phase reader.ahead

variable {limits : Limits} {source : Source} {entries : List Entry}

theorem history_new (limits : Limits) (source : Source) :
    History limits source [] (new limits source) where
  sameLimits := rfl
  ready := ready_new limits source
  owed herrored := by cases herrored
  finished _ heof := by cases heof
  recalls := .inr ⟨fun _ hphase => by (cases hphase), fun _ _ hpending => by (cases hpending),
    fun _ _ hphase => by cases hphase⟩
  placed := .head (List.nil_append _).symm rfl

/-- What a call leaves, once its poll is known. -/
theorem History.extend (h : History limits source entries reader) {request : Request}
    {polled : Polled} {entry : Entry}
    (hcourse : Course request.want (reader.prepared request limits) (polled, after))
    (hadvance : Advance request.want (reader.prepared request limits) after result)
    (howed : after.errored = true → entry.Fails)
    (hover : after.errored = false → after.eof = true → after.readable = false → entry.ReportsEnd)
    (hrecalls : after.Over ∨
      Recalls limits.maxFrameBytes (entries ++ [entry]) after.codec after.ahead) :
    History limits source (entries ++ [entry])
      { after.setCap limits.maxFrameBytes with
        bytesRead := after.bytesRead + taken request.want result } := by
  obtain ⟨codec, buffer, rest, hleaves⟩ := hcourse.leaves
  have hsound := hcourse.sound (h.ready.prepared request limits)
  have hlimits : after.limits = limits := hleaves.limits.trans h.sameLimits
  have hcounted : after.bytesRead = reader.bytesRead := hleaves.bytesRead
  have hplaced := hadvance.placed h.placed
  rw [← hcounted] at hplaced
  exact ⟨hlimits, ⟨congrArg Limits.maxFrameBytes hlimits.symm, hsound.notes, hsound.atEnd⟩,
    fun herrored => ⟨entry, by simp, howed herrored⟩,
    fun herrored heof hreadable => ⟨entry, by simp, hover herrored heof hreadable⟩,
    hrecalls.imp id fun hrecalls => hrecalls.setCap _, hplaced⟩

/-- How the next call goes. -/
theorem History.course (h : History limits source entries reader) (request : Request) :
    ∃ poll, reader.call request = conclude request limits.maxFrameBytes poll ∧
      Course request.want (reader.prepared request limits) poll := by
  obtain ⟨poll, -, hcall, hcourse⟩ := h.ready.course request
  rw [h.sameLimits] at hcall hcourse
  exact ⟨poll, hcall, hcourse⟩

theorem size_made (request : Request) (bytes : Bytes) :
    (request.made bytes).size = taken request.want (.ok (some bytes)) := by
  cases request <;> rfl

/-- **Every call keeps the history.** -/
theorem History.call (h : History limits source entries reader) (request : Request) :
    History limits source
      (entries ++ [⟨request, (reader.call request).1, (reader.call request).2.bytesRead⟩])
      (reader.call request).2 := by
  have hsound := h.ready.prepared request limits
  have hrecalls (hlive : ¬reader.Over) : Recalls limits.maxFrameBytes entries
      (reader.prepared request limits).codec (reader.prepared request limits).ahead :=
    (h.recalls.resolve_left hlive).setCap _
  have hlive (hopen : (reader.prepared request limits).Open) : ¬reader.Over :=
    fun hover => hover.2 hopen
  have hahead : (reader.prepared request limits).ahead =
    (reader.prepared request limits).ahead ++ bytesOf [] := (List.append_nil _).symm
  obtain ⟨⟨polled, after⟩, hcall, hcourse⟩ := h.course request
  rw [hcall]
  have hgoes := hcourse
  cases hgoes with
  | owed herrored hleaves hpaid hreadable heof =>
    have hsame : after.ahead = (reader.prepared request limits).ahead := hleaves.ahead
    refine h.extend hcourse (.still hleaves.codec hsame) (fun htrue => by simp [hpaid] at htrue)
      (fun _ _ _ => rfl) ?_
    cases hend : reader.eof with
    | true =>
      exact .inl ⟨heof.trans hend, fun hopen => by
        simp [hopen.2 (heof.trans hend)] at hreadable⟩
    | false =>
      have hbefore := hrecalls fun hover => by simp [hover.1] at hend
      rw [← hleaves.codec, ← hsame] at hbefore
      exact .inr (hbefore.append (Entry.not_givesPayload_of_error rfl))
  | finished herrored heof hreadable hleaves hquiet hreadable' heof' =>
    have hsame : after.ahead = (reader.prepared request limits).ahead := by
      rw [hleaves.ahead, ahead, (hsound.atEnd heof).1]
    exact h.extend hcourse (.still hleaves.codec hsame) (fun htrue => by simp [hquiet] at htrue)
      (fun _ _ _ => rfl) (.inl ⟨heof', fun hopen => by simp [hopen.2 heof'] at hreadable'⟩)
  | item hopen harrivals hdecode hleaves herrored hreadable =>
    have hadvance := advance_of_decode hsound (ahead_of_arrivals harrivals) hdecode hleaves
    rw [conclude, size_made]
    exact h.extend hcourse hadvance (fun htrue => by simp [herrored] at htrue)
      (fun _ _ hfalse => by simp [hreadable] at hfalse)
      (.inr (hadvance.recalls (hrecalls (hlive hopen)) rfl rfl (.item rfl)))
  | refused hopen harrivals hdecode hleaves herrored =>
    have hadvance := advance_of_decode hsound (ahead_of_arrivals harrivals) hdecode hleaves
    exact h.extend hcourse hadvance (fun _ => ⟨_, rfl, hcourse.kind_ne_timeout hsound⟩)
      (fun hfalse => by simp [herrored] at hfalse)
      (.inr (hadvance.recalls (hrecalls (hlive hopen)) rfl rfl (.refused rfl)))
  | cut hopen hends hdecode hmissing hleaves herrored heof =>
    have hadvance := advance_of_decode hsound hahead hdecode hleaves
    exact h.extend hcourse hadvance (fun _ => ⟨_, rfl, hcourse.kind_ne_timeout hsound⟩)
      (fun hfalse => by simp [herrored] at hfalse)
      (.inl ⟨heof, fun hopen => by simp [hopen.1] at herrored⟩)
  | clean hopen hends hdecode hmissing hleaves herrored hreadable heof =>
    have hadvance := advance_of_decode hsound hahead hdecode hleaves
    exact h.extend hcourse hadvance (fun htrue => by simp [herrored] at htrue) (fun _ _ _ => rfl)
      (.inl ⟨heof, fun hopen => by simp [hopen.2 heof] at hreadable⟩)
  | late hopen harrivals hwaits hleaves herrored heof =>
    have hadvance := hwaits.advance hsound (ahead_of_arrivals harrivals) hleaves
    exact h.extend hcourse hadvance (fun htrue => by simp [herrored] at htrue)
      (fun _ htrue => by simp [heof] at htrue)
      (.inr (hadvance.recalls (hrecalls (hlive hopen)) rfl rfl (.failed rfl .late)))
  | broken hopen harrivals hwaits hleaves herrored heof =>
    have hadvance := hwaits.advance hsound (ahead_of_broken harrivals) hleaves
    exact h.extend hcourse hadvance (fun _ => ⟨_, rfl, hcourse.kind_ne_timeout hsound⟩)
      (fun hfalse => by simp [herrored] at hfalse)
      (.inr (hadvance.recalls (hrecalls (hlive hopen)) rfl rfl (.failed rfl .broken)))

/-- **So do all calls**, whatever becomes of them. -/
theorem History.calls (h : History limits source entries reader) (requests : List Request) :
    History limits source (entries ++ reader.log requests) (reader.afterCalls requests) := by
  induction requests generalizing entries reader with
  | nil => simpa [log, afterCalls] using h
  | cons request requests ih =>
    have hrest := ih (h.call request)
    rw [List.append_assoc] at hrest
    exact hrest

theorem history_afterCalls (limits : Limits) (source : Source) (requests : List Request) :
    History limits source ((new limits source).log requests)
      ((new limits source).afterCalls requests) :=
  (history_new limits source).calls requests

/-! ## Caps -/

/-- A frame that is given has been within the cap when its length was taken off. -/
theorem History.length_le_or_interrupted (h : History limits source entries reader)
    {request : Request} {payload : Bytes}
    (hcall : (reader.call request).1 = .ok (.payload payload)) :
    payload.length ≤ (request.cap limits.maxFrameBytes).getD maxLength ∨
      Interrupted limits.maxFrameBytes payload.length entries := by
  obtain ⟨poll, hpoll, hcourse⟩ := h.course request
  rw [hpoll] at hcall
  cases hcourse with
  | @item met rest item buffer codec after hopen harrivals hdecode =>
    have hattempt := Codec.attempted_decode (h.ready.prepared request limits).notes request.want
      ((reader.prepared request limits).buffer ++ bytesOf met)
    rw [hdecode] at hattempt
    have hmade : request.made item = .payload payload := Except.ok.inj hcall
    generalize hwant : request.want = want at hattempt
    cases hattempt with
    | word =>
      cases request with
      | word => cases hmade
      | frame => cases hwant
      | frameCapped => cases hwant
    | payload hstarted hlimit hlength =>
      have hpayload : item = payload := by
        cases request with
        | word => cases hmade
        | frame => exact Item.payload.inj hmade
        | frameCapped => exact Item.payload.inj hmade
      subst hpayload
      rw [hlength]
      rcases Codec.started?_eq_some_iff.1 hstarted with ⟨hbody, -⟩ | ⟨hhead, -⟩
      · have hrecalls := h.recalls.resolve_left fun hover => hover.2 hopen
        exact .inr (hrecalls.body _ hbody)
      · exact .inl (hlimit hhead)
  | _ => cases hcall

/-- **A frame is within the cap of the call that gives it**, unless its length was taken off by an
earlier call for a frame, which the connection then failed: then it is within the cap of that one.
This is so for every source, its failures and its times, and behind any calls at all. -/
theorem payload_within_cap (limits : Limits) (source : Source) (requests : List Request)
    (request : Request) (payload : Bytes)
    (h : (((new limits source).afterCalls requests).call request).1 = .ok (.payload payload)) :
    payload.length ≤ (request.cap limits.maxFrameBytes).getD maxLength ∨
      Interrupted limits.maxFrameBytes payload.length ((new limits source).log requests) :=
  (history_afterCalls limits source requests).length_le_or_interrupted h

/-- A frame of three bytes, within a cap of its own, behind a word and a call that timed out. -/
theorem payload_within_cap_three :
    let reader := new ⟨some 2, some ⟨50⟩⟩
      (.new [.data 0 [0, 0, 0, 9, 0, 0], .data 80 [0, 3, 1, 2, 3]] .closed)
    ((reader.afterCalls [.word, .frame]).call (.frameCapped (some 4))).1 =
        .ok (.payload [1, 2, 3]) ∧
      (([1, 2, 3] : Bytes).length ≤ 4 ∨
        Interrupted (some 2) 3 (reader.log [.word, .frame])) :=
  ⟨rfl, payload_within_cap _ _ [.word, .frame] (.frameCapped (some 4)) [1, 2, 3] rfl⟩

/-- A call that times out behind the length of a frame leaves that frame to the next one, whatever
the cap of that may be. -/
theorem longer_frame_after_timeout :
    let reader := new ⟨none, some ⟨50⟩⟩
      (.new [.data 0 [0, 0, 0, 3, 1], .data 80 [2, 3]] .closed)
    (reader.call .frame).1 = .error (.timeout ⟨50⟩) ∧
      ((reader.afterCalls [.frame]).call (.frameCapped (some 2))).1 = .ok (.payload [1, 2, 3]) ∧
      2 < ([1, 2, 3] : Bytes).length :=
  ⟨rfl, rfl, by decide⟩

end Reader
end BatchBridge.Frame
