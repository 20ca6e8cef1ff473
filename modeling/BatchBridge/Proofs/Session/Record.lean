import BatchBridge.Proofs.Session.Batches

/-!
# What a session leaves in the record of its sink

The log of a session over a fresh memory sink is written down in its input.

* `Session.LogOf` — the log that an input calls for: none if no stream is opened; else the opening,
  the batches that can be taken, and one end, which is a close if an empty frame follows the batches
  and an abort if anything else does, or nothing.  Only a batch with too much text for a column
  leaves a stream without an end.
* `Session.runFresh` — a whole session over a fresh sink.
* `Session.Alike` — two sessions that neither their clients nor their sinks can tell apart.
* **`Session.logOf_run`** — this is the log that a session leaves.
-/

namespace BatchBridge

/-- A source that delivers these bytes and ends there. -/
structure Source.Gives (source : Source) (timeout : Option Duration) (input : Bytes) : Prop
    extends source.Delivers timeout input where
  closed : source.ending = .closed

theorem Source.gives_ofBytes (timeout : Option Duration) (input : Bytes) :
    (Source.ofBytes input).Gives timeout input := ⟨delivers_ofBytes timeout input, rfl⟩

namespace Session

/-- The stream of batches that follows a preamble. -/
def intakeOf (options : SessionOptions) (faults : SinkFaults) (preamble : Preamble) : Intake where
  cap := options.limits.maxFrameBytes
  schema := preamble.schema
  method := preamble.method
  failWriteAt := faults.failWriteAt

/-- What a stream with such a tail adds to the log at its end.  A session that is lost adds
nothing. -/
inductive EndsWith (intake : Intake) (id : String) (tail : Bytes) : List SinkEvent → Prop where
  | closed : (∃ rest, tail = Frame.bytes [] ++ rest) → EndsWith intake id tail [.closed id]
  | aborted : (¬∃ rest, tail = Frame.bytes [] ++ rest) → ¬intake.Overflows tail →
      EndsWith intake id tail [.aborted id]
  | lost : intake.Overflows tail → EndsWith intake id tail []

/-- A large frame that has not been compressed comes next.  Only there can be too much text. -/
def LargeNext (intake : Intake) (tail : Bytes) : Prop :=
  intake.method = .none ∧ ∃ frame rest, tail = Frame.bytes frame ++ rest ∧
    Frame.Fits intake.cap frame ∧ 715827882 < frame.length

/-- Unless such a frame comes, there is an end. -/
theorem EndsWith.ne_nil {intake : Intake} {id : String} {tail : Bytes} {last : List SinkEvent}
    (h : EndsWith intake id tail last) (hsmall : ¬LargeNext intake tail) : last ≠ [] := by
  cases h with
  | closed _ => exact List.cons_ne_nil _ _
  | aborted _ _ => exact List.cons_ne_nil _ _
  | lost hlost => exact absurd hlost.large hsmall

/-- The log that an input calls for. -/
structure LogOf (options : SessionOptions) (faults : SinkFaults) (input : Bytes)
    (log : List SinkEvent) : Prop where
  /-- No stream is opened. -/
  unopened : (¬∃ preamble body, Preamble.Spelled options preamble input body) ∨
    faults.failOpen = true → log = []
  /-- A stream is opened, everything that can be taken is written to it, and then it is ended,
  unless the next batch has too much text. -/
  opened : ∀ preamble body, Preamble.Spelled options preamble input body →
    faults.failOpen = false →
    ∃ batches tail last,
      (intakeOf options faults preamble).Takes 0 body batches tail ∧
      (intakeOf options faults preamble).Stuck batches.length tail ∧
      (∀ batches' tail', (intakeOf options faults preamble).Takes 0 body batches' tail' →
        (intakeOf options faults preamble).Stuck batches'.length tail' →
        batches' = batches ∧ tail' = tail) ∧
      EndsWith (intakeOf options faults preamble) preamble.queryId tail last ∧
      (¬LargeNext (intakeOf options faults preamble) tail → last ≠ []) ∧
      log = .opened preamble.queryId preamble.schema.fields ::
        (batches.map (.written preamble.queryId) ++ last)

theorem world_ofRefusal {World : Type} (fault : Option WriteFault) (refusal : Refusal)
    (world : World) : (Outcome.ofRefusal fault refusal world).world = world := by
  by_cases hkind : refusal.error.kind = .unauthorized
  · cases fault <;> simp [Outcome.ofRefusal, hkind, Outcome.failure]
  · rw [Outcome.ofRefusal_of_ne hkind]
    rfl

theorem world_ofAcknowledging {World : Type} (fault : Option WriteFault) (summary : Summary)
    (world : World) : (Outcome.ofAcknowledging fault summary world).world = world := by
  cases fault <;> rfl

/-- What a stream that cannot go on adds to the log. -/
theorem events_of_ending {intake : Intake} {fault : Option WriteFault}
    {forwarder : Forwarder MemoryStream} {id : String} {writes : Nat} {summary : Summary}
    {tail : Bytes} {sink : MemorySink} {outcome : Outcome MemorySink}
    (hwrites : forwarder.Writes id writes)
    (h : Intake.Ending intake fault forwarder id summary tail sink outcome) :
    ∃ last, EndsWith intake id tail last ∧ outcome.world.events = sink.events ++ last := by
  cases h with
  | closed hend =>
    refine ⟨_, .closed ⟨_, hend⟩, ?_⟩
    have hclosed := Forwarder.close_memory hwrites sink
    rw [Outcome.ofClosing]
    generalize forwarder.close memorySink sink = called at hclosed
    cases hclosed with
    | committed _ =>
      simp only [world_ofAcknowledging]
      rfl
    | rejected _ => rfl
  | lost hlost =>
    refine ⟨_, .lost hlost, ?_⟩
    rw [Outcome.ofLost, Forwarder.release_memory, List.append_nil]
  | aborted hend hreaches hwrites' =>
    refine ⟨_, .aborted hend hreaches, ?_⟩
    rw [Outcome.ofAborting, Forwarder.abort_memory hwrites']
    rfl

/-- A stream that the sink refuses leaves no trace. -/
theorem events_notOpened (options : SessionOptions) (fault : Option WriteFault)
    {faults : SinkFaults} (hopen : faults.failOpen = true) (preamble : Preamble) (body : Bytes) :
    (Outcome.ofOpening memorySink fault options.limits.maxFrameBytes preamble body
      (MemorySink.new faults)).world.events = [] := by
  have hopened := MemorySink.openStream_memory preamble.queryId preamble.schema.fields
    (MemorySink.new faults)
  rw [Outcome.ofOpening, Forwarder.openStream]
  generalize memorySink.openStream preamble.queryId preamble.schema.fields
    (MemorySink.new faults) = called at hopened
  cases hopened with
  | refused _ => rfl
  | opened hfault => rw [show faults.failOpen = false from hfault] at hopen; cases hopen

/-- A stream that is opened takes its batches, and is then behind them. -/
theorem ofOpening_of_takes (options : SessionOptions) (fault : Option WriteFault)
    {faults : SinkFaults} (hopen : faults.failOpen = false) (preamble : Preamble) {body tail : Bytes}
    {batches : List Batch} (htakes : (intakeOf options faults preamble).Takes 0 body batches tail) :
    ∃ forwarder summary, forwarder.Writes preamble.queryId batches.length ∧
      Outcome.ofOpening memorySink fault options.limits.maxFrameBytes preamble body
          (MemorySink.new faults) =
        Outcome.ofStreaming memorySink fault options.limits.maxFrameBytes preamble.schema
          preamble.method forwarder summary tail
          ⟨faults, exportLog preamble.queryId preamble.schema.fields batches⟩ := by
  have hopened := MemorySink.openStream_memory preamble.queryId preamble.schema.fields
    (MemorySink.new faults)
  rw [Outcome.ofOpening, Forwarder.openStream]
  generalize memorySink.openStream preamble.queryId preamble.schema.fields
    (MemorySink.new faults) = called at hopened
  cases hopened with
  | refused hfault => rw [show faults.failOpen = true from hfault] at hopen; cases hopen
  | opened _ =>
    let forwarder : Forwarder MemoryStream :=
      ⟨preamble.queryId, some ⟨preamble.queryId, 0⟩, 0, 0⟩
    let sink : MemorySink := ⟨faults, [.opened preamble.queryId preamble.schema.fields]⟩
    have hwrites : forwarder.Writes preamble.queryId 0 := rfl
    have hinto : (intakeOf options faults preamble).Into sink := rfl
    obtain ⟨forwarder', summary', hstream, hwrites', -⟩ :=
      Intake.ofStreaming_of_takes htakes fault hwrites (.new preamble.queryId) hinto
    rw [Nat.zero_add] at hwrites'
    exact ⟨forwarder', summary', hwrites', hstream⟩

/-- **A stream of batches up to one with too much text** is written up to there, and no further. -/
theorem ofOpening_of_overflows (options : SessionOptions) (preamble : Preamble) {body tail : Bytes}
    {batches : List Batch} (htakes : (intakeOf options .none preamble).Takes 0 body batches tail)
    (hlost : (intakeOf options .none preamble).Overflows tail) :
    Outcome.ofOpening memorySink none options.limits.maxFrameBytes preamble body
        (MemorySink.new .none) =
      ⟨none, none, [], .none, exportLog preamble.queryId preamble.schema.fields batches⟩ := by
  obtain ⟨forwarder, summary, -, hstream⟩ := ofOpening_of_takes options none rfl preamble htakes
  obtain ⟨frame, payload, rest, rfl, hne, hfits, hexpand, hoverflows⟩ := hlost
  have hread : Frame.read options.limits.maxFrameBytes .frame (Frame.bytes frame ++ rest) =
      .ok (frame, rest) := Frame.read_bytes hfits rest
  have hbatch : batchOf preamble.schema preamble.method frame = .lost :=
    batchOf_eq_lost_iff.2 ⟨payload, hexpand, hoverflows⟩
  rw [hstream, Outcome.ofStreaming_of_lost hread hne hbatch, Outcome.ofLost,
    Forwarder.release_memory]

/-- The log of a stream that has been opened. -/
theorem events_ofOpening (options : SessionOptions) (fault : Option WriteFault)
    {faults : SinkFaults} (hopen : faults.failOpen = false) (preamble : Preamble) {body tail : Bytes}
    {batches : List Batch} (htakes : (intakeOf options faults preamble).Takes 0 body batches tail)
    (hstuck : (intakeOf options faults preamble).Stuck batches.length tail) :
    ∃ last, EndsWith (intakeOf options faults preamble) preamble.queryId tail last ∧
      (Outcome.ofOpening memorySink fault options.limits.maxFrameBytes preamble body
        (MemorySink.new faults)).world.events =
          exportLog preamble.queryId preamble.schema.fields batches ++ last := by
  obtain ⟨forwarder, summary, hwrites, hstream⟩ :=
    ofOpening_of_takes options fault hopen preamble htakes
  have hinto : (intakeOf options faults preamble).Into
      ⟨faults, exportLog preamble.queryId preamble.schema.fields batches⟩ := rfl
  obtain ⟨last, hlast, hevents⟩ :=
    events_of_ending hwrites (hstuck.ending fault hwrites summary hinto)
  rw [hstream]
  exact ⟨last, hlast, hevents⟩

/-- A whole session over a fresh memory sink. -/
def runFresh (options : SessionOptions) (fault : Option WriteFault) (faults : SinkFaults)
    (source : Source) : Session MemoryStream × MemorySink :=
  (new options source fault : Session MemoryStream).run memorySink (MemorySink.new faults)

theorem comesTo_runFresh {options : SessionOptions} (fault : Option WriteFault)
    (faults : SinkFaults) {source : Source} {input : Bytes} (h : source.Delivers options.limits.readTimeout input)
    (hclosed : source.ending = .closed) :
    ComesTo (.ofInput memorySink fault options input (MemorySink.new faults))
      (runFresh options fault faults source) :=
  comesTo_run memorySink options fault (MemorySink.new faults) h fun _ => .inl hclosed

/-- **A batch with too much text takes the session with it**: there is no result and no reply, and
the log is left without an end. -/
theorem comesTo_of_overflows {options : SessionOptions} {preamble : Preamble}
    {input body tail : Bytes} {batches : List Batch}
    (hspelled : Preamble.Spelled options preamble input body)
    (htakes : (intakeOf options .none preamble).Takes 0 body batches tail)
    (hlost : (intakeOf options .none preamble).Overflows tail) {source : Source}
    (hdelivers : source.Delivers options.limits.readTimeout input) :
    ComesTo ⟨none, none, [], .none, exportLog preamble.queryId preamble.schema.fields batches⟩
      (runFresh options none .none source) := by
  have hinput := (Outcome.ofInput_of_spelled hspelled).trans
    (ofOpening_of_overflows options preamble htakes hlost)
  have hcomes := comesTo_run memorySink options none (MemorySink.new .none) hdelivers fun hcut => by
    rw [hinput] at hcut
    obtain ⟨_, herror, -⟩ := hcut
    cases herror
  rwa [hinput] at hcomes

/-- Two sessions of which the same can be seen. -/
structure Alike {World Stream : Type} (done done' : Session Stream × World) : Prop where
  result : done.1.result = done'.1.result
  failedIn : done.1.failedIn = done'.1.failedIn
  reply : done.1.reply = done'.1.reply
  world : done.2 = done'.2

theorem ComesTo.alike {World Stream : Type} {outcome : Outcome World}
    {done done' : Session Stream × World} (h : ComesTo outcome done) (h' : ComesTo outcome done') :
    Alike done done' :=
  ⟨h.result.trans h'.result.symm, h.failedIn.trans h'.failedIn.symm,
    h.reply.trans h'.reply.symm, h.world.trans h'.world.symm⟩

/-- **The log of a session is the one its input calls for**, whatever the input is and however it
is cut into chunks. -/
theorem logOf_run (options : SessionOptions) (fault : Option WriteFault) (faults : SinkFaults)
    {source : Source} {input : Bytes} (h : source.Delivers options.limits.readTimeout input)
    (hend : source.ending = .closed) :
    LogOf options faults input (runFresh options fault faults source).2.events := by
  have hcomes : ComesTo _ (runFresh options fault faults source) :=
    comesTo_run memorySink options fault (MemorySink.new faults) h fun _ => .inl hend
  rw [hcomes.world, Outcome.ofInput]
  constructor
  · intro hunopened
    cases hread : Preamble.read options input with
    | error refusal =>
      show (Outcome.ofRefusal fault refusal (MemorySink.new faults)).world.events = []
      rw [world_ofRefusal]
      rfl
    | ok taken =>
      obtain ⟨preamble, body⟩ := taken
      have hspelled := Preamble.read_eq_ok_iff.1 hread
      rcases hunopened with hnone | hrefused
      · exact absurd ⟨preamble, body, hspelled⟩ hnone
      · exact events_notOpened options fault hrefused preamble body
  · intro preamble body hspelled hopen
    rw [Preamble.read_eq_ok_iff.2 hspelled, Outcome.ofReading]
    obtain ⟨batches, tail, htakes, hstuck⟩ :=
      (intakeOf options faults preamble).exists_takes 0 body
    rw [Nat.zero_add] at hstuck
    obtain ⟨last, hlast, hevents⟩ := events_ofOpening options fault hopen preamble htakes hstuck
    refine ⟨batches, tail, last, htakes, hstuck, ?_, hlast, hlast.ne_nil, hevents⟩
    intro batches' tail' htakes' hstuck'
    rw [← Nat.zero_add batches.length] at hstuck
    rw [← Nat.zero_add batches'.length] at hstuck'
    exact Intake.takes_unique htakes' hstuck' htakes hstuck

set_option maxRecDepth 10000 in
/-- The log of an export of two rows without columns. -/
theorem logOf_run_two_rows :
    let options : SessionOptions := ⟨⟨none, none⟩, .permissive, none, false⟩
    let faults : SinkFaults := ⟨false, none, false⟩
    let input := Frame.bytes (Utf8.encode "q") ++
      (Frame.bytes (Utf8.encode "\x7b\"columns\":[]\x7d") ++
        (Frame.bytes [0, 0, 0, 2] ++ Frame.bytes []))
    let done := runFresh options none faults (Source.ofBytes input)
    LogOf options faults input done.2.events ∧
      done.2.events = [.opened "q" [], .written "q" ⟨2, [], 0⟩, .closed "q"] :=
  ⟨logOf_run _ none _ (Source.delivers_ofBytes _ _) rfl, by decide +kernel⟩

/-- The preamble of an export `q` of a column `c` of texts. -/
theorem spelled_one_text (body : Bytes) :
    Preamble.Spelled ⟨⟨none, none⟩, .permissive, none, false⟩ ⟨"q", .none, ⟨[.ofType "c" .varchar]⟩⟩
      (Frame.bytes (Utf8.encode "q") ++ (Frame.bytes (Utf8.encode
        "\x7b\"columns\":[\x7b\"name\":\"c\",\"type\":\"VARCHAR\"\x7d]\x7d") ++ body)) body :=
  ⟨[], _, [], _, rfl, rfl, ⟨_, rfl, by decide +kernel, by decide +kernel, by decide⟩, ⟨rfl, rfl⟩,
    ⟨_, rfl, ⟨by decide +kernel, by decide +kernel⟩, by decide +kernel⟩⟩

/-- A batch of too many malformed texts, which lacks its last row.  The stream is opened and has no
end. -/
theorem logOf_run_malformed_texts :
    let options : SessionOptions := ⟨⟨none, none⟩, .permissive, none, false⟩
    let table : List (List Spelling) := List.replicate 10923 [.text (List.replicate 65535 255)]
    let payload := Bytes.ofNatBE 4 10924 ++ Spelling.tableBytes table
    let input := Frame.bytes (Utf8.encode "q") ++ (Frame.bytes (Utf8.encode
      "\x7b\"columns\":[\x7b\"name\":\"c\",\"type\":\"VARCHAR\"\x7d]\x7d") ++ Frame.bytes payload)
    let done := runFresh options none .none (Source.ofBytes input)
    done.1.result = none ∧ done.1.reply = [] ∧
      done.2.events = [.opened "q" [⟨"c", .utf8, true⟩]] := by
  intro options table payload input done
  have hlength : payload.length = 715871578 := by
    rw [List.length_append, Bytes.length_ofNatBE, Spelling.length_tableBytes_replicate,
      Spelling.length_rowBytes_text, List.length_replicate]
  have hdecode : Batch.decode ⟨[.ofType "c" .varchar]⟩ payload = .lost :=
    Batch.decode_replicate_malformed_eq_lost rfl (by decide) (by decide) (by decide) (by decide)
      (by decide)
  have hlost : (intakeOf options .none ⟨"q", .none, ⟨[.ofType "c" .varchar]⟩⟩).Overflows
      (Frame.bytes payload) :=
    ⟨payload, ⟨payload.toArray⟩, [], (List.append_nil _).symm,
      List.length_pos_iff.1 (by rw [hlength]; decide),
      ⟨by rw [hlength]; decide, by rw [hlength]; decide⟩, rfl, Batch.decode_eq_lost_iff.1 hdecode⟩
  have hcomes : ComesTo _ done := comesTo_of_overflows (spelled_one_text (Frame.bytes payload))
    .stop hlost (Source.delivers_ofBytes _ _)
  exact ⟨hcomes.result, hcomes.reply, congrArg _ hcomes.world⟩

end Session
end BatchBridge
