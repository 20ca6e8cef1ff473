import BatchBridge.Proofs.Frame.Positions
import BatchBridge.Proofs.Session.Acknowledgment
import BatchBridge.Proofs.Session.Caps
import BatchBridge.Proofs.Session.Deliveries
import BatchBridge.Proofs.Session.States

/-!
# The totals of a session

Three parties count the batches of a session, each in its own way: the session in its summary, the
forwarder of its stream, and the sink in its log.  All of them agree with the bytes that have come
in, whatever comes over the connection and however it ends.

* `Export.Took` — an export has been handed deliveries, and has counted them.
* `Phase.Accounted` — what is true of input and log while a session does something.
  **`Session.accounted_step`**: a step keeps it true.  **`Session.accounted_steps`**: so it is true
  at every step of a run.
* `Session.Exact`, `Session.Agrees` — what that says of the totals while batches are taken in, and
  of those of a session that has succeeded.
* **`Session.totals_exact`** — the totals are exact after every batch, and at the end.
-/

namespace BatchBridge

/-! ## Phases -/

/-- An export has taken in the deliveries: its stream has been handed them, and forwarder and
summary have counted them. -/
structure Export.Took (exporting : Export MemoryStream) (preamble : Preamble)
    (deliveries : List Delivery) : Prop where
  schema : exporting.schema = preamble.schema
  method : exporting.decompressor.method = preamble.method
  writes : ∃ writes, exporting.forwarder.Writes preamble.queryId writes
  forwarder : exporting.forwarder.Counts deliveries
  summary : exporting.summary.Counts preamble.queryId deliveries

/-- What is true while a session does this, `ahead` being what it has still to read: up to the first
batch, what is ahead is read as all of the input is; from then on, everything before it is accounted
for, and the log has grown by what has been delivered. -/
def Phase.Accounted (options : SessionOptions) (input : Bytes) (before : List SinkEvent)
    (ahead : Bytes) (events : List SinkEvent) : Phase MemoryStream → Prop
  | .begin => ahead = input ∧ events = before
  | .token expected => options.token = some expected ∧ ahead = input ∧ events = before
  | .queryId =>
    Preamble.read options input = Preamble.readFromQueryId options ahead ∧ events = before
  | .compression id => options.negotiate = true ∧
    Preamble.read options input = Preamble.readFromMethod options id ahead ∧ events = before
  | .schema id method =>
    Preamble.read options input = Preamble.readFromSchema options id method ahead ∧ events = before
  | .opening id announced method =>
    Preamble.read options input = .ok (⟨id, method, announced⟩, ahead) ∧ events = before
  | .streaming exporting => ∃ preamble deliveries,
    Account options input preamble deliveries ahead ∧
      events = before ++ Delivery.log preamble deliveries ∧ exporting.Took preamble deliveries
  | .closing forwarder summary => ∃ preamble deliveries writes,
    Account options input preamble deliveries (Frame.bytes [] ++ ahead) ∧
      events = before ++ Delivery.log preamble deliveries ∧
      forwarder.Writes preamble.queryId writes ∧ forwarder.Counts deliveries ∧
      summary.Counts preamble.queryId deliveries
  | .aborting forwarder _ => ∃ preamble deliveries rest,
    Account options input preamble deliveries rest ∧
      events = before ++ Delivery.log preamble deliveries ∧ forwarder.Counts deliveries
  | .acknowledging summary | .completed summary => ∃ preamble deliveries rest,
    Account options input preamble deliveries (Frame.bytes [] ++ rest) ∧
      events = before ++ (Delivery.log preamble deliveries ++ [.closed preamble.queryId]) ∧
      summary.Counts preamble.queryId deliveries
  | .lost => ∃ preamble deliveries rest,
    Account options input preamble deliveries rest ∧
      events = before ++ Delivery.log preamble deliveries
  | .failed .. => True

namespace Session

open BatchBridge.Frame BatchBridge.Frame.Reader

variable {options : SessionOptions} {input : Bytes} {before : List SinkEvent}
  {session : Session MemoryStream} {sink sink' : MemorySink}

/-- What a session has read and written is accounted for. -/
structure Accounted (options : SessionOptions) (input : Bytes) (before : List SinkEvent)
    (session : Session MemoryStream) (sink : MemorySink) : Prop where
  fixed : session.options = options
  settled : session.Settled options.limits
  phase : session.phase.Accounted options input before session.reader.ahead sink.events

theorem accounted_new (options : SessionOptions) (source : Source) (writeFault : Option WriteFault)
    (sink : MemorySink) :
    Accounted options source.bytes sink.events (new options source writeFault) sink :=
  ⟨rfl, settled_new options source writeFault, rfl, rfl⟩

/-! ### Up to the first batch -/

/-- Without a token, what is ahead begins with the query id. -/
theorem read_of_no_token (h : options.token = none) (input : Bytes) :
    Preamble.read options input = Preamble.readFromQueryId options input := by
  rw [Preamble.read, h]
  rfl

theorem read_of_token {expected : String} {ahead : Bytes} (h : options.token = some expected)
    (hread : Frame.read (some maxTokenBytes) .frame input = .ok (Utf8.encode expected, ahead))
    (hne : Utf8.encode expected ≠ []) :
    Preamble.read options input = Preamble.readFromQueryId options ahead := by
  rw [Preamble.read, h]
  exact Preamble.bind_of_ok (Preamble.takeItem_eq_ok_iff.2
    ⟨_, hread, Preamble.checkToken_eq_ok_iff.2 ⟨rfl, hne⟩⟩)

theorem readFromQueryId_of_named {frame ahead : Bytes} {id : String}
    (hread : Frame.read (some maxQueryIdBytes) .frame input = .ok (frame, ahead))
    (hparse : parseQueryId frame = .ok id) :
    Preamble.readFromQueryId options input = Preamble.readFromMethod options id ahead :=
  Preamble.bind_of_ok (Preamble.takeItem_eq_ok_iff.2 ⟨_, hread, hparse⟩)

/-- Without negotiation, the schema follows at once. -/
theorem readFromMethod_of_not_negotiate (h : ¬options.negotiate = true) (id : String)
    (input : Bytes) :
    Preamble.readFromMethod options id input =
      Preamble.readFromSchema options id .none input := by
  have hnone : Preamble.takeMethod options.negotiate input = .ok (.none, input) := by
    rw [Preamble.takeMethod, if_neg h]
    rfl
  exact Preamble.bind_of_ok hnone

theorem readFromMethod_of_announced {id : String} {cap : Option Nat} {word ahead : Bytes}
    {method : Compression.Method} (h : options.negotiate = true)
    (hread : Frame.read cap .word input = .ok (word, ahead))
    (hcode : Compression.Method.ofCode (Bytes.toNatBE word) = .ok method) :
    Preamble.readFromMethod options id input =
      Preamble.readFromSchema options id method ahead := by
  have htaken : Preamble.takeMethod options.negotiate input = .ok (method, ahead) := by
    rw [Preamble.takeMethod, if_pos h]
    exact Preamble.takeItem_eq_ok_iff.2 ⟨word, hread, hcode⟩
  exact Preamble.bind_of_ok htaken

theorem readFromSchema_of_described {id : String} {method : Compression.Method}
    {payload ahead : Bytes} {schema : ColumnSchema}
    (hread : Frame.read options.limits.maxFrameBytes .frame input = .ok (payload, ahead))
    (hparse : ColumnSchema.parse payload options.policy = .ok schema) :
    Preamble.readFromSchema options id method input = .ok (⟨id, method, schema⟩, ahead) :=
  Preamble.bind_of_ok (Preamble.takeItem_eq_ok_iff.2 ⟨_, hread, hparse⟩)

/-- **A step that does not call the sink keeps the account.** -/
theorem accounted_advance {phase : Phase MemoryStream} {reader : Frame.Reader}
    (h : Accounted options input before session sink) (hadvances : Advances session phase reader) :
    phase.Accounted options input before reader.ahead sink.events := by
  have hthere := h.phase
  have hbetween (hreads : session.phase.mayRead = true) :
      Between options.limits.maxFrameBytes session.reader := (h.settled hreads).1
  cases hadvances with
  | tokenWanted hphase htoken =>
    rw [hphase] at hthere
    exact ⟨h.fixed ▸ htoken, hthere⟩
  | noTokenWanted hphase htoken =>
    rw [hphase] at hthere
    obtain ⟨hahead, hevents⟩ := hthere
    rw [h.fixed] at htoken
    exact ⟨by rw [hahead]; exact read_of_no_token htoken input, hevents⟩
  | admitted hphase hne hread =>
    rw [hphase] at hthere hbetween
    obtain ⟨htoken, hahead, hevents⟩ := hthere
    have htaken := read_of_readFrameCapped (hbetween rfl) hread
    rw [hahead] at htaken
    exact ⟨read_of_token htoken htaken hne, hevents⟩
  | identified hphase hread hparse =>
    rw [hphase] at hthere hbetween
    obtain ⟨hinput, hevents⟩ := hthere
    have htaken := read_of_readFrameCapped (hbetween rfl) hread
    have hnext := hinput.trans (readFromQueryId_of_named htaken hparse)
    rw [h.fixed]
    by_cases hnegotiate : options.negotiate = true
    · rw [if_pos hnegotiate]
      exact ⟨hnegotiate, hnext, hevents⟩
    · rw [if_neg hnegotiate]
      exact ⟨hnext.trans (readFromMethod_of_not_negotiate hnegotiate _ _), hevents⟩
  | negotiated hphase hread hcode =>
    rw [hphase] at hthere hbetween
    obtain ⟨hnegotiate, hinput, hevents⟩ := hthere
    obtain ⟨word, htaken, rfl⟩ := read_of_readWord (hbetween rfl) hread
    exact ⟨hinput.trans (readFromMethod_of_announced hnegotiate htaken hcode), hevents⟩
  | announced hphase hread hparse =>
    rw [hphase] at hthere hbetween
    obtain ⟨hinput, hevents⟩ := hthere
    rw [h.fixed] at hparse
    have htaken := read_of_readFrame (hbetween rfl) hread
    exact ⟨hinput.trans (readFromSchema_of_described htaken hparse), hevents⟩
  | ended hphase hread =>
    rw [hphase] at hthere hbetween
    obtain ⟨preamble, deliveries, haccount, hevents, htook⟩ := hthere
    obtain ⟨writes, hwrites⟩ := htook.writes
    obtain ⟨hahead, -⟩ := read_frame_eq_ok_iff.1 (read_of_readFrame (hbetween rfl) hread)
    rw [hahead] at haccount
    exact ⟨preamble, deliveries, writes, haccount, hevents, hwrites, htook.forwarder, htook.summary⟩
  | brokenOff hphase | undecodable hphase =>
    rw [hphase] at hthere
    obtain ⟨preamble, deliveries, haccount, hevents, htook⟩ := hthere
    exact ⟨preamble, deliveries, _, haccount, hevents, htook.forwarder⟩

/-! ### Calls of the sink -/

theorem accounted_opened {id : String} {schema : ColumnSchema} {method : Compression.Method}
    {stream : MemoryStream} {ahead : Bytes}
    (h : Preamble.read options input = .ok (⟨id, method, schema⟩, ahead) ∧ sink.events = before)
    (hopen : memorySink.openStream id schema.fields sink = (.ok stream, sink')) :
    Phase.Accounted options input before ahead sink'.events
      (.streaming ⟨⟨id, some stream, 0, 0⟩, schema, .new method, .new id⟩) := by
  obtain ⟨hread, hevents⟩ := h
  have hopened := MemorySink.openStream_memory id schema.fields sink
  rw [hopen] at hopened
  cases hopened with
  | opened =>
    refine ⟨⟨id, method, schema⟩, [], .nil (Preamble.read_eq_ok_iff.1 hread), ?_,
      ⟨rfl, rfl, ⟨0, rfl⟩, ⟨rfl, rfl⟩, Summary.counts_new id⟩⟩
    rw [MemorySink.record, hevents]
    rfl

/-- **A batch that has been written is accounted for.** -/
theorem accounted_written {exporting : Export MemoryStream} {frame : Bytes} {batch : Batch}
    {size : Nat} {decompressor : Compression.Decompressor} {forwarder : Forwarder MemoryStream}
    {ahead rest : Bytes}
    (h : Phase.Accounted options input before ahead sink.events (.streaming exporting))
    (hread : Frame.read options.limits.maxFrameBytes .frame ahead = .ok (frame, rest))
    (hne : frame ≠ []) (hdecode : decodeBatch exporting frame = (.ok (batch, size), decompressor))
    (hwrite : exporting.forwarder.write memorySink batch sink = ⟨.ok (), forwarder, sink'⟩) :
    Phase.Accounted options input before rest sink'.events (.streaming
      { exporting with
        forwarder, decompressor
        summary := exporting.summary.record batch.rows size batch.nullCount }) := by
  obtain ⟨preamble, deliveries, haccount, hevents, htook⟩ := h
  obtain ⟨rfl, hfits⟩ := read_frame_eq_ok_iff.1 hread
  obtain ⟨_, hdecoded, hmethod⟩ := decodeBatch_eq exporting frame
  rw [hdecode, htook.schema, htook.method] at hdecoded
  obtain ⟨hbatch, rfl⟩ := Prod.mk.inj hdecoded
  obtain ⟨delivery, hsound, rfl, rfl, hrows, rfl, hnulls⟩ :=
    Delivery.exists_of_batchOf hne hfits hbatch.symm
  obtain ⟨writes, hwrites⟩ := htook.writes
  have hwritten := Forwarder.write_memory hwrites delivery.batch sink
  rw [hwrite] at hwritten
  cases hwritten with
  | taken _ hwrites' =>
    refine ⟨preamble, deliveries ++ [delivery], haccount.concat hsound, ?_,
      ⟨htook.schema, hmethod.trans htook.method, ⟨_, hwrites'⟩,
        htook.forwarder.written hwrites.isClosed hwrite hrows, ?_⟩⟩
    · rw [MemorySink.record, hevents, Delivery.log_concat, List.append_assoc]
    · rw [hrows, hnulls]
      exact htook.summary.record delivery

/-- **A batch that has not been written is not.** -/
theorem accounted_notWritten {exporting : Export MemoryStream} {batch : Batch}
    {forwarder : Forwarder MemoryStream} {error : BridgeError} {ahead : Bytes}
    (h : Phase.Accounted options input before ahead sink.events (.streaming exporting))
    (hwrite : exporting.forwarder.write memorySink batch sink = ⟨.error error, forwarder, sink'⟩)
    (rest : Bytes) :
    Phase.Accounted options input before rest sink'.events (.aborting forwarder error) := by
  obtain ⟨preamble, deliveries, haccount, hevents, htook⟩ := h
  obtain ⟨writes, hwrites⟩ := htook.writes
  have hwritten := Forwarder.write_memory hwrites batch sink
  rw [hwrite] at hwritten
  cases hwritten with
  | rejected =>
    exact ⟨preamble, deliveries, ahead, haccount, hevents,
      htook.forwarder.notWritten hwrites.isClosed hwrite⟩

theorem accounted_closed {forwarder forwarder' : Forwarder MemoryStream} {summary : Summary}
    {ahead : Bytes}
    (h : Phase.Accounted options input before ahead sink.events (.closing forwarder summary))
    (hclose : forwarder.close memorySink sink = ⟨.ok (), forwarder', sink'⟩) (rest : Bytes) :
    Phase.Accounted options input before rest sink'.events (.acknowledging summary) := by
  obtain ⟨preamble, deliveries, writes, haccount, hevents, hwrites, -, hsummary⟩ := h
  have hclosed := Forwarder.close_memory hwrites sink
  rw [hclose] at hclosed
  cases hclosed with
  | committed =>
    refine ⟨preamble, deliveries, ahead, haccount, ?_, hsummary⟩
    rw [MemorySink.record, hevents, List.append_assoc]

/-! ### Runs -/

/-- **A step keeps the account.** -/
theorem accounted_step (h : Accounted options input before session sink) :
    Accounted options input before (session.step memorySink sink).1
      (session.step memorySink sink).2 := by
  refine ⟨(options_step session sink).trans h.fixed, settled_step h.settled memorySink sink, ?_⟩
  have hmove := move_step memorySink session sink
  have hthere := h.phase
  have hbetween (hreads : session.phase.mayRead = true) :
      Between options.limits.maxFrameBytes session.reader := (h.settled hreads).1
  generalize session.step memorySink sink = result at hmove
  cases hmove with
  | advance hadvances => exact accounted_advance h hadvances
  | opened hphase hopen =>
    rw [hphase] at hthere
    exact accounted_opened hthere hopen
  | written hphase hread hne hdecode hwrite =>
    rw [hphase] at hthere hbetween
    exact accounted_written hthere (read_of_readFrame (hbetween rfl) hread) hne hdecode hwrite
  | notWritten hphase _ _ _ hwrite =>
    rw [hphase] at hthere
    exact accounted_notWritten hthere hwrite _
  | closed hphase hclose =>
    rw [hphase] at hthere
    exact accounted_closed hthere hclose _
  | told hphase =>
    rw [hphase] at hthere
    exact hthere
  | lost hphase =>
    rw [hphase] at hthere
    obtain ⟨preamble, deliveries, haccount, hevents, -⟩ := hthere
    exact ⟨preamble, deliveries, _, haccount, by rw [Forwarder.release_memory]; exact hevents⟩
  | terminal => exact hthere
  | _ => exact trivial

/-- **The account is kept at every step.** -/
theorem accounted_steps (h : Accounted options input before session sink) (n : Nat) :
    Accounted options input before (steps memorySink n session sink).1
      (steps memorySink n session sink).2 := by
  induction n with
  | zero => exact h
  | succ n ih =>
    rw [steps_succ]
    exact accounted_step ih

/-! ### What the account says -/

/-- Whenever batches are being taken in, the log has exactly those that have been counted, and they
are the ones in the frames that have been read. -/
structure Exact (options : SessionOptions) (input : Bytes) (before : List SinkEvent)
    (session : Session MemoryStream) (sink : MemorySink) : Prop where
  /-- All frames so far have been batches. -/
  streaming : ∀ exporting, session.phase = .streaming exporting → ∃ preamble deliveries,
    Account options input preamble deliveries session.reader.ahead ∧
      sink.events = before ++ Delivery.log preamble deliveries ∧
      exporting.summary.Counts preamble.queryId deliveries ∧ exporting.forwarder.Counts deliveries
  /-- The last frame was empty. -/
  closing : ∀ forwarder summary, session.phase = .closing forwarder summary →
    ∃ preamble deliveries,
      Account options input preamble deliveries (Frame.bytes [] ++ session.reader.ahead) ∧
        sink.events = before ++ Delivery.log preamble deliveries ∧
        summary.Counts preamble.queryId deliveries ∧ forwarder.Counts deliveries
  /-- The last frame has not been read, decoded or written. -/
  aborting : ∀ forwarder error, session.phase = .aborting forwarder error →
    ∃ preamble deliveries rest, Account options input preamble deliveries rest ∧
      sink.events = before ++ Delivery.log preamble deliveries ∧ forwarder.Counts deliveries
  /-- The last frame had too much text. -/
  lost : session.phase = .lost → ∃ preamble deliveries rest,
    Account options input preamble deliveries rest ∧
      sink.events = before ++ Delivery.log preamble deliveries

/-- The totals of a session that has succeeded, against its input, the forwarder of its stream and
the sink. -/
structure Agrees (options : SessionOptions) (input : Bytes) (before after : MemorySink)
    (forwarder : Forwarder MemoryStream) (summary : Summary) : Prop where
  /-- They are those of all frames up to the empty one. -/
  input : ∃ preamble deliveries rest,
    Account options input preamble deliveries (Frame.bytes [] ++ rest) ∧
      after.events = before.events ++
        (Delivery.log preamble deliveries ++ [.closed preamble.queryId]) ∧
      summary.Counts preamble.queryId deliveries
  batches : forwarder.batches = summary.batches
  rows : forwarder.rows = summary.rows
  writes : (after.batchesFor summary.queryId).length =
    (before.batchesFor summary.queryId).length + summary.batches
  rowsFor : after.rowsFor summary.queryId = before.rowsFor summary.queryId + summary.rows

theorem Accounted.exact (h : Accounted options input before session sink) :
    Exact options input before session sink where
  streaming exporting hphase := by
    have hthere := h.phase
    rw [hphase] at hthere
    obtain ⟨preamble, deliveries, haccount, hevents, htook⟩ := hthere
    exact ⟨preamble, deliveries, haccount, hevents, htook.summary, htook.forwarder⟩
  closing forwarder summary hphase := by
    have hthere := h.phase
    rw [hphase] at hthere
    obtain ⟨preamble, deliveries, -, haccount, hevents, -, hforwarder, hsummary⟩ := hthere
    exact ⟨preamble, deliveries, haccount, hevents, hsummary, hforwarder⟩
  aborting forwarder error hphase := by
    have hthere := h.phase
    rw [hphase] at hthere
    exact hthere
  lost hphase := by
    have hthere := h.phase
    rw [hphase] at hthere
    exact hthere

/-- Forwarder and summary have counted the same when the stream is closed. -/
theorem Exact.counts_of_closing (h : Exact options input before session sink)
    {forwarder : Forwarder MemoryStream} {summary : Summary}
    (hphase : session.phase = .closing forwarder summary) :
    forwarder.batches = summary.batches ∧ forwarder.rows = summary.rows := by
  obtain ⟨preamble, deliveries, -, -, hsummary, hforwarder⟩ := h.closing forwarder summary hphase
  exact ⟨hforwarder.batches.trans hsummary.batches.symm, hforwarder.rows.trans hsummary.rows.symm⟩

/-- What a completed session says of the sink is what it has delivered there. -/
theorem agrees_of_completed {before after : MemorySink} {summary : Summary}
    {forwarder : Forwarder MemoryStream}
    (h : Accounted options input before.events session after)
    (hphase : session.phase = .completed summary)
    (hcounts : forwarder.batches = summary.batches ∧ forwarder.rows = summary.rows) :
    Agrees options input before after forwarder summary := by
  have hthere := h.phase
  rw [hphase] at hthere
  obtain ⟨preamble, deliveries, rest, haccount, hevents, hsummary⟩ := hthere
  have hbatches := MemorySink.batchesFor_closed hevents
  rw [← hsummary.queryId] at hbatches
  refine ⟨⟨preamble, deliveries, rest, haccount, hevents, hsummary⟩, hcounts.1, hcounts.2, ?_, ?_⟩
  · rw [hbatches, List.length_append, List.length_map, hsummary.batches]
  · rw [MemorySink.rowsFor, MemorySink.rowsFor, hbatches, Batch.totalRows_append,
      Delivery.totalRows_eq haccount.sound, hsummary.rows]

/-- **The totals of a session are exact.**  Whatever comes over the connection, and whatever the
sink has had before: after every frame of a stream, the log has grown by exactly the batches that
the session and the forwarder have counted, and these are what has been read.

When the session succeeds, its batches are the frames in front of the empty one, its rows those that
their payloads declare, its bytes those of the payloads, with whatever stands behind the rows, and
its missing values the cells spelled as such.  Batches without rows count, and so do rows without
columns.  The forwarder has counted the same when it closes its stream, and by so much the writes
and the rows that the sink has for the query have grown. -/
theorem totals_exact (options : SessionOptions) (source : Source) (writeFault : Option WriteFault)
    (before : MemorySink) :
    let start : Session MemoryStream := new options source writeFault
    (∀ n, Exact options source.bytes before.events (steps memorySink n start before).1
      (steps memorySink n start before).2) ∧
    ∀ summary, (start.run memorySink before).1.result = some (.ok summary) →
      ∃ m forwarder, (steps memorySink m start before).1.phase = .closing forwarder summary ∧
        Agrees options source.bytes before (start.run memorySink before).2 forwarder summary := by
  intro start
  have haccounted (n : Nat) := accounted_steps (accounted_new options source writeFault before) n
  refine ⟨fun n => (haccounted n).exact, fun summary hresult => ?_⟩
  have hcompleted := phase_of_result_ok hresult
  obtain ⟨k, -, hasked⟩ := acknowledging_of_steps rfl hcompleted
  obtain ⟨m, -, forwarder, hclosing, -⟩ := closing_of_steps rfl hasked
  have hcounts := (haccounted m).exact.counts_of_closing hclosing
  exact ⟨m, forwarder, hclosing, agrees_of_completed (haccounted start.budget) hcompleted hcounts⟩

set_option maxRecDepth 10000 in
/-- Two rows, of which one misses its value, with a byte behind them, and no rows at all. -/
theorem totals_exact_two_batches :
    let options : SessionOptions := ⟨⟨none, none⟩, .permissive, none, false⟩
    let source := Source.ofBytes (Frame.bytes (Utf8.encode "q") ++
      (Frame.bytes (Utf8.encode (ColumnSchema.ofTypes [("a", .integer)]).toJson) ++
        (Frame.bytes [0, 0, 0, 2, 9, 0, 0, 0, 0, 7, 255] ++
          (Frame.bytes [0, 0, 0, 0] ++ Frame.bytes []))))
    let summary : Summary := ⟨"q", 2, 2, 15, 1⟩
    let done := (new options source none : Session MemoryStream).run memorySink (.new .none)
    done.1.result = some (.ok summary) ∧ done.2.rowsFor "q" = 2 ∧
      ∃ forwarder, Agrees options source.bytes (.new .none) done.2 forwarder summary := by
  intro options source summary done
  have hresult : done.1.result.bind Except.toOption = some summary := by decide +kernel
  have hdone : done.1.result = some (.ok summary) := by
    obtain ⟨result, hdone, hok⟩ := Option.bind_eq_some_iff.1 hresult
    cases result with
    | error error => cases hok
    | ok other =>
      cases hok
      exact hdone
  obtain ⟨-, hsuccess⟩ := totals_exact options source none (.new .none)
  obtain ⟨-, forwarder, -, hagrees⟩ := hsuccess summary hdone
  exact ⟨hdone, hagrees.rowsFor, forwarder, hagrees⟩

end Session
end BatchBridge
