import BatchBridge.Client
import BatchBridge.Proofs.Session.Faults
import BatchBridge.Proofs.Session.Log

/-!
# Replies, results and commits agree

A client is told `OK` exactly if its session has succeeded, and then the sink has committed all of
its rows; whatever goes wrong, nothing is committed.  The connection may deliver anything, late, in
part or not at all, and what the client is told may break off.

* `Phase.Told` — what the client has been told by the time a session does something.
* `Phase.Logged` — what the sink has in its log by then.
* **`Session.honest_step`** — a step keeps both true.  **`Session.honest_steps`** is the whole run,
  from a sink that nothing has been sent to.
* `Session.closing_of_acknowledging`, `Session.acknowledging_of_completed` — how a session got where
  it is.  `Session.closing_of_steps`: what has completed has closed its stream well.
* **`Session.result_reply_commit_agree`** — client, session and sink give the same account of a run.
-/

namespace BatchBridge

/-! ## What is true during a session -/

/-- What the client has been told by the time a session does this.  A session whose client cannot be
told has failed, and has told a part of what it had to say: that the token is turned down, or, if it
has got so far, that all is well. -/
def Phase.Told {Stream : Type} (asked : Prop) (fault : Option WriteFault) (reply : Bytes) :
    Phase Stream → Prop
  | .completed _ => fault = none ∧ reply = acknowledgment
  | .failed error _ =>
    error.kind ≠ .unauthorized ∧ reply = [] ∨
      error.kind = .unauthorized ∧ fault = none ∧ reply = unauthorizedReply ∨
      ∃ unheard, fault = some unheard ∧ error = .io (.transport unheard.kind) ∧
        (reply = unauthorizedReply.take unheard.sent ∨
          asked ∧ reply = acknowledgment.take unheard.sent)
  | _ => reply = []

namespace MemorySink

/-- A stream is open, and the summary counts what has been written to it. -/
def UnderWay (sink : MemorySink) (forwarder : Forwarder MemoryStream) (summary : Summary) : Prop :=
  ∃ fields batches writes, forwarder.Writes summary.queryId writes ∧
    sink.events = exportLog summary.queryId fields batches ∧
    summary.rows = Batch.totalRows batches

/-- A stream is open. -/
def Doomed (sink : MemorySink) (forwarder : Forwarder MemoryStream) : Prop :=
  ∃ id fields batches writes, forwarder.Writes id writes ∧
    sink.events = exportLog id fields batches

/-- The stream has been closed well, and the summary counts what has been written to it. -/
def Committed (sink : MemorySink) (summary : Summary) : Prop :=
  sink.faults.failClose = false ∧
    ∃ fields batches, sink.events =
        exportLog summary.queryId fields batches ++ [.closed summary.queryId] ∧
      summary.rows = Batch.totalRows batches

/-- No destination has a row. -/
def Uncommitted (sink : MemorySink) : Prop :=
  ∀ destination, sink.committedRowsFor destination = 0

theorem UnderWay.doomed {sink : MemorySink} {forwarder : Forwarder MemoryStream}
    {summary : Summary} (h : sink.UnderWay forwarder summary) : sink.Doomed forwarder := by
  obtain ⟨fields, batches, writes, hwrites, hevents, -⟩ := h
  exact ⟨_, fields, batches, writes, hwrites, hevents⟩

/-- A stream that is still open has committed nothing. -/
theorem UnderWay.uncommitted {sink : MemorySink} {forwarder : Forwarder MemoryStream}
    {summary : Summary} (h : sink.UnderWay forwarder summary) : sink.Uncommitted := by
  obtain ⟨fields, batches, -, -, hevents, -⟩ := h
  exact committedRowsFor_exportLog hevents

theorem Committed.rows {sink : MemorySink} {summary : Summary} (h : sink.Committed summary) :
    sink.committedRowsFor summary.queryId = summary.rows := by
  obtain ⟨hclose, fields, batches, hevents, hrows⟩ := h
  rw [committedRowsFor_closed hclose hevents, hrows]

theorem Committed.getLast? {sink : MemorySink} {summary : Summary} (h : sink.Committed summary) :
    sink.events.getLast? = some (.closed summary.queryId) := by
  obtain ⟨-, fields, batches, hevents, -⟩ := h
  rw [hevents, List.getLast?_concat]

/-! ### Calls -/

theorem underWay_opened {sink sink' : MemorySink} {id : String} {fields : List Field}
    {stream : MemoryStream} (h : sink.events = [])
    (hopen : memorySink.openStream id fields sink = (.ok stream, sink')) :
    sink'.UnderWay ⟨id, some stream, 0, 0⟩ (.new id) := by
  have hopened := openStream_memory id fields sink
  rw [hopen] at hopened
  cases hopened with
  | opened =>
    refine ⟨fields, [], 0, rfl, ?_, rfl⟩
    rw [record, h]
    rfl

theorem uncommitted_notOpened {sink sink' : MemorySink} {id : String} {fields : List Field}
    {error : BridgeError} (h : sink.events = [])
    (hopen : memorySink.openStream id fields sink = (.error error, sink')) :
    sink'.Uncommitted ∧ error.kind ≠ .unauthorized := by
  have hopened := openStream_memory id fields sink
  rw [hopen] at hopened
  cases hopened with
  | refused => exact ⟨committedRowsFor_nil h, nofun⟩

theorem UnderWay.written {sink sink' : MemorySink} {forwarder forwarder' : Forwarder MemoryStream}
    {summary : Summary} {batch : Batch} (h : sink.UnderWay forwarder summary)
    (hwrite : forwarder.write memorySink batch sink = ⟨.ok (), forwarder', sink'⟩)
    (payloadBytes nulls : Nat) :
    sink'.UnderWay forwarder' (summary.record batch.rows payloadBytes nulls) := by
  obtain ⟨fields, batches, writes, hwrites, hevents, hrows⟩ := h
  have hwritten := Forwarder.write_memory hwrites batch sink
  rw [hwrite] at hwritten
  cases hwritten with
  | taken _ hwrites' =>
    refine ⟨fields, batches ++ [batch], writes + 1, hwrites', ?_, ?_⟩
    · rw [record, hevents]
      exact (exportLog_append ..).symm
    · rw [Batch.totalRows_append, ← hrows]
      rfl

theorem UnderWay.notWritten {sink sink' : MemorySink}
    {forwarder forwarder' : Forwarder MemoryStream} {summary : Summary} {batch : Batch}
    {error : BridgeError} (h : sink.UnderWay forwarder summary)
    (hwrite : forwarder.write memorySink batch sink = ⟨.error error, forwarder', sink'⟩) :
    sink'.Doomed forwarder' ∧ error.kind ≠ .unauthorized := by
  obtain ⟨fields, batches, writes, hwrites, hevents, -⟩ := h
  have hwritten := Forwarder.write_memory hwrites batch sink
  rw [hwrite] at hwritten
  cases hwritten with
  | rejected _ hwrites' => exact ⟨⟨_, fields, batches, writes + 1, hwrites', hevents⟩, nofun⟩

theorem Doomed.aborted {sink : MemorySink} {forwarder : Forwarder MemoryStream}
    (h : sink.Doomed forwarder) : (forwarder.abort memorySink sink).2.Uncommitted := by
  obtain ⟨id, fields, batches, writes, hwrites, hevents⟩ := h
  have haborted : (sink.record (.aborted id)).events =
      exportLog id fields batches ++ [.aborted id] := by rw [record, hevents]
  rw [Forwarder.abort_memory hwrites]
  exact committedRowsFor_aborted haborted

theorem UnderWay.closed {sink sink' : MemorySink} {forwarder forwarder' : Forwarder MemoryStream}
    {summary : Summary} (h : sink.UnderWay forwarder summary)
    (hclose : forwarder.close memorySink sink = ⟨.ok (), forwarder', sink'⟩) :
    sink'.Committed summary := by
  obtain ⟨fields, batches, writes, hwrites, hevents, hrows⟩ := h
  have hclosed := Forwarder.close_memory hwrites sink
  rw [hclose] at hclosed
  cases hclosed with
  | committed hfault => exact ⟨hfault, fields, batches, by rw [record, hevents], hrows⟩

theorem UnderWay.notClosed {sink sink' : MemorySink}
    {forwarder forwarder' : Forwarder MemoryStream} {summary : Summary} {error : BridgeError}
    (h : sink.UnderWay forwarder summary)
    (hclose : forwarder.close memorySink sink = ⟨.error error, forwarder', sink'⟩) :
    sink'.Uncommitted ∧ error.kind ≠ .unauthorized := by
  obtain ⟨fields, batches, writes, hwrites, -, -⟩ := h
  have hclosed := Forwarder.close_memory hwrites sink
  rw [hclose] at hclosed
  cases hclosed with
  | rejected hfault => exact ⟨committedRowsFor_refused hfault, nofun⟩

end MemorySink

/-- What the log says while a session does this.  A session that has failed has committed nothing,
unless it has got so far as to tell its client. -/
def Phase.Logged (asked : Prop) (sink : MemorySink) : Phase MemoryStream → Prop
  | .streaming exporting => sink.UnderWay exporting.forwarder exporting.summary
  | .closing forwarder summary => sink.UnderWay forwarder summary
  | .aborting forwarder error => sink.Doomed forwarder ∧ error.kind ≠ .unauthorized
  | .acknowledging summary => sink.Committed summary
  | .completed summary => sink.Committed summary
  | .failed .. => asked ∨ sink.Uncommitted
  | .lost => sink.Uncommitted
  | .begin | .token _ | .queryId | .compression _ | .schema .. | .opening .. => sink.events = []

namespace Session

/-- What the client has been told and what the sink has in its log are what the phase says. -/
structure Honest (asked : Prop) (session : Session MemoryStream) (sink : MemorySink) : Prop where
  told : session.phase.Told asked session.writeFault session.reply
  log : session.phase.Logged asked sink

/-- The session is about to tell its client that all is well. -/
def Acknowledging {Stream : Type} (session : Session Stream) : Prop :=
  ∃ summary, session.phase = .acknowledging summary

variable {asked : Prop} {session : Session MemoryStream} {sink : MemorySink}

theorem honest_new (options : SessionOptions) (source : Source) (writeFault : Option WriteFault)
    (faults : SinkFaults) : Honest False (new options source writeFault) (MemorySink.new faults) :=
  ⟨rfl, rfl⟩

/-! ## Steps -/

/-- Nothing has been told before the end. -/
theorem Honest.silent (h : Honest asked session sink) (hopen : ¬session.phase.isOver = true) :
    session.reply = [] := by
  have htold := h.told
  cases hphase : session.phase with
  | completed => exact absurd (by rw [hphase]; rfl) hopen
  | failed => exact absurd (by rw [hphase]; rfl) hopen
  | _ => rwa [hphase] at htold

theorem honest_advance {phase : Phase MemoryStream} {reader : Frame.Reader}
    (h : Honest asked session sink) (hadvances : Advances session phase reader) :
    Honest asked { session with reader, phase } sink := by
  have htold := h.told
  have hlog := h.log
  cases hadvances with
  | tokenWanted hphase _ | noTokenWanted hphase _ | admitted hphase _ _ | negotiated hphase _ _
  | announced hphase _ _ | ended hphase _ =>
    rw [hphase] at htold hlog
    exact ⟨htold, hlog⟩
  | identified hphase _ _ =>
    rw [hphase] at htold hlog
    by_cases hnegotiate : session.options.negotiate = true
    · rw [if_pos hnegotiate]
      exact ⟨htold, hlog⟩
    · rw [if_neg hnegotiate]
      exact ⟨htold, hlog⟩
  | brokenOff hphase hread =>
    rw [hphase] at htold hlog
    have hkind := kind_ne_unauthorized_of_isReading (isReading_of_readFrame hread)
    exact ⟨htold, MemorySink.UnderWay.doomed hlog, hkind⟩
  | undecodable hphase _ _ hdecode =>
    rw [hphase] at htold hlog
    refine ⟨htold, MemorySink.UnderWay.doomed hlog, ?_⟩
    rw [kind_of_decodeBatch hdecode]
    decide

/-- A session that fails has told its client nothing, unless it has turned down the token. -/
theorem honest_failed {error : BridgeError} {state : SessionState} {reader : Frame.Reader}
    {sink' : MemorySink} (h : Honest asked session sink) (hopen : ¬session.phase.isOver = true)
    (hkind : error.kind ≠ .unauthorized) (hlog : asked ∨ sink'.Uncommitted) :
    Honest asked { session with reader, phase := .failed error state } sink' :=
  ⟨.inl ⟨hkind, h.silent hopen⟩, hlog⟩

theorem Honest.weaken {asked' : Prop} (h : Honest asked session sink) (himp : asked → asked') :
    Honest asked' session sink := by
  have htold := h.told
  have hlog := h.log
  cases hphase : session.phase with
  | failed =>
    rw [hphase] at htold hlog
    refine ⟨?_, by rw [hphase]; exact hlog.imp himp id⟩
    rw [hphase]
    refine htold.imp_right (Or.imp_right ?_)
    rintro ⟨unheard, hfault, herror, hreply⟩
    exact ⟨unheard, hfault, herror, hreply.imp_right (And.imp_left himp)⟩
  | _ =>
    rw [hphase] at htold hlog
    exact ⟨by rw [hphase]; exact htold, by rw [hphase]; exact hlog⟩

/-- Before a stream is opened, nothing is in the log. -/
theorem Fails.events_eq_nil {error : BridgeError} {reader : Frame.Reader}
    (hfails : Fails session error reader) (h : Honest asked session sink) :
    sink.events = [] ∧ ¬session.phase.isOver = true := by
  have hlog := h.log
  cases hfails with
  | noToken hphase _ _ | noQueryId hphase _ | badQueryId hphase _ _ | noMethod hphase _
  | badMethod hphase _ _ | noSchema hphase _ | badSchema hphase _ _ =>
    rw [hphase] at hlog
    refine ⟨hlog, ?_⟩
    rw [hphase]
    exact Bool.false_ne_true

/-- What a phase before the end says is true of a session that goes on to it. -/
theorem honest_goTo {phase : Phase MemoryStream} {reader : Frame.Reader} {sink' : MemorySink}
    (h : Honest asked session sink) (hopen : ¬session.phase.isOver = true)
    (htold : phase.Told asked session.writeFault []) (hlog : phase.Logged asked sink') :
    Honest asked { session with reader, phase } sink' := by
  refine ⟨?_, hlog⟩
  show phase.Told asked session.writeFault session.reply
  rw [h.silent hopen]
  exact htold

/-- **A step keeps client and sink up to date.** -/
theorem honest_step (h : Honest asked session sink) :
    Honest (asked ∨ session.Acknowledging) (session.step memorySink sink).1
      (session.step memorySink sink).2 := by
  have hmove := move_step memorySink session sink
  have hlog := h.log
  have hgoing {phase : Phase MemoryStream} (hphase : session.phase = phase)
      (hover : phase.isOver = false) : ¬session.phase.isOver = true := by
    rw [hphase, hover]
    exact Bool.false_ne_true
  generalize session.step memorySink sink = result at hmove
  cases hmove with
  | advance hadvances => exact (honest_advance h hadvances).weaken .inl
  | fail hfails =>
    obtain ⟨hevents, hopen⟩ := hfails.events_eq_nil h
    have hnone := MemorySink.committedRowsFor_nil hevents
    exact (honest_failed h hopen hfails.kind_ne_unauthorized (.inr hnone)).weaken .inl
  | refused hphase _ _ hfault =>
    have hreply := h.silent (hgoing hphase rfl)
    rw [hphase] at hlog
    refine ⟨.inr (.inl ⟨rfl, hfault, ?_⟩), .inr (MemorySink.committedRowsFor_nil hlog)⟩
    show session.reply ++ unauthorizedReply = unauthorizedReply
    rw [hreply, List.nil_append]
  | @notRefused _ _ _ _ unheard hphase _ _ hfault =>
    have hreply := h.silent (hgoing hphase rfl)
    rw [hphase] at hlog
    refine ⟨.inr (.inr ⟨unheard, hfault, rfl, .inl ?_⟩),
      .inr (MemorySink.committedRowsFor_nil hlog)⟩
    show session.reply ++ _ = _
    rw [hreply, List.nil_append]
  | opened hphase hopen =>
    rw [hphase] at hlog
    refine (honest_goTo h (hgoing hphase rfl) ?_ ?_).weaken .inl
    · rfl
    · exact MemorySink.underWay_opened hlog hopen
  | notOpened hphase hopen =>
    rw [hphase] at hlog
    obtain ⟨hnone, hkind⟩ := MemorySink.uncommitted_notOpened hlog hopen
    exact (honest_failed h (hgoing hphase rfl) hkind (.inr hnone)).weaken .inl
  | written hphase _ _ _ hwrite =>
    rw [hphase] at hlog
    refine (honest_goTo h (hgoing hphase rfl) ?_ ?_).weaken .inl
    · rfl
    · exact MemorySink.UnderWay.written hlog hwrite _ _
  | notWritten hphase _ _ _ hwrite =>
    rw [hphase] at hlog
    refine (honest_goTo h (hgoing hphase rfl) ?_ ?_).weaken .inl
    · rfl
    · exact MemorySink.UnderWay.notWritten hlog hwrite
  | aborted hphase =>
    rw [hphase] at hlog
    obtain ⟨hdoomed, hkind⟩ := hlog
    exact (honest_failed h (hgoing hphase rfl) hkind (.inr hdoomed.aborted)).weaken .inl
  | closed hphase hclose =>
    rw [hphase] at hlog
    refine (honest_goTo h (hgoing hphase rfl) ?_ ?_).weaken .inl
    · rfl
    · exact MemorySink.UnderWay.closed hlog hclose
  | notClosed hphase hclose =>
    rw [hphase] at hlog
    obtain ⟨hnone, hkind⟩ := MemorySink.UnderWay.notClosed hlog hclose
    exact (honest_failed h (hgoing hphase rfl) hkind (.inr hnone)).weaken .inl
  | told hphase hfault =>
    have hreply := h.silent (hgoing hphase rfl)
    rw [hphase] at hlog
    refine ⟨⟨hfault, ?_⟩, hlog⟩
    show session.reply ++ acknowledgment = acknowledgment
    rw [hreply, List.nil_append]
  | @notTold _ unheard hphase hfault =>
    -- The only way to fail with everything committed.
    have hasked : session.Acknowledging := ⟨_, hphase⟩
    have hreply := h.silent (hgoing hphase rfl)
    refine ⟨.inr (.inr ⟨unheard, hfault, rfl, .inr ⟨.inr hasked, ?_⟩⟩), .inl (.inr hasked)⟩
    show session.reply ++ _ = _
    rw [hreply, List.nil_append]
  | lost hphase _ _ _ =>
    rw [hphase] at hlog
    refine (honest_goTo h (hgoing hphase rfl) ?_ ?_).weaken .inl
    · rfl
    · rw [Forwarder.release_memory]
      exact MemorySink.UnderWay.uncommitted hlog
  | terminal _ => exact h.weaken .inl

/-! ## Where a session comes from -/

section Origin

variable {World Stream : Type} {sink : StreamSink World Stream} {session : Session Stream}
  {world : World}

/-- Only a stream that has been closed well makes a session tell its client so. -/
theorem closing_of_acknowledging {summary : Summary}
    (h : (session.step sink world).1.phase = .acknowledging summary) :
    ∃ forwarder, session.phase = .closing forwarder summary ∧
      (forwarder.close sink world).result = .ok () := by
  have hmove := move_step sink session world
  generalize session.step sink world = result at hmove h
  cases hmove with
  | closed hphase hclose =>
    cases h
    exact ⟨_, hphase, by rw [hclose]⟩
  | advance hadvances =>
    cases hadvances with
    | identified => simp only at h; split at h <;> cases h
    | _ => cases h
  | terminal hover =>
    rw [h] at hover
    cases hover
  | _ => cases h

/-- Only telling its client completes a session. -/
theorem acknowledging_of_completed {summary : Summary}
    (h : (session.step sink world).1.phase = .completed summary) :
    session.phase = .acknowledging summary ∨ session.phase = .completed summary := by
  have hmove := move_step sink session world
  generalize session.step sink world = result at hmove h
  cases hmove with
  | told hphase _ =>
    cases h
    exact .inl hphase
  | terminal _ => exact .inr h
  | advance hadvances =>
    cases hadvances with
    | identified => simp only at h; split at h <;> cases h
    | _ => cases h
  | _ => cases h

theorem acknowledging_of_steps {summary : Summary} {n : Nat} (hopen : session.phase = .begin)
    (h : (steps sink n session world).1.phase = .completed summary) :
    ∃ m < n, (steps sink m session world).1.phase = .acknowledging summary := by
  induction n with
  | zero =>
    rw [show (steps sink 0 session world).1.phase = session.phase from rfl, hopen] at h
    cases h
  | succ n ih =>
    rw [steps_succ] at h
    rcases acknowledging_of_completed h with hasked | hover
    · exact ⟨n, Nat.lt_succ_self n, hasked⟩
    · obtain ⟨m, hm, hasked⟩ := ih hover
      exact ⟨m, Nat.lt_succ_of_lt hm, hasked⟩

/-- **A session that tells its client that all is well has closed its stream well.** -/
theorem closing_of_steps {summary : Summary} {n : Nat} (hopen : session.phase = .begin)
    (h : (steps sink n session world).1.phase = .acknowledging summary) :
    ∃ m < n, ∃ forwarder, (steps sink m session world).1.phase = .closing forwarder summary ∧
      (forwarder.close sink (steps sink m session world).2).result = .ok () := by
  cases n with
  | zero =>
    rw [show (steps sink 0 session world).1.phase = session.phase from rfl, hopen] at h
    cases h
  | succ m =>
    rw [steps_succ] at h
    obtain ⟨forwarder, hclosing, hclose⟩ := closing_of_acknowledging h
    exact ⟨m, Nat.lt_succ_self m, forwarder, hclosing, hclose⟩

end Origin

/-! ## Whole runs -/

/-- **Client and sink are up to date at every step.** -/
theorem honest_steps (h : Honest False session sink) (n : Nat) :
    Honest (∃ m < n, (steps memorySink m session sink).1.Acknowledging)
      (steps memorySink n session sink).1 (steps memorySink n session sink).2 := by
  induction n with
  | zero => exact h.weaken False.elim
  | succ n ih =>
    rw [steps_succ]
    refine (honest_step ih).weaken ?_
    rintro (⟨m, hm, hasked⟩ | hasked)
    · exact ⟨m, Nat.lt_succ_of_lt hm, hasked⟩
    · exact ⟨n, Nat.lt_succ_self n, hasked⟩

theorem writeFault_step (session : Session MemoryStream) (sink : MemorySink) :
    (session.step memorySink sink).1.writeFault = session.writeFault := by
  have hmove := move_step memorySink session sink
  generalize session.step memorySink sink = result at hmove
  cases hmove <;> rfl

theorem writeFault_steps (session : Session MemoryStream) (sink : MemorySink) (n : Nat) :
    (steps memorySink n session sink).1.writeFault = session.writeFault := by
  induction n with
  | zero => rfl
  | succ n ih => rw [steps_succ, writeFault_step, ih]

/-- A session that fails after having got so far as to tell its client fails because of that. -/
theorem error_of_acknowledging {error : BridgeError} {m : Nat}
    (hasked : (steps memorySink m session sink).1.Acknowledging)
    (hresult : (session.run memorySink sink).1.result = some (.error error)) :
    ∃ unheard, session.writeFault = some unheard ∧ error = .io (.transport unheard.kind) := by
  obtain ⟨summary, hphase⟩ := hasked
  have hrun (next : Phase MemoryStream) (hnext : next.isOver = true)
      (hstep : (steps memorySink (m + 1) session sink).1.phase = next) :
      (session.run memorySink sink).1.phase = next := by
    rw [run_eq_steps (by rw [hstep]; exact hnext), hstep]
  have hfault := writeFault_steps session sink m
  rcases Option.eq_none_or_eq_some session.writeFault with hnone | ⟨unheard, hsome⟩
  · have hcompleted := hrun (.completed summary) rfl (by
      rw [steps_succ, step, hphase]
      exact congrArg phase (tell_of_none (hfault.trans hnone) ..))
    rw [result, hcompleted] at hresult
    cases hresult
  · have hfailed := hrun (.failed (.io (.transport unheard.kind)) .streamingBatches) rfl (by
      rw [steps_succ, step, hphase]
      refine (congrArg phase (tell_of_some (hfault.trans hsome) ..)).trans ?_
      show Phase.failed _ (Phase.state _) = _
      rw [hphase]
      rfl)
    rw [result, hfailed] at hresult
    cases hresult
    exact ⟨unheard, hsome, rfl⟩

/-- What the sink holds of a session that is over, and what a client has been told that takes
everything. -/
structure Heard (session : Session MemoryStream) (sink : MemorySink) : Prop where
  state : (∃ summary, session.result = some (.ok summary)) ↔ session.state = .completed
  committed : ∀ summary, session.result = some (.ok summary) →
    sink.events.getLast? = some (.closed summary.queryId) ∧
      sink.committedRowsFor summary.queryId = summary.rows
  reply : session.writeFault = none →
    ((∃ summary, session.result = some (.ok summary)) ↔ session.reply = acknowledgment)
  client : session.writeFault = none →
    ((∃ summary, session.result = some (.ok summary)) ↔
      Client.checkReply session.reply = .ok ())
  refused : session.writeFault = none →
    ((∃ error, session.result = some (.error error) ∧ error.kind = .unauthorized) ↔
      session.reply = unauthorizedReply)
  /-- An error about which there is something in the reply is that of writing it. -/
  silent : ∀ error, session.result = some (.error error) → error.kind ≠ .unauthorized →
    session.reply = [] ∨
      ∃ unheard, session.writeFault = some unheard ∧ error = .io (.transport unheard.kind)
  /-- A session without a result has gone down with a builder. -/
  lost : session.result = none → session.phase = .lost ∧ session.reply = [] ∧
    ∀ destination, sink.committedRowsFor destination = 0

theorem checkReply_eq_ok_iff {reply : Bytes} :
    Client.checkReply reply = .ok () ↔ reply = acknowledgment := by
  rw [Client.checkReply]
  by_cases h : reply = acknowledgment
  · rw [if_pos h]
    exact iff_of_true rfl h
  · rw [if_neg h]
    exact iff_of_false nofun h

theorem acknowledgment_ne_nil : acknowledgment ≠ [] := by decide

theorem acknowledgment_ne_unauthorizedReply : acknowledgment ≠ unauthorizedReply := by decide

theorem unauthorizedReply_ne_nil : unauthorizedReply ≠ [] := by decide

theorem heard_of_completed {summary : Summary} (h : Honest asked session sink)
    (hphase : session.phase = .completed summary) : Heard session sink := by
  have htold := h.told
  have hlog := h.log
  rw [hphase] at htold hlog
  obtain ⟨-, hreply⟩ := htold
  have hresult : session.result = some (.ok summary) := by rw [result, hphase]
  have hok : ∃ other, session.result = some (.ok other) := ⟨_, hresult⟩
  constructor
  · refine iff_of_true hok ?_
    rw [Session.state, hphase]
    rfl
  · intro other hother
    rw [hresult] at hother
    cases hother
    exact ⟨MemorySink.Committed.getLast? hlog, MemorySink.Committed.rows hlog⟩
  · exact fun _ => iff_of_true hok hreply
  · exact fun _ => iff_of_true hok (checkReply_eq_ok_iff.2 hreply)
  · refine fun _ => iff_of_false ?_ ?_
    · rintro ⟨error, herror, -⟩
      rw [hresult] at herror
      cases herror
    · rw [hreply]
      exact acknowledgment_ne_unauthorizedReply
  · intro error herror
    rw [hresult] at herror
    cases herror
  · intro hnone
    rw [hresult] at hnone
    cases hnone

theorem heard_of_failed {error : BridgeError} {state : SessionState}
    (h : Honest asked session sink) (hphase : session.phase = .failed error state) :
    Heard session sink := by
  have htold := h.told
  rw [hphase] at htold
  have hreply (hnone : session.writeFault = none) :
      session.reply = if error.kind = .unauthorized then unauthorizedReply else [] := by
    rcases htold with ⟨hkind, hreply⟩ | ⟨hkind, -, hreply⟩ | ⟨unheard, hsome, -⟩
    · rw [hreply, if_neg hkind]
    · rw [hreply, if_pos hkind]
    · rw [hnone] at hsome
      cases hsome
  have hresult : session.result = some (.error error) := by rw [result, hphase]
  have hfails : ¬∃ summary, session.result = some (.ok summary) := by
    rintro ⟨summary, hok⟩
    rw [hresult] at hok
    cases hok
  have hack (hnone : session.writeFault = none) : session.reply ≠ acknowledgment := by
    rw [hreply hnone]
    split
    · exact acknowledgment_ne_unauthorizedReply.symm
    · exact acknowledgment_ne_nil.symm
  constructor
  · refine iff_of_false hfails ?_
    rw [Session.state, hphase]
    exact SessionState.noConfusion
  · exact fun summary hok => absurd ⟨summary, hok⟩ hfails
  · exact fun hnone => iff_of_false hfails (hack hnone)
  · exact fun hnone => iff_of_false hfails fun hok => hack hnone (checkReply_eq_ok_iff.1 hok)
  · intro hnone
    constructor
    · rintro ⟨other, hother, hkind⟩
      rw [hresult] at hother
      cases hother
      rw [hreply hnone, if_pos hkind]
    · intro hrefused
      refine ⟨error, hresult, Decidable.byContradiction fun hkind => ?_⟩
      rw [hreply hnone, if_neg hkind] at hrefused
      exact unauthorizedReply_ne_nil hrefused.symm
  · intro other hother hkind
    rw [hresult] at hother
    cases hother
    rcases htold with ⟨-, hreply⟩ | ⟨hunauthorized, -⟩ | ⟨unheard, hsome, rfl, -⟩
    · exact .inl hreply
    · exact absurd hunauthorized hkind
    · exact .inr ⟨unheard, hsome, rfl⟩
  · intro hnone
    rw [hresult] at hnone
    cases hnone

theorem heard_of_lost (h : Honest asked session sink) (hphase : session.phase = .lost) :
    Heard session sink := by
  have hreply := h.told
  have hlog := h.log
  rw [hphase] at hreply hlog
  have hresult : session.result = none := by rw [result, hphase]
  have hfails : ¬∃ summary, session.result = some (.ok summary) := by
    rintro ⟨summary, hok⟩
    rw [hresult] at hok
    cases hok
  have hack : session.reply ≠ acknowledgment := by
    rw [hreply]
    exact acknowledgment_ne_nil.symm
  constructor
  · refine iff_of_false hfails ?_
    rw [Session.state, hphase]
    exact SessionState.noConfusion
  · exact fun summary hok => absurd ⟨summary, hok⟩ hfails
  · exact fun _ => iff_of_false hfails hack
  · exact fun _ => iff_of_false hfails fun hok => hack (checkReply_eq_ok_iff.1 hok)
  · refine fun _ => iff_of_false ?_ ?_
    · rintro ⟨error, herror, -⟩
      rw [hresult] at herror
      cases herror
    · rw [hreply]
      exact unauthorizedReply_ne_nil.symm
  · exact fun error herror _ => .inl hreply
  · exact fun _ => ⟨hphase, hreply, hlog⟩

/-- However a run ends, client and sink have heard of it. -/
theorem heard_run (h : Honest False session sink) :
    Heard (session.run memorySink sink).1 (session.run memorySink sink).2 := by
  have hhonest := honest_steps h session.budget
  have hover : (session.run memorySink sink).1.phase.isOver = true := isOver_run ..
  cases hphase : (session.run memorySink sink).1.phase with
  | completed summary => exact heard_of_completed hhonest hphase
  | failed error state => exact heard_of_failed hhonest hphase
  | lost => exact heard_of_lost hhonest hphase
  | _ =>
    rw [hphase] at hover
    cases hover

/-- The stream has been closed before a step, which went well, and the client had been told nothing
until then. -/
def ClosedBefore (session : Session MemoryStream) (sink : MemorySink) (n : Nat) : Prop :=
  ∃ m < n, ∃ forwarder summary stream,
    (steps memorySink m session sink).1.phase = .closing forwarder summary ∧
      forwarder.stream = some stream ∧
      (memorySink.close stream (steps memorySink m session sink).2).result = .ok () ∧
      (steps memorySink m session sink).1.reply = []

/-- Whoever is about to tell its client that all is well has closed its stream before. -/
theorem closedBefore_of_acknowledging (h : Honest False session sink)
    (hopen : session.phase = .begin) {n k : Nat} (hk : k < n)
    (hasked : (steps memorySink k session sink).1.Acknowledging) :
    ClosedBefore session sink n := by
  obtain ⟨summary, hphase⟩ := hasked
  obtain ⟨m, hm, forwarder, hclosing, hclose⟩ := closing_of_steps hopen hphase
  have hhonest := honest_steps h m
  have hlog := hhonest.log
  have hsilent := hhonest.told
  rw [hclosing] at hlog hsilent
  obtain ⟨fields, batches, writes, hwrites, -, -⟩ := hlog
  rw [Forwarder.close, hwrites] at hclose
  exact ⟨m, Nat.lt_trans hm hk, forwarder, summary, _, hclosing, hwrites, hclose, hsilent⟩

/-- What a client has been told at some moment, whether or not it can be told. -/
theorem reply_steps (h : Honest False session sink) (hopen : session.phase = .begin) (n : Nat) :
    (steps memorySink n session sink).1.reply = [] ∨
      (steps memorySink n session sink).1.reply =
        WriteFault.passed session.writeFault unauthorizedReply ∨
      (steps memorySink n session sink).1.reply =
        WriteFault.passed session.writeFault acknowledgment ∧ ClosedBefore session sink n := by
  have hhonest := honest_steps h n
  have htold := hhonest.told
  rw [writeFault_steps] at htold
  cases hphase : (steps memorySink n session sink).1.phase with
  | completed summary =>
    rw [hphase] at htold
    obtain ⟨hnone, hreply⟩ := htold
    obtain ⟨k, hk, hasked⟩ := acknowledging_of_steps hopen hphase
    rw [hnone]
    exact .inr (.inr ⟨hreply, closedBefore_of_acknowledging h hopen hk ⟨_, hasked⟩⟩)
  | failed error state =>
    rw [hphase] at htold
    rcases htold with ⟨-, hreply⟩ | ⟨-, hnone, hreply⟩ | ⟨unheard, hsome, -, hreply⟩
    · exact .inl hreply
    · rw [hnone]
      exact .inr (.inl hreply)
    · rw [hsome]
      refine .inr (hreply.imp_right ?_)
      rintro ⟨⟨k, hk, hasked⟩, hreply⟩
      exact ⟨hreply, closedBefore_of_acknowledging h hopen hk hasked⟩
  | _ =>
    rw [hphase] at htold
    exact .inl htold

/-- **A run that fails commits nothing**, unless its client could not be told that all is well. -/
theorem uncommitted_or_untold (h : Honest False session sink) {error : BridgeError}
    (hresult : (session.run memorySink sink).1.result = some (.error error)) :
    (session.run memorySink sink).2.Uncommitted ∨
      ∃ unheard m, session.writeFault = some unheard ∧
        error = .io (.transport unheard.kind) ∧
        (steps memorySink m session sink).1.Acknowledging := by
  have hlog := (honest_steps h session.budget).log
  obtain ⟨state, hphase⟩ := phase_of_result_error hresult
  rw [show (steps memorySink session.budget session sink).1.phase = _ from hphase] at hlog
  rcases hlog with ⟨m, -, hasked⟩ | hnone
  · obtain ⟨unheard, hfault, rfl⟩ := error_of_acknowledging hasked hresult
    exact .inr ⟨unheard, m, hfault, rfl, hasked⟩
  · exact .inl hnone

/-- **Acknowledgment, result and commit agree.**  Whatever comes over the connection, and whatever
of the reply gets through, a session over a fresh sink comes to an end.  It succeeds exactly if it
is completed, and then all its rows are committed.  A client that takes its reply has been told `OK`
exactly if the session has succeeded, and that it is unauthorized exactly if it is; any other error
leaves it without a word.  No byte of `OK` is ever written before a close of the stream that went
well, and whatever goes wrong commits nothing, unless it is the telling itself.  A session that is
lost ends without a result, tells nothing and commits nothing. -/
theorem result_reply_commit_agree (options : SessionOptions) (source : Source)
    (writeFault : Option WriteFault) (faults : SinkFaults) :
    let start : Session MemoryStream := new options source writeFault
    let sink := MemorySink.new faults
    let done := start.run memorySink sink
    done.1.phase.isOver ∧ Heard done.1 done.2 ∧
      (∀ n, (steps memorySink n start sink).1.reply = [] ∨
        (steps memorySink n start sink).1.reply = WriteFault.passed writeFault unauthorizedReply ∨
        (steps memorySink n start sink).1.reply = WriteFault.passed writeFault acknowledgment ∧
          ClosedBefore start sink n) ∧
      (∀ error, done.1.result = some (.error error) →
        (∀ destination, done.2.committedRowsFor destination = 0) ∨
          ∃ unheard m, writeFault = some unheard ∧ error = .io (.transport unheard.kind) ∧
            (steps memorySink m start sink).1.Acknowledging) := by
  intro start sink done
  have hstart : Honest False start sink := honest_new ..
  have hreply (n : Nat) := reply_steps hstart rfl n
  have hfailed (error : BridgeError) (hresult : done.1.result = some (.error error)) :=
    uncommitted_or_untold hstart hresult
  exact ⟨isOver_run .., heard_run hstart, hreply, hfailed⟩

end Session
end BatchBridge
