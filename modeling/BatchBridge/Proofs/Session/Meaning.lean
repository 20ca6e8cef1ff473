import BatchBridge.Proofs.Batch.Overflow
import BatchBridge.Proofs.Compression.Scratch
import BatchBridge.Proofs.Frame.Reading
import BatchBridge.Proofs.Session.Faults
import BatchBridge.Proofs.Session.Preamble

/-!
# What a session makes of its input

A session that gets all of its input in time is a function of the bytes alone: neither the chunks
that they come in nor the steps that are taken matter.

* `Session.Outcome` — all that can be seen of a session that is over.
* `Outcome.ofInput` — the outcome of a byte string, by reading it from the front:
  a preamble (`Preamble.read`), then batches up to an empty frame (`Outcome.ofStreaming`).
* `Outcome.next_cases` — all that the next frame of a stream can be.
* `Session.At` — where a session stands, with what it has still to read.
* **`Session.comesTo_run`** — a run comes to the outcome of its input.
-/

namespace BatchBridge

theorem Frame.length_lt_of_read {cap : Option Nat} {input payload rest : Bytes}
    (h : read cap .frame input = .ok (payload, rest)) : rest.length < input.length := by
  obtain ⟨rfl, -⟩ := read_frame_eq_ok_iff.1 h
  rw [List.length_append, length_bytes]
  have hprefix : 0 < prefixBytes := by decide
  omega

theorem Frame.kind_ne_unauthorized_of_read {cap : Option Nat} {want : Want} {input : Bytes}
    {error : BridgeError} (h : read cap want input = .error error) :
    error.kind ≠ .unauthorized := by
  rcases read_eq_error h with ⟨_, _, rfl⟩ | ⟨_, _, rfl, -, -⟩
  · exact fun h => by cases h
  · exact fun h => by cases h

namespace Session

/-! ## Outcomes -/

/-- The batch of a frame, with the size of its payload. -/
def batchOf (schema : ColumnSchema) (method : Compression.Method) (frame : Bytes) :
    Decoded BridgeError (Batch × Nat) :=
  ((Decoded.ofExcept (Compression.Decompressor.expand method 0 frame)).bind fun payload =>
    (Batch.decode schema payload.data.toList).map fun batch => (batch, payload.size)).mapError
      .batchDecode

section BatchOf

variable {schema : ColumnSchema} {method : Compression.Method} {frame : Bytes}

/-- There is one if the frame can be decompressed and its payload read. -/
theorem batchOf_eq_ok_iff {batch : Batch} {size : Nat} :
    batchOf schema method frame = .ok (batch, size) ↔
      ∃ payload, Compression.Decompressor.expand method 0 frame = .ok payload ∧
        Batch.decode schema payload.data.toList = .ok batch ∧ payload.size = size := by
  rw [batchOf]
  cases Compression.Decompressor.expand method 0 frame with
  | error fault => simp [Decoded.ofExcept, Decoded.bind, Decoded.mapError]
  | ok payload =>
    cases hdecode : Batch.decode schema payload.data.toList <;>
      simp [Decoded.ofExcept, Decoded.bind, Decoded.mapError, Decoded.map, hdecode]

/-- It is lost if its payload has too much text for a column. -/
theorem batchOf_eq_lost_iff :
    batchOf schema method frame = .lost ↔
      ∃ payload, Compression.Decompressor.expand method 0 frame = .ok payload ∧
        Spelling.Overflows schema payload.data.toList := by
  rw [batchOf]
  cases Compression.Decompressor.expand method 0 frame with
  | error fault => simp [Decoded.ofExcept, Decoded.bind, Decoded.mapError]
  | ok payload =>
    cases hdecode : Batch.decode schema payload.data.toList <;>
      simp [Decoded.ofExcept, Decoded.bind, Decoded.mapError, Decoded.map,
        ← Batch.decode_eq_lost_iff, hdecode]

end BatchOf

/-- What can be seen of a session that is over.  One that is lost has no result. -/
structure Outcome (World : Type) where
  result : Option (Except BridgeError Summary)
  failedIn : Option SessionState
  reply : Bytes
  world : World

namespace Outcome

variable {World Stream : Type}

/-- A session that has gone wrong and has told its client nothing. -/
def failure (error : BridgeError) (state : SessionState) (world : World) : Outcome World :=
  ⟨some (.error error), some state, [], world⟩

/-- The peer was gone before everything had come. -/
def IsCut (outcome : Outcome World) : Prop :=
  ∃ error, outcome.result = some (.error error) ∧ error.IsCut

theorem isCut_failure_iff {error : BridgeError} {state : SessionState} {world : World} :
    (failure error state world).IsCut ↔ error.IsCut :=
  ⟨fun ⟨_, h, hcut⟩ => by cases h; exact hcut, fun hcut => ⟨error, rfl, hcut⟩⟩

/-- A refusal, of which only a client whose token is turned down is told. -/
def ofRefusal (fault : Option WriteFault) (refusal : Refusal) (world : World) : Outcome World :=
  if refusal.error.kind = .unauthorized then
    match fault with
    | some fault =>
      { failure (.io (.transport fault.kind)) refusal.state world with
        reply := unauthorizedReply.take fault.sent }
    | none => { failure refusal.error refusal.state world with reply := unauthorizedReply }
  else failure refusal.error refusal.state world

theorem ofRefusal_of_ne {fault : Option WriteFault} {refusal : Refusal} {world : World}
    (h : refusal.error.kind ≠ .unauthorized) :
    ofRefusal fault refusal world = failure refusal.error refusal.state world := if_neg h

/-- The client is told. -/
def ofAcknowledging (fault : Option WriteFault) (summary : Summary) (world : World) :
    Outcome World :=
  match fault with
  | some fault =>
    { failure (.io (.transport fault.kind)) .streamingBatches world with
      reply := acknowledgment.take fault.sent }
  | none => ⟨some (.ok summary), none, acknowledgment, world⟩

variable (sink : StreamSink World Stream) (fault : Option WriteFault)

/-- The stream is aborted, because of an error. -/
def ofAborting (forwarder : Forwarder Stream) (error : BridgeError) (world : World) :
    Outcome World :=
  failure error .streamingBatches (forwarder.abort sink world).2

/-- The session goes down with its stream. -/
def ofLost (forwarder : Forwarder Stream) (world : World) : Outcome World :=
  ⟨none, none, [], forwarder.release sink world⟩

/-- The stream is closed, and the client is told. -/
def ofClosing (forwarder : Forwarder Stream) (summary : Summary) (world : World) : Outcome World :=
  let called := forwarder.close sink world
  match called.result with
  | .error error => failure error .streamingBatches called.world
  | .ok () => ofAcknowledging fault summary called.world

/-- Batches are taken up to an empty frame. -/
def ofStreaming (cap : Option Nat) (schema : ColumnSchema) (method : Compression.Method)
    (forwarder : Forwarder Stream) (summary : Summary) (input : Bytes) (world : World) :
    Outcome World :=
  match _hread : Frame.read cap .frame input with
  | .error error => ofAborting sink forwarder error world
  | .ok (frame, rest) =>
    if frame.isEmpty then ofClosing sink fault forwarder summary world
    else
      match batchOf schema method frame with
      | .error error => ofAborting sink forwarder error world
      | .lost => ofLost sink forwarder world
      | .ok (batch, size) =>
        let called := forwarder.write sink batch world
        match called.result with
        | .error error => ofAborting sink called.stream error called.world
        | .ok () =>
          ofStreaming cap schema method called.stream
            (summary.record batch.rows size batch.nullCount) rest called.world
termination_by input.length
decreasing_by exact Frame.length_lt_of_read _hread

section Streaming

variable {sink fault} {cap : Option Nat} {schema : ColumnSchema} {method : Compression.Method}
  {forwarder forwarder' : Forwarder Stream} {summary : Summary} {input frame rest : Bytes}
  {world world' : World} {error : BridgeError} {batch : Batch} {size : Nat}

/-- One frame of a stream. -/
theorem ofStreaming_of_read (hread : Frame.read cap .frame input = .ok (frame, rest)) :
    ofStreaming sink fault cap schema method forwarder summary input world =
      if frame.isEmpty then ofClosing sink fault forwarder summary world
      else
        match batchOf schema method frame with
        | .error error => ofAborting sink forwarder error world
        | .lost => ofLost sink forwarder world
        | .ok (batch, size) =>
          match (forwarder.write sink batch world).result with
          | .error error =>
            ofAborting sink (forwarder.write sink batch world).stream error
              (forwarder.write sink batch world).world
          | .ok () =>
            ofStreaming sink fault cap schema method (forwarder.write sink batch world).stream
              (summary.record batch.rows size batch.nullCount) rest
              (forwarder.write sink batch world).world := by
  rw [ofStreaming]
  split
  · rename_i herror
    rw [hread] at herror
    cases herror
  · rename_i hok
    rw [hread] at hok
    cases hok
    rfl

theorem ofStreaming_of_error (hread : Frame.read cap .frame input = .error error) :
    ofStreaming sink fault cap schema method forwarder summary input world =
      ofAborting sink forwarder error world := by
  rw [ofStreaming]
  split
  · rename_i herror
    rw [hread] at herror
    cases herror
    rfl
  · rename_i hok
    rw [hread] at hok
    cases hok

theorem ofStreaming_of_empty (hread : Frame.read cap .frame input = .ok ([], rest)) :
    ofStreaming sink fault cap schema method forwarder summary input world =
      ofClosing sink fault forwarder summary world := by
  rw [ofStreaming_of_read hread]
  rfl

theorem ofStreaming_of_undecodable (hread : Frame.read cap .frame input = .ok (frame, rest))
    (hne : frame ≠ []) (hbatch : batchOf schema method frame = .error error) :
    ofStreaming sink fault cap schema method forwarder summary input world =
      ofAborting sink forwarder error world := by
  have hempty : ¬frame.isEmpty = true := fun h => hne (List.isEmpty_iff.1 h)
  rw [ofStreaming_of_read hread, if_neg hempty, hbatch]

theorem ofStreaming_of_lost (hread : Frame.read cap .frame input = .ok (frame, rest))
    (hne : frame ≠ []) (hbatch : batchOf schema method frame = .lost) :
    ofStreaming sink fault cap schema method forwarder summary input world =
      ofLost sink forwarder world := by
  have hempty : ¬frame.isEmpty = true := fun h => hne (List.isEmpty_iff.1 h)
  rw [ofStreaming_of_read hread, if_neg hempty, hbatch]

theorem ofStreaming_of_notWritten (hread : Frame.read cap .frame input = .ok (frame, rest))
    (hne : frame ≠ []) (hbatch : batchOf schema method frame = .ok (batch, size))
    (hwrite : forwarder.write sink batch world = ⟨.error error, forwarder', world'⟩) :
    ofStreaming sink fault cap schema method forwarder summary input world =
      ofAborting sink forwarder' error world' := by
  have hempty : ¬frame.isEmpty = true := fun h => hne (List.isEmpty_iff.1 h)
  rw [ofStreaming_of_read hread, if_neg hempty, hbatch]
  simp only [hwrite]

theorem ofStreaming_of_written (hread : Frame.read cap .frame input = .ok (frame, rest))
    (hne : frame ≠ []) (hbatch : batchOf schema method frame = .ok (batch, size))
    (hwrite : forwarder.write sink batch world = ⟨.ok (), forwarder', world'⟩) :
    ofStreaming sink fault cap schema method forwarder summary input world =
      ofStreaming sink fault cap schema method forwarder'
        (summary.record batch.rows size batch.nullCount) rest world' := by
  have hempty : ¬frame.isEmpty = true := fun h => hne (List.isEmpty_iff.1 h)
  rw [ofStreaming_of_read hread, if_neg hempty, hbatch]
  simp only [hwrite]

end Streaming

/-- What the next frame of a stream can be. -/
inductive Next (sink : StreamSink World Stream) (cap : Option Nat) (schema : ColumnSchema)
    (method : Compression.Method) (forwarder : Forwarder Stream) (input : Bytes) (world : World) :
    Prop where
  | brokenOff {error : BridgeError} : Frame.read cap .frame input = .error error →
      Next sink cap schema method forwarder input world
  | ended {rest : Bytes} : Frame.read cap .frame input = .ok ([], rest) →
      Next sink cap schema method forwarder input world
  | undecodable {frame rest : Bytes} {error : BridgeError} :
      Frame.read cap .frame input = .ok (frame, rest) → frame ≠ [] →
      batchOf schema method frame = .error error →
      Next sink cap schema method forwarder input world
  | lost {frame rest : Bytes} : Frame.read cap .frame input = .ok (frame, rest) → frame ≠ [] →
      batchOf schema method frame = .lost → Next sink cap schema method forwarder input world
  | notWritten {frame rest : Bytes} {batch : Batch} {size : Nat} {error : BridgeError}
      {forwarder' : Forwarder Stream} {world' : World} :
      Frame.read cap .frame input = .ok (frame, rest) → frame ≠ [] →
      batchOf schema method frame = .ok (batch, size) →
      forwarder.write sink batch world = ⟨.error error, forwarder', world'⟩ →
      Next sink cap schema method forwarder input world
  | written {frame rest : Bytes} {batch : Batch} {size : Nat} {forwarder' : Forwarder Stream}
      {world' : World} :
      Frame.read cap .frame input = .ok (frame, rest) → frame ≠ [] →
      batchOf schema method frame = .ok (batch, size) →
      forwarder.write sink batch world = ⟨.ok (), forwarder', world'⟩ →
      Next sink cap schema method forwarder input world

theorem next_cases (sink : StreamSink World Stream) (cap : Option Nat) (schema : ColumnSchema)
    (method : Compression.Method) (forwarder : Forwarder Stream) (input : Bytes) (world : World) :
    Next sink cap schema method forwarder input world := by
  cases hread : Frame.read cap .frame input with
  | error error => exact .brokenOff hread
  | ok taken =>
    obtain ⟨frame, rest⟩ := taken
    by_cases hne : frame = []
    · subst hne
      exact .ended hread
    · cases hbatch : batchOf schema method frame with
      | error error => exact .undecodable hread hne hbatch
      | lost => exact .lost hread hne hbatch
      | ok decoded =>
        obtain ⟨batch, size⟩ := decoded
        cases hwrite : forwarder.write sink batch world with
        | mk result forwarder' world' =>
          cases result with
          | error error => exact .notWritten hread hne hbatch hwrite
          | ok _ => exact .written hread hne hbatch hwrite

/-- A stream is opened, and batches are taken. -/
def ofOpening (cap : Option Nat) (preamble : Preamble) (input : Bytes) (world : World) :
    Outcome World :=
  match Forwarder.openStream sink preamble.queryId preamble.schema.fields world with
  | (.error error, world) => failure error .streamingBatches world
  | (.ok forwarder, world) =>
    ofStreaming sink fault cap preamble.schema preamble.method forwarder (.new preamble.queryId)
      input world

/-- A preamble has been read, or has not. -/
def ofReading (cap : Option Nat) (reading : Except Refusal (Preamble × Bytes)) (world : World) :
    Outcome World :=
  match reading with
  | .error refusal => ofRefusal fault refusal world
  | .ok (preamble, body) => ofOpening sink fault cap preamble body world

/-- **What an input comes to.** -/
def ofInput (options : SessionOptions) (input : Bytes) (world : World) : Outcome World :=
  ofReading sink fault options.limits.maxFrameBytes (Preamble.read options input) world

variable {sink fault}

theorem ofInput_of_spelled {options : SessionOptions} {preamble : Preamble} {input body : Bytes}
    {world : World} (h : preamble.Spelled options input body) :
    ofInput sink fault options input world =
      ofOpening sink fault options.limits.maxFrameBytes preamble body world := by
  rw [ofInput, Preamble.read_eq_ok_iff.2 h]
  rfl

end Outcome

/-! ## Where a session stands -/

variable {World Stream : Type}

/-- A session over a connection that still delivers `input`, and whose end it notices if `ends`. -/
structure At (options : SessionOptions) (fault : Option WriteFault) (ends : Prop)
    (phase : Phase Stream) (input : Bytes) (session : Session Stream) : Prop where
  settings : session.options = options
  fault : session.writeFault = fault
  reply : session.reply = []
  phase : session.phase = phase
  limits : session.reader.limits = options.limits
  awaits : session.reader.Awaits options.limits.maxFrameBytes input
  ends : ends → session.reader.Ends

/-- A session that is over, and what has come of it. -/
structure ComesTo (outcome : Outcome World) (done : Session Stream × World) : Prop where
  isOver : done.1.phase.isOver = true
  result : done.1.result = outcome.result
  failedIn : done.1.failedIn = outcome.failedIn
  reply : done.1.reply = outcome.reply
  world : done.2 = outcome.world

variable {sink : StreamSink World Stream} {options : SessionOptions} {fault : Option WriteFault}
  {ends : Prop} {input rest : Bytes} {session : Session Stream} {world : World}

/-- A session takes over the reader from a read that has given an item, and goes on. -/
theorem At.next {phase : Phase Stream} (h : At options fault ends phase input session)
    {reader : Frame.Reader} (hkept : session.reader.Kept reader)
    (hawaits : reader.Awaits options.limits.maxFrameBytes rest) (next : Phase Stream) :
    At options fault ends next rest { session with reader, phase := next } where
  settings := h.settings
  fault := h.fault
  reply := h.reply
  phase := rfl
  limits := hkept.limits.trans h.limits
  awaits := hawaits
  ends hends := (h.ends hends).kept hkept

theorem At.goTo {phase : Phase Stream} (h : At options fault ends phase input session)
    (next : Phase Stream) : At options fault ends next input (session.goTo next) :=
  ⟨h.settings, h.fault, h.reply, rfl, h.limits, h.awaits, h.ends⟩

/-- A session that fails without telling its client has failed, and no more. -/
theorem At.comesTo_failure {phase : Phase Stream} (h : At options fault ends phase input session)
    (reader : Frame.Reader) (error : BridgeError) (state : SessionState) (world : World) :
    ComesTo (.failure error state world)
      (({ session with reader, phase := .failed error state }, world) : Session Stream × World) :=
  ⟨rfl, rfl, rfl, h.reply, rfl⟩

/-! ## The preamble -/

theorem step_begin (h : At options fault ends .begin input session) :
    (∀ expected, options.token = some expected →
      ∃ next, session.step sink world = (next, world) ∧
        At options fault ends (.token expected) input next) ∧
    (options.token = none →
      ∃ next, session.step sink world = (next, world) ∧
        At options fault ends .queryId input next) := by
  have hsettings := h.settings
  refine ⟨fun expected htoken => ⟨session.goTo (.token expected), ?_, h.goTo _⟩,
    fun htoken => ⟨session.goTo .queryId, ?_, h.goTo _⟩⟩
  · simp only [step, h.phase, hsettings, htoken]
  · simp only [step, h.phase, hsettings, htoken]

/-- The token is there. -/
theorem step_token_of_ok {expected : String} {u : Unit}
    (h : At options fault ends (.token expected) input session)
    (htaken : Preamble.takeToken (some expected) input = .ok (u, rest)) :
    ∃ next, session.step sink world = (next, world) ∧
      At options fault ends .queryId rest next := by
  obtain ⟨presented, hread, hchecked⟩ := Preamble.takeItem_eq_ok_iff.1 htaken
  obtain ⟨rfl, hne⟩ := Preamble.checkToken_eq_ok_iff.1 hchecked
  obtain ⟨reader, hframe, hawaits, hkept⟩ :=
    Frame.Reader.readFrameCapped_of_read_ok h.awaits hread
  rw [h.limits] at hawaits
  have hempty : ¬(Utf8.encode expected).isEmpty = true := fun h => hne (List.isEmpty_iff.1 h)
  refine ⟨{ session with reader, phase := .queryId }, ?_, h.next hkept hawaits _⟩
  rw [step, h.phase]
  simp only [readToken, hframe, if_neg hempty, if_true, Session.goTo]

/-- Turning down a token comes to a refusal. -/
theorem At.comesTo_refuse {expected : String}
    (h : At options fault ends (.token expected) input session) (reader : Frame.Reader)
    (token : TokenFault) (world : World) :
    ComesTo (.ofRefusal fault ⟨.unauthorized token, .authenticating⟩ world)
      (({ session with reader }.refuse token, world) : Session Stream × World) := by
  have hstate : session.state = .authenticating := by rw [state, h.phase]; rfl
  cases fault with
  | none =>
    have htold : ({ session with reader } : Session Stream).writeFault = none := h.fault
    rw [refuse, tell_of_none htold]
    refine ⟨rfl, rfl, congrArg some hstate, ?_, rfl⟩
    show session.reply ++ unauthorizedReply = unauthorizedReply
    rw [h.reply, List.nil_append]
  | some fault =>
    have hunheard : ({ session with reader } : Session Stream).writeFault = some fault := h.fault
    rw [refuse, tell_of_some hunheard]
    refine ⟨rfl, rfl, congrArg some hstate, ?_, rfl⟩
    show session.reply ++ unauthorizedReply.take fault.sent = unauthorizedReply.take fault.sent
    rw [h.reply, List.nil_append]

/-- The token is not there. -/
theorem comesTo_of_noToken {expected : String} {refusal : Refusal}
    (h : At options fault ends (.token expected) input session)
    (hrefused : Preamble.takeToken (some expected) input = .error refusal)
    (hends : refusal.error.IsCut → ends) :
    ComesTo (.ofRefusal fault refusal world) (session.step sink world) := by
  rw [step, h.phase]
  simp only [readToken]
  rcases Preamble.takeItem_eq_error hrefused with
    ⟨error, hread, rfl⟩ | ⟨presented, rest, error, hread, hchecked, rfl⟩
  · have hends' : error.IsCut → session.reader.Ends := fun hcut => by
      rw [Preamble.tokenLost_of_isCut error hcut] at hends
      exact h.ends (hends hcut)
    have hframe := Frame.Reader.readFrameCapped_of_read_error h.awaits hends' hread
    generalize session.reader.readFrameCapped (some maxTokenBytes) = called at hframe
    obtain ⟨result, reader⟩ := called
    simp only at hframe
    subst hframe
    rcases Frame.read_eq_error hread with ⟨expected, received, rfl⟩ | ⟨length, limit, rfl, -, -⟩
    · have hfailure :=
        h.comesTo_failure reader (.connectionClosed expected received) .authenticating world
      rw [Outcome.ofRefusal_of_ne (by intro h; cases h)]
      simp only [Session.fail, Session.goTo, state, h.phase]
      exact hfailure
    · exact h.comesTo_refuse reader (.tooLong length limit) world
  · obtain ⟨reader, hframe, -, -⟩ := Frame.Reader.readFrameCapped_of_read_ok h.awaits hread
    simp only [hframe]
    rw [Preamble.checkToken] at hchecked
    split at hchecked
    · rename_i hempty
      cases hchecked
      rw [if_pos hempty]
      exact h.comesTo_refuse reader .empty world
    · rename_i hempty
      split at hchecked
      · cases hchecked
      · rename_i hmatch
        cases hchecked
        rw [if_neg hempty, if_neg hmatch]
        exact h.comesTo_refuse reader .mismatch world

/-- Whatever is wrong with what has been read, or keeps it from being read, ends the session. -/
theorem At.comesTo_afterRead {α β : Type} {phase : Phase Stream}
    (h : At options fault ends phase input session) {read : Except BridgeError α × Frame.Reader}
    {interpret : α → Except BridgeError β} {next : β → Session Stream → Session Stream}
    {error : BridgeError} (world : World)
    (herror : read.1 = .error error ∨ ∃ a, read.1 = .ok a ∧ interpret a = .error error) :
    ComesTo (.failure error phase.state world)
      (session.afterRead read fun a => orFail (interpret a) next, world) := by
  have hstate : session.state = phase.state := by rw [state, h.phase]
  obtain ⟨result, reader⟩ := read
  rcases herror with hread | ⟨a, hread, hinterpret⟩
  · simp only at hread
    subst hread
    exact ⟨rfl, rfl, congrArg some hstate, h.reply, rfl⟩
  · simp only at hread
    subst hread
    simp only [afterRead, orFail, hinterpret]
    exact ⟨rfl, rfl, congrArg some hstate, h.reply, rfl⟩

theorem step_queryId_of_ok {id : String} (h : At options fault ends .queryId input session)
    (htaken : Preamble.takeQueryId input = .ok (id, rest)) :
    ∃ next, session.step sink world = (next, world) ∧
      At options fault ends (if options.negotiate then .compression id else .schema id .none) rest
        next := by
  obtain ⟨text, hread, hparse⟩ := Preamble.takeItem_eq_ok_iff.1 htaken
  obtain ⟨reader, hframe, hawaits, hkept⟩ :=
    Frame.Reader.readFrameCapped_of_read_ok h.awaits hread
  rw [h.limits] at hawaits
  refine ⟨_, ?_, h.next hkept hawaits _⟩
  rw [step, h.phase]
  simp only [readQueryId, afterRead, hframe, orFail, hparse, Session.goTo, h.settings]

theorem comesTo_of_noQueryId {refusal : Refusal} (h : At options fault ends .queryId input session)
    (hrefused : Preamble.takeQueryId input = .error refusal)
    (hends : refusal.error.IsCut → ends) :
    ComesTo (.ofRefusal fault refusal world) (session.step sink world) := by
  rw [step, h.phase]
  rcases Preamble.takeItem_eq_error hrefused with
    ⟨error, hread, rfl⟩ | ⟨text, rest, error, hread, hparse, rfl⟩
  · rw [Outcome.ofRefusal_of_ne (Frame.kind_ne_unauthorized_of_read hread)]
    exact h.comesTo_afterRead world (.inl (Frame.Reader.readFrameCapped_of_read_error h.awaits
      (fun hcut => h.ends (hends hcut)) hread))
  · obtain ⟨reader, hframe, -, -⟩ := Frame.Reader.readFrameCapped_of_read_ok h.awaits hread
    rw [Outcome.ofRefusal_of_ne (by rw [kind_of_parseQueryId hparse]; decide)]
    exact h.comesTo_afterRead world (.inr ⟨text, congrArg Prod.fst hframe, hparse⟩)

theorem step_compression_of_ok {id : String} {method : Compression.Method}
    (h : At options fault ends (.compression id) input session)
    (htaken : Preamble.takeMethod true input = .ok (method, rest)) :
    ∃ next, session.step sink world = (next, world) ∧
      At options fault ends (.schema id method) rest next := by
  obtain ⟨word, hread, hcode⟩ := Preamble.takeItem_eq_ok_iff.1 htaken
  obtain ⟨reader, hword, hawaits, hkept⟩ := Frame.Reader.readWord_of_read_ok h.awaits hread
  refine ⟨_, ?_, h.next hkept hawaits _⟩
  rw [step, h.phase]
  simp only [readMethod, afterRead, hword, orFail, hcode, Session.goTo]

theorem comesTo_of_noMethod {id : String} {refusal : Refusal}
    (h : At options fault ends (.compression id) input session)
    (hrefused : Preamble.takeMethod true input = .error refusal)
    (hends : refusal.error.IsCut → ends) :
    ComesTo (.ofRefusal fault refusal world) (session.step sink world) := by
  rw [step, h.phase]
  rcases Preamble.takeItem_eq_error hrefused with
    ⟨error, hread, rfl⟩ | ⟨word, rest, error, hread, hcode, rfl⟩
  · rw [Outcome.ofRefusal_of_ne (Frame.kind_ne_unauthorized_of_read hread)]
    exact h.comesTo_afterRead world (.inl (Frame.Reader.readWord_of_read_error h.awaits
      (fun hcut => h.ends (hends hcut)) hread))
  · obtain ⟨reader, hword, -, -⟩ := Frame.Reader.readWord_of_read_ok h.awaits hread
    rw [Outcome.ofRefusal_of_ne (by rw [kind_of_ofCode hcode]; decide)]
    exact h.comesTo_afterRead world (.inr ⟨_, congrArg Prod.fst hword, hcode⟩)

theorem step_schema_of_ok {id : String} {method : Compression.Method} {schema : ColumnSchema}
    (h : At options fault ends (.schema id method) input session)
    (htaken : Preamble.takeSchema options.limits.maxFrameBytes options.policy input =
      .ok (schema, rest)) :
    ∃ next, session.step sink world = (next, world) ∧
      At options fault ends (.opening id schema method) rest next := by
  obtain ⟨text, hread, hparse⟩ := Preamble.takeItem_eq_ok_iff.1 htaken
  obtain ⟨reader, hframe, hawaits, hkept⟩ := Frame.Reader.readFrame_of_read_ok h.awaits hread
  refine ⟨_, ?_, h.next hkept hawaits _⟩
  rw [step, h.phase]
  simp only [readSchema, afterRead, hframe, orFail, h.settings, hparse, Session.goTo]

theorem comesTo_of_noSchema {id : String} {method : Compression.Method} {refusal : Refusal}
    (h : At options fault ends (.schema id method) input session)
    (hrefused : Preamble.takeSchema options.limits.maxFrameBytes options.policy input =
      .error refusal)
    (hends : refusal.error.IsCut → ends) :
    ComesTo (.ofRefusal fault refusal world) (session.step sink world) := by
  have hparses (payload : Bytes) : ColumnSchema.parse payload session.options.policy =
      ColumnSchema.parse payload options.policy := by rw [h.settings]
  rw [step, h.phase]
  rcases Preamble.takeItem_eq_error hrefused with
    ⟨error, hread, rfl⟩ | ⟨text, rest, error, hread, hparse, rfl⟩
  · rw [Outcome.ofRefusal_of_ne (Frame.kind_ne_unauthorized_of_read hread)]
    exact h.comesTo_afterRead world (.inl (Frame.Reader.readFrame_of_read_error h.awaits
      (fun hcut => h.ends (hends hcut)) hread))
  · obtain ⟨reader, hframe, -, -⟩ := Frame.Reader.readFrame_of_read_ok h.awaits hread
    rw [Outcome.ofRefusal_of_ne (by
      rcases kind_of_parse hparse with h | ⟨-, h⟩ <;> rw [h] <;> decide)]
    exact h.comesTo_afterRead world
      (.inr ⟨text, congrArg Prod.fst hframe, (hparses text).trans hparse⟩)

/-! ## The stream -/

/-- Steps lead to an outcome. -/
def Leads (sink : StreamSink World Stream) (outcome : Outcome World) (session : Session Stream)
    (world : World) : Prop :=
  ∃ n, ComesTo outcome (steps sink n session world)

variable {outcome : Outcome World}

theorem leads_of_step (h : ComesTo outcome (session.step sink world)) :
    Leads sink outcome session world :=
  ⟨1, by rw [steps_succ']; exact h⟩

theorem leads_step {next : Session Stream} {world' : World}
    (hstep : session.step sink world = (next, world')) (h : Leads sink outcome next world') :
    Leads sink outcome session world := by
  obtain ⟨n, hcomes⟩ := h
  refine ⟨n + 1, ?_⟩
  rw [steps_succ', hstep]
  exact hcomes

/-- What a frame is decompressed to does not depend on the frames before it. -/
theorem decodeBatch_eq (exporting : Export Stream) (frame : Bytes) :
    ∃ decompressor, decodeBatch exporting frame =
        (batchOf exporting.schema exporting.decompressor.method frame, decompressor) ∧
      decompressor.method = exporting.decompressor.method := by
  obtain ⟨hpayload, hmethod⟩ :=
    Compression.Decompressor.decompress_eq exporting.decompressor frame
  refine ⟨(exporting.decompressor.decompress frame).2, ?_, hmethod⟩
  rw [batchOf, ← hpayload]
  rfl

theorem leads_aborting {forwarder : Forwarder Stream} {error : BridgeError}
    (hphase : session.phase = .aborting forwarder error) (hreply : session.reply = []) :
    Leads sink (.ofAborting sink forwarder error world) session world := by
  refine leads_of_step ?_
  have hstate : session.state = .streamingBatches := by rw [state, hphase]; rfl
  rw [step, hphase]
  exact ⟨rfl, rfl, congrArg some hstate, hreply, rfl⟩

theorem leads_acknowledging {summary : Summary} (sink : StreamSink World Stream)
    (h : At options fault ends (.acknowledging summary) input session) :
    Leads sink (.ofAcknowledging fault summary world) session world := by
  refine leads_of_step ?_
  have hstate : session.state = .streamingBatches := by rw [state, h.phase]; rfl
  rw [step, h.phase]
  cases fault with
  | none =>
    simp only [tell_of_none h.fault]
    refine ⟨rfl, rfl, rfl, ?_, rfl⟩
    show session.reply ++ acknowledgment = acknowledgment
    rw [h.reply, List.nil_append]
  | some fault =>
    simp only [tell_of_some h.fault]
    refine ⟨rfl, rfl, congrArg some hstate, ?_, rfl⟩
    show session.reply ++ acknowledgment.take fault.sent = acknowledgment.take fault.sent
    rw [h.reply, List.nil_append]

theorem leads_closing {forwarder : Forwarder Stream} {summary : Summary}
    (h : At options fault ends (.closing forwarder summary) input session) :
    Leads sink (.ofClosing sink fault forwarder summary world) session world := by
  have hstate : session.state = .streamingBatches := by rw [state, h.phase]; rfl
  have hstep : session.step sink world = session.closeStream sink forwarder summary world := by
    rw [step, h.phase]
  rw [closeStream] at hstep
  rw [Outcome.ofClosing]
  generalize forwarder.close sink world = called at hstep
  obtain ⟨result, stream, world'⟩ := called
  cases result with
  | error error =>
    refine leads_of_step ?_
    rw [hstep]
    exact ⟨rfl, rfl, congrArg some hstate, h.reply, rfl⟩
  | ok _ => exact leads_step hstep (leads_acknowledging sink (h.goTo (.acknowledging summary)))

/-- No frame comes. -/
theorem step_streaming_of_error {exporting : Export Stream} {error : BridgeError}
    (h : At options fault ends (.streaming exporting) input session)
    (hread : Frame.read options.limits.maxFrameBytes .frame input = .error error)
    (hends : error.IsCut → ends) :
    ∃ reader, session.step sink world =
      (({ session with reader } : Session Stream).goTo (.aborting exporting.forwarder error),
        world) := by
  have hends' : error.IsCut → session.reader.Ends := fun hcut => h.ends (hends hcut)
  have hframe := Frame.Reader.readFrame_of_read_error h.awaits hends' hread
  generalize hcalled : session.reader.readFrame = called at hframe
  obtain ⟨result, reader⟩ := called
  simp only at hframe
  subst hframe
  have hstep : session.step sink world = session.readBatch sink exporting world := by
    rw [step, h.phase]
  refine ⟨reader, ?_⟩
  rw [hstep]
  simp only [readBatch, hcalled]

/-- The empty frame comes. -/
theorem step_streaming_of_empty {exporting : Export Stream}
    (h : At options fault ends (.streaming exporting) input session)
    (hread : Frame.read options.limits.maxFrameBytes .frame input = .ok ([], rest)) :
    ∃ reader, session.step sink world =
        (({ session with reader } : Session Stream).goTo
          (.closing exporting.forwarder exporting.summary), world) ∧
      At options fault ends (.closing exporting.forwarder exporting.summary) rest
        (({ session with reader } : Session Stream).goTo
          (.closing exporting.forwarder exporting.summary)) := by
  obtain ⟨reader, hframe, hawaits, hkept⟩ := Frame.Reader.readFrame_of_read_ok h.awaits hread
  have hstep : session.step sink world = session.readBatch sink exporting world := by
    rw [step, h.phase]
  refine ⟨reader, ?_, h.next hkept hawaits _⟩
  rw [hstep]
  simp only [readBatch, hframe, List.isEmpty_nil, if_true]

theorem step_streaming_of_undecodable {exporting : Export Stream} {frame : Bytes}
    {error : BridgeError} (h : At options fault ends (.streaming exporting) input session)
    (hread : Frame.read options.limits.maxFrameBytes .frame input = .ok (frame, rest))
    (hne : frame ≠ [])
    (hbatch : batchOf exporting.schema exporting.decompressor.method frame = .error error) :
    ∃ reader, session.step sink world =
      (({ session with reader } : Session Stream).goTo (.aborting exporting.forwarder error),
        world) := by
  obtain ⟨reader, hframe, -, -⟩ := Frame.Reader.readFrame_of_read_ok h.awaits hread
  obtain ⟨decompressor, hdecode, -⟩ := decodeBatch_eq exporting frame
  have hempty : ¬frame.isEmpty = true := fun h => hne (List.isEmpty_iff.1 h)
  have hstep : session.step sink world = session.readBatch sink exporting world := by
    rw [step, h.phase]
  refine ⟨reader, ?_⟩
  rw [hstep]
  simp only [readBatch, hframe, if_neg hempty, hdecode, hbatch]

/-- A batch comes that a builder is lost with. -/
theorem leads_streaming_of_lost {exporting : Export Stream} {frame : Bytes}
    (h : At options fault ends (.streaming exporting) input session)
    (hread : Frame.read options.limits.maxFrameBytes .frame input = .ok (frame, rest))
    (hne : frame ≠ [])
    (hbatch : batchOf exporting.schema exporting.decompressor.method frame = .lost) :
    Leads sink (.ofLost sink exporting.forwarder world) session world := by
  obtain ⟨reader, hframe, -, -⟩ := Frame.Reader.readFrame_of_read_ok h.awaits hread
  obtain ⟨decompressor, hdecode, -⟩ := decodeBatch_eq exporting frame
  have hempty : ¬frame.isEmpty = true := fun h => hne (List.isEmpty_iff.1 h)
  refine leads_of_step ?_
  rw [step, h.phase]
  simp only [readBatch, hframe, if_neg hempty, hdecode, hbatch]
  exact ⟨rfl, rfl, rfl, h.reply, rfl⟩

/-- A batch comes. -/
theorem step_streaming_of_batch {exporting : Export Stream} {frame : Bytes} {batch : Batch}
    {size : Nat} (h : At options fault ends (.streaming exporting) input session)
    (hread : Frame.read options.limits.maxFrameBytes .frame input = .ok (frame, rest))
    (hne : frame ≠ [])
    (hbatch : batchOf exporting.schema exporting.decompressor.method frame = .ok (batch, size)) :
    ∃ reader decompressor,
      session.step sink world = ({ session with reader } : Session Stream).writeBatch sink
        { exporting with decompressor } batch size world ∧
      decompressor.method = exporting.decompressor.method ∧
      reader.Awaits options.limits.maxFrameBytes rest ∧ session.reader.Kept reader := by
  obtain ⟨reader, hframe, hawaits, hkept⟩ := Frame.Reader.readFrame_of_read_ok h.awaits hread
  obtain ⟨decompressor, hdecode, hmethod⟩ := decodeBatch_eq exporting frame
  have hempty : ¬frame.isEmpty = true := fun h => hne (List.isEmpty_iff.1 h)
  have hstep : session.step sink world = session.readBatch sink exporting world := by
    rw [step, h.phase]
  refine ⟨reader, decompressor, ?_, hmethod, hawaits, hkept⟩
  rw [hstep]
  simp only [readBatch, hframe, if_neg hempty, hdecode, hbatch]

/-- **Streaming comes to what its frames come to.** -/
theorem leads_streaming {exporting : Export Stream}
    (h : At options fault ends (.streaming exporting) input session)
    (hends : (Outcome.ofStreaming sink fault options.limits.maxFrameBytes exporting.schema
      exporting.decompressor.method exporting.forwarder exporting.summary input world).IsCut →
        ends) :
    Leads sink
      (.ofStreaming sink fault options.limits.maxFrameBytes exporting.schema
        exporting.decompressor.method exporting.forwarder exporting.summary input world)
      session world := by
  -- Every frame takes its bytes off the input, so only the input gets smaller from step to step.
  induction hlength : input.length using Nat.strongRecOn
    generalizing input session exporting world with
  | ind n ih =>
    subst hlength
    cases Outcome.next_cases sink options.limits.maxFrameBytes exporting.schema
      exporting.decompressor.method exporting.forwarder input world with
    | brokenOff hread =>
      rw [Outcome.ofStreaming_of_error hread] at hends ⊢
      have hcut := fun hcut => hends (Outcome.isCut_failure_iff.2 hcut)
      obtain ⟨reader, hstep⟩ := step_streaming_of_error h hread hcut
      exact leads_step hstep (leads_aborting rfl h.reply)
    | ended hread =>
      rw [Outcome.ofStreaming_of_empty hread]
      obtain ⟨reader, hstep, hnext⟩ := step_streaming_of_empty h hread
      exact leads_step hstep (leads_closing hnext)
    | undecodable hread hne hbatch =>
      rw [Outcome.ofStreaming_of_undecodable hread hne hbatch]
      obtain ⟨reader, hstep⟩ := step_streaming_of_undecodable h hread hne hbatch
      exact leads_step hstep (leads_aborting rfl h.reply)
    | lost hread hne hbatch =>
      rw [Outcome.ofStreaming_of_lost hread hne hbatch]
      exact leads_streaming_of_lost h hread hne hbatch
    | notWritten hread hne hbatch hwrite =>
      rw [Outcome.ofStreaming_of_notWritten hread hne hbatch hwrite]
      obtain ⟨reader, decompressor, hstep, -⟩ := step_streaming_of_batch h hread hne hbatch
      simp only [writeBatch] at hstep
      rw [hwrite] at hstep
      exact leads_step hstep (leads_aborting rfl h.reply)
    | @written frame rest batch size forwarder world' hread hne hbatch hwrite =>
      rw [Outcome.ofStreaming_of_written hread hne hbatch hwrite] at hends ⊢
      obtain ⟨reader, decompressor, hstep, hmethod, hawaits, hkept⟩ :=
        step_streaming_of_batch h hread hne hbatch
      simp only [writeBatch] at hstep
      rw [hwrite] at hstep
      refine leads_step hstep ?_
      rw [← hmethod] at hends ⊢
      have hnext := h.next hkept hawaits
        (.streaming
          { exporting with
            forwarder, decompressor
            summary := exporting.summary.record batch.rows size batch.nullCount })
      exact ih rest.length (Frame.length_lt_of_read hread) hnext hends rfl

theorem leads_opening {preamble : Preamble}
    (h : At options fault ends (.opening preamble.queryId preamble.schema preamble.method) input
      session)
    (hends : (Outcome.ofOpening sink fault options.limits.maxFrameBytes preamble input
      world).IsCut → ends) :
    Leads sink (.ofOpening sink fault options.limits.maxFrameBytes preamble input world) session
      world := by
  have hstate : session.state = .streamingBatches := by rw [state, h.phase]; rfl
  have hstep : session.step sink world = session.openStream sink preamble.queryId preamble.schema
      preamble.method world := by
    rw [step, h.phase]
  rw [openStream] at hstep
  rw [Outcome.ofOpening] at hends ⊢
  generalize Forwarder.openStream sink preamble.queryId preamble.schema.fields world = opened
    at hstep hends
  obtain ⟨result, world'⟩ := opened
  cases result with
  | error error =>
    refine leads_of_step ?_
    rw [hstep]
    exact ⟨rfl, rfl, congrArg some hstate, h.reply, rfl⟩
  | ok forwarder =>
    refine leads_step hstep ?_
    exact leads_streaming (h.goTo (.streaming ⟨forwarder, preamble.schema,
      .new preamble.method, .new preamble.queryId⟩)) hends

/-! ## Whole sessions -/

/-- A refusal comes to what it comes to. -/
theorem isCut_ofRefusal {refusal : Refusal} (h : refusal.error.IsCut) (world : World) :
    (Outcome.ofRefusal fault refusal world).IsCut := by
  have hkind : refusal.error.kind ≠ .unauthorized := by
    rw [h]
    decide
  rw [Outcome.ofRefusal_of_ne hkind]
  exact Outcome.isCut_failure_iff.2 h

theorem leads_schema {id : String} {method : Compression.Method}
    (h : At options fault ends (.schema id method) input session)
    (hends : (Outcome.ofReading sink fault options.limits.maxFrameBytes
      (Preamble.readFromSchema options id method input) world).IsCut → ends) :
    Leads sink (.ofReading sink fault options.limits.maxFrameBytes
      (Preamble.readFromSchema options id method input) world) session world := by
  rw [Preamble.readFromSchema] at hends ⊢
  cases htaken : Preamble.takeSchema options.limits.maxFrameBytes options.policy input with
  | error refusal =>
    rw [Preamble.bind_of_error htaken] at hends ⊢
    have hcut := fun hcut => hends (isCut_ofRefusal hcut world)
    exact leads_of_step (comesTo_of_noSchema h htaken hcut)
  | ok taken =>
    rw [Preamble.bind_of_ok htaken] at hends ⊢
    obtain ⟨next, hstep, hnext⟩ := step_schema_of_ok h htaken
    exact leads_step hstep (leads_opening hnext hends)

theorem leads_compression {id : String} (hnegotiate : options.negotiate = true)
    (h : At options fault ends (.compression id) input session)
    (hends : (Outcome.ofReading sink fault options.limits.maxFrameBytes
      (Preamble.readFromMethod options id input) world).IsCut → ends) :
    Leads sink (.ofReading sink fault options.limits.maxFrameBytes
      (Preamble.readFromMethod options id input) world) session world := by
  rw [Preamble.readFromMethod, hnegotiate] at hends ⊢
  cases htaken : Preamble.takeMethod true input with
  | error refusal =>
    rw [Preamble.bind_of_error htaken] at hends ⊢
    have hcut := fun hcut => hends (isCut_ofRefusal hcut world)
    exact leads_of_step (comesTo_of_noMethod h htaken hcut)
  | ok taken =>
    rw [Preamble.bind_of_ok htaken] at hends ⊢
    obtain ⟨next, hstep, hnext⟩ := step_compression_of_ok h htaken
    exact leads_step hstep (leads_schema hnext hends)

theorem leads_queryId (h : At options fault ends .queryId input session)
    (hends : (Outcome.ofReading sink fault options.limits.maxFrameBytes
      (Preamble.readFromQueryId options input) world).IsCut → ends) :
    Leads sink (.ofReading sink fault options.limits.maxFrameBytes
      (Preamble.readFromQueryId options input) world) session world := by
  rw [Preamble.readFromQueryId] at hends ⊢
  cases htaken : Preamble.takeQueryId input with
  | error refusal =>
    rw [Preamble.bind_of_error htaken] at hends ⊢
    have hcut := fun hcut => hends (isCut_ofRefusal hcut world)
    exact leads_of_step (comesTo_of_noQueryId h htaken hcut)
  | ok taken =>
    rw [Preamble.bind_of_ok htaken] at hends ⊢
    obtain ⟨next, hstep, hnext⟩ := step_queryId_of_ok h htaken
    refine leads_step hstep ?_
    cases hnegotiate : options.negotiate with
    | true =>
      rw [hnegotiate, if_pos rfl] at hnext
      exact leads_compression hnegotiate hnext hends
    | false =>
      rw [hnegotiate, if_neg Bool.false_ne_true] at hnext
      have hnone (input : Bytes) : Preamble.readFromMethod options taken.1 input =
          Preamble.readFromSchema options taken.1 .none input := by
        rw [Preamble.readFromMethod, hnegotiate]
        rfl
      rw [hnone] at hends ⊢
      exact leads_schema hnext hends

/-- **A session comes to what its input comes to.** -/
theorem leads_begin (h : At options fault ends .begin input session)
    (hends : (Outcome.ofInput sink fault options input world).IsCut → ends) :
    Leads sink (.ofInput sink fault options input world) session world := by
  rw [Outcome.ofInput, Preamble.read] at hends ⊢
  obtain ⟨hwanted, hnotWanted⟩ := step_begin h
  cases htoken : options.token with
  | none =>
    rw [htoken] at hends
    obtain ⟨next, hstep, hnext⟩ := hnotWanted htoken
    exact leads_step hstep (leads_queryId hnext hends)
  | some expected =>
    rw [htoken] at hends
    obtain ⟨next, hstep, hnext⟩ := hwanted expected htoken
    refine leads_step hstep ?_
    cases htaken : Preamble.takeToken (some expected) input with
    | error refusal =>
      rw [Preamble.bind_of_error htaken] at hends ⊢
      exact leads_of_step
        (comesTo_of_noToken hnext htaken fun hcut => hends (isCut_ofRefusal hcut world))
    | ok taken =>
      rw [Preamble.bind_of_ok htaken] at hends ⊢
      obtain ⟨after, hstep', hafter⟩ := step_token_of_ok hnext htaken
      exact leads_step hstep' (leads_queryId hafter hends)

end Session

/-- A source that delivers these bytes, whole, and before the first item is due. -/
structure Source.Delivers (source : Source) (timeout : Option Duration) (input : Bytes) : Prop where
  bytes : source.bytes = input
  intact : Frame.Intact source.arrivals
  inTime : Frame.InTime (Frame.deadlineFrom timeout source.clock) source.arrivals

/-- A source whose bytes are all there at once delivers them. -/
theorem Source.delivers_ofBytes (timeout : Option Duration) (input : Bytes) :
    (Source.ofBytes input).Delivers timeout input := by
  have harrivals : (Source.ofBytes input).arrivals =
      if input = [] then [] else [.data 0 input] := by
    rw [ofBytes, new]
    cases input <;> rfl
  have hdata : ∀ arrival ∈ (Source.ofBytes input).arrivals, arrival = .data 0 input := by
    intro arrival h
    rw [harrivals] at h
    split at h
    · cases h
    · exact List.mem_singleton.1 h
  refine ⟨?_, fun arrival h => ⟨0, input, hdata arrival h⟩, fun limit _ arrival h => ?_⟩
  · rw [bytes, harrivals]
    split
    · rename_i hempty
      rw [hempty]
      rfl
    · exact List.append_nil _
  · rw [hdata arrival h]
    exact Nat.zero_le limit

namespace Session

variable {World Stream : Type}

/-- **A run comes to the outcome of its input**, however the source delivers it, and whether or not
the source ends there, if the outcome does not depend on that. -/
theorem comesTo_run (sink : StreamSink World Stream) (options : SessionOptions)
    (fault : Option WriteFault) {source : Source} {input : Bytes} (world : World)
    (h : source.Delivers options.limits.readTimeout input)
    (hends : (Outcome.ofInput sink fault options input world).IsCut →
      source.ending = .closed ∨ options.limits.readTimeout = none) :
    ComesTo (.ofInput sink fault options input world)
      ((new options source fault : Session Stream).run sink world) := by
  have hawaits := Frame.Reader.awaits_new h.intact h.inTime
  rw [h.bytes] at hawaits
  have hstart : At options fault (source.ending = .closed ∨ options.limits.readTimeout = none)
      .begin input (new options source fault : Session Stream) :=
    ⟨rfl, rfl, rfl, rfl, rfl, hawaits, id⟩
  have hleads : Leads sink (.ofInput sink fault options input world) _ world :=
    leads_begin hstart hends
  obtain ⟨n, hcomes⟩ := hleads
  -- A run has its own number of steps, but a session that is over stays as it is.
  rw [run_eq_steps hcomes.isOver]
  exact hcomes

end Session
end BatchBridge
