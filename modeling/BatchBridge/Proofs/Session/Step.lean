import BatchBridge.Proofs.Frame.Progress
import BatchBridge.Session.Run

/-!
# What a session can do

One step of a session, taken apart once and for all, and whole runs put together from steps.

* `Session.Advances`, `Session.Refuses`, `Session.Fails`, `Session.Move` — every way in which a step
  can go, with everything that has been read and every call that has been made on it.
  **`Session.move_step`**: a step goes in one of these ways.
* `Session.steps_succ` — a step more is a step from where the steps before it have led.
* `Session.potential` — it falls with every step (`Session.potential_step`).
* **`Session.isOver_run`** — so every run is over within its budget, whatever its source does.
-/

namespace BatchBridge

namespace Session

variable {World Stream : Type}

/-! ## Ways to go -/

/-- Goes on to a phase without having called the sink. -/
inductive Advances (session : Session Stream) : Phase Stream → Frame.Reader → Prop where
  | tokenWanted {expected : String} : session.phase = .begin →
      session.options.token = some expected → Advances session (.token expected) session.reader
  | noTokenWanted : session.phase = .begin → session.options.token = none →
      Advances session .queryId session.reader
  | admitted {expected : String} {reader : Frame.Reader} : session.phase = .token expected →
      Utf8.encode expected ≠ [] →
      session.reader.readFrameCapped (some maxTokenBytes) = (.ok (Utf8.encode expected), reader) →
      Advances session .queryId reader
  | identified {frame : Bytes} {id : String} {reader : Frame.Reader} : session.phase = .queryId →
      session.reader.readFrameCapped (some maxQueryIdBytes) = (.ok frame, reader) →
      parseQueryId frame = .ok id →
      Advances session (if session.options.negotiate then .compression id else .schema id .none)
        reader
  | negotiated {id : String} {code : Nat} {method : Compression.Method} {reader : Frame.Reader} :
      session.phase = .compression id → session.reader.readWord = (.ok code, reader) →
      Compression.Method.ofCode code = .ok method → Advances session (.schema id method) reader
  | announced {id : String} {method : Compression.Method} {payload : Bytes}
      {schema : ColumnSchema} {reader : Frame.Reader} : session.phase = .schema id method →
      session.reader.readFrame = (.ok payload, reader) →
      ColumnSchema.parse payload session.options.policy = .ok schema →
      Advances session (.opening id schema method) reader
  | ended {exporting : Export Stream} {reader : Frame.Reader} :
      session.phase = .streaming exporting → session.reader.readFrame = (.ok [], reader) →
      Advances session (.closing exporting.forwarder exporting.summary) reader
  | brokenOff {exporting : Export Stream} {error : BridgeError} {reader : Frame.Reader} :
      session.phase = .streaming exporting → session.reader.readFrame = (.error error, reader) →
      Advances session (.aborting exporting.forwarder error) reader
  | undecodable {exporting : Export Stream} {frame : Bytes} {error : BridgeError}
      {decompressor : Compression.Decompressor} {reader : Frame.Reader} :
      session.phase = .streaming exporting → session.reader.readFrame = (.ok frame, reader) →
      frame ≠ [] → decodeBatch exporting frame = (.error error, decompressor) →
      Advances session (.aborting exporting.forwarder error) reader

/-- A token, or what came in its place, is turned down. -/
inductive Refuses (expected : String) : Except BridgeError Bytes → TokenFault → Prop where
  | empty : Refuses expected (.ok []) .empty
  | mismatch {presented : Bytes} : presented ≠ [] → presented ≠ Utf8.encode expected →
      Refuses expected (.ok presented) .mismatch
  | tooLong {length limit : Nat} :
      Refuses expected (.error (.frameTooLarge length limit)) (.tooLong length limit)

/-- Is over before a stream has been opened, because of what came or did not come. -/
inductive Fails (session : Session Stream) : BridgeError → Frame.Reader → Prop where
  | noToken {expected : String} {error : BridgeError} {reader : Frame.Reader} :
      session.phase = .token expected →
      session.reader.readFrameCapped (some maxTokenBytes) = (.error error, reader) →
      (∀ length limit, error ≠ .frameTooLarge length limit) → Fails session error reader
  | noQueryId {error : BridgeError} {reader : Frame.Reader} : session.phase = .queryId →
      session.reader.readFrameCapped (some maxQueryIdBytes) = (.error error, reader) →
      Fails session error reader
  | badQueryId {frame : Bytes} {error : BridgeError} {reader : Frame.Reader} :
      session.phase = .queryId →
      session.reader.readFrameCapped (some maxQueryIdBytes) = (.ok frame, reader) →
      parseQueryId frame = .error error → Fails session error reader
  | noMethod {id : String} {error : BridgeError} {reader : Frame.Reader} :
      session.phase = .compression id → session.reader.readWord = (.error error, reader) →
      Fails session error reader
  | badMethod {id : String} {code : Nat} {error : BridgeError} {reader : Frame.Reader} :
      session.phase = .compression id → session.reader.readWord = (.ok code, reader) →
      Compression.Method.ofCode code = .error error → Fails session error reader
  | noSchema {id : String} {method : Compression.Method} {error : BridgeError}
      {reader : Frame.Reader} : session.phase = .schema id method →
      session.reader.readFrame = (.error error, reader) → Fails session error reader
  | badSchema {id : String} {method : Compression.Method} {payload : Bytes} {error : BridgeError}
      {reader : Frame.Reader} : session.phase = .schema id method →
      session.reader.readFrame = (.ok payload, reader) →
      ColumnSchema.parse payload session.options.policy = .error error →
      Fails session error reader

/-- Everything that a step can come to. -/
inductive Move (sink : StreamSink World Stream) (session : Session Stream) (world : World) :
    Session Stream × World → Prop where
  | advance {phase : Phase Stream} {reader : Frame.Reader} : Advances session phase reader →
      Move sink session world ({ session with reader, phase }, world)
  | fail {error : BridgeError} {reader : Frame.Reader} : Fails session error reader →
      Move sink session world
        ({ session with reader, phase := .failed error session.state }, world)
  | refused {expected : String} {result : Except BridgeError Bytes} {reader : Frame.Reader}
      {fault : TokenFault} : session.phase = .token expected →
      session.reader.readFrameCapped (some maxTokenBytes) = (result, reader) →
      Refuses expected result fault → session.writeFault = none →
      Move sink session world
        ({ session with
            reader
            reply := session.reply ++ unauthorizedReply
            phase := .failed (.unauthorized fault) session.state }, world)
  | notRefused {expected : String} {result : Except BridgeError Bytes} {reader : Frame.Reader}
      {fault : TokenFault} {unheard : WriteFault} : session.phase = .token expected →
      session.reader.readFrameCapped (some maxTokenBytes) = (result, reader) →
      Refuses expected result fault → session.writeFault = some unheard →
      Move sink session world
        ({ session with
            reader
            reply := session.reply ++ unauthorizedReply.take unheard.sent
            phase := .failed (.io (.transport unheard.kind)) session.state }, world)
  | opened {id : String} {schema : ColumnSchema} {method : Compression.Method} {stream : Stream}
      {world' : World} : session.phase = .opening id schema method →
      sink.openStream id schema.fields world = (.ok stream, world') →
      Move sink session world
        (session.goTo
          (.streaming ⟨⟨id, some stream, 0, 0⟩, schema, .new method, .new id⟩), world')
  | notOpened {id : String} {schema : ColumnSchema} {method : Compression.Method}
      {error : BridgeError} {world' : World} : session.phase = .opening id schema method →
      sink.openStream id schema.fields world = (.error error, world') →
      Move sink session world (session.fail error, world')
  | written {exporting : Export Stream} {frame : Bytes} {batch : Batch} {size : Nat}
      {decompressor : Compression.Decompressor} {reader : Frame.Reader}
      {forwarder : Forwarder Stream} {world' : World} : session.phase = .streaming exporting →
      session.reader.readFrame = (.ok frame, reader) → frame ≠ [] →
      decodeBatch exporting frame = (.ok (batch, size), decompressor) →
      exporting.forwarder.write sink batch world = ⟨.ok (), forwarder, world'⟩ →
      Move sink session world
        ({ session with
            reader
            phase := .streaming
              { exporting with
                forwarder, decompressor
                summary := exporting.summary.record batch.rows size batch.nullCount } }, world')
  | notWritten {exporting : Export Stream} {frame : Bytes} {batch : Batch} {size : Nat}
      {decompressor : Compression.Decompressor} {reader : Frame.Reader} {error : BridgeError}
      {forwarder : Forwarder Stream} {world' : World} : session.phase = .streaming exporting →
      session.reader.readFrame = (.ok frame, reader) → frame ≠ [] →
      decodeBatch exporting frame = (.ok (batch, size), decompressor) →
      exporting.forwarder.write sink batch world = ⟨.error error, forwarder, world'⟩ →
      Move sink session world ({ session with reader, phase := .aborting forwarder error }, world')
  | aborted {forwarder : Forwarder Stream} {error : BridgeError} :
      session.phase = .aborting forwarder error →
      Move sink session world (session.fail error, (forwarder.abort sink world).2)
  | closed {forwarder forwarder' : Forwarder Stream} {summary : Summary} {world' : World} :
      session.phase = .closing forwarder summary →
      forwarder.close sink world = ⟨.ok (), forwarder', world'⟩ →
      Move sink session world (session.goTo (.acknowledging summary), world')
  | notClosed {forwarder forwarder' : Forwarder Stream} {summary : Summary} {error : BridgeError}
      {world' : World} : session.phase = .closing forwarder summary →
      forwarder.close sink world = ⟨.error error, forwarder', world'⟩ →
      Move sink session world (session.fail error, world')
  | told {summary : Summary} : session.phase = .acknowledging summary →
      session.writeFault = none →
      Move sink session world
        ({ session with reply := session.reply ++ acknowledgment, phase := .completed summary },
          world)
  | notTold {summary : Summary} {unheard : WriteFault} : session.phase = .acknowledging summary →
      session.writeFault = some unheard →
      Move sink session world
        ({ session with
            reply := session.reply ++ acknowledgment.take unheard.sent
            phase := .failed (.io (.transport unheard.kind)) session.state }, world)
  | lost {exporting : Export Stream} {frame : Bytes} {decompressor : Compression.Decompressor}
      {reader : Frame.Reader} : session.phase = .streaming exporting →
      session.reader.readFrame = (.ok frame, reader) → frame ≠ [] →
      decodeBatch exporting frame = (.lost, decompressor) →
      Move sink session world
        ({ session with reader, phase := .lost }, exporting.forwarder.release sink world)
  | terminal : session.phase.isOver → Move sink session world (session, world)

variable {sink : StreamSink World Stream} {session : Session Stream} {world : World}

theorem tell_of_none (h : session.writeFault = none) (message : Bytes)
    (next : Session Stream → Session Stream) :
    session.tell message next = next { session with reply := session.reply ++ message } := by
  simp only [tell, h, WriteFault.passed]

theorem tell_of_some {unheard : WriteFault} (h : session.writeFault = some unheard)
    (message : Bytes) (next : Session Stream → Session Stream) :
    session.tell message next =
      { session with reply := session.reply ++ message.take unheard.sent }.fail
        (.io (.transport unheard.kind)) := by
  simp only [tell, h, WriteFault.passed]

theorem move_refuse {expected : String} {result : Except BridgeError Bytes}
    {reader : Frame.Reader} {fault : TokenFault} (hphase : session.phase = .token expected)
    (hread : session.reader.readFrameCapped (some maxTokenBytes) = (result, reader))
    (hrefuses : Refuses expected result fault) :
    Move sink session world ({ session with reader }.refuse fault, world) := by
  rcases Option.eq_none_or_eq_some session.writeFault with hfault | ⟨unheard, hfault⟩
  · have htell := tell_of_none
      (show ({ session with reader } : Session Stream).writeFault = none from hfault)
      unauthorizedReply (fail (.unauthorized fault))
    rw [refuse, htell]
    exact .refused hphase hread hrefuses hfault
  · have htell := tell_of_some
      (show ({ session with reader } : Session Stream).writeFault = some unheard from hfault)
      unauthorizedReply (fail (.unauthorized fault))
    rw [refuse, htell]
    exact .notRefused hphase hread hrefuses hfault

theorem move_acknowledging {summary : Summary} (hphase : session.phase = .acknowledging summary) :
    Move sink session world (session.tell acknowledgment (goTo (.completed summary)), world) := by
  rcases Option.eq_none_or_eq_some session.writeFault with hfault | ⟨unheard, hfault⟩
  · rw [tell_of_none hfault]
    exact .told hphase hfault
  · rw [tell_of_some hfault]
    exact .notTold hphase hfault

theorem move_token {expected : String} (hphase : session.phase = .token expected) :
    Move sink session world (session.readToken expected, world) := by
  rw [readToken]
  cases hread : session.reader.readFrameCapped (some maxTokenBytes) with
  | mk result reader =>
    cases result with
    | ok presented =>
      simp only
      split
      · rename_i hempty
        rw [List.isEmpty_iff.1 hempty] at hread
        exact move_refuse hphase hread .empty
      · rename_i hempty
        have hne : presented ≠ [] := fun h => hempty (List.isEmpty_iff.2 h)
        split
        · rename_i hmatch
          subst hmatch
          exact .advance (.admitted hphase hne hread)
        · rename_i hmatch
          exact move_refuse hphase hread (.mismatch hne hmatch)
    | error error =>
      cases error with
      | frameTooLarge length limit => exact move_refuse hphase hread .tooLong
      | _ => exact .fail (.noToken hphase hread fun _ _ h => by cases h)

theorem move_queryId (hphase : session.phase = .queryId) :
    Move sink session world (session.readQueryId, world) := by
  rw [readQueryId, afterRead]
  cases hread : session.reader.readFrameCapped (some maxQueryIdBytes) with
  | mk result reader =>
    cases result with
    | error error => exact .fail (.noQueryId hphase hread)
    | ok frame =>
      simp only [orFail]
      cases hparse : parseQueryId frame with
      | error error => exact .fail (.badQueryId hphase hread hparse)
      | ok id => exact .advance (.identified hphase hread hparse)

theorem move_compression {id : String} (hphase : session.phase = .compression id) :
    Move sink session world (session.readMethod id, world) := by
  rw [readMethod, afterRead]
  cases hread : session.reader.readWord with
  | mk result reader =>
    cases result with
    | error error => exact .fail (.noMethod hphase hread)
    | ok code =>
      simp only [orFail]
      cases hcode : Compression.Method.ofCode code with
      | error error => exact .fail (.badMethod hphase hread hcode)
      | ok method => exact .advance (.negotiated hphase hread hcode)

theorem move_schema {id : String} {method : Compression.Method}
    (hphase : session.phase = .schema id method) :
    Move sink session world (session.readSchema id method, world) := by
  rw [readSchema, afterRead]
  cases hread : session.reader.readFrame with
  | mk result reader =>
    cases result with
    | error error => exact .fail (.noSchema hphase hread)
    | ok payload =>
      simp only [orFail]
      cases hparse : ColumnSchema.parse payload session.options.policy with
      | error error => exact .fail (.badSchema hphase hread hparse)
      | ok schema => exact .advance (.announced hphase hread hparse)

theorem move_opening {id : String} {schema : ColumnSchema} {method : Compression.Method}
    (hphase : session.phase = .opening id schema method) :
    Move sink session world (session.openStream sink id schema method world) := by
  rw [openStream, Forwarder.openStream]
  cases hopen : sink.openStream id schema.fields world with
  | mk result world' =>
    cases result with
    | error error => exact .notOpened hphase hopen
    | ok stream => exact .opened hphase hopen

theorem move_streaming {exporting : Export Stream} (hphase : session.phase = .streaming exporting) :
    Move sink session world (session.readBatch sink exporting world) := by
  rw [readBatch]
  cases hread : session.reader.readFrame with
  | mk result reader =>
    cases result with
    | error error => exact .advance (.brokenOff hphase hread)
    | ok frame =>
      simp only
      split
      · rename_i hempty
        rw [List.isEmpty_iff.1 hempty] at hread
        exact .advance (.ended hphase hread)
      · rename_i hempty
        have hne : frame ≠ [] := fun h => hempty (List.isEmpty_iff.2 h)
        cases hdecode : decodeBatch exporting frame with
        | mk decoded decompressor =>
          cases decoded with
          | error error => exact .advance (.undecodable hphase hread hne hdecode)
          | lost => exact .lost hphase hread hne hdecode
          | ok taken =>
            simp only [writeBatch]
            cases hwrite : exporting.forwarder.write sink taken.1 world with
            | mk result forwarder world' =>
              cases result with
              | error error => exact .notWritten hphase hread hne hdecode hwrite
              | ok _ => exact .written hphase hread hne hdecode hwrite

theorem move_closing {forwarder : Forwarder Stream} {summary : Summary}
    (hphase : session.phase = .closing forwarder summary) :
    Move sink session world (session.closeStream sink forwarder summary world) := by
  rw [closeStream]
  cases hclose : forwarder.close sink world with
  | mk result forwarder' world' =>
    cases result with
    | error error => exact .notClosed hphase hclose
    | ok _ => exact .closed hphase hclose

/-- **A step goes in one of the ways listed.** -/
theorem move_step (sink : StreamSink World Stream) (session : Session Stream) (world : World) :
    Move sink session world (session.step sink world) := by
  have hmove {next : Phase Stream} (h : Advances session next session.reader) :
      Move sink session world (session.goTo next, world) := .advance h
  cases hphase : session.phase with
  | begin =>
    simp only [step, hphase]
    cases htoken : session.options.token with
    | none => exact hmove (.noTokenWanted hphase htoken)
    | some expected => exact hmove (.tokenWanted hphase htoken)
  | token expected => simpa only [step, hphase] using move_token hphase
  | queryId => simpa only [step, hphase] using move_queryId hphase
  | compression id => simpa only [step, hphase] using move_compression hphase
  | schema id method => simpa only [step, hphase] using move_schema hphase
  | opening id schema method => simpa only [step, hphase] using move_opening hphase
  | streaming exporting => simpa only [step, hphase] using move_streaming hphase
  | aborting forwarder error => simpa only [step, hphase] using .aborted hphase
  | closing forwarder summary => simpa only [step, hphase] using move_closing hphase
  | acknowledging summary => simpa only [step, hphase] using move_acknowledging hphase
  | completed summary => simpa only [step, hphase] using .terminal (by rw [hphase]; rfl)
  | failed error state => simpa only [step, hphase] using .terminal (by rw [hphase]; rfl)
  | lost => simpa only [step, hphase] using .terminal (by rw [hphase]; rfl)

/-! ## Batches -/

section Batches

variable {exporting : Export Stream} {frame : Bytes}

theorem decodeBatch_fst (exporting : Export Stream) (frame : Bytes) :
    (decodeBatch exporting frame).1 =
      ((Decoded.ofExcept (exporting.decompressor.decompress frame).1).bind fun payload =>
        (Batch.decode exporting.schema payload.data.toList).map
          fun batch => (batch, payload.size)).mapError .batchDecode := rfl

/-- There is an error if it cannot be decompressed, or else if it cannot be read. -/
theorem decodeBatch_eq_error_iff {error : BridgeError} :
    (decodeBatch exporting frame).1 = .error error ↔
      ∃ fault, error = .batchDecode fault ∧
        ((exporting.decompressor.decompress frame).1 = .error fault ∨
          ∃ payload, (exporting.decompressor.decompress frame).1 = .ok payload ∧
            Batch.decode exporting.schema payload.data.toList = .error fault) := by
  rw [decodeBatch_fst]
  cases (exporting.decompressor.decompress frame).1 with
  | error fault => simp [Decoded.ofExcept, Decoded.bind, Decoded.mapError, eq_comm]
  | ok payload =>
    cases hdecode : Batch.decode exporting.schema payload.data.toList <;>
      simp [Decoded.ofExcept, Decoded.bind, Decoded.mapError, Decoded.map, hdecode, eq_comm]

end Batches

/-! ## The end is near -/

end Session

/-- How many phases may still follow, not counting how often a phase is gone through. -/
def Phase.rank {Stream : Type} : Phase Stream → Nat
  | .begin => 10
  | .token _ => 9
  | .queryId => 8
  | .compression _ => 7
  | .schema .. => 6
  | .opening .. => 5
  | .streaming _ => 4
  | .closing .. => 3
  | .aborting .. => 2
  | .acknowledging _ => 1
  | .completed _ | .failed .. | .lost => 0

namespace Session

variable {World Stream : Type} {sink : StreamSink World Stream} {session : Session Stream}
  {world : World}

/-- How many steps a session can still take. -/
def potential (session : Session Stream) : Nat := session.phase.rank + session.reader.remaining

theorem remaining_of_readFrame {reader after : Frame.Reader} {result : Except BridgeError Bytes}
    (h : reader.readFrame = (result, after)) : after.remaining ≤ reader.remaining := by
  have hconsumes := reader.consumes_readFrame
  rw [h] at hconsumes
  exact hconsumes.remaining

theorem remaining_of_readFrameCapped {reader after : Frame.Reader} {cap : Option Nat}
    {result : Except BridgeError Bytes} (h : reader.readFrameCapped cap = (result, after)) :
    after.remaining ≤ reader.remaining := by
  have hconsumes := reader.consumes_readFrameCapped cap
  rw [h] at hconsumes
  exact hconsumes.remaining

theorem remaining_of_readWord {reader after : Frame.Reader} {result : Except BridgeError Nat}
    (h : reader.readWord = (result, after)) : after.remaining ≤ reader.remaining := by
  have hconsumes := reader.consumes_readWord
  rw [h] at hconsumes
  exact hconsumes.remaining

theorem Advances.rank_lt {phase : Phase Stream} {reader : Frame.Reader}
    (h : Advances session phase reader) : phase.rank < session.phase.rank := by
  cases h with
  | identified hphase =>
    rw [hphase]
    split <;> simp [Phase.rank]
  | _ hphase => rw [hphase]; simp [Phase.rank]

theorem Advances.remaining_le {phase : Phase Stream} {reader : Frame.Reader}
    (h : Advances session phase reader) : reader.remaining ≤ session.reader.remaining := by
  cases h with
  | tokenWanted => exact Nat.le_refl _
  | noTokenWanted => exact Nat.le_refl _
  | admitted _ _ hread => exact remaining_of_readFrameCapped hread
  | identified _ hread => exact remaining_of_readFrameCapped hread
  | negotiated _ hread => exact remaining_of_readWord hread
  | announced _ hread => exact remaining_of_readFrame hread
  | ended _ hread => exact remaining_of_readFrame hread
  | brokenOff _ hread => exact remaining_of_readFrame hread
  | undecodable _ hread => exact remaining_of_readFrame hread

theorem Fails.remaining_le {error : BridgeError} {reader : Frame.Reader}
    (h : Fails session error reader) :
    reader.remaining ≤ session.reader.remaining ∧ 0 < session.phase.rank := by
  cases h with
  | noToken hphase hread =>
    exact ⟨remaining_of_readFrameCapped hread, by rw [hphase]; simp [Phase.rank]⟩
  | noQueryId hphase hread =>
    exact ⟨remaining_of_readFrameCapped hread, by rw [hphase]; simp [Phase.rank]⟩
  | badQueryId hphase hread =>
    exact ⟨remaining_of_readFrameCapped hread, by rw [hphase]; simp [Phase.rank]⟩
  | noMethod hphase hread => exact ⟨remaining_of_readWord hread, by rw [hphase]; simp [Phase.rank]⟩
  | badMethod hphase hread => exact ⟨remaining_of_readWord hread, by rw [hphase]; simp [Phase.rank]⟩
  | noSchema hphase hread =>
    exact ⟨remaining_of_readFrame hread, by rw [hphase]; simp [Phase.rank]⟩
  | badSchema hphase hread =>
    exact ⟨remaining_of_readFrame hread, by rw [hphase]; simp [Phase.rank]⟩

theorem potential_lt {before after : Session Stream}
    (hrank : after.phase.rank < before.phase.rank)
    (hremaining : after.reader.remaining ≤ before.reader.remaining) :
    after.potential < before.potential :=
  Nat.add_lt_add_of_lt_of_le hrank hremaining

/-- **A step brings the end nearer**, until it has been reached. -/
theorem potential_step (sink : StreamSink World Stream) (world : World)
    (hopen : ¬session.phase.isOver = true) :
    (session.step sink world).1.potential < session.potential := by
  have hmove := move_step sink session world
  generalize session.step sink world = result at hmove
  cases hmove with
  | advance h => exact potential_lt h.rank_lt h.remaining_le
  | fail h => exact potential_lt h.remaining_le.2 h.remaining_le.1
  | refused hphase hread _ _ =>
    refine potential_lt ?_ (remaining_of_readFrameCapped hread)
    simp [hphase, Phase.rank]
  | notRefused hphase hread _ _ =>
    refine potential_lt ?_ (remaining_of_readFrameCapped hread)
    simp [hphase, Phase.rank]
  | opened hphase _ =>
    refine potential_lt ?_ (Nat.le_refl _)
    simp [hphase, goTo, Phase.rank]
  | notOpened hphase _ =>
    refine potential_lt ?_ (Nat.le_refl _)
    simp [hphase, Session.fail, goTo, Phase.rank]
  | written hphase hread hne _ _ =>
    have hconsumes := session.reader.consumes_readFrame
    rw [hread] at hconsumes
    have hremaining := hconsumes.ok _ rfl
    have hlength := List.length_pos_iff.2 hne
    rw [potential, potential, hphase]
    simp only [Phase.rank] at hremaining ⊢
    omega
  | notWritten hphase hread _ _ _ =>
    refine potential_lt ?_ (remaining_of_readFrame hread)
    simp [hphase, Phase.rank]
  | aborted hphase =>
    refine potential_lt ?_ (Nat.le_refl _)
    simp [hphase, Session.fail, goTo, Phase.rank]
  | closed hphase _ =>
    refine potential_lt ?_ (Nat.le_refl _)
    simp [hphase, goTo, Phase.rank]
  | notClosed hphase _ =>
    refine potential_lt ?_ (Nat.le_refl _)
    simp [hphase, Session.fail, goTo, Phase.rank]
  | told hphase _ =>
    refine potential_lt ?_ (Nat.le_refl _)
    simp [hphase, Phase.rank]
  | notTold hphase _ =>
    refine potential_lt ?_ (Nat.le_refl _)
    simp [hphase, Phase.rank]
  | lost hphase hread _ _ =>
    refine potential_lt ?_ (remaining_of_readFrame hread)
    simp [hphase, Phase.rank]
  | terminal h => exact absurd h hopen

/-! ## Runs -/

/-- A session that is over stays as it is. -/
theorem step_of_isOver (h : session.phase.isOver = true) :
    session.step sink world = (session, world) := by
  rw [step]
  cases hphase : session.phase with
  | completed => rfl
  | failed => rfl
  | lost => rfl
  | _ => rw [hphase] at h; cases h

theorem steps_of_isOver (h : session.phase.isOver = true) (n : Nat) :
    steps sink n session world = (session, world) := by
  cases n with
  | zero => rfl
  | succ n => rw [steps, if_pos h]

theorem steps_succ' (n : Nat) (session : Session Stream) (world : World) :
    steps sink (n + 1) session world =
      steps sink n (session.step sink world).1 (session.step sink world).2 := by
  rw [steps]
  split
  · rename_i h
    rw [step_of_isOver h, steps_of_isOver h]
  · rfl

theorem steps_add (m n : Nat) (session : Session Stream) (world : World) :
    steps sink (m + n) session world =
      steps sink n (steps sink m session world).1 (steps sink m session world).2 := by
  induction m generalizing session world with
  | zero => rw [Nat.zero_add]; rfl
  | succ m ih => rw [Nat.succ_add, steps_succ', ih, steps_succ']

/-- A step more is a step from where the steps before it have led. -/
theorem steps_succ (n : Nat) (session : Session Stream) (world : World) :
    steps sink (n + 1) session world =
      (steps sink n session world).1.step sink (steps sink n session world).2 := by
  rw [steps_add, steps_succ']
  rfl

/-- Enough steps lead to the end. -/
theorem isOver_steps {n : Nat} (h : session.potential ≤ n) :
    (steps sink n session world).1.phase.isOver = true := by
  induction n generalizing session world with
  | zero =>
    refine Decidable.byContradiction fun hopen => ?_
    have hless := potential_step sink world hopen
    exact Nat.not_lt_zero _ (Nat.lt_of_lt_of_le hless h)
  | succ n ih =>
    rw [steps_succ']
    by_cases hopen : session.phase.isOver = true
    · rw [step_of_isOver hopen, steps_of_isOver hopen]
      exact hopen
    · have hless := potential_step sink world hopen
      exact ih (by omega)

theorem potential_le_budget (session : Session Stream) : session.potential ≤ session.budget := by
  have hrank : session.phase.rank ≤ 12 := by cases session.phase <;> simp [Phase.rank]
  rw [potential, budget, Nat.add_comm]
  exact Nat.add_le_add_left hrank _

/-- **A session comes to an end** within its budget, whatever its source does. -/
theorem isOver_run (sink : StreamSink World Stream) (session : Session Stream) (world : World) :
    (session.run sink world).1.phase.isOver = true :=
  isOver_steps (potential_le_budget session)

/-- However many steps have led to an end, a run leads there. -/
theorem run_eq_steps {n : Nat} (h : (steps sink n session world).1.phase.isOver = true) :
    session.run sink world = steps sink n session world := by
  rw [run]
  rcases Nat.le_total n session.budget with hle | hle
  · rw [← Nat.add_sub_cancel' hle, steps_add, steps_of_isOver h]
  · have hover : (steps sink session.budget session world).1.phase.isOver = true :=
      isOver_run sink session world
    rw [← Nat.add_sub_cancel' hle, steps_add, steps_of_isOver hover]

theorem phase_of_result_ok {summary : Summary} (h : session.result = some (.ok summary)) :
    session.phase = .completed summary := by
  rw [result] at h
  cases hphase : session.phase with
  | completed other =>
    rw [hphase] at h
    cases h
    rfl
  | _ => rw [hphase] at h; cases h

theorem phase_of_result_error {error : BridgeError} (h : session.result = some (.error error)) :
    ∃ state, session.phase = .failed error state := by
  rw [result] at h
  cases hphase : session.phase with
  | failed other state =>
    rw [hphase] at h
    cases h
    exact ⟨state, rfl⟩
  | _ => rw [hphase] at h; cases h

end Session
end BatchBridge
