import BatchBridge.Proofs.Flight.Closing
import BatchBridge.Proofs.Flight.Rows

/-!
# What a close says

A close of a stream to a remote sink reports how the call has ended, if nobody has been told before.
A write that finds the channel without its far end reports that in its place; the close behind it
succeeds, although nothing has been committed.

* `Turn`, `pacedSink` — the remote sink with tasks that may do anything at any time, also in the
  middle of a close, and whose calls may be answered at any time.  **`serve_remoteSink`**: the
  remote sink is one whose tasks do nothing there.
* `Exchange.Sound` — what is known of a stream, its task and the receiver.
  **`Exchange.Sound.turned`**, **`Exchange.Sound.step`**: neither the task nor the owner changes it.
  `Exchange.Sound.delivered`: a call that is answered well at its end has brought everything.
* `Exchange.Written` — a stream that has been written to and not ended.
  **`Exchange.written_write`**, **`Exchange.written_calls`**: a write keeps it so, and so does a
  sequence of calls that does not end it.
* **`Exchange.close_of_sending`**, **`Exchange.close_of_released`** — the close that ends it,
  without and with a failed write before it.
* **`Forwarder.close_result`**, **`Forwarder.close_after_failed_write`** — the same for every
  sequence of calls.
-/

namespace BatchBridge

/-- The batches that are to be written. -/
def StreamCall.written (calls : List StreamCall) : List Batch :=
  calls.filterMap fun call =>
    match call with
    | .write batch => some batch
    | .close | .abort => none

theorem StreamCall.written_append_write (calls : List StreamCall) (batch : Batch) :
    written (calls ++ [.write batch]) = written calls ++ [batch] := by
  simp [written]

namespace Flight

/-! ## Tasks at any pace -/

/-- What may happen to a task between any two steps of its stream. -/
inductive Turn where
  | move (m : Move)
  /-- The task is gone and has no outcome. -/
  | lost
  /-- The task sees the end of the stream, and the answer to the call is lost. -/
  | unanswered (reason : String)
  /-- The call is answered well, though the stream goes on.  The receiver here never does that. -/
  | answered
  deriving DecidableEq, Repr

/-- A turn of the task of a call. -/
def Call.turn (call : Call) (receiver : Receiver) : Turn → Call × Receiver
  | .move m => call.move receiver m
  | .lost =>
    match call.rpc with
    | .running _ => (call.endRpc .cancelled, receiver)
    | .ended _ => (call, receiver)
  | .unanswered reason =>
    match call.rpc, call.queue, call.sending with
    | .running state, [], false =>
      ({ call.endRpc (.failed reason) with sawEnd := true }, (receiver.finish state).2)
    | _, _, _ => (call, receiver)
  | .answered =>
    match call.rpc with
    | .running _ => (call.endRpc .completed, receiver)
    | .ended _ => (call, receiver)

/-- Turns of the task of a call, one after the other. -/
def Call.turns (turns : List Turn) (call : Call) (receiver : Receiver) : Call × Receiver :=
  turns.foldl (fun (call, receiver) turn => call.turn receiver turn) (call, receiver)

/-- A receiver, and the turns that tasks will take. -/
structure Paced where
  receiver : Receiver
  turns : List (List Turn)
  deriving DecidableEq, Repr

/-- Calls are answered before their end only if this is so. -/
def Paced.EarlyOnlyIf (early : Prop) (paced : Paced) : Prop :=
  ∀ due ∈ paced.turns, .answered ∈ due → early

theorem Paced.EarlyOnlyIf.head {early : Prop} {paced : Paced} (h : paced.EarlyOnlyIf early)
    (hanswered : .answered ∈ paced.turns.headD []) : early := by
  obtain ⟨receiver, turns⟩ := paced
  cases turns with
  | nil => cases hanswered
  | cons due turns => exact h due List.mem_cons_self hanswered

theorem Paced.EarlyOnlyIf.tail {early : Prop} {paced : Paced} (h : paced.EarlyOnlyIf early)
    (receiver : Receiver) : Paced.EarlyOnlyIf early ⟨receiver, paced.turns.tail⟩ :=
  fun due hmem => h due (List.mem_of_mem_tail hmem)

/-- Lets the task of a call take its next turns. -/
def Paced.advance (call : Call) (paced : Paced) : Call × Paced :=
  let (call, receiver) := call.turns (paced.turns.headD []) paced.receiver
  (call, ⟨receiver, paced.turns.tail⟩)

/-- Ends the request stream and waits for the task, which goes on to its end unless something
happens to it. -/
def Paced.close (call : Call) (paced : Paced) : Served Paced Call :=
  let (call, paced) := paced.advance call
  let (call, paced) := paced.advance call.endInput
  let (call, receiver) := call.settle paced.receiver
  let (result, call) := call.join
  ⟨result, call, { paced with receiver }⟩

/-- The remote sink, with tasks that take turns before each call on a stream, and in the middle of a
close.  An abort has ended its task by then. -/
def pacedSink : StreamSink Paced Call where
  openStream destination fields paced := (.ok (.new paced.receiver destination fields), paced)
  write batch call paced :=
    let (call, paced) := paced.advance call
    let (result, call) := call.write batch
    ⟨result, call, paced⟩
  close := Paced.close
  abort call paced :=
    let (call, paced) := paced.advance call
    (call.abort, paced)
  release _ paced := paced

theorem Call.turns_map_move (due : List Move) (call : Call) (receiver : Receiver) :
    call.turns (due.map .move) receiver = call.moves due receiver := by
  rw [turns, moves, List.foldl_map]
  rfl

/-- **The remote sink is one of these**, whose tasks do nothing in the middle of a close. -/
theorem serve_remoteSink (next : StreamCall) (call : Call) (remote : Remote) :
    let served := serve remoteSink next call remote
    let paced := serve pacedSink next call ⟨remote.receiver, [(remote.script.headD []).map .move]⟩
    served.result = paced.result ∧ served.stream = paced.stream ∧
      served.world.receiver = paced.world.receiver := by
  have hadvance : Paced.advance call ⟨remote.receiver, [(remote.script.headD []).map .move]⟩ =
      ((remote.advance call).1, ⟨(remote.advance call).2.receiver, []⟩) := by
    simp only [Paced.advance, Remote.advance, List.headD_cons, List.tail_cons, Call.turns_map_move]
  have hstill (call : Call) (receiver : Receiver) :
      Paced.advance call ⟨receiver, []⟩ = (call, ⟨receiver, []⟩) := rfl
  cases next with
  | write batch =>
    simp only [serve, remoteSink, pacedSink, Remote.write, hadvance]
    exact ⟨trivial, trivial, trivial⟩
  | abort =>
    simp only [serve, remoteSink, pacedSink, Remote.abort, hadvance]
    exact ⟨trivial, trivial, trivial⟩
  | close =>
    simp only [serve, remoteSink, pacedSink, Remote.close, Paced.close, Call.close, hadvance,
      hstill]
    exact ⟨trivial, trivial, trivial⟩

namespace Exchange

variable {start : Receiver} {id : String} {fields : List Field} {early : Prop} {x y : Exchange}
  {act : Act}

/-! ## What is known -/

/-- The task has taken turns. -/
def turned (turns : List Turn) (x : Exchange) : Exchange :=
  { x with
    call := (x.call.turns turns x.receiver).1
    receiver := (x.call.turns turns x.receiver).2 }

/-- A turn is a step of the task. -/
theorem taskStep_turn (turn : Turn) (x : Exchange) :
    TaskStep x
      { x with
        call := (x.call.turn x.receiver turn).1
        receiver := (x.call.turn x.receiver turn).2 } := by
  cases turn with
  | move m => exact taskStep_of_step (.move m)
  | lost =>
    cases hrpc : x.call.rpc with
    | ended how =>
      simp only [Call.turn, hrpc]
      exact .stays
    | running state =>
      simp only [Call.turn, hrpc]
      exact .ends hrpc .cancelled
  | unanswered reason =>
    simp only [Call.turn]
    split
    · rename_i state hrpc hqueue hsending
      exact .sees hrpc hqueue hsending (.failed reason)
    · exact .stays
  | answered =>
    cases hrpc : x.call.rpc with
    | ended how =>
      simp only [Call.turn, hrpc]
      exact .stays
    | running state =>
      simp only [Call.turn, hrpc]
      exact .ends hrpc .completed

/-- How a call stands that has been answered well: it has ended cleanly, unless calls are answered
before their end, and if it has, the receiver has nothing against it. -/
structure Answered (start : Receiver) (id : String) (fields : List Field) (early : Prop)
    (call : Call) : Prop where
  sawEnd : call.sawEnd = true ∨ early
  accepted : call.sawEnd = true →
    (start.put (streamMessages (some [id]) fields call.taken)).1 = .ok ()

/-- What is known of a stream that has been opened: where its batches are, which holds on the call
are left, and how the call stands once it has been answered well. -/
structure Sound (start : Receiver) (id : String) (fields : List Field) (early : Prop)
    (x : Exchange) : Prop where
  carries : Carries start id fields x
  holds : Holds x
  answered : x.call.rpc = .ended .completed → Answered start id fields early x.call

theorem sound_new (start : Receiver) (id : String) (fields : List Field) (early : Prop) :
    Sound start id fields early (new start id fields) :=
  ⟨.of_new .., .of_new .., fun h => by simp [new, Call.new] at h⟩

/-- A call that fails has not been answered well. -/
theorem completed_of_fail {call : Call} {reason : String}
    (h : (call.fail reason).rpc = .ended .completed) : call.fail reason = call := by
  rw [Call.fail] at h ⊢
  split at h
  · cases h
  · cases h
  · rfl

/-- A turn answers a call well only behind its clean end, or early. -/
theorem answered_turn (h : Sound start id fields early x) (turn : Turn)
    (hearly : turn = .answered → early)
    (hcompleted : (x.call.turn x.receiver turn).1.rpc = .ended .completed) :
    Answered start id fields early (x.call.turn x.receiver turn).1 := by
  cases turn with
  | lost =>
    cases hrpc : x.call.rpc with
    | ended how =>
      simp only [Call.turn, hrpc] at hcompleted ⊢
      exact h.answered (hrpc.trans hcompleted)
    | running state => simp [Call.turn, hrpc, Call.endRpc] at hcompleted
  | unanswered reason =>
    simp only [Call.turn] at hcompleted ⊢
    split at hcompleted
    · cases hcompleted
    · exact h.answered hcompleted
  | answered =>
    cases hrpc : x.call.rpc with
    | ended how =>
      simp only [Call.turn, hrpc] at hcompleted ⊢
      exact h.answered (hrpc.trans hcompleted)
    | running state =>
      have hunseen := h.carries.sawEnd_eq_false hrpc
      simp only [Call.turn, hrpc]
      refine ⟨.inr (hearly rfl), fun hseen => ?_⟩
      rw [show x.call.sawEnd = true from hseen] at hunseen
      cases hunseen
  | move m =>
    cases m with
    | take =>
      rcases x.call.take_cases x.receiver with htake | ⟨state, batch, queue, -, -, htake⟩
      · simp only [Call.turn, Call.move, htake] at hcompleted ⊢
        exact h.answered hcompleted
      · simp [Call.turn, Call.move, htake] at hcompleted
    | fail reason =>
      simp only [Call.turn, Call.move] at hcompleted ⊢
      have hsame := completed_of_fail hcompleted
      rw [hsame] at hcompleted ⊢
      exact h.answered hcompleted
    | hangUp =>
      rcases x.call.hangUp_cases with hangUp | ⟨how, -, hangUp⟩
      · simp only [Call.turn, Call.move, hangUp] at hcompleted ⊢
        exact h.answered hcompleted
      · simp only [Call.turn, Call.move, hangUp] at hcompleted ⊢
        exact ⟨(h.answered hcompleted).sawEnd, (h.answered hcompleted).accepted⟩
    | finish =>
      rcases x.call.finish_cases x.receiver with hfinish | ⟨state, hrunning, -, -, hfinish⟩
      · simp only [Call.turn, Call.move, hfinish] at hcompleted ⊢
        exact h.answered hcompleted
      · obtain ⟨hstate, -⟩ := h.carries.running state hrunning
        rw [h.carries.unseen (h.carries.sawEnd_eq_false hrunning)] at hfinish hcompleted ⊢
        simp only [Call.turn, Call.move, hfinish, Call.endRpc, Rpc.ended.injEq] at hcompleted ⊢
        refine ⟨.inl rfl, fun _ => ?_⟩
        -- the receiver was asked about exactly these messages
        have hput : (start.put (streamMessages (some [id]) fields x.call.taken)).1 =
            (start.finish state).1 := by
          rw [hstate]
          rfl
        rw [hput]
        cases hanswer : (start.finish state).1 with
        | ok _ => rfl
        | error status => simp [hanswer, Call.answered] at hcompleted

/-- **The task does not change what is known.** -/
theorem Sound.turned (h : Sound start id fields early x) {turns : List Turn}
    (hearly : .answered ∈ turns → early) : Sound start id fields early (x.turned turns) := by
  induction turns generalizing x with
  | nil => exact h
  | cons turn turns ih =>
    have hstep := taskStep_turn turn x
    have hanswered := answered_turn h turn fun hturn => hearly (hturn ▸ List.mem_cons_self)
    exact ih (x := { x with call := _, receiver := _ })
      ⟨h.carries.taskStep hstep, h.holds.taskStep hstep, hanswered⟩
      fun hmem => hearly (List.mem_cons_of_mem _ hmem)

/-- **The owner does not change what is known.** -/
theorem Sound.step (h : Sound start id fields early x) (hstep : Step x act y)
    (howner : act ≠ .task) : Sound start id fields early y := by
  refine ⟨h.carries.step hstep, h.holds.step h.carries hstep, fun hcompleted => ?_⟩
  have hsame {call : Call} (hrpc : call.rpc = x.call.rpc) (hseen : call.sawEnd = x.call.sawEnd)
      (htaken : call.taken = x.call.taken) (hcompleted : call.rpc = .ended .completed) :
      Answered start id fields early call := by
    obtain ⟨hsaw, haccepted⟩ := h.answered (hrpc.symm.trans hcompleted)
    exact ⟨hseen ▸ hsaw, by rwa [hseen, htaken]⟩
  -- to cancel a task that runs is all that the owner can do about how the call ends
  have hcancel : x.call.cancel.rpc = .ended .completed →
      Answered start id fields early x.call.cancel := by
    rcases x.call.cancel_cases with
      ⟨-, hcancel⟩ | ⟨-, state, -, hcancel⟩ | ⟨-, how, -, hcancel⟩
    · rw [hcancel]
      exact h.answered
    · intro hended
      simp [hcancel, Call.endRpc] at hended
    · rw [hcancel]
      exact hsame rfl rfl rfl
  cases hstep with
  | move | ends | unanswered => exact absurd rfl howner
  | write batch =>
    rcases x.call.write_cases batch with ⟨-, -, hwrite⟩ | ⟨error, -, -, hwrite⟩ | ⟨error, -, hwrite⟩
    all_goals
      simp only [made, owned, hwrite] at hcompleted ⊢
      exact hsame rfl rfl rfl hcompleted
  | close | aborted | dropped => exact hsame rfl rfl rfl hcompleted
  | awaited =>
    simp only [owned, Call.join_snd] at hcompleted ⊢
    exact hsame rfl rfl rfl hcompleted
  | abort | drop => exact hcancel hcompleted

/-! ## A call that is answered well -/

/-- A stream that the receiver has nothing against is delivered, all of it. -/
theorem put_streamMessages {batches : List Batch}
    (hput : (start.put (streamMessages (some [id]) fields batches)).1 = .ok ()) :
    (start.put (streamMessages (some [id]) fields batches)).2 =
      start.deliver ⟨id, batches.flatMap Batch.chunks⟩ := by
  have hwhole : start.put (streamMessages (some [id]) fields batches) =
      start.finish (.receiveAll start (streamMessages (some [id]) fields batches) .waiting) := rfl
  rw [hwhole] at hput ⊢
  rw [Receiver.finish_receiveAll]
  cases hcomplete : complete? start.rejected (streamMessages (some [id]) fields batches) with
  | none =>
    have hopens : streamMessages (some [id]) fields batches ≠ [] := List.cons_ne_nil _ _
    obtain ⟨status, hstatus⟩ := (PutState.receiveAll_waiting start _ hopens).2 hcomplete
    rw [hstatus] at hput
    cases hput
  | some shipment =>
    obtain ⟨⟨first, path, hfirst, -, hpath, hname⟩, -, -, hbatches⟩ :=
      complete?_eq_some_iff.1 hcomplete
    obtain rfl : openingMessage (some [id]) fields = first := Option.some.inj hfirst
    obtain rfl : [id] = path := Option.some.inj hpath
    rw [batches?_streamMessages] at hbatches
    obtain ⟨destination, delivered⟩ := shipment
    obtain rfl : destination = id := by simpa using hname
    rw [show batches.flatMap Batch.chunks = delivered from Option.some.inj hbatches]

/-- **A call that is answered well at its end has brought everything.** -/
theorem Sound.delivered (h : Sound start id fields early x)
    (hcompleted : x.call.rpc = .ended .completed) (hprompt : ¬early) :
    x.receiver = start.deliver ⟨id, x.accepted.flatMap Batch.chunks⟩ := by
  obtain ⟨hsaw, haccepted⟩ := h.answered hcompleted
  have hseen : x.call.sawEnd = true := hsaw.resolve_right hprompt
  have hput := haccepted hseen
  obtain ⟨hall, -, -, hreceiver⟩ := h.carries.seen hseen
  rw [hall] at hput
  rw [hreceiver, put_streamMessages hput]

/-! ## Writes -/

theorem TaskStep.sending_held (h : TaskStep x y) :
    y.call.sending = x.call.sending ∧ y.call.held = x.call.held := by
  cases h <;> exact ⟨rfl, rfl⟩

/-- The task does not touch what its stream has in hand. -/
theorem turned_sending_held (turns : List Turn) (x : Exchange) :
    (x.turned turns).call.sending = x.call.sending ∧
      (x.turned turns).call.held = x.call.held := by
  induction turns generalizing x with
  | nil => exact ⟨rfl, rfl⟩
  | cons turn turns ih =>
    have hstep := (taskStep_turn turn x).sending_held
    have hrest := ih { x with
      call := (x.call.turn x.receiver turn).1, receiver := (x.call.turn x.receiver turn).2 }
    exact ⟨hrest.1.trans hstep.1, hrest.2.trans hstep.2⟩

/-- A task that has ended takes no turns that anybody could see. -/
theorem turned_of_ended (turns : List Turn) {how : RpcEnd} (hended : x.call.rpc = .ended how) :
    (x.turned turns).call.rpc = .ended how ∧ (x.turned turns).receiver = x.receiver := by
  induction turns generalizing x with
  | nil => exact ⟨hended, rfl⟩
  | cons turn turns ih =>
    have hstep := taskStep_turn turn x
    obtain ⟨queue, attached, hsame⟩ := hstep.of_ended hended
    have hrest := ih (x := { x with
      call := (x.call.turn x.receiver turn).1, receiver := (x.call.turn x.receiver turn).2 })
      (by rw [hsame]; exact hended)
    exact ⟨hrest.1, hrest.2.trans (by rw [hsame])⟩

/-- A stream that has been written to and not ended.  It has its sender until a write fails, and
until then it has every batch. -/
structure Written (start : Receiver) (id : String) (fields : List Field) (early : Prop)
    (results : List (Except BridgeError Unit)) (x : Exchange) : Prop where
  sound : Sound start id fields early x
  idle : x.owner = .idle
  calls : x.calls.find? StreamCall.isEnd = none
  sending : x.call.sending = true ↔ ∀ result ∈ results, result = .ok ()
  whole : x.call.sending = true → x.accepted = StreamCall.written x.calls

variable {results : List (Except BridgeError Unit)} {paced : Paced}

theorem written_new (start : Receiver) (id : String) (fields : List Field) (early : Prop) :
    Written start id fields early [] (new start id fields) :=
  ⟨sound_new start id fields early, rfl, rfl, by simp [new, Call.new], fun _ => rfl⟩

/-- The task has seen no end: there is none before a close. -/
theorem Written.unseen (h : Written start id fields early results x) : x.call.sawEnd = false := by
  cases hseen : x.call.sawEnd with
  | false => rfl
  | true =>
    rcases h.sound.holds.of_idle h.idle with hintact | hover
    · have hgone := (h.sound.carries.seen hseen).2.1
      rw [hintact.sending] at hgone
      cases hgone
    · have hclose := hover.calls hseen
      rw [h.calls] at hclose
      cases hclose

/-- **Behind a write a stream is one that has been written to.** -/
theorem written_write (h : Written start id fields early results x)
    (hreceiver : paced.receiver = x.receiver) (hearly : paced.EarlyOnlyIf early) (batch : Batch) :
    let served := pacedSink.write batch x.call paced
    ∃ y, Written start id fields early (results ++ [served.result]) y ∧
      y.call = served.stream ∧ y.receiver = served.world.receiver ∧
      y.calls = x.calls ++ [.write batch] := by
  intro served
  let before := x.turned (paced.turns.headD [])
  have hserved : served.result = (before.call.write batch).1 ∧
      served.stream = (before.call.write batch).2 ∧ served.world.receiver = before.receiver := by
    simp only [served, before, pacedSink, Paced.advance, turned, hreceiver]
    exact ⟨trivial, trivial, trivial⟩
  obtain ⟨hresult, hstream, hworld⟩ := hserved
  have hstep := Step.write (x := before) batch h.idle
  have hsending : before.call.sending = x.call.sending := (turned_sending_held _ x).1
  refine ⟨_, ⟨(h.sound.turned hearly.head).step hstep (by simp), rfl, ?_, ?_, ?_⟩, hstream.symm,
    hworld.symm, rfl⟩
  · show (x.calls ++ [StreamCall.write batch]).find? StreamCall.isEnd = none
    simp [List.find?_append, h.calls, StreamCall.isEnd]
  · show (before.call.write batch).2.sending = true ↔ _
    rw [List.forall_mem_append, ← h.sending, List.forall_mem_singleton, hresult, ← hsending]
    rcases before.call.write_cases batch with
      ⟨hthere, -, hwrite⟩ | ⟨error, hthere, -, hwrite⟩ | ⟨error, hthere, hwrite⟩
    all_goals simp [hwrite, hthere]
  · intro hstill
    have hstill : (before.call.write batch).2.sending = true := hstill
    show x.accepted ++ (StreamCall.taken? (.write batch) (before.call.write batch).1).toList =
      StreamCall.written (x.calls ++ [.write batch])
    rw [StreamCall.written_append_write]
    rcases before.call.write_cases batch with
      ⟨hthere, -, hwrite⟩ | ⟨error, hthere, -, hwrite⟩ | ⟨error, hthere, hwrite⟩
    · rw [hwrite, h.whole (hsending ▸ hthere)]
      rfl
    · simp [hwrite] at hstill
    · simp [hwrite, hthere] at hstill

/-- **Behind any calls a stream that is still open is one that has been written to.** -/
theorem written_calls (h : Written start id fields early results x)
    (hreceiver : paced.receiver = x.receiver) (hearly : paced.EarlyOnlyIf early)
    {forwarder : Forwarder Call} (hstream : forwarder.stream = some x.call) (calls : List StreamCall) {call : Call}
    (hopen : (forwarder.calls pacedSink calls paced).forwarder.stream = some call) :
    let history := forwarder.calls pacedSink calls paced
    history.world.EarlyOnlyIf early ∧
      ∃ y, Written start id fields early (results ++ history.results) y ∧ y.call = call ∧
        y.receiver = history.world.receiver ∧ y.calls = x.calls ++ calls := by
  induction calls generalizing results x paced forwarder with
  | nil =>
    have hsame : x.call = call := Option.some.inj (hstream.symm.trans hopen)
    refine ⟨hearly, x, ?_, hsame, hreceiver.symm, (List.append_nil _).symm⟩
    simpa [Forwarder.calls] using h
  | cons next rest ih =>
    cases hend : next.isEnd with
    | true =>
      -- the stream would not be open any more
      have hthere : forwarder.isClosed = false := by simp [Forwarder.isClosed, hstream]
      have hclosed := (Forwarder.lands_call hthere pacedSink paced next).closed.trans hend
      rw [Forwarder.calls, Forwarder.calls_of_isClosed hclosed] at hopen
      rw [Forwarder.isClosed, Option.isNone_iff_eq_none] at hclosed
      rw [hclosed] at hopen
      cases hopen
    | false =>
      cases next with
      | close | abort => cases hend
      | write batch =>
        obtain ⟨y, hy, hcall, hworld, hcalls⟩ := written_write h hreceiver hearly batch
        have hcalled : (forwarder.call pacedSink (.write batch) paced).result =
              (pacedSink.write batch x.call paced).result ∧
            (forwarder.call pacedSink (.write batch) paced).stream.stream = some y.call ∧
            (forwarder.call pacedSink (.write batch) paced).world =
              (pacedSink.write batch x.call paced).world := by
          rw [hcall]
          simp only [Forwarder.call, Forwarder.write, hstream]
          cases (pacedSink.write batch x.call paced).result <;> exact ⟨rfl, rfl, rfl⟩
        obtain ⟨hresult, hnext, hthere⟩ := hcalled
        rw [Forwarder.calls] at hopen ⊢
        rw [hthere] at hopen ⊢
        have hstill : (pacedSink.write batch x.call paced).world.EarlyOnlyIf early :=
          hearly.tail _
        obtain ⟨hrest, z, hz, hzcall, hzworld, hzcalls⟩ := ih hy hworld.symm hstill hnext hopen
        refine ⟨hrest, z, ?_, hzcall, hzworld, ?_⟩
        · rw [hresult]
          simpa using hz
        · rw [hzcalls, hcalls, List.append_assoc]
          rfl

/-! ## Closes -/

/-- What the owner of a stream finds in a close before it gets the outcome of the task: the task has
ended, and the stream has given up its sender and nothing else. -/
structure Awaits (start : Receiver) (id : String) (fields : List Field) (early : Prop)
    (x z : Exchange) : Prop where
  sound : Sound start id fields early z
  held : z.call.held = x.call.held
  accepted : z.accepted = x.accepted
  ended : ∃ how, z.call.rpc = .ended how
  /-- If the task had ended before, the close has come too late to change anything. -/
  late : ∀ how, x.call.rpc = .ended how → z.call.rpc = .ended how ∧ z.receiver = x.receiver

theorem awaits_close (h : Sound start id fields early x) (hidle : x.owner = .idle)
    (hreceiver : paced.receiver = x.receiver) (hearly : paced.EarlyOnlyIf early) :
    let served := pacedSink.close x.call paced
    ∃ z, Awaits start id fields early x z ∧ served.result = z.call.join.1 ∧
      served.stream = z.call.join.2 ∧ served.world.receiver = z.receiver := by
  intro served
  let before := x.turned (paced.turns.headD [])
  let letGo := (before.owned .closing .joined before.call.endInput).made .close (.ok ())
  let during := letGo.turned (paced.turns.tail.headD [])
  let after := during.turned ((during.call.queue.map fun _ => .move .take) ++ [.move .finish])
  have hsettled : during.call.settle during.receiver = (after.call, after.receiver) := by
    rw [Call.settle_eq_moves, ← Call.turns_map_move]
    simp only [after, turned, List.map_append, List.map_map, List.map_singleton]
    rfl
  have hserved : served.result = after.call.join.1 ∧ served.stream = after.call.join.2 ∧
      served.world.receiver = after.receiver := by
    have hclose : served = ⟨(during.call.settle during.receiver).1.join.1,
        (during.call.settle during.receiver).1.join.2,
        ⟨(during.call.settle during.receiver).2, paced.turns.tail.tail⟩⟩ := by
      simp only [served, during, letGo, before, pacedSink, Paced.close, Paced.advance, turned,
        owned, made, hreceiver]
    rw [hclose, hsettled]
    exact ⟨rfl, rfl, rfl⟩
  refine ⟨after, ⟨?_, ?_, ?_, ?_, ?_⟩, hserved⟩
  · have hletGo := (h.turned hearly.head).step (.close hidle) (by simp)
    have hduring := hletGo.turned (hearly.tail start).head
    exact hduring.turned (by simp)
  · exact (turned_sending_held _ _).2.trans
      ((turned_sending_held _ letGo).2.trans (turned_sending_held _ x).2)
  · exact List.append_nil _
  · have hsending : during.call.sending = false := (turned_sending_held _ letGo).1
    have hended := Call.ended_settle hsending during.receiver
    rwa [hsettled] at hended
  · intro how hended
    obtain ⟨hbefore, hsame⟩ := turned_of_ended (paced.turns.headD []) hended
    have hletGo : letGo.call.rpc = .ended how := hbefore
    obtain ⟨hduring, hkept⟩ := turned_of_ended (paced.turns.tail.headD []) hletGo
    obtain ⟨hafter, hleft⟩ :=
      turned_of_ended ((during.call.queue.map fun _ => .move .take) ++ [.move .finish]) hduring
    exact ⟨hafter, hleft.trans (hkept.trans hsame)⟩

/-- **A close behind a failed write succeeds**, although nothing has been committed. -/
theorem close_of_released (h : Written start id fields early results x)
    (hreceiver : paced.receiver = x.receiver) (hearly : paced.EarlyOnlyIf early)
    (hsending : x.call.sending = false) :
    let served := pacedSink.close x.call paced
    served.result = .ok () ∧ served.world.receiver = start := by
  intro served
  obtain ⟨z, hz, hresult, -, hworld⟩ := awaits_close h.sound h.idle hreceiver hearly
  rcases h.sound.holds.of_idle h.idle with hintact | hover
  · rw [hintact.sending] at hsending
    cases hsending
  · obtain ⟨how, hended⟩ := hover.ended
    obtain ⟨-, hsame⟩ := hz.late how hended
    have hheld : z.call.held = false := hz.held.trans hover.held
    refine ⟨?_, ?_⟩
    · rw [hresult, Call.join, hheld]
      rfl
    · rw [hworld, hsame, h.sound.carries.unseen h.unseen]

end Exchange
end Flight

open Flight

namespace Forwarder

variable {start : Receiver} {turns : List (List Turn)} {id : String} {fields : List Field}
  {forwarder : Forwarder Call} {world : Paced}

/-- A forwarder that has been opened over the remote sink has, behind any calls that have left its
stream open, a stream that has been written to. -/
theorem exists_written
    (hopen : openStream pacedSink id fields ⟨start, turns⟩ = (.ok forwarder, world))
    (sequence : List StreamCall) {call : Call}
    (hstream : (forwarder.calls pacedSink sequence world).forwarder.stream = some call) :
    let before := forwarder.calls pacedSink sequence world
    let early := ∃ due ∈ turns, .answered ∈ due
    before.world.EarlyOnlyIf early ∧
      ∃ x, Exchange.Written start id fields early before.results x ∧ x.call = call ∧
        before.world.receiver = x.receiver ∧ x.calls = sequence := by
  intro before early
  obtain ⟨rfl, rfl⟩ : forwarder = ⟨id, some (.new start id fields), 0, 0⟩ ∧
      world = ⟨start, turns⟩ := by
    cases hopen
    exact ⟨rfl, rfl⟩
  have hearly : Paced.EarlyOnlyIf early ⟨start, turns⟩ := fun due hmem hanswered =>
    ⟨due, hmem, hanswered⟩
  obtain ⟨hstill, x, hx, hcall, hreceiver, hcalls⟩ := Exchange.written_calls
    (Exchange.written_new start id fields early) rfl hearly rfl sequence hstream
  exact ⟨hstill, x, hx, hcall, hreceiver.symm, hcalls⟩

theorem close_eq {call : Call} (h : forwarder.stream = some call) (world : Paced) :
    (forwarder.close pacedSink world).result = (pacedSink.close call world).result ∧
      (forwarder.close pacedSink world).world = (pacedSink.close call world).world := by
  simp only [close, h]
  exact ⟨trivial, rfl⟩

/-- **A close behind a failed write succeeds**, whatever has become of the call: the write has been
told instead.  Nothing has been committed. -/
theorem close_after_failed_write
    (hopen : openStream pacedSink id fields ⟨start, turns⟩ = (.ok forwarder, world))
    (sequence : List StreamCall) {call : Call}
    (hstream : (forwarder.calls pacedSink sequence world).forwarder.stream = some call)
    (hfailed : ∃ result ∈ (forwarder.calls pacedSink sequence world).results, result ≠ .ok ()) :
    let before := forwarder.calls pacedSink sequence world
    let closed := before.forwarder.close pacedSink before.world
    closed.result = .ok () ∧ closed.world.receiver = start := by
  intro before closed
  obtain ⟨hearly, x, hx, rfl, hreceiver, rfl⟩ := exists_written hopen sequence hstream
  obtain ⟨hresult, hworld⟩ := close_eq hstream before.world
  have hsending : x.call.sending = false := by
    obtain ⟨result, hmem, hbad⟩ := hfailed
    exact Bool.eq_false_iff.2 fun hsending => hbad (hx.sending.1 hsending result hmem)
  rw [hresult, hworld]
  exact Exchange.close_of_released hx hreceiver hearly hsending

end Forwarder
end BatchBridge
