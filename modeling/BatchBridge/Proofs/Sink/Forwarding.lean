import BatchBridge.Proofs.Sink.Recording

/-!
# A stream is ended once

Whatever is asked of a forwarder, and whatever its stream makes of it, the stream gets to see some
writes and then one call that ends it.

* `StreamCall.upToEnd` — the calls of a sequence that a stream gets to see.
* `Forwarder.calls` — a sequence of calls on a forwarder.  **`Forwarder.calls_append`**: what holds
  after any sequence of calls holds at every point of a longer one.
* `Forwarder.call_of_isClosed`, **`Forwarder.calls_of_isClosed`** — nothing happens after the end.
* `Forwarder.Accounts` — what a sequence of calls comes to.  **`Forwarder.accounts_calls`**: each
  call carries it on.
* **`Forwarder.finishes_once`** — the same for a forwarder that has just been opened.
-/

namespace BatchBridge

namespace StreamCall

/-- The calls that a stream gets to see: writes, and then the first close or abort, if there is
one. -/
def upToEnd (calls : List StreamCall) : List StreamCall :=
  calls.takeWhile (!·.isEnd) ++ (calls.find? isEnd).toList

@[simp] theorem upToEnd_nil : upToEnd [] = [] := rfl

@[simp] theorem upToEnd_write (batch : Batch) (calls : List StreamCall) :
    upToEnd (.write batch :: calls) = .write batch :: upToEnd calls := rfl

theorem upToEnd_of_isEnd {call : StreamCall} (h : call.isEnd = true) (calls : List StreamCall) :
    upToEnd (call :: calls) = [call] := by
  simp [upToEnd, h]

/-- The result of a call on a forwarder that has ended its stream. -/
def afterEnd (destination : String) : StreamCall → Except BridgeError Unit
  | write _ => .error (.forwarder (.writeAfterFinish destination))
  | close | abort => .ok ()

/-- The batch of a write that went well. -/
def taken? : StreamCall → Except BridgeError Unit → Option Batch
  | write batch, .ok () => some batch
  | _, _ => none

/-- The batches of the writes that went well. -/
def taken (calls : List StreamCall) (results : List (Except BridgeError Unit)) : List Batch :=
  (List.zipWith taken? calls results).filterMap id

@[simp] theorem taken_nil (results : List (Except BridgeError Unit)) : taken [] results = [] := rfl

theorem taken_cons (call : StreamCall) (calls : List StreamCall) (result : Except BridgeError Unit)
    (results : List (Except BridgeError Unit)) :
    taken (call :: calls) (result :: results) =
      (taken? call result).toList ++ taken calls results := by
  simp only [taken, List.zipWith_cons_cons]
  cases taken? call result <;> rfl

/-- Nothing is taken after the end. -/
theorem taken_afterEnd (destination : String) (calls : List StreamCall) :
    taken calls (calls.map (afterEnd destination)) = [] := by
  induction calls with
  | nil => rfl
  | cons call calls ih =>
    rw [List.map_cons, taken_cons, ih]
    cases call <;> rfl

end StreamCall

namespace Forwarder

open StreamCall

variable {World Stream : Type}

/-! ## Sequences of calls -/

/-- Makes a call. -/
def call (sink : StreamSink World Stream) (forwarder : Forwarder Stream) (call : StreamCall)
    (world : World) : Called World Stream :=
  match call with
  | .write batch => forwarder.write sink batch world
  | .close => forwarder.close sink world
  | .abort =>
    let (forwarder, world) := forwarder.abort sink world
    ⟨.ok (), forwarder, world⟩

/-- What has come of a sequence of calls. -/
structure History (World Stream : Type) where
  results : List (Except BridgeError Unit)
  forwarder : Forwarder Stream
  world : World

/-- Makes calls one after the other. -/
def calls (sink : StreamSink World Stream) (forwarder : Forwarder Stream) :
    List StreamCall → World → History World Stream
  | [], world => ⟨[], forwarder, world⟩
  | next :: rest, world =>
    let called := forwarder.call sink next world
    let history := called.stream.calls sink rest called.world
    { history with results := called.result :: history.results }

variable {sink : StreamSink World Stream} {forwarder : Forwarder Stream} {world : World}

/-- Later calls go on from where earlier ones have led. -/
theorem calls_append (earlier later : List StreamCall) :
    forwarder.calls sink (earlier ++ later) world =
      let before := forwarder.calls sink earlier world
      let after := before.forwarder.calls sink later before.world
      { after with results := before.results ++ after.results } := by
  induction earlier generalizing forwarder world with
  | nil => rfl
  | cons next rest ih => simp only [List.cons_append, calls, ih]

theorem length_results (sequence : List StreamCall) :
    (forwarder.calls sink sequence world).results.length = sequence.length := by
  induction sequence generalizing forwarder world with
  | nil => rfl
  | cons next rest ih => simp only [calls, List.length_cons, ih]

/-- A forwarder over the recorded sink does what it does over the sink. -/
theorem call_recorded (next : StreamCall) (log : List Reached) :
    forwarder.call sink.recorded next (world, log) =
      ⟨(forwarder.call sink next world).result, (forwarder.call sink next world).stream,
        (forwarder.call sink next world).world,
        log ++ forwarder.trace next (forwarder.call sink next world).result⟩ := by
  cases next with
  | write batch => exact write_recorded ..
  | close => exact close_recorded ..
  | abort => simp only [call, abort_recorded]

theorem calls_recorded (sink : StreamSink World Stream) (forwarder : Forwarder Stream)
    (world : World) (sequence : List StreamCall) (log : List Reached) :
    ∃ added, forwarder.calls sink.recorded sequence (world, log) =
      ⟨(forwarder.calls sink sequence world).results,
        (forwarder.calls sink sequence world).forwarder,
        (forwarder.calls sink sequence world).world, log ++ added⟩ := by
  induction sequence generalizing forwarder world log with
  | nil => exact ⟨[], by simp [calls]⟩
  | cons next rest ih =>
    obtain ⟨added, hrest⟩ := ih (forwarder.call sink next world).stream
      (forwarder.call sink next world).world
      (log ++ forwarder.trace next (forwarder.call sink next world).result)
    refine ⟨forwarder.trace next (forwarder.call sink next world).result ++ added, ?_⟩
    simp only [calls, call_recorded, hrest, List.append_assoc]

/-! ## After the end -/

/-- **A call after the end changes nothing**, and does not reach the stream. -/
theorem call_of_isClosed (h : forwarder.isClosed = true) (next : StreamCall) :
    forwarder.call sink next world = ⟨afterEnd forwarder.destination next, forwarder, world⟩ := by
  have hstream : forwarder.stream = none := Option.isNone_iff_eq_none.1 h
  cases next <;> simp [call, write, close, abort, hstream, afterEnd]

theorem calls_of_isClosed (h : forwarder.isClosed = true) (sequence : List StreamCall) :
    forwarder.calls sink sequence world =
      ⟨sequence.map (afterEnd forwarder.destination), forwarder, world⟩ := by
  induction sequence with
  | nil => rfl
  | cons next rest ih => simp only [calls, call_of_isClosed h, ih, List.map_cons]

/-! ## Up to the end -/

/-- What a call on an open stream leaves behind.  It ends the stream if it is of that kind, well or
not, and it is counted if it is a write that went well. -/
structure Lands (forwarder : Forwarder Stream) (next : StreamCall)
    (called : Called World Stream) : Prop where
  closed : called.stream.isClosed = next.isEnd
  destination : called.stream.destination = forwarder.destination
  batches : called.stream.batches =
    forwarder.batches + (taken? next called.result).toList.length
  rows : called.stream.rows =
    forwarder.rows + Batch.totalRows (taken? next called.result).toList

theorem lands_call (h : forwarder.isClosed = false) (sink : StreamSink World Stream)
    (world : World) (next : StreamCall) :
    forwarder.Lands next (forwarder.call sink next world) := by
  cases hstream : forwarder.stream with
  | none => simp [isClosed, hstream] at h
  | some stream =>
    cases next with
    | write batch =>
      simp only [call, write, hstream]
      generalize sink.write batch stream world = served
      obtain ⟨result, stream', world'⟩ := served
      cases result with
      | error error => exact ⟨rfl, rfl, rfl, rfl⟩
      | ok _ => exact ⟨rfl, rfl, rfl, rfl⟩
    | close =>
      simp only [call, close, hstream]
      exact ⟨rfl, rfl, rfl, rfl⟩
    | abort =>
      simp only [call, abort, hstream]
      exact ⟨rfl, rfl, rfl, rfl⟩

/-- What a sequence of calls comes to, for a forwarder whose stream is open. -/
structure Accounts (start : Forwarder Stream) (log : List Reached) (sequence : List StreamCall)
    (history : History (World × List Reached) Stream) : Prop where
  /-- What has reached the stream, with the results that the caller got. -/
  reached : history.world.2 =
    log ++ List.zipWith Reached.called (upToEnd sequence) history.results
  /-- What the caller got after the end. -/
  later : history.results.drop (upToEnd sequence).length =
    (sequence.drop (upToEnd sequence).length).map (afterEnd start.destination)
  closed : history.forwarder.isClosed = sequence.any isEnd
  destination : history.forwarder.destination = start.destination
  batches : history.forwarder.batches =
    start.batches + (taken sequence history.results).length
  rows : history.forwarder.rows =
    start.rows + Batch.totalRows (taken sequence history.results)

/-- **Every call is accounted for.** -/
theorem accounts_calls (h : forwarder.isClosed = false) (world : World)
    (sequence : List StreamCall) (log : List Reached) :
    Accounts forwarder log sequence (forwarder.calls sink.recorded sequence (world, log)) := by
  induction sequence generalizing forwarder world log with
  | nil =>
    exact ⟨(List.append_nil log).symm, rfl, h, rfl, rfl, rfl⟩
  | cons next rest ih =>
    have hlands := lands_call h sink world next
    have htrace : forwarder.trace next (forwarder.call sink next world).result =
        [.called next (forwarder.call sink next world).result] := by
      simp [trace, h]
    simp only [calls, call_recorded, htrace]
    generalize forwarder.call sink next world = called at hlands
    cases hend : next.isEnd with
    | true =>
      have hclosed : called.stream.isClosed = true := hlands.closed.trans hend
      rw [calls_of_isClosed hclosed]
      refine ⟨?_, ?_, ?_, hlands.destination, ?_, ?_⟩
      · simp [upToEnd_of_isEnd hend]
      · simp [upToEnd_of_isEnd hend, hlands.destination]
      · simp [hclosed, hend]
      · simp [hlands.batches, taken_cons, taken_afterEnd]
      · simp [hlands.rows, taken_cons, taken_afterEnd]
    | false =>
      have hopen : called.stream.isClosed = false := hlands.closed.trans hend
      have hseen : upToEnd (next :: rest) = next :: upToEnd rest := by
        simp [upToEnd, hend]
      have hrest := ih hopen called.world (log ++ [.called next called.result])
      refine ⟨?_, ?_, ?_, hrest.destination.trans hlands.destination, ?_, ?_⟩
      · simp [hseen, hrest.reached]
      · simp [hseen, hrest.later, hlands.destination]
      · simp [hend, hrest.closed]
      · simp [hrest.batches, hlands.batches, taken_cons, Nat.add_assoc]
      · simp [hrest.rows, hlands.rows, taken_cons, Batch.totalRows_append, Nat.add_assoc]

/-- **A stream is ended once.**  Of a sequence of calls on a forwarder that has just been opened,
its stream gets to see the writes up to the first close or abort, and that one, with the results
that the caller gets.  The first close or abort ends the stream even if it fails, and no failed
write does; from then on a write is an error, a close and an abort do nothing, and nothing changes.
What has been counted are the writes that went well; in 64-bit words the counts hold as they stand
up to 2^64 - 1 rows.  None of this is due to the calls having been written down. -/
theorem finishes_once {destination : String} {fields : List Field} {start : World × List Reached}
    (hopen : openStream sink.recorded destination fields (world, []) = (.ok forwarder, start))
    (sequence : List StreamCall) :
    let history := forwarder.calls sink.recorded sequence start
    history.results.length = sequence.length ∧
    history.world.2 = .opened destination fields (.ok ()) ::
      List.zipWith Reached.called (upToEnd sequence) history.results ∧
    history.results.drop (upToEnd sequence).length =
      (sequence.drop (upToEnd sequence).length).map (afterEnd destination) ∧
    (sequence.any isEnd = true → ∀ next,
      history.forwarder.call sink.recorded next history.world =
        ⟨afterEnd destination next, history.forwarder, history.world⟩) ∧
    history.forwarder.isClosed = sequence.any isEnd ∧
    history.forwarder.batches = (taken sequence history.results).length ∧
    history.forwarder.rows = Batch.totalRows (taken sequence history.results) ∧
    forwarder.calls sink sequence start.1 =
      ⟨history.results, history.forwarder, history.world.1⟩ := by
  intro history
  rw [openStream_recorded] at hopen
  cases hsink : sink.openStream destination fields world with
  | mk result opened =>
    cases result with
    | error error =>
      simp only [openStream, hsink] at hopen
      cases hopen
    | ok stream =>
      simp only [openStream, hsink] at hopen
      cases hopen
      have haccounts : Accounts ⟨destination, some stream, 0, 0⟩ _ sequence history :=
        accounts_calls rfl opened sequence _
      obtain ⟨added, hrecorded⟩ := calls_recorded sink ⟨destination, some stream, 0, 0⟩ opened
        sequence ([] ++ [.opened destination fields (.ok ())])
      refine ⟨length_results sequence, haccounts.reached, haccounts.later, fun hend next => ?_,
        haccounts.closed, ?_, ?_, ?_⟩
      · rw [call_of_isClosed (haccounts.closed.trans hend), haccounts.destination]
      · rw [haccounts.batches, Nat.zero_add]
      · rw [haccounts.rows, Nat.zero_add]
      · show _ = History.mk history.results _ _
        rw [show history = _ from hrecorded]

/-- A stream of the memory sink whose second write and whose close fail. -/
theorem finishes_once_memory :
    let batch : Batch := ⟨3, [], 0⟩
    let forwarder : Forwarder MemoryStream := ⟨"q", some ⟨"q", 0⟩, 0, 0⟩
    let history := forwarder.calls memorySink.recorded
      [.write batch, .write batch, .close, .write batch, .abort, .close]
      (⟨⟨false, some 1, true⟩, [.opened "q" []]⟩, [.opened "q" [] (.ok ())])
    history.results =
        [.ok (), .error (.forwarder (.writeRejected 1 "q")),
          .error (.forwarder (.closeRejected "q")),
          .error (.forwarder (.writeAfterFinish "q")), .ok (), .ok ()] ∧
      history.world.2 =
        [.opened "q" [] (.ok ()), .called (.write batch) (.ok ()),
          .called (.write batch) (.error (.forwarder (.writeRejected 1 "q"))),
          .called .close (.error (.forwarder (.closeRejected "q")))] ∧
      history.forwarder.isClosed = true ∧ history.forwarder.rows = 3 := by
  intro batch forwarder history
  have hresults : history.results = _ := rfl
  have hopen : openStream memorySink.recorded "q" [] (.new ⟨false, some 1, true⟩, []) =
      (.ok forwarder, ⟨⟨false, some 1, true⟩, [.opened "q" []]⟩, [.opened "q" [] (.ok ())]) := rfl
  obtain ⟨-, hlog, -, -, hclosed, -, hrows, -⟩ := finishes_once hopen
    [.write batch, .write batch, .close, .write batch, .abort, .close]
  exact ⟨hresults, hlog, hclosed, hrows⟩

end Forwarder
end BatchBridge
