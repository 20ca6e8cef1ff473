import BatchBridge.Proofs.Sink.Forwarding

/-!
# Streams that share a sink

The memory sink keeps one log for all its streams, and an entry says which destination it is for,
but not which stream.  What the log makes of a destination is therefore what its streams have made
of it only as long as these do not overlap.

* `MemorySink.Usage` — a sink with the streams that have been opened on it, and what has come of
  each of them; `Usage.next` — another stream is opened, or one of them is called.
* `Usage.committedTo` — the batches of the streams to a destination that have been closed well.
* `Throughout` — every action keeps to a rule: `Usage.Orderly`, no stream is called after its end,
  and `Usage.Apart`, no stream is called after another one has been opened to its destination.
* `Does`, `Usage.Becomes` — what a call and what an action can do.
* `Usage.Accounts` — the tally of a destination can be told from its streams, of which only the last
  one can still be running; **`Usage.Accounts.becomes`** — so it is after any action.
* `MemorySink.sealedBatches`, **`MemorySink.committed_foldl_step`** — what a log comes to in any
  case.
* **`MemorySink.committedRowsFor_run`** — both together.
-/

namespace BatchBridge.MemorySink

/-! ## Streams and their calls -/

/-- What has become of a stream. -/
inductive Fate where
  | running
  /-- It has been closed, and that went well or it did not. -/
  | closed (well : Bool)
  | aborted
  deriving DecidableEq, Repr

/-- A stream with what has come of its calls. -/
structure Held where
  stream : MemoryStream
  /-- The batches of the writes that went well. -/
  taken : List Batch
  fate : Fate
  deriving DecidableEq, Repr

/-- What can be done with a sink and its streams. -/
inductive Action where
  | openStream (destination : String) (fields : List Field)
  /-- A stream is called.  They are numbered as they have been opened. -/
  | call (number : Nat) (call : StreamCall)
  deriving DecidableEq, Repr

/-- A sink with the streams that have been opened on it. -/
structure Usage where
  sink : MemorySink
  held : List Held
  deriving DecidableEq, Repr

namespace Held

/-- Where the stream leads. -/
def destination (held : Held) : String := held.stream.destination

/-- Calls the stream. -/
def call (held : Held) (sink : MemorySink) : StreamCall → Held × MemorySink
  | .write batch =>
    let served := sink.write batch held.stream
    let taken := StreamCall.taken? (.write batch) served.result
    ({ held with stream := served.stream, taken := held.taken ++ taken.toList }, served.world)
  | .close =>
    let served := sink.close held.stream
    ({ held with stream := served.stream, fate := .closed served.result.isOk }, served.world)
  | .abort =>
    let (stream, sink) := sink.abort held.stream
    ({ held with stream, fate := .aborted }, sink)

end Held

namespace Usage

/-- Before the first action. -/
def start (faults : SinkFaults) : Usage := ⟨.new faults, []⟩

/-- Opens a stream or calls one. -/
def next (usage : Usage) : Action → Usage
  | .openStream destination fields =>
    match usage.sink.openStream destination fields with
    | (.ok stream, sink) => ⟨sink, usage.held ++ [⟨stream, [], .running⟩]⟩
    | (.error _, sink) => { usage with sink }
  | .call number call =>
    match usage.held[number]? with
    | some held =>
      let (held, sink) := held.call usage.sink call
      ⟨sink, usage.held.set number held⟩
    | none => usage

/-- Does one thing after the other on a sink with faults. -/
def run (faults : SinkFaults) (actions : List Action) : Usage := actions.foldl next (start faults)

/-- The streams to a destination, in the order in which they have been opened. -/
def streamsTo (destination : String) (usage : Usage) : List Held :=
  usage.held.filter (·.destination == destination)

end Usage

/-- The batches of the streams that have been closed well. -/
def committed (streams : List Held) : List Batch :=
  (streams.filter (·.fate == .closed true)).flatMap Held.taken

/-- The batches of the streams to a destination that have been closed well. -/
def Usage.committedTo (destination : String) (usage : Usage) : List Batch :=
  committed (usage.streamsTo destination)

/-! ## Rules -/

/-- A stream that is called has not been ended. -/
def Usage.Orderly (usage : Usage) : Action → Prop
  | .openStream .. => True
  | .call number _ => ∀ held ∈ usage.held[number]?, held.fate = .running

/-- A stream to the destination that is called is the one that has been opened last. -/
def Usage.Apart (destination : String) (usage : Usage) : Action → Prop
  | .openStream .. => True
  | .call number _ => ∀ held ∈ usage.held[number]?, held.destination = destination →
      ∀ later ∈ usage.held.drop (number + 1), later.destination ≠ destination

/-- Every action keeps to a rule when its turn comes. -/
def Throughout (rule : Usage → Action → Prop) : Usage → List Action → Prop
  | _, [] => True
  | usage, action :: actions => rule usage action ∧ Throughout rule (usage.next action) actions

instance (usage : Usage) (action : Action) : Decidable (usage.Orderly action) :=
  match action with
  | .openStream .. => .isTrue trivial
  | .call number _ => inferInstanceAs (Decidable (∀ held ∈ usage.held[number]?, _))

instance (destination : String) (usage : Usage) (action : Action) :
    Decidable (usage.Apart destination action) :=
  match action with
  | .openStream .. => .isTrue trivial
  | .call number _ => inferInstanceAs (Decidable (∀ held ∈ usage.held[number]?, _ → _))

instance decidableThroughout (rule : Usage → Action → Prop) [∀ usage, DecidablePred (rule usage)] :
    ∀ usage actions, Decidable (Throughout rule usage actions)
  | _, [] => .isTrue trivial
  | usage, action :: actions =>
    have := decidableThroughout rule (usage.next action) actions
    inferInstanceAs (Decidable (rule usage action ∧ _))

/-! ## The log of one destination -/

/-- What the calls for a destination come to. -/
def tally (destination : String) (sink : MemorySink) : Tally :=
  (sink.eventsFor destination).foldl Tally.step ⟨0, 0⟩

theorem committedRowsFor_eq (destination : String) (sink : MemorySink) :
    sink.committedRowsFor destination =
      if sink.faults.failClose then 0 else (sink.tally destination).committed := rfl

/-- A call that is written down counts for its own destination. -/
theorem tally_record (event : SinkEvent) (destination : String) (sink : MemorySink) :
    (sink.record event).tally destination =
      if event.destination = destination then (sink.tally destination).step event
      else sink.tally destination := by
  by_cases h : event.destination = destination <;>
    simp [tally, eventsFor, record, List.filter_append, List.foldl_append, h]

/-! ## What the streams come to -/

namespace Held

/-- The rows that a close would commit. -/
def pending (held : Held) : Nat := if held.fate = .running then Batch.totalRows held.taken else 0

/-- The rows that a close has committed. -/
def won (held : Held) : Nat := if held.fate = .closed true then Batch.totalRows held.taken else 0

end Held

/-- What streams that follow each other come to: only the last one can still be running. -/
def Tally.ofStreams (streams : List Held) : Tally where
  pending := (streams.getLast?.map Held.pending).getD 0
  committed := Batch.totalRows (MemorySink.committed streams)

theorem Tally.ofStreams_append (front : List Held) (held : Held) :
    ofStreams (front ++ [held]) =
      ⟨held.pending, Batch.totalRows (MemorySink.committed front) + held.won⟩ := by
  by_cases hwon : held.fate = .closed true <;>
    simp [ofStreams, MemorySink.committed, Held.won, hwon, List.filter_append]

/-! ## One call -/

variable {held held' : Held} {sink sink' : MemorySink} {destination : String}

/-- What a call can do: a write is rejected and leaves no trace, or the call is written down. -/
inductive Does (held : Held) (sink : MemorySink) : Held → MemorySink → Prop where
  | rejected {stream : MemoryStream} : stream.destination = held.destination →
      Does held sink { held with stream } sink
  | written {stream : MemoryStream} (batch : Batch) : stream.destination = held.destination →
      Does held sink { held with stream, taken := held.taken ++ [batch] }
        (sink.record (.written held.destination batch))
  | closed : Does held sink { held with fate := .closed (!sink.faults.failClose) }
      (sink.record (.closed held.destination))
  | aborted : Does held sink { held with fate := .aborted }
      (sink.record (.aborted held.destination))

theorem does_call (held : Held) (sink : MemorySink) (call : StreamCall) :
    Does held sink (held.call sink call).1 (held.call sink call).2 := by
  cases call with
  | write batch =>
    by_cases hreject : sink.faults.failWriteAt = some held.stream.writes
    · simp only [Held.call, write, if_pos hreject, StreamCall.taken?, Option.toList_none,
        List.append_nil]
      exact .rejected rfl
    · simp only [Held.call, write, if_neg hreject, StreamCall.taken?, Option.toList_some]
      exact .written batch rfl
  | close =>
    have hwell : (sink.close held.stream).result.isOk = !sink.faults.failClose := by
      rw [close]
      cases sink.faults.failClose <;> rfl
    simp only [Held.call, hwell]
    exact .closed
  | abort => exact .aborted

namespace Does

theorem faults (h : Does held sink held' sink') : sink'.faults = sink.faults := by
  cases h <;> rfl

theorem destination_eq (h : Does held sink held' sink') : held'.destination = held.destination := by
  cases h with
  | rejected hstream => exact hstream
  | written _ hstream => exact hstream
  | closed => rfl
  | aborted => rfl

/-- A call leaves the other destinations alone. -/
theorem tally_of_ne (h : Does held sink held' sink') (hne : held.destination ≠ destination) :
    sink'.tally destination = sink.tally destination := by
  cases h with
  | rejected => rfl
  | written => simp [tally_record, SinkEvent.destination, hne]
  | closed => simp [tally_record, SinkEvent.destination, hne]
  | aborted => simp [tally_record, SinkEvent.destination, hne]

/-- **What a call makes of the rows of a running stream is what it makes of the tally.** -/
theorem tally_eq (h : Does held sink held' sink') (hclose : sink.faults.failClose = false)
    (hrunning : held.fate = .running) {rows : Nat}
    (htally : sink.tally held.destination = ⟨held.pending, rows⟩) :
    sink'.tally held.destination = ⟨held'.pending, rows + held'.won⟩ := by
  rw [Held.pending, if_pos hrunning] at htally
  cases h with
  | rejected => simp [htally, Held.pending, Held.won, hrunning]
  | written batch =>
    simp [tally_record, SinkEvent.destination, htally, Tally.step, Held.pending, Held.won, hrunning,
      Batch.totalRows]
  | closed =>
    simp [tally_record, SinkEvent.destination, htally, Tally.step, Held.pending, Held.won, hclose]
  | aborted =>
    simp [tally_record, SinkEvent.destination, htally, Tally.step, Held.pending, Held.won]

/-- A close that is made to fail does not go well. -/
theorem fate_ne (h : Does held sink held' sink') (hclose : sink.faults.failClose = true)
    (hfate : held.fate ≠ .closed true) : held'.fate ≠ .closed true := by
  cases h with
  | rejected => exact hfate
  | written => exact hfate
  | closed => simp [hclose]
  | aborted => simp

end Does

/-! ## One action -/

/-- What an action can do: a stream is refused, or another one is there, or one of them is called;
or else there is no such stream. -/
inductive Usage.Becomes (usage : Usage) : Action → Usage → Prop where
  | refused {destination : String} {fields : List Field} :
      Becomes usage (.openStream destination fields) usage
  | opened {destination : String} {fields : List Field} :
      Becomes usage (.openStream destination fields)
        ⟨usage.sink.record (.opened destination fields),
          usage.held ++ [⟨⟨destination, 0⟩, [], .running⟩]⟩
  | called {front back : List Held} {held held' : Held} {sink : MemorySink} {call : StreamCall} :
      usage.held = front ++ held :: back → Does held usage.sink held' sink →
      Becomes usage (.call front.length call) ⟨sink, front ++ held' :: back⟩
  | missed {number : Nat} {call : StreamCall} : usage.held[number]? = none →
      Becomes usage (.call number call) usage

theorem Usage.becomes_next (usage : Usage) (action : Action) :
    usage.Becomes action (usage.next action) := by
  cases action with
  | openStream destination fields =>
    by_cases hrefuse : usage.sink.faults.failOpen = true
    · simp only [next, MemorySink.openStream, if_pos hrefuse]
      exact .refused
    · simp only [next, MemorySink.openStream, if_neg hrefuse]
      exact .opened
  | call number call =>
    cases hheld : usage.held[number]? with
    | none =>
      simp only [next, hheld]
      exact .missed hheld
    | some held =>
      obtain ⟨hlt, hget⟩ := List.getElem?_eq_some_iff.1 hheld
      have hsplit : usage.held =
          usage.held.take number ++ held :: usage.held.drop (number + 1) := by
        rw [← hget, ← List.drop_eq_getElem_cons hlt, List.take_append_drop]
      have hlength : (usage.held.take number).length = number :=
        List.length_take_of_le (Nat.le_of_lt hlt)
      have hcalled : usage.Becomes (.call (usage.held.take number).length call) _ :=
        .called hsplit (does_call held usage.sink call)
      rw [hlength] at hcalled
      simp only [next, hheld, List.set_eq_take_append_cons_drop, if_pos hlt]
      exact hcalled

theorem Usage.Becomes.faults_eq {usage usage' : Usage} {action : Action}
    (h : usage.Becomes action usage') : usage'.sink.faults = usage.sink.faults := by
  cases h with
  | refused => rfl
  | opened => rfl
  | called _ hdoes => exact hdoes.faults
  | missed => rfl

theorem Usage.faults_run (faults : SinkFaults) (actions : List Action) :
    (run faults actions).sink.faults = faults := by
  have hfoldl (usage : Usage) :
      (actions.foldl Usage.next usage).sink.faults = usage.sink.faults := by
    induction actions generalizing usage with
    | nil => rfl
    | cons action actions ih =>
      rw [List.foldl_cons, ih, (usage.becomes_next action).faults_eq]
  exact hfoldl (start faults)

/-! ## Streams apart from each other -/

variable {usage usage' : Usage} {action : Action} {faults : SinkFaults}

/-- The log of a destination can be told from its streams. -/
structure Usage.Accounts (faults : SinkFaults) (destination : String) (usage : Usage) : Prop where
  faults_eq : usage.sink.faults = faults
  /-- If closes are made to fail, then none goes well. -/
  failing : faults.failClose = true → ∀ held ∈ usage.held, held.fate ≠ .closed true
  tally : faults.failClose = false →
    usage.sink.tally destination = .ofStreams (usage.streamsTo destination)

theorem Usage.accounts_start (faults : SinkFaults) (destination : String) :
    (start faults).Accounts faults destination where
  faults_eq := rfl
  failing _ _ hmem := absurd hmem List.not_mem_nil
  tally _ := rfl

/-- The last stream to a destination, and those before it. -/
theorem Usage.streamsTo_eq {front back : List Held} (hheld : usage.held = front ++ held :: back)
    (hdestination : held.destination = destination)
    (hback : ∀ later ∈ back, later.destination ≠ destination) :
    usage.streamsTo destination = front.filter (·.destination == destination) ++ [held] := by
  have hnone : back.filter (·.destination == destination) = [] :=
    List.filter_eq_nil_iff.2 fun later hmem => by simpa using hback later hmem
  simp [streamsTo, hheld, List.filter_append, hdestination, hnone]

/-- A stream that leads elsewhere does not matter. -/
theorem Usage.streamsTo_eq_of_ne {front back : List Held}
    (hheld : usage.held = front ++ held :: back) (hne : held.destination ≠ destination) :
    usage.streamsTo destination =
      front.filter (·.destination == destination) ++
        back.filter (·.destination == destination) := by
  simp [streamsTo, hheld, List.filter_append, hne]

/-- **One action after the other keeps the accounts.** -/
theorem Usage.Accounts.becomes (h : usage.Accounts faults destination)
    (hbecomes : usage.Becomes action usage') (horderly : usage.Orderly action)
    (hapart : usage.Apart destination action) : usage'.Accounts faults destination := by
  have hfaults := hbecomes.faults_eq.trans h.faults_eq
  cases hbecomes with
  | refused => exact h
  | missed => exact h
  | @opened target fields =>
    refine ⟨hfaults, fun hclose held hmem => ?_, fun hclose => ?_⟩
    · rcases List.mem_append.1 hmem with hbefore | hnew
      · exact h.failing hclose held hbefore
      · rw [List.mem_singleton.1 hnew]
        simp
    · have htally := h.tally hclose
      by_cases htarget : target = destination
      · have hstreams : streamsTo destination ⟨usage.sink.record (.opened target fields),
            usage.held ++ [⟨⟨target, 0⟩, [], .running⟩]⟩ =
            usage.streamsTo destination ++ [⟨⟨target, 0⟩, [], .running⟩] := by
          simp [streamsTo, List.filter_append, Held.destination, htarget]
        rw [hstreams, Tally.ofStreams_append, tally_record, htally]
        simp [SinkEvent.destination, htarget, Tally.step, Tally.ofStreams, Held.pending, Held.won,
          Batch.totalRows]
      · have hstreams : streamsTo destination ⟨usage.sink.record (.opened target fields),
            usage.held ++ [⟨⟨target, 0⟩, [], .running⟩]⟩ = usage.streamsTo destination := by
          simp [streamsTo, List.filter_append, Held.destination, htarget]
        rw [hstreams, tally_record, ← htally]
        exact if_neg htarget
  | @called front back held held' sink call hheld hdoes =>
    have hmem : held ∈ usage.held[front.length]? := by simp [hheld]
    have hrunning : held.fate = .running := horderly held hmem
    refine ⟨hfaults, fun hclose other hother => ?_, fun hclose => ?_⟩
    · have hfailing := h.failing hclose
      rw [hheld] at hfailing
      rcases List.mem_append.1 hother with hfront | hrest
      · exact hfailing other (List.mem_append_left _ hfront)
      · rcases List.mem_cons.1 hrest with rfl | hback
        · refine hdoes.fate_ne (h.faults_eq ▸ hclose) ?_
          exact hfailing held (List.mem_append_right _ List.mem_cons_self)
        · exact hfailing other (List.mem_append_right _ (List.mem_cons_of_mem _ hback))
    · have htally := h.tally hclose
      rw [← h.faults_eq] at hclose
      by_cases htarget : held.destination = destination
      · have hback : ∀ later ∈ back, later.destination ≠ destination := by
          have hlater := hapart held hmem htarget
          rw [hheld] at hlater
          simpa using hlater
        have hlast : streamsTo destination ⟨sink, front ++ held' :: back⟩ =
            front.filter (·.destination == destination) ++ [held'] :=
          streamsTo_eq rfl (hdoes.destination_eq.trans htarget) hback
        have hwon : held.won = 0 := by simp [Held.won, hrunning]
        rw [streamsTo_eq hheld htarget hback, Tally.ofStreams_append, hwon, Nat.add_zero] at htally
        rw [hlast, Tally.ofStreams_append]
        subst htarget
        exact hdoes.tally_eq hclose hrunning htally
      · have htarget' : held'.destination ≠ destination := by rwa [hdoes.destination_eq]
        have hsame : streamsTo destination ⟨sink, front ++ held' :: back⟩ =
            usage.streamsTo destination :=
          (streamsTo_eq_of_ne rfl htarget').trans (streamsTo_eq_of_ne hheld htarget).symm
        rw [hsame, ← htally]
        exact hdoes.tally_of_ne htarget

theorem Usage.Accounts.foldl (h : usage.Accounts faults destination) {actions : List Action}
    (horderly : Throughout Usage.Orderly usage actions)
    (hapart : Throughout (Usage.Apart destination) usage actions) :
    (actions.foldl Usage.next usage).Accounts faults destination := by
  induction actions generalizing usage with
  | nil => exact h
  | cons action actions ih =>
    exact ih (h.becomes (usage.becomes_next action) horderly.1 hapart.1) horderly.2 hapart.2

/-- **What the log says has been committed is what the streams have committed.** -/
theorem Usage.Accounts.committedRowsFor_eq (h : usage.Accounts faults destination) :
    usage.sink.committedRowsFor destination = Batch.totalRows (usage.committedTo destination) := by
  rw [MemorySink.committedRowsFor_eq, h.faults_eq]
  cases hclose : faults.failClose with
  | false =>
    rw [h.tally hclose]
    rfl
  | true =>
    have hnone : (usage.streamsTo destination).filter (·.fate == .closed true) = [] :=
      List.filter_eq_nil_iff.2 fun held hmem => by
        simpa using h.failing hclose held (List.mem_filter.1 hmem).1
    rw [committedTo, committed, hnone]
    rfl

/-! ## Any streams -/

/-- The first call that is no write is a close. -/
def closesNext : List SinkEvent → Bool
  | [] => false
  | .written .. :: events => closesNext events
  | event :: _ => event.isClose

/-- The batches of the writes behind which a close comes before a stream is opened or aborted. -/
def sealedBatches : List SinkEvent → List Batch
  | [] => []
  | .written _ batch :: events =>
    if closesNext events then batch :: sealedBatches events else sealedBatches events
  | _ :: events => sealedBatches events

/-- **What calls add to a tally**: the next close commits what is pending, and each of the others
what has been written before it. -/
theorem committed_foldl_step (events : List SinkEvent) (tally : Tally) :
    (events.foldl Tally.step tally).committed =
      tally.committed + (if closesNext events then tally.pending else 0) +
        Batch.totalRows (sealedBatches events) := by
  induction events generalizing tally with
  | nil => rfl
  | cons event events ih =>
    rw [List.foldl_cons, ih]
    cases event with
    | written =>
      rw [closesNext, sealedBatches]
      cases closesNext events
      · simp [Tally.step]
      · simp [Tally.step, Batch.totalRows]
        omega
    | opened => simp [Tally.step, closesNext, sealedBatches, SinkEvent.isClose]
    | closed => simp [Tally.step, closesNext, sealedBatches, SinkEvent.isClose]
    | aborted => simp [Tally.step, closesNext, sealedBatches, SinkEvent.isClose]

theorem committedRowsFor_eq_sealed (destination : String) (sink : MemorySink) :
    sink.committedRowsFor destination =
      if sink.faults.failClose then 0
      else Batch.totalRows (sealedBatches (sink.eventsFor destination)) := by
  rw [committedRowsFor_eq, tally, committed_foldl_step]
  simp

/-- **What a sink says it has committed.**  However its streams are called, a batch that has been
written counts if the next call for its destination that is no write is a close, of whatever
stream.  If no stream is called after its end, and none after another one has been opened to the
destination, then the batches that count are those of the streams that have been closed well. -/
theorem committedRowsFor_run (faults : SinkFaults) (actions : List Action) (destination : String) :
    let usage := Usage.run faults actions
    (usage.sink.committedRowsFor destination =
      if faults.failClose then 0
      else Batch.totalRows (sealedBatches (usage.sink.eventsFor destination))) ∧
    (Throughout Usage.Orderly (.start faults) actions →
      Throughout (Usage.Apart destination) (.start faults) actions →
      usage.sink.committedRowsFor destination =
        Batch.totalRows (usage.committedTo destination)) := by
  intro usage
  refine ⟨?_, fun horderly hapart => ?_⟩
  · rw [committedRowsFor_eq_sealed, Usage.faults_run]
  · have haccounts : usage.Accounts faults destination :=
      (Usage.accounts_start faults destination).foldl horderly hapart
    exact haccounts.committedRowsFor_eq

/-- Two streams to a destination after each other, between them one to another destination; of the
second the first write fails. -/
theorem committedRowsFor_run_apart :
    let faults : SinkFaults := ⟨false, some 1, false⟩
    let two : Batch := ⟨2, [], 0⟩
    let three : Batch := ⟨3, [], 0⟩
    let actions : List Action :=
      [.openStream "q" [], .call 0 (.write two), .openStream "r" [], .call 1 (.write three),
        .call 0 .close, .openStream "q" [], .call 2 (.write three), .call 2 (.write two),
        .call 1 .abort, .call 2 .close]
    let usage := Usage.run faults actions
    usage.sink.committedRowsFor "q" = Batch.totalRows (usage.committedTo "q") ∧
      Batch.totalRows (usage.committedTo "q") = 5 ∧ usage.sink.committedRowsFor "r" = 0 := by
  intro faults two three actions usage
  have horderly : Throughout Usage.Orderly (.start faults) actions := by decide
  have hapart : Throughout (Usage.Apart "q") (.start faults) actions := by decide
  exact ⟨(committedRowsFor_run faults actions "q").2 horderly hapart, by decide,
    (committedRowsFor_run faults actions "r").1.trans (by decide)⟩

/-- Streams to one destination at the same time.  The rows of a stream that is closed well are
dropped when another one is opened, and those of a stream that is aborted are committed when
another one is closed. -/
theorem committedRowsFor_of_overlap :
    let two : Batch := ⟨2, [], 0⟩
    let dropped : List Action :=
      [.openStream "q" [], .call 0 (.write two), .openStream "q" [], .call 0 .close, .call 1 .abort]
    let added : List Action :=
      [.openStream "q" [], .openStream "q" [], .call 0 (.write two), .call 1 .close, .call 0 .abort]
    Throughout Usage.Orderly (.start .none) dropped ∧
      (Usage.run .none dropped).sink.committedRowsFor "q" = 0 ∧
      Batch.totalRows ((Usage.run .none dropped).committedTo "q") = 2 ∧
      Throughout Usage.Orderly (.start .none) added ∧
      (Usage.run .none added).sink.committedRowsFor "q" = 2 ∧
      Batch.totalRows ((Usage.run .none added).committedTo "q") = 0 := by
  decide

end BatchBridge.MemorySink
