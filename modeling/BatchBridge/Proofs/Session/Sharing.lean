import BatchBridge.Proofs.Session.Acknowledgment
import BatchBridge.Proofs.Session.Record
import Mathlib.Logic.Function.Basic

/-!
# Sessions that share a sink

Any number of sessions write to one memory sink, and take their steps in any order.  A step makes
one call of the sink at most, so every order of their calls is the order of some steps.

* `Interleaves` — a log that consists of others.
* **`Session.step_add`** — a step adds to the log and never looks at it.
* `Session.eventsFor_runFresh` — all calls of a session are for one destination.
* `Shared.Follows` — sessions over one sink stand where they stand alone.  **`Shared.Follows.step`**
  and **`Shared.Follows.run`**: that stays so.
* **`Shared.noninterference`** — so nothing about a session, or about a destination that only one of
  them has, is different from what it is when that session is alone.
-/

namespace BatchBridge

/-! ## Interleavings -/

/-- A log that consists of these logs, each of them whole and in its order: its entries can be told
apart by whose they are. -/
def Interleaves {ι α : Type} [DecidableEq ι] (logs : ι → List α) (log : List α) : Prop :=
  ∃ tagged : List (ι × α), tagged.map Prod.snd = log ∧
    ∀ i, (tagged.filter (·.1 = i)).map Prod.snd = logs i

namespace Interleaves

variable {ι α : Type} [DecidableEq ι] {logs : ι → List α} {log : List α}

theorem nil : Interleaves (fun _ : ι => ([] : List α)) [] := ⟨[], rfl, fun _ => rfl⟩

/-- One of the logs goes on. -/
theorem append (h : Interleaves logs log) (i : ι) (added : List α) :
    Interleaves (Function.update logs i (logs i ++ added)) (log ++ added) := by
  obtain ⟨tagged, rfl, hlogs⟩ := h
  refine ⟨tagged ++ added.map (i, ·), ?_, fun j => ?_⟩
  · simp [Function.comp_def]
  · rw [List.filter_append, List.map_append, hlogs]
    by_cases hj : j = i
    · subst hj
      simp [Function.comp_def, List.filter_map]
    · have hi : i ≠ j := fun h => hj h.symm
      simp [Function.comp_def, List.filter_map, hj, hi]

/-- What is picked out of all logs can be picked out of the one. -/
theorem filter (h : Interleaves logs log) (p : α → Bool) :
    Interleaves (fun i => (logs i).filter p) (log.filter p) := by
  obtain ⟨tagged, rfl, hlogs⟩ := h
  refine ⟨tagged.filter (p ·.2), ?_, fun i => ?_⟩
  · rw [List.filter_map]
    rfl
  · show _ = (logs i).filter p
    rw [← hlogs i, List.filter_map, List.filter_filter, List.filter_filter]
    simp only [Function.comp_def, Bool.and_comm]

/-- A log of one alone is its log. -/
theorem eq_of_eq_nil (h : Interleaves logs log) {i : ι} (hnil : ∀ j, j ≠ i → logs j = []) :
    log = logs i := by
  obtain ⟨tagged, rfl, hlogs⟩ := h
  rw [← hlogs i]
  have hall : tagged.filter (·.1 = i) = tagged := by
    refine List.filter_eq_self.2 fun entry hmem => decide_eq_true ?_
    refine Decidable.byContradiction fun hne => ?_
    have hnone := List.map_eq_nil_iff.1 ((hlogs entry.1).trans (hnil entry.1 hne))
    have hentry : entry ∈ tagged.filter (·.1 = entry.1) :=
      List.mem_filter.2 ⟨hmem, decide_eq_true rfl⟩
    rw [hnone] at hentry
    cases hentry
  rw [hall]

end Interleaves

/-! ## Calls -/

namespace MemorySink

/-- The sink with more in its log. -/
def add (added : List SinkEvent) (sink : MemorySink) : MemorySink :=
  { sink with events := sink.events ++ added }

theorem add_nil (sink : MemorySink) : sink.add [] = sink := by
  rw [add, List.append_nil]

/-- All calls have been for one destination. -/
def IsFor (sink : MemorySink) (id : String) : Prop :=
  ∀ event ∈ sink.events, event.destination = id

theorem IsFor.record {sink : MemorySink} {id : String} (h : sink.IsFor id) {event : SinkEvent}
    (hevent : event.destination = id) : (sink.record event).IsFor id := by
  intro other hmem
  rcases List.mem_append.1 hmem with hbefore | hnow
  · exact h other hbefore
  · rw [List.mem_singleton.1 hnow, hevent]

/-- While a stream is open, all calls have been for it. -/
theorem Doomed.isFor {sink : MemorySink} {forwarder : Forwarder MemoryStream}
    (h : sink.Doomed forwarder) :
    ∃ id writes, forwarder.Writes id writes ∧ sink.IsFor id := by
  obtain ⟨id, fields, batches, writes, hwrites, hevents⟩ := h
  refine ⟨id, writes, hwrites, fun event hmem => ?_⟩
  rw [hevents] at hmem
  exact destination_of_mem_exportLog hmem

theorem isFor_openStream {sink : MemorySink} (h : sink.events = []) (id : String)
    (fields : List Field) : (memorySink.openStream id fields sink).2.IsFor id := by
  have hnone : sink.IsFor id := fun event hmem => by rw [h] at hmem; cases hmem
  have hopened := openStream_memory id fields sink
  generalize memorySink.openStream id fields sink = called at hopened
  cases hopened with
  | opened => exact hnone.record rfl
  | refused => exact hnone

theorem Doomed.isFor_write {sink : MemorySink} {forwarder : Forwarder MemoryStream}
    (h : sink.Doomed forwarder) (batch : Batch) :
    ∃ id, (forwarder.write memorySink batch sink).world.IsFor id := by
  obtain ⟨id, writes, hwrites, hone⟩ := h.isFor
  have hwritten := Forwarder.write_memory hwrites batch sink
  generalize forwarder.write memorySink batch sink = called at hwritten
  cases hwritten with
  | taken => exact ⟨id, hone.record rfl⟩
  | rejected => exact ⟨id, hone⟩

theorem Doomed.isFor_close {sink : MemorySink} {forwarder : Forwarder MemoryStream}
    (h : sink.Doomed forwarder) : ∃ id, (forwarder.close memorySink sink).world.IsFor id := by
  obtain ⟨id, writes, hwrites, hone⟩ := h.isFor
  have hclosed := Forwarder.close_memory hwrites sink
  generalize forwarder.close memorySink sink = called at hclosed
  cases hclosed with
  | committed => exact ⟨id, hone.record rfl⟩
  | rejected => exact ⟨id, hone.record rfl⟩

theorem Doomed.isFor_abort {sink : MemorySink} {forwarder : Forwarder MemoryStream}
    (h : sink.Doomed forwarder) : ∃ id, (forwarder.abort memorySink sink).2.IsFor id := by
  obtain ⟨id, writes, hwrites, hone⟩ := h.isFor
  rw [Forwarder.abort_memory hwrites]
  exact ⟨id, hone.record rfl⟩

/-- Two sinks in which the same can be seen of a destination. -/
structure AgreeFor (destination : String) (sink sink' : MemorySink) : Prop where
  eventsFor : sink.eventsFor destination = sink'.eventsFor destination
  batchesFor : sink.batchesFor destination = sink'.batchesFor destination
  rowsFor : sink.rowsFor destination = sink'.rowsFor destination
  opensFor : sink.opensFor destination = sink'.opensFor destination
  closesFor : sink.closesFor destination = sink'.closesFor destination
  abortsFor : sink.abortsFor destination = sink'.abortsFor destination
  committedRowsFor : sink.committedRowsFor destination = sink'.committedRowsFor destination

/-- Everything that can be asked about a destination is read off its calls. -/
theorem agreeFor_of_eventsFor {destination : String} {sink sink' : MemorySink}
    (hfaults : sink.faults = sink'.faults)
    (h : sink.eventsFor destination = sink'.eventsFor destination) :
    AgreeFor destination sink sink' where
  eventsFor := h
  batchesFor := by rw [MemorySink.batchesFor, MemorySink.batchesFor, h]
  rowsFor := by
    rw [MemorySink.rowsFor, MemorySink.rowsFor, MemorySink.batchesFor, MemorySink.batchesFor, h]
  opensFor := by rw [MemorySink.opensFor, MemorySink.opensFor, h]
  closesFor := by rw [MemorySink.closesFor, MemorySink.closesFor, h]
  abortsFor := by rw [MemorySink.abortsFor, MemorySink.abortsFor, h]
  committedRowsFor := by
    rw [MemorySink.committedRowsFor, MemorySink.committedRowsFor, hfaults, h]

end MemorySink

namespace Forwarder

theorem openStream_add (id : String) (fields : List Field) (sink : MemorySink) :
    openStream memorySink id fields sink =
      ((openStream memorySink id fields (.new sink.faults)).1,
        sink.add (openStream memorySink id fields (.new sink.faults)).2.events) := by
  by_cases hfault : sink.faults.failOpen = true
  · simp only [openStream, memorySink, MemorySink.openStream, MemorySink.new, if_pos hfault,
      MemorySink.add_nil]
  · simp only [openStream, memorySink, MemorySink.openStream, MemorySink.new, if_neg hfault]
    rfl

theorem write_add (forwarder : Forwarder MemoryStream) (batch : Batch) (sink : MemorySink) :
    forwarder.write memorySink batch sink =
      { forwarder.write memorySink batch (.new sink.faults) with
        world := sink.add (forwarder.write memorySink batch (.new sink.faults)).world.events } := by
  cases hstream : forwarder.stream with
  | none => simp only [write, hstream, MemorySink.new, MemorySink.add_nil]
  | some stream =>
    by_cases hfault : sink.faults.failWriteAt = some stream.writes
    · simp only [write, hstream, memorySink, MemorySink.write, MemorySink.new, if_pos hfault,
        MemorySink.add_nil]
    · simp only [write, hstream, memorySink, MemorySink.write, MemorySink.new, if_neg hfault]
      rfl

theorem close_add (forwarder : Forwarder MemoryStream) (sink : MemorySink) :
    forwarder.close memorySink sink =
      { forwarder.close memorySink (.new sink.faults) with
        world := sink.add (forwarder.close memorySink (.new sink.faults)).world.events } := by
  cases hstream : forwarder.stream with
  | none => simp only [close, hstream, MemorySink.new, MemorySink.add_nil]
  | some stream =>
    simp only [close, hstream, memorySink, MemorySink.close]
    rfl

theorem abort_add (forwarder : Forwarder MemoryStream) (sink : MemorySink) :
    (forwarder.abort memorySink sink).2 =
      sink.add (forwarder.abort memorySink (.new sink.faults)).2.events := by
  cases hstream : forwarder.stream with
  | none => simp only [abort, hstream, MemorySink.new, MemorySink.add_nil]
  | some stream =>
    simp only [abort, hstream, memorySink]
    rfl

end Forwarder

namespace Session

theorem writeBatch_add (exporting : Export MemoryStream) (batch : Batch) (payloadBytes : Nat)
    (session : Session MemoryStream) (sink : MemorySink) :
    session.writeBatch memorySink exporting batch payloadBytes sink =
      ((session.writeBatch memorySink exporting batch payloadBytes (.new sink.faults)).1,
        sink.add
          (session.writeBatch memorySink exporting batch payloadBytes
            (.new sink.faults)).2.events) := by
  simp only [writeBatch]
  rw [Forwarder.write_add]
  generalize exporting.forwarder.write memorySink batch (.new sink.faults) = called
  obtain ⟨result, stream, fresh⟩ := called
  cases result <;> rfl

theorem readBatch_add (exporting : Export MemoryStream) (session : Session MemoryStream)
    (sink : MemorySink) :
    session.readBatch memorySink exporting sink =
      ((session.readBatch memorySink exporting (.new sink.faults)).1,
        sink.add (session.readBatch memorySink exporting (.new sink.faults)).2.events) := by
  have hnothing : sink.add (MemorySink.new sink.faults).events = sink := sink.add_nil
  simp only [readBatch]
  generalize session.reader.readFrame = read
  obtain ⟨result, reader⟩ := read
  cases result with
  | error error => simp only [hnothing]
  | ok frame =>
    by_cases hempty : frame.isEmpty = true
    · simp only [if_pos hempty, hnothing]
    · simp only [if_neg hempty]
      generalize decodeBatch exporting frame = decoded
      obtain ⟨decoded, decompressor⟩ := decoded
      cases decoded with
      | error error => simp only [hnothing]
      | lost => simp only [Forwarder.release_memory, hnothing]
      | ok taken => exact writeBatch_add ..

/-- **A step adds to the log without looking at it**: what it does depends on the session and on the
faults of the sink. -/
theorem step_add (session : Session MemoryStream) (sink : MemorySink) :
    session.step memorySink sink =
      ((session.step memorySink (.new sink.faults)).1,
        sink.add (session.step memorySink (.new sink.faults)).2.events) := by
  cases hphase : session.phase with
  | opening id schema method =>
    simp only [step, hphase, openStream]
    rw [Forwarder.openStream_add]
    generalize Forwarder.openStream memorySink id schema.fields (.new sink.faults) = opened
    obtain ⟨result, fresh⟩ := opened
    cases result <;> rfl
  | aborting forwarder error =>
    simp only [step, hphase]
    rw [Forwarder.abort_add]
  | closing forwarder summary =>
    simp only [step, hphase, closeStream]
    rw [Forwarder.close_add]
    generalize forwarder.close memorySink (.new sink.faults) = called
    obtain ⟨result, stream, fresh⟩ := called
    cases result <;> rfl
  | streaming exporting =>
    simp only [step, hphase]
    exact readBatch_add exporting session sink
  | _ => simp only [step, hphase, MemorySink.new, MemorySink.add_nil]

/-- It adds the same, and goes on in the same way, if the log is another one. -/
theorem step_congr (session : Session MemoryStream) {sink sink' : MemorySink}
    (hfaults : sink'.faults = sink.faults) :
    (session.step memorySink sink').1 = (session.step memorySink sink).1 ∧
      ∃ added, (session.step memorySink sink').2 = sink'.add added ∧
        (session.step memorySink sink).2 = sink.add added := by
  have hstep := step_add session sink
  have hstep' := step_add session sink'
  rw [hfaults] at hstep'
  refine ⟨?_, (session.step memorySink (.new sink.faults)).2.events, ?_, ?_⟩
  · rw [hstep, hstep']
  · rw [hstep']
  · rw [hstep]

/-- A session calls its sink for one destination. -/
theorem isFor_step {asked : Prop} {session : Session MemoryStream} {sink : MemorySink}
    (h : Honest asked session sink) (hone : ∃ id, sink.IsFor id) :
    ∃ id, (session.step memorySink sink).2.IsFor id := by
  have hmove := move_step memorySink session sink
  have hlog := h.log
  generalize session.step memorySink sink = result at hmove
  cases hmove with
  | advance => exact hone
  | fail => exact hone
  | refused => exact hone
  | notRefused => exact hone
  | told => exact hone
  | notTold => exact hone
  | terminal => exact hone
  | @opened id schema _ _ _ hphase hopen =>
    rw [hphase] at hlog
    have hone' := MemorySink.isFor_openStream hlog id schema.fields
    rw [hopen] at hone'
    exact ⟨id, hone'⟩
  | @notOpened id schema _ _ _ hphase hopen =>
    rw [hphase] at hlog
    have hone' := MemorySink.isFor_openStream hlog id schema.fields
    rw [hopen] at hone'
    exact ⟨id, hone'⟩
  | @written _ _ batch _ _ _ _ _ hphase _ _ _ hwrite =>
    rw [hphase] at hlog
    have hone' := (MemorySink.UnderWay.doomed hlog).isFor_write batch
    rwa [hwrite] at hone'
  | @notWritten _ _ batch _ _ _ _ _ _ hphase _ _ _ hwrite =>
    rw [hphase] at hlog
    have hone' := (MemorySink.UnderWay.doomed hlog).isFor_write batch
    rwa [hwrite] at hone'
  | aborted hphase =>
    rw [hphase] at hlog
    exact hlog.1.isFor_abort
  | closed hphase hclose =>
    rw [hphase] at hlog
    have hone' := (MemorySink.UnderWay.doomed hlog).isFor_close
    rwa [hclose] at hone'
  | notClosed hphase hclose =>
    rw [hphase] at hlog
    have hone' := (MemorySink.UnderWay.doomed hlog).isFor_close
    rwa [hclose] at hone'
  | lost =>
    rw [Forwarder.release_memory]
    exact hone

theorem isFor_steps {session : Session MemoryStream} {sink : MemorySink}
    (h : Honest False session sink) (hone : ∃ id, sink.IsFor id) (n : Nat) :
    ∃ id, (steps memorySink n session sink).2.IsFor id := by
  induction n with
  | zero => exact hone
  | succ n ih =>
    rw [steps_succ]
    exact isFor_step (honest_steps h n) ih

/-- All that a session hands to a fresh sink is for the destination of any of it. -/
theorem eventsFor_runFresh (options : SessionOptions) (fault : Option WriteFault)
    (faults : SinkFaults) (source : Source) {event : SinkEvent}
    (h : event ∈ (runFresh options fault faults source).2.events) :
    (runFresh options fault faults source).2.eventsFor event.destination =
      (runFresh options fault faults source).2.events := by
  have hstart : Honest False (new options source fault) (MemorySink.new faults) := honest_new ..
  obtain ⟨id, hid⟩ : ∃ id, (runFresh options fault faults source).2.IsFor id :=
    isFor_steps hstart ⟨"", nofun⟩ _
  rw [MemorySink.eventsFor_of_forall hid, if_pos (hid event h).symm]

end Session

/-! ## Sharing -/

/-- Sessions over one memory sink. -/
structure Shared (n : Nat) where
  sessions : Fin n → Session MemoryStream
  sink : MemorySink

namespace Shared

variable {n : Nat}

/-- One session takes a step. -/
def step (shared : Shared n) (i : Fin n) : Shared n :=
  let taken := (shared.sessions i).step memorySink shared.sink
  ⟨Function.update shared.sessions i taken.1, taken.2⟩

/-- The sessions take steps in the order given. -/
def run (schedule : List (Fin n)) (shared : Shared n) : Shared n := schedule.foldl step shared

/-- Each session stands where it stands alone, and the log consists of what they leave alone. -/
structure Follows (shared : Shared n) (alone : Fin n → Session MemoryStream × MemorySink) :
    Prop where
  sessions : ∀ i, shared.sessions i = (alone i).1
  faults : ∀ i, (alone i).2.faults = shared.sink.faults
  events : Interleaves (fun i => (alone i).2.events) shared.sink.events

variable {shared : Shared n} {alone : Fin n → Session MemoryStream × MemorySink}

/-- **A step of one session is a step that it takes alone.** -/
theorem Follows.step (h : Follows shared alone) (i : Fin n) :
    Follows (shared.step i)
      (Function.update alone i ((alone i).1.step memorySink (alone i).2)) := by
  obtain ⟨hnext, added, hsink, halone⟩ := (alone i).1.step_congr (h.faults i).symm
  have hstep : shared.step i =
      ⟨Function.update shared.sessions i ((alone i).1.step memorySink (alone i).2).1,
        shared.sink.add added⟩ := by
    rw [Shared.step, h.sessions i, hnext, hsink]
  rw [hstep]
  refine ⟨fun j => ?_, fun j => ?_, ?_⟩
  · by_cases hj : j = i
    · subst hj
      simp only [Function.update_self]
    · simp only [Function.update_of_ne hj, h.sessions j]
  · by_cases hj : j = i
    · subst hj
      rw [Function.update_self, halone]
      exact h.faults j
    · rw [Function.update_of_ne hj]
      exact h.faults j
  · have hlogs : (fun j => (Function.update alone i
        ((alone i).1.step memorySink (alone i).2) j).2.events) =
          Function.update (fun j => (alone j).2.events) i ((alone i).2.events ++ added) := by
      funext j
      by_cases hj : j = i
      · subst hj
        rw [Function.update_self, Function.update_self, halone]
        rfl
      · rw [Function.update_of_ne hj, Function.update_of_ne hj]
    rw [hlogs]
    exact h.events.append i added

/-- **A run of all is a run of each.**  Each session has taken as many steps as it has had turns. -/
theorem Follows.run (h : Follows shared alone) (schedule : List (Fin n)) :
    Follows (shared.run schedule) fun i =>
      Session.steps memorySink (schedule.count i) (alone i).1 (alone i).2 := by
  induction schedule generalizing shared alone with
  | nil => exact h
  | cons i schedule ih =>
    have hsteps : (fun j => Session.steps memorySink ((i :: schedule).count j) (alone j).1
        (alone j).2) = fun j =>
          Session.steps memorySink (schedule.count j)
            (Function.update alone i ((alone i).1.step memorySink (alone i).2) j).1
            (Function.update alone i ((alone i).1.step memorySink (alone i).2) j).2 := by
      funext j
      by_cases hj : j = i
      · subst hj
        rw [List.count_cons_self, Function.update_self, Session.steps_succ']
      · rw [List.count_cons_of_ne (fun h => hj h.symm), Function.update_of_ne hj]
    rw [hsteps]
    exact ih (h.step i)

/-- Sessions that have just been accepted, over a fresh sink. -/
def new (options : Fin n → SessionOptions) (writeFaults : Fin n → Option WriteFault)
    (sources : Fin n → Source) (faults : SinkFaults) : Shared n :=
  ⟨fun i => .new (options i) (sources i) (writeFaults i), .new faults⟩

theorem follows_new (options : Fin n → SessionOptions) (writeFaults : Fin n → Option WriteFault)
    (sources : Fin n → Source) (faults : SinkFaults) :
    Follows (new options writeFaults sources faults) fun i =>
      (.new (options i) (sources i) (writeFaults i), .new faults) :=
  ⟨fun _ => rfl, fun _ => rfl, .nil⟩

/-- Sessions that have had enough turns are over. -/
theorem isOver_of_count {options : Fin n → SessionOptions} {writeFaults : Fin n → Option WriteFault}
    {sources : Fin n → Source} {faults : SinkFaults} {schedule : List (Fin n)} {i : Fin n}
    (h : (sources i).bytes.length + 12 ≤ schedule.count i) :
    (((new options writeFaults sources faults).run schedule).sessions i).phase.isOver = true := by
  have hfollows := (follows_new options writeFaults sources faults).run schedule
  have hbudget := Session.potential_le_budget
    (.new (options i) (sources i) (writeFaults i) : Session MemoryStream)
  rw [hfollows.sessions i]
  refine Session.isOver_steps (Nat.le_trans hbudget ?_)
  show 0 + (sources i).bytes.length + 12 ≤ schedule.count i
  rwa [Nat.zero_add]

/-- **Sessions that share a sink do not interfere.**  Whatever they are sent and in whatever order
they take their steps, once all are over each of them is what it is after a run over a sink of its
own, and what the sink has in its log for a destination is an interleaving of what they have in
theirs.  If only one of them has called the sink for a destination, then nothing about that
destination is different from what it is after the run of that session alone, all of whose calls are
for it. -/
theorem noninterference (options : Fin n → SessionOptions) (writeFaults : Fin n → Option WriteFault)
    (sources : Fin n → Source) (faults : SinkFaults) (schedule : List (Fin n))
    (hover : ∀ i,
      (((new options writeFaults sources faults).run schedule).sessions i).phase.isOver = true) :
    let shared := (new options writeFaults sources faults).run schedule
    let alone := fun i => Session.runFresh (options i) (writeFaults i) faults (sources i)
    (∀ i, (shared.sessions i).result = (alone i).1.result ∧
      (shared.sessions i).reply = (alone i).1.reply ∧
      (shared.sessions i).failedIn = (alone i).1.failedIn) ∧
    (∀ destination, Interleaves (fun i => (alone i).2.eventsFor destination)
      (shared.sink.eventsFor destination)) ∧
    ∀ destination i, (∀ j, j ≠ i → (alone j).2.eventsFor destination = []) →
      MemorySink.AgreeFor destination shared.sink (alone i).2 ∧
        ((∃ event ∈ (alone i).2.events, event.destination = destination) →
          shared.sink.eventsFor destination = (alone i).2.events) := by
  intro shared alone
  have hfollows := (follows_new options writeFaults sources faults).run schedule
  have halone : (fun i => Session.steps memorySink (schedule.count i)
      (.new (options i) (sources i) (writeFaults i)) (.new faults)) = alone := by
    funext i
    have hend := hover i
    rw [hfollows.sessions i] at hend
    exact (Session.run_eq_steps hend).symm
  rw [halone] at hfollows
  have hinterleaves (destination : String) :
      Interleaves (fun i => (alone i).2.eventsFor destination)
        (shared.sink.eventsFor destination) := hfollows.events.filter _
  refine ⟨fun i => ?_, hinterleaves, fun destination i hothers => ⟨?_, ?_⟩⟩
  · rw [show shared.sessions i = (alone i).1 from hfollows.sessions i]
    exact ⟨rfl, rfl, rfl⟩
  · exact MemorySink.agreeFor_of_eventsFor (hfollows.faults i).symm
      ((hinterleaves destination).eq_of_eq_nil hothers)
  · rintro ⟨event, hmem, rfl⟩
    rw [(hinterleaves event.destination).eq_of_eq_nil hothers]
    exact Session.eventsFor_runFresh _ _ _ _ hmem

set_option maxRecDepth 10000 in
/-- Two exports without columns, which take their steps in turn. -/
theorem noninterference_two_exports :
    let options : Fin 2 → SessionOptions := fun _ => ⟨⟨none, none⟩, .permissive, none, false⟩
    let faults : SinkFaults := ⟨false, some 0, false⟩
    let input := fun id => Frame.bytes (Utf8.encode id) ++
      (Frame.bytes (Utf8.encode "\x7b\"columns\":[]\x7d") ++ Frame.bytes [])
    let sources : Fin 2 → Source := fun i => .ofBytes (input (if i = 0 then "a" else "b"))
    let schedule := (List.replicate 40 ([0, 1] : List (Fin 2))).flatten
    let shared := (new options (fun _ => none) sources faults).run schedule
    (shared.sessions 0).reply = Utf8.encode "OK" ∧
      shared.sink.eventsFor "a" = [.opened "a" [], .closed "a"] := by
  intro options faults input sources schedule shared
  have hcount : ∀ i, (sources i).bytes.length + 12 ≤ schedule.count i := by decide +kernel
  obtain ⟨hsame, -, hown⟩ := noninterference options (fun _ => none) sources faults schedule
    fun i => isOver_of_count (hcount i)
  have halone : (Session.runFresh (options 0) none faults (sources 0)).1.reply = Utf8.encode "OK" ∧
      (Session.runFresh (options 0) none faults (sources 0)).2.events =
        [.opened "a" [], .closed "a"] := by
    decide +kernel
  have hother : ∀ j : Fin 2, j ≠ 0 →
      (Session.runFresh (options j) none faults (sources j)).2.eventsFor "a" = [] := by
    decide +kernel
  dsimp only at hsame hown
  obtain ⟨hreply, hlog⟩ := halone
  have hmem : .opened "a" [] ∈ (Session.runFresh (options 0) none faults (sources 0)).2.events :=
    hlog ▸ List.mem_cons_self
  obtain ⟨-, hevents⟩ := hown "a" 0 hother
  exact ⟨(hsame 0).2.1.trans hreply, (hevents ⟨_, hmem, rfl⟩).trans hlog⟩

end Shared
end BatchBridge
