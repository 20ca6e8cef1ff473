import BatchBridge.Sink.Forwarder
import BatchBridge.Sink.Memory

/-!
# The log of one export

What a forwarder leaves in the record of the memory sink, and what of it has been committed.

* `Forwarder.Writes` — the forwarder has this stream of the memory sink open.
* `exportLog` — a stream has been opened and some batches have been written to it.
* **`committedRowsFor_exportLog`**, **`committedRowsFor_aborted`**, **`committedRowsFor_refused`** —
  nothing is committed before a close, after an abort or by a close that fails.
* **`committedRowsFor_closed`** — a close that succeeds commits all rows that have been written.
* `MemorySink.batchesFor_closed` — a stream that has been closed has added its batches to those of
  its destination.
* `MemorySink.openStream_memory`, `Forwarder.write_memory`, `Forwarder.close_memory`,
  `Forwarder.abort_memory`, `Forwarder.release_memory` — the calls.
-/

namespace BatchBridge

/-! ## Logs -/

/-- A stream has been opened, and these batches have been written to it. -/
def exportLog (id : String) (fields : List Field) (batches : List Batch) : List SinkEvent :=
  .opened id fields :: batches.map (.written id)

theorem exportLog_append (id : String) (fields : List Field) (batches : List Batch)
    (batch : Batch) :
    exportLog id fields (batches ++ [batch]) =
      exportLog id fields batches ++ [.written id batch] := by
  rw [exportLog, exportLog, List.map_append]
  rfl

namespace MemorySink

theorem tally_written (id : String) (batches : List Batch) (tally : Tally) :
    (batches.map (SinkEvent.written id)).foldl Tally.step tally =
      { tally with pending := tally.pending + Batch.totalRows batches } := by
  induction batches generalizing tally with
  | nil => rfl
  | cons batch rest ih =>
    rw [List.map_cons, List.foldl_cons, ih, Batch.totalRows, ← Nat.add_assoc]
    rfl

/-- The tally of an export that has not been ended. -/
theorem tally_exportLog (id : String) (fields : List Field) (batches : List Batch) :
    (exportLog id fields batches).foldl Tally.step ⟨0, 0⟩ = ⟨Batch.totalRows batches, 0⟩ := by
  rw [exportLog, List.foldl_cons, tally_written]
  simp [Tally.step]

/-- All calls of an export are for its own destination. -/
theorem eventsFor_of_forall {sink : MemorySink} {id : String}
    (h : ∀ event ∈ sink.events, event.destination = id) (destination : String) :
    sink.eventsFor destination = if id = destination then sink.events else [] := by
  rw [eventsFor]
  split
  · rename_i hid
    rw [List.filter_eq_self]
    intro event hevent
    rw [h event hevent, hid, beq_self_eq_true]
  · rename_i hid
    rw [List.filter_eq_nil_iff]
    intro event hevent heq
    exact hid ((h event hevent).symm.trans (beq_iff_eq.1 heq))

theorem destination_of_mem_exportLog {id : String} {fields : List Field} {batches : List Batch}
    {event : SinkEvent} (h : event ∈ exportLog id fields batches) : event.destination = id := by
  rcases List.mem_cons.1 h with rfl | h
  · rfl
  · obtain ⟨batch, -, rfl⟩ := List.mem_map.1 h
    rfl

theorem destination_of_mem_ended {id : String} {fields : List Field} {batches : List Batch}
    {last event : SinkEvent} (hlast : last.destination = id)
    (h : event ∈ exportLog id fields batches ++ [last]) : event.destination = id := by
  rcases List.mem_append.1 h with h | h
  · exact destination_of_mem_exportLog h
  · rw [List.mem_singleton.1 h, hlast]

/-- What an export has committed if this was the last call. -/
theorem committedRowsFor_ended {sink : MemorySink} {id : String} {fields : List Field}
    {batches : List Batch} {last : SinkEvent}
    (h : sink.events = exportLog id fields batches ++ [last]) (hlast : last.destination = id)
    (destination : String) :
    sink.committedRowsFor destination =
      if sink.faults.failClose then 0
      else if id = destination then (Tally.step ⟨Batch.totalRows batches, 0⟩ last).committed
      else 0 := by
  have hevents : ∀ event ∈ sink.events, event.destination = id := by
    intro event hevent
    rw [h] at hevent
    exact destination_of_mem_ended hlast hevent
  rw [committedRowsFor, eventsFor_of_forall hevents, h]
  split
  · rfl
  · split
    · rw [List.foldl_append, tally_exportLog]
      rfl
    · rfl

/-- **Nothing is committed before a close.** -/
theorem committedRowsFor_exportLog {sink : MemorySink} {id : String} {fields : List Field}
    {batches : List Batch} (h : sink.events = exportLog id fields batches)
    (destination : String) : sink.committedRowsFor destination = 0 := by
  have hevents : ∀ event ∈ sink.events, event.destination = id := by
    intro event hevent
    rw [h] at hevent
    exact destination_of_mem_exportLog hevent
  rw [committedRowsFor, eventsFor_of_forall hevents, h]
  split
  · rfl
  · split
    · rw [tally_exportLog]
    · rfl

/-- **Nothing is committed by an abort.** -/
theorem committedRowsFor_aborted {sink : MemorySink} {id : String} {fields : List Field}
    {batches : List Batch} (h : sink.events = exportLog id fields batches ++ [.aborted id])
    (destination : String) : sink.committedRowsFor destination = 0 := by
  rw [committedRowsFor_ended h rfl]
  split
  · rfl
  · split <;> rfl

/-- **Nothing is committed by a close that fails.** -/
theorem committedRowsFor_refused {sink : MemorySink} (h : sink.faults.failClose = true)
    (destination : String) : sink.committedRowsFor destination = 0 := by
  rw [committedRowsFor, if_pos h]

/-- **A close commits everything.** -/
theorem committedRowsFor_closed {sink : MemorySink} {id : String} {fields : List Field}
    {batches : List Batch} (hclose : sink.faults.failClose = false)
    (h : sink.events = exportLog id fields batches ++ [.closed id]) :
    sink.committedRowsFor id = Batch.totalRows batches := by
  have hopen : ¬sink.faults.failClose = true := by rw [hclose]; exact Bool.false_ne_true
  rw [committedRowsFor_ended h rfl, if_neg hopen, if_pos rfl]
  exact Nat.zero_add _

/-- **An export that has been closed has added its batches** to those of its destination. -/
theorem batchesFor_closed {before after : MemorySink} {id : String} {fields : List Field}
    {batches : List Batch}
    (h : after.events = before.events ++ (exportLog id fields batches ++ [.closed id])) :
    after.batchesFor id = before.batchesFor id ++ batches := by
  have hfor : ∀ event ∈ exportLog id fields batches ++ [SinkEvent.closed id],
      (event.destination == id) = true := fun event hmem =>
    beq_iff_eq.2 (destination_of_mem_ended rfl hmem)
  have hwritten : (batches.map (SinkEvent.written id)).filterMap SinkEvent.batch? = batches := by
    rw [List.filterMap_map]
    exact List.filterMap_some
  have hexport : (exportLog id fields batches ++ [SinkEvent.closed id]).filterMap SinkEvent.batch? =
      batches := by
    rw [exportLog, List.cons_append, List.filterMap_cons_none rfl, List.filterMap_append, hwritten]
    exact List.append_nil batches
  rw [batchesFor, batchesFor, eventsFor, eventsFor, h, List.filter_append, List.filterMap_append,
    List.filter_eq_self.2 hfor, hexport]

theorem committedRowsFor_nil {sink : MemorySink} (h : sink.events = []) (destination : String) :
    sink.committedRowsFor destination = 0 := by
  rw [committedRowsFor, eventsFor, h]
  split <;> rfl

end MemorySink

/-! ## Calls -/

/-- How the opening of a stream can go. -/
inductive MemorySink.Opened (id : String) (fields : List Field) (sink : MemorySink) :
    Except BridgeError MemoryStream × MemorySink → Prop where
  | opened : sink.faults.failOpen = false →
      Opened id fields sink (.ok ⟨id, 0⟩, sink.record (.opened id fields))
  | refused : sink.faults.failOpen = true →
      Opened id fields sink (.error (.forwarder (.openRefused id)), sink)

theorem MemorySink.openStream_memory (id : String) (fields : List Field) (sink : MemorySink) :
    Opened id fields sink (memorySink.openStream id fields sink) := by
  show Opened id fields sink (MemorySink.openStream id fields sink)
  rw [openStream]
  cases hfault : sink.faults.failOpen with
  | false => exact .opened hfault
  | true => exact .refused hfault

namespace Forwarder

/-- The forwarder has a stream of the memory sink open, and so many batches have been handed to
it. -/
def Writes (forwarder : Forwarder MemoryStream) (id : String) (writes : Nat) : Prop :=
  forwarder.stream = some ⟨id, writes⟩

theorem Writes.isClosed {forwarder : Forwarder MemoryStream} {id : String} {writes : Nat}
    (h : forwarder.Writes id writes) : forwarder.isClosed = false := by
  rw [Forwarder.isClosed, h]
  rfl

/-- How a write can go. -/
inductive Written (id : String) (writes : Nat) (batch : Batch) (sink : MemorySink) :
    Called MemorySink MemoryStream → Prop where
  | taken {forwarder : Forwarder MemoryStream} : sink.faults.failWriteAt ≠ some writes →
      forwarder.Writes id (writes + 1) →
      Written id writes batch sink ⟨.ok (), forwarder, sink.record (.written id batch)⟩
  | rejected {forwarder : Forwarder MemoryStream} : sink.faults.failWriteAt = some writes →
      forwarder.Writes id (writes + 1) →
      Written id writes batch sink
        ⟨.error (.forwarder (.writeRejected writes id)), forwarder, sink⟩

theorem write_memory {forwarder : Forwarder MemoryStream} {id : String} {writes : Nat}
    (h : forwarder.Writes id writes) (batch : Batch) (sink : MemorySink) :
    Written id writes batch sink (forwarder.write memorySink batch sink) := by
  rw [Writes] at h
  simp only [write, h, memorySink, MemorySink.write]
  by_cases hfault : sink.faults.failWriteAt = some writes
  · simp only [if_pos hfault]
    exact .rejected hfault rfl
  · simp only [if_neg hfault]
    exact .taken hfault rfl

/-- How a close can go. -/
inductive Closed (id : String) (sink : MemorySink) : Called MemorySink MemoryStream → Prop where
  | committed {forwarder : Forwarder MemoryStream} : sink.faults.failClose = false →
      Closed id sink ⟨.ok (), forwarder, sink.record (.closed id)⟩
  | rejected {forwarder : Forwarder MemoryStream} : sink.faults.failClose = true →
      Closed id sink
        ⟨.error (.forwarder (.closeRejected id)), forwarder, sink.record (.closed id)⟩

theorem close_memory {forwarder : Forwarder MemoryStream} {id : String} {writes : Nat}
    (h : forwarder.Writes id writes) (sink : MemorySink) :
    Closed id sink (forwarder.close memorySink sink) := by
  rw [Writes] at h
  simp only [close, h, memorySink, MemorySink.close]
  cases hfault : sink.faults.failClose with
  | false => exact .committed hfault
  | true => exact .rejected hfault

theorem abort_memory {forwarder : Forwarder MemoryStream} {id : String} {writes : Nat}
    (h : forwarder.Writes id writes) (sink : MemorySink) :
    (forwarder.abort memorySink sink).2 = sink.record (.aborted id) := by
  rw [Writes] at h
  simp only [abort, h, memorySink, MemorySink.abort]

/-- Forgetting a stream leaves no trace. -/
theorem release_memory (forwarder : Forwarder MemoryStream) (sink : MemorySink) :
    forwarder.release memorySink sink = sink := by
  rw [release]
  cases forwarder.stream <;> rfl

end Forwarder
end BatchBridge
