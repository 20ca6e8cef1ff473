import BatchBridge.Proofs.Batch.Counting
import BatchBridge.Proofs.Session.Log
import BatchBridge.Proofs.Session.Meaning
import BatchBridge.Proofs.Sink.Forwarding

/-!
# Batches as they are delivered

What a session takes in one frame after the other, and what these frames come to together.

* `Delivery` — a batch with the frame that it came in, its payload and the cells spelled there.
  `Delivery.Sound`: each of these is made of the one before.
* **`Delivery.exists_of_batchOf`** — every frame that gives a batch is a delivery.
* `Delivery.total` — what deliveries come to.  `Summary.Counts`, `Forwarder.Counts`: the totals that
  a session and its forwarder keep are these.
* `Account` — an input opens an export and goes on with the frames of deliveries.
-/

namespace BatchBridge

/-! ## Deliveries -/

/-- A batch, as it came in and as it was handed on. -/
structure Delivery where
  frame : Bytes
  /-- What the frame was decompressed to. -/
  payload : ByteArray
  /-- The cells that are spelled at the front of the payload. -/
  table : List (List Spelling)
  batch : Batch

namespace Delivery

/-- The frame can be a batch, and is decompressed to the payload; this begins with the table, and
what is made of it is the batch. -/
structure Sound (cap : Option Nat) (preamble : Preamble) (delivery : Delivery) : Prop where
  ne_nil : delivery.frame ≠ []
  fits : Frame.Fits cap delivery.frame
  expands : Compression.Decompressor.expand preamble.method 0 delivery.frame = .ok delivery.payload
  ofSchema : Spelling.OfSchema preamble.schema delivery.table
  spelled : ∃ rest, delivery.payload.data.toList = Spelling.payload delivery.table ++ rest
  decodes : Batch.decode preamble.schema delivery.payload.data.toList = .ok delivery.batch

/-- The row count that the payload declares. -/
def rows (delivery : Delivery) : Nat := Bytes.toNatBE (delivery.payload.data.toList.take 4)

/-- The size of the payload, with whatever stands behind the table. -/
def size (delivery : Delivery) : Nat := delivery.payload.size

/-- How many of the cells have an indicator that says that there is no value. -/
def nulls (delivery : Delivery) : Nat := delivery.table.flatten.countP Spelling.isNull

/-- What deliveries come to together. -/
def total (measure : Delivery → Nat) : List Delivery → Nat
  | [] => 0
  | delivery :: deliveries => measure delivery + total measure deliveries

/-- The frames of deliveries behind each other. -/
def wire (deliveries : List Delivery) : Bytes := deliveries.flatMap fun delivery =>
  Frame.bytes delivery.frame

/-- What a stream of deliveries leaves in the log. -/
def log (preamble : Preamble) (deliveries : List Delivery) : List SinkEvent :=
  exportLog preamble.queryId preamble.schema.fields (deliveries.map batch)

theorem total_concat (measure : Delivery → Nat) (deliveries : List Delivery) (delivery : Delivery) :
    total measure (deliveries ++ [delivery]) = total measure deliveries + measure delivery := by
  induction deliveries with
  | nil => exact Nat.add_comm ..
  | cons first deliveries ih => rw [List.cons_append, total, ih, total, Nat.add_assoc]

theorem wire_concat (deliveries : List Delivery) (delivery : Delivery) :
    wire (deliveries ++ [delivery]) = wire deliveries ++ Frame.bytes delivery.frame := by
  simp [wire]

theorem log_concat (preamble : Preamble) (deliveries : List Delivery) (delivery : Delivery) :
    log preamble (deliveries ++ [delivery]) =
      log preamble deliveries ++ [.written preamble.queryId delivery.batch] := by
  rw [log, List.map_append]
  exact exportLog_append ..

variable {cap : Option Nat} {preamble : Preamble} {delivery : Delivery}

/-- The payload declares the rows that the batch has. -/
theorem Sound.rows (h : delivery.Sound cap preamble) : delivery.batch.rows = delivery.rows :=
  Batch.rows_of_decode h.decodes

/-- The rows that payloads declare are those that the batches have together. -/
theorem totalRows_eq {deliveries : List Delivery}
    (h : ∀ delivery ∈ deliveries, delivery.Sound cap preamble) :
    Batch.totalRows (deliveries.map batch) = total Delivery.rows deliveries := by
  induction deliveries with
  | nil => rfl
  | cons delivery deliveries ih =>
    obtain ⟨hfirst, hrest⟩ := List.forall_mem_cons.1 h
    rw [List.map_cons, Batch.totalRows, hfirst.rows, ih hrest, total]

/-- **A frame that gives a batch is a delivery**, and the counts of the batch are its own. -/
theorem exists_of_batchOf {frame : Bytes} {batch : Batch} {size : Nat} (hne : frame ≠ [])
    (hfits : Frame.Fits cap frame)
    (h : Session.batchOf preamble.schema preamble.method frame = .ok (batch, size)) :
    ∃ delivery : Delivery, delivery.Sound cap preamble ∧ delivery.frame = frame ∧
      delivery.batch = batch ∧ batch.rows = delivery.rows ∧ size = delivery.size ∧
      batch.nullCount = delivery.nulls := by
  obtain ⟨payload, hexpand, hdecode, rfl⟩ := Session.batchOf_eq_ok_iff.1 h
  obtain ⟨table, rest, htable, -, hpayload, hseen⟩ := Batch.exists_table_of_decode hdecode
  have hsound : Sound cap preamble ⟨frame, payload, table, batch⟩ :=
    ⟨hne, hfits, hexpand, htable, ⟨rest, hpayload⟩, hdecode⟩
  exact ⟨_, hsound, rfl, rfl, hsound.rows, rfl, Batch.nullCount_of_contents_eq htable hseen⟩

end Delivery

/-! ## Accounts -/

/-- An input is accounted for: it opens an export, goes on with the frames of the deliveries, and
has `rest` behind these. -/
structure Account (options : SessionOptions) (input : Bytes) (preamble : Preamble)
    (deliveries : List Delivery) (rest : Bytes) : Prop where
  spelled : preamble.Spelled options input (Delivery.wire deliveries ++ rest)
  sound : ∀ delivery ∈ deliveries, delivery.Sound options.limits.maxFrameBytes preamble

/-- The totals are those of what has been delivered for a query. -/
structure Summary.Counts (summary : Summary) (id : String) (deliveries : List Delivery) : Prop where
  queryId : summary.queryId = id
  batches : summary.batches = deliveries.length
  rows : summary.rows = Delivery.total Delivery.rows deliveries
  payloadBytes : summary.payloadBytes = Delivery.total Delivery.size deliveries
  nullValues : summary.nullValues = Delivery.total Delivery.nulls deliveries

/-- The forwarder has counted what has been delivered. -/
structure Forwarder.Counts {Stream : Type} (forwarder : Forwarder Stream)
    (deliveries : List Delivery) : Prop where
  batches : forwarder.batches = deliveries.length
  rows : forwarder.rows = Delivery.total Delivery.rows deliveries

variable {options : SessionOptions} {input rest : Bytes} {preamble : Preamble}
  {deliveries : List Delivery} {delivery : Delivery}

theorem Account.nil (h : preamble.Spelled options input rest) :
    Account options input preamble [] rest :=
  ⟨h, fun _ hmem => by cases hmem⟩

/-- The next frame is a delivery, too. -/
theorem Account.concat
    (h : Account options input preamble deliveries (Frame.bytes delivery.frame ++ rest))
    (hsound : delivery.Sound options.limits.maxFrameBytes preamble) :
    Account options input preamble (deliveries ++ [delivery]) rest where
  spelled := by
    rw [Delivery.wire_concat, List.append_assoc]
    exact h.spelled
  sound other hmem := by
    rcases List.mem_append.1 hmem with hmem | hmem
    · exact h.sound other hmem
    · rw [List.mem_singleton.1 hmem]
      exact hsound

theorem Summary.counts_new (id : String) : (Summary.new id).Counts id [] :=
  ⟨rfl, rfl, rfl, rfl, rfl⟩

theorem Summary.Counts.record {summary : Summary} {id : String} (h : summary.Counts id deliveries)
    (delivery : Delivery) :
    (summary.record delivery.rows delivery.size delivery.nulls).Counts id
      (deliveries ++ [delivery]) where
  queryId := h.queryId
  batches := by rw [List.length_append, Summary.record, h.batches]; rfl
  rows := by rw [Delivery.total_concat, Summary.record, h.rows]
  payloadBytes := by rw [Delivery.total_concat, Summary.record, h.payloadBytes]
  nullValues := by rw [Delivery.total_concat, Summary.record, h.nullValues]

namespace Forwarder

variable {World Stream : Type} {sink : StreamSink World Stream}
  {forwarder forwarder' : Forwarder Stream} {batch : Batch} {world world' : World}

/-- A batch that has been written is counted. -/
theorem Counts.written (h : forwarder.Counts deliveries) (hopen : forwarder.isClosed = false)
    (hwrite : forwarder.write sink delivery.batch world = ⟨.ok (), forwarder', world'⟩)
    (hrows : delivery.batch.rows = delivery.rows) :
    forwarder'.Counts (deliveries ++ [delivery]) := by
  have hlands := lands_call hopen sink world (.write delivery.batch)
  rw [call, hwrite] at hlands
  refine ⟨?_, ?_⟩
  · rw [List.length_append, ← h.batches]
    exact hlands.batches
  · rw [Delivery.total_concat, ← h.rows, ← hrows]
    exact hlands.rows

/-- A batch that the sink has refused is not. -/
theorem Counts.notWritten {error : BridgeError} (h : forwarder.Counts deliveries)
    (hopen : forwarder.isClosed = false)
    (hwrite : forwarder.write sink batch world = ⟨.error error, forwarder', world'⟩) :
    forwarder'.Counts deliveries := by
  have hlands := lands_call hopen sink world (.write batch)
  rw [call, hwrite] at hlands
  exact ⟨hlands.batches.trans h.batches, hlands.rows.trans h.rows⟩

end Forwarder

end BatchBridge
