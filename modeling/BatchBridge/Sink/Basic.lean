import BatchBridge.Error

/-!
# Sinks

A sink takes in streams of batches, one for each export, and makes a stream's batches visible only
once the stream has been closed.

* `StreamSink` — what can be done with a sink: open a stream, and with a stream write, close, abort
  or let go of it.  Everything a sink remembers is its `World`; what belongs to one stream alone
  is a `Stream`.  A call maps both, so calls of several streams can be run in any order over one
  world.
* `Served` — what a call on a stream leaves behind.
-/

namespace BatchBridge

/-- The outcome of a call on a stream. -/
structure Served (World Stream : Type) where
  result : Except BridgeError Unit
  stream : Stream
  world : World

/-- A place that batches go to. -/
structure StreamSink (World Stream : Type) where
  /-- A stream for a destination, whose batches will have the fields given. -/
  openStream : String → List Field → World → Except BridgeError Stream × World
  write : Batch → Stream → World → Served World Stream
  /-- Ends a stream, so that everything written to it becomes visible. -/
  close : Stream → World → Served World Stream
  /-- Ends a stream, so that nothing written to it becomes visible.  This cannot fail. -/
  abort : Stream → World → Stream × World
  /-- Forgets a stream, whether or not it has been ended. -/
  release : Stream → World → World

end BatchBridge
