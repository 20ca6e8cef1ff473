import BatchBridge.Error

/-!
# Byte sources

Where a reader gets its bytes from: chunks that arrive one after the other at known times, and a
clock that moves only while the reader waits for one.  Times are nanoseconds from the beginning.
-/

namespace BatchBridge

/-- Something that one read meets. -/
inductive Arrival where
  | data (due : Nat) (bytes : Bytes)
  /-- The read fails. -/
  | failure (due : Nat) (kind : IoKind)
  deriving DecidableEq, Repr

/-- When it is there, if nothing before it comes later. -/
def Arrival.due : Arrival → Nat
  | data due _ => due
  | failure due _ => due

/-- Whether a read would notice it: a chunk without bytes is no arrival. -/
def Arrival.isVisible : Arrival → Bool
  | data _ bytes => !bytes.isEmpty
  | failure .. => true

/-- What follows the last arrival. -/
inductive Ending where
  /-- The end of the stream. -/
  | closed
  /-- Nothing ever.  A reader with a deadline gives up; for one that has none this is the same as
  the end of the stream, since it could not tell the two apart in any finite time. -/
  | silent
  deriving DecidableEq, Repr

/-- The arrivals still to come. -/
structure Source where
  arrivals : List Arrival
  ending : Ending
  clock : Nat
  deriving DecidableEq, Repr

namespace Source

/-- At the beginning. -/
def new (arrivals : List Arrival) (ending : Ending) : Source :=
  { arrivals := arrivals.filter Arrival.isVisible, ending, clock := 0 }

/-- All bytes at once, and then the end. -/
def ofBytes (bytes : Bytes) : Source := new [.data 0 bytes] .closed

/-- The bytes still to come. -/
def bytes (source : Source) : Bytes :=
  source.arrivals.flatMap fun
    | .data _ bytes => bytes
    | .failure .. => []

end Source
end BatchBridge
