import BatchBridge.Frame.Codec
import BatchBridge.Frame.Source

/-!
# Reading frames off a source

A reader joins a codec, a buffer and a source.

* `Reader.drain` — what the buffer yields without reading on.
* `Reader.poll` — reads on until an item is there, the source fails or ends, or the deadline has
  passed.  Whatever happens, nothing that has arrived is lost.
* `Reader.readFrame`, `Reader.readFrameCapped`, `Reader.readWord` — one item each.

After an error the reader owes its caller an end of stream: the next call reports that without
reading, and the one after it reads on from where things stand.
-/

namespace BatchBridge.Frame

/-- What a reader insists on. -/
structure Limits where
  maxFrameBytes : Option Nat
  /-- How long one whole item may take. -/
  readTimeout : Option Duration
  deriving DecidableEq, Repr

/-- A reader of frames and words. -/
structure Reader where
  limits : Limits
  codec : Codec
  buffer : Bytes
  source : Source
  /-- The buffer may hold another item. -/
  readable : Bool
  /-- The source has ended. -/
  eof : Bool
  /-- The last call failed, and its end of stream is still owed. -/
  errored : Bool
  /-- The size of all complete items so far. -/
  bytesRead : Nat

/-- How a poll ends. -/
inductive Polled where
  | item (bytes : Bytes)
  | failed (error : BridgeError)
  /-- The stream is over. -/
  | ended
  /-- The deadline has passed. -/
  | late

namespace Reader

/-- Before the first byte. -/
def new (limits : Limits) (source : Source) : Reader :=
  { limits, codec := .new limits.maxFrameBytes, buffer := [], source, readable := false,
    eof := false, errored := false, bytesRead := 0 }

/-- Takes over what an attempt of the codec leaves. -/
def adopt (reader : Reader) (outcome : Codec.Outcome) : Reader :=
  { reader with codec := outcome.codec, buffer := outcome.buffer }

/-- What the buffer yields; no result means that the source has to be read. -/
def drain (want : Want) (reader : Reader) : Option Polled × Reader :=
  if reader.errored then (some .ended, { reader with errored := false, readable := false })
  else if reader.readable then
    let outcome :=
      if reader.eof then reader.codec.decodeEof want reader.buffer
      else reader.codec.decode want reader.buffer
    let reader := reader.adopt outcome
    match outcome.result with
    | .ok (some item) => (some (.item item), reader)
    | .error error => (some (.failed error), { reader with errored := true })
    | .ok none =>
      (if reader.eof then some .ended else none, { reader with readable := false })
  else (none, reader)

/-- Moves the clock and leaves the arrivals given. -/
def leave (reader : Reader) (arrivals : List Arrival) (clock : Nat) : Reader :=
  { reader with source := { reader.source with arrivals, clock } }

/-- Whether something due at a time comes after the deadline, and the clock has to wait for it. -/
def isLate (deadline : Option Nat) (clock due : Nat) : Bool :=
  match deadline with
  | some limit => clock < due && limit < due
  | none => false

/-- The source has nothing more to give. -/
def pollEnd (want : Want) (deadline : Option Nat) (clock : Nat) (reader : Reader) :
    Polled × Reader :=
  match reader.source.ending, deadline with
  | .silent, some limit => (.late, reader.leave [] limit)
  | _, _ =>
    let reader := reader.leave [] clock
    if reader.eof then (.ended, reader)
    else
      match { reader with eof := true, readable := true }.drain want with
      | (some polled, reader) => (polled, reader)
      | (none, reader) => (.ended, reader)

/-- Reads on through the arrivals. -/
def pollFrom (want : Want) (deadline : Option Nat) :
    List Arrival → Nat → Reader → Polled × Reader
  | [], clock, reader =>
    match reader.drain want with
    | (some polled, reader) => (polled, reader.leave [] clock)
    | (none, reader) => reader.pollEnd want deadline clock
  | arrival :: rest, clock, reader =>
    match reader.drain want with
    | (some polled, reader) => (polled, reader.leave (arrival :: rest) clock)
    | (none, reader) =>
      if isLate deadline clock arrival.due then
        (.late, reader.leave (arrival :: rest) (deadline.getD clock))
      else
        let clock := max clock arrival.due
        match arrival with
        | .failure _ kind =>
          (.failed (.io (.transport kind)), { reader.leave rest clock with errored := true })
        | .data _ bytes =>
          pollFrom want deadline rest clock
            { reader with buffer := reader.buffer ++ bytes, eof := false, readable := true }

/-- Reads on until there is something to report. -/
def poll (want : Want) (reader : Reader) : Polled × Reader :=
  let source := reader.source
  let deadline := reader.limits.readTimeout.map fun timeout => source.clock + timeout.nanos
  pollFrom want deadline source.arrivals source.clock reader

/-- The next item.  The end of the stream is reported as a missing length. -/
def next (want : Want) (reader : Reader) : Except BridgeError Bytes × Reader :=
  match reader.poll want with
  | (.item item, reader) => (.ok item, reader)
  | (.failed error, reader) => (.error error, reader)
  | (.ended, reader) => (.error (.connectionClosed prefixBytes 0), reader)
  | (.late, reader) => (.error (.timeout (reader.limits.readTimeout.getD default)), reader)

/-- One bare word. -/
def readWord (reader : Reader) : Except BridgeError Nat × Reader :=
  match reader.next .word with
  | (.ok word, reader) =>
    (.ok (Bytes.toNatBE word), { reader with bytesRead := reader.bytesRead + prefixBytes })
  | (.error error, reader) => (.error error, reader)

/-- The payload of one frame. -/
def readFrame (reader : Reader) : Except BridgeError Bytes × Reader :=
  match reader.next .frame with
  | (.ok payload, reader) =>
    (.ok payload, { reader with bytesRead := reader.bytesRead + prefixBytes + payload.length })
  | (.error error, reader) => (.error error, reader)

/-- Sets the cap that lengths are held to. -/
def setCap (cap : Option Nat) (reader : Reader) : Reader :=
  { reader with codec := { reader.codec with cap } }

/-- The payload of one frame, with a cap of its own in place of the usual one. -/
def readFrameCapped (cap : Option Nat) (reader : Reader) : Except BridgeError Bytes × Reader :=
  match (reader.setCap cap).readFrame with
  | (result, reader) => (result, reader.setCap reader.limits.maxFrameBytes)

end Reader
end BatchBridge.Frame
