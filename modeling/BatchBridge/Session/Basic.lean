import BatchBridge.Config.Basic
import BatchBridge.Frame.Reader
import BatchBridge.Schema.Basic

/-!
# States, options, replies and totals of a session

* `SessionState` — the states that a session goes through, in this order.
* `SessionOptions` — what a session needs to know of the settings.
* `acknowledgment`, `unauthorizedReply` — all that a client is ever told.
* `WriteFault` — how telling it fails.
* `Summary` — the totals of a session.
-/

namespace BatchBridge

/-! ## States -/

/-- How far a session has come. -/
inductive SessionState where
  | accepted
  | authenticating
  | readingQueryId
  | readingSchema
  | streamingBatches
  | completed
  | failed
  deriving DecidableEq, Repr

namespace SessionState

/-- The name of a state. -/
def name : SessionState → String
  | accepted => "accepted"
  | authenticating => "authenticating"
  | readingQueryId => "reading_query_id"
  | readingSchema => "reading_schema"
  | streamingBatches => "streaming_batches"
  | completed => "completed"
  | failed => "failed"

/-- All states. -/
def all : List SessionState :=
  [accepted, authenticating, readingQueryId, readingSchema, streamingBatches, completed, failed]

/-- The state with a name. -/
def ofName? (name : String) : Option SessionState := all.find? (·.name == name)

theorem mem_all (state : SessionState) : state ∈ all := by cases state <;> simp [all]

@[simp] theorem ofName?_name (state : SessionState) : ofName? state.name = some state := by
  cases state <;> rfl

/-- Whether a session in this state is over. -/
def isTerminal : SessionState → Bool
  | completed | failed => true
  | _ => false

end SessionState

/-! ## Options -/

/-- How a session is to be run. -/
structure SessionOptions where
  limits : Frame.Limits
  policy : TypePolicy
  /-- What the client has to show first. -/
  token : Option String
  /-- The client announces how its batches are compressed. -/
  negotiate : Bool
  deriving DecidableEq, Repr

/-- The options that follow from settings. -/
def SessionOptions.ofConfig (config : Config) : SessionOptions where
  limits := ⟨config.frameLimit.map UInt32.toNat, config.readTimeout⟩
  policy := if config.strictTypes then .strict else .permissive
  token := config.authToken
  negotiate := config.negotiateCompression

/-! ## Replies -/

/-- What the client is told when all its batches are in. -/
def acknowledgment : Bytes := Utf8.encode "OK"

/-- What the client is told when its token is turned down. -/
def unauthorizedReply : Bytes := Utf8.encode "ERROR: UNAUTHORIZED"

/-- How writing to a client fails. -/
structure WriteFault where
  kind : IoKind
  /-- How many bytes get out before that.  It can be all of a message, if only flushing it fails. -/
  sent : Nat
  deriving DecidableEq, Repr

/-- What gets out of a message. -/
def WriteFault.passed (fault : Option WriteFault) (message : Bytes) : Bytes :=
  match fault with
  | some fault => message.take fault.sent
  | none => message

/-! ## Totals -/

/-- What a session has taken in.  The counts have no bound; as 64-bit words they are exact below
2^64, which only the rows of a schema without columns can get to. -/
structure Summary where
  queryId : String
  rows : Nat
  batches : Nat
  /-- The size of the batch payloads after decompression. -/
  payloadBytes : Nat
  nullValues : Nat
  deriving DecidableEq, Repr

namespace Summary

/-- Before the first batch. -/
def new (queryId : String) : Summary := ⟨queryId, 0, 0, 0, 0⟩

/-- Counts a batch in. -/
def record (rows payloadBytes nulls : Nat) (summary : Summary) : Summary :=
  { summary with
    rows := summary.rows + rows, batches := summary.batches + 1
    payloadBytes := summary.payloadBytes + payloadBytes
    nullValues := summary.nullValues + nulls }

end Summary
end BatchBridge
