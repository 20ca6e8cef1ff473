import BatchBridge.Address.Basic
import BatchBridge.Error

/-!
# Settings

What a bridge can be told about itself.

* `Config` — the settings; `Config.initial` holds where nothing else is said.
* `Config.validate` — what settings have to satisfy before a bridge runs with them.
* `Config.frameLimit`, `readTimeout`, `sinkTimeout` — settings in the form in which they are used.
-/

namespace BatchBridge

/-- The longest token, in bytes. -/
def maxTokenBytes : Nat := 1024

/-- The longest query id, in bytes. -/
def maxQueryIdBytes : Nat := 1024

/-- The settings of a bridge. -/
structure Config where
  /-- Where clients connect. -/
  listenAddr : Address
  /-- Where batches are forwarded to. -/
  sinkAddr : Address
  /-- The largest frame length accepted; 0 for any. -/
  maxFrameBytes : UInt32
  /-- How long a frame may take. -/
  readTimeoutSecs : Option UInt64
  /-- How long connecting to the sink may take. -/
  sinkTimeoutSecs : Option UInt64
  /-- How many sessions may run at the same time. -/
  maxConnections : Option UInt64
  /-- Refuse unknown column types. -/
  strictTypes : Bool
  /-- What every client has to show first. -/
  authToken : Option String
  /-- How many batches may wait for the sink. -/
  sinkChannelCapacity : UInt64
  /-- Clients announce how their batches are compressed. -/
  negotiateCompression : Bool
  deriving DecidableEq, Repr

namespace Config

/-- The settings to begin with. -/
def initial : Config where
  listenAddr := ⟨"0.0.0.0", 9999⟩
  sinkAddr := ⟨"127.0.0.1", 50051⟩
  maxFrameBytes := 268435456
  readTimeoutSecs := none
  sinkTimeoutSecs := none
  maxConnections := none
  strictTypes := false
  authToken := none
  sinkChannelCapacity := 16
  negotiateCompression := false

/-- Whether a token can be sent and is worth sending. -/
def isToken (token : String) : Bool := 0 < token.utf8ByteSize && token.utf8ByteSize ≤ maxTokenBytes

/-- The first thing that is wrong with the settings. -/
def fault? (config : Config) : Option ConfigFault :=
  if config.sinkChannelCapacity = 0 then some .noChannelCapacity
  else if config.maxConnections = some 0 then some .noConnections
  else if config.authToken.all isToken then none
  else some .tokenLength

/-- Refuses settings that a bridge cannot run with. -/
def validate (config : Config) : Except BridgeError Unit :=
  match config.fault? with
  | none => .ok ()
  | some fault => .error (.config fault)

/-- The largest frame length accepted, if there is one. -/
def frameLimit (config : Config) : Option UInt32 :=
  if config.maxFrameBytes = 0 then none else some config.maxFrameBytes

/-- How long a frame may take, if that is limited. -/
def readTimeout (config : Config) : Option Duration :=
  config.readTimeoutSecs.map fun n => .ofSeconds n.toNat

/-- How long connecting to the sink may take, if that is limited. -/
def sinkTimeout (config : Config) : Option Duration :=
  config.sinkTimeoutSecs.map fun n => .ofSeconds n.toNat

end Config
end BatchBridge
