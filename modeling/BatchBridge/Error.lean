import BatchBridge.Batch.Basic
import BatchBridge.Duration
import BatchBridge.Text.Utf8

/-!
# What can go wrong

Every failure is a cause, not a text.  The causes of one part of the bridge form one type, and
`BridgeError` joins them; the wording stands in `message` functions beside them.

* `BridgeError.kind` — which of the fourteen kinds a failure belongs to.
* `BridgeError.message` — the failure in words: the title of its kind and its cause.
* `BridgeError.isPeerDisconnect` — whether the peer went away rather than sending something wrong.
-/

namespace BatchBridge

/-! ## Transport -/

/-- How reading from or writing to a connection or file can fail. -/
inductive IoKind where
  | connectionReset
  | connectionAborted
  | brokenPipe
  | unexpectedEof
  | timedOut
  | notConnected
  | connectionRefused
  | permissionDenied
  | invalidData
  | writeZero
  deriving DecidableEq, Repr

/-- The transport failure in words. -/
def IoKind.message : IoKind → String
  | connectionReset => "connection reset"
  | connectionAborted => "connection aborted"
  | brokenPipe => "broken pipe"
  | unexpectedEof => "unexpected end of file"
  | timedOut => "timed out"
  | notConnected => "not connected"
  | connectionRefused => "connection refused"
  | permissionDenied => "permission denied"
  | invalidData => "invalid data"
  | writeZero => "write zero"

/-- Whether the failure means that the peer is gone. -/
def IoKind.isPeerDisconnect : IoKind → Bool
  | connectionReset | connectionAborted | brokenPipe | unexpectedEof => true
  | _ => false

/-- A failed transfer. -/
inductive IoFault where
  | transport (kind : IoKind)
  /-- A frame was to be written that is longer than the writer allows. -/
  | frameTooBig
  | fileMissing
  /-- A file is not UTF-8. -/
  | notText
  deriving DecidableEq, Repr

def IoFault.message : IoFault → String
  | transport kind => kind.message
  | frameTooBig => "frame size too big"
  | fileMissing => "no such file"
  | notText => "the file is not UTF-8"

def IoFault.isPeerDisconnect : IoFault → Bool
  | transport kind => kind.isPeerDisconnect
  | frameTooBig | fileMissing | notText => false

/-! ## Schemas -/

/-- Why bytes announce no schema. -/
inductive SchemaFault where
  | notText (fault : Utf8.Fault)
  /-- The text is not JSON, or not of a list of named and typed columns. -/
  | notColumns
  deriving DecidableEq, Repr

def SchemaFault.message : SchemaFault → String
  | notText fault => "schema is not UTF-8: " ++ fault.message
  | notColumns => "invalid schema JSON: expected a list of columns with name and type"

/-! ## Batches -/

/-- Where in a batch payload a reader stands. -/
inductive CellContext where
  | rowCount
  | nullIndicator (row : Nat) (column : String)
  | value (row : Nat) (column : String) (type : LogicalType)
  deriving DecidableEq, Repr

def CellContext.message : CellContext → String
  | rowCount => "row count"
  | nullIndicator row column => s!"row {row} column '" ++ column ++ "' null indicator"
  | value row column type => s!"row {row} column '" ++ column ++ "' (" ++ type.tag ++ ")"

/-- A read of more bytes than are left. -/
structure Truncation where
  needed : Nat
  /-- Counted from the start of the payload. -/
  offset : Nat
  remaining : Nat
  deriving DecidableEq, Repr

def Truncation.message (t : Truncation) : String :=
  s!"need {t.needed} bytes at offset {t.offset}, only {t.remaining} remaining"

/-- Why a zlib stream could not be inflated. -/
inductive ZlibFault where
  /-- The input ends before the stream does. -/
  | incomplete
  | corrupt
  | tooLong (limit : Nat)
  deriving DecidableEq, Repr

def ZlibFault.message : ZlibFault → String
  | incomplete => "incomplete deflate stream"
  | corrupt => "corrupt deflate stream"
  | tooLong limit => s!"batch inflates past {limit} bytes"

/-- Why an LZ4 block could not be expanded. -/
inductive Lz4Fault where
  | missingByte
  | literalOutOfBounds
  | outputTooSmall (actual expected : Nat)
  | zeroOffset
  | offsetOutOfBounds
  deriving DecidableEq, Repr

def Lz4Fault.message : Lz4Fault → String
  | missingByte => "expected another byte, found none"
  | literalOutOfBounds => "literal is out of bounds of the input"
  | outputTooSmall actual expected =>
    "provided output is too small for the decompressed data, " ++
      s!"actual {actual}, expected {expected}"
  | zeroOffset => "0 is not a valid match offset"
  | offsetOutOfBounds => "the offset to copy is not contained in the decompressed buffer"

/-- Why a batch frame yields no batch. -/
inductive BatchFault where
  | truncated (context : CellContext) (short : Truncation)
  | zlib (fault : ZlibFault)
  | lz4 (fault : Lz4Fault)
  deriving DecidableEq, Repr

def BatchFault.message : BatchFault → String
  | truncated context t => context.message ++ ": " ++ t.message
  | zlib fault => "zlib: " ++ fault.message
  | lz4 fault => "lz4: " ++ fault.message

/-! ## Sinks -/

/-- Why a sink did not take what was forwarded to it. -/
inductive ForwarderFault where
  /-- The stream has been finished already. -/
  | writeAfterFinish (destination : String)
  | openRefused (destination : String)
  | writeRejected (index : Nat) (destination : String)
  | closeRejected (destination : String)
  /-- The remote stream no longer takes batches. -/
  | streamClosed (destination : String)
  | putFailed (destination : String) (reason : String)
  | putEndedEarly (destination : String)
  | putLost (destination : String) (reason : String)
  | invalidAddress (address : String)
  | unreachable (address : String)
  deriving DecidableEq, Repr

def ForwarderFault.message : ForwarderFault → String
  | writeAfterFinish dest => "write to closed stream '" ++ dest ++ "'"
  | openRefused dest => "sink refused stream for '" ++ dest ++ "'"
  | writeRejected index dest => s!"write {index} to '" ++ dest ++ "' rejected"
  | closeRejected dest => "close of '" ++ dest ++ "' rejected"
  | streamClosed dest => "stream for '" ++ dest ++ "' is closed"
  | putFailed dest reason => "DoPut for '" ++ dest ++ "' failed: " ++ reason
  | putEndedEarly dest => "DoPut for '" ++ dest ++ "' ended before the stream was closed"
  | putLost dest reason => "DoPut task for '" ++ dest ++ "' did not finish: " ++ reason
  | invalidAddress address => "invalid sink address " ++ address ++ ": not a URL"
  | unreachable address => "failed to connect to sink " ++ address ++ ": nobody answers"

/-! ## The conversation -/

/-- What the other side did that the protocol does not allow. -/
inductive ProtocolFault where
  | rowWidth (values columns : Nat)
  | wrongType (column : String) (type : LogicalType) (value : Value)
  | textTooLong (column : String) (bytes : Nat)
  | unknownCompression (code : Nat)
  | queryIdNotText (fault : Utf8.Fault)
  | emptyQueryId
  | emptyBatch
  | notAcknowledged (reply : String)
  deriving DecidableEq, Repr

def ProtocolFault.message : ProtocolFault → String
  | rowWidth values columns => s!"row has {values} values, schema has {columns} columns"
  | wrongType column type value =>
    "column '" ++ column ++ "' is " ++ type.tag ++ ", got " ++ value.describe
  | textTooLong column bytes => "column '" ++ column ++ s!"': {bytes} bytes exceed the VARCHAR limit"
  | unknownCompression code => s!"unknown compression code {code}"
  | queryIdNotText fault => "query id is not valid UTF-8: " ++ fault.message
  | emptyQueryId => "empty query id"
  | emptyBatch => "empty batch payload would end the stream"
  | notAcknowledged reply => "bridge replied " ++ Text.quoted reply ++ " instead of ack"

/-- Why a token was turned down. -/
inductive TokenFault where
  | empty
  | mismatch
  | tooLong (length limit : Nat)
  deriving DecidableEq, Repr

def TokenFault.message : TokenFault → String
  | empty => "empty token"
  | mismatch => "token mismatch"
  | tooLong length limit => s!"token frame of {length} bytes exceeds {limit}"

/-! ## Settings -/

/-- Why settings cannot be used. -/
inductive ConfigFault where
  | noChannelCapacity
  | noConnections
  | tokenLength
  /-- The file is not TOML, or a key holds what does not fit it. -/
  | unreadable
  deriving DecidableEq, Repr

def ConfigFault.message : ConfigFault → String
  | noChannelCapacity => "sink_channel_capacity must be at least 1"
  | noConnections => "max_connections must be at least 1"
  | tokenLength => "auth_token must be 1..=1024 bytes"
  | unreadable => "the file does not hold valid settings"

/-! ## All failures -/

/-- The kinds of failure. -/
inductive ErrorKind where
  | connectionClosed
  | schemaParse
  | batchDecode
  | forwarder
  | unsupportedType
  | frameTooLarge
  | timeout
  | protocol
  | unauthorized
  | config
  | io
  | arrow
  | toml
  | tomlParse
  deriving DecidableEq, Repr

/-- What every message of a kind begins with. -/
def ErrorKind.title : ErrorKind → String
  | connectionClosed => "Connection closed: "
  | schemaParse => "Schema parse error: "
  | batchDecode => "Batch decode error: "
  | forwarder => "Forwarder error: "
  | unsupportedType => "Unsupported type: "
  | frameTooLarge => "Frame too large: "
  | timeout => "Timed out: "
  | protocol => "Protocol error: "
  | unauthorized => "Unauthorized: "
  | config => "Configuration error: "
  | io => "IO error: "
  | arrow => "Arrow error: "
  | toml => "TOML error: "
  | tomlParse => "TOML parse error: "

/-- A failure of the bridge. -/
inductive BridgeError where
  /-- The connection ended inside an item of `expected` bytes. -/
  | connectionClosed (expected received : Nat)
  | frameTooLarge (length limit : Nat)
  | timeout (after : Duration)
  | schemaParse (fault : SchemaFault)
  | unsupportedType (column tag : String)
  | batchDecode (fault : BatchFault)
  | forwarder (fault : ForwarderFault)
  | protocol (fault : ProtocolFault)
  | unauthorized (fault : TokenFault)
  | config (fault : ConfigFault)
  /-- A number of the settings is too large for the file format. -/
  | unwritableConfig
  | io (fault : IoFault)
  /-- A failure known by its kind and text alone. -/
  | reported (kind : ErrorKind) (text : String)
  deriving DecidableEq, Repr

namespace BridgeError

def kind : BridgeError → ErrorKind
  | connectionClosed .. => .connectionClosed
  | frameTooLarge .. => .frameTooLarge
  | timeout _ => .timeout
  | schemaParse _ => .schemaParse
  | unsupportedType .. => .unsupportedType
  | batchDecode _ => .batchDecode
  | forwarder _ => .forwarder
  | protocol _ => .protocol
  | unauthorized _ => .unauthorized
  | config _ => .config
  | unwritableConfig => .toml
  | io _ => .io
  | reported kind _ => kind

/-- The cause in words. -/
def detail : BridgeError → String
  | connectionClosed expected received => s!"expected {expected} bytes, received {received}"
  | frameTooLarge length limit => s!"{length} bytes exceeds limit of {limit}"
  | timeout after => "no complete frame within " ++ after.text
  | schemaParse fault => fault.message
  | unsupportedType column tag => "column '" ++ column ++ "' has type '" ++ tag ++ "'"
  | batchDecode fault => fault.message
  | forwarder fault => fault.message
  | protocol fault => fault.message
  | unauthorized fault => fault.message
  | config fault => fault.message
  | unwritableConfig => "a number does not fit 64 bits with a sign"
  | io fault => fault.message
  | reported _ text => text

/-- The failure in words. -/
def message (error : BridgeError) : String :=
  error.kind.title ++ error.detail

/-- Whether the peer went away rather than sending something wrong. -/
def isPeerDisconnect : BridgeError → Bool
  | connectionClosed .. => true
  | io fault => fault.isPeerDisconnect
  | _ => false

end BridgeError
end BatchBridge
