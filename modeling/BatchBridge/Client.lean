import BatchBridge.Batch.Builder
import BatchBridge.Compression.Method
import BatchBridge.Schema.Text
import BatchBridge.Session.Basic

/-!
# The exporting side

A client writes one export: its token if it has one, the query id, the compression code if the
bridge expects one, the schema, the batches and an empty frame.  Then it waits for the reply.

* `Client` — what a client has written so far.  Each call appends to it.
* `Client.sendBatchWith` — compresses with some compressor if a method has been announced.  An empty
  payload is refused, since its frame would end the export.
* `Client.sendBatch` — compresses with `Compression.compress`.
* `Client.checkReply` — whether the bridge has taken everything in.
-/

namespace BatchBridge

/-- The writer of an export. -/
structure Client where
  sent : Bytes
  /-- How batches are compressed from now on. -/
  method : Compression.Method
  deriving DecidableEq, Repr

namespace Client

/-- A client that has just connected. -/
def new : Client := ⟨[], .none⟩

/-- Writes bytes as they are. -/
def sendRaw (bytes : Bytes) (client : Client) : Client :=
  { client with sent := client.sent ++ bytes }

/-- Writes a frame. -/
def sendFrame (payload : Bytes) (client : Client) : Client := client.sendRaw (Frame.bytes payload)

/-- Writes a frame of text. -/
def sendText (text : String) (client : Client) : Client := client.sendFrame (Utf8.encode text)

/-- Shows the token. -/
def sendToken (token : String) (client : Client) : Client := client.sendText token

/-- Names the query, and with it the destination. -/
def sendQueryId (id : String) (client : Client) : Client := client.sendText id

/-- Announces how batches are compressed from now on. -/
def sendMethod (method : Compression.Method) (client : Client) : Client :=
  { client.sendRaw (Bytes.ofNatBE 4 method.code) with method }

/-- Announces the columns. -/
def sendSchema (schema : ColumnSchema) (client : Client) : Client := client.sendText schema.toJson

/-- The frame of a batch.  Without a method it is the payload itself. -/
def packed (pack : Compression.Method → Bytes → Bytes) (method : Compression.Method)
    (payload : Bytes) : Bytes :=
  match method with
  | .none => payload
  | .zlib | .lz4 => pack method payload

/-- Writes a batch, for which `pack` is the compressor. -/
def sendBatchWith (pack : Compression.Method → Bytes → Bytes) (payload : Bytes)
    (client : Client) : Except BridgeError Client :=
  if payload.isEmpty then .error (.protocol .emptyBatch)
  else .ok (client.sendFrame (packed pack client.method payload))

/-- Writes a batch. -/
def sendBatch (payload : Bytes) (client : Client) : Except BridgeError Client :=
  client.sendBatchWith Compression.compress payload

/-- Writes the end of the export. -/
def finish (client : Client) : Client := client.sendFrame []

/-- Whether a reply says that everything has been taken in. -/
def checkReply (reply : Bytes) : Except BridgeError Unit :=
  if reply = acknowledgment then .ok ()
  else .error (.protocol (.notAcknowledged (Utf8.decodeLossy reply)))

end Client
end BatchBridge
