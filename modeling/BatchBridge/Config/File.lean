import BatchBridge.Config.Basic
import BatchBridge.Text.Utf8
import BatchBridge.Toml.Parser
import BatchBridge.Toml.Printer

/-!
# Settings in a file

Settings are kept in a TOML file with a key for each.  Keys that are missing leave the setting as it
is to begin with, and keys that mean nothing are ignored.

* `Config.toMembers`, `Config.ofMembers` — settings as the members of a document, and back.
* `Config.save`, `Config.saveTo` — the text of a file, and the file itself.  The format has no
  numbers of more than 63 bits.
* `Config.load` — the settings of a file, which have to be valid.
-/

namespace BatchBridge

/-! ## Single values -/

namespace Toml

/-- The text of a string. -/
def string? : Toml → Option String
  | .string text => some text
  | _ => none

/-- A truth value. -/
def boolean? : Toml → Option Bool
  | .boolean b => some b
  | _ => none

/-- A whole number from 0 to below a bound. -/
def natBelow? (bound : Nat) : Toml → Option Nat
  | .integer n => if 0 ≤ n.toInt ∧ n.toInt < bound then some n.toInt.toNat else none
  | _ => none

/-- A number of 64 bits. -/
def uint64? (value : Toml) : Option UInt64 := (value.natBelow? UInt64.size).map UInt64.ofNat

/-- A number of 32 bits. -/
def uint32? (value : Toml) : Option UInt32 := (value.natBelow? UInt32.size).map UInt32.ofNat

/-- A number of 16 bits. -/
def uint16? (value : Toml) : Option UInt16 := (value.natBelow? UInt16.size).map UInt16.ofNat

/-- A number of 64 bits without a sign, if it fits one with a sign. -/
def ofUInt64? (n : UInt64) : Option Toml := (int64? n.toNat).map .integer

/-- A host and a port, from a table that has both or from an array that begins with them. -/
def address? : Toml → Option Address
  | .table members =>
    match (member? "host" members).bind string?, (member? "port" members).bind uint16? with
    | some host, some port => some ⟨host, port⟩
    | _, _ => none
  | .array (host :: port :: _) =>
    match host.string?, port.uint16? with
    | some host, some port => some ⟨host, port⟩
    | _, _ => none
  | _ => none

/-- An address as a table. -/
def ofAddress (address : Address) : Toml :=
  .table [("host", .string address.host), ("port", .integer (Int64.ofNat address.port.toNat))]

end Toml

namespace Config

/-! ## Documents -/

/-- The value of a key, or what holds without it; nothing if the value does not fit. -/
def field? {α : Type} (read : Toml → Option α) (key : String) (initial : α)
    (members : Toml.Members) : Option α :=
  match Toml.member? key members with
  | none => some initial
  | some value => read value

/-- The settings of a document. -/
def ofMembers (members : Toml.Members) : Option Config := do
  let listenAddr ← field? Toml.address? "listen_addr" initial.listenAddr members
  let sinkAddr ← field? Toml.address? "sink_addr" initial.sinkAddr members
  let maxFrameBytes ← field? Toml.uint32? "max_frame_bytes" initial.maxFrameBytes members
  let readTimeoutSecs ←
    field? (·.uint64?.map some) "read_timeout_secs" initial.readTimeoutSecs members
  let sinkTimeoutSecs ←
    field? (·.uint64?.map some) "sink_timeout_secs" initial.sinkTimeoutSecs members
  let maxConnections ←
    field? (·.uint64?.map some) "max_connections" initial.maxConnections members
  let strictTypes ← field? Toml.boolean? "strict_types" initial.strictTypes members
  let authToken ← field? (·.string?.map some) "auth_token" initial.authToken members
  let sinkChannelCapacity ←
    field? Toml.uint64? "sink_channel_capacity" initial.sinkChannelCapacity members
  let negotiateCompression ←
    field? Toml.boolean? "negotiate_compression" initial.negotiateCompression members
  pure { listenAddr, sinkAddr, maxFrameBytes, readTimeoutSecs, sinkTimeoutSecs, maxConnections
         strictTypes, authToken, sinkChannelCapacity, negotiateCompression }

/-- The member for a number, if there is one; nothing if it cannot be written. -/
def numberMember? (key : String) : Option UInt64 → Option Toml.Members
  | none => some []
  | some n => (Toml.ofUInt64? n).map fun value => [(key, value)]

/-- The member for the token, if there is one. -/
def tokenMember (token : Option String) : Toml.Members :=
  token.toList.map fun token => ("auth_token", .string token)

/-- The members of a document that has all settings; those that are absent have no key. -/
def toMembers (config : Config) : Option Toml.Members := do
  let readTimeout ← numberMember? "read_timeout_secs" config.readTimeoutSecs
  let sinkTimeout ← numberMember? "sink_timeout_secs" config.sinkTimeoutSecs
  let connections ← numberMember? "max_connections" config.maxConnections
  let capacity ← numberMember? "sink_channel_capacity" (some config.sinkChannelCapacity)
  pure <|
    [("max_frame_bytes", .integer (Int64.ofNat config.maxFrameBytes.toNat))] ++
    readTimeout ++ sinkTimeout ++ connections ++
    [("strict_types", .boolean config.strictTypes)] ++
    tokenMember config.authToken ++ capacity ++
    [("negotiate_compression", .boolean config.negotiateCompression),
      ("listen_addr", .ofAddress config.listenAddr), ("sink_addr", .ofAddress config.sinkAddr)]

/-! ## Files -/

/-- The text of a file with the settings. -/
def save (config : Config) : Except BridgeError String :=
  match config.toMembers with
  | some members => .ok (Toml.render members)
  | none => .error .unwritableConfig

/-- Writes the settings to a file, given its bytes if it is there.  Nothing is written unless there
is a text. -/
def saveTo (config : Config) (file : Option Bytes) : Except BridgeError Unit × Option Bytes :=
  match config.save with
  | .ok text => (.ok (), some (Utf8.encode text))
  | .error e => (.error e, file)

/-- The settings of a text. -/
def parse (text : String) : Except BridgeError Config :=
  match (Toml.parse text).bind ofMembers with
  | some config => .ok config
  | none => .error (.config .unreadable)

/-- The settings of a file, given its bytes if it is there. -/
def load : Option Bytes → Except BridgeError Config
  | none => .error (.io .fileMissing)
  | some bytes =>
    match Utf8.decode bytes with
    | .error _ => .error (.io .notText)
    | .ok text => do
      let config ← parse text
      config.validate
      .ok config

end Config
end BatchBridge
