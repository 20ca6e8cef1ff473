import BatchBridge.CommandLine.Arguments
import BatchBridge.Config.File

/-!
# Settings from the command line

What is given on the command line goes before what the file says, and that before what holds to
begin with.  A token in the environment stands between the first two.  A flag can only be raised.

* `Arguments.override` — settings with what has been given in their place.
* `Arguments.configure` — the settings to run with.  The file is valid by itself, and so is the
  result.
-/

namespace BatchBridge.CommandLine.Arguments

/-- The token that has been given, on the command line or in the environment. -/
def token? (given : Arguments) (environment : Option String) : Option String :=
  given.authToken <|> environment

/-- Settings with what has been given in their place. -/
def override (given : Arguments) (environment : Option String) (config : Config) : Config :=
  { listenAddr :=
      ⟨given.listenHost.getD config.listenAddr.host, given.listenPort.getD config.listenAddr.port⟩
    sinkAddr :=
      ⟨given.sinkHost.getD config.sinkAddr.host, given.sinkPort.getD config.sinkAddr.port⟩
    maxFrameBytes := given.maxFrameBytes.getD config.maxFrameBytes
    readTimeoutSecs := given.readTimeoutSecs <|> config.readTimeoutSecs
    sinkTimeoutSecs := given.sinkTimeoutSecs <|> config.sinkTimeoutSecs
    maxConnections := given.maxConnections <|> config.maxConnections
    strictTypes := given.strictTypes || config.strictTypes
    authToken := given.token? environment <|> config.authToken
    sinkChannelCapacity := config.sinkChannelCapacity
    negotiateCompression := given.negotiateCompression || config.negotiateCompression }

/-- The settings to run with, given the bytes of the file that has been named. -/
def configure (given : Arguments) (environment : Option String) (file : Option Bytes) :
    Except BridgeError Config := do
  let base ← if given.config.isSome then Config.load file else .ok Config.initial
  let config := given.override environment base
  config.validate
  .ok config

end BatchBridge.CommandLine.Arguments
