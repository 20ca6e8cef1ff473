import BatchBridge.Server.AcceptLoop
import BatchBridge.Session.Run

/-!
# Bridges

A bridge runs a session for every connection, all over one sink.

* `Server.new` — a bridge with valid settings.
* `Server.serve` — takes a connection through the accept loop and its session to its end, and gives
  the reply.  A bridge that has been shut down serves nobody.
* `Server.shutdown` — accepts no more connections.
-/

namespace BatchBridge

/-- A bridge. -/
structure Server (World : Type) where
  options : SessionOptions
  loop : AcceptLoop
  /-- What the sink remembers. -/
  world : World

namespace Server

variable {World Stream : Type}

/-- A bridge that has been started. -/
def new (config : Config) (world : World) : Except BridgeError (Server World) :=
  match config.validate with
  | .error error => .error error
  | .ok () =>
    .ok { options := .ofConfig config
          loop := .new (config.maxConnections.map UInt64.toNat)
          world }

/-- Serves one connection: a permit, the connection, its session, and the permit back. -/
def serve (sink : StreamSink World Stream) (source : Source) (server : Server World) :
    Option (Bytes × Server World) :=
  match server.loop.run? [.acquire, .arrive, .ended server.loop.accepted] with
  | none => none
  | some loop =>
    let session : Session Stream := .new server.options source none
    let (session, world) := session.run sink server.world
    some (session.reply, { server with loop, world })

/-- Shuts the bridge down, once it is waiting for a connection. -/
def shutdown (server : Server World) : Server World :=
  { server with loop := (server.loop.run? [.acquire, .shutdown]).getD server.loop }

/-- Whether the bridge has been shut down. -/
def isStopped (server : Server World) : Bool := server.loop.standing = .stopped

end Server
end BatchBridge
