/-!
# Accepting connections

A bridge accepts connections one at a time and hands each to a session of its own.  Where the
number of sessions is limited, a permit is needed for each: the loop takes one before it accepts,
and the session returns it when it ends, however it ends.

* `AcceptLoop` — where the loop stands, which sessions run, and how many permits are free.
* `AcceptLoop.step?` — what an event does to it; nothing if the event cannot happen there.
* `AcceptLoop.run?` — a sequence of events.
-/

namespace BatchBridge

/-- Where the loop stands. -/
inductive Standing where
  /-- Waits for a permit, if one is needed. -/
  | acquiring
  /-- Waits for a connection, with its permit. -/
  | accepting
  /-- Pauses after accepting has failed, still with the permit. -/
  | pausing
  | stopped
  deriving DecidableEq, Repr

/-- The loop and its sessions. -/
structure AcceptLoop where
  /-- How many sessions may run at the same time. -/
  limit : Option Nat
  /-- The permits that nobody holds. -/
  free : Nat
  standing : Standing
  /-- The numbers of the sessions that run. -/
  running : List Nat
  /-- How many connections have been accepted; the next one gets this number. -/
  accepted : Nat
  deriving DecidableEq, Repr

/-- What happens to the loop or to its sessions. -/
inductive LoopEvent where
  /-- The loop gets a permit, or finds that it needs none. -/
  | acquire
  /-- A connection comes. -/
  | arrive
  /-- Accepting fails. -/
  | acceptError
  /-- A pause is over. -/
  | resume
  /-- A session ends. -/
  | ended (session : Nat)
  /-- The loop notices that it is to stop.  That is when it stops; the signal may have been given
  some time before. -/
  | shutdown
  deriving DecidableEq, Repr

namespace AcceptLoop

/-- Before the first connection. -/
def new (limit : Option Nat) : AcceptLoop :=
  { limit, free := limit.getD 0, standing := .acquiring, running := [], accepted := 0 }

/-- Whether the loop holds a permit. -/
def holdsPermit (loop : AcceptLoop) : Bool :=
  loop.limit.isSome && (loop.standing = .accepting || loop.standing = .pausing)

/-- Gets back a permit, if there are any. -/
def returnPermit (loop : AcceptLoop) : AcceptLoop :=
  if loop.limit.isSome then { loop with free := loop.free + 1 } else loop

/-- Stands elsewhere. -/
def goTo (standing : Standing) (loop : AcceptLoop) : AcceptLoop := { loop with standing }

/-- What an event does. -/
def step? (loop : AcceptLoop) (event : LoopEvent) : Option AcceptLoop :=
  match event, loop.standing with
  | .acquire, .acquiring =>
    match loop.limit, loop.free with
    | none, _ => some (loop.goTo .accepting)
    | some _, free + 1 => some ({ loop with free }.goTo .accepting)
    | some _, 0 => none
  | .arrive, .accepting =>
    some { loop with
      standing := .acquiring, running := loop.accepted :: loop.running
      accepted := loop.accepted + 1 }
  | .acceptError, .accepting => some (loop.goTo .pausing)
  | .resume, .pausing => some (loop.returnPermit.goTo .acquiring)
  | .ended session, _ =>
    if session ∈ loop.running then
      some { loop.returnPermit with running := loop.running.erase session }
    else none
  | .shutdown, .acquiring => if loop.limit.isSome then some (loop.goTo .stopped) else none
  | .shutdown, .accepting => some (loop.returnPermit.goTo .stopped)
  | _, _ => none

/-- What a sequence of events does. -/
def run? (loop : AcceptLoop) (events : List LoopEvent) : Option AcceptLoop :=
  events.foldlM step? loop

end AcceptLoop
end BatchBridge
