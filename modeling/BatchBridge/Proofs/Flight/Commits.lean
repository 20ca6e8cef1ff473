import BatchBridge.Proofs.Flight.Receiving
import Mathlib.Data.List.TakeWhile
import Mathlib.Logic.Function.Basic

/-!
# Streams are committed whole

Any number of streams reach a receiver at once, and their messages arrive in any order.  What the
receiver has to show at any time can be told from the arrivals so far alone, without following what
it keeps.

* `Arrival` — what reaches the receiver: a message of a stream, its end, clean or not, or word that
  a destination is not to be accepted any more.
* `Hub`, `Hub.run` — a receiver and how far each stream has come.
* `deliveries` — what the streams deliver that have ended cleanly, in the order of their ends.
* `Receiver.Has` — a receiver has these deliveries, each behind the earlier ones for its
  destination.  `Receiver.Has.deliver`: it takes one more.
* `Hub.stateOf` — how far a stream has come, from its own messages alone.
* `Hub.Told` — a receiver and its streams are what the arrivals tell.  **`Hub.Told.step`**: so they
  are after one arrival more.
* **`Hub.commits_whole_streams`** — so they are after any run.
-/

namespace BatchBridge.Flight

/-! ## What arrives -/

/-- What reaches a receiver. -/
inductive Arrival (ι : Type) where
  | message (stream : ι) (message : PutMessage)
  /-- A stream ends cleanly. -/
  | finished (stream : ι)
  /-- A stream is cut off: the transport fails, or the caller cancels. -/
  | cut (stream : ι)
  /-- From now on no stream for a destination is accepted. -/
  | rejected (destination : String)
  deriving DecidableEq, Repr

/-- A receiver, and how far each stream has come that is not over. -/
structure Hub (ι : Type) where
  receiver : Receiver
  streams : ι → Option PutState

namespace Hub

variable {ι : Type} [DecidableEq ι]

/-- Before the first arrival. -/
def new : Hub ι := ⟨.new, fun _ => some .waiting⟩

/-- Takes in what arrives.  A stream that is over has no more to say. -/
def step (hub : Hub ι) : Arrival ι → Hub ι
  | .message i message =>
    match hub.streams i with
    | some state =>
      { hub with streams := Function.update hub.streams i (state.receive hub.receiver message) }
    | none => hub
  | .finished i =>
    match hub.streams i with
    | some state =>
      ⟨(hub.receiver.finish state).2, Function.update hub.streams i none⟩
    | none => hub
  | .cut i => { hub with streams := Function.update hub.streams i none }
  | .rejected destination => { hub with receiver := hub.receiver.reject destination }

/-- Takes in everything that arrives. -/
def run (arrivals : List (Arrival ι)) : Hub ι := arrivals.foldl step new

end Hub

/-! ## What the arrivals tell -/

section

variable {ι : Type} [DecidableEq ι]

/-- The message that this is of the stream. -/
def Arrival.messageOf? (i : ι) : Arrival ι → Option PutMessage
  | .message j sent => if j = i then some sent else none
  | _ => none

/-- Whether this is the end of the stream, clean or not. -/
def Arrival.ends (i : ι) : Arrival ι → Bool
  | .finished j | .cut j => j = i
  | _ => false

/-- The destination that is not accepted from here on. -/
def Arrival.rejected? : Arrival ι → Option String
  | .rejected destination => some destination
  | _ => none

/-- The messages of a stream. -/
def messagesOf (i : ι) (arrivals : List (Arrival ι)) : List PutMessage :=
  arrivals.filterMap (·.messageOf? i)

/-- The destinations that were not accepted when the first message of a stream came. -/
def rejectedFor (i : ι) (arrivals : List (Arrival ι)) : List String :=
  (arrivals.takeWhile fun arrival => (arrival.messageOf? i).isNone).filterMap Arrival.rejected?

/-- What is delivered with the next arrival: what a stream brings that ends cleanly, and that had
not ended before. -/
def delivered (past : List (Arrival ι)) : Arrival ι → Option Shipment
  | .finished i =>
    if past.any (·.ends i) then none else complete? (rejectedFor i past) (messagesOf i past)
  | _ => none

/-- What is delivered with further arrivals. -/
def deliveriesAfter (past : List (Arrival ι)) : List (Arrival ι) → List Shipment
  | [] => []
  | next :: rest => (delivered past next).toList ++ deliveriesAfter (past ++ [next]) rest

/-- What the streams deliver that have ended, in the order of their ends. -/
def deliveries (arrivals : List (Arrival ι)) : List Shipment := deliveriesAfter [] arrivals

/-- The batches delivered for a destination. -/
def deliveredFor (destination : String) (deliveries : List Shipment) : List Batch :=
  (deliveries.filter (·.destination = destination)).flatMap (·.batches)

theorem deliveriesAfter_append (past earlier later : List (Arrival ι)) :
    deliveriesAfter past (earlier ++ later) =
      deliveriesAfter past earlier ++ deliveriesAfter (past ++ earlier) later := by
  induction earlier generalizing past with
  | nil => simp [deliveriesAfter]
  | cons next earlier ih => simp [deliveriesAfter, ih]

theorem deliveries_append (arrivals : List (Arrival ι)) (next : Arrival ι) :
    deliveries (arrivals ++ [next]) = deliveries arrivals ++ (delivered arrivals next).toList := by
  simp [deliveries, deliveriesAfter_append, deliveriesAfter]

theorem messagesOf_append (i : ι) (arrivals : List (Arrival ι)) (next : Arrival ι) :
    messagesOf i (arrivals ++ [next]) =
      messagesOf i arrivals ++ (next.messageOf? i).toList := by
  cases hnext : next.messageOf? i <;> simp [messagesOf, hnext]

/-- What is rejected after the first message of a stream makes no difference to it. -/
theorem rejectedFor_append {i : ι} {arrivals : List (Arrival ι)} {next : Arrival ι}
    (hbegun : messagesOf i (arrivals ++ [next]) ≠ []) :
    rejectedFor i (arrivals ++ [next]) = rejectedFor i arrivals := by
  induction arrivals with
  | nil =>
    cases hnext : next.messageOf? i with
    | some message => simp [rejectedFor, hnext]
    | none => simp [messagesOf, hnext] at hbegun
  | cons first arrivals ih =>
    cases hfirst : first.messageOf? i with
    | some message => simp [rejectedFor, hfirst]
    | none =>
      have hlater : messagesOf i (arrivals ++ [next]) ≠ [] := by
        simpa [messagesOf, hfirst] using hbegun
      have hrest := ih hlater
      simp only [rejectedFor] at hrest ⊢
      cases hrejected : first.rejected? <;> simp [hfirst, hrejected, hrest]

/-- Before its first message, everything does. -/
theorem rejectedFor_of_eq_nil {i : ι} {arrivals : List (Arrival ι)}
    (hnone : messagesOf i arrivals = []) :
    rejectedFor i arrivals = arrivals.filterMap Arrival.rejected? := by
  have hall : ∀ arrival ∈ arrivals, (arrival.messageOf? i).isNone = true := by
    intro arrival hmem
    rw [messagesOf, List.filterMap_eq_nil_iff] at hnone
    simp [hnone arrival hmem]
  rw [rejectedFor, List.takeWhile_eq_self_iff.2 hall]

end

/-! ## What the receiver keeps -/

/-- A message is taken in the same way where the same destinations are accepted, and in every way
the same once a call has begun. -/
theorem PutState.receive_congr {receiver other : Receiver} {state : PutState}
    (hsame : state = .waiting →
      ∀ destination, destination ∈ receiver.rejected ↔ destination ∈ other.rejected)
    (message : PutMessage) : state.receive receiver message = state.receive other message := by
  cases state with
  | receiving put => rfl
  | refused status => rfl
  | waiting =>
    have hbegin : begin receiver message = begin other message := by
      simp only [begin, List.contains_iff_mem, hsame rfl]
    simp only [receive, hbegin]

/-- A call that has had a message is not waiting for its first. -/
theorem PutState.receiveAll_ne_waiting (receiver : Receiver) {messages : List PutMessage}
    (hbegun : messages ≠ []) : receiveAll receiver messages .waiting ≠ .waiting := by
  obtain ⟨hgoes, hfails⟩ := receiveAll_waiting receiver messages hbegun
  intro hwaiting
  cases hcomplete : complete? receiver.rejected messages with
  | none =>
    obtain ⟨status, hstatus⟩ := hfails hcomplete
    rw [hwaiting] at hstatus
    cases hstatus
  | some delivery =>
    obtain ⟨fields, hreceived⟩ := hgoes delivery hcomplete
    rw [hwaiting] at hreceived
    cases hreceived

/-- The receiver has what has been delivered, and nothing else. -/
structure Receiver.Has (deliveries : List Shipment) (receiver : Receiver) : Prop where
  sorted : receiver.destinations.Pairwise (· < ·)
  destinations : ∀ destination,
    destination ∈ receiver.destinations ↔ destination ∈ deliveries.map (·.destination)
  batches : ∀ destination, receiver.batches destination = deliveredFor destination deliveries

theorem Receiver.has_new : Receiver.new.Has [] where
  sorted := List.Pairwise.nil
  destinations _ := Iff.rfl
  batches _ := rfl

/-- A further delivery is kept behind the others. -/
theorem Receiver.Has.deliver {deliveries : List Shipment} {receiver : Receiver}
    (h : receiver.Has deliveries) (shipment : Shipment) :
    (receiver.deliver shipment).Has (deliveries ++ [shipment]) where
  sorted := sorted_append shipment.destination shipment.batches h.sorted
  destinations destination := by
    have hmem := mem_append shipment.destination shipment.batches receiver.committed destination
    have hbefore := h.destinations destination
    simp only [Receiver.destinations, Receiver.deliver] at hbefore ⊢
    rw [hmem, hbefore, List.map_append, List.mem_append]
    simp only [List.map_cons, List.map_nil, List.mem_singleton]
    exact or_comm
  batches destination := by
    have hlookup := lookup_append shipment.destination shipment.batches h.sorted destination
    have hbefore := h.batches destination
    simp only [Receiver.batches, Receiver.deliver] at hbefore ⊢
    rw [hlookup, hbefore, deliveredFor, deliveredFor, List.filter_append, List.flatMap_append]
    by_cases hsame : shipment.destination = destination
    · simp [hsame]
    · have hother : ¬destination = shipment.destination := fun h => hsame h.symm
      simp [hsame, hother]

namespace Hub

variable {ι : Type} [DecidableEq ι]

/-- How far a stream has come, told from the arrivals. -/
def stateOf (i : ι) (arrivals : List (Arrival ι)) : Option PutState :=
  if arrivals.any (·.ends i) then none
  else some (.receiveAll ⟨[], rejectedFor i arrivals⟩ (messagesOf i arrivals) .waiting)

/-- A receiver that has what the arrivals tell. -/
structure Told (arrivals : List (Arrival ι)) (hub : Hub ι) : Prop where
  rejected : ∀ destination, destination ∈ hub.receiver.rejected ↔
    destination ∈ arrivals.filterMap Arrival.rejected?
  streams : ∀ i, hub.streams i = stateOf i arrivals
  has : hub.receiver.Has (deliveries arrivals)

theorem told_new : Told ([] : List (Arrival ι)) new where
  rejected _ := by simp [new, Receiver.new]
  streams _ := rfl
  has := Receiver.has_new

/-- What has nothing to do with a stream leaves it where it is.  A destination may be rejected; but
that matters only to a stream that has not begun, which waits. -/
theorem stateOf_append_of_other {i : ι} {next : Arrival ι} (hmessage : next.messageOf? i = none)
    (hends : next.ends i = false) (arrivals : List (Arrival ι)) :
    stateOf i (arrivals ++ [next]) = stateOf i arrivals := by
  have hmessages : messagesOf i (arrivals ++ [next]) = messagesOf i arrivals := by
    simp [messagesOf_append, hmessage]
  by_cases hbegun : messagesOf i arrivals = []
  · simp [stateOf, hends, hmessages, hbegun]
  · have hrejected : rejectedFor i (arrivals ++ [next]) = rejectedFor i arrivals := by
      refine rejectedFor_append ?_
      rw [hmessages]
      exact hbegun
    simp [stateOf, hends, hmessages, hrejected]

theorem stateOf_append_of_ends {i : ι} {next : Arrival ι} (hends : next.ends i = true)
    (arrivals : List (Arrival ι)) : stateOf i (arrivals ++ [next]) = none := by
  simp [stateOf, hends]

/-- A stream takes in its message as the receiver stands. -/
theorem Told.stateOf_message {arrivals : List (Arrival ι)} {hub : Hub ι} (h : Told arrivals hub)
    (i : ι) (sent : PutMessage) :
    stateOf i (arrivals ++ [.message i sent]) =
      (stateOf i arrivals).map fun state => state.receive hub.receiver sent := by
  have hmessage : Arrival.messageOf? i (.message i sent) = some sent := by
    simp [Arrival.messageOf?]
  have hends : Arrival.ends i (.message i sent) = false := rfl
  have hmessages :
      messagesOf i (arrivals ++ [.message i sent]) = messagesOf i arrivals ++ [sent] := by
    simp [messagesOf_append, hmessage]
  have hrejected : rejectedFor i (arrivals ++ [.message i sent]) = rejectedFor i arrivals := by
    refine rejectedFor_append ?_
    simp [hmessages]
  by_cases hover : arrivals.any (·.ends i) = true
  · simp [stateOf, hover]
  · simp only [stateOf, List.any_append, List.any_cons, hends, List.any_nil, Bool.or_false, hover,
      hmessages, hrejected, PutState.receiveAll_append]
    -- only a stream that waits for its first message looks at what is rejected, and to that one
    -- every rejection so far applies
    refine congrArg some (PutState.receive_congr ?_ sent)
    intro hwaiting destination
    have hnone : messagesOf i arrivals = [] := by
      refine Decidable.byContradiction fun hbegun => ?_
      exact PutState.receiveAll_ne_waiting _ hbegun hwaiting
    rw [rejectedFor_of_eq_nil hnone, h.rejected]

/-- A stream that ends cleanly leaves what it delivers. -/
theorem Told.step_finished {arrivals : List (Arrival ι)} {hub : Hub ι} (h : Told arrivals hub)
    (i : ι) :
    (hub.step (.finished i)).receiver =
      match delivered arrivals (.finished i) with
      | some delivery => hub.receiver.deliver delivery
      | none => hub.receiver := by
  have hstate := h.streams i
  by_cases hover : arrivals.any (·.ends i) = true
  · simp only [stateOf, hover, if_true] at hstate
    simp [step, hstate, delivered, hover]
  · simp only [stateOf, hover] at hstate
    simp only [step, hstate, delivered, hover]
    exact Receiver.finish_receiveAll ..

/-- What a stream has to say moves that stream only. -/
theorem streams_step {hub : Hub ι} {next : Arrival ι} {i : ι} (hmessage : next.messageOf? i = none)
    (hends : next.ends i = false) : (hub.step next).streams i = hub.streams i := by
  cases next with
  | message j sent =>
    have hne : i ≠ j := by
      rintro rfl
      simp [Arrival.messageOf?] at hmessage
    cases hstate : hub.streams j <;> simp [step, hstate, hne]
  | finished j =>
    have hne : i ≠ j := by
      rintro rfl
      simp [Arrival.ends] at hends
    cases hstate : hub.streams j <;> simp [step, hstate, hne]
  | cut j =>
    have hne : i ≠ j := by
      rintro rfl
      simp [Arrival.ends] at hends
    simp [step, hne]
  | rejected destination => rfl

theorem streams_step_of_ends {hub : Hub ι} {next : Arrival ι} {i : ι} (hends : next.ends i = true) :
    (hub.step next).streams i = none := by
  cases next with
  | message j sent => simp [Arrival.ends] at hends
  | rejected destination => simp [Arrival.ends] at hends
  | finished j =>
    have hsame : j = i := by simpa [Arrival.ends] using hends
    subst hsame
    cases hstate : hub.streams j <;> simp [step, hstate]
  | cut j =>
    have hsame : j = i := by simpa [Arrival.ends] using hends
    subst hsame
    simp [step]

/-- Every stream is where the arrivals say. -/
theorem Told.streams_step {arrivals : List (Arrival ι)} {hub : Hub ι} (h : Told arrivals hub)
    (next : Arrival ι) (i : ι) : (hub.step next).streams i = stateOf i (arrivals ++ [next]) := by
  cases hends : next.ends i with
  | true => rw [streams_step_of_ends hends, stateOf_append_of_ends hends]
  | false =>
    cases hmessage : next.messageOf? i with
    | none =>
      rw [Hub.streams_step hmessage hends, stateOf_append_of_other hmessage hends, h.streams]
    | some sent =>
      have hnext : next = .message i sent := by
        cases next with
        | message j other =>
          simp only [Arrival.messageOf?] at hmessage
          split at hmessage
          · rename_i hsame
            rw [hsame, Option.some.inj hmessage]
          · cases hmessage
        | _ => cases hmessage
      rw [hnext, h.stateOf_message, ← h.streams]
      cases hstate : hub.streams i <;> simp [step, hstate]

theorem rejected_step (hub : Hub ι) (next : Arrival ι) :
    (hub.step next).receiver.rejected = next.rejected?.toList ++ hub.receiver.rejected := by
  cases next with
  | message i sent => cases hstate : hub.streams i <;> simp [step, hstate, Arrival.rejected?]
  | finished i =>
    cases hstate : hub.streams i with
    | none => simp [step, hstate, Arrival.rejected?]
    | some state => cases state <;> simp [step, hstate, Arrival.rejected?] <;> rfl
  | cut i => rfl
  | rejected destination => rfl

/-- **Whatever arrives, the receiver has what the arrivals tell.** -/
theorem Told.step {arrivals : List (Arrival ι)} {hub : Hub ι} (h : Told arrivals hub)
    (next : Arrival ι) : Told (arrivals ++ [next]) (hub.step next) := by
  refine ⟨?_, h.streams_step next, ?_⟩
  · intro destination
    rw [rejected_step, List.mem_append, h.rejected, List.filterMap_append, List.mem_append]
    rw [or_comm]
    cases hrejected : next.rejected? <;> simp [hrejected]
  · rw [deliveries_append]
    cases next with
    | message i sent =>
      have hsame : (hub.step (.message i sent)).receiver = hub.receiver := by
        cases hstate : hub.streams i <;> simp [Hub.step, hstate]
      rw [hsame]
      simpa [delivered] using h.has
    | finished i =>
      rw [h.step_finished]
      cases delivered arrivals (.finished i) with
      | none => simpa using h.has
      | some delivery => exact h.has.deliver delivery
    | cut i =>
      simp only [delivered, Option.toList_none, List.append_nil]
      exact h.has
    | rejected other =>
      simp only [delivered, Option.toList_none, List.append_nil]
      exact ⟨h.has.sorted, h.has.destinations, h.has.batches⟩

/-- What every run keeps. -/
theorem Told.foldl {past : List (Arrival ι)} {hub : Hub ι} (h : Told past hub)
    (arrivals : List (Arrival ι)) : Told (past ++ arrivals) (arrivals.foldl Hub.step hub) := by
  -- on what is still to come; what has come moves into the past
  induction arrivals generalizing past hub with
  | nil => simpa using h
  | cons next arrivals ih =>
    have hrest := ih (h.step next)
    simpa using hrest

theorem told_run (arrivals : List (Arrival ι)) : Told arrivals (run arrivals) :=
  told_new.foldl arrivals

/-- **Streams are committed whole**, whatever arrives and in whatever order.  At any time the
batches of a destination are those of the streams that have ended cleanly, each with all its
batches, in the order of their ends; the destinations are those of the same streams, also of streams
without batches, each once and in order; and rows are counted in these batches. -/
theorem commits_whole_streams (arrivals : List (Arrival ι)) :
    let receiver := (run arrivals).receiver
    (∀ destination,
      receiver.batches destination = deliveredFor destination (deliveries arrivals) ∧
        receiver.rows destination =
          Batch.totalRows (deliveredFor destination (deliveries arrivals))) ∧
    receiver.destinations.Pairwise (· < ·) ∧
    ∀ destination, destination ∈ receiver.destinations ↔
      ∃ delivery ∈ deliveries arrivals, delivery.destination = destination := by
  intro receiver
  have hhas := (told_run arrivals).has
  refine ⟨?_, hhas.sorted, ?_⟩
  · intro destination
    have hbatches := hhas.batches destination
    refine ⟨hbatches, ?_⟩
    rw [Receiver.rows, hbatches]
  · intro destination
    rw [hhas.destinations, List.mem_map]

end Hub

end BatchBridge.Flight
