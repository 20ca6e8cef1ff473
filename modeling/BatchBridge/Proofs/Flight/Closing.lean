import BatchBridge.Proofs.Flight.Calls
import BatchBridge.Proofs.Sink.Forwarding

/-!
# Only a close commits

The owner of a stream to a remote sink and the task that makes the call go on independently of each
other.  What the task sees when the owner lets go of the stream decides between commit and discard.

* `Exchange` — owner, task and receiver, with what has happened so far: the calls that the owner has
  made, the batches that it got accepted, and in which order the two holds on the call, the sender
  and the handle on the task, have been given up.
* `Exchange.Step` — who may do what.  The task may move between any two steps of the owner; close,
  abort and drop take the owner several steps, so the task may also move in the middle of them.
  What ends the call is left open: it may fail, be cancelled or be answered at any moment.
* `Exchange.Carries` — what becomes of the batches.  **`Exchange.Carries.step`**: each step keeps
  account of them.
* `Exchange.Holds` — which holds are left.  **`Exchange.Holds.step`**: each step gives up one at
  most, and in order.
* **`Exchange.only_close_commits`** — so in every run a clean end is seen after a close only, with
  all batches, and nothing else reaches the receiver.
* **`Exchange.found_serve`** — a call on a stream of the remote sink is such a run, whatever the
  script.
-/

namespace BatchBridge.Flight

/-! ## Owner, task and receiver -/

/-- A way to give up a hold on a call: to drop its sender, or to await or cancel its task. -/
inductive Release where
  | sender
  | joined
  | cancelled
  deriving DecidableEq, Repr

/-- The holds on a call that have been given up between two moments, the sender first. -/
def Call.givenUp (how : Release) (before after : Call) : List Release :=
  (if before.sending && !after.sending then [.sender] else []) ++
    (if before.held && !after.held then [how] else [])

/-- Where the owner of a stream is. -/
inductive Owner where
  /-- Between two calls. -/
  | idle
  /-- Awaiting the task, in a close. -/
  | closing
  /-- In an abort, or in a drop: the task has been cancelled, if it was held. -/
  | aborting
  | dropping
  /-- The stream has been dropped. -/
  | gone
  deriving DecidableEq, Repr

/-- A stream, its owner and the receiver, with what has happened so far. -/
structure Exchange where
  call : Call
  receiver : Receiver
  owner : Owner
  /-- The calls that the owner has made on the stream. -/
  calls : List StreamCall
  /-- The batches of the writes that went well. -/
  accepted : List Batch
  /-- The holds that have been given up, the first one first. -/
  releases : List Release
  deriving DecidableEq, Repr

/-- What happens next, by who does it. -/
inductive Act where
  /-- The task goes on, or it ends. -/
  | task
  | write (batch : Batch)
  | close
  /-- A close goes on, with the outcome of the task. -/
  | awaited
  | abort
  | drop
  /-- An abort or a drop goes on: now it drops the sender. -/
  | letGo
  deriving DecidableEq, Repr

namespace Exchange

/-- A stream that has just been opened. -/
def new (receiver : Receiver) (destination : String) (fields : List Field) : Exchange :=
  ⟨.new receiver destination fields, receiver, .idle, [], [], []⟩

/-- The owner has changed the call, and a hold on the task that is gone was given up this way. -/
def owned (x : Exchange) (owner : Owner) (how : Release) (call : Call) : Exchange :=
  { x with call, owner, releases := x.releases ++ x.call.givenUp how call }

/-- The owner has made a call. -/
def made (x : Exchange) (call : StreamCall) (result : Except BridgeError Unit) : Exchange :=
  { x with
    calls := x.calls ++ [call]
    accepted := x.accepted ++ (StreamCall.taken? call result).toList }

/-- What can happen. -/
inductive Step (x : Exchange) : Act → Exchange → Prop
  | move (m : Move) :
    Step x .task
      { x with call := (x.call.move x.receiver m).1, receiver := (x.call.move x.receiver m).2 }
  /-- The call ends, at any moment and in any way. -/
  | ends (how : RpcEnd) {state : PutState} (hrunning : x.call.rpc = .running state) :
    Step x .task { x with call := x.call.endRpc how }
  /-- The task sees the end of the stream, and the answer to the call is lost. -/
  | unanswered (reason : String) (hunseen : x.call.sawEnd = false)
    (hseen : (x.call.finish x.receiver).1.sawEnd = true) :
    Step x .task
      { x with
        call := { (x.call.finish x.receiver).1 with rpc := .ended (.failed reason) }
        receiver := (x.call.finish x.receiver).2 }
  | write (batch : Batch) (hidle : x.owner = .idle) :
    Step x (.write batch)
      ((x.owned .idle .joined (x.call.write batch).2).made (.write batch) (x.call.write batch).1)
  | close (hidle : x.owner = .idle) :
    Step x .close ((x.owned .closing .joined x.call.endInput).made .close (.ok ()))
  /-- A task that is held is awaited until it has ended. -/
  | awaited (hclosing : x.owner = .closing)
    (hended : x.call.held = true → ∃ how, x.call.rpc = .ended how) :
    Step x .awaited (x.owned .idle .joined x.call.join.2)
  | abort (hidle : x.owner = .idle) :
    Step x .abort ((x.owned .aborting .cancelled x.call.cancel).made .abort (.ok ()))
  | aborted (haborting : x.owner = .aborting) :
    Step x .letGo (x.owned .idle .cancelled x.call.endInput)
  | drop (hidle : x.owner = .idle) :
    Step x .drop (x.owned .dropping .cancelled x.call.cancel)
  | dropped (hdropping : x.owner = .dropping) :
    Step x .letGo (x.owned .gone .cancelled x.call.endInput)

/-- A run: steps one after the other. -/
inductive Run (x : Exchange) : List Act → Exchange → Prop
  | none : Run x [] x
  | step {acts : List Act} {act : Act} {y z : Exchange} (hrun : Run x acts y)
    (hstep : Step y act z) : Run x (acts ++ [act]) z

variable {start : Receiver} {destination : String} {fields : List Field} {x y : Exchange}
  {act : Act}

/-! ## Steps of the task -/

/-- What a step of the task comes to. -/
inductive TaskStep (x : Exchange) : Exchange → Prop
  | stays : TaskStep x x
  | takes {state : PutState} {batch : Batch} {queue : List Batch}
    (hrunning : x.call.rpc = .running state) (hqueue : x.call.queue = batch :: queue) :
    TaskStep x
      { x with
        call :=
          { x.call with
            rpc := .running (state.receiveAll x.receiver (batchMessages batch))
            queue, taken := x.call.taken ++ [batch] } }
  | ends {state : PutState} (hrunning : x.call.rpc = .running state) (how : RpcEnd) :
    TaskStep x { x with call := x.call.endRpc how }
  | sees {state : PutState} (hrunning : x.call.rpc = .running state) (hqueue : x.call.queue = [])
    (hsending : x.call.sending = false) (how : RpcEnd) :
    TaskStep x
      { x with
        call := { x.call.endRpc how with sawEnd := true }
        receiver := (x.receiver.finish state).2 }
  | hangsUp {how : RpcEnd} (hended : x.call.rpc = .ended how) :
    TaskStep x { x with call := { x.call with queue := [], attached := false } }

theorem taskStep_of_step (h : Step x .task y) : TaskStep x y := by
  cases h with
  | ends how hrunning => exact .ends hrunning how
  | unanswered reason hunseen hseen =>
    rcases x.call.finish_cases x.receiver with
      hfinish | ⟨state, hrunning, hqueue, hsending, hfinish⟩
    · rw [hfinish, hunseen] at hseen
      cases hseen
    · rw [hfinish]
      exact .sees hrunning hqueue hsending (.failed reason)
  | move m =>
    cases m with
    | take =>
      rcases x.call.take_cases x.receiver with
        htake | ⟨state, batch, queue, hrunning, hqueue, htake⟩
      · simp only [Call.move, htake]
        exact .stays
      · simp only [Call.move, htake]
        exact .takes hrunning hqueue
    | finish =>
      rcases x.call.finish_cases x.receiver with
        hfinish | ⟨state, hrunning, hqueue, hsending, hfinish⟩
      · simp only [Call.move, hfinish]
        exact .stays
      · simp only [Call.move, hfinish]
        exact .sees hrunning hqueue hsending _
    | fail reason =>
      rcases x.call.fail_cases reason with hfail | ⟨state, how, hrunning, hfail⟩
      · simp only [Call.move, hfail]
        exact .stays
      · simp only [Call.move, hfail]
        exact .ends hrunning how
    | hangUp =>
      rcases x.call.hangUp_cases with hangUp | ⟨how, hended, hangUp⟩
      · simp only [Call.move, hangUp]
        exact .stays
      · simp only [Call.move, hangUp]
        exact .hangsUp hended

/-! ## What becomes of the batches -/

/-- Where the batches are.  While the task runs, it or the channel has every batch that was
accepted, and nothing has reached the receiver's keeping.  The channel has a far end until the task
has ended. -/
structure Carries (start : Receiver) (destination : String) (fields : List Field)
    (x : Exchange) : Prop where
  running : ∀ state, x.call.rpc = .running state →
    state = .ofBatches start destination fields x.call.taken ∧
      x.call.taken ++ x.call.queue = x.accepted
  taken : x.call.taken <+: x.accepted
  detached : x.call.attached = false → ∃ how, x.call.rpc = .ended how
  unseen : x.call.sawEnd = false → x.receiver = start
  seen : x.call.sawEnd = true →
    x.call.taken = x.accepted ∧ x.call.sending = false ∧
      (∃ how, x.call.rpc = .ended how) ∧
      x.receiver = (start.put (streamMessages (some [destination]) fields x.accepted)).2

namespace Carries

theorem of_new (start : Receiver) (destination : String) (fields : List Field) :
    Carries start destination fields (new start destination fields) where
  running state hrunning := by
    simp only [new, Call.new, Rpc.running.injEq] at hrunning
    rw [← hrunning]
    exact ⟨rfl, rfl⟩
  taken := List.nil_prefix
  detached hdetached := by simp [new, Call.new] at hdetached
  unseen _ := rfl
  seen hseen := by simp [new, Call.new] at hseen

/-- A task that runs has seen no end. -/
theorem sawEnd_eq_false (h : Carries start destination fields x) {state : PutState}
    (hrunning : x.call.rpc = .running state) : x.call.sawEnd = false := by
  cases hseen : x.call.sawEnd with
  | false => rfl
  | true =>
    obtain ⟨-, -, ⟨how, hended⟩, -⟩ := h.seen hseen
    rw [hrunning] at hended
    cases hended

/-- The owner may do to the call what it likes if it adds no batch to those accepted, leaves what
the task has seen, and runs no task that it does not leave as it is. -/
theorem of_owner (h : Carries start destination fields x)
    (hreceiver : y.receiver = x.receiver) (haccepted : y.accepted = x.accepted)
    (htaken : y.call.taken = x.call.taken) (hattached : y.call.attached = x.call.attached)
    (hseen : y.call.sawEnd = x.call.sawEnd)
    (hsending : x.call.sending = false → y.call.sending = false)
    (hended : ∀ how, x.call.rpc = .ended how → y.call.rpc = x.call.rpc)
    (hrunning : ∀ state, y.call.rpc = .running state →
      x.call.rpc = .running state ∧ y.call.queue = x.call.queue) :
    Carries start destination fields y where
  running state hstate := by
    obtain ⟨hbefore, hqueue⟩ := hrunning state hstate
    rw [htaken, hqueue, haccepted]
    exact h.running state hbefore
  taken := by
    rw [htaken, haccepted]
    exact h.taken
  detached hdetached := by
    obtain ⟨how, hover⟩ := h.detached (hattached ▸ hdetached)
    exact ⟨how, (hended how hover).trans hover⟩
  unseen hunseen := by
    rw [hreceiver]
    exact h.unseen (hseen ▸ hunseen)
  seen hnow := by
    obtain ⟨hall, hgone, ⟨how, hover⟩, hcommitted⟩ := h.seen (hseen ▸ hnow)
    refine ⟨?_, hsending hgone, ⟨how, ?_⟩, ?_⟩
    · rw [htaken, haccepted, hall]
    · rw [hended how hover, hover]
    · rw [hreceiver, haccepted, hcommitted]

/-- The task moves. -/
theorem taskStep (h : Carries start destination fields x) (hstep : TaskStep x y) :
    Carries start destination fields y := by
  cases hstep with
  | stays => exact h
  | @takes state batch queue hrunning hqueue =>
    obtain ⟨hstate, hwhole⟩ := h.running state hrunning
    have hunseen := h.sawEnd_eq_false hrunning
    refine ⟨?_, ?_, ?_, fun _ => h.unseen hunseen, ?_⟩
    · intro state' hstate'
      simp only [Rpc.running.injEq] at hstate'
      rw [← hstate', hstate, h.unseen hunseen, PutState.ofBatches_append]
      refine ⟨rfl, ?_⟩
      rw [← hwhole, hqueue]
      simp
    · rw [← hwhole, hqueue]
      simp
    · intro hdetached
      obtain ⟨how, hended⟩ := h.detached hdetached
      rw [hrunning] at hended
      cases hended
    · intro hseen
      rw [hunseen] at hseen
      cases hseen
  | @ends state hrunning how =>
    have hunseen := h.sawEnd_eq_false hrunning
    refine ⟨?_, h.taken, fun _ => ⟨how, rfl⟩, h.unseen, ?_⟩
    · intro state' hstate'
      simp [Call.endRpc] at hstate'
    · intro hseen
      have hsame : x.call.sawEnd = true := hseen
      rw [hunseen] at hsame
      cases hsame
  | @sees state hrunning hqueue hsending how =>
    obtain ⟨hstate, hwhole⟩ := h.running state hrunning
    have hunseen := h.sawEnd_eq_false hrunning
    -- an end is seen behind an empty channel only, and then everything has been taken
    have hall : x.call.taken = x.accepted := by rw [← hwhole, hqueue, List.append_nil]
    refine ⟨?_, h.taken, fun _ => ⟨how, rfl⟩, ?_, ?_⟩
    · intro state' hstate'
      simp [Call.endRpc] at hstate'
    · intro hseen
      cases hseen
    · intro _
      refine ⟨hall, hsending, ⟨how, rfl⟩, ?_⟩
      rw [hstate, h.unseen hunseen, ← hall]
      rfl
  | @hangsUp how hended =>
    refine ⟨?_, h.taken, fun _ => ⟨how, hended⟩, h.unseen, h.seen⟩
    intro state hrunning
    rw [show x.call.rpc = .running state from hrunning] at hended
    cases hended

/-- A write adds its batch to those accepted when it has put it into the channel, also if nobody
takes it from there any more. -/
theorem written (h : Carries start destination fields x) (batch : Batch) :
    Carries start destination fields
      ((x.owned .idle .joined (x.call.write batch).2).made (.write batch)
        (x.call.write batch).1) := by
  rcases x.call.write_cases batch with
    ⟨hsending, hattached, hwrite⟩ | ⟨error, -, -, hwrite⟩ | ⟨error, -, hwrite⟩
  · rw [hwrite]
    refine ⟨?_, h.taken.trans (List.prefix_append ..), h.detached, h.unseen, ?_⟩
    · intro state hrunning
      obtain ⟨hreceived, hwhole⟩ := h.running state hrunning
      refine ⟨hreceived, ?_⟩
      simp [owned, made, StreamCall.taken?, ← hwhole]
    · intro hseen
      have hgone := (h.seen hseen).2.1
      rw [hsending] at hgone
      cases hgone
  · rw [hwrite]
    refine h.of_owner rfl (List.append_nil _) rfl rfl rfl (fun _ => rfl) (fun _ _ => rfl) ?_
    intro state hrunning
    exact ⟨hrunning, rfl⟩
  · rw [hwrite]
    refine h.of_owner rfl (List.append_nil _) rfl rfl rfl id (fun _ _ => rfl) ?_
    intro state hrunning
    exact ⟨hrunning, rfl⟩

/-- A task that is cancelled has taken what it has taken. -/
theorem cancelled (h : Carries start destination fields x) (owner : Owner) :
    Carries start destination fields (x.owned owner .cancelled x.call.cancel) := by
  rcases x.call.cancel_cases with
    ⟨-, hcancel⟩ | ⟨-, state, hrunning, hcancel⟩ | ⟨-, how, hended, hcancel⟩
  · rw [hcancel]
    exact h.of_owner rfl rfl rfl rfl rfl id (fun _ _ => rfl) fun state hrunning => ⟨hrunning, rfl⟩
  · rw [hcancel]
    refine h.of_owner rfl rfl rfl rfl rfl id ?_ ?_
    · intro how hended
      rw [hrunning] at hended
      cases hended
    · intro state' hstate'
      simp [owned, Call.endRpc] at hstate'
  · rw [hcancel]
    exact h.of_owner rfl rfl rfl rfl rfl id (fun _ _ => rfl) fun state hrunning => ⟨hrunning, rfl⟩

/-- The sender goes. -/
theorem letGo (h : Carries start destination fields x) (owner : Owner) (how : Release) :
    Carries start destination fields (x.owned owner how x.call.endInput) :=
  h.of_owner rfl rfl rfl rfl rfl (fun _ => rfl) (fun _ _ => rfl) fun _ hrunning => ⟨hrunning, rfl⟩

/-- A call other than a write adds nothing to the batches accepted. -/
theorem made (h : Carries start destination fields x) {call : StreamCall}
    (hnone : StreamCall.taken? call (.ok ()) = none) :
    Carries start destination fields (x.made call (.ok ())) := by
  refine h.of_owner rfl ?_ rfl rfl rfl id (fun _ _ => rfl) fun _ hrunning => ⟨hrunning, rfl⟩
  simp [Exchange.made, hnone]

/-- **Every step keeps account of the batches.** -/
theorem step (h : Carries start destination fields x) (hstep : Step x act y) :
    Carries start destination fields y := by
  cases hstep with
  | move m => exact h.taskStep (taskStep_of_step (.move m))
  | ends how hrunning => exact h.taskStep (taskStep_of_step (.ends how hrunning))
  | unanswered reason hunseen hseen =>
    exact h.taskStep (taskStep_of_step (.unanswered reason hunseen hseen))
  | write batch => exact h.written batch
  | close => exact (h.letGo .closing .joined).made rfl
  | awaited =>
    rw [Call.join_snd]
    exact h.of_owner rfl rfl rfl rfl rfl id (fun _ _ => rfl) fun _ hrunning => ⟨hrunning, rfl⟩
  | abort => exact (h.cancelled .aborting).made rfl
  | aborted => exact h.letGo .idle .cancelled
  | drop => exact h.cancelled .dropping
  | dropped => exact h.letGo .gone .cancelled

end Carries

/-! ## Which holds are left -/

/-- The owner has not ended the stream. -/
structure Intact (x : Exchange) : Prop where
  sending : x.call.sending = true
  held : x.call.held = true
  owner : x.owner = .idle
  releases : x.releases = []
  calls : x.calls.find? StreamCall.isEnd = none

/-- The owner is done with the call. -/
structure Over (x : Exchange) : Prop where
  sending : x.call.sending = false
  held : x.call.held = false
  ended : ∃ how, x.call.rpc = .ended how
  releases : x.releases = [.cancelled, .sender] ∨ x.releases = [.sender, .joined]
  calls : x.call.sawEnd = true → x.calls.find? StreamCall.isEnd = some .close

/-- The holds on the call that are left.  One is given up at a time, and which one goes first
depends on who gives it up. -/
inductive Holds (x : Exchange) : Prop
  | both (hintact : Intact x)
  /-- In an abort or in a drop. -/
  | sender (hsending : x.call.sending = true) (hheld : x.call.held = false)
    (howner : x.owner = .aborting ∨ x.owner = .dropping) (hreleases : x.releases = [.cancelled])
    (hended : ∃ how, x.call.rpc = .ended how)
  /-- In a close. -/
  | task (hsending : x.call.sending = false) (hheld : x.call.held = true)
    (howner : x.owner = .closing) (hreleases : x.releases = [.sender])
    (hcalls : x.calls.find? StreamCall.isEnd = some .close)
  | neither (hover : Over x)

/-- What is over stays over, whatever the owner still does. -/
theorem Over.stays (h : Over x) (hcall : y.call = x.call) (hreleases : y.releases = x.releases)
    (hcalls : ∃ added, y.calls = x.calls ++ added) : Over y := by
  obtain ⟨added, hadded⟩ := hcalls
  refine ⟨?_, ?_, ?_, ?_, ?_⟩
  · rw [hcall, h.sending]
  · rw [hcall, h.held]
  · rw [hcall]
    exact h.ended
  · rw [hreleases]
    exact h.releases
  · rw [hcall, hadded]
    intro hseen
    simp [List.find?_append, h.calls hseen]

/-- When a call has ended, only the channel can still change. -/
theorem TaskStep.of_ended (h : TaskStep x y) {how : RpcEnd} (hended : x.call.rpc = .ended how) :
    ∃ queue attached, y = { x with call := { x.call with queue, attached } } := by
  cases h with
  | stays => exact ⟨_, _, rfl⟩
  | hangsUp => exact ⟨_, _, rfl⟩
  | takes hrunning | ends hrunning | sees hrunning =>
    rw [hrunning] at hended
    cases hended

namespace Holds

theorem of_new (start : Receiver) (destination : String) (fields : List Field) :
    Holds (new start destination fields) :=
  .both ⟨rfl, rfl, rfl, rfl, rfl⟩

/-- What the task does is not about the holds. -/
theorem taskStep (h : Holds x) (hstep : TaskStep x y) : Holds y := by
  cases h with
  | both hintact =>
    obtain ⟨hsending, hheld, howner, hreleases, hcalls⟩ := hintact
    cases hstep <;> exact .both ⟨hsending, hheld, howner, hreleases, hcalls⟩
  | sender hsending hheld howner hreleases hended =>
    obtain ⟨how, hhow⟩ := hended
    obtain ⟨queue, attached, rfl⟩ := hstep.of_ended hhow
    exact .sender hsending hheld howner hreleases ⟨how, hhow⟩
  | task hsending hheld howner hreleases hcalls =>
    cases hstep <;> exact .task hsending hheld howner hreleases hcalls
  | neither hover =>
    obtain ⟨how, hhow⟩ := hover.ended
    obtain ⟨queue, attached, rfl⟩ := hstep.of_ended hhow
    exact .neither ⟨hover.sending, hover.held, hover.ended, hover.releases, hover.calls⟩

/-- Between two calls the owner has both holds or neither. -/
theorem of_idle (h : Holds x) (hidle : x.owner = .idle) : Intact x ∨ Over x := by
  cases h with
  | both hintact => exact Or.inl hintact
  | sender _ _ howner => simp [hidle] at howner
  | task _ _ howner => simp [hidle] at howner
  | neither hover => exact Or.inr hover

/-- A write gives nothing up if it goes well.  If it finds the far end of the channel gone, the
sender goes and the task is awaited. -/
theorem written (h : Holds x) (hcarries : Carries start destination fields x)
    (hidle : x.owner = .idle) (batch : Batch) :
    Holds ((x.owned .idle .joined (x.call.write batch).2).made (.write batch)
      (x.call.write batch).1) := by
  rcases h.of_idle hidle with hintact | hover
  · rcases x.call.write_cases batch with
      ⟨-, -, hwrite⟩ | ⟨error, -, hdetached, hwrite⟩ | ⟨error, hgone, -⟩
    · rw [hwrite]
      refine .both ⟨hintact.sending, hintact.held, rfl, ?_, ?_⟩
      · simp [owned, made, Call.givenUp, hintact.releases]
      · simp [owned, made, List.find?_append, hintact.calls, StreamCall.isEnd]
    · rw [hwrite]
      refine .neither ⟨rfl, rfl, hcarries.detached hdetached, Or.inr ?_, ?_⟩
      · simp [owned, made, Call.givenUp, hintact.releases, hintact.sending, hintact.held]
      · -- the sender was there until now, so the call has not ended for having seen an end
        intro hseen
        have hgone := (hcarries.seen hseen).2.1
        rw [hintact.sending] at hgone
        cases hgone
    · rw [hintact.sending] at hgone
      cases hgone
  · rcases x.call.write_cases batch with
      ⟨hsending, -, -⟩ | ⟨error, hsending, -, -⟩ | ⟨error, -, hwrite⟩
    · rw [hover.sending] at hsending
      cases hsending
    · rw [hover.sending] at hsending
      cases hsending
    · rw [hwrite]
      refine .neither (hover.stays rfl ?_ ⟨_, rfl⟩)
      simp [owned, made, Call.givenUp]

/-- A close gives up the sender. -/
theorem closed (h : Holds x) (hidle : x.owner = .idle) :
    Holds ((x.owned .closing .joined x.call.endInput).made .close (.ok ())) := by
  rcases h.of_idle hidle with hintact | hover
  · refine .task rfl hintact.held rfl ?_ ?_
    · simp [owned, made, Call.givenUp, Call.endInput, hintact.releases, hintact.sending]
    · simp [owned, made, List.find?_append, hintact.calls, StreamCall.isEnd]
  · refine .neither (hover.stays ?_ ?_ ⟨_, rfl⟩)
    · show { x.call with sending := false } = x.call
      rw [← hover.sending]
    · simp [owned, made, Call.givenUp, Call.endInput, hover.sending]

/-- An abort or a drop gives up the task, which it cancels. -/
theorem cancelled (h : Holds x) (hidle : x.owner = .idle) {owner : Owner}
    (howner : owner = .aborting ∨ owner = .dropping) :
    Holds (x.owned owner .cancelled x.call.cancel) := by
  rcases h.of_idle hidle with hintact | hover
  · rcases x.call.cancel_cases with
      ⟨hheld, -⟩ | ⟨hheld, state, -, hcancel⟩ | ⟨hheld, how, hended, hcancel⟩
    · rw [hintact.held] at hheld
      cases hheld
    · rw [hcancel]
      refine .sender hintact.sending rfl howner ?_ ⟨.cancelled, rfl⟩
      simp [owned, Call.givenUp, Call.endRpc, hintact.releases, hheld]
    · rw [hcancel]
      refine .sender hintact.sending rfl howner ?_ ⟨how, hended⟩
      simp [owned, Call.givenUp, hintact.releases, hheld]
  · rcases x.call.cancel_cases with
      ⟨-, hcancel⟩ | ⟨hheld, -⟩ | ⟨hheld, -⟩
    · rw [hcancel]
      refine .neither (hover.stays rfl ?_ ⟨[], ?_⟩)
      · simp [owned, Call.givenUp]
      · simp [owned]
    · rw [hover.held] at hheld
      cases hheld
    · rw [hover.held] at hheld
      cases hheld

/-- Which holds are left is no matter of the calls made, once the stream is being ended. -/
theorem made (h : Holds x) (hbusy : x.owner ≠ .idle) (call : StreamCall)
    (result : Except BridgeError Unit) : Holds (x.made call result) := by
  cases h with
  | both hintact => exact absurd hintact.owner hbusy
  | sender hsending hheld howner hreleases hended =>
    exact .sender hsending hheld howner hreleases hended
  | task hsending hheld howner hreleases hcalls =>
    refine .task hsending hheld howner hreleases ?_
    simp [Exchange.made, List.find?_append, hcalls]
  | neither hover => exact .neither (hover.stays rfl rfl ⟨_, rfl⟩)

/-- An abort or a drop gives up the sender last. -/
theorem letGo (h : Holds x) (howner : x.owner = .aborting ∨ x.owner = .dropping)
    (hcarries : Carries start destination fields x) (owner : Owner) :
    Holds (x.owned owner .cancelled x.call.endInput) := by
  cases h with
  | both hintact => simp [hintact.owner] at howner
  | sender hsending hheld _ hreleases hended =>
    refine .neither ⟨rfl, hheld, hended, Or.inl ?_, ?_⟩
    · simp [owned, Call.givenUp, Call.endInput, hreleases, hsending]
    · intro hseen
      have hgone := (hcarries.seen hseen).2.1
      rw [hsending] at hgone
      cases hgone
  | task _ _ hclosing => simp [hclosing] at howner
  | neither hover =>
    refine .neither (hover.stays ?_ ?_ ⟨[], ?_⟩)
    · show { x.call with sending := false } = x.call
      rw [← hover.sending]
    · simp [owned, Call.givenUp, Call.endInput, hover.sending]
    · simp [owned]

/-- A close gives up the task last. -/
theorem awaited (h : Holds x) (hclosing : x.owner = .closing)
    (hended : x.call.held = true → ∃ how, x.call.rpc = .ended how) :
    Holds (x.owned .idle .joined x.call.join.2) := by
  rw [Call.join_snd]
  cases h with
  | both hintact => simp [hintact.owner] at hclosing
  | sender _ _ howner => simp [hclosing] at howner
  | task hsending hheld _ hreleases hcalls =>
    refine .neither ⟨hsending, rfl, hended hheld, Or.inr ?_, fun _ => hcalls⟩
    simp [owned, Call.givenUp, hreleases, hheld]
  | neither hover =>
    refine .neither (hover.stays ?_ ?_ ⟨[], ?_⟩)
    · show { x.call with held := false } = x.call
      rw [← hover.held]
    · simp [owned, Call.givenUp, hover.held]
    · simp [owned]

/-- **Every step gives up a hold at most, and in order.** -/
theorem step (h : Holds x) (hcarries : Carries start destination fields x)
    (hstep : Step x act y) : Holds y := by
  cases hstep with
  | move m => exact h.taskStep (taskStep_of_step (.move m))
  | ends how hrunning => exact h.taskStep (taskStep_of_step (.ends how hrunning))
  | unanswered reason hunseen hseen =>
    exact h.taskStep (taskStep_of_step (.unanswered reason hunseen hseen))
  | write batch hidle => exact h.written hcarries hidle batch
  | close hidle => exact h.closed hidle
  | awaited hclosing hended => exact h.awaited hclosing hended
  | abort hidle => exact (h.cancelled hidle (Or.inl rfl)).made (by simp [owned]) .abort (.ok ())
  | aborted haborting => exact h.letGo (Or.inl haborting) hcarries .idle
  | drop hidle => exact h.cancelled hidle (Or.inr rfl)
  | dropped hdropping => exact h.letGo (Or.inr hdropping) hcarries .gone

end Holds

/-! ## Runs -/

/-- What every run keeps. -/
theorem sound_run {acts : List Act} (hrun : Run (new start destination fields) acts x) :
    Carries start destination fields x ∧ Holds x := by
  induction hrun with
  | none => exact ⟨.of_new .., .of_new ..⟩
  | step _ hstep ih => exact ⟨ih.1.step hstep, ih.2.step ih.1 hstep⟩

/-- The sender goes with a close, or when the call has ended. -/
theorem endsInput_cases (h : Holds x) (hcarries : Carries start destination fields x)
    (hstep : Step x act y) (hbefore : x.call.sending = true)
    (hafter : y.call.sending = false) : act = .close ∨ ∃ how, x.call.rpc = .ended how := by
  have hleaves : y.call.sending ≠ x.call.sending := by
    rw [hbefore, hafter]
    simp
  have htask : ¬TaskStep x y := by
    intro htask
    cases htask <;> exact hleaves rfl
  have hcancel : x.call.cancel.sending = x.call.sending := by
    rcases x.call.cancel_cases with ⟨-, hcancel⟩ | ⟨-, state, -, hcancel⟩ | ⟨-, how, -, hcancel⟩
    · rw [hcancel]
    · rw [hcancel, Call.endRpc]
    · rw [hcancel]
  -- an abort and a drop have cancelled the task before they drop the sender
  have hending : x.owner = .aborting ∨ x.owner = .dropping → ∃ how, x.call.rpc = .ended how := by
    intro howner
    cases h with
    | both hintact => simp [hintact.owner] at howner
    | sender _ _ _ _ hended => exact hended
    | task _ _ hclosing => simp [hclosing] at howner
    | neither hover => exact hover.ended
  cases hstep with
  | move m => exact absurd (taskStep_of_step (.move m)) htask
  | ends how hrunning => exact absurd (taskStep_of_step (.ends how hrunning)) htask
  | unanswered reason hunseen hseen =>
    exact absurd (taskStep_of_step (.unanswered reason hunseen hseen)) htask
  | write batch =>
    rcases x.call.write_cases batch with
      ⟨-, -, hwrite⟩ | ⟨error, -, hdetached, -⟩ | ⟨error, hgone, -⟩
    · rw [hwrite] at hleaves
      exact absurd rfl hleaves
    · exact Or.inr (hcarries.detached hdetached)
    · rw [hbefore] at hgone
      cases hgone
  | close => exact Or.inl rfl
  | awaited =>
    rw [Call.join_snd] at hleaves
    exact absurd rfl hleaves
  | abort => exact absurd hcancel hleaves
  | aborted haborting => exact Or.inr (hending (Or.inl haborting))
  | drop => exact absurd hcancel hleaves
  | dropped hdropping => exact Or.inr (hending (Or.inr hdropping))

/-- An abort and a drop cancel a task that is held, and leave the sender where it is. -/
theorem cancels (h : Holds x) (hheld : x.call.held = true) (hact : act = .abort ∨ act = .drop)
    (hstep : Step x act y) :
    y.call.held = false ∧ y.call.sending = true ∧ y.releases = [.cancelled] ∧
      (∀ state, x.call.rpc = .running state → y.call.rpc = .ended .cancelled) ∧
      ∀ how, x.call.rpc = .ended how → y.call.rpc = .ended how := by
  have hafter (hidle : x.owner = .idle) :
      x.call.cancel.held = false ∧ x.call.cancel.sending = true ∧
        x.releases ++ x.call.givenUp .cancelled x.call.cancel = [.cancelled] ∧
        (∀ state, x.call.rpc = .running state → x.call.cancel.rpc = .ended .cancelled) ∧
        ∀ how, x.call.rpc = .ended how → x.call.cancel.rpc = .ended how := by
    rcases h.of_idle hidle with hintact | hover
    · rcases x.call.cancel_cases with
        ⟨hnone, -⟩ | ⟨-, state, hrunning, hcancel⟩ | ⟨-, how, hended, hcancel⟩
      · rw [hheld] at hnone
        cases hnone
      · rw [hcancel]
        simp [Call.givenUp, Call.endRpc, hintact.releases, hintact.sending, hheld, hrunning]
      · rw [hcancel]
        simp [Call.givenUp, hintact.releases, hintact.sending, hheld, hended]
    · rw [hover.held] at hheld
      cases hheld
  rcases hact with rfl | rfl
  · cases hstep with
    | abort hidle => exact hafter hidle
  · cases hstep with
    | drop hidle => exact hafter hidle

/-- **Only a close commits.**  In every run of a stream, its task and the receiver, a clean end of
the stream is seen only if the first call to end it was a close.  Then the task has taken exactly
the batches that were accepted, and the receiver has taken in the call; otherwise the receiver is as
it was.  Up to the end the task has taken some of those batches, from the first one on.

One hold on the call is given up after the other, each of them once: the task is cancelled and then
the sender goes, or the sender goes and then the task is awaited.  An abort and a drop go the first
way if the task is held.  The sender of a call that has not ended goes in a close only. -/
theorem only_close_commits {acts : List Act}
    (hrun : Run (new start destination fields) acts x) :
    (x.call.sawEnd = true →
      x.calls.find? StreamCall.isEnd = some .close ∧ x.call.taken = x.accepted ∧
        x.receiver = (start.put (streamMessages (some [destination]) fields x.accepted)).2) ∧
    (x.call.sawEnd = false → x.receiver = start) ∧
    x.call.taken <+: x.accepted ∧
    (x.releases <+: [.cancelled, .sender] ∨ x.releases <+: [.sender, .joined]) ∧
    ∀ act y, Step x act y →
      (x.call.sending = true → y.call.sending = false →
        act = .close ∨ ∃ how, x.call.rpc = .ended how) ∧
      (x.call.held = true → act = .abort ∨ act = .drop →
        y.call.held = false ∧ y.call.sending = true ∧ y.releases = [.cancelled] ∧
          (∀ state, x.call.rpc = .running state → y.call.rpc = .ended .cancelled) ∧
          ∀ how, x.call.rpc = .ended how → y.call.rpc = .ended how) := by
  obtain ⟨hcarries, hholds⟩ := sound_run hrun
  refine ⟨?_, hcarries.unseen, hcarries.taken, ?_, ?_⟩
  · intro hseen
    obtain ⟨hall, hgone, -, hcommitted⟩ := hcarries.seen hseen
    refine ⟨?_, hall, hcommitted⟩
    cases hholds with
    | both hintact =>
      rw [hintact.sending] at hgone
      cases hgone
    | sender hsending =>
      rw [hsending] at hgone
      cases hgone
    | task _ _ _ _ hcalls => exact hcalls
    | neither hover => exact hover.calls hseen
  · cases hholds with
    | both hintact => simp [hintact.releases]
    | sender _ _ _ hreleases => simp [hreleases]
    | task _ _ _ hreleases => simp [hreleases]
    | neither hover => rcases hover.releases with hreleases | hreleases <;> simp [hreleases]
  · intro act y hstep
    refine ⟨?_, ?_⟩
    · intro hbefore hafter
      exact endsInput_cases hholds hcarries hstep hbefore hafter
    · intro hheld hact
      exact cancels hholds hheld hact hstep

/-- A batch is written, taken and committed. -/
theorem only_close_commits_one_batch :
    let batch : Batch := ⟨3, [], 0⟩
    ∃ x : Exchange,
      Run (new .new "q" []) [.write batch, .task, .close, .task, .awaited] x ∧
      x.call.sawEnd = true ∧ x.calls.find? StreamCall.isEnd = some .close ∧
      x.call.taken = [batch] ∧
      x.receiver = (Receiver.new.put (streamMessages (some ["q"]) [] [batch])).2 ∧
      x.releases = [.sender, .joined] := by
  intro batch
  have hwritten : Run (new .new "q" []) [.write batch] _ := Run.none.step (.write batch rfl)
  have htaken := hwritten.step (.move .take)
  have hclosed := htaken.step (.close rfl)
  have hfinished := hclosed.step (.move .finish)
  have hrun := hfinished.step (.awaited rfl fun _ => ⟨_, rfl⟩)
  obtain ⟨hcalls, htaken, hreceiver⟩ := (only_close_commits hrun).1 rfl
  exact ⟨_, hrun, rfl, hcalls, htaken, hreceiver, rfl⟩

end Exchange

/-! ## Calls on a stream of the remote sink -/

/-- Makes a call on a stream of a sink. -/
def serve {World Stream : Type} (sink : StreamSink World Stream) (next : StreamCall)
    (stream : Stream) (world : World) : Served World Stream :=
  match next with
  | .write batch => sink.write batch stream world
  | .close => sink.close stream world
  | .abort =>
    let (stream, world) := sink.abort stream world
    ⟨.ok (), stream, world⟩

namespace Exchange

variable {x y : Exchange}

/-- What the owner finds after a call. -/
structure Found (x : Exchange) (next : StreamCall) (served : Served Remote Call) (y : Exchange) :
    Prop where
  call : y.call = served.stream
  receiver : y.receiver = served.world.receiver
  owner : y.owner = .idle
  calls : y.calls = x.calls ++ [next]
  accepted : y.accepted = x.accepted ++ (StreamCall.taken? next served.result).toList

theorem Run.append {acts later : List Act} {z : Exchange} (hrun : Run x acts y)
    (hlater : Run y later z) : Run x (acts ++ later) z := by
  induction hlater with
  | none =>
    rw [List.append_nil]
    exact hrun
  | step _ hstep ih =>
    rw [← List.append_assoc]
    exact ih.step hstep

/-- A script is a run of the task. -/
theorem run_moves (moves : List Move) (x : Exchange) :
    Run x (moves.map fun _ => .task)
      { x with
        call := (x.call.moves moves x.receiver).1
        receiver := (x.call.moves moves x.receiver).2 } := by
  induction moves generalizing x with
  | nil => exact .none
  | cons m moves ih =>
    have hfirst : Run x [.task] _ := Run.none.step (.move m)
    exact hfirst.append (ih _)

/-- To settle a call is a run of its task. -/
theorem run_settle (x : Exchange) :
    ∃ acts, Run x acts
      { x with
        call := (x.call.settle x.receiver).1
        receiver := (x.call.settle x.receiver).2 } := by
  have hmoves := run_moves (x.call.queue.map (fun _ => .take) ++ [.finish]) x
  rw [← Call.settle_eq_moves] at hmoves
  exact ⟨_, hmoves⟩

/-- Before a call on a stream its task takes the steps that are due. -/
theorem run_advance (remote : Remote) (x : Exchange) (hreceiver : x.receiver = remote.receiver) :
    ∃ acts, Run x acts
      { x with
        call := (remote.advance x.call).1
        receiver := (remote.advance x.call).2.receiver } := by
  have hmoves := run_moves (remote.script.headD []) x
  rw [hreceiver] at hmoves
  exact ⟨_, hmoves⟩

theorem found_write (batch : Batch) (remote : Remote) (x : Exchange) (hidle : x.owner = .idle)
    (hreceiver : x.receiver = remote.receiver) :
    ∃ acts y, Run x acts y ∧ Found x (.write batch) (remote.write batch x.call) y := by
  obtain ⟨acts, hadvance⟩ := run_advance remote x hreceiver
  exact ⟨_, _, hadvance.step (.write batch hidle), rfl, rfl, rfl, rfl, rfl⟩

theorem found_abort (remote : Remote) (x : Exchange) (hidle : x.owner = .idle)
    (hreceiver : x.receiver = remote.receiver) :
    ∃ acts y, Run x acts y ∧
      Found x .abort ⟨.ok (), (remote.abort x.call).1, (remote.abort x.call).2⟩ y := by
  obtain ⟨acts, hadvance⟩ := run_advance remote x hreceiver
  have haborting := hadvance.step (.abort hidle)
  exact ⟨_, _, haborting.step (.aborted rfl), rfl, rfl, rfl, rfl, rfl⟩

theorem found_close (remote : Remote) (x : Exchange) (hidle : x.owner = .idle)
    (hreceiver : x.receiver = remote.receiver) :
    ∃ acts y, Run x acts y ∧ Found x .close (remote.close x.call) y := by
  obtain ⟨acts, hadvance⟩ := run_advance remote x hreceiver
  have hclosing := hadvance.step (.close hidle)
  -- the task goes through the channel and comes to its end, for which the owner waits
  obtain ⟨moves, hsettle⟩ := run_settle _
  have hsettling := hclosing.append hsettle
  have hended : ∃ how, ((remote.advance x.call).1.endInput.settle
      (remote.advance x.call).2.receiver).1.rpc = .ended how :=
    Call.ended_settle rfl _
  have hawaited := hsettling.step (.awaited rfl fun _ => hended)
  exact ⟨_, _, hawaited, rfl, rfl, rfl, rfl, by simp [made, owned, StreamCall.taken?]⟩

/-- **The remote sink does nothing else**: whatever its script, a call on one of its streams is a
run of the stream and its task. -/
theorem found_serve (next : StreamCall) (remote : Remote) (x : Exchange) (hidle : x.owner = .idle)
    (hreceiver : x.receiver = remote.receiver) :
    ∃ acts y, Run x acts y ∧ Found x next (serve remoteSink next x.call remote) y := by
  cases next with
  | write batch => exact found_write batch remote x hidle hreceiver
  | close => exact found_close remote x hidle hreceiver
  | abort => exact found_abort remote x hidle hreceiver

end Exchange
end BatchBridge.Flight
