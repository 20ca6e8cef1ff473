import BatchBridge.Flight.Sink
import BatchBridge.Proofs.Flight.Receiving

/-!
# Steps of a call

What each step of a call comes to, of its task and of the stream that it belongs to, so that nothing
else has to look into one.

* `PutState.ofBatches` — how far a call has come that has brought some batches.
* `Call.take_cases`, `Call.finish_cases`, `Call.fail_cases`, `Call.hangUp_cases` — steps of the
  task and of what is left of its call: what the name says, or nothing.
* `Call.write_cases`, `Call.cancel_cases`, `Call.join_snd` — steps of the stream.
* `Call.takes_of_running`, `Call.ended_settle` — a task that goes on to its end takes everything
  there is in the channel.  `Call.settle_eq_moves`: to do so takes no other steps than its own.
-/

namespace BatchBridge.Flight

/-! ## Batches on their way -/

/-- How far a call has come that has brought these batches. -/
def PutState.ofBatches (receiver : Receiver) (destination : String) (fields : List Field)
    (batches : List Batch) : PutState :=
  .receiveAll receiver (streamMessages (some [destination]) fields batches) .waiting

theorem PutState.ofBatches_append (receiver : Receiver) (destination : String)
    (fields : List Field) (batches : List Batch) (batch : Batch) :
    ofBatches receiver destination fields (batches ++ [batch]) =
      (ofBatches receiver destination fields batches).receiveAll receiver
        (batchMessages batch) := by
  simp [ofBatches, streamMessages, receiveAll_append]

/-! ## Steps of a call -/

namespace Call

variable (call : Call) (receiver : Receiver)

/-- The task takes the first batch in the channel, or it does nothing. -/
theorem take_cases :
    call.take receiver = call ∨
    ∃ state batch queue, call.rpc = .running state ∧ call.queue = batch :: queue ∧
      call.take receiver =
        { call with
          rpc := .running (state.receiveAll receiver (batchMessages batch))
          queue, taken := call.taken ++ [batch] } := by
  rw [take]
  cases hrpc : call.rpc with
  | ended how => exact Or.inl rfl
  | running state =>
    cases hqueue : call.queue with
    | nil => exact Or.inl rfl
    | cons batch queue => exact Or.inr ⟨state, batch, queue, rfl, rfl, rfl⟩

/-- The task sees the end, behind the last batch and without the sender, or it does nothing. -/
theorem finish_cases :
    call.finish receiver = (call, receiver) ∨
    ∃ state, call.rpc = .running state ∧ call.queue = [] ∧ call.sending = false ∧
      call.finish receiver =
        ({ call.endRpc (answered (receiver.finish state).1) with sawEnd := true },
          (receiver.finish state).2) := by
  rw [finish]
  cases hrpc : call.rpc with
  | ended how => exact Or.inl rfl
  | running state =>
    cases hqueue : call.queue with
    | cons batch queue => exact Or.inl rfl
    | nil =>
      cases hsending : call.sending with
      | true => exact Or.inl rfl
      | false => exact Or.inr ⟨state, rfl, rfl, rfl, rfl⟩

/-- A call that fails has been under way. -/
theorem fail_cases (reason : String) :
    call.fail reason = call ∨
    ∃ state how, call.rpc = .running state ∧ call.fail reason = call.endRpc how := by
  rw [fail]
  cases hrpc : call.rpc with
  | ended how => exact Or.inl rfl
  | running state => cases state <;> exact Or.inr ⟨_, _, rfl, rfl⟩

/-- The far end of the channel goes when the call has ended. -/
theorem hangUp_cases :
    call.hangUp = call ∨
    ∃ how, call.rpc = .ended how ∧ call.hangUp = { call with queue := [], attached := false } := by
  rw [hangUp]
  cases hrpc : call.rpc with
  | running state => exact Or.inl rfl
  | ended how => exact Or.inr ⟨how, rfl, rfl⟩

/-- A write gets its batch into the channel as long as there is a far end, or it goes wrong.  Then
the stream is done with the call, if it was not before. -/
theorem write_cases (batch : Batch) :
    (call.sending = true ∧ call.attached = true ∧
      call.write batch = (.ok (), { call with queue := call.queue ++ [batch] })) ∨
    (∃ error, call.sending = true ∧ call.attached = false ∧
      call.write batch = (.error error, { call with sending := false, held := false })) ∨
    ∃ error, call.sending = false ∧ call.write batch = (.error error, call) := by
  obtain ⟨destination, sending, held, rpc, queue, attached, taken, sawEnd⟩ := call
  cases sending with
  | false => exact Or.inr (Or.inr ⟨_, rfl, rfl⟩)
  | true =>
    cases attached with
    | true => exact Or.inl ⟨rfl, rfl, rfl⟩
    | false =>
      refine Or.inr (Or.inl ?_)
      cases held with
      | false => exact ⟨_, rfl, rfl, rfl⟩
      | true =>
        cases rpc with
        | running state => exact ⟨_, rfl, rfl, rfl⟩
        | ended how => cases how <;> exact ⟨_, rfl, rfl, rfl⟩

/-- Cancelling ends a task that is held and running. -/
theorem cancel_cases :
    (call.held = false ∧ call.cancel = call) ∨
    (call.held = true ∧ ∃ state, call.rpc = .running state ∧
      call.cancel = { call.endRpc .cancelled with held := false }) ∨
    (call.held = true ∧ ∃ how, call.rpc = .ended how ∧
      call.cancel = { call with held := false }) := by
  rw [cancel]
  cases hheld : call.held with
  | false => exact Or.inl ⟨rfl, rfl⟩
  | true =>
    cases hrpc : call.rpc with
    | running state => exact Or.inr (Or.inl ⟨rfl, state, rfl, rfl⟩)
    | ended how => exact Or.inr (Or.inr ⟨rfl, how, rfl, rfl⟩)

/-- A task that has ended takes nothing. -/
theorem takes_of_ended {call : Call} {how : RpcEnd} (hended : call.rpc = .ended how)
    (receiver : Receiver) (queue : List Batch) :
    queue.foldl (fun call _ => call.take receiver) call = call := by
  induction queue with
  | nil => rfl
  | cons batch queue ih =>
    have htake : call.take receiver = call := by simp [take, hended]
    rw [List.foldl_cons, htake, ih]

/-- A task that runs takes everything there is in the channel. -/
theorem takes_of_running {call : Call} {state : PutState} (hrunning : call.rpc = .running state)
    (receiver : Receiver) {queue : List Batch} (hqueue : call.queue = queue) :
    queue.foldl (fun call _ => call.take receiver) call =
      { call with
        rpc := .running (state.receiveAll receiver (queue.flatMap batchMessages))
        queue := [], taken := call.taken ++ queue } := by
  induction queue generalizing call state with
  | nil =>
    obtain ⟨destination, sending, held, rpc, _, attached, taken, sawEnd⟩ := call
    simp only at hrunning hqueue
    simp [hrunning, hqueue]
  | cons batch queue ih =>
    have htake :
        call.take receiver =
          { call with
            rpc := .running (state.receiveAll receiver (batchMessages batch))
            queue, taken := call.taken ++ [batch] } := by
      simp only [take, hrunning, hqueue, PutState.receiveAll]
    rw [List.foldl_cons, htake, ih rfl rfl]
    simp [PutState.receiveAll_append]

/-- A task that goes through everything in the channel behind the last write comes to its end. -/
theorem ended_settle {call : Call} (hsending : call.sending = false) (receiver : Receiver) :
    ∃ how, (call.settle receiver).1.rpc = .ended how := by
  rw [settle]
  cases hrpc : call.rpc with
  | ended how =>
    rw [takes_of_ended hrpc]
    exact ⟨how, by simp [finish, hrpc]⟩
  | running state =>
    rw [takes_of_running hrpc receiver rfl]
    simp [finish, hsending, endRpc]

theorem moves_cons (call : Call) (m : Move) (moves : List Move) (receiver : Receiver) :
    call.moves (m :: moves) receiver =
      (call.move receiver m).1.moves moves (call.move receiver m).2 := rfl

/-- To go through the channel and see the end are steps that a task may take. -/
theorem settle_eq_moves (call : Call) (receiver : Receiver) :
    call.settle receiver =
      call.moves (call.queue.map (fun _ => .take) ++ [.finish]) receiver := by
  have htakes (queue : List Batch) (call : Call) :
      (queue.map fun _ => Move.take).foldl
          (fun (state : Call × Receiver) m => state.1.move state.2 m) (call, receiver) =
        (queue.foldl (fun call _ => call.take receiver) call, receiver) := by
    induction queue generalizing call with
    | nil => rfl
    | cons batch queue ih => exact ih (call.take receiver)
  rw [moves, List.foldl_append]
  exact (congrArg (fun state : Call × Receiver => state.1.move state.2 .finish)
    (htakes call.queue call)).symm

theorem join_snd : call.join.2 = { call with held := false } := by
  obtain ⟨destination, sending, held, rpc, queue, attached, taken, sawEnd⟩ := call
  cases held <;> rfl

end Call

end BatchBridge.Flight
