import BatchBridge.Proofs.Frame.Caps

/-!
# How far a reader has got

A read that gives an item leaves behind what stands behind the item, whatever the source does.
Failures and late arrivals may lie ahead: until one of them is met, the reader gives what all bytes
of the source together hold (`Reader.ahead`), item by item.

* **`Reader.read_of_pollFrom`** — a call that gives an item has taken it off the bytes ahead.
* **`Reader.read_of_readFrame`**, **`Reader.read_of_readFrameCapped`**,
  **`Reader.read_of_readWord`** — so have the reads of frames and words.
-/

namespace BatchBridge.Frame.Reader

variable {cap : Option Nat} {want : Want} {reader after : Reader} {item : Bytes}

/-- **A call that gives an item has taken it off what is there and to come.** -/
theorem read_of_pollFrom {deadline : Option Nat} {arrivals : List Arrival} {clock : Nat}
    {input : Bytes} (h : Polls cap want reader input)
    (hcall : pollFrom want deadline arrivals clock reader = (.item item, after)) :
    read cap want (input ++ bytesOf arrivals) = .ok (item, after.ahead) := by
  -- on what is still to arrive; what arrives without completing the item moves into the input
  induction arrivals generalizing clock reader input with
  | nil =>
    have hdrained := drained_of_polls h
    rw [pollFrom] at hcall
    generalize reader.drain want = drained at hdrained hcall
    cases hdrained with
    | item hitem =>
      cases hcall
      exact read_append_of_ok hitem _
    | failed => cases hcall
    | @nothing error next herror _ hpolls =>
      have hanswers : Answers next.limits cap want input (next.pollEnd want deadline clock) :=
        answers_pollEnd hpolls herror
      rw [show next.pollEnd want deadline clock = (.item item, after) from hcall] at hanswers
      cases hanswers with
      | item hitem =>
        rw [herror] at hitem
        cases hitem
  | cons arrival arrivals ih =>
    have hdrained := drained_of_polls h
    generalize hdrain : reader.drain want = drained at hdrained
    cases hdrained with
    | item hitem =>
      simp only [pollFrom, hdrain] at hcall
      cases hcall
      exact read_append_of_ok hitem _
    | failed =>
      simp only [pollFrom, hdrain] at hcall
      cases hcall
    | nothing _ _ hpolls =>
      cases hlate : isLate deadline clock arrival.due with
      | true =>
        simp only [pollFrom, hdrain, hlate, if_true] at hcall
        cases hcall
      | false =>
        cases arrival with
        | failure due kind =>
          simp only [pollFrom, hdrain, hlate, Bool.false_eq_true, if_false] at hcall
          cases hcall
        | data due bytes =>
          have hdue : isLate deadline clock due = false := hlate
          obtain ⟨next, hpoll, hnext, -⟩ := pollFrom_data hdrain hpolls hdue
          rw [hpoll] at hcall
          rw [bytesOf_cons, ← List.append_assoc]
          exact ih hnext hcall

theorem read_of_next (h : Between cap reader) (hcall : reader.next want = (.ok item, after)) :
    read cap want reader.ahead = .ok (item, after.ahead) := by
  rw [next] at hcall
  cases hpoll : reader.poll want with
  | mk polled called =>
    rw [hpoll] at hcall
    cases polled with
    | item bytes =>
      cases hcall
      exact read_of_pollFrom (h.polls want) hpoll
    | _ => cases hcall

/-- **A frame is read off what is ahead.** -/
theorem read_of_readFrame {payload : Bytes} (h : Between cap reader)
    (hcall : reader.readFrame = (.ok payload, after)) :
    read cap .frame reader.ahead = .ok (payload, after.ahead) := by
  rw [readFrame] at hcall
  cases hnext : reader.next .frame with
  | mk result called =>
    rw [hnext] at hcall
    cases result with
    | ok bytes =>
      have hread := read_of_next h hnext
      cases hcall
      exact hread
    | error => cases hcall

/-- **So is a frame that has a cap of its own.** -/
theorem read_of_readFrameCapped {other : Option Nat} {payload : Bytes} (h : Between cap reader)
    (hcall : reader.readFrameCapped other = (.ok payload, after)) :
    read other .frame reader.ahead = .ok (payload, after.ahead) := by
  rw [readFrameCapped] at hcall
  cases hframe : (reader.setCap other).readFrame with
  | mk result called =>
    rw [hframe] at hcall
    cases hcall
    show read other .frame (reader.setCap other).ahead = .ok (payload, called.ahead)
    exact read_of_readFrame (h.setCap other) hframe

/-- **So is a word.** -/
theorem read_of_readWord {word : Nat} (h : Between cap reader)
    (hcall : reader.readWord = (.ok word, after)) :
    ∃ bytes, read cap .word reader.ahead = .ok (bytes, after.ahead) ∧
      word = Bytes.toNatBE bytes := by
  rw [readWord] at hcall
  cases hnext : reader.next .word with
  | mk result called =>
    rw [hnext] at hcall
    cases result with
    | ok bytes =>
      have hread := read_of_next h hnext
      cases hcall
      exact ⟨bytes, hread, rfl⟩
    | error => cases hcall

end BatchBridge.Frame.Reader
