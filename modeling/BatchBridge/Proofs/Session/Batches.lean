import BatchBridge.Proofs.Session.Log
import BatchBridge.Proofs.Session.Meaning

/-!
# The batches of a stream

How far a byte string goes on with batches that the memory sink takes, and what a stream makes of
what is behind them.

* `Intake` — what a stream of batches is read with, and the write that will fail.
* `Intake.Accepts` — a frame is a batch, and the sink takes it.
* `Intake.Takes` — a byte string goes on with such frames.  `Intake.Stuck` — it does not.
* **`Intake.exists_takes`**, **`Intake.takes_unique`** — there is exactly one way to go on with them
  as far as possible.
* **`Intake.ofStreaming_of_takes`** — a stream writes the batches, and is then where it would be if
  it had begun behind them.
* `Intake.Overflows` — what comes next has too much text for a column.
* **`Intake.Stuck.ending`** — a stream that cannot go on is closed if there is an empty frame, lost
  if there is too much text, and aborted if there is anything else or nothing.
-/

namespace BatchBridge

/-- What a stream of batches is read with, and the number of the write that fails. -/
structure Intake where
  cap : Option Nat
  schema : ColumnSchema
  method : Compression.Method
  failWriteAt : Option Nat

namespace Intake

variable {intake : Intake}

/-- The frame is complete within the cap, not empty, and a batch, which as the write number `k` does
not fail. -/
structure Accepts (intake : Intake) (k : Nat) (frame : Bytes) (batch : Batch) : Prop where
  ne_nil : frame ≠ []
  fits : Frame.Fits intake.cap frame
  batch : ∃ size, Session.batchOf intake.schema intake.method frame = .ok (batch, size)
  write : intake.failWriteAt ≠ some k

/-- From write number `k` on, `body` begins with frames of these batches and goes on with a tail. -/
inductive Takes (intake : Intake) : Nat → Bytes → List Batch → Bytes → Prop where
  | stop {k : Nat} {body : Bytes} : Takes intake k body [] body
  | take {k : Nat} {frame rest tail : Bytes} {batch : Batch} {batches : List Batch} :
      intake.Accepts k frame batch → Takes intake (k + 1) rest batches tail →
      Takes intake k (Frame.bytes frame ++ rest) (batch :: batches) tail

/-- No such frame comes next. -/
def Stuck (intake : Intake) (k : Nat) (tail : Bytes) : Prop :=
  ∀ frame batch rest, tail = Frame.bytes frame ++ rest → ¬intake.Accepts k frame batch

/-- What comes next is a frame whose payload has too much text for a column. -/
def Overflows (intake : Intake) (tail : Bytes) : Prop :=
  ∃ frame payload rest, tail = Frame.bytes frame ++ rest ∧ frame ≠ [] ∧
    Frame.Fits intake.cap frame ∧
    Compression.Decompressor.expand intake.method 0 frame = .ok payload ∧
    Spelling.Overflows intake.schema payload.data.toList

/-! ## As far as possible -/

/-- **Some frames can be taken, and then no more.** -/
theorem exists_takes (intake : Intake) (k : Nat) (body : Bytes) :
    ∃ batches tail, intake.Takes k body batches tail ∧ intake.Stuck (k + batches.length) tail := by
  induction hlength : body.length using Nat.strongRecOn generalizing k body with
  | ind n ih =>
    subst hlength
    by_cases hnext : ∃ frame batch rest, body = Frame.bytes frame ++ rest ∧
        intake.Accepts k frame batch
    · obtain ⟨frame, batch, rest, rfl, haccepts⟩ := hnext
      have hshorter := Frame.length_lt_of_read (Frame.read_bytes haccepts.fits rest)
      obtain ⟨batches, tail, htakes, hstuck⟩ := ih rest.length hshorter (k + 1) rest rfl
      refine ⟨batch :: batches, tail, .take haccepts htakes, ?_⟩
      rw [List.length_cons, ← Nat.add_assoc, Nat.add_right_comm]
      exact hstuck
    · refine ⟨[], body, .stop, ?_⟩
      intro frame batch rest hbody haccepts
      exact hnext ⟨frame, batch, rest, hbody, haccepts⟩

/-- What comes next is either one frame or another. -/
theorem accepts_unique {k : Nat} {frame frame' rest rest' : Bytes} {batch batch' : Batch}
    (h : intake.Accepts k frame batch) (h' : intake.Accepts k frame' batch')
    (heq : Frame.bytes frame ++ rest = Frame.bytes frame' ++ rest') :
    batch = batch' ∧ rest = rest' := by
  have hread := Frame.read_bytes h.fits rest
  rw [heq, Frame.read_bytes h'.fits rest'] at hread
  cases hread
  obtain ⟨size, hbatch⟩ := h.batch
  obtain ⟨size', hbatch'⟩ := h'.batch
  rw [hbatch] at hbatch'
  cases hbatch'
  exact ⟨rfl, rfl⟩

/-- **There is one way to take as many frames as possible.** -/
theorem takes_unique {k : Nat} {body tail tail' : Bytes} {batches batches' : List Batch}
    (h : intake.Takes k body batches tail) (hstuck : intake.Stuck (k + batches.length) tail)
    (h' : intake.Takes k body batches' tail')
    (hstuck' : intake.Stuck (k + batches'.length) tail') : batches = batches' ∧ tail = tail' := by
  induction h generalizing batches' with
  | stop =>
    cases h' with
    | stop => exact ⟨rfl, rfl⟩
    | take haccepts _ => exact absurd haccepts (hstuck _ _ _ rfl)
  | @take k frame rest tail batch batches haccepts htakes ih =>
    generalize hbody : Frame.bytes frame ++ rest = body at h'
    cases h' with
    | stop => exact absurd haccepts (hstuck' _ _ _ hbody.symm)
    | take haccepts' htakes' =>
      obtain ⟨rfl, rfl⟩ := accepts_unique haccepts haccepts' hbody
      rw [List.length_cons, ← Nat.add_assoc, Nat.add_right_comm] at hstuck hstuck'
      obtain ⟨rfl, rfl⟩ := ih hstuck htakes' hstuck'
      exact ⟨rfl, rfl⟩

/-- What has been taken is taken whatever comes later. -/
theorem Takes.append {k : Nat} {body tail : Bytes} {batches : List Batch}
    (h : intake.Takes k body batches tail) (more : Bytes) :
    intake.Takes k (body ++ more) batches (tail ++ more) := by
  induction h with
  | stop => exact .stop
  | take haccepts _ ih =>
    rw [List.append_assoc]
    exact .take haccepts ih

/-- What has been taken stands in front of what has not. -/
theorem Takes.exists_front {k : Nat} {body tail : Bytes} {batches : List Batch}
    (h : intake.Takes k body batches tail) :
    ∃ front, body = front ++ tail ∧ ∀ other, intake.Takes k (front ++ other) batches other := by
  induction h with
  | stop => exact ⟨[], rfl, fun _ => .stop⟩
  | @take _ frame _ _ _ _ haccepts _ ih =>
    obtain ⟨front, rfl, hother⟩ := ih
    refine ⟨Frame.bytes frame ++ front, (List.append_assoc ..).symm, fun other => ?_⟩
    rw [List.append_assoc]
    exact .take haccepts (hother other)

/-! ## Too much text -/

/-- **Only a large frame that has not been compressed has so much text.** -/
theorem Overflows.large {tail : Bytes} (h : intake.Overflows tail) :
    intake.method = .none ∧ ∃ frame rest, tail = Frame.bytes frame ++ rest ∧
      Frame.Fits intake.cap frame ∧ maxOffset / 3 < frame.length := by
  obtain ⟨frame, payload, rest, htail, -, hfits, hexpand, hlost⟩ := h
  have hlong : maxOffset / 3 < payload.size :=
    Nat.lt_of_not_le fun hle => Spelling.not_overflows_of_length_le hle hlost
  have hlargest : Compression.maxDecompressed ≤ maxOffset / 3 := by decide
  have hsize := Compression.Decompressor.size_le_of_expand hexpand
  split at hsize
  case isTrue hmethod =>
    exact ⟨hmethod, frame, rest, htail, hfits, Nat.lt_of_lt_of_le hlong hsize⟩
  case isFalse => exact absurd (Nat.le_trans hsize hlargest) (Nat.not_le_of_lt hlong)

/-! ## What a stream makes of it -/

/-- The memory sink fails the write that is meant to fail. -/
def Into (intake : Intake) (sink : MemorySink) : Prop :=
  sink.faults.failWriteAt = intake.failWriteAt

/-- **A stream writes the batches**, and is then behind them. -/
theorem ofStreaming_of_takes {k : Nat} {body tail : Bytes} {batches : List Batch}
    (h : intake.Takes k body batches tail) (fault : Option WriteFault)
    {forwarder : Forwarder MemoryStream} {id : String} (hwrites : forwarder.Writes id k)
    (summary : Summary) {sink : MemorySink} (hinto : intake.Into sink) :
    ∃ forwarder' summary',
      Session.Outcome.ofStreaming memorySink fault intake.cap intake.schema intake.method forwarder
          summary body sink =
        Session.Outcome.ofStreaming memorySink fault intake.cap intake.schema intake.method
          forwarder' summary' tail
          { sink with events := sink.events ++ batches.map (.written id) } ∧
      forwarder'.Writes id (k + batches.length) ∧ summary'.queryId = summary.queryId := by
  -- Along the derivation, the forwarder has handed on as many batches as have been taken.
  induction h generalizing forwarder summary sink with
  | stop =>
    refine ⟨forwarder, summary, ?_, hwrites, rfl⟩
    rw [List.map_nil, List.append_nil]
  | @take k frame rest tail batch batches haccepts htakes ih =>
    obtain ⟨size, hbatch⟩ := haccepts.batch
    have hwritten := Forwarder.write_memory hwrites batch sink
    generalize hwrite : forwarder.write memorySink batch sink = called at hwritten
    cases hwritten with
    | rejected hfault _ => exact absurd (hinto.symm.trans hfault) haccepts.write
    | taken _ hwrites' =>
      have hinto' : intake.Into (sink.record (.written id batch)) := hinto
      obtain ⟨last, summary', hrest, hlast, hid⟩ :=
        ih hwrites' (summary.record batch.rows size batch.nullCount) hinto'
      refine ⟨last, summary', ?_, ?_, hid⟩
      · have hread := Frame.read_bytes haccepts.fits rest
        rw [Session.Outcome.ofStreaming_of_written hread haccepts.ne_nil hbatch hwrite, hrest,
          MemorySink.record, List.map_cons, List.append_assoc]
        rfl
      · rw [List.length_cons, ← Nat.add_assoc, Nat.add_right_comm]
        exact hlast

/-- What a stream that cannot go on comes to. -/
inductive Ending (intake : Intake) (fault : Option WriteFault)
    (forwarder : Forwarder MemoryStream) (id : String) (summary : Summary) (tail : Bytes)
    (sink : MemorySink) : Session.Outcome MemorySink → Prop where
  | closed {rest : Bytes} : tail = Frame.bytes [] ++ rest →
      Ending intake fault forwarder id summary tail sink
        (.ofClosing memorySink fault forwarder summary sink)
  | lost : intake.Overflows tail →
      Ending intake fault forwarder id summary tail sink (.ofLost memorySink forwarder sink)
  | aborted {forwarder' : Forwarder MemoryStream} {writes : Nat} {error : BridgeError} :
      (¬∃ rest, tail = Frame.bytes [] ++ rest) → ¬intake.Overflows tail →
      forwarder'.Writes id writes →
      Ending intake fault forwarder id summary tail sink
        (.ofAborting memorySink forwarder' error sink)

/-- **A stream that cannot go on is ended.** -/
theorem Stuck.ending {k : Nat} {tail : Bytes} (h : intake.Stuck k tail) (fault : Option WriteFault)
    {forwarder : Forwarder MemoryStream} {id : String} (hwrites : forwarder.Writes id k)
    (summary : Summary) {sink : MemorySink} (hinto : intake.Into sink) :
    Ending intake fault forwarder id summary tail sink
      (.ofStreaming memorySink fault intake.cap intake.schema intake.method forwarder summary tail
        sink) := by
  have hnoEnd {frame rest : Bytes} (hne : frame ≠ [])
      (hread : Frame.read intake.cap .frame tail = .ok (frame, rest)) :
      ¬∃ rest, tail = Frame.bytes [] ++ rest := by
    rintro ⟨rest', rfl⟩
    rw [Frame.read_bytes_nil] at hread
    cases hread
    exact hne rfl
  have hreaches {frame rest : Bytes}
      (hread : Frame.read intake.cap .frame tail = .ok (frame, rest))
      (hkept : Session.batchOf intake.schema intake.method frame ≠ .lost) :
      ¬intake.Overflows tail := by
    rintro ⟨frame', payload, rest', rfl, -, hfits, hlost⟩
    rw [Frame.read_bytes hfits] at hread
    cases hread
    exact hkept (Session.batchOf_eq_lost_iff.2 ⟨payload, hlost⟩)
  cases Session.Outcome.next_cases memorySink intake.cap intake.schema intake.method forwarder tail
    sink with
  | brokenOff hread =>
    rw [Session.Outcome.ofStreaming_of_error hread]
    refine .aborted ?_ ?_ hwrites
    · rintro ⟨rest, rfl⟩
      rw [Frame.read_bytes_nil] at hread
      cases hread
    · rintro ⟨frame, payload, rest, rfl, -, hfits, -⟩
      rw [Frame.read_bytes hfits] at hread
      cases hread
  | ended hread =>
    rw [Session.Outcome.ofStreaming_of_empty hread]
    exact .closed (Frame.read_frame_eq_ok_iff.1 hread).1
  | undecodable hread hne hbatch =>
    rw [Session.Outcome.ofStreaming_of_undecodable hread hne hbatch]
    exact .aborted (hnoEnd hne hread) (hreaches hread (by simp [hbatch])) hwrites
  | lost hread hne hbatch =>
    obtain ⟨htail, hfits⟩ := Frame.read_frame_eq_ok_iff.1 hread
    obtain ⟨payload, hexpand, hlost⟩ := Session.batchOf_eq_lost_iff.1 hbatch
    rw [Session.Outcome.ofStreaming_of_lost hread hne hbatch]
    exact .lost ⟨_, payload, _, htail, hne, hfits, hexpand, hlost⟩
  | @notWritten _ _ batch _ _ _ _ hread hne hbatch hwrite =>
    rw [Session.Outcome.ofStreaming_of_notWritten hread hne hbatch hwrite]
    have hwritten := Forwarder.write_memory hwrites batch sink
    rw [hwrite] at hwritten
    cases hwritten with
    | rejected _ hwrites' =>
      exact .aborted (hnoEnd hne hread) (hreaches hread (by simp [hbatch])) hwrites'
  | @written frame _ batch size _ _ hread hne hbatch hwrite =>
    obtain ⟨htail, hfits⟩ := Frame.read_frame_eq_ok_iff.1 hread
    have hwritten := Forwarder.write_memory hwrites batch sink
    rw [hwrite] at hwritten
    cases hwritten with
    | taken hfault _ =>
      have haccepts : intake.Accepts k frame batch :=
        ⟨hne, hfits, ⟨size, hbatch⟩, fun heq => hfault (hinto.trans heq)⟩
      exact absurd haccepts (h _ _ _ htail)

end Intake
end BatchBridge
