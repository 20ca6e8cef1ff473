import BatchBridge.Proofs.Frame.History

/-!
# Calls that are made again

A call that times out has taken nothing away: made again, it goes on where it stood.  So a caller
that repeats each call until it gives something else is given what a caller without a deadline is
given, also behind errors, and whatever time passes between its attempts.

* `Reader.insist`, `Reader.insistAll` — calls that are repeated, with a pause before each attempt.
* `Reader.untimed`, `Reader.Same` — a reader without its deadline and its clock, and what two
  polls have to agree on.
* **`Reader.same_pollFrom_finish`** — a poll that its deadline cuts off, and then goes on without
  one, comes to what it would have come to without a deadline from the start.
* **`Reader.isSome_insist`** — a source that ends lets a call time out only so often.
* **`Reader.insistAll_loses_nothing`** — both together, for any sequence of calls.
-/

namespace BatchBridge.Frame

namespace Reader

/-- Lets time pass between two calls. -/
def wait (pause : Nat) (reader : Reader) : Reader :=
  { reader with source := { reader.source with clock := reader.source.clock + pause } }

/-- Makes a call, and makes it again as long as it times out, with a pause before each attempt.
There is no answer if all attempts have timed out. -/
def insist (request : Request) : List Nat → Reader → Option (Except BridgeError Item × Reader)
  | [], _ => none
  | pause :: pauses, reader =>
    match (reader.wait pause).call request with
    | (.error (.timeout _), after) => insist request pauses after
    | answer => some answer

/-- Calls one after the other, each of them repeated until it gives something else than that it has
timed out.  The pauses of its attempts stand beside it. -/
def insistAll : List (Request × List Nat) → Reader → Option (List Entry × Reader)
  | [], reader => some ([], reader)
  | (request, pauses) :: plan, reader => do
    let (outcome, after) ← insist request pauses reader
    let (entries, last) ← insistAll plan after
    some (⟨request, outcome, after.bytesRead⟩ :: entries, last)

/-! ## Without a clock -/

/-- A reader that has neither a deadline nor a clock. -/
def untimed (reader : Reader) : Reader :=
  { reader with
    limits := { reader.limits with readTimeout := none }
    source := { reader.source with clock := 0 } }

/-- The same has come of two polls, and what is left differs only by the time. -/
structure Same {α : Type} (result result' : α × Reader) : Prop where
  outcome : result.1 = result'.1
  reader : result.2.untimed = result'.2.untimed

variable {α : Type} {want : Want} {a b c : Reader}

theorem Same.symm {result result' : α × Reader} (h : Same result result') : Same result' result :=
  ⟨h.outcome.symm, h.reader.symm⟩

theorem Same.trans {result result' result'' : α × Reader} (h : Same result result')
    (h' : Same result' result'') : Same result result'' :=
  ⟨h.outcome.trans h'.outcome, h.reader.trans h'.reader⟩

/-- Neither the limits nor the source matter to what the buffer yields. -/
theorem drain_with (want : Want) (reader : Reader) (limits : Limits) (source : Source) :
    { reader with limits, source }.drain want =
      ((reader.drain want).1, { (reader.drain want).2 with limits, source }) := by
  by_cases herrored : reader.errored = true
  · simp [drain, herrored]
  by_cases hreadable : reader.readable = true
  · simp only [drain, herrored, hreadable, if_true, adopt]
    generalize (if reader.eof = true then Codec.decodeEof want reader.codec reader.buffer
      else Codec.decode want reader.codec reader.buffer) = outcome
    obtain ⟨result, codec, buffer⟩ := outcome
    rcases result with error | _ | item <;> rfl
  · simp [drain, herrored, hreadable]

/-- What has yielded nothing yields nothing when it is asked again. -/
theorem drain_of_drained {after : Reader} (h : a.drain want = (none, after)) :
    after.drain want = (none, after) := by
  have hdrainage := drainage_drain want a
  rw [h] at hdrainage
  cases hdrainage with
  | quiet herrored hreadable => simp [drain, herrored, hreadable]
  | nothing herrored => simp [drain, herrored]

theorem source_drain (want : Want) (reader : Reader) :
    (reader.drain want).2.source = reader.source := by
  have hkept := drain_with want reader reader.limits reader.source
  rw [hkept]

theorem source_of_drain {polled : Option Polled} {after : Reader}
    (h : a.drain want = (polled, after)) : after.source = a.source := by
  have hkept := source_drain want a
  rwa [h] at hkept

theorem drain_leave (want : Want) (reader : Reader) (arrivals : List Arrival) (clock : Nat) :
    (reader.leave arrivals clock).drain want =
      ((reader.drain want).1, (reader.drain want).2.leave arrivals clock) := by
  have hlimits := (spares_drain want reader).limits
  rw [leave, leave, drain_with, source_drain, hlimits]

theorem untimed_drain (want : Want) (reader : Reader) :
    reader.untimed.drain want = ((reader.drain want).1, (reader.drain want).2.untimed) := by
  have hlimits := (spares_drain want reader).limits
  rw [untimed, untimed, drain_with, source_drain, hlimits]

/-- Buffers that differ only by the time yield the same. -/
theorem same_drain (h : a.untimed = b.untimed) (want : Want) :
    ∃ polled after after', a.drain want = (polled, after) ∧ b.drain want = (polled, after') ∧
      after.untimed = after'.untimed := by
  have ha := untimed_drain want a
  have hb := untimed_drain want b
  rw [h, hb] at ha
  obtain ⟨hpolled, hafter⟩ := Prod.mk.inj ha
  exact ⟨(a.drain want).1, (a.drain want).2, (b.drain want).2, rfl, Prod.ext hpolled rfl,
    hafter.symm⟩

theorem untimed_leave (h : a.untimed = b.untimed) (arrivals : List Arrival) (clock clock' : Nat) :
    (a.leave arrivals clock).untimed = (b.leave arrivals clock').untimed := by
  exact congrArg (fun r : Reader => { r with source := { r.source with arrivals } }) h

/-! ## Polls without a deadline -/

theorem same_pollEnd (h : a.untimed = b.untimed) (want : Want) (clock clock' : Nat) :
    Same (a.pollEnd want none clock) (b.pollEnd want none clock') := by
  have hleft := untimed_leave h [] clock clock'
  have heof : a.eof = b.eof := by simpa [untimed] using congrArg Reader.eof h
  rw [pollEnd_none, pollEnd_none, heof]
  split
  · exact ⟨rfl, hleft⟩
  · have hended : { a.leave [] clock with eof := true, readable := true }.untimed =
        { b.leave [] clock' with eof := true, readable := true }.untimed :=
      congrArg (fun r : Reader => { r with eof := true, readable := true }) hleft
    obtain ⟨polled, after, after', hdrain, hdrain', hreader⟩ := same_drain hended want
    rw [hdrain, hdrain']
    cases polled with
    | none => exact ⟨rfl, hreader⟩
    | some polled => exact ⟨rfl, hreader⟩

/-- **Without a deadline, times do not matter.** -/
theorem same_pollFrom (h : a.untimed = b.untimed) (want : Want) (arrivals : List Arrival)
    (clock clock' : Nat) :
    Same (pollFrom want none arrivals clock a) (pollFrom want none arrivals clock' b) := by
  induction arrivals generalizing a b clock clock' with
  | nil =>
    obtain ⟨polled, after, after', hdrain, hdrain', hreader⟩ := same_drain h want
    cases polled with
    | some polled =>
      rw [pollFrom_of_yield hdrain, pollFrom_of_yield hdrain']
      exact ⟨rfl, untimed_leave hreader [] clock clock'⟩
    | none =>
      rw [pollFrom_nil hdrain, pollFrom_nil hdrain']
      exact same_pollEnd hreader want clock clock'
  | cons arrival rest ih =>
    obtain ⟨polled, after, after', hdrain, hdrain', hreader⟩ := same_drain h want
    cases polled with
    | some polled =>
      rw [pollFrom_of_yield hdrain, pollFrom_of_yield hdrain']
      exact ⟨rfl, untimed_leave hreader _ clock clock'⟩
    | none =>
      cases arrival with
      | failure due kind =>
        have hleft := untimed_leave hreader rest (max clock due) (max clock' due)
        rw [pollFrom_of_failure hdrain (isLate_none ..),
          pollFrom_of_failure hdrain' (isLate_none ..)]
        exact ⟨rfl, congrArg (fun r : Reader => { r with errored := true }) hleft⟩
      | data due bytes =>
        rw [pollFrom_of_data hdrain (isLate_none ..),
          pollFrom_of_data hdrain' (isLate_none ..)]
        refine ih ?_ _ _
        exact congrArg (fun r : Reader =>
          { r with buffer := r.buffer ++ bytes, eof := false, readable := true }) hreader

/-! ## Polls that are cut off -/

/-- What a poll comes to if it goes on without a deadline after it has been cut off. -/
def finish (want : Want) : Polled × Reader → Polled × Reader
  | (.late, after) => after.untimed.poll want
  | result => result

/-- Only a poll can be late. -/
theorem drain_ne_late (want : Want) (reader : Reader) :
    (reader.drain want).1 ≠ some .late := by
  have hdrainage := drainage_drain want reader
  intro hlate
  generalize reader.drain want = drained at hdrainage hlate
  cases hdrainage <;> simp at hlate

theorem finish_of_ne_late {result : Polled × Reader} (h : result.1 ≠ .late) :
    finish want result = result := by
  obtain ⟨polled, after⟩ := result
  cases polled with
  | late => exact absurd rfl h
  | _ => rfl

/-- What the buffer has yielded stands, whatever the deadline. -/
theorem finish_of_drain {reader after after' : Reader} {polled : Polled}
    (h : reader.drain want = (some polled, after)) :
    finish want (polled, after') = (polled, after') := by
  refine finish_of_ne_late fun hlate => drain_ne_late want reader ?_
  rw [h]
  exact congrArg some hlate

/-- A poll reads the arrivals that it is given, whatever its reader is left with. -/
theorem pollFrom_leave (want : Want) (deadline : Option Nat) (arrivals left : List Arrival)
    (clock time : Nat) (reader : Reader) :
    pollFrom want deadline arrivals clock (reader.leave left time) =
      pollFrom want deadline arrivals clock reader := by
  induction arrivals generalizing clock reader with
  | nil =>
    have hleave := drain_leave want reader left time
    cases hdrain : reader.drain want with
    | mk polled after =>
    rw [hdrain] at hleave
    cases polled with
    | some polled =>
      rw [pollFrom_of_yield hleave, pollFrom_of_yield hdrain]
      rfl
    | none =>
      rw [pollFrom_nil hleave, pollFrom_nil hdrain]
      rfl
  | cons arrival rest ih =>
    have hleave := drain_leave want reader left time
    cases hdrain : reader.drain want with
    | mk polled after =>
    rw [hdrain] at hleave
    cases polled with
    | some polled =>
      rw [pollFrom_of_yield hleave, pollFrom_of_yield hdrain]
      rfl
    | none =>
      cases hlate : isLate deadline clock arrival.due with
      | true =>
        rw [pollFrom_of_late hleave hlate, pollFrom_of_late hdrain hlate]
        rfl
      | false =>
        cases arrival with
        | failure due kind =>
          rw [pollFrom_of_failure hleave hlate, pollFrom_of_failure hdrain hlate]
          rfl
        | data due bytes =>
          rw [pollFrom_of_data hleave hlate, pollFrom_of_data hdrain hlate]
          exact ih (max clock due)
            { after with buffer := after.buffer ++ bytes, eof := false, readable := true }

theorem pollFrom_of_drained {after : Reader} (h : a.drain want = (none, after))
    (deadline : Option Nat) (arrivals : List Arrival) (clock : Nat) :
    pollFrom want deadline arrivals clock after = pollFrom want deadline arrivals clock a := by
  cases arrivals <;> simp [pollFrom, h, drain_of_drained h]

/-- Going on from where a poll has been cut off finds the buffer as it was left. -/
theorem same_finish_late {a' : Reader} (h : a'.untimed = c.untimed)
    (hdrain : b.drain want = (none, c)) (arrivals : List Arrival) (clock clock' : Nat) :
    Same (finish want (.late, a'.leave arrivals clock))
      (pollFrom want none arrivals clock' b) := by
  rw [← pollFrom_of_drained hdrain, ← pollFrom_leave want none arrivals arrivals clock' clock c]
  refine same_pollFrom ?_ want arrivals 0 clock'
  exact untimed_leave h arrivals clock clock

/-- At the end of a source, a deadline makes no difference, or nothing more ever comes. -/
theorem pollEnd_cases (want : Want) (deadline : Option Nat) (clock : Nat) (reader : Reader) :
    reader.pollEnd want deadline clock = reader.pollEnd want none clock ∨
      ∃ limit, deadline = some limit ∧ reader.source.ending = .silent ∧
        reader.pollEnd want deadline clock = (.late, reader.leave [] limit) := by
  cases deadline with
  | none => exact .inl rfl
  | some limit =>
    unfold pollEnd
    cases reader.source.ending with
    | closed => exact .inl rfl
    | silent => exact .inr ⟨limit, rfl, rfl, rfl⟩

theorem pollEnd_none_ne_late (want : Want) (clock : Nat) (reader : Reader) :
    (reader.pollEnd want none clock).1 ≠ .late := by
  rw [pollEnd_none]
  split
  · simp
  · have hdrained :=
      drain_ne_late want { reader.leave [] clock with eof := true, readable := true }
    generalize drain want { reader.leave [] clock with eof := true, readable := true } = drained
      at hdrained
    obtain ⟨polled, after⟩ := drained
    cases polled with
    | none => simp
    | some polled => simpa using hdrained

/-- **A poll that its deadline cuts off, and then goes on without one, comes to what it would have
come to without a deadline from the start.** -/
theorem same_pollFrom_finish (h : a.untimed = b.untimed) (want : Want) (deadline : Option Nat)
    (arrivals : List Arrival) (clock clock' : Nat) :
    Same (finish want (pollFrom want deadline arrivals clock a))
      (pollFrom want none arrivals clock' b) := by
  induction arrivals generalizing a b clock clock' with
  | nil =>
    obtain ⟨polled, after, after', hdrain, hdrain', hreader⟩ := same_drain h want
    cases polled with
    | some polled =>
      rw [pollFrom_of_yield hdrain, pollFrom_of_yield hdrain', finish_of_drain hdrain]
      exact ⟨rfl, untimed_leave hreader [] clock clock'⟩
    | none =>
      rw [pollFrom_nil hdrain]
      rcases pollEnd_cases want deadline clock after with hend | ⟨limit, -, -, hend⟩
      · rw [hend, finish_of_ne_late (pollEnd_none_ne_late want clock after), pollFrom_nil hdrain']
        exact same_pollEnd hreader want clock clock'
      · rw [hend]
        exact same_finish_late hreader hdrain' [] limit clock'
  | cons arrival rest ih =>
    obtain ⟨polled, after, after', hdrain, hdrain', hreader⟩ := same_drain h want
    cases polled with
    | some polled =>
      rw [pollFrom_of_yield hdrain, pollFrom_of_yield hdrain', finish_of_drain hdrain]
      exact ⟨rfl, untimed_leave hreader _ clock clock'⟩
    | none =>
      cases hlate : isLate deadline clock arrival.due with
      | true =>
        rw [pollFrom_of_late hdrain hlate]
        exact same_finish_late hreader hdrain' _ _ clock'
      | false =>
        cases arrival with
        | failure due kind =>
          have hleft := untimed_leave hreader rest (max clock due) (max clock' due)
          rw [pollFrom_of_failure hdrain hlate,
            pollFrom_of_failure hdrain' (isLate_none ..)]
          exact ⟨rfl, congrArg (fun r : Reader => { r with errored := true }) hleft⟩
        | data due bytes =>
          rw [pollFrom_of_data hdrain hlate, pollFrom_of_data hdrain' (isLate_none ..)]
          refine ih ?_ _ _
          exact congrArg (fun r : Reader =>
            { r with buffer := r.buffer ++ bytes, eof := false, readable := true }) hreader

/-! ## Calls that are made again -/

variable {reader after : Reader} {request : Request}

theorem conclude_late (request : Request) (usual : Option Nat) (after : Reader) :
    conclude request usual (.late, after) =
      (.error (.timeout (after.limits.readTimeout.getD default)), after.setCap usual) := rfl

/-- A call that differs from another one only by the time gives the same, unless both are late. -/
theorem same_conclude {poll poll' : Polled × Reader} (h : Same poll poll') (usual : Option Nat)
    (hlate : poll.1 = .late → poll.2.limits.readTimeout = poll'.2.limits.readTimeout) :
    Same (conclude request usual poll) (conclude request usual poll') := by
  obtain ⟨polled, after⟩ := poll
  obtain ⟨polled', after'⟩ := poll'
  obtain rfl : polled = polled' := h.outcome
  have hreader : after.untimed = after'.untimed := h.reader
  have hset : (after.setCap usual).untimed = (after'.setCap usual).untimed :=
    congrArg (setCap usual) hreader
  cases polled with
  | item bytes =>
    refine ⟨rfl, ?_⟩
    exact congrArg (fun r : Reader => { r with
      codec := { r.codec with cap := usual }
      bytesRead := r.bytesRead + (request.made bytes).size }) hreader
  | failed error => exact ⟨rfl, hset⟩
  | ended => exact ⟨rfl, hset⟩
  | late =>
    refine ⟨?_, hset⟩
    simp only [conclude_late]
    rw [hlate rfl]

theorem poll_of_no_timeout (h : reader.limits.readTimeout = none) (want : Want) :
    reader.poll want =
      pollFrom want none reader.source.arrivals reader.source.clock reader := by
  rw [poll, h]
  rfl

theorem same_poll (h : a.untimed = b.untimed) (ha : a.limits.readTimeout = none)
    (hb : b.limits.readTimeout = none) (want : Want) : Same (a.poll want) (b.poll want) := by
  have harrivals : a.untimed.source.arrivals = b.untimed.source.arrivals := by rw [h]
  rw [poll_of_no_timeout ha, poll_of_no_timeout hb,
    show a.source.arrivals = b.source.arrivals from harrivals]
  exact same_pollFrom h want _ _ _

/-- **A poll gives what it gives without a deadline, or it is late**, and then it gives that if it
goes on without one. -/
theorem same_finish_poll (want : Want) (reader : Reader) :
    Same (finish want (reader.poll want)) (reader.untimed.poll want) :=
  same_pollFrom_finish (a := reader) (b := reader.untimed) rfl want _ _ _ _

theorem settled_untimed (h : Settled reader) : Settled reader.untimed := h

/-- Two readers without a deadline give the same if they differ only by the time. -/
theorem same_call (h : a.untimed = b.untimed) (ha : a.limits.readTimeout = none)
    (hb : b.limits.readTimeout = none) (hsettled : Settled a) (request : Request) :
    Same (a.call request) (b.call request) := by
  have hsettled' : Settled b.untimed := by rwa [← h]
  have hmax : a.untimed.limits.maxFrameBytes = b.untimed.limits.maxFrameBytes := by rw [h]
  rw [call_eq hsettled, call_eq (show Settled b from hsettled'),
    show a.limits.maxFrameBytes = b.limits.maxFrameBytes from hmax]
  have hprepared : (a.setCap (request.cap b.limits.maxFrameBytes)).untimed =
      (b.setCap (request.cap b.limits.maxFrameBytes)).untimed :=
    congrArg (setCap (request.cap b.limits.maxFrameBytes)) h
  refine same_conclude (same_poll hprepared ha hb request.want) _ fun _ => ?_
  rw [(spares_poll request.want _).limits, (spares_poll request.want _).limits]
  exact ha.trans hb.symm

theorem Ready.wait (h : Ready reader) (pause : Nat) : Ready (reader.wait pause) :=
  ⟨h.settled, h.sound.notes, h.sound.atEnd⟩

/-- **A call that is late leaves what it would have given to the next one**, and any other call
gives it. -/
theorem same_call_or_late (h : Ready reader) (request : Request) :
    (∃ timeout, (reader.call request).1 = .error (.timeout timeout) ∧
        Same ((reader.call request).2.untimed.call request) (reader.untimed.call request)) ∨
      (∀ timeout, (reader.call request).1 ≠ .error (.timeout timeout)) ∧
        Same (reader.call request) (reader.untimed.call request) := by
  obtain ⟨⟨polled, after⟩, hpoll, hcall, hcourse⟩ := h.course request
  have hfinish := same_finish_poll request.want (reader.prepared request reader.limits)
  have hspares := spares_poll request.want (reader.prepared request reader.limits)
  have hready := h.call request
  rw [hpoll] at hfinish hspares
  rw [hcall] at hready
  rw [hcall, call_eq (settled_untimed h.settled)]
  cases polled with
  | late =>
    have hcap : after.untimed.codec.cap = request.cap reader.limits.maxFrameBytes := hspares.cap
    have husual : after.limits.maxFrameBytes = reader.limits.maxFrameBytes :=
      congrArg Limits.maxFrameBytes hspares.limits
    have hsettled : Settled (after.setCap reader.limits.maxFrameBytes).untimed := hready.settled
    have hagain : (after.setCap reader.limits.maxFrameBytes).untimed.call request =
        conclude request reader.limits.maxFrameBytes (after.untimed.poll request.want) := by
      have hmax : (after.setCap reader.limits.maxFrameBytes).untimed.limits.maxFrameBytes =
          reader.limits.maxFrameBytes := husual
      have hset : (after.setCap reader.limits.maxFrameBytes).untimed.setCap
          (request.cap reader.limits.maxFrameBytes) = after.untimed := setCap_self hcap
      rw [call_eq hsettled, hmax, hset]
    refine .inl ⟨_, rfl, ?_⟩
    show Same ((after.setCap reader.limits.maxFrameBytes).untimed.call request) _
    rw [hagain]
    refine same_conclude hfinish _ fun _ => ?_
    have hnone : (after.untimed.poll request.want).2.limits.readTimeout = none :=
      congrArg Limits.readTimeout (spares_poll request.want after.untimed).limits
    rw [(spares_poll request.want _).limits]
    exact hnone
  | item bytes =>
    exact .inr ⟨fun timeout htimeout => by (cases htimeout), same_conclude hfinish _ fun hlate => by
      cases hlate⟩
  | ended =>
    exact .inr ⟨fun timeout htimeout => by (cases htimeout), same_conclude hfinish _ fun hlate => by
      cases hlate⟩
  | failed error =>
    refine .inr ⟨fun timeout htimeout => ?_, same_conclude hfinish _ fun hlate => by cases hlate⟩
    obtain rfl : error = .timeout timeout := Except.error.inj htimeout
    exact hcourse.kind_ne_timeout (h.prepared request reader.limits) rfl

theorem insist_of_late {pause : Nat} {timeout : Duration} {pauses : List Nat}
    (h : ((reader.wait pause).call request).1 = .error (.timeout timeout)) :
    insist request (pause :: pauses) reader =
      insist request pauses ((reader.wait pause).call request).2 := by
  rw [insist]
  generalize (reader.wait pause).call request = called at h
  obtain ⟨outcome, after⟩ := called
  obtain rfl : outcome = .error (.timeout timeout) := h
  rfl

theorem insist_of_not_late {pause : Nat}
    (h : ∀ timeout, ((reader.wait pause).call request).1 ≠ .error (.timeout timeout))
    (pauses : List Nat) :
    insist request (pause :: pauses) reader = some ((reader.wait pause).call request) := by
  rw [insist]
  split
  · rename_i timeout after hcall
    exact absurd (congrArg Prod.fst hcall) (h timeout)
  · rfl

/-- What no pause and no attempt changes, all attempts together leave. -/
theorem insist_invariant (holds : Reader → Prop)
    (hwait : ∀ reader pause, holds reader → holds (reader.wait pause))
    (hcall : ∀ reader, holds reader → holds (reader.call request).2) (h : holds reader)
    {pauses : List Nat} {result : Except BridgeError Item × Reader}
    (hinsist : insist request pauses reader = some result) : holds result.2 := by
  induction pauses generalizing reader with
  | nil => cases hinsist
  | cons pause pauses ih =>
    have hattempt := hcall _ (hwait reader pause h)
    rw [insist] at hinsist
    split at hinsist
    · rename_i timeout after hlate
      rw [hlate] at hattempt
      exact ih hattempt hinsist
    · rw [← Option.some.inj hinsist]
      exact hattempt

/-- **A call that is made until it is not late gives what it gives without a deadline.** -/
theorem same_insist (h : Ready reader) {pauses : List Nat}
    {result : Except BridgeError Item × Reader}
    (hinsist : insist request pauses reader = some result) :
    Same result (reader.untimed.call request) := by
  induction pauses generalizing reader with
  | nil => cases hinsist
  | cons pause pauses ih =>
    rcases same_call_or_late (h.wait pause) request with ⟨timeout, hlate, hsame⟩ | ⟨hlate, hsame⟩
    · rw [insist_of_late hlate] at hinsist
      exact (ih ((h.wait pause).call request) hinsist).trans hsame
    · rw [insist_of_not_late hlate] at hinsist
      rw [← Option.some.inj hinsist]
      exact hsame

/-- So do all calls. -/
theorem same_insistAll {patient : Reader} (h : Ready reader) (hpatient : Settled patient)
    (hnone : patient.limits.readTimeout = none) (hsame : reader.untimed = patient.untimed)
    {plan : List (Request × List Nat)} {entries : List Entry}
    (hinsist : insistAll plan reader = some (entries, after)) :
    entries = patient.log (plan.map Prod.fst) ∧
      after.bytesRead = (patient.afterCalls (plan.map Prod.fst)).bytesRead := by
  induction plan generalizing reader patient entries with
  | nil =>
    cases hinsist
    have hcounted : after.untimed.bytesRead = patient.untimed.bytesRead := by rw [hsame]
    exact ⟨rfl, hcounted⟩
  | cons step plan ih =>
    obtain ⟨request, pauses⟩ := step
    simp only [insistAll, Option.bind_eq_bind, Option.bind_eq_some_iff, Prod.exists,
      Option.some.injEq, Prod.mk.injEq] at hinsist
    obtain ⟨outcome, middle, hfirst, rest, last, hrest, rfl, rfl⟩ := hinsist
    have hready : Ready middle := insist_invariant Ready (fun _ pause hr => hr.wait pause)
      (fun _ hr => hr.call request) h hfirst
    have hgiven := same_insist h hfirst
    have hcounts := counts_call patient request
    have hpatiently : Same (patient.call request) (reader.untimed.call request) :=
      same_call (b := reader.untimed) hsame.symm hnone rfl hpatient request
    have hstep := hgiven.trans hpatiently.symm
    have hmiddle : middle.untimed = (patient.call request).2.untimed := hstep.reader
    have hcounted : middle.untimed.bytesRead = (patient.call request).2.untimed.bytesRead := by
      rw [hmiddle]
    have hlimits : (patient.call request).2.limits.readTimeout = none := by
      rw [hcounts.limits, hnone]
    obtain ⟨hentries, hafter⟩ := ih hready (hcounts.settled hpatient) hlimits hmiddle hrest
    refine ⟨?_, hafter⟩
    have hentry : (⟨request, outcome, middle.bytesRead⟩ : Entry) =
        ⟨request, (patient.call request).1, (patient.call request).2.bytesRead⟩ := by
      rw [show outcome = _ from hstep.outcome, show middle.bytesRead = _ from hcounted]
      rfl
    rw [hentries, hentry]
    rfl

/-! ## How often a call can be late -/

/-- The source ends, and everything in it is due by then. -/
structure EndsBy (last : Nat) (reader : Reader) : Prop where
  ending : reader.source.ending = .closed
  due : ∀ arrival ∈ reader.source.arrivals, arrival.due ≤ last

/-- A poll that is late has waited until its deadline, and something comes behind that. -/
theorem late_pollFrom {deadline : Option Nat} {arrivals : List Arrival} {clock : Nat}
    (hclosed : reader.source.ending = .closed)
    (h : pollFrom want deadline arrivals clock reader = (.late, after)) :
    ∃ limit, deadline = some limit ∧ after.source.clock = limit ∧
      ∃ arrival ∈ arrivals, limit < arrival.due := by
  induction arrivals generalizing clock reader with
  | nil =>
    cases hdrain : reader.drain want with
    | mk polled middle =>
    have hnever := drain_ne_late want reader
    rw [hdrain] at hnever
    cases polled with
    | some polled =>
      rw [pollFrom_of_yield hdrain] at h
      cases h
      exact absurd rfl hnever
    | none =>
      have hending : middle.source.ending = .closed := by rw [source_of_drain hdrain, hclosed]
      have hended : middle.pollEnd want deadline clock = middle.pollEnd want none clock := by
        simp [pollEnd, hending]
      have hlate := pollEnd_none_ne_late want clock middle
      rw [← hended, ← pollFrom_nil hdrain, h] at hlate
      exact absurd rfl hlate
  | cons arrival rest ih =>
    cases hdrain : reader.drain want with
    | mk polled middle =>
    have hnever := drain_ne_late want reader
    rw [hdrain] at hnever
    cases polled with
    | some polled =>
      rw [pollFrom_of_yield hdrain] at h
      cases h
      exact absurd rfl hnever
    | none =>
      cases hlate : isLate deadline clock arrival.due with
      | true =>
        rw [pollFrom_of_late hdrain hlate] at h
        cases h
        cases deadline with
        | none => cases hlate
        | some limit =>
          simp only [isLate, Bool.and_eq_true, decide_eq_true_eq] at hlate
          exact ⟨limit, rfl, rfl, arrival, List.mem_cons_self, hlate.2⟩
      | false =>
        cases arrival with
        | failure due kind =>
          rw [pollFrom_of_failure hdrain hlate] at h
          cases h
        | data due bytes =>
          rw [pollFrom_of_data hdrain hlate] at h
          have hending : ({ middle with
              buffer := middle.buffer ++ bytes, eof := false, readable := true } :
              Reader).source.ending = .closed := by rw [source_of_drain hdrain, hclosed]
          obtain ⟨limit, hdeadline, hclock, arrival, hmem, hdue⟩ := ih hending h
          exact ⟨limit, hdeadline, hclock, arrival, List.mem_cons_of_mem _ hmem, hdue⟩

theorem EndsBy.wait {last : Nat} (h : EndsBy last reader) (pause : Nat) :
    EndsBy last (reader.wait pause) := ⟨h.ending, h.due⟩

/-- Nothing that has arrived arrives again. -/
theorem Course.arrivals {before : Reader} {polled : Polled}
    (h : Course want before (polled, after)) :
    after.source.arrivals <:+ before.source.arrivals := by
  cases h with
  | owed _ hleaves => simp [hleaves.arrivals]
  | finished _ _ _ hleaves => simp [hleaves.arrivals]
  | item _ harrivals _ hleaves => simp [hleaves.arrivals, harrivals]
  | refused _ harrivals _ hleaves => simp [hleaves.arrivals, harrivals]
  | cut _ _ _ _ hleaves => simp [hleaves.arrivals]
  | clean _ _ _ _ hleaves => simp [hleaves.arrivals]
  | late _ harrivals _ hleaves => simp [hleaves.arrivals, harrivals]
  | broken _ harrivals _ hleaves =>
    rw [hleaves.arrivals, harrivals]
    exact (List.suffix_cons _ _).trans (List.suffix_append _ _)

/-- What a call leaves of its poll, whatever it makes of it. -/
theorem source_conclude (request : Request) (usual : Option Nat) (poll : Polled × Reader) :
    (conclude request usual poll).2.source = poll.2.source := by
  obtain ⟨polled, after⟩ := poll
  cases polled <;> rfl

theorem EndsBy.call {last : Nat} (h : EndsBy last reader) (hready : Ready reader)
    (request : Request) : EndsBy last (reader.call request).2 := by
  obtain ⟨⟨polled, after⟩, -, hcall, hcourse⟩ := hready.course request
  obtain ⟨codec, buffer, rest, hleaves⟩ := hcourse.leaves
  have hending : after.source.ending = .closed := hleaves.ending.trans h.ending
  have hsource : (reader.call request).2.source = after.source := by
    rw [hcall, source_conclude]
  refine ⟨by rwa [hsource], fun arrival hmem => h.due arrival ?_⟩
  rw [hsource] at hmem
  exact hcourse.arrivals.mem hmem

/-- A call that is late has taken its time, and something is due behind that. -/
theorem clock_of_late {last : Nat} (h : EndsBy last reader) (hready : Ready reader)
    {timeout : Duration} (hlate : (reader.call request).1 = .error (.timeout timeout)) :
    ∃ limit, reader.limits.readTimeout = some limit ∧
      (reader.call request).2.source.clock = reader.source.clock + limit.nanos ∧
        reader.source.clock + limit.nanos < last := by
  obtain ⟨⟨polled, after⟩, hpoll, hcall, hcourse⟩ := hready.course request
  rw [hcall] at hlate
  rw [hcall, source_conclude]
  cases polled with
  | item bytes => cases hlate
  | ended => cases hlate
  | failed error =>
    obtain rfl : error = .timeout timeout := Except.error.inj hlate
    exact absurd rfl (hcourse.kind_ne_timeout (hready.prepared request reader.limits))
  | late =>
    have hclosed : (reader.prepared request reader.limits).source.ending = .closed := h.ending
    obtain ⟨deadline, hdeadline, hclock, arrival, hmem, hdue⟩ := late_pollFrom hclosed hpoll
    obtain ⟨limit, hlimit, rfl⟩ := Option.map_eq_some_iff.1 hdeadline
    exact ⟨limit, hlimit, hclock, Nat.lt_of_lt_of_le hdue (h.due arrival hmem)⟩

/-- Each attempt that is late takes its time, so that not all of them can be. -/
theorem isSome_insist {last : Nat} {pauses : List Nat} (h : EndsBy last reader)
    (hready : Ready reader) (hpauses : pauses ≠ [])
    (henough : ∀ timeout ∈ reader.limits.readTimeout,
      last < reader.source.clock + timeout.nanos * pauses.length) :
    (insist request pauses reader).isSome := by
  induction pauses generalizing reader with
  | nil => exact absurd rfl hpauses
  | cons pause pauses ih =>
    rcases same_call_or_late (hready.wait pause) request with ⟨timeout, hlate, -⟩ | ⟨hlate, -⟩
    · obtain ⟨limit, hlimit, hclock, hdue⟩ := clock_of_late (h.wait pause) (hready.wait pause) hlate
      have hlast := henough limit hlimit
      have hnext := (counts_call (reader.wait pause) request).limits
      rw [insist_of_late hlate]
      have hpassed : reader.source.clock + pause = (reader.wait pause).source.clock := rfl
      have hlength : limit.nanos * (pause :: pauses).length =
          limit.nanos * pauses.length + limit.nanos := Nat.mul_succ _ _
      refine ih ((h.wait pause).call (hready.wait pause) request) ((hready.wait pause).call request)
        ?_ ?_
      · rintro rfl
        rw [List.length_nil] at hlength
        omega
      · intro timeout htimeout
        rw [hnext, show (reader.wait pause).limits.readTimeout = some limit from hlimit,
          Option.mem_some_iff] at htimeout
        subst htimeout
        rw [hclock]
        omega
    · rw [insist_of_not_late hlate]
      rfl

theorem isSome_insistAll {last : Nat} (h : EndsBy last reader) (hready : Ready reader)
    {plan : List (Request × List Nat)}
    (henough : ∀ step ∈ plan, step.2 ≠ [] ∧
      ∀ timeout ∈ reader.limits.readTimeout, last < timeout.nanos * step.2.length) :
    (insistAll plan reader).isSome := by
  induction plan generalizing reader with
  | nil => rfl
  | cons step plan ih =>
    obtain ⟨request, pauses⟩ := step
    obtain ⟨hpauses, hfirst⟩ := henough _ List.mem_cons_self
    have hsome : (insist request pauses reader).isSome :=
      isSome_insist h hready hpauses fun timeout htimeout =>
        Nat.lt_of_lt_of_le (hfirst timeout htimeout) (Nat.le_add_left _ _)
    obtain ⟨⟨outcome, middle⟩, hinsist⟩ := Option.isSome_iff_exists.1 hsome
    obtain ⟨hends, hready', hlimits⟩ : EndsBy last middle ∧ Ready middle ∧
        middle.limits = reader.limits :=
      insist_invariant (fun r => EndsBy last r ∧ Ready r ∧ r.limits = reader.limits)
        (fun r pause hr => ⟨hr.1.wait pause, hr.2.1.wait pause, hr.2.2⟩)
        (fun r hr => ⟨hr.1.call hr.2.1 request, hr.2.1.call request,
          (counts_call r request).limits.trans hr.2.2⟩)
        ⟨h, hready, rfl⟩ hinsist
    have hlater : (insistAll plan middle).isSome := ih hends hready' fun later hmem => by
      rw [hlimits]
      exact henough later (List.mem_cons_of_mem _ hmem)
    obtain ⟨⟨entries, after⟩, hrest⟩ := Option.isSome_iff_exists.1 hlater
    simp [insistAll, hinsist, hrest]

/-- **Calls that are made again when they time out lose nothing.**  Whatever the source, the times
and the pauses, the answers that are no timeouts are those of a reader without a timeout, one by
one and with the same counts, also behind a call that fails.  And there are answers: if the source
ends, then no more attempts are needed for a call than timeouts fit into the time until then. -/
theorem insistAll_loses_nothing (limits : Limits) (source : Source)
    (plan : List (Request × List Nat)) :
    let reader := new limits source
    let patient := new { limits with readTimeout := none } source
    (∀ entries after, insistAll plan reader = some (entries, after) →
      entries = patient.log (plan.map Prod.fst) ∧
        after.bytesRead = (patient.afterCalls (plan.map Prod.fst)).bytesRead) ∧
      ∀ last, source.ending = .closed → (∀ arrival ∈ source.arrivals, arrival.due ≤ last) →
        (∀ step ∈ plan, step.2 ≠ [] ∧
          ∀ timeout ∈ limits.readTimeout, last < timeout.nanos * step.2.length) →
        (insistAll plan reader).isSome := by
  intro reader patient
  refine ⟨fun entries after hinsist => ?_, fun last hclosed hdue henough => ?_⟩
  · have hnone : patient.limits.readTimeout = none := rfl
    have hsame : reader.untimed = patient.untimed := rfl
    exact same_insistAll (ready_new limits source) (settled_new _ source) hnone hsame hinsist
  · exact isSome_insistAll ⟨hclosed, hdue⟩ (ready_new limits source) henough

/-- A reader that is late in a length, in a payload and in a word. -/
theorem insistAll_loses_nothing_late :
    let source : Source := .new [.data 10 [0, 0], .data 90 [0, 2, 7], .data 180 [8, 0, 0, 0],
      .data 290 [5]] .closed
    let plan := [(Request.frame, [0, 0, 0, 0, 0, 0]), (.word, [0, 30, 0, 0, 0, 0]),
      (.frameCapped none, [0, 0, 0, 0, 0, 0])]
    ((new ⟨some 2, some ⟨50⟩⟩ source).call .frame).1 = .error (.timeout ⟨50⟩) ∧
      ∃ entries after, insistAll plan (new ⟨some 2, some ⟨50⟩⟩ source) = some (entries, after) ∧
        entries = (new ⟨some 2, none⟩ source).log [.frame, .word, .frameCapped none] := by
  intro source plan
  have hloses := insistAll_loses_nothing ⟨some 2, some ⟨50⟩⟩ source plan
  have hsome := hloses.2 290 rfl (by decide) (by decide)
  obtain ⟨⟨entries, after⟩, hinsist⟩ := Option.isSome_iff_exists.1 hsome
  exact ⟨rfl, entries, after, hinsist, (hloses.1 entries after hinsist).1⟩

end Reader
end BatchBridge.Frame
