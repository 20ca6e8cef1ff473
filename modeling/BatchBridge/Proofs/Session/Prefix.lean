import BatchBridge.Proofs.Session.Acknowledgment
import BatchBridge.Proofs.Session.Record
import Mathlib.Logic.ExistsUnique

/-!
# Prefixes of an input

A session never looks beyond what it has to read.  If it does not end for want of bytes, then no
bytes that come later change anything about it; and if it does, then everything it has handed to its
sink would have been handed to it all the same.

* `Outcome.ofStreaming_append`, **`Outcome.ofInput_append`** — what is whole stays what it is.
* **`Outcome.exists_end_of_ofInput`** — what ends well does so at an empty frame.
* **`withoutAbort_prefix`** — what is cut off has got as far as it could.
* `Succeeds`, `Starves`, `Shortest` — what comes of all connections that end after some bytes.
* **`Session.prefix_law`** — all this of runs, and the shortest beginning of an input that succeeds.
-/

namespace BatchBridge

namespace Session

/-! ## What is whole -/

section Append

variable {World Stream : Type} {sink : StreamSink World Stream} {fault : Option WriteFault}

theorem Outcome.ofStreaming_append {cap : Option Nat} {schema : ColumnSchema}
    {method : Compression.Method} {forwarder : Forwarder Stream} {summary : Summary} {x : Bytes}
    {world : World} (y : Bytes)
    (hwhole : ¬(ofStreaming sink fault cap schema method forwarder summary x world).IsCut) :
    ofStreaming sink fault cap schema method forwarder summary (x ++ y) world =
      ofStreaming sink fault cap schema method forwarder summary x world := by
  induction hlength : x.length using Nat.strongRecOn generalizing x forwarder summary world with
  | ind n ih =>
    subst hlength
    cases next_cases sink cap schema method forwarder x world with
    | brokenOff hread =>
      rw [ofStreaming_of_error hread] at hwhole ⊢
      have hcut := fun hcut => hwhole (isCut_failure_iff.2 hcut)
      rw [ofStreaming_of_error (Frame.read_append_of_error hread hcut y)]
    | ended hread =>
      have hmore := Frame.read_append_of_ok hread y
      rw [ofStreaming_of_empty hread, ofStreaming_of_empty hmore]
    | undecodable hread hne hbatch =>
      have hmore := Frame.read_append_of_ok hread y
      rw [ofStreaming_of_undecodable hread hne hbatch, ofStreaming_of_undecodable hmore hne hbatch]
    | lost hread hne hbatch =>
      have hmore := Frame.read_append_of_ok hread y
      rw [ofStreaming_of_lost hread hne hbatch, ofStreaming_of_lost hmore hne hbatch]
    | notWritten hread hne hbatch hwrite =>
      have hmore := Frame.read_append_of_ok hread y
      rw [ofStreaming_of_notWritten hread hne hbatch hwrite,
        ofStreaming_of_notWritten hmore hne hbatch hwrite]
    | written hread hne hbatch hwrite =>
      have hmore := Frame.read_append_of_ok hread y
      rw [ofStreaming_of_written hread hne hbatch hwrite] at hwhole ⊢
      rw [ofStreaming_of_written hmore hne hbatch hwrite]
      exact ih _ (Frame.length_lt_of_read hread) hwhole rfl

/-- **Bytes that come later do not matter** to an input that is not cut off. -/
theorem Outcome.ofInput_append {options : SessionOptions} {x : Bytes} {world : World} (y : Bytes)
    (hwhole : ¬(ofInput sink fault options x world).IsCut) :
    ofInput sink fault options (x ++ y) world = ofInput sink fault options x world := by
  have hstable := Preamble.stable_read options
  rw [ofInput] at hwhole ⊢
  rw [ofInput]
  cases hread : Preamble.read options x with
  | error refusal =>
    rw [hread] at hwhole
    have hcut : ¬refusal.error.IsCut := fun hcut => hwhole (isCut_ofRefusal hcut world)
    rw [hstable.error hread hcut y]
  | ok taken =>
    obtain ⟨preamble, body⟩ := taken
    rw [hread] at hwhole
    rw [hstable.ok hread y]
    rw [ofReading, ofOpening] at hwhole ⊢
    rw [ofReading, ofOpening]
    generalize Forwarder.openStream sink preamble.queryId preamble.schema.fields world = opened
      at hwhole
    obtain ⟨result, world'⟩ := opened
    cases result with
    | error error => rfl
    | ok forwarder => exact ofStreaming_append y hwhole

/-! ## What is a success -/

theorem Outcome.ofRefusal_ne_ok {refusal : Refusal} {world : World} {summary : Summary} :
    (ofRefusal fault refusal world).result ≠ some (.ok summary) := by
  by_cases hkind : refusal.error.kind = .unauthorized
  · simp only [ofRefusal, if_pos hkind]
    intro hok
    cases fault <;> cases hok
  · rw [ofRefusal_of_ne hkind]
    intro hok
    cases hok

/-- A stream that ends well has come to an empty frame, and might have been over there. -/
theorem Outcome.exists_end_of_ofStreaming {cap : Option Nat} {schema : ColumnSchema}
    {method : Compression.Method} {forwarder : Forwarder Stream} {summary total : Summary}
    {body : Bytes} {world : World}
    (hok : (ofStreaming sink fault cap schema method forwarder summary body world).result =
      some (.ok total)) :
    ∃ front rest, body = front ++ (Frame.bytes [] ++ rest) ∧
      ofStreaming sink fault cap schema method forwarder summary (front ++ Frame.bytes []) world =
        ofStreaming sink fault cap schema method forwarder summary body world := by
  induction hlength : body.length using Nat.strongRecOn
    generalizing body forwarder summary world with
  | ind n ih =>
    subst hlength
    cases next_cases sink cap schema method forwarder body world with
    | brokenOff hread =>
      rw [ofStreaming_of_error hread] at hok
      cases hok
    | @ended rest hread =>
      obtain ⟨hbody, -⟩ := Frame.read_frame_eq_ok_iff.1 hread
      have hlast : Frame.read cap .frame (Frame.bytes []) = .ok ([], []) :=
        Frame.read_bytes_nil cap []
      refine ⟨[], rest, hbody, ?_⟩
      rw [ofStreaming_of_empty hread, List.nil_append, ofStreaming_of_empty hlast]
    | undecodable hread hne hbatch =>
      rw [ofStreaming_of_undecodable hread hne hbatch] at hok
      cases hok
    | lost hread hne hbatch =>
      rw [ofStreaming_of_lost hread hne hbatch] at hok
      cases hok
    | notWritten hread hne hbatch hwrite =>
      rw [ofStreaming_of_notWritten hread hne hbatch hwrite] at hok
      cases hok
    | @written frame _ _ _ _ _ hread hne hbatch hwrite =>
      rw [ofStreaming_of_written hread hne hbatch hwrite] at hok ⊢
      obtain ⟨front, rest, rfl, hsame⟩ := ih _ (Frame.length_lt_of_read hread) hok rfl
      obtain ⟨rfl, hfits⟩ := Frame.read_frame_eq_ok_iff.1 hread
      refine ⟨Frame.bytes frame ++ front, rest, (List.append_assoc ..).symm, ?_⟩
      have hfirst := Frame.read_bytes hfits (front ++ Frame.bytes [])
      rw [List.append_assoc, ofStreaming_of_written hfirst hne hbatch hwrite, hsame]

/-- **What ends well has come to an empty frame**, and might have been over there. -/
theorem Outcome.exists_end_of_ofInput {options : SessionOptions} {input : Bytes} {world : World}
    {total : Summary} (hok : (ofInput sink fault options input world).result = some (.ok total)) :
    ∃ front rest, input = front ++ Frame.bytes [] ++ rest ∧
      ofInput sink fault options (front ++ Frame.bytes []) world =
        ofInput sink fault options input world := by
  rw [ofInput] at hok ⊢
  cases hread : Preamble.read options input with
  | error refusal =>
    rw [hread] at hok
    exact absurd hok ofRefusal_ne_ok
  | ok taken =>
    obtain ⟨preamble, body⟩ := taken
    rw [hread] at hok
    obtain ⟨before, rfl, hbefore⟩ := (Preamble.read_eq_ok_iff.1 hread).exists_front
    rw [ofReading, ofOpening] at hok ⊢
    cases hopen : Forwarder.openStream sink preamble.queryId preamble.schema.fields world with
    | mk result world' =>
      rw [hopen] at hok
      cases result with
      | error error => cases hok
      | ok forwarder =>
        obtain ⟨front, rest, rfl, hsame⟩ := exists_end_of_ofStreaming hok
        refine ⟨before ++ front, rest, by simp only [List.append_assoc], ?_⟩
        have hread' := Preamble.read_eq_ok_iff.2 (hbefore (front ++ Frame.bytes []))
        rw [List.append_assoc, ofInput, hread', ofReading, ofOpening, hopen]
        exact hsame

end Append

/-! ## What is cut off -/

/-- A log without the abort at its end. -/
def withoutAbort (events : List SinkEvent) : List SinkEvent :=
  match events.getLast? with
  | some (.aborted _) => events.dropLast
  | _ => events

theorem withoutAbort_aborted (events : List SinkEvent) (id : String) :
    withoutAbort (events ++ [.aborted id]) = events := by
  rw [withoutAbort, List.getLast?_concat]
  exact List.dropLast_concat

/-- A stream only ever adds to the log. -/
theorem events_prefix_ofStreaming {intake : Intake} {fault : Option WriteFault} {k : Nat}
    {id : String} {forwarder : Forwarder MemoryStream} (hwrites : forwarder.Writes id k) (summary : Summary)
    {sink : MemorySink} (hinto : intake.Into sink) (body : Bytes) :
    sink.events <+: (Outcome.ofStreaming memorySink fault intake.cap intake.schema intake.method
      forwarder summary body sink).world.events := by
  obtain ⟨batches, tail, htakes, hstuck⟩ := intake.exists_takes k body
  obtain ⟨forwarder', summary', hstream, hwrites', -⟩ :=
    Intake.ofStreaming_of_takes htakes fault hwrites summary hinto
  have hinto' : intake.Into { sink with events := sink.events ++ batches.map (.written id) } :=
    hinto
  obtain ⟨last, -, hevents⟩ :=
    events_of_ending hwrites' (hstuck.ending fault hwrites' summary' hinto')
  rw [hstream, hevents, List.append_assoc]
  exact List.prefix_append ..

theorem not_isCut_ofClosing {fault : Option WriteFault} {forwarder : Forwarder MemoryStream}
    {id : String} {writes : Nat} (hwrites : forwarder.Writes id writes) (summary : Summary)
    (sink : MemorySink) : ¬(Outcome.ofClosing memorySink fault forwarder summary sink).IsCut := by
  have hclosed := Forwarder.close_memory hwrites sink
  rw [Outcome.ofClosing]
  generalize forwarder.close memorySink sink = called at hclosed
  rintro ⟨error, hresult, hcut⟩
  cases hclosed with
  | rejected _ =>
    cases hresult
    cases hcut
  | committed _ =>
    cases fault with
    | none => cases hresult
    | some kind =>
      cases hresult
      cases hcut

/-- A stream whose input has been cut off is aborted. -/
theorem events_of_isCut {intake : Intake} {fault : Option WriteFault}
    {forwarder : Forwarder MemoryStream} {id : String} {writes : Nat} {summary : Summary}
    {tail : Bytes} {sink : MemorySink} {outcome : Outcome MemorySink}
    (hwrites : forwarder.Writes id writes)
    (h : Intake.Ending intake fault forwarder id summary tail sink outcome)
    (hcut : outcome.IsCut) : outcome.world.events = sink.events ++ [.aborted id] := by
  cases h with
  | closed _ => exact absurd hcut (not_isCut_ofClosing hwrites summary sink)
  | lost _ =>
    obtain ⟨error, hresult, -⟩ := hcut
    cases hresult
  | aborted _ _ hwrites' =>
    rw [Outcome.ofAborting, Forwarder.abort_memory hwrites']
    rfl

theorem withoutAbort_of_stuck {intake : Intake} {fault : Option WriteFault} {k : Nat} {id : String}
    {forwarder : Forwarder MemoryStream} {summary : Summary} {tail : Bytes} {sink : MemorySink}
    (hstuck : intake.Stuck k tail) (hwrites : forwarder.Writes id k) (hinto : intake.Into sink)
    (hcut : (Outcome.ofStreaming memorySink fault intake.cap intake.schema intake.method forwarder
      summary tail sink).IsCut) :
    withoutAbort (Outcome.ofStreaming memorySink fault intake.cap intake.schema intake.method
      forwarder summary tail sink).world.events = sink.events := by
  rw [events_of_isCut hwrites (hstuck.ending fault hwrites summary hinto) hcut,
    withoutAbort_aborted]

/-- **What a session has handed to its sink before its input was cut off** is what it would have
handed to it if more had come. -/
theorem withoutAbort_prefix {options : SessionOptions} {fault : Option WriteFault}
    {faults : SinkFaults} {x : Bytes} (y : Bytes)
    (hcut : (Outcome.ofInput memorySink fault options x (MemorySink.new faults)).IsCut) :
    withoutAbort
        (Outcome.ofInput memorySink fault options x (MemorySink.new faults)).world.events <+:
      (Outcome.ofInput memorySink fault options (x ++ y) (MemorySink.new faults)).world.events := by
  rw [Outcome.ofInput] at hcut ⊢
  rw [Outcome.ofInput]
  cases hread : Preamble.read options x with
  | error refusal =>
    rw [Outcome.ofReading, world_ofRefusal]
    exact List.nil_prefix
  | ok taken =>
    obtain ⟨preamble, body⟩ := taken
    rw [hread] at hcut
    rw [(Preamble.stable_read options).ok hread y, Outcome.ofReading, Outcome.ofReading]
    rw [Outcome.ofReading] at hcut
    cases hopen : faults.failOpen with
    | true =>
      rw [events_notOpened options fault hopen preamble body]
      exact List.nil_prefix
    | false =>
      obtain ⟨batches, tail, htakes, hstuck⟩ :=
        (intakeOf options faults preamble).exists_takes 0 body
      rw [Nat.zero_add] at hstuck
      have hinto : (intakeOf options faults preamble).Into
          ⟨faults, exportLog preamble.queryId preamble.schema.fields batches⟩ := rfl
      obtain ⟨forwarder, summary, hwrites, hstream⟩ :=
        ofOpening_of_takes options fault hopen preamble htakes
      obtain ⟨forwarder', summary', hwrites', hstream'⟩ :=
        ofOpening_of_takes options fault hopen preamble (htakes.append y)
      rw [hstream] at hcut ⊢
      rw [hstream']
      calc
        _ = exportLog preamble.queryId preamble.schema.fields batches :=
          withoutAbort_of_stuck hstuck hwrites hinto hcut
        _ <+: _ := events_prefix_ofStreaming hwrites' summary' hinto (tail ++ y)

/-! ## What succeeds -/

/-- Sessions succeed over connections that deliver these bytes and are then closed. -/
def Succeeds (options : SessionOptions) (fault : Option WriteFault) (faults : SinkFaults)
    (input : Bytes) : Prop :=
  ∀ source : Source, source.Delivers options.limits.readTimeout input → source.ending = .closed →
    ∃ summary, (runFresh options fault faults source).1.result = some (.ok summary)

/-- Sessions over such connections fail for want of bytes, say nothing and commit nothing. -/
def Starves (options : SessionOptions) (fault : Option WriteFault) (faults : SinkFaults)
    (input : Bytes) : Prop :=
  ∀ source : Source, source.Delivers options.limits.readTimeout input → source.ending = .closed →
    ∃ error, (runFresh options fault faults source).1.result = some (.error error) ∧
      error.IsCut ∧ (runFresh options fault faults source).1.reply = [] ∧
      (runFresh options fault faults source).2.Uncommitted

/-- No shorter beginning of the input succeeds. -/
structure Shortest (options : SessionOptions) (fault : Option WriteFault) (faults : SinkFaults)
    (input front : Bytes) : Prop where
  within : front <+: input
  succeeds : Succeeds options fault faults front
  least : ∀ other, other <+: input → Succeeds options fault faults other →
    front.length ≤ other.length

section Succeeds

variable {options : SessionOptions} {fault : Option WriteFault} {faults : SinkFaults}

theorem succeeds_iff {input : Bytes} :
    Succeeds options fault faults input ↔
      ∃ summary, (Outcome.ofInput memorySink fault options input (MemorySink.new faults)).result =
        some (.ok summary) := by
  constructor
  · intro h
    have hdelivers := Source.delivers_ofBytes options.limits.readTimeout input
    obtain ⟨summary, hresult⟩ := h _ hdelivers rfl
    rw [(comesTo_runFresh fault faults hdelivers rfl).result] at hresult
    exact ⟨summary, hresult⟩
  · rintro ⟨summary, hresult⟩ source hdelivers hclosed
    have hcomes := comesTo_runFresh fault faults hdelivers hclosed
    exact ⟨summary, hcomes.result.trans hresult⟩

/-- An input that is cut off starves its sessions. -/
theorem starves_of_isCut {input : Bytes}
    (hcut : (Outcome.ofInput memorySink fault options input (MemorySink.new faults)).IsCut) :
    Starves options fault faults input := by
  intro source hdelivers hclosed
  obtain ⟨error, houtcome, hkind⟩ := hcut
  have hresult := (comesTo_runFresh fault faults hdelivers hclosed).result
  rw [houtcome] at hresult
  have hstart : Honest False (new options source fault) (MemorySink.new faults) := honest_new ..
  have hunauthorized : error.kind ≠ .unauthorized := by
    rw [hkind]
    decide
  refine ⟨error, hresult, hkind, ?_, ?_⟩
  · rcases (heard_run hstart).silent error hresult hunauthorized with hreply | ⟨unheard, -, rfl⟩
    · exact hreply
    · cases hkind
  rcases uncommitted_or_untold hstart hresult with hnone | ⟨unheard, -, -, rfl, -⟩
  · exact hnone
  · cases hkind

/-- What succeeds is not cut off. -/
theorem Succeeds.not_isCut {input : Bytes} (h : Succeeds options fault faults input) :
    ¬(Outcome.ofInput memorySink fault options input (MemorySink.new faults)).IsCut := by
  obtain ⟨summary, hresult⟩ := succeeds_iff.1 h
  rintro ⟨error, herror, -⟩
  rw [hresult] at herror
  cases herror

/-- Only the beginning matters, unless it is cut off. -/
theorem succeeds_append_iff {x : Bytes} (y : Bytes)
    (hwhole : ¬(Outcome.ofInput memorySink fault options x (MemorySink.new faults)).IsCut) :
    Succeeds options fault faults (x ++ y) ↔ Succeeds options fault faults x := by
  rw [succeeds_iff, succeeds_iff, Outcome.ofInput_append y hwhole]

/-- **An input that succeeds goes up to an empty frame**, and might have ended there. -/
theorem Succeeds.exists_end {input : Bytes} (h : Succeeds options fault faults input) :
    ∃ front rest, input = front ++ Frame.bytes [] ++ rest ∧
      Succeeds options fault faults (front ++ Frame.bytes []) := by
  obtain ⟨summary, hresult⟩ := succeeds_iff.1 h
  obtain ⟨front, rest, hinput, hsame⟩ := Outcome.exists_end_of_ofInput hresult
  exact ⟨front, rest, hinput, succeeds_iff.2 ⟨summary, hsame ▸ hresult⟩⟩

/-- **Some beginning is the shortest.** -/
theorem Succeeds.exists_shortest {input : Bytes} (h : Succeeds options fault faults input) :
    ∃ front, Shortest options fault faults input front := by
  induction hlength : input.length using Nat.strongRecOn generalizing input with
  | ind n ih =>
    subst hlength
    -- Either the shortest one is that of a shorter beginning, or the input itself.
    by_cases hshorter : ∃ front, front <+: input ∧ front.length < input.length ∧
        Succeeds options fault faults front
    · obtain ⟨front, hfront, hlt, hsucceeds⟩ := hshorter
      obtain ⟨shortest, hshortest⟩ := ih front.length hlt hsucceeds rfl
      refine ⟨shortest, hshortest.within.trans hfront, hshortest.succeeds, ?_⟩
      intro other hother hok
      rcases List.prefix_or_prefix_of_prefix hother hfront with hwithin | hbeyond
      · exact hshortest.least other hwithin hok
      · exact Nat.le_trans hshortest.within.length_le hbeyond.length_le
    · refine ⟨input, List.prefix_rfl, h, fun other hother hok => ?_⟩
      exact Nat.le_of_not_lt fun hlt => hshorter ⟨other, hother, hlt, hok⟩

theorem Shortest.unique {input front front' : Bytes}
    (h : Shortest options fault faults input front)
    (h' : Shortest options fault faults input front') : front' = front := by
  have hle := h.least front' h'.within h'.succeeds
  have hle' := h'.least front h.within h.succeeds
  exact (List.prefix_of_prefix_length_le h'.within h.within hle').eq_of_length
    (Nat.le_antisymm hle' hle)

/-- **The shortest beginning that succeeds ends with the empty frame.** -/
theorem Shortest.ends {input front : Bytes} (h : Shortest options fault faults input front) :
    ∃ before, front = before ++ Frame.bytes [] := by
  obtain ⟨before, rest, rfl, hsucceeds⟩ := h.succeeds.exists_end
  have hle := h.least _ ((List.prefix_append _ rest).trans h.within) hsucceeds
  simp only [List.length_append] at hle
  have hrest : rest = [] := List.length_eq_zero_iff.1 (by omega)
  exact ⟨before, by rw [hrest, List.append_nil]⟩

/-- **Anything shorter starves.** -/
theorem Shortest.starves {input front other : Bytes}
    (h : Shortest options fault faults input front) (hother : other <+: front)
    (hne : other ≠ front) : Starves options fault faults other := by
  -- If it were whole, the rest of the front would not matter, and it would succeed on its own.
  refine starves_of_isCut (Classical.byContradiction fun hwhole => hne ?_)
  obtain ⟨rest, rfl⟩ := hother
  have hsucceeds := (succeeds_append_iff rest hwhole).1 h.succeeds
  have hle := h.least other ((List.prefix_append other rest).trans h.within) hsucceeds
  exact (List.prefix_append other rest).eq_of_length_le hle

end Succeeds

/-! ## The law -/

/-- **Sessions respect prefixes.**  If a session does not fail for want of bytes, then any bytes
that come later leave it as it is; if it does, then what it has handed to its sink, up to the abort,
is the beginning of what is handed to the sink when more comes.  An input that succeeds has exactly
one shortest beginning that succeeds; it ends with the empty frame, and anything shorter fails for
want of bytes, without a reply or a commit. -/
theorem prefix_law (options : SessionOptions) (fault : Option WriteFault) (faults : SinkFaults)
    (x y : Bytes) {source longer : Source} (hx : source.Delivers options.limits.readTimeout x)
    (hclosed : source.ending = .closed)
    (hxy : longer.Delivers options.limits.readTimeout (x ++ y))
    (hclosed' : longer.ending = .closed) :
    let short := runFresh options fault faults source
    let long := runFresh options fault faults longer
    ((¬∃ error, short.1.result = some (.error error) ∧ error.IsCut) →
      long.1.result = short.1.result ∧ long.1.failedIn = short.1.failedIn ∧
        long.1.reply = short.1.reply ∧ long.2 = short.2) ∧
    ((∃ error, short.1.result = some (.error error) ∧ error.IsCut) →
      withoutAbort short.2.events <+: long.2.events) ∧
    (Succeeds options fault faults x →
      (∃! front, Shortest options fault faults x front) ∧
        ∀ front, Shortest options fault faults x front →
          (∃ before, front = before ++ Frame.bytes []) ∧
            ∀ other, other <+: front → other ≠ front → Starves options fault faults other) := by
  intro short long
  have hshort : ComesTo _ short := comesTo_runFresh fault faults hx hclosed
  have hlong : ComesTo _ long := comesTo_runFresh fault faults hxy hclosed'
  have hcut : (∃ error, short.1.result = some (.error error) ∧ error.IsCut) ↔
      (Outcome.ofInput memorySink fault options x (MemorySink.new faults)).IsCut := by
    rw [hshort.result]
    exact Iff.rfl
  refine ⟨fun hwhole => ?_, fun hstarved => ?_, fun hsucceeds => ⟨?_, fun front hfront => ?_⟩⟩
  · have hsame := Outcome.ofInput_append y (fun h => hwhole (hcut.2 h))
    rw [hsame] at hlong
    exact ⟨hlong.result.trans hshort.result.symm, hlong.failedIn.trans hshort.failedIn.symm,
      hlong.reply.trans hshort.reply.symm, hlong.world.trans hshort.world.symm⟩
  · rw [hshort.world, hlong.world]
    exact withoutAbort_prefix y (hcut.1 hstarved)
  · obtain ⟨front, hfront⟩ := hsucceeds.exists_shortest
    exact ⟨front, hfront, fun other hother => hfront.unique hother⟩
  · exact ⟨hfront.ends, fun other hother hne => hfront.starves hother hne⟩

set_option maxRecDepth 10000 in
/-- An export of two rows without columns has a shortest beginning that succeeds, and three bytes
behind it change nothing. -/
theorem prefix_law_two_rows :
    let options : SessionOptions := ⟨⟨none, none⟩, .permissive, none, false⟩
    let faults : SinkFaults := ⟨false, none, false⟩
    let input := Frame.bytes (Utf8.encode "q") ++
      (Frame.bytes (Utf8.encode "\x7b\"columns\":[]\x7d") ++
        (Frame.bytes [0, 0, 0, 2] ++ Frame.bytes []))
    let short := runFresh options none faults (Source.ofBytes input)
    let long := runFresh options none faults (Source.ofBytes (input ++ [1, 2, 3]))
    short.1.result.bind Except.toOption = some ⟨"q", 2, 1, 4, 0⟩ ∧
      long.1.result = short.1.result ∧ long.2 = short.2 ∧
      ∃! front, Shortest options none faults input front := by
  intro options faults input short long
  have hx := Source.delivers_ofBytes options.limits.readTimeout input
  have hxy := Source.delivers_ofBytes options.limits.readTimeout (input ++ [1, 2, 3])
  obtain ⟨hwhole, -, hshortest⟩ := prefix_law options none faults input [1, 2, 3] hx rfl hxy rfl
  have hresult : short.1.result.bind Except.toOption = some ⟨"q", 2, 1, 4, 0⟩ := by decide +kernel
  have hcomes := comesTo_runFresh none faults hx rfl
  have hsucceeds : Succeeds options none faults input := by
    obtain ⟨result, hshort, hdone⟩ := Option.bind_eq_some_iff.1 hresult
    cases result with
    | error error => cases hdone
    | ok summary =>
      exact succeeds_iff.2 ⟨summary, hcomes.result.symm.trans hshort⟩
  have hnotCut : ¬∃ error, short.1.result = some (.error error) ∧ error.IsCut := by
    rintro ⟨error, herror, hcut⟩
    have houtcome := hcomes.result.symm.trans herror
    exact hsucceeds.not_isCut ⟨error, houtcome, hcut⟩
  obtain ⟨hsame, -, -, hworld⟩ := hwhole hnotCut
  exact ⟨hresult, hsame, hworld, (hshortest hsucceeds).1⟩

end Session
end BatchBridge
