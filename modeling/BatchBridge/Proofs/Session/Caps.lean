import BatchBridge.Proofs.Frame.Caps
import BatchBridge.Proofs.Session.Step
import BatchBridge.Sink.Memory

/-!
# How long the frames of a session may be

The frames of a session are read within a cap: the token and the query id within one of their own,
and the schema and the batches within the one that is configured, if there is one.

* `FrameKind` — what a frame is read for, with the cap that goes with it and the way it is read.
* `Session.Settled` — while something is left to read, the reader is between items, and the cap that
  the last frame had for itself is no longer in force (`Session.settled_steps`).
* `Session.GivesUp` — a session is over with the frame that it is about to read.
  **`Session.givesUp_of_lost`**: it is, if that frame cannot be read.
* `Session.Rejects` — what happens to a frame of a length above the cap: whatever the source does,
  the session gives up, and it does so on the four bytes of the length.
* **`Session.frames_within_cap`** — the configured cap bounds every frame, if it is not below the
  cap that the frame has for itself; and frames that have none are never refused for their length
  where nothing is configured.

The condition is there because a cap of its own takes the place of the configured one, even of a
smaller one: `Session.longer_query_id_accepted`.
-/

namespace BatchBridge

/-! ## Kinds of frames -/

/-- What a frame is read for. -/
inductive FrameKind where
  | token
  | queryId
  | schema
  | batch
  deriving DecidableEq, Repr

namespace FrameKind

/-- The cap that frames of this kind have for themselves. -/
def ownCap? : FrameKind → Option Nat
  | token => some maxTokenBytes
  | queryId => some maxQueryIdBytes
  | schema | batch => none

/-- The cap that is in force when a frame of this kind is read. -/
def cap (limits : Frame.Limits) (kind : FrameKind) : Option Nat :=
  kind.ownCap?.or limits.maxFrameBytes

/-- Reads a frame of this kind. -/
def readFrom (reader : Frame.Reader) (kind : FrameKind) : Except BridgeError Bytes × Frame.Reader :=
  match kind.ownCap? with
  | some own => reader.readFrameCapped (some own)
  | none => reader.readFrame

/-- The error of a session that cannot read a frame of this kind.  A token that is too long is
turned down, if the client can be told so. -/
def errorOf (writeFault : Option WriteFault) : FrameKind → BridgeError → BridgeError
  | token, .frameTooLarge length limit =>
    match writeFault with
    | none => .unauthorized (.tooLong length limit)
    | some fault => .io (.transport fault.kind)
  | _, error => error

/-- Any other error is taken as it is. -/
theorem errorOf_of_ne (writeFault : Option WriteFault) (kind : FrameKind) {error : BridgeError}
    (h : ∀ length limit, error ≠ .frameTooLarge length limit) :
    kind.errorOf writeFault error = error := by
  unfold errorOf
  split
  · exact absurd rfl (h _ _)
  · rfl

open BatchBridge.Frame BatchBridge.Frame.Reader

variable {reader : Frame.Reader} {kind : FrameKind}

/-- A frame of each kind is read within its cap, and then the configured cap is in force again. -/
theorem reads_readFrom (h : Between reader.limits.maxFrameBytes reader) (kind : FrameKind) :
    Reads reader.limits (kind.cap reader.limits) reader.limits.maxFrameBytes .frame reader.ahead id
      (kind.readFrom reader) := by
  rw [readFrom, cap]
  cases kind.ownCap? with
  | none => exact reads_readFrame h
  | some own => exact reads_readFrameCapped h _

/-- A frame above its cap is refused on its length. -/
theorem readFrom_of_early {limit length : Nat} {early late : List Arrival}
    (h : Between reader.limits.maxFrameBytes reader) (hcap : kind.cap reader.limits = some limit)
    (harrivals : reader.source.arrivals = early ++ late) (hintact : Intact early)
    (htime : InTime (deadlineFrom reader.limits.readTimeout reader.source.clock) early)
    (hdeclared : declared? (reader.buffer ++ bytesOf early) = some length)
    (hlimit : limit < length) :
    (kind.readFrom reader).1 = .error (.frameTooLarge length limit) := by
  rw [cap] at hcap
  rw [readFrom]
  cases hown : kind.ownCap? with
  | none =>
    rw [hown, Option.none_or] at hcap
    rw [hcap] at h
    exact readFrame_of_early h harrivals hintact htime hdeclared hlimit
  | some own =>
    rw [hown, Option.some_or] at hcap
    cases hcap
    exact readFrameCapped_of_early h harrivals hintact htime hdeclared hlimit

end FrameKind

namespace Phase

variable {Stream : Type}

/-- The kind of the frame that is read next, if one is. -/
def frameKind? : Phase Stream → Option FrameKind
  | .token _ => some .token
  | .queryId => some .queryId
  | .schema .. => some .schema
  | .streaming _ => some .batch
  | _ => none

/-- Whether something may be left to read. -/
def mayRead : Phase Stream → Bool
  | .begin | .token _ | .queryId | .compression _ | .schema .. | .opening .. | .streaming _ => true
  | .aborting .. | .closing .. | .acknowledging _ | .completed _ | .failed .. | .lost => false

theorem mayRead_of_frameKind? {phase : Phase Stream} {kind : FrameKind}
    (h : phase.frameKind? = some kind) : phase.mayRead = true := by
  cases phase <;> first | rfl | cases h

end Phase

namespace Session

open BatchBridge.Frame BatchBridge.Frame.Reader

variable {World Stream : Type} {sink : StreamSink World Stream} {session : Session Stream}
  {world : World}

/-! ## Between frames -/

/-- While something is left to read, the reader is between items, with the configured cap. -/
def Settled (limits : Limits) (session : Session Stream) : Prop :=
  session.phase.mayRead = true →
    Between limits.maxFrameBytes session.reader ∧ session.reader.limits = limits

theorem settled_new (options : SessionOptions) (source : Source) (writeFault : Option WriteFault) :
    (new options source writeFault : Session Stream).Settled options.limits := fun _ =>
  ⟨⟨rfl, rfl, rfl, fun _ => rfl⟩, rfl⟩

theorem settled_of_reads {limits : Limits} {cap : Option Nat} {want : Want} {input : Bytes}
    {α : Type} {made : Bytes → α} {item : α} {after : Frame.Reader}
    (h : Reads limits cap limits.maxFrameBytes want input made (.ok item, after)) :
    Between limits.maxFrameBytes after ∧ after.limits = limits := by
  cases h with
  | item _ hbetween hlimits => exact ⟨hbetween, hlimits⟩

theorem settled_of_readFrame {limits : Limits} {before after : Frame.Reader} {payload : Bytes}
    (h : Between limits.maxFrameBytes before ∧ before.limits = limits)
    (hread : before.readFrame = (.ok payload, after)) :
    Between limits.maxFrameBytes after ∧ after.limits = limits := by
  obtain ⟨hbetween, rfl⟩ := h
  exact settled_of_reads (hread ▸ reads_readFrame hbetween)

theorem settled_of_readFrameCapped {limits : Limits} {before after : Frame.Reader} {payload : Bytes}
    {cap : Option Nat} (h : Between limits.maxFrameBytes before ∧ before.limits = limits)
    (hread : before.readFrameCapped cap = (.ok payload, after)) :
    Between limits.maxFrameBytes after ∧ after.limits = limits := by
  obtain ⟨hbetween, rfl⟩ := h
  exact settled_of_reads (hread ▸ reads_readFrameCapped hbetween cap)

theorem settled_of_readWord {limits : Limits} {before after : Frame.Reader} {word : Nat}
    (h : Between limits.maxFrameBytes before ∧ before.limits = limits)
    (hread : before.readWord = (.ok word, after)) :
    Between limits.maxFrameBytes after ∧ after.limits = limits := by
  obtain ⟨hbetween, rfl⟩ := h
  exact settled_of_reads (hread ▸ reads_readWord hbetween)

theorem settled_step {limits : Limits} (h : session.Settled limits)
    (sink : StreamSink World Stream) (world : World) :
    (session.step sink world).1.Settled limits := by
  have hmove := move_step sink session world
  generalize session.step sink world = result at hmove
  -- a read that fails is the last one, so only items have to leave the reader between items
  cases hmove with
  | advance hadvances =>
    intro hreads
    cases hadvances with
    | tokenWanted hphase | noTokenWanted hphase => exact h (by rw [hphase]; rfl)
    | admitted hphase _ hread =>
      exact settled_of_readFrameCapped (h (by rw [hphase]; rfl)) hread
    | identified hphase hread =>
      exact settled_of_readFrameCapped (h (by rw [hphase]; rfl)) hread
    | negotiated hphase hread => exact settled_of_readWord (h (by rw [hphase]; rfl)) hread
    | announced hphase hread => exact settled_of_readFrame (h (by rw [hphase]; rfl)) hread
    | ended | brokenOff | undecodable => cases hreads
  | opened hphase => exact fun _ => h (by rw [hphase]; rfl)
  | written hphase hread =>
    exact fun _ => settled_of_readFrame (h (by rw [hphase]; rfl)) hread
  | terminal => exact h
  | _ => exact fun hreads => by cases hreads

theorem settled_steps {limits : Limits} (h : session.Settled limits)
    (sink : StreamSink World Stream) (world : World) (n : Nat) :
    (steps sink n session world).1.Settled limits := by
  induction n with
  | zero => exact h
  | succ n ih =>
    rw [steps_succ]
    exact settled_step ih sink _

/-! ## The last frame -/

/-- What becomes of the world when a session gives up: its stream is aborted, if there is one. -/
def abandon (sink : StreamSink World Stream) (session : Session Stream) (world : World) : World :=
  match session.phase with
  | .streaming exporting => (exporting.forwarder.abort sink world).2
  | _ => world

/-- A session gives up on the frame that it is about to read: it goes nowhere else, and nothing else
happens to the world, than that it fails where it is and abandons what it has begun. -/
structure GivesUp (sink : StreamSink World Stream) (error : BridgeError)
    (session : Session Stream) (world : World) : Prop where
  course : ∀ n, (steps sink n session world).1.state = session.state ∧
        (steps sink n session world).2 = world ∨
      (steps sink n session world).1.phase = .failed error session.state ∧
        (steps sink n session world).2 = session.abandon sink world
  last : ∀ n, 2 ≤ n → (steps sink n session world).1.phase = .failed error session.state

/-- It does so with the next step. -/
theorem givesUp_of_failed {error : BridgeError} {after : Session Stream}
    (hstep : session.step sink world = (after, session.abandon sink world))
    (hafter : after.phase = .failed error session.state) : session.GivesUp sink error world := by
  have hover : after.phase.isOver = true := by rw [hafter]; rfl
  have hfailed : ∀ n, steps sink (n + 1) session world = (after, session.abandon sink world) := by
    intro n
    rw [steps_succ', hstep, steps_of_isOver hover]
  constructor
  · intro n
    cases n with
    | zero => exact Or.inl ⟨rfl, rfl⟩
    | succ n =>
      rw [hfailed n]
      exact Or.inr ⟨hafter, rfl⟩
  · intro n hn
    obtain ⟨n, rfl⟩ := Nat.exists_eq_add_of_le' hn
    rw [hfailed]
    exact hafter

/-- With a stream open, there is a step before that, and the stream is aborted after it. -/
theorem givesUp_of_aborting {error : BridgeError} {exporting : Export Stream}
    {after : Session Stream} (hphase : session.phase = .streaming exporting)
    (hstep : session.step sink world = (after, world))
    (hafter : after.phase = .aborting exporting.forwarder error) :
    session.GivesUp sink error world := by
  have hstate : after.state = session.state := by rw [state, state, hafter, hphase]; rfl
  have habort : after.step sink world = (after.fail error, session.abandon sink world) := by
    rw [abandon, hphase]
    simp only [step, hafter]
  have hfailed : ∀ n, steps sink (n + 2) session world =
      (after.fail error, session.abandon sink world) := by
    intro n
    rw [steps_succ', hstep, steps_succ', habort]
    exact steps_of_isOver rfl n
  have hover : (after.fail error).phase = .failed error session.state := by rw [← hstate]; rfl
  constructor
  · intro n
    rcases n with _ | _ | n
    · exact Or.inl ⟨rfl, rfl⟩
    · rw [steps_succ', hstep]
      exact Or.inl ⟨hstate, rfl⟩
    · rw [hfailed n]
      exact Or.inr ⟨hover, rfl⟩
  · intro n hn
    obtain ⟨n, rfl⟩ := Nat.exists_eq_add_of_le' hn
    rw [hfailed]
    exact hover

/-- A token that is too long is turned down. -/
theorem givesUp_of_tooLong {expected : String} {length limit : Nat} {reader : Frame.Reader}
    (hphase : session.phase = .token expected)
    (hread : session.reader.readFrameCapped (some maxTokenBytes) =
      (.error (.frameTooLarge length limit), reader)) :
    session.GivesUp sink
      (FrameKind.token.errorOf session.writeFault (.frameTooLarge length limit)) world := by
  have hstep : session.step sink world =
      ({ session with reader }.refuse (.tooLong length limit), session.abandon sink world) := by
    simp only [step, hphase, readToken, hread, abandon]
  refine givesUp_of_failed hstep ?_
  simp only [refuse, tell, FrameKind.errorOf]
  cases session.writeFault with
  | none => rfl
  | some fault => rfl

/-- A token that is not there is an error as it is. -/
theorem givesUp_of_noToken {expected : String} {error : BridgeError} {reader : Frame.Reader}
    (hphase : session.phase = .token expected)
    (hread : session.reader.readFrameCapped (some maxTokenBytes) = (.error error, reader))
    (hother : ∀ length limit, error ≠ .frameTooLarge length limit) :
    session.GivesUp sink (FrameKind.token.errorOf session.writeFault error) world := by
  have hstep : session.step sink world =
      ({ session with reader }.fail error, session.abandon sink world) := by
    simp only [step, hphase, readToken, hread, abandon]
  rw [FrameKind.errorOf_of_ne _ _ hother]
  exact givesUp_of_failed hstep rfl

/-- **A session is over with a frame that it cannot read.** -/
theorem givesUp_of_lost {kind : FrameKind} {error : BridgeError}
    (hkind : session.phase.frameKind? = some kind)
    (hread : (kind.readFrom session.reader).1 = .error error) :
    session.GivesUp sink (kind.errorOf session.writeFault error) world := by
  generalize hcalled : kind.readFrom session.reader = called at hread
  obtain ⟨result, reader⟩ := called
  subst hread
  cases hphase : session.phase with
  | token expected =>
    rw [hphase] at hkind
    cases hkind
    by_cases hlong : ∃ length limit, error = .frameTooLarge length limit
    · obtain ⟨length, limit, rfl⟩ := hlong
      exact givesUp_of_tooLong hphase hcalled
    · exact givesUp_of_noToken hphase hcalled fun length limit h => hlong ⟨length, limit, h⟩
  | queryId =>
    rw [hphase] at hkind
    cases hkind
    have hlost : session.reader.readFrameCapped (some maxQueryIdBytes) = (.error error, reader) :=
      hcalled
    have hstep : session.step sink world =
        ({ session with reader }.fail error, session.abandon sink world) := by
      simp only [step, hphase, readQueryId, afterRead, hlost, abandon]
    exact givesUp_of_failed hstep rfl
  | schema id method =>
    rw [hphase] at hkind
    cases hkind
    have hlost : session.reader.readFrame = (.error error, reader) := hcalled
    have hstep : session.step sink world =
        ({ session with reader }.fail error, session.abandon sink world) := by
      simp only [step, hphase, readSchema, afterRead, hlost, abandon]
    exact givesUp_of_failed hstep rfl
  | streaming exporting =>
    rw [hphase] at hkind
    cases hkind
    have hlost : session.reader.readFrame = (.error error, reader) := hcalled
    have hstep : session.step sink world =
        ({ session with reader }.goTo (.aborting exporting.forwarder error), world) := by
      simp only [step, hphase, readBatch, hlost]
    exact givesUp_of_aborting hphase hstep rfl
  | _ =>
    rw [hphase] at hkind
    cases hkind

/-! ## Frames above the cap -/

/-- A frame of this length, which is above this cap, ends the session. -/
structure Rejects (sink : StreamSink World Stream) (kind : FrameKind) (length limit : Nat)
    (session : Session Stream) (world : World) : Prop where
  /-- Whatever becomes of the connection. -/
  ends : declared? session.reader.ahead = some length →
    ∃ error, session.GivesUp sink error world
  /-- If its length comes in time, then on account of the length, whatever follows. -/
  early : ∀ early late, session.reader.source.arrivals = early ++ late → Intact early →
    InTime (deadlineFrom session.reader.limits.readTimeout session.reader.source.clock) early →
    declared? (session.reader.buffer ++ bytesOf early) = some length →
    session.GivesUp sink (kind.errorOf session.writeFault (.frameTooLarge length limit)) world

/-- **A frame above its cap ends the session.** -/
theorem rejects_of_settled {limits : Limits} {kind : FrameKind} {length limit : Nat}
    (h : session.Settled limits) (hkind : session.phase.frameKind? = some kind)
    (hcap : kind.cap limits = some limit) (hlimit : limit < length) :
    session.Rejects sink kind length limit world := by
  obtain ⟨hbetween, rfl⟩ := h (Phase.mayRead_of_frameKind? hkind)
  constructor
  · intro hdeclared
    have hreads := kind.reads_readFrom hbetween
    rw [hcap] at hreads
    obtain ⟨error, herror⟩ := hreads.error_of_lt_declared hdeclared hlimit
    exact ⟨_, givesUp_of_lost hkind herror⟩
  · intro early late harrivals hintact htime hdeclared
    exact givesUp_of_lost hkind
      (FrameKind.readFrom_of_early hbetween hcap harrivals hintact htime hdeclared hlimit)

/-- Where nothing is configured, a frame without a cap of its own has none at all. -/
theorem error_of_no_cap {limits : Limits} {kind : FrameKind} {error : BridgeError}
    (h : session.Settled limits) (hkind : session.phase.frameKind? = some kind)
    (hcap : kind.cap limits = none) (hread : (kind.readFrom session.reader).1 = .error error) :
    error.IsCut ∨ error.IsTransport := by
  obtain ⟨hbetween, rfl⟩ := h (Phase.mayRead_of_frameKind? hkind)
  have hreads := kind.reads_readFrom hbetween
  rw [hcap] at hreads
  generalize kind.readFrom session.reader = called at hread hreads
  obtain ⟨result, after⟩ := called
  subst hread
  exact hreads.error_of_no_cap

theorem maxFrameBytes_ofConfig (config : Config) :
    (SessionOptions.ofConfig config).limits.maxFrameBytes =
      if config.maxFrameBytes.toNat = 0 then none else some config.maxFrameBytes.toNat := by
  have hzero : config.maxFrameBytes = 0 ↔ config.maxFrameBytes.toNat = 0 :=
    ⟨fun h => by rw [h]; rfl, fun h => UInt32.toNat_inj.1 h⟩
  simp only [SessionOptions.ofConfig, Config.frameLimit, hzero]
  split <;> rfl

/-- **The configured cap bounds the frames of a session**, at whatever frame it has arrived and
whatever its source does.

* If it is not below the cap that the frame has for itself, a longer frame ends the session.
* A frame that is longer than its own cap ends the session in any case.
* With a cap of 0, a frame that has none of its own is not refused for its length: only the
  connection can fail it. -/
theorem frames_within_cap (config : Config) (source : Source) (writeFault : Option WriteFault)
    (sink : StreamSink World Stream) (world : World) (n : Nat) {kind : FrameKind}
    (hkind : (steps sink n (new (.ofConfig config) source writeFault) world).1.phase.frameKind? =
      some kind) :
    let largest := config.maxFrameBytes.toNat
    let now := steps sink n (new (.ofConfig config) source writeFault) world
    (0 < largest → (∀ own ∈ kind.ownCap?, own ≤ largest) → ∀ length, largest < length →
      now.1.Rejects sink kind length (kind.ownCap?.getD largest) now.2) ∧
    (∀ own ∈ kind.ownCap?, ∀ length, own < length → now.1.Rejects sink kind length own now.2) ∧
    (largest = 0 → kind.ownCap? = none →
      ∀ error, (kind.readFrom now.1.reader).1 = .error error →
        error.IsCut ∨ error.IsTransport) := by
  intro largest now
  have hsettled : now.1.Settled (SessionOptions.ofConfig config).limits :=
    settled_steps (settled_new (SessionOptions.ofConfig config) source writeFault) sink world n
  have hlimits := maxFrameBytes_ofConfig config
  refine ⟨?_, ?_, ?_⟩
  · intro hlargest howns length hlength
    cases hown : kind.ownCap? with
    | none =>
      have hcap : kind.cap (SessionOptions.ofConfig config).limits = some largest := by
        rw [FrameKind.cap, hown, Option.none_or, hlimits, if_neg (Nat.pos_iff_ne_zero.1 hlargest)]
      exact rejects_of_settled hsettled hkind hcap hlength
    | some own =>
      have hcap : kind.cap (SessionOptions.ofConfig config).limits = some own := by
        rw [FrameKind.cap, hown, Option.some_or]
      have hlong : own < length := Nat.lt_of_le_of_lt (howns own hown) hlength
      exact rejects_of_settled hsettled hkind hcap hlong
  · intro own hown length hlength
    have hcap : kind.cap (SessionOptions.ofConfig config).limits = some own := by
      rw [FrameKind.cap, Option.mem_def.1 hown, Option.some_or]
    exact rejects_of_settled hsettled hkind hcap hlength
  · intro hzero hown error herror
    have hcap : kind.cap (SessionOptions.ofConfig config).limits = none := by
      rw [FrameKind.cap, hown, Option.none_or, hlimits, if_pos hzero]
    exact error_of_no_cap hsettled hkind hcap herror

/-- A cap of 1200 bytes, and a connection that breaks down once a schema of 1201 is announced. -/
theorem frames_within_cap_long_schema :
    let source : Source :=
      ⟨[.data 0 (Frame.bytes (Utf8.encode "query")), .data 7 (Bytes.ofNatBE 4 1201),
        .failure 9 .connectionReset], .silent, 0⟩
    let start : Session MemoryStream :=
      new (.ofConfig { Config.initial with maxFrameBytes := 1200 }) source none
    let now := steps memorySink 2 start (.new .none)
    now.1.phase.frameKind? = some .schema ∧
      now.1.GivesUp memorySink (.frameTooLarge 1201 1200) now.2 := by
  intro source start now
  have hkind : now.1.phase.frameKind? = some .schema := by decide +kernel
  have hcaps := frames_within_cap { Config.initial with maxFrameBytes := 1200 } source none
    memorySink (.new .none) 2 hkind
  have hrejects := hcaps.1 (by decide) (by decide) 1201 (by decide)
  refine ⟨hkind, hrejects.early [.data 7 (Bytes.ofNatBE 4 1201)] [.failure 9 .connectionReset]
    ?_ ?_ ?_ ?_⟩
  · decide +kernel
  · simp [Intact]
  · have hnone : now.1.reader.limits.readTimeout = none := by decide +kernel
    rw [hnone]
    exact fun _ h => by cases h
  · decide +kernel

/-- The cap that a query id has for itself takes the place of a smaller one that is configured. -/
theorem longer_query_id_accepted :
    let config := { Config.initial with maxFrameBytes := 14 }
    let input := Frame.bytes (Utf8.encode "nightly-reports") ++
      Frame.bytes (Utf8.encode "\x7b\"columns\":[]\x7d") ++ Frame.bytes []
    let start : Session MemoryStream := new (.ofConfig config) (.ofBytes input) none
    let now := steps memorySink 1 start (.new .none)
    now.1.phase.frameKind? = some .queryId ∧ declared? now.1.reader.ahead = some 15 ∧
      config.maxFrameBytes.toNat = 14 ∧
      (start.run memorySink (.new .none)).1.state = .completed := by
  decide +kernel

end Session
end BatchBridge
