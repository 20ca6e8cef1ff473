import BatchBridge.Proofs.Frame.Reading

/-!
# Frames above the cap

What a cap does to a reader over any source: arrivals may fail, be late, or never come.

* `declared?` — the length in front of a byte string.  `read_of_lt_declared`: above the cap
  it is all that is read.
* `Reader.Answers` — how a call can go, held against `Frame.read` of everything that the source has.
  **`Reader.answers_pollFrom`**: it goes in one of these ways.
* `Reader.Reads` — the same of a frame or word.  **`Reader.reads_readFrame`**,
  **`Reader.reads_readFrameCapped`**, **`Reader.reads_readWord`** — after one that has been read, a
  reader is between items again, with the usual cap in force.
* **`Reader.readFrame_of_early`**, **`Reader.readFrameCapped_of_early`** — a frame above the cap is
  refused once its length is there, without a look at what follows.
-/

namespace BatchBridge

/-- A failure of the connection, and not of what has come over it. -/
inductive BridgeError.IsTransport : BridgeError → Prop where
  | late {after : Duration} : IsTransport (.timeout after)
  | broken {kind : IoKind} : IsTransport (.io (.transport kind))

namespace Frame

/-- The length that the front of a byte string declares. -/
def declared? (input : Bytes) : Option Nat :=
  (Bytes.split? prefixBytes input).map fun parts => Bytes.toNatBE parts.1

/-- Above the cap, a length is all that is read. -/
theorem read_of_lt_declared {limit length : Nat} {input : Bytes}
    (h : declared? input = some length) (hlimit : limit < length) :
    read (some limit) .frame input = .error (.frameTooLarge length limit) := by
  rw [declared?, Option.map_eq_some_iff] at h
  obtain ⟨parts, hparts, rfl⟩ := h
  simp only [read, hparts, Option.getD_some, if_neg (Nat.not_le.mpr hlimit)]

namespace Reader

/-- All that is there and all that is to come. -/
def ahead (reader : Reader) : Bytes := reader.buffer ++ bytesOf reader.source.arrivals

/-! ## Calls -/

/-- How a call can go that is made with these limits, if this is all that has come and will come. -/
inductive Answers (limits : Limits) (cap : Option Nat) (want : Want) (input : Bytes) :
    Polled × Reader → Prop where
  | item {item rest : Bytes} {after : Reader} : read cap want input = .ok (item, rest) →
      Between cap after → after.limits = limits → Answers limits cap want input (.item item, after)
  | failed {error : BridgeError} {after : Reader} : read cap want input = .error error →
      Answers limits cap want input (.failed error, after)
  | ended {after : Reader} : read cap want input = .error (.connectionClosed prefixBytes 0) →
      Answers limits cap want input (.ended, after)
  | late {after : Reader} : Answers limits cap want input (.late, after)
  | broken {kind : IoKind} {after : Reader} :
      Answers limits cap want input (.failed (.io (.transport kind)), after)

variable {limits : Limits} {cap : Option Nat} {want : Want} {deadline : Option Nat}
  {clock : Nat} {reader : Reader} {input : Bytes}

theorem answers_of_means {error : BridgeError} {polled : Polled} {after : Reader}
    (hread : read cap want input = .error error) (hmeans : means error polled) :
    Answers limits cap want input (polled, after) := by
  cases polled with
  | item => exact hmeans.elim
  | late => exact .late
  | failed e => exact .failed (hread.trans (congrArg _ (Eq.symm hmeans)))
  | ended => exact .ended (hread.trans (congrArg _ hmeans))

/-- With nothing more to come, what is there is all that counts. -/
theorem answers_pollEnd {error : BridgeError} (h : Polls cap want reader input)
    (hread : read cap want input = .error error) :
    Answers limits cap want input (reader.pollEnd want deadline clock) := by
  have hgo : reader.source.ending = .closed ∨ deadline = none →
      Answers limits cap want input (reader.pollEnd want deadline clock) := fun hend =>
    answers_of_means hread (pollEnd_means h hend hread)
  cases hending : reader.source.ending with
  | closed => exact hgo (Or.inl hending)
  | silent =>
    cases deadline with
    | none => exact hgo (Or.inr rfl)
    | some limit =>
      simp only [pollEnd, hending]
      exact .late

/-- **What a call gives is what all bytes together begin with**, unless the connection fails it. -/
theorem answers_pollFrom {arrivals : List Arrival} (h : Polls cap want reader input)
    (hlimits : reader.limits = limits) :
    Answers limits cap want (input ++ bytesOf arrivals)
      (pollFrom want deadline arrivals clock reader) := by
  -- on what is still to arrive; what arrives moves into the input, so that together they stay
  induction arrivals generalizing clock reader input with
  | nil =>
    have hdrained := drained_of_polls h
    rw [show input ++ bytesOf [] = input from List.append_nil input, pollFrom]
    generalize reader.drain want = drained at hdrained
    cases hdrained with
    | item hitem => exact .item hitem ⟨rfl, h.errored, h.eof, fun h => Bool.noConfusion h⟩ hlimits
    | failed herror => exact .failed herror
    | nothing herror _ hpolls => exact answers_pollEnd hpolls herror
  | cons arrival arrivals ih =>
    have hdrained := drained_of_polls h
    generalize hdrain : reader.drain want = drained at hdrained
    cases hdrained with
    | item hitem =>
      simp only [pollFrom, hdrain]
      refine .item (read_append_of_ok hitem _) ?_ hlimits
      exact ⟨rfl, h.errored, h.eof, fun h => Bool.noConfusion h⟩
    | failed herror hcut =>
      simp only [pollFrom, hdrain]
      exact .failed (read_append_of_error herror hcut _)
    | nothing _ _ hpolls _ hkept =>
      cases hlate : isLate deadline clock arrival.due with
      | true =>
        simp only [pollFrom, hdrain, hlate, if_true]
        exact .late
      | false =>
        cases arrival with
        | failure due kind =>
          simp only [pollFrom, hdrain, hlate, Bool.false_eq_true, if_false]
          exact .broken
        | data due bytes =>
          have hdue : isLate deadline clock due = false := hlate
          obtain ⟨next, hpoll, hnext, hkept'⟩ := pollFrom_data hdrain hpolls hdue
          rw [hpoll, bytesOf_cons, ← List.append_assoc]
          exact ih hnext ((hkept.trans hkept').limits.trans hlimits)

/-- What has been found out of the buffer is the answer, whatever follows. -/
theorem pollFrom_of_drain {polled : Polled} {after : Reader}
    (h : reader.drain want = (some polled, after)) (arrivals : List Arrival) :
    (pollFrom want deadline arrivals clock reader).1 = polled := by
  cases arrivals <;> simp only [pollFrom, h]

/-- **A call fails as soon as it can tell**: on what is there early, and whatever follows. -/
theorem pollFrom_of_early {error : BridgeError} {early late : List Arrival}
    (h : Polls cap want reader input) (hintact : Intact early) (htime : InTime deadline early)
    (hread : read cap want (input ++ bytesOf early) = .error error) (hcut : ¬error.IsCut) :
    (pollFrom want deadline (early ++ late) clock reader).1 = .failed error := by
  induction early generalizing clock reader input with
  | nil =>
    have hnow : read cap want input = .error error := by
      simpa [bytesOf, Source.bytes] using hread
    have hdrained := drained_of_polls h
    generalize hdrain : reader.drain want = drained at hdrained
    cases hdrained with
    | item hitem => rw [hnow] at hitem; cases hitem
    | failed herror =>
      rw [hnow] at herror
      cases herror
      exact pollFrom_of_drain hdrain _
    | nothing herror herrorCut =>
      rw [hnow] at herror
      cases herror
      exact absurd herrorCut hcut
  | cons arrival early ih =>
    have hdrained := drained_of_polls h
    generalize hdrain : reader.drain want = drained at hdrained
    cases hdrained with
    | item hitem => rw [read_append_of_ok hitem] at hread; cases hread
    | failed herror herrorCut =>
      rw [read_append_of_error herror herrorCut] at hread
      cases hread
      exact pollFrom_of_drain hdrain _
    | nothing _ _ hpolls =>
      obtain ⟨due, bytes, rfl⟩ := hintact arrival List.mem_cons_self
      have hlate : isLate deadline clock due = false := isLate_of_inTime htime
      obtain ⟨next, hpoll, hnext, -⟩ := pollFrom_data hdrain hpolls hlate
      rw [bytesOf_cons, ← List.append_assoc] at hread
      rw [List.cons_append, hpoll]
      exact ih hnext hintact.rest htime.rest hread

/-! ## Frames and words -/

/-- How a read can go, if this is all that has come and will come; `next` is the cap that is in
force afterwards. -/
inductive Reads (limits : Limits) (cap next : Option Nat) (want : Want) (input : Bytes) {α : Type}
    (made : Bytes → α) : Except BridgeError α × Reader → Prop where
  | item {item rest : Bytes} {after : Reader} : read cap want input = .ok (item, rest) →
      Between next after → after.limits = limits →
      Reads limits cap next want input made (.ok (made item), after)
  | failed {error : BridgeError} {after : Reader} : read cap want input = .error error →
      Reads limits cap next want input made (.error error, after)
  | broken {error : BridgeError} {after : Reader} : error.IsTransport →
      Reads limits cap next want input made (.error error, after)

theorem reads_next (h : Between cap reader) (want : Want) :
    Reads reader.limits cap cap want reader.ahead id (reader.next want) := by
  have hanswers : Answers reader.limits cap want reader.ahead (reader.poll want) :=
    answers_pollFrom (h.polls want) rfl
  rw [next]
  generalize reader.poll want = polled at hanswers
  cases hanswers with
  | item hread hbetween hlimits => exact .item hread hbetween hlimits
  | failed hread => exact .failed hread
  | ended hread => exact .failed hread
  | late => exact .broken .late
  | broken => exact .broken .broken

/-- What has been counted makes no difference. -/
theorem Between.count (h : Between cap reader) (n : Nat) :
    Between cap { reader with bytesRead := n } := ⟨h.codec, h.errored, h.eof, h.fresh⟩

theorem Between.setCap (h : Between cap reader) (other : Option Nat) :
    Between other (reader.setCap other) :=
  ⟨by rw [Reader.setCap, h.codec]; rfl, h.errored, h.eof, h.fresh⟩

/-- **A frame is read within the cap in force.** -/
theorem reads_readFrame (h : Between cap reader) :
    Reads reader.limits cap cap .frame reader.ahead id reader.readFrame := by
  have hnext := reads_next h .frame
  rw [readFrame]
  generalize reader.next .frame = called at hnext
  cases hnext with
  | item hread hbetween hlimits => exact .item hread (hbetween.count _) hlimits
  | failed hread => exact .failed hread
  | broken herror => exact .broken herror

theorem fits_of_readFrame {frame : Bytes} (h : Between cap reader)
    (hread : reader.readFrame.1 = .ok frame) : Fits cap frame := by
  have hreads := reads_readFrame h
  generalize reader.readFrame = called at hread hreads
  cases hreads with
  | item hitem =>
    cases hread
    exact (read_frame_eq_ok_iff.1 hitem).2
  | failed => cases hread
  | broken => cases hread

/-- **A frame is read within a cap of its own**, and then the usual cap is in force again. -/
theorem reads_readFrameCapped (h : Between cap reader) (other : Option Nat) :
    Reads reader.limits other reader.limits.maxFrameBytes .frame reader.ahead id
      (reader.readFrameCapped other) := by
  have hframe : Reads reader.limits other other .frame reader.ahead id
      (reader.setCap other).readFrame := reads_readFrame (h.setCap other)
  rw [readFrameCapped]
  generalize (reader.setCap other).readFrame = called at hframe
  cases hframe with
  | item hread hbetween hlimits =>
    refine .item hread ?_ hlimits
    rw [← hlimits]
    exact hbetween.setCap _
  | failed hread => exact .failed hread
  | broken herror => exact .broken herror

/-- No cap has to do with a word. -/
theorem reads_readWord (h : Between cap reader) :
    Reads reader.limits cap cap .word reader.ahead Bytes.toNatBE reader.readWord := by
  have hnext := reads_next h .word
  rw [readWord]
  generalize reader.next .word = called at hnext
  cases hnext with
  | item hread hbetween hlimits => exact .item hread (hbetween.count _) hlimits
  | failed hread => exact .failed hread
  | broken herror => exact .broken herror

/-- **No frame above the cap is read.** -/
theorem Reads.error_of_lt_declared {limit length : Nat} {next : Option Nat}
    {result : Except BridgeError Bytes} {after : Reader}
    (h : Reads limits (some limit) next .frame input id (result, after))
    (hdeclared : declared? input = some length) (hlimit : limit < length) :
    ∃ error, result = .error error := by
  cases h with
  | item hread =>
    rw [read_of_lt_declared hdeclared hlimit] at hread
    cases hread
  | failed => exact ⟨_, rfl⟩
  | broken => exact ⟨_, rfl⟩

/-- **Without a cap, no frame is refused for its length.** -/
theorem Reads.error_of_no_cap {next : Option Nat} {error : BridgeError} {after : Reader}
    (h : Reads limits none next want input id (.error error, after)) :
    error.IsCut ∨ error.IsTransport := by
  cases h with
  | failed hread =>
    rcases read_eq_error hread with ⟨expected, received, rfl⟩ | ⟨_, _, _, hcap, _⟩
    · exact Or.inl rfl
    · cases hcap
  | broken herror => exact Or.inr herror

/-! ## As soon as the length is there -/

/-- A frame above the cap is refused on its length. -/
theorem readFrame_of_early {limit length : Nat} {early late : List Arrival}
    (h : Between (some limit) reader) (harrivals : reader.source.arrivals = early ++ late)
    (hintact : Intact early)
    (htime : InTime (deadlineFrom reader.limits.readTimeout reader.source.clock) early)
    (hdeclared : declared? (reader.buffer ++ bytesOf early) = some length)
    (hlimit : limit < length) :
    reader.readFrame.1 = .error (.frameTooLarge length limit) := by
  have hcut : ¬(BridgeError.frameTooLarge length limit).IsCut := by
    simp [BridgeError.IsCut, BridgeError.kind]
  have hpoll : (reader.poll .frame).1 = .failed (.frameTooLarge length limit) := by
    rw [poll, harrivals]
    exact pollFrom_of_early (h.polls .frame) hintact htime
      (read_of_lt_declared hdeclared hlimit) hcut
  rw [readFrame, next]
  generalize reader.poll .frame = polled at hpoll
  obtain ⟨polled, after⟩ := polled
  rw [show polled = _ from hpoll]

theorem readFrameCapped_of_early {limit length : Nat} {early late : List Arrival}
    (h : Between cap reader) (harrivals : reader.source.arrivals = early ++ late)
    (hintact : Intact early)
    (htime : InTime (deadlineFrom reader.limits.readTimeout reader.source.clock) early)
    (hdeclared : declared? (reader.buffer ++ bytesOf early) = some length)
    (hlimit : limit < length) :
    (reader.readFrameCapped (some limit)).1 = .error (.frameTooLarge length limit) :=
  readFrame_of_early (h.setCap _) harrivals hintact htime hdeclared hlimit

end Reader
end Frame
end BatchBridge
