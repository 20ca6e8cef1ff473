import BatchBridge.Proofs.Session.Record
import BatchBridge.Proofs.Text.Utf8

/-!
# Tokens

A session that expects a token looks at the first frame of its input and at nothing else before it
has made up its mind.

* `Session.Rejected` — the beginnings of an input that are turned down, with the reason.
* `Session.CutOff` — inputs that are too short to tell.
* **`Session.token_cases`** — an input begins with the token, or is one of these.
* **`Session.authentication`** — behind its token, an input comes to what it comes to in a session
  that expects none; without its token, it comes to nothing, and what stands behind a frame that is
  turned down makes no difference.
-/

namespace BatchBridge

/-- A token that settings may ask for is neither empty nor too long to be read. -/
theorem Config.length_token_of_validate {config : Config} {token : String}
    (htoken : config.authToken = some token) (h : config.validate = .ok ()) :
    Utf8.encode token ≠ [] ∧ (Utf8.encode token).length ≤ maxTokenBytes := by
  have hfault : config.fault? = none := by
    rw [validate] at h
    split at h
    · assumption
    · cases h
  have hisToken : isToken token = true := by
    simp only [fault?] at hfault
    split at hfault
    · cases hfault
    split at hfault
    · cases hfault
    split at hfault
    · rename_i hall
      simpa [htoken] using hall
    · cases hfault
  simp only [isToken, Bool.and_eq_true, decide_eq_true_eq] at hisToken
  rw [← Utf8.length_encode, List.length_pos_iff] at hisToken
  exact hisToken

namespace Session

/-! ## Beginnings of an input -/

/-- A beginning of an input that is turned down: a whole frame that is not the token, or a length
that no token has. -/
inductive Rejected (token : String) : Bytes → TokenFault → Prop where
  | empty : Rejected token (Frame.bytes []) .empty
  | mismatch {presented : Bytes} : presented ≠ [] → presented ≠ Utf8.encode token →
      presented.length ≤ maxTokenBytes → Rejected token (Frame.bytes presented) .mismatch
  | tooLong {length : Nat} : maxTokenBytes < length → length ≤ Frame.maxLength →
      Rejected token (Bytes.ofNatBE Frame.prefixBytes length) (.tooLong length maxTokenBytes)

/-- An input that ends within a first frame that could have been a token. -/
inductive CutOff : Bytes → BridgeError → Prop where
  | length {input : Bytes} : input.length < Frame.prefixBytes →
      CutOff input (.connectionClosed Frame.prefixBytes input.length)
  | payload {length : Nat} {body : Bytes} : length ≤ maxTokenBytes → body.length < length →
      CutOff (Bytes.ofNatBE Frame.prefixBytes length ++ body)
        (.connectionClosed length body.length)

theorem CutOff.isCut {input : Bytes} {error : BridgeError} (h : CutOff input error) :
    error.IsCut := by
  cases h <;> rfl

theorem maxTokenBytes_le : maxTokenBytes ≤ Frame.maxLength := by decide

/-- A frame that is not the token is turned down, as soon as that can be told. -/
theorem exists_rejected {token : String} {presented : Bytes}
    (hother : presented ≠ Utf8.encode token) (hlength : presented.length ≤ Frame.maxLength) :
    ∃ front more tokenFault, Frame.bytes presented = front ++ more ∧
      Rejected token front tokenFault := by
  by_cases hempty : presented = []
  · subst hempty
    exact ⟨_, [], _, (List.append_nil _).symm, .empty⟩
  by_cases hlong : maxTokenBytes < presented.length
  · exact ⟨_, presented, _, rfl, .tooLong hlong hlength⟩
  · exact ⟨_, [], _, (List.append_nil _).symm, .mismatch hempty hother (Nat.le_of_not_lt hlong)⟩

theorem takeToken_of_rejected {token : String} {front : Bytes} {tokenFault : TokenFault}
    (h : Rejected token front tokenFault) (rest : Bytes) :
    Preamble.takeToken (some token) (front ++ rest) =
      .error ⟨.unauthorized tokenFault, .authenticating⟩ := by
  rw [Preamble.takeToken, Preamble.takeItem]
  cases h with
  | empty =>
    rw [Frame.read_bytes_nil]
    rfl
  | @mismatch presented hne hother hlength =>
    have hempty : ¬presented.isEmpty = true := fun h => hne (List.isEmpty_iff.1 h)
    rw [Frame.read_bytes ((Preamble.fits_of_length_le maxTokenBytes_le).2 hlength)]
    simp only [Preamble.checkToken, if_neg hempty, if_neg hother]
  | @tooLong length habove hlength =>
    have hcap : ¬length ≤ (some maxTokenBytes).getD Frame.maxLength := Nat.not_le_of_lt habove
    simp only [Frame.read, Frame.split?_length, Frame.toNatBE_length hlength, if_neg hcap]
    rfl

theorem takeToken_of_cutOff {input : Bytes} {error : BridgeError} (h : CutOff input error)
    (token : String) :
    Preamble.takeToken (some token) input = .error ⟨error, .authenticating⟩ := by
  rw [Preamble.takeToken, Preamble.takeItem]
  cases h with
  | length hshort =>
    simp only [Frame.read, Bytes.split?_eq_none_iff.2 hshort]
    rfl
  | @payload length body hcap hcut =>
    rw [Frame.Codec.read_of_length hcap (Nat.le_trans hcap maxTokenBytes_le),
      Bytes.split?_eq_none_iff.2 hcut]
    rfl

/-- **An input begins with the token, or with something that is turned down, or ends before that can
be told.** -/
theorem token_cases (token : String) (input : Bytes) :
    (∃ rest, input = Frame.bytes (Utf8.encode token) ++ rest) ∨
      (∃ front rest tokenFault, input = front ++ rest ∧ Rejected token front tokenFault) ∨
      ∃ error, CutOff input error := by
  by_cases hshort : input.length < Frame.prefixBytes
  · exact .inr (.inr ⟨_, .length hshort⟩)
  obtain ⟨length, behind, hlength, rfl⟩ := Frame.exists_length (Nat.le_of_not_lt hshort)
  by_cases hlong : maxTokenBytes < length
  · exact .inr (.inl ⟨_, behind, _, rfl, .tooLong hlong hlength⟩)
  have hcap := Nat.le_of_not_lt hlong
  by_cases hcut : behind.length < length
  · exact .inr (.inr ⟨_, .payload hcap hcut⟩)
  -- The first frame is whole.
  have hpresented : (behind.take length).length = length :=
    (List.length_take ..).trans (Nat.min_eq_left (Nat.le_of_not_lt hcut))
  have hframe : Bytes.ofNatBE Frame.prefixBytes length ++ behind =
      Frame.bytes (behind.take length) ++ behind.drop length := by
    rw [Frame.bytes, hpresented, List.append_assoc, List.take_append_drop]
  rw [hframe]
  by_cases htoken : behind.take length = Utf8.encode token
  · exact .inl ⟨_, by rw [htoken]⟩
  · obtain ⟨front, more, tokenFault, hfront, hrejected⟩ :=
      exists_rejected htoken (by rwa [hpresented])
    exact .inr (.inl ⟨front, _, tokenFault, by rw [hfront, List.append_assoc], hrejected⟩)

/-! ## What the token decides -/

section

variable {World Stream : Type} {sink : StreamSink World Stream} {options : SessionOptions}
  {token : String} {fault : Option WriteFault} {input : Bytes}

/-- Behind its token, an input is read as if no token were expected. -/
theorem Outcome.ofInput_token (hoptions : options.token = some token)
    (hne : Utf8.encode token ≠ []) (hlength : (Utf8.encode token).length ≤ maxTokenBytes)
    (input : Bytes) (world : World) :
    ofInput sink fault options (Frame.bytes (Utf8.encode token) ++ input) world =
      ofInput sink fault { options with token := none } input world := by
  have htaken : Preamble.takeToken options.token (Frame.bytes (Utf8.encode token) ++ input) =
      .ok ((), input) := by
    rw [hoptions]
    exact Preamble.takeToken_eq_ok_iff.2 ⟨_, rfl, rfl, hne, hlength⟩
  rw [ofInput, Preamble.read, Preamble.bind_of_ok htaken]
  rfl

/-- Without the token, nothing else of an input is read. -/
theorem Outcome.ofInput_noToken (hoptions : options.token = some token) {refusal : Refusal}
    (h : Preamble.takeToken (some token) input = .error refusal) (world : World) :
    ofInput sink fault options input world = ofRefusal fault refusal world := by
  rw [← hoptions] at h
  rw [ofInput, Preamble.read, Preamble.bind_of_error h]
  rfl

theorem failedIn_ofRefusal (fault : Option WriteFault) (refusal : Refusal) (world : World) :
    (Outcome.ofRefusal fault refusal world).failedIn = some refusal.state := by
  by_cases hkind : refusal.error.kind = .unauthorized
  · cases fault <;> simp [Outcome.ofRefusal, hkind, Outcome.failure]
  · rw [Outcome.ofRefusal_of_ne hkind]
    rfl

/-- A refusal of a token is over before the sink is asked for anything. -/
theorem untouched_of_noToken (fault : Option WriteFault) (faults : SinkFaults)
    (hoptions : options.token = some token) {error : BridgeError}
    (h : Preamble.takeToken (some token) input = .error ⟨error, .authenticating⟩) {source : Source}
    (hgives : source.Gives options.limits.readTimeout input) :
    (runFresh options fault faults source).1.failedIn = some .authenticating ∧
      (runFresh options fault faults source).2.events = [] := by
  have hcomes := comesTo_runFresh fault faults hgives.toDelivers hgives.closed
  rw [Outcome.ofInput_noToken hoptions h] at hcomes
  refine ⟨?_, ?_⟩
  · rw [hcomes.failedIn, failedIn_ofRefusal]
  · rw [hcomes.world, world_ofRefusal]
    rfl

end

/-- **A token opens a session, and nothing else does.**  Behind the token that settings ask for, an
input comes to what it comes to without a token.  An input that does not begin with it fails before
anything is asked of the sink.  If its beginning is turned down, the client is told so, and what
follows makes no difference; if it is cut off, the client is told nothing. -/
theorem authentication {config : Config} {token : String} (hvalid : config.validate = .ok ())
    (htoken : config.authToken = some token) {options : SessionOptions}
    (hoptions : options.token = some token) (fault : Option WriteFault) (faults : SinkFaults) :
    let timeout := options.limits.readTimeout
    let run := runFresh options fault faults
    (∀ input source source', source.Gives timeout (Frame.bytes (Utf8.encode token) ++ input) →
      source'.Gives timeout input →
      Alike (run source) (runFresh { options with token := none } fault faults source')) ∧
    (∀ input source, source.Gives timeout input →
      (¬∃ rest, input = Frame.bytes (Utf8.encode token) ++ rest) →
      (run source).1.failedIn = some .authenticating ∧ (run source).2.events = [] ∧
        ((∃ front rest tokenFault, input = front ++ rest ∧ Rejected token front tokenFault) ∨
          ∃ error, CutOff input error)) ∧
    (∀ front tokenFault, Rejected token front tokenFault →
      ∀ rest source, source.Gives timeout (front ++ rest) →
        (fault = none → (run source).1.result = some (.error (.unauthorized tokenFault)) ∧
          (run source).1.reply = Utf8.encode "ERROR: UNAUTHORIZED") ∧
        ∀ rest' source', source'.Gives timeout (front ++ rest') →
          Alike (run source) (run source')) ∧
    ∀ input error, CutOff input error → ∀ source, source.Gives timeout input →
      (run source).1.result = some (.error error) ∧ (run source).1.reply = [] := by
  intro timeout run
  obtain ⟨hne, hlength⟩ := Config.length_token_of_validate htoken hvalid
  have hcomes {input : Bytes} {source : Source} (h : source.Gives timeout input) :
      ComesTo (.ofInput memorySink fault options input (MemorySink.new faults)) (run source) :=
    comesTo_runFresh fault faults h.toDelivers h.closed
  refine ⟨?_, ?_, ?_, ?_⟩
  · intro input source source' h h'
    have hrun := hcomes h
    rw [Outcome.ofInput_token hoptions hne hlength] at hrun
    exact hrun.alike (comesTo_runFresh fault faults h'.toDelivers h'.closed)
  · intro input source h hnoToken
    rcases token_cases token input with
      hthere | ⟨front, rest, tokenFault, rfl, hrejected⟩ | ⟨error, hcut⟩
    · exact absurd hthere hnoToken
    · obtain ⟨hstate, hevents⟩ :=
        untouched_of_noToken fault faults hoptions (takeToken_of_rejected hrejected rest) h
      exact ⟨hstate, hevents, .inl ⟨front, rest, tokenFault, rfl, hrejected⟩⟩
    · obtain ⟨hstate, hevents⟩ :=
        untouched_of_noToken fault faults hoptions (takeToken_of_cutOff hcut token) h
      exact ⟨hstate, hevents, .inr ⟨error, hcut⟩⟩
  · intro front tokenFault hrejected rest source h
    have hrun := hcomes h
    rw [Outcome.ofInput_noToken hoptions (takeToken_of_rejected hrejected rest)] at hrun
    refine ⟨?_, fun rest' source' h' => ?_⟩
    · rintro rfl
      exact ⟨hrun.result, hrun.reply⟩
    · have hrun' := hcomes h'
      rw [Outcome.ofInput_noToken hoptions (takeToken_of_rejected hrejected rest')] at hrun'
      exact hrun.alike hrun'
  · intro input error hcut source h
    have hrun := hcomes h
    have hkind : error.kind ≠ .unauthorized := by
      rw [hcut.isCut]
      decide
    rw [Outcome.ofInput_noToken hoptions (takeToken_of_cutOff hcut token),
      Outcome.ofRefusal_of_ne hkind] at hrun
    exact ⟨hrun.result, hrun.reply⟩

/-- The token is "t": what "u" comes to, and what is behind "t". -/
theorem authentication_t_and_u :
    let options : SessionOptions := ⟨⟨none, none⟩, .permissive, some "t", false⟩
    let faults : SinkFaults := ⟨false, none, false⟩
    let refused := runFresh options none faults
      (.ofBytes (Frame.bytes (Utf8.encode "u") ++ [1]))
    refused.1.result = some (.error (.unauthorized .mismatch)) ∧
      refused.1.reply = Utf8.encode "ERROR: UNAUTHORIZED" ∧ refused.2.events = [] ∧
      Alike (runFresh options none faults (.ofBytes (Frame.bytes (Utf8.encode "t") ++ [0, 0])))
        (runFresh { options with token := none } none faults (.ofBytes [0, 0])) := by
  intro options faults refused
  have hvalid : ({ Config.initial with authToken := some "t" } : Config).validate = .ok () := rfl
  obtain ⟨htransparent, hexact, hrejected, -⟩ :=
    authentication hvalid rfl (show options.token = some "t" from rfl) none faults
  have hmismatch : Rejected "t" (Frame.bytes (Utf8.encode "u")) .mismatch :=
    .mismatch (by decide) (by decide) (by decide)
  have hgives := Source.gives_ofBytes none (Frame.bytes (Utf8.encode "u") ++ [1])
  obtain ⟨htold, -⟩ := hrejected _ _ hmismatch [1] _ hgives
  obtain ⟨hresult, hreply⟩ := htold rfl
  obtain ⟨-, hevents, -⟩ := hexact _ _ hgives fun ⟨_, h⟩ =>
    absurd (List.append_inj_left h rfl) (by decide)
  exact ⟨hresult, hreply, hevents,
    htransparent _ _ _ (Source.gives_ofBytes none _) (Source.gives_ofBytes none _)⟩

end Session
end BatchBridge
