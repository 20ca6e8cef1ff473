import BatchBridge.Client
import BatchBridge.Proofs.Compression.Limits
import BatchBridge.Proofs.Session.Authentication
import BatchBridge.Proofs.Session.Fidelity

/-!
# Compression makes no difference

A session whose client has announced a method comes to what a session comes to that has been sent
the payloads as they are.  The two inputs differ by the code and in every batch frame, and the two
runs go side by side: up to the code they read the same frames, and from then on each pair of frames
holds the same payload.

* `Preamble.Before` — what may stand before the query id.
* **`Preamble.read_front`** — up to the code, it makes no difference whether one is expected.
* `Session.Packs` — a payload of a size that is allowed, and a frame from which it comes back.
* **`Session.Outcome.ofStreaming_batchBytes`** — frames that hold the same payloads come to the
  same.
* **`Session.compression_transparent`** — so do whole sessions, and a code that announces no method
  ends a session before it opens a stream.
-/

namespace BatchBridge

namespace Preamble

/-! ## Up to the code -/

/-- What stands before the frame of a query id: the token, if there has to be one.  Where that is
missing, the frame is taken for it, and turned down; a frame that is the token names no query. -/
inductive Before (queryId : Bytes) : Option String → Bytes → Prop where
  | presented {token : Option String} {lead : Bytes} : Presented token lead →
      Before queryId token lead
  | mistaken {expected : String} : queryId ≠ Utf8.encode expected →
      Before queryId (some expected) []

/-- What is made of a frame does not depend on what is behind it, even if it is too long. -/
theorem exists_takeItem_bytes {α : Type} {cap : Option Nat} {state : SessionState}
    {lost : BridgeError → BridgeError} {interpret : Bytes → Except BridgeError α} {payload : Bytes}
    (hlength : payload.length ≤ Frame.maxLength) :
    ∃ taken : Except Refusal α, ∀ rest,
      takeItem cap .frame state lost interpret (Frame.bytes payload ++ rest) =
        taken.map (·, rest) := by
  by_cases hcap : payload.length ≤ cap.getD Frame.maxLength
  · cases hinterpret : interpret payload with
    | ok a =>
      refine ⟨.ok a, fun rest => ?_⟩
      simp only [takeItem, Frame.read_bytes ⟨hcap, hlength⟩, hinterpret]
      rfl
    | error error =>
      refine ⟨.error ⟨error, state⟩, fun rest => ?_⟩
      simp only [takeItem, Frame.read_bytes ⟨hcap, hlength⟩, hinterpret]
      rfl
  · refine ⟨.error ⟨lost (.frameTooLarge payload.length (cap.getD Frame.maxLength)), state⟩,
      fun rest => ?_⟩
    simp only [takeItem, Frame.read, Frame.bytes, List.append_assoc, Frame.split?_length,
      Frame.toNatBE_length hlength, if_neg hcap]
    rfl

/-- The token is there, or it is refused, whatever stands behind the frame of the query id. -/
theorem takeToken_of_before {queryId lead : Bytes} {token : Option String}
    (h : Before queryId token lead) (hlength : queryId.length ≤ Frame.maxLength) :
    (∀ rest, takeToken token (lead ++ (Frame.bytes queryId ++ rest)) =
        .ok ((), Frame.bytes queryId ++ rest)) ∨
      ∃ refusal, ∀ rest, takeToken token (lead ++ (Frame.bytes queryId ++ rest)) =
        .error refusal := by
  cases h with
  | presented hpresented =>
    exact .inl fun rest => takeToken_eq_ok_iff.2 ⟨lead, rfl, hpresented⟩
  | @mistaken expected hother =>
    obtain ⟨front, more, tokenFault, hfront, hrejected⟩ :=
      Session.exists_rejected hother hlength
    refine .inr ⟨⟨.unauthorized tokenFault, .authenticating⟩, fun rest => ?_⟩
    rw [hfront, List.nil_append, List.append_assoc]
    exact Session.takeToken_of_rejected hrejected (more ++ rest)

/-- **Up to the code, it makes no difference whether one is expected**: either an input is refused
before that, or what follows is the code or the schema. -/
theorem read_front {options : SessionOptions} {queryId lead : Bytes}
    (h : Before queryId options.token lead) (hlength : queryId.length ≤ Frame.maxLength) :
    (∃ refusal, ∀ negotiate rest,
        read { options with negotiate } (lead ++ (Frame.bytes queryId ++ rest)) =
          .error refusal) ∨
      ∃ id, ∀ negotiate rest,
        read { options with negotiate } (lead ++ (Frame.bytes queryId ++ rest)) =
          readFromMethod { options with negotiate } id rest := by
  rcases takeToken_of_before h hlength with htoken | ⟨refusal, htoken⟩
  · obtain ⟨named, hnamed⟩ : ∃ named : Except Refusal String, ∀ rest,
        takeQueryId (Frame.bytes queryId ++ rest) = named.map (·, rest) :=
      exists_takeItem_bytes hlength
    cases named with
    | error refusal =>
      refine .inl ⟨refusal, fun negotiate rest => ?_⟩
      rw [read, bind_of_ok (htoken rest), readFromQueryId, bind_of_error (hnamed rest)]
    | ok id =>
      refine .inr ⟨id, fun negotiate rest => ?_⟩
      rw [read, bind_of_ok (htoken rest), readFromQueryId, bind_of_ok (hnamed rest)]
  · refine .inl ⟨refusal, fun negotiate rest => ?_⟩
    rw [read, bind_of_error (htoken rest)]

/-- A code is a word, and is what it is whatever stands behind it. -/
theorem takeMethod_code {code : Nat} (hcode : code ≤ Frame.maxLength) (rest : Bytes) :
    takeMethod true (Bytes.ofNatBE 4 code ++ rest) =
      match Compression.Method.ofCode code with
      | .ok method => .ok (method, rest)
      | .error error => .error ⟨error, .readingQueryId⟩ := by
  have hword : Frame.read none .word (Bytes.ofNatBE 4 code ++ rest) =
      .ok (Bytes.ofNatBE 4 code, rest) :=
    Frame.read_word_eq_ok_iff.2 ⟨rfl, Bytes.length_ofNatBE ..⟩
  have hnumber : Bytes.toNatBE (Bytes.ofNatBE 4 code) = code := Frame.toNatBE_length hcode
  rw [takeMethod, if_pos rfl, takeItem, hword]
  simp only [hnumber]
  cases Compression.Method.ofCode code <;> rfl

/-- Behind the code of a method, the schema is read as if nothing had been announced. -/
theorem readFromMethod_code (options : SessionOptions) (id : String) (method : Compression.Method)
    (rest : Bytes) :
    readFromMethod { options with negotiate := true } id (Bytes.ofNatBE 4 method.code ++ rest) =
      readFromSchema options id method rest := by
  have hcode : method.code ≤ Frame.maxLength := by cases method <;> decide
  have htaken := takeMethod_code hcode rest
  rw [Compression.Method.ofCode_code] at htaken
  rw [readFromMethod, bind_of_ok htaken]
  rfl

theorem ofCode_of_lt {code : Nat} (h : 2 < code) :
    Compression.Method.ofCode code = .error (.protocol (.unknownCompression code)) := by
  rw [Compression.Method.ofCode.eq_def]
  split
  · contradiction
  · contradiction
  · contradiction
  · rfl

/-- Where a query id could be and a code that announces no method, one of the two is refused. -/
theorem read_unknownCode {options : SessionOptions} {queryId lead : Bytes} {code : Nat}
    (hlead : Presented options.token lead) (hlength : queryId.length ≤ maxQueryIdBytes)
    (hcode : code ≤ Frame.maxLength) (hunknown : 2 < code) (rest : Bytes) :
    ∃ error, read { options with negotiate := true }
        (lead ++ (Frame.bytes queryId ++ (Bytes.ofNatBE 4 code ++ rest))) =
          .error ⟨error, .readingQueryId⟩ ∧
      error.kind = .protocol ∧
      ∀ id, Session.parseQueryId queryId = .ok id →
        error = .protocol (.unknownCompression code) := by
  have htoken : takeToken options.token
      (lead ++ (Frame.bytes queryId ++ (Bytes.ofNatBE 4 code ++ rest))) =
        .ok ((), Frame.bytes queryId ++ (Bytes.ofNatBE 4 code ++ rest)) :=
    takeToken_eq_ok_iff.2 ⟨lead, rfl, hlead⟩
  have hread : Frame.read (some maxQueryIdBytes) .frame
      (Frame.bytes queryId ++ (Bytes.ofNatBE 4 code ++ rest)) =
        .ok (queryId, Bytes.ofNatBE 4 code ++ rest) :=
    Frame.read_bytes ((fits_of_length_le (by decide)).2 hlength) _
  rw [read, bind_of_ok htoken, readFromQueryId]
  cases hparse : Session.parseQueryId queryId with
  | error error =>
    have hnamed : takeQueryId (Frame.bytes queryId ++ (Bytes.ofNatBE 4 code ++ rest)) =
        .error ⟨error, .readingQueryId⟩ := by
      simp only [takeQueryId, takeItem, hread, hparse]
    exact ⟨error, bind_of_error hnamed, Session.kind_of_parseQueryId hparse,
      fun _ hid => by cases hid⟩
  | ok id =>
    have hnamed : takeQueryId (Frame.bytes queryId ++ (Bytes.ofNatBE 4 code ++ rest)) =
        .ok (id, Bytes.ofNatBE 4 code ++ rest) := by
      simp only [takeQueryId, takeItem, hread, hparse]
    have hmethod := takeMethod_code hcode rest
    rw [ofCode_of_lt hunknown] at hmethod
    refine ⟨.protocol (.unknownCompression code), ?_, rfl, fun _ _ => rfl⟩
    rw [bind_of_ok hnamed, readFromMethod, bind_of_error hmethod]

end Preamble

namespace Session

/-! ## From the code on -/

/-- A payload that may be sent as it is or packed into a frame, from which it comes back if there is
room for it. -/
structure Packs (cap : Option Nat) (pack : Compression.Method → Bytes → Bytes)
    (method : Compression.Method) (payload : Bytes) : Prop where
  ne_nil : payload ≠ []
  length : payload.length ≤ Compression.maxDecompressed
  fits : Frame.Fits cap payload
  fits_packed : Frame.Fits cap (Client.packed pack method payload)
  comesBack : ∃ limit, Compression.unpack method limit (Client.packed pack method payload) =
    .ok ⟨payload.toArray⟩

section

variable {World Stream : Type} {sink : StreamSink World Stream} {fault : Option WriteFault}
  {cap : Option Nat} {pack : Compression.Method → Bytes → Bytes} {method : Compression.Method}

theorem Packs.expand {payload : Bytes} (h : Packs cap pack method payload) :
    Compression.Decompressor.expand method 0 (Client.packed pack method payload) =
      .ok ⟨payload.toArray⟩ := by
  obtain ⟨_, hunpack⟩ := h.comesBack
  exact Compression.Decompressor.expand_of_unpack hunpack h.length

theorem Packs.packed_ne_nil {payload : Bytes} (h : Packs cap pack method payload) :
    Client.packed pack method payload ≠ [] := by
  intro hempty
  have hexpand := h.expand
  rw [hempty] at hexpand
  exact h.ne_nil (eq_nil_of_expand_nil hexpand)

/-- The batch of a packed payload is the one of the payload, with the same size. -/
theorem Packs.batchOf_packed {payload : Bytes} (h : Packs cap pack method payload)
    (schema : ColumnSchema) :
    batchOf schema method (Client.packed pack method payload) = batchOf schema .none payload := by
  rw [batchOf, h.expand]
  rfl

/-- **Frames that hold the same payloads come to the same**, also if one of the payloads is no batch
or is not taken by the sink. -/
theorem Outcome.ofStreaming_batchBytes {payloads : List Bytes}
    (h : ∀ payload ∈ payloads, Packs cap pack method payload) (schema : ColumnSchema)
    (forwarder : Forwarder Stream) (summary : Summary) (world : World) :
    ofStreaming sink fault cap schema method forwarder summary
        (Client.batchBytes pack method payloads ++ Frame.bytes []) world =
      ofStreaming sink fault cap schema .none forwarder summary
        (Client.batchBytes pack .none payloads ++ Frame.bytes []) world := by
  induction payloads generalizing forwarder summary world with
  | nil =>
    have hend := Frame.read_bytes_nil cap []
    rw [List.append_nil] at hend
    rw [Client.batchBytes, Client.batchBytes, List.nil_append, ofStreaming_of_empty hend,
      ofStreaming_of_empty hend]
  | cons payload payloads ih =>
    obtain ⟨hpayload, hpayloads⟩ := List.forall_mem_cons.1 h
    rw [Client.batchBytes, Client.batchBytes, List.append_assoc, List.append_assoc]
    have hread := Frame.read_bytes hpayload.fits
      (Client.batchBytes pack .none payloads ++ Frame.bytes [])
    have hread' := Frame.read_bytes hpayload.fits_packed
      (Client.batchBytes pack method payloads ++ Frame.bytes [])
    have hsame := hpayload.batchOf_packed schema
    cases hbatch : batchOf schema .none payload with
    | error error =>
      rw [hbatch] at hsame
      exact (ofStreaming_of_undecodable hread' hpayload.packed_ne_nil hsame).trans
        (ofStreaming_of_undecodable hread hpayload.ne_nil hbatch).symm
    | lost =>
      rw [hbatch] at hsame
      exact (ofStreaming_of_lost hread' hpayload.packed_ne_nil hsame).trans
        (ofStreaming_of_lost hread hpayload.ne_nil hbatch).symm
    | ok decoded =>
      obtain ⟨batch, size⟩ := decoded
      rw [hbatch] at hsame
      cases hwrite : forwarder.write sink batch world with
      | mk result forwarder' world' =>
        cases result with
        | error error =>
          exact (ofStreaming_of_notWritten hread' hpayload.packed_ne_nil hsame hwrite).trans
            (ofStreaming_of_notWritten hread hpayload.ne_nil hbatch hwrite).symm
        | ok _ =>
          calc
            _ = _ := ofStreaming_of_written hread' hpayload.packed_ne_nil hsame hwrite
            _ = _ := ih hpayloads forwarder' _ world'
            _ = _ := (ofStreaming_of_written hread hpayload.ne_nil hbatch hwrite).symm

variable {options : SessionOptions} {queryId lead : Bytes}

/-- Announcing that nothing is compressed is as good as not announcing anything. -/
theorem Outcome.ofInput_codeNone (hlead : Preamble.Before queryId options.token lead)
    (hlength : queryId.length ≤ Frame.maxLength) (rest : Bytes) (world : World) :
    ofInput sink fault { options with negotiate := true }
        (lead ++ (Frame.bytes queryId ++ (Bytes.ofNatBE 4 0 ++ rest))) world =
      ofInput sink fault { options with negotiate := false }
        (lead ++ (Frame.bytes queryId ++ rest)) world := by
  rw [ofInput, ofInput]
  rcases Preamble.read_front hlead hlength with ⟨refusal, hread⟩ | ⟨id, hread⟩
  · rw [hread, hread]
  · have hcode := Preamble.readFromMethod_code options id .none rest
    rw [Compression.Method.code] at hcode
    rw [hread, hread, hcode]
    rfl

/-- **Packed payloads come to what payloads come to.** -/
theorem Outcome.ofInput_packed (hlead : Preamble.Before queryId options.token lead)
    (hlength : queryId.length ≤ Frame.maxLength) {schemaText : Bytes}
    (hschema : schemaText.length ≤ Frame.maxLength) {payloads : List Bytes}
    (h : ∀ payload ∈ payloads, Packs options.limits.maxFrameBytes pack method payload)
    (world : World) :
    ofInput sink fault { options with negotiate := true }
        (lead ++ (Frame.bytes queryId ++ (Client.methodBytes (some method) ++
          (Frame.bytes schemaText ++ (Client.batchBytes pack method payloads ++ Frame.bytes [])))))
        world =
      ofInput sink fault { options with negotiate := false }
        (lead ++ (Frame.bytes queryId ++
          (Frame.bytes schemaText ++ (Client.batchBytes pack .none payloads ++ Frame.bytes []))))
        world := by
  rw [ofInput, ofInput]
  rcases Preamble.read_front hlead hlength with ⟨refusal, hread⟩ | ⟨id, hread⟩
  · rw [hread, hread]
  obtain ⟨described, hdescribed⟩ : ∃ described : Except Refusal ColumnSchema, ∀ rest,
      Preamble.takeSchema options.limits.maxFrameBytes options.policy
        (Frame.bytes schemaText ++ rest) = described.map (·, rest) :=
    Preamble.exists_takeItem_bytes hschema
  have hplain (rest : Bytes) : Preamble.readFromMethod { options with negotiate := false } id rest =
      Preamble.readFromSchema options id .none rest := rfl
  rw [hread, hread, Client.methodBytes, Preamble.readFromMethod_code, hplain,
    Preamble.readFromSchema, Preamble.readFromSchema]
  cases described with
  | error refusal =>
    rw [Preamble.bind_of_error (hdescribed _), Preamble.bind_of_error (hdescribed _)]
  | ok schema =>
    rw [Preamble.bind_of_ok (hdescribed _), Preamble.bind_of_ok (hdescribed _)]
    show ofOpening sink fault _ ⟨id, method, schema⟩ _ world =
      ofOpening sink fault _ ⟨id, .none, schema⟩ _ world
    rw [ofOpening, ofOpening]
    generalize Forwarder.openStream sink id schema.fields world = opened
    obtain ⟨result, world'⟩ := opened
    cases result with
    | error error => rfl
    | ok forwarder => exact ofStreaming_batchBytes h schema forwarder (.new id) world'

end

/-- **Compression makes no difference.**  With the code for no compression behind its query id, an
input comes to what it comes to without.  With the code of a method, and with every payload packed
into a frame from which it comes back, it comes to what it comes to with the payloads as they are,
as long as none is larger than payloads may be; they need not be batches, and the sink may fail.
With any other code, a session is over before the sink is asked for anything. -/
theorem compression_transparent {options : SessionOptions} {queryId lead : Bytes}
    (hlead : Preamble.Before queryId options.token lead)
    (hlength : queryId.length ≤ Frame.maxLength) (fault : Option WriteFault) (faults : SinkFaults) :
    let timeout := options.limits.readTimeout
    let negotiated := runFresh { options with negotiate := true } fault faults
    let plain := runFresh { options with negotiate := false } fault faults
    (∀ rest source source',
      source.Gives timeout (lead ++ (Frame.bytes queryId ++ (Bytes.ofNatBE 4 0 ++ rest))) →
      source'.Gives timeout (lead ++ (Frame.bytes queryId ++ rest)) →
      Alike (negotiated source) (plain source')) ∧
    (∀ pack method schemaText payloads source source', schemaText.length ≤ Frame.maxLength →
      (∀ payload ∈ payloads, Packs options.limits.maxFrameBytes pack method payload) →
      source.Gives timeout (lead ++ (Frame.bytes queryId ++ (Client.methodBytes (some method) ++
        (Frame.bytes schemaText ++ (Client.batchBytes pack method payloads ++ Frame.bytes []))))) →
      source'.Gives timeout (lead ++ (Frame.bytes queryId ++
        (Frame.bytes schemaText ++ (Client.batchBytes pack .none payloads ++ Frame.bytes [])))) →
      Alike (negotiated source) (plain source')) ∧
    ∀ code rest source, 2 < code → code ≤ Frame.maxLength →
      Preamble.Presented options.token lead → queryId.length ≤ maxQueryIdBytes →
      source.Gives timeout (lead ++ (Frame.bytes queryId ++ (Bytes.ofNatBE 4 code ++ rest))) →
      (negotiated source).1.failedIn = some .readingQueryId ∧ (negotiated source).2.events = [] ∧
        ∃ error, (negotiated source).1.result = some (.error error) ∧ error.kind = .protocol ∧
          ∀ id, parseQueryId queryId = .ok id → error = .protocol (.unknownCompression code) := by
  intro timeout negotiated plain
  have hnegotiated {input : Bytes} {source : Source} (h : source.Gives timeout input) :
      ComesTo (.ofInput memorySink fault { options with negotiate := true } input
        (MemorySink.new faults)) (negotiated source) :=
    comesTo_runFresh fault faults h.toDelivers h.closed
  have hplain {input : Bytes} {source : Source} (h : source.Gives timeout input) :
      ComesTo (.ofInput memorySink fault { options with negotiate := false } input
        (MemorySink.new faults)) (plain source) :=
    comesTo_runFresh fault faults h.toDelivers h.closed
  refine ⟨?_, ?_, ?_⟩
  · intro rest source source' h h'
    have hcomes := hnegotiated h
    rw [Outcome.ofInput_codeNone hlead hlength] at hcomes
    exact hcomes.alike (hplain h')
  · intro pack method schemaText payloads source source' hschema hpacks h h'
    have hcomes := hnegotiated h
    rw [Outcome.ofInput_packed hlead hlength hschema hpacks] at hcomes
    exact hcomes.alike (hplain h')
  · intro code rest source hunknown hcode hpresented hshort h
    obtain ⟨error, hread, hkind, hvalid⟩ :=
      Preamble.read_unknownCode hpresented hshort hcode hunknown rest
    have hcomes := hnegotiated h
    have hne : error.kind ≠ .unauthorized := by
      rw [hkind]
      decide
    rw [Outcome.ofInput, hread, Outcome.ofReading, Outcome.ofRefusal_of_ne hne] at hcomes
    exact ⟨hcomes.failedIn, congrArg MemorySink.events hcomes.world, error, hcomes.result, hkind,
      hvalid⟩

/-- One row without columns as an LZ4 block, and a code that announces nothing. -/
theorem compression_transparent_lz4 :
    let options : SessionOptions := ⟨⟨some 64, none⟩, .strict, none, true⟩
    let front := Frame.bytes (Utf8.encode "q")
    let back := Frame.bytes (Utf8.encode "\x7b\"columns\":[]\x7d")
    let packed := Frame.bytes (Compression.compress .lz4 [0, 0, 0, 1])
    let run := fun negotiate input =>
      runFresh { options with negotiate } none .none (.ofBytes input)
    Alike (run true (front ++ ([0, 0, 0, 2] ++ (back ++ (packed ++ Frame.bytes [])))))
        (run false (front ++ (back ++ (Frame.bytes [0, 0, 0, 1] ++ Frame.bytes [])))) ∧
      Alike (run true (front ++ ([0, 0, 0, 0] ++ back))) (run false (front ++ back)) ∧
      (run true (front ++ ([0, 0, 0, 3] ++ back))).1.result =
        some (.error (.protocol (.unknownCompression 3))) := by
  intro options front back packed run
  obtain ⟨hnone, hpacked, hunknown⟩ := compression_transparent
    (show Preamble.Before (Utf8.encode "q") options.token [] from .presented rfl) (by decide)
    none .none
  have hpacks : Packs (some 64) Compression.compress .lz4 [0, 0, 0, 1] :=
    ⟨by decide, by decide, ⟨by decide, by decide⟩, ⟨by decide, by decide⟩, 4, rfl⟩
  refine ⟨?_, ?_, ?_⟩
  · exact hpacked Compression.compress .lz4 _ [[0, 0, 0, 1]] _ _ (by decide)
      (List.forall_mem_singleton.2 hpacks) (Source.gives_ofBytes none _)
      (Source.gives_ofBytes none _)
  · exact hnone _ _ _ (Source.gives_ofBytes none _) (Source.gives_ofBytes none _)
  · obtain ⟨-, -, error, hresult, -, hvalid⟩ := hunknown 3 back _ (by decide) (by decide) rfl
      (by decide) (Source.gives_ofBytes none _)
    rw [hvalid "q" rfl] at hresult
    exact hresult

end Session
end BatchBridge
