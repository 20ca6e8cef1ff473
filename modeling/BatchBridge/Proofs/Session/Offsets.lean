import BatchBridge.Proofs.Batch.Offsets
import BatchBridge.Proofs.Compression.Scratch
import BatchBridge.Proofs.Session.Caps

/-!
# Texts that a session decodes

Whether the texts of a payload stay in the reach of their offsets depends on how long the payload
may be.  In a session, that is a matter of the cap on frames, or of the limit on what comes out of a
compressed frame.

* `Session.payload?` — the payload that a session is about to decode.
  **`Session.step_of_payload?`**: the next step does so.
* **`Session.length_le_of_payload?`** — as it comes, it is no longer than the configured cap, and
  out of a compressed frame no longer than the largest payload there may be.
* **`Session.texts_addressable`** — how much text a payload can come to, and which payloads leave
  all of it in the reach of the offsets.
-/

namespace BatchBridge.Session

open BatchBridge.Frame BatchBridge.Frame.Reader

variable {World Stream : Type} {session : Session Stream} {schema : ColumnSchema}
  {method : Compression.Method} {payload : Bytes}

/-! ## The next payload -/

/-- The payload that a session is about to decode, the schema that it has to follow, and how it has
been compressed. -/
def payload? (session : Session Stream) : Option (ColumnSchema × Compression.Method × Bytes) :=
  match session.phase, session.reader.readFrame.1 with
  | .streaming exporting, .ok frame =>
    if frame.isEmpty then none
    else
      match (exporting.decompressor.decompress frame).1 with
      | .ok payload => some (exporting.schema, exporting.decompressor.method, payload.data.toList)
      | .error _ => none
  | _, _ => none

/-- It is there exactly behind a frame that is not empty and can be decompressed. -/
theorem payload?_eq_some_iff :
    session.payload? = some (schema, method, payload) ↔
      ∃ exporting frame expanded, session.phase = .streaming exporting ∧
        session.reader.readFrame.1 = .ok frame ∧ frame ≠ [] ∧
        (exporting.decompressor.decompress frame).1 = .ok expanded ∧
        schema = exporting.schema ∧ method = exporting.decompressor.method ∧
        payload = expanded.data.toList := by
  constructor
  · intro h
    rw [payload?] at h
    split at h
    · rename_i exporting frame hphase hread
      split at h
      · cases h
      · rename_i hne
        split at h
        · rename_i expanded hexpanded
          cases h
          exact ⟨exporting, frame, expanded, hphase, hread, fun hnil => hne (by rw [hnil]; rfl),
            hexpanded, rfl, rfl, rfl⟩
        · cases h
    · cases h
  · rintro ⟨exporting, frame, expanded, hphase, hread, hne, hexpanded, rfl, rfl, rfl⟩
    have hnonempty : frame.isEmpty = false := List.isEmpty_eq_false_iff.2 hne
    simp only [payload?, hphase, hread, hnonempty, Bool.false_eq_true, if_false, hexpanded]

/-- **The next step decodes it**: it aborts with the fault, or writes the batch. -/
theorem step_of_payload? (h : session.payload? = some (schema, method, payload))
    (sink : StreamSink World Stream) (world : World) :
    (∀ fault, Batch.decode schema payload = .error fault → ∃ forwarder,
      (session.step sink world).1.phase = .aborting forwarder (.batchDecode fault)) ∧
    ∀ batch, Batch.decode schema payload = .ok batch → ∃ exporting before,
      session.step sink world = writeBatch sink exporting batch payload.length before world := by
  obtain ⟨exporting, frame, expanded, hphase, hread, hne, hexpanded, rfl, rfl, rfl⟩ :=
    payload?_eq_some_iff.1 h
  have hnonempty : frame.isEmpty = false := List.isEmpty_eq_false_iff.2 hne
  generalize hcalled : session.reader.readFrame = called at hread
  obtain ⟨result, reader⟩ := called
  subst hread
  generalize hdecompress : exporting.decompressor.decompress frame = decompressed at hexpanded
  obtain ⟨expansion, decompressor⟩ := decompressed
  subst hexpanded
  constructor
  · intro fault hfault
    refine ⟨exporting.forwarder, ?_⟩
    simp only [step, hphase, readBatch, hcalled, hnonempty, Bool.false_eq_true, if_false,
      decodeBatch, hdecompress, Decoded.ofExcept, Decoded.bind, hfault, Decoded.map,
      Decoded.mapError, goTo]
  · intro batch hbatch
    refine ⟨{ exporting with decompressor }, { session with reader }, ?_⟩
    simp only [step, hphase, readBatch, hcalled, hnonempty, Bool.false_eq_true, if_false,
      decodeBatch, hdecompress, Decoded.ofExcept, Decoded.bind, hbatch, Decoded.map,
      Decoded.mapError]
    rfl

/-- A session is not lost over a payload that can be read or has a fault. -/
theorem phase_step_ne_lost (h : session.payload? = some (schema, method, payload))
    (hkept : Batch.decode schema payload ≠ .lost) (sink : StreamSink World Stream) (world : World) :
    (session.step sink world).1.phase ≠ .lost := by
  obtain ⟨hfails, hwrites⟩ := step_of_payload? h sink world
  cases hdecode : Batch.decode schema payload with
  | lost => exact absurd hdecode hkept
  | error fault =>
    obtain ⟨forwarder, hphase⟩ := hfails fault hdecode
    simp [hphase]
  | ok batch =>
    obtain ⟨exporting, before, hstep⟩ := hwrites batch hdecode
    rw [hstep, writeBatch]
    cases (exporting.forwarder.write sink batch world).result <;> simp [goTo]

/-- **A payload is no longer than the cap on its frame, or than what may come out of it.** -/
theorem length_le_of_payload? {limits : Limits} (h : session.Settled limits)
    (hpayload : session.payload? = some (schema, method, payload)) :
    payload.length ≤
      if method = .none then limits.maxFrameBytes.getD maxLength
      else Compression.maxDecompressed := by
  obtain ⟨exporting, frame, expanded, hphase, hread, -, hexpanded, rfl, rfl, rfl⟩ :=
    payload?_eq_some_iff.1 hpayload
  obtain ⟨hbetween, rfl⟩ := h (by rw [hphase]; rfl)
  have hfits := fits_of_readFrame hbetween hread
  rw [(Compression.Decompressor.decompress_eq exporting.decompressor frame).1] at hexpanded
  have hsize := Compression.Decompressor.size_le_of_expand hexpanded
  split at hsize
  case isTrue hmethod =>
    rw [if_pos hmethod]
    exact Nat.le_trans hsize hfits.cap
  case isFalse hmethod =>
    rw [if_neg hmethod]
    exact hsize

/-- Where the configured cap is small enough, or frames are compressed, so is the payload. -/
theorem length_le_of_steps (config : Config) (source : Source) (writeFault : Option WriteFault)
    (sink : StreamSink World Stream) (world : World) (n : Nat)
    (hpayload : (steps sink n (new (.ofConfig config) source writeFault) world).1.payload? =
      some (schema, method, payload))
    (hlimited : 0 < config.maxFrameBytes.toNat ∧ config.maxFrameBytes.toNat ≤ maxOffset / 3 ∨
      method ≠ .none) :
    payload.length ≤ maxOffset / 3 := by
  have hsettled := settled_steps (settled_new (.ofConfig config) source writeFault) sink world n
  have hlength := length_le_of_payload? hsettled hpayload
  have hlargest : Compression.maxDecompressed ≤ maxOffset / 3 := by decide
  split at hlength
  case isTrue hmethod =>
    obtain ⟨hpos, hcap⟩ := hlimited.resolve_right (fun hne => hne hmethod)
    rw [maxFrameBytes_ofConfig, if_neg (Nat.pos_iff_ne_zero.1 hpos), Option.getD_some] at hlength
    exact Nat.le_trans hlength hcap
  case isFalse => exact Nat.le_trans hlength hlargest

/-- **Texts stay in the reach of their offsets.**

* However far a payload is read, and whether that ends well or not, the texts that have been
  appended to all columns are together at most three times as long as what stands behind the row
  count.
* Of a payload of at most 715827882 bytes, all texts are therefore in the reach of the offsets of
  their columns.
* A session decodes no longer payloads, and is therefore not lost over them, if its frames are
  compressed or have a cap that is no larger, as they have by the initial settings. -/
theorem texts_addressable (schema : ColumnSchema) (payload : Bytes) :
    (∀ walk, Batch.Reaches schema payload walk → walk.textBytes ≤ 3 * (payload.length - 4)) ∧
    (∀ batch, Batch.decode schema payload = .ok batch →
      Column.totalTextBytes batch.columns ≤ 3 * (payload.length - 4)) ∧
    (∀ fault, Batch.decode schema payload = .error fault → payload.length < 4 ∨
      ∃ walk, Batch.Reaches schema payload walk ∧
        walk.Fails (Batch.declaredRows payload) fault) ∧
    (payload.length ≤ 715827882 → Batch.Addressable schema payload) ∧
    ∀ (World Stream : Type) (sink : StreamSink World Stream) (world : World) (config : Config)
      (source : Source) (writeFault : Option WriteFault) (n : Nat) (method : Compression.Method),
      (steps sink n (new (.ofConfig config) source writeFault) world).1.payload? =
        some (schema, method, payload) →
      0 < config.maxFrameBytes.toNat ∧ config.maxFrameBytes.toNat ≤ 715827882 ∨
        method ≠ .none →
      payload.length ≤ 715827882 ∧ Batch.Addressable schema payload ∧
        (steps sink (n + 1) (new (.ofConfig config) source writeFault) world).1.phase ≠ .lost := by
  have hlongest : maxOffset / 3 = 715827882 := rfl
  rw [← hlongest]
  refine ⟨fun walk hreaches => hreaches.textBytes_le, fun batch hbatch => ?_,
    fun fault hfault => ?_, Batch.addressable_of_length_le schema, ?_⟩
  · obtain ⟨walk, hreaches, hcolumns⟩ := Batch.exists_columns_of_decode hbatch
    rw [hcolumns]
    exact hreaches.textBytes_le
  · rcases Nat.lt_or_ge payload.length 4 with hshort | hlength
    · exact Or.inl hshort
    · exact Or.inr (Batch.exists_fails_of_refused hlength hfault)
  · intro World Stream sink world config source writeFault n method hpayload hlimited
    have hlength :=
      length_le_of_steps config source writeFault sink world n hpayload hlimited
    refine ⟨hlength, Batch.addressable_of_length_le schema hlength, ?_⟩
    rw [steps_succ]
    exact phase_step_ne_lost hpayload (Batch.decode_ne_lost_of_length_le schema hlength) _ _

/-- A text with two malformed sequences, under the initial settings; and the same with its end
missing. -/
theorem texts_addressable_two_malformed :
    let schema : ColumnSchema := ⟨[.ofType "v" .varchar]⟩
    let payload : Bytes := [0, 0, 0, 1, 0, 0, 3, 97, 255, 195]
    let source := Source.ofBytes (Frame.bytes (Utf8.encode "q") ++
      (Frame.bytes (Utf8.encode schema.toJson) ++ Frame.bytes payload))
    let start : Session MemoryStream := new (.ofConfig .initial) source none
    (steps memorySink 4 start (.new .none)).1.payload? = some (schema, .none, payload) ∧
      Batch.Addressable schema payload ∧
      (∃ batch, Batch.decode schema payload = .ok batch ∧
        Column.totalTextBytes batch.columns = 7 ∧
        Column.totalTextBytes batch.columns ≤ 3 * (payload.length - 4)) ∧
      Batch.Addressable schema (payload.take 9) ∧
      ∃ fault walk, Batch.decode schema (payload.take 9) = .error fault ∧
        Batch.Reaches schema (payload.take 9) walk ∧ walk.Fails 1 fault ∧
        walk.textBytes ≤ 15 := by
  intro schema payload source start
  obtain ⟨-, hbatch, -, -, hsession⟩ := texts_addressable schema payload
  obtain ⟨hwalk, -, hfails, hshort, -⟩ := texts_addressable schema (payload.take 9)
  have hpayload : (steps memorySink 4 start (.new .none)).1.payload? =
      some (schema, .none, payload) := by decide +kernel
  have hcap : 0 < Config.initial.maxFrameBytes.toNat ∧
      Config.initial.maxFrameBytes.toNat ≤ 715827882 := by decide
  refine ⟨hpayload, (hsession _ _ _ _ _ _ _ _ _ hpayload (Or.inl hcap)).2.1,
    ⟨_, rfl, by decide, hbatch _ rfl⟩, hshort (by decide), ?_⟩
  obtain ⟨walk, hreaches, hstops⟩ := (hfails _ rfl).resolve_left (by decide)
  exact ⟨_, walk, rfl, hreaches, hstops, hwalk walk hreaches⟩

end BatchBridge.Session
