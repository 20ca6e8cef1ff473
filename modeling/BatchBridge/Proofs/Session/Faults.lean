import BatchBridge.Proofs.Schema.Typing
import BatchBridge.Proofs.Session.Step

/-!
# What goes wrong, by kind

Every error that a session can meet says by its kind where it comes from: a read, the query id or
the compression code, the schema, a batch.  Only a token that is turned down makes an error of the
kind `unauthorized`.

* `BridgeError.IsReading.kind_mem` — reads.
* `kind_of_parseQueryId`, `kind_of_ofCode`, `kind_of_parse`, `kind_of_decodeBatch` — what has been
  read makes no sense.
* **`Fails.kind_ne_unauthorized`** — so nothing that comes on the wire after the token, or fails to
  come, passes for a wrong token.
-/

namespace BatchBridge

theorem BridgeError.IsReading.kind_mem {error : BridgeError} (h : error.IsReading) :
    error.kind ∈ [ErrorKind.connectionClosed, .frameTooLarge, .timeout, .io] := by
  cases h <;> simp [BridgeError.kind]

namespace Session

variable {Stream : Type}

theorem kind_of_parseQueryId {frame : Bytes} {error : BridgeError}
    (h : parseQueryId frame = .error error) : error.kind = .protocol := by
  rw [parseQueryId] at h
  split at h
  · cases h
    rfl
  · split at h <;> cases h
    rfl

theorem kind_of_ofCode {code : Nat} {error : BridgeError}
    (h : Compression.Method.ofCode code = .error error) : error.kind = .protocol := by
  unfold Compression.Method.ofCode at h
  split at h <;> cases h
  rfl

theorem eq_error_of_map {ε α β : Type} {f : α → β} {result : Except ε α} {error : ε}
    (h : result.map f = .error error) : result = .error error := by
  cases result with
  | ok a => cases h
  | error fault =>
    cases h
    rfl

theorem kind_of_resolve {policy : TypePolicy} {columns : List (String × String)}
    {error : BridgeError} (h : ColumnSchema.resolve policy columns = .error error) :
    policy = .strict ∧ error.kind = .unsupportedType := by
  cases policy with
  | permissive =>
    rw [ColumnSchema.resolve_permissive] at h
    cases h
  | strict =>
    have hstrict := ColumnSchema.resolve_strict columns
    rw [h] at hstrict
    cases hstrict
    exact ⟨rfl, rfl⟩

/-- Only the strict policy turns types down. -/
theorem kind_of_parse {payload : Bytes} {policy : TypePolicy} {error : BridgeError}
    (h : ColumnSchema.parse payload policy = .error error) :
    error.kind = .schemaParse ∨ policy = .strict ∧ error.kind = .unsupportedType := by
  rw [ColumnSchema.parse] at h
  split at h
  · cases h
    exact .inl rfl
  · split at h
    · cases h
      exact .inl rfl
    · exact .inr (kind_of_resolve (eq_error_of_map h))

theorem kind_of_decodeBatch {exporting : Export Stream} {frame : Bytes} {error : BridgeError}
    {decompressor : Compression.Decompressor}
    (h : decodeBatch exporting frame = (.error error, decompressor)) :
    error.kind = .batchDecode := by
  obtain ⟨fault, rfl, -⟩ := decodeBatch_eq_error_iff.1 (congrArg Prod.fst h)
  rfl

/-! ## Errors of a session -/

theorem isReading_of_readFrame {reader after : Frame.Reader} {error : BridgeError}
    (h : reader.readFrame = (.error error, after)) : error.IsReading := by
  have hconsumes := reader.consumes_readFrame
  rw [h] at hconsumes
  exact hconsumes.error _ rfl

theorem isReading_of_readFrameCapped {reader after : Frame.Reader} {cap : Option Nat}
    {error : BridgeError} (h : reader.readFrameCapped cap = (.error error, after)) :
    error.IsReading := by
  have hconsumes := reader.consumes_readFrameCapped cap
  rw [h] at hconsumes
  exact hconsumes.error _ rfl

theorem isReading_of_readWord {reader after : Frame.Reader} {error : BridgeError}
    (h : reader.readWord = (.error error, after)) : error.IsReading := by
  have hconsumes := reader.consumes_readWord
  rw [h] at hconsumes
  exact hconsumes.error _ rfl

theorem kind_ne_unauthorized_of_isReading {error : BridgeError} (h : error.IsReading) :
    error.kind ≠ .unauthorized := by
  have hmem := h.kind_mem
  rintro hkind
  rw [hkind] at hmem
  exact absurd hmem (by decide)

/-- **Nothing but the token is unauthorized.** -/
theorem Fails.kind_ne_unauthorized {session : Session Stream} {error : BridgeError}
    {reader : Frame.Reader} (h : Fails session error reader) : error.kind ≠ .unauthorized := by
  cases h with
  | noToken _ hread _ =>
    exact kind_ne_unauthorized_of_isReading (isReading_of_readFrameCapped hread)
  | noQueryId _ hread =>
    exact kind_ne_unauthorized_of_isReading (isReading_of_readFrameCapped hread)
  | badQueryId _ _ hparse => rw [kind_of_parseQueryId hparse]; decide
  | noMethod _ hread => exact kind_ne_unauthorized_of_isReading (isReading_of_readWord hread)
  | badMethod _ _ hcode => rw [kind_of_ofCode hcode]; decide
  | noSchema _ hread => exact kind_ne_unauthorized_of_isReading (isReading_of_readFrame hread)
  | badSchema _ _ hparse => rcases kind_of_parse hparse with h | ⟨-, h⟩ <;> rw [h] <;> decide

end Session
end BatchBridge
