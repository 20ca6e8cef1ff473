import BatchBridge.Proofs.Compression.Limits

/-!
# Frames that share a scratch

A decompressor writes the payloads of all frames to one scratch.  What is still there from an
earlier frame, accepted or not, does not show in the payload of a later one.

* **`Decompressor.decompress_eq`** — the scratch makes no difference: the answer to a frame is the
  one that the frame has on its own.
* `Unpacks` — what comes out of a frame where there is room for it.
* `Decompressor.answers` — the answers to frames that come one after another;
  **`Decompressor.answers_eq_alone`** — each is the answer of a new decompressor, and both formats
  have the same bound.
-/

namespace BatchBridge.Compression

/-- A frame holds a payload: this comes out of it where there is room for it. -/
def Unpacks (method : Method) (frame : Bytes) (payload : ByteArray) : Prop :=
  ∃ limit, unpack method limit frame = .ok payload

/-- A frame holds one payload at most. -/
theorem Unpacks.unique {method : Method} {frame : Bytes} {payload payload' : ByteArray}
    (h : Unpacks method frame payload) (h' : Unpacks method frame payload') :
    payload = payload' := by
  obtain ⟨limit, h⟩ := h
  obtain ⟨limit', h'⟩ := h'
  have hroom := unpack_of_le h (Nat.le_max_left payload.size payload'.size)
  have hroom' := unpack_of_le h' (Nat.le_max_right payload.size payload'.size)
  exact Except.ok.inj (hroom.symm.trans hroom')

namespace Decompressor

/-! ## One frame -/

/-- What is appended to a cleared scratch is all that it holds. -/
theorem inflateOnto_cleared (limit : Nat) (scratch input : ByteArray) :
    ((inflateOnto limit (cleared scratch) input).1.map
      fun _ => (inflateOnto limit (cleared scratch) input).2) = inflate limit 0 input := by
  have hcleared : cleared scratch = ByteArray.emptyWithCapacity 0 := rfl
  rw [hcleared, inflate]
  generalize inflateOnto limit (ByteArray.emptyWithCapacity 0) input = outcome
  obtain ⟨result, output⟩ := outcome
  cases result with
  | error fault => rfl
  | ok ended => rfl

/-- **What is in the scratch makes no difference.** -/
theorem decompress_eq (decompressor : Decompressor) (frame : Bytes) :
    (decompressor.decompress frame).1 = expand decompressor.method 0 frame ∧
      (decompressor.decompress frame).2.method = decompressor.method := by
  obtain ⟨method, scratch, bounded⟩ := decompressor
  cases method with
  | none => exact ⟨rfl, rfl⟩
  | zlib =>
    have hinflate := inflateOnto_cleared maxDecompressed scratch ⟨frame.toArray⟩
    exact ⟨congrArg (Except.mapError BatchFault.zlib) hinflate, rfl⟩
  | lz4 =>
    have hexpand := (Lz4.expandInto_eq (grown maxDecompressed scratch) 0 frame).1
    rw [size_grown (bounded rfl)] at hexpand
    exact ⟨congrArg (Except.mapError BatchFault.lz4) hexpand, rfl⟩

/-- The answer of a new decompressor: the payload of a frame, or a batch that cannot be decoded. -/
def alone (method : Method) (frame : Bytes) : Except BridgeError ByteArray :=
  ((new method).decompress frame).1.mapError .batchDecode

theorem alone_eq (method : Method) (frame : Bytes) :
    alone method frame = (expand method 0 frame).mapError .batchDecode :=
  congrArg (Except.mapError BridgeError.batchDecode) (decompress_eq (new method) frame).1

theorem alone_eq_ok_iff {method : Method} (hmethod : method ≠ .none) {frame : Bytes}
    {payload : ByteArray} :
    alone method frame = .ok payload ↔
      Unpacks method frame payload ∧ payload.size ≤ maxDecompressed := by
  rw [alone_eq, mapError_eq_ok_iff]
  exact expand_eq_ok_iff hmethod

theorem exists_fault_of_not_ok {method : Method} {frame : Bytes}
    (h : ∀ payload, alone method frame ≠ .ok payload) :
    ∃ fault, alone method frame = .error (.batchDecode fault) := by
  rw [alone_eq] at h ⊢
  cases hexpand : expand method 0 frame with
  | error fault => exact ⟨fault, rfl⟩
  | ok payload =>
    rw [hexpand] at h
    exact absurd rfl (h payload)

/-! ## Frame after frame -/

/-- The answers to frames that come one after another. -/
def answers : List Bytes → Decompressor → List (Except BridgeError ByteArray)
  | [], _ => []
  | frame :: frames, decompressor =>
    (decompressor.decompress frame).1.mapError .batchDecode ::
      answers frames (decompressor.decompress frame).2

/-- Whatever has been left in the scratch, and whatever the frames leave there. -/
theorem answers_eq_map (frames : List Bytes) (decompressor : Decompressor) :
    decompressor.answers frames = frames.map (alone decompressor.method) := by
  induction frames generalizing decompressor with
  | nil => rfl
  | cons frame frames ih =>
    obtain ⟨hpayload, hmethod⟩ := decompress_eq decompressor frame
    rw [List.map_cons, alone_eq, ← hpayload, answers, ih, hmethod]

/-- **Frames do not show in the answers to later ones, and both formats have the same bound**: a
frame that holds a payload is accepted exactly if this is not too large, and every other frame is a
batch that cannot be decoded.  What is not compressed has no bound. -/
theorem answers_eq_alone (method : Method) (frames : List Bytes) :
    (new method).answers frames = frames.map (alone method) ∧
      (∀ frame, alone .none frame = .ok ⟨frame.toArray⟩) ∧
      (method ≠ .none → ∀ frame,
        (∀ payload, alone method frame = .ok payload ↔
          Unpacks method frame payload ∧ payload.size ≤ 33554432) ∧
        ((¬∃ payload, Unpacks method frame payload ∧ payload.size ≤ 33554432) →
          ∃ fault, alone method frame = .error (.batchDecode fault))) := by
  have hbound : maxDecompressed = 33554432 := rfl
  refine ⟨answers_eq_map frames (new method), fun _ => rfl, fun hmethod frame => ?_⟩
  rw [← hbound]
  refine ⟨fun payload => alone_eq_ok_iff hmethod, fun hnone => ?_⟩
  exact exists_fault_of_not_ok fun payload hok =>
    hnone ⟨payload, (alone_eq_ok_iff hmethod).1 hok⟩

/-- A block that breaks off, one of three bytes, and one of a single byte. -/
theorem answers_eq_alone_broken_first :
    ∃ fault, (new .lz4).answers [[0xF0, 1, 2], Lz4.write [97, 98, 99], Lz4.write [100]] =
      [.error (.batchDecode fault), .ok ⟨#[97, 98, 99]⟩, .ok ⟨#[100]⟩] := by
  obtain ⟨hanswers, -, hframes⟩ :=
    answers_eq_alone .lz4 [[0xF0, 1, 2], Lz4.write [97, 98, 99], Lz4.write [100]]
  have hmethod : Method.lz4 ≠ .none := by decide
  obtain ⟨fault, hbroken⟩ := (hframes hmethod [0xF0, 1, 2]).2 (by
    rintro ⟨payload, ⟨limit, hunpack⟩, -⟩
    cases hunpack)
  have hthree := ((hframes hmethod (Lz4.write [97, 98, 99])).1 ⟨#[97, 98, 99]⟩).2
    ⟨⟨3, rfl⟩, by decide⟩
  have hone := ((hframes hmethod (Lz4.write [100])).1 ⟨#[100]⟩).2 ⟨⟨1, rfl⟩, by decide⟩
  exact ⟨fault, by rw [hanswers, List.map_cons, List.map_cons, List.map_cons, hbroken, hthree, hone,
    List.map_nil]⟩

end Decompressor
end BatchBridge.Compression
