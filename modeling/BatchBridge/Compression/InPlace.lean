import BatchBridge.Compression.Lz4

/-!
# LZ4 blocks in place

A block can be expanded into a buffer of a fixed size, which it is written into from the front.  The
size is the limit then, and nothing is read that has not been written before, so what the buffer
holds makes no difference.

* `Lz4.Slots` — a buffer, and how much of it has been written; `Lz4.inPlace` writes into it.
* `Lz4.expandInto` — expands a block into a buffer.
* `Lz4.Slots.Holds` — the front of the buffer is the output so far.
* **`Lz4.agree_sequences`** — a block goes in a buffer as it does where output grows, step by step,
  also if the block fails.
-/

namespace BatchBridge.Compression.Lz4

/-! ## Bytes of a buffer -/

theorem toList_copySlice (piece : Bytes) (buffer : ByteArray) (filled : Nat) :
    (ByteArray.copySlice ⟨piece.toArray⟩ 0 buffer filled piece.length).data.toList =
      buffer.data.toList.take filled ++ piece ++
        buffer.data.toList.drop (filled + piece.length) := by
  have hrest : (buffer.data.toList.drop (filled + piece.length)).length ≤
      buffer.size - (filled + piece.length) := by
    rw [List.length_drop, Array.length_toList]
    exact Nat.le_refl _
  simp [ByteArray.copySlice, List.extract_eq_take_drop, List.take_of_length_le hrest]

theorem toList_set! (buffer : ByteArray) (i : Nat) (b : UInt8) :
    (buffer.set! i b).data.toList = buffer.data.toList.set i b := by
  simp [ByteArray.set!]

theorem get!_eq_getD (buffer : ByteArray) (i : Nat) :
    buffer.get! i = buffer.data.toList.getD i 0 := by
  simp only [ByteArray.get!, Array.getElem!_eq_getD, Array.getD_eq_getD_getElem?,
    List.getD_eq_getElem?_getD, Array.getElem?_toList]
  rfl

/-! ## Writing into a buffer -/

/-- A buffer, and how much of it has been written. -/
structure Slots where
  buffer : ByteArray
  filled : Nat

namespace Slots

/-- Writes bytes behind what has been written. -/
def write (piece : Bytes) (slots : Slots) : Slots :=
  { buffer := ByteArray.copySlice ⟨piece.toArray⟩ 0 slots.buffer slots.filled piece.length
    filled := slots.filled + piece.length }

/-- Writes a number of bytes, each of them the byte a distance back. -/
def copy : Nat → Nat → Slots → Slots
  | 0, _, slots => slots
  | n + 1, distance, ⟨buffer, filled⟩ =>
    let b := if distance ≤ filled then buffer.get! (filled - distance) else 0
    copy n distance ⟨buffer.set! filled b, filled + 1⟩

end Slots

/-- A buffer that output is written into. -/
def inPlace : Target Slots := ⟨Slots.filled, Slots.write, Slots.copy⟩

/-- Expands a block into a buffer, from the front, if the output fits: how much it is, and the
buffer with what has been written, also if the block fails. -/
def expandInto (buffer : ByteArray) (input : Bytes) : Except Lz4Fault Nat × ByteArray :=
  match sequences inPlace buffer.size (input.length + 1) input ⟨buffer, 0⟩ with
  | .ok _ slots => (.ok slots.filled, slots.buffer)
  | .error fault slots => (.error fault, slots.buffer)

/-! ## What has been written -/

/-- The front of a buffer of this size is the output. -/
structure Slots.Holds (limit : Nat) (slots : Slots) (output : ByteArray) : Prop where
  size : slots.buffer.size = limit
  filled : slots.filled = output.size
  front : ∃ unused, slots.buffer.data.toList = output.data.toList ++ unused

namespace Slots.Holds

variable {limit : Nat} {slots : Slots} {output : ByteArray}

theorem length_unused (h : Holds limit slots output) {unused : Bytes}
    (hfront : slots.buffer.data.toList = output.data.toList ++ unused) :
    output.size + unused.length = limit := by
  have hlength := congrArg List.length hfront
  rw [List.length_append, Array.length_toList, Array.length_toList] at hlength
  exact hlength.symm.trans h.size

/-- Nothing is there yet. -/
theorem start (buffer : ByteArray) (room : Nat) :
    Holds buffer.size ⟨buffer, 0⟩ (ByteArray.emptyWithCapacity room) :=
  ⟨rfl, rfl, buffer.data.toList, rfl⟩

/-- What has been written is the output. -/
theorem extract (h : Holds limit slots output) : slots.buffer.extract 0 slots.filled = output := by
  obtain ⟨unused, hfront⟩ := h.front
  have hdata : slots.buffer.data.toList.take output.size = output.data.toList := by
    rw [hfront]
    exact List.take_left' (Array.length_toList ..)
  rw [h.filled]
  apply ByteArray.ext
  apply Array.ext'
  simpa [ByteArray.data_extract] using hdata

/-- Output with so much behind it that it fills a buffer. -/
theorem of_front {unused : Bytes}
    (hfront : slots.buffer.data.toList = output.data.toList ++ unused)
    (hfilled : slots.filled = output.size) (hsize : output.size + unused.length = limit) :
    Holds limit slots output := by
  refine ⟨?_, hfilled, unused, hfront⟩
  have hlength := congrArg List.length hfront
  rw [List.length_append, Array.length_toList, Array.length_toList] at hlength
  exact hlength.trans hsize

theorem write (h : Holds limit slots output) {piece : Bytes}
    (hroom : output.size + piece.length ≤ limit) :
    Holds limit (slots.write piece) (output ++ ⟨piece.toArray⟩) := by
  obtain ⟨unused, hfront⟩ := h.front
  have hlength := h.length_unused hfront
  have hspliced : (slots.write piece).buffer.data.toList =
      (output ++ ⟨piece.toArray⟩ : ByteArray).data.toList ++ unused.drop piece.length := by
    have hsize : output.data.toList.length = output.size := Array.length_toList ..
    rw [Slots.write, toList_copySlice, hfront, h.filled, ← List.drop_drop,
      List.take_left' hsize, List.drop_left' hsize]
    simp
  refine of_front hspliced ?_ ?_
  · show slots.filled + piece.length = _
    rw [h.filled, ByteArray.size_append]
    rfl
  · rw [ByteArray.size_append, List.length_drop]
    show output.size + piece.length + _ = limit
    omega

/-- A copy from no distance at all would read what the buffer has held before. -/
theorem copy (h : Holds limit slots output) {n distance : Nat} (hroom : output.size + n ≤ limit)
    (hdistance : 0 < distance) :
    Holds limit (slots.copy n distance) (copyBack n distance output) := by
  induction n generalizing slots output with
  | zero => exact h
  | succ n ih =>
    obtain ⟨buffer, filled⟩ := slots
    obtain ⟨unused, hfront⟩ := h.front
    have hlength := h.length_unused hfront
    have hfilled : filled = output.size := h.filled
    subst hfilled
    obtain ⟨old, unused, rfl⟩ : ∃ old later, unused = old :: later := by
      cases unused with
      | nil => simp at hlength; omega
      | cons old later => exact ⟨old, later, rfl⟩
    have hsize : output.data.toList.length = output.size := Array.length_toList ..
    -- What is read lies in front of what is written.
    have hread : (if distance ≤ output.size then buffer.get! (output.size - distance) else 0) =
        if distance ≤ output.size then output.get! (output.size - distance) else 0 := by
      split
      · have hbefore : output.size - distance < output.data.toList.length := by omega
        rw [get!_eq_getD, get!_eq_getD, hfront, List.getD_eq_getElem?_getD,
          List.getElem?_append_left hbefore, List.getD_eq_getElem?_getD]
      · rfl
    rw [Slots.copy, copyBack, hread]
    generalize (if distance ≤ output.size then output.get! (output.size - distance) else 0) = b
    have hset : (buffer.set! output.size b).data.toList =
        (output.push b).data.toList ++ unused := by
      rw [toList_set!, hfront, ← hsize, List.set_append_right _ _ (Nat.le_refl _), Nat.sub_self]
      simp
    have hpushed : output.size + 1 = (output.push b).size := ByteArray.size_push.symm
    rw [List.length_cons] at hlength
    refine ih (of_front hset hpushed ?_) ?_
    · rw [← hpushed]
      omega
    · rw [← hpushed]
      omega

end Slots.Holds

/-! ## Step by step -/

section

variable {α β : Type} {limit : Nat}

/-- A step into the buffer has gone like the step of the output. -/
inductive Alike (limit : Nat) :
    EStateM.Result Lz4Fault Slots α → EStateM.Result Lz4Fault ByteArray α → Prop where
  | ok {a : α} {slots : Slots} {output : ByteArray} : slots.Holds limit output →
      Alike limit (.ok a slots) (.ok a output)
  | error {fault : Lz4Fault} {slots : Slots} {output : ByteArray} : slots.Holds limit output →
      Alike limit (.error fault slots) (.error fault output)

/-- A step goes alike in a buffer and for an output that is its front. -/
def Agree (limit : Nat) (m : Expander Slots α) (m' : Expander ByteArray α) : Prop :=
  ∀ ⦃slots output⦄, Slots.Holds limit slots output → Alike limit (m slots) (m' output)

theorem Agree.bind {m : Expander Slots α} {m' : Expander ByteArray α} {f : α → Expander Slots β}
    {f' : α → Expander ByteArray β} (h : Agree limit m m') (hf : ∀ a, Agree limit (f a) (f' a)) :
    Agree limit (m >>= f) (m' >>= f') := by
  intro slots output hholds
  have hfirst := h hholds
  simp only [EStateM.bind, Bind.bind]
  generalize m slots = result at hfirst
  generalize m' output = result' at hfirst
  cases hfirst with
  | ok hnext => exact hf _ hnext
  | error hnext => exact .error hnext

theorem agree_pure (a : α) : Agree limit (pure a) (pure a) := fun _ _ hholds => .ok hholds

theorem agree_throw (fault : Lz4Fault) :
    Agree limit (throw fault : Expander Slots α) (throw fault) :=
  fun _ _ hholds => .error hholds

theorem agree_found (result : Except Lz4Fault α) : Agree limit (found result) (found result) := by
  cases result with
  | error fault => exact agree_throw fault
  | ok a => exact agree_pure a

/-- Where there is no room, nothing is written. -/
theorem Agree.reserve {length : Nat} {m : Unit → Expander Slots α}
    {m' : Unit → Expander ByteArray α}
    (h : ∀ ⦃slots output⦄, Slots.Holds limit slots output → output.size + length ≤ limit →
      Alike limit (m () slots) (m' () output)) :
    Agree limit (reserve inPlace limit length >>= m) (reserve appending limit length >>= m') := by
  intro slots output hholds
  have hsize : inPlace.size slots = appending.size output := hholds.filled
  simp only [EStateM.bind, Bind.bind, Lz4.reserve, hsize]
  by_cases hroom : appending.size output + length ≤ limit
  · simp only [hroom, if_true]
    exact h hholds hroom
  · simp only [hroom, if_false]
    exact .error hholds

theorem agree_literals (length : Nat) (input : Bytes) :
    Agree limit (literals inPlace limit length input) (literals appending limit length input) := by
  rw [literals, literals]
  cases hsplit : Bytes.split? length input with
  | none => exact agree_throw _
  | some parts =>
    obtain ⟨piece, rest⟩ := parts
    obtain ⟨-, rfl⟩ := Bytes.split?_eq_some_iff.1 hsplit
    exact .reserve fun slots output hholds hroom => .ok (hholds.write hroom)

/-- A match is written where there is room for it, and reads what has been written. -/
theorem alike_repeated {slots : Slots} {output : ByteArray} (h : slots.Holds limit output)
    {length offset : Nat} (hroom : output.size + length ≤ limit) (hoffset : 0 < offset) :
    Alike limit (repeated inPlace length offset slots)
      (repeated appending length offset output) := by
  have hsize : inPlace.size slots = appending.size output := h.filled
  rw [repeated, repeated, hsize]
  by_cases hthere : offset ≤ appending.size output
  · rw [if_pos hthere, if_pos hthere]
    exact .ok (h.copy hroom hoffset)
  · rw [if_neg hthere, if_neg hthere]
    exact .error h

theorem agree_matched (half : Nat) (input : Bytes) :
    Agree limit (matched inPlace limit half input) (matched appending limit half input) := by
  rw [matched.eq_def, matched.eq_def]
  rcases input with _ | ⟨low, _ | ⟨high, rest⟩⟩
  · exact agree_throw _
  · exact agree_throw _
  · by_cases hzero : low.toNat + 256 * high.toNat = 0
    · simp only [hzero, if_true]
      exact agree_throw _
    · simp only [hzero, if_false]
      refine (agree_found _).bind fun found => .reserve fun slots output hholds hroom => ?_
      have hrepeated := alike_repeated hholds hroom (Nat.pos_of_ne_zero hzero)
      simp only [EStateM.bind, Bind.bind]
      generalize repeated inPlace (found.1 + minMatch) _ slots = result at hrepeated
      generalize repeated appending (found.1 + minMatch) _ output = result' at hrepeated
      cases hrepeated with
      | ok hnext => exact .ok hnext
      | error hnext => exact .error hnext

theorem agree_sequence (input : Bytes) :
    Agree limit (sequence inPlace limit input) (sequence appending limit input) := by
  cases input with
  | nil => exact agree_throw _
  | cons token rest =>
    refine (agree_found _).bind fun found => (agree_literals ..).bind fun rest => ?_
    split
    · exact agree_pure none
    · exact (agree_matched ..).bind fun rest => agree_pure (some rest)

/-- **A block goes alike in a buffer and for an output that is its front**, whatever is behind the
front. -/
theorem agree_sequences (rounds : Nat) (input : Bytes) :
    Agree limit (sequences inPlace limit rounds input)
      (sequences appending limit rounds input) := by
  induction rounds generalizing input with
  | zero => exact agree_throw _
  | succ rounds ih =>
    refine (agree_sequence input).bind fun left => ?_
    cases left with
    | none => exact agree_pure ()
    | some rest => exact ih rest

end

/-- **What a buffer held before makes no difference**: the output is the one under the limit of its
size, and the buffer keeps that size. -/
theorem expandInto_eq (buffer : ByteArray) (room : Nat) (input : Bytes) :
    ((expandInto buffer input).1.map fun length => (expandInto buffer input).2.extract 0 length) =
        expand buffer.size room input ∧
      (expandInto buffer input).2.size = buffer.size := by
  have hagree := agree_sequences (input.length + 1) input (Slots.Holds.start buffer room)
  rw [expandInto, expand]
  generalize sequences inPlace buffer.size (input.length + 1) input ⟨buffer, 0⟩ = result at hagree
  generalize sequences appending buffer.size (input.length + 1) input
    (ByteArray.emptyWithCapacity room) = result' at hagree
  cases hagree with
  | ok hholds => exact ⟨congrArg Except.ok hholds.extract, hholds.size⟩
  | error hholds => exact ⟨rfl, hholds.size⟩

end BatchBridge.Compression.Lz4
