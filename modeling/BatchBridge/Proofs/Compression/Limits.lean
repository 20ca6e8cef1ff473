import BatchBridge.Compression.Method

/-!
# Limits of decompression

A decompressor is told how much output it may give.  The limit decides whether there is any output
and not what the output is.

* `Inflater.Steady`, `Lz4.Steady` — a step that the limit either stops or leaves as it is.  LZ4
  never goes past the limit; inflating goes past it by a window and looks later.
* **`inflate_of_le`**, **`Lz4.expand_of_le`** — output comes out under every limit that it keeps to.
* `unpack` — what a decompressor gives under any limit.
* **`Decompressor.expand_eq_ok_iff`** — a payload is accepted when there is a limit under which it
  comes out and it is not larger than payloads may be.
-/

namespace BatchBridge.Compression

theorem size_copyBack (n distance : Nat) (out : ByteArray) :
    (copyBack n distance out).size = out.size + n := by
  induction n generalizing out with
  | zero => rfl
  | succ n ih =>
    rw [copyBack, ih, ByteArray.size_push]
    omega

section

variable {ε σ α β : Type} {m : EStateM ε σ α} {f : α → EStateM ε σ β}

theorem bind_of_ok {s s' : σ} {a : α} (h : m s = .ok a s') : (m >>= f) s = f a s' := by
  simp only [bind, EStateM.bind, h]

theorem exists_of_bind_eq_ok {s s'' : σ} {b : β} (h : (m >>= f) s = .ok b s'') :
    ∃ a s', m s = .ok a s' ∧ f a s' = .ok b s'' := by
  cases hm : m s with
  | ok a s' => exact ⟨a, s', rfl, (bind_of_ok hm).symm.trans h⟩
  | error fault s' =>
    simp only [bind, EStateM.bind, hm] at h
    cases h

end

/-! ## Inflating -/

namespace Inflater

variable {α β : Type}

/-- A step that only adds to the output, and goes the same way under every limit that the output
keeps to. -/
def Steady (m : Inflater α) : Prop :=
  ∀ ⦃s : State⦄ ⦃a : α⦄ ⦃s' : State⦄, m s = .ok a s' →
    s'.limit = s.limit ∧ s.output.size ≤ s'.output.size ∧
      (s'.output.size ≤ s.limit → ∀ limit, s'.output.size ≤ limit →
        m { s with limit } = .ok a { s' with limit })

theorem steady_pure (a : α) : Steady (pure a : Inflater α) := by
  intro s a' s' h
  cases h
  exact ⟨rfl, Nat.le_refl _, fun _ _ _ => rfl⟩

theorem steady_throw (stop : Stop) : Steady (throw stop : Inflater α) := by
  intro s a s' h
  cases h

/-- Output that keeps to a limit at the end has kept to it all the way. -/
theorem Steady.bind {m : Inflater α} {f : α → Inflater β} (hm : Steady m)
    (hf : ∀ a, Steady (f a)) : Steady (m >>= f) := by
  intro s b s'' h
  obtain ⟨a, s', hfirst, hrest⟩ := exists_of_bind_eq_ok h
  obtain ⟨hlimit, hgrows, hsame⟩ := hm hfirst
  obtain ⟨hlimit', hgrows', hsame'⟩ := hf a hrest
  -- Neither step takes output back, so what holds of the last size holds of the one between.
  refine ⟨hlimit'.trans hlimit, Nat.le_trans hgrows hgrows', fun hkept limit hfits => ?_⟩
  rw [bind_of_ok (hsame (Nat.le_trans hgrows' hkept) limit (Nat.le_trans hgrows' hfits))]
  exact hsame' (by rwa [hlimit]) limit hfits

theorem Steady.ite {c : Prop} [Decidable c] {m m' : Inflater α} (hm : Steady m) (hm' : Steady m') :
    Steady (if c then m else m') := by
  split
  · exact hm
  · exact hm'

/-- What comes behind a check of the stream. -/
theorem Steady.check {c : Prop} [Decidable c] {next : Unit → Inflater α}
    (hnext : ∀ u, Steady (next u)) :
    Steady (if c then throw .corrupt >>= next else next ()) :=
  .ite ((steady_throw .corrupt).bind hnext) (hnext ())

theorem steady_bit : Steady bit := by
  intro s a s' h
  simp only [bit] at h
  split at h
  · cases h
  split at h
  · rename_i hthere
    cases h
    refine ⟨rfl, Nat.le_refl _, fun _ limit hfits => ?_⟩
    have hwithin : ¬limit < s.output.size := Nat.not_lt.2 hfits
    simp [bit, hwithin, hthere]
  · cases h

theorem steady_bits (n : Nat) : Steady (bits n) := by
  induction n with
  | zero => exact steady_pure 0
  | succ n ih => exact steady_bit.bind fun _ => ih.bind fun _ => steady_pure _

theorem steady_align : Steady align := by
  intro s a s' h
  cases h
  exact ⟨rfl, Nat.le_refl _, fun _ _ _ => rfl⟩

theorem steady_symbolFrom (symbols : Array Nat) (counts : List Nat) (word first index : Nat) :
    Steady (symbolFrom symbols counts word first index) := by
  induction counts generalizing word first index with
  | nil => exact steady_throw _
  | cons count counts ih => exact steady_bit.bind fun _ => .ite (steady_pure _) (ih ..)

theorem steady_symbol (code : Code) : Steady (symbol code) := steady_symbolFrom ..

/-! ### Output -/

theorem reserve_of_le {n : Nat} {s : State} (h : s.output.size + n ≤ s.limit + windowBytes) :
    reserve n s = .ok () s := if_pos h

theorem eq_of_reserve_eq_ok {n : Nat} {s s' : State} {u : Unit} (h : reserve n s = .ok u s') :
    s' = s := by
  simp only [reserve] at h
  split at h <;> cases h
  rfl

/-- Room is only ever made for output that comes, or for less than the window has. -/
theorem steady_reserve {n : Nat} (hn : n ≤ windowBytes) : Steady (reserve n) := by
  intro s u s' h
  cases eq_of_reserve_eq_ok h
  refine ⟨rfl, Nat.le_refl _, fun _ limit hfits => reserve_of_le ?_⟩
  exact Nat.add_le_add hfits hn

theorem steady_put (b : UInt8) : Steady (put b) := by
  refine (steady_reserve (by decide)).bind fun _ => ?_
  intro s u s' h
  cases h
  exact ⟨rfl, by simp [ByteArray.size_push], fun _ _ _ => rfl⟩

theorem steady_putMatch (n distance : Nat) : Steady (putMatch n distance) := by
  intro s u s' h
  obtain ⟨_, _, hreserve, hcopy⟩ := exists_of_bind_eq_ok h
  cases eq_of_reserve_eq_ok hreserve
  cases hcopy
  have hsize := size_copyBack n distance s.output
  refine ⟨rfl, ?_, fun _ limit hfits => ?_⟩
  · rw [hsize]
    exact Nat.le_add_right ..
  · rw [hsize] at hfits
    have hroom : reserve n { s with limit } = .ok () { s with limit } :=
      reserve_of_le (Nat.le_add_right_of_le hfits)
    rw [putMatch, bind_of_ok hroom]
    rfl

/-- The window that passes the limit takes all of a piece while the output keeps to the limit. -/
theorem putPiece_of_le {n : Nat} {s : State} (h : s.output.size ≤ s.limit) :
    putPiece n s =
      let start := s.position / 8
      let piece := s.input.extract start (start + min n (pieceBytes - start % pieceBytes))
      if piece.size = 0 then .error .incomplete s
      else
        .ok piece.size
          { s with position := s.position + 8 * piece.size, output := s.output ++ piece } := by
  have hwindow : pieceBytes ≤ s.limit + windowBytes - s.output.size := by
    unfold pieceBytes windowBytes
    omega
  have hpiece : min (pieceBytes - s.position / 8 % pieceBytes)
      (s.limit + windowBytes - s.output.size) = pieceBytes - s.position / 8 % pieceBytes :=
    Nat.min_eq_left (Nat.le_trans (Nat.sub_le ..) hwindow)
  have hwithin : ¬s.limit < s.output.size := Nat.not_lt.2 h
  simp [putPiece, hpiece, hwithin]

theorem steady_putPiece (n : Nat) : Steady (putPiece n) := by
  intro s taken s' h
  have hgrows : s'.limit = s.limit ∧ s.output.size ≤ s'.output.size := by
    simp only [putPiece] at h
    split at h
    · cases h
    split at h <;> cases h
    exact ⟨rfl, by simp [ByteArray.size_append]⟩
  refine ⟨hgrows.1, hgrows.2, fun hkept limit hfits => ?_⟩
  rw [putPiece_of_le (Nat.le_trans hgrows.2 hkept)] at h
  have hwithin : ({ s with limit } : State).output.size ≤ ({ s with limit } : State).limit :=
    Nat.le_trans hgrows.2 hfits
  rw [putPiece_of_le hwithin]
  simp only at h ⊢
  split at h <;> cases h
  rename_i hpiece
  rw [if_neg hpiece]

theorem steady_putInput (rounds n : Nat) : Steady (putInput rounds n) := by
  induction rounds generalizing n with
  | zero => exact steady_pure ()
  | succ rounds ih =>
    cases n with
    | zero => exact steady_pure ()
    | succ n =>
      exact (steady_reserve (by decide)).bind fun _ => (steady_putPiece _).bind fun _ => ih _

/-! ### Blocks -/

theorem steady_extended (table : Array (Nat × Nat)) (entry : Nat) :
    Steady (extended table entry) := by
  rw [extended]
  split
  · exact steady_throw _
  · exact (steady_bits _).bind fun _ => steady_pure _

theorem steady_symbols (literals distances : Code) (rounds : Nat) :
    Steady (symbols literals distances rounds) := by
  induction rounds with
  | zero => exact steady_throw _
  | succ rounds ih =>
    refine (steady_symbol _).bind fun _ => .ite ?_ (.ite (steady_pure ()) ?_)
    · exact (steady_put _).bind fun _ => ih
    · exact (steady_extended ..).bind fun _ => (steady_symbol _).bind fun _ =>
        (steady_extended ..).bind fun _ => (steady_putMatch ..).bind fun _ => ih

theorem steady_codeOf (sparse : Sparse) (lengths : List Nat) : Steady (codeOf sparse lengths) := by
  rw [codeOf]
  split
  · exact steady_pure _
  · exact steady_throw _

theorem steady_lengthCodeLengths (n : Nat) (order : List Nat) (lengths : Array Nat) :
    Steady (lengthCodeLengths n order lengths) := by
  induction n generalizing order lengths with
  | zero => exact steady_pure _
  | succ n ih =>
    cases order with
    | nil => exact steady_pure _
    | cons symbol order => exact (steady_bits 3).bind fun _ => ih ..

theorem steady_codeLengths (code : Code) (total rounds : Nat) (lengths : Array Nat) :
    Steady (codeLengths code total rounds lengths) := by
  induction rounds generalizing lengths with
  | zero => exact steady_pure _
  | succ rounds ih =>
    refine .ite (steady_pure _) ((steady_symbol _).bind fun s => .ite (ih _) (.ite ?_ (.ite ?_ ?_)))
    · split
      · exact steady_throw _
      · exact (steady_bits 2).bind fun _ => ih _
    · exact (steady_bits 3).bind fun _ => ih _
    · exact (steady_bits 7).bind fun _ => ih _

theorem steady_ownCodes : Steady ownCodes := by
  refine (steady_bits 5).bind fun _ => (steady_bits 5).bind fun _ => (steady_bits 4).bind fun _ =>
    .check fun _ => (steady_lengthCodeLengths ..).bind fun _ => (steady_codeOf ..).bind fun _ =>
    (steady_codeLengths ..).bind fun _ => .check fun _ => .check fun _ => ?_
  exact (steady_codeOf ..).bind fun _ => (steady_codeOf ..).bind fun _ => steady_pure _

theorem steady_storedBlock : Steady storedBlock :=
  steady_align.bind fun _ => (steady_bits 16).bind fun _ => (steady_bits 16).bind fun _ =>
    .check fun _ => steady_putInput ..

theorem steady_blocks (bitCount rounds : Nat) : Steady (blocks bitCount rounds) := by
  induction rounds with
  | zero => exact steady_throw _
  | succ rounds ih =>
    have hnext (last : Nat) (_ : Unit) :
        Steady (if last = 0 then blocks bitCount rounds else pure ()) := .ite ih (steady_pure ())
    refine steady_bit.bind fun last => (steady_bits 2).bind fun kind => .ite ?_ (.ite ?_ (.ite ?_ ?_))
    · exact steady_storedBlock.bind (hnext last)
    · exact (steady_codeOf ..).bind fun _ => (steady_codeOf ..).bind fun _ =>
        (steady_symbols ..).bind (hnext last)
    · exact steady_ownCodes.bind fun _ => (steady_symbols ..).bind (hnext last)
    · exact (steady_throw _).bind (hnext last)

theorem steady_header : Steady header :=
  (steady_bits 8).bind fun _ => (steady_bits 8).bind fun _ => .ite (steady_throw _) (steady_pure ())

/-- What does not look at the limit of the state is steady. -/
theorem steady_get {f : State → Inflater α} (hf : ∀ s, Steady (f s))
    (hsame : ∀ s limit, f { s with limit } = f s) : Steady (get >>= f) := by
  intro s a s' h
  obtain ⟨hlimit, hgrows, hsteady⟩ := hf s (show f s s = .ok a s' from h)
  refine ⟨hlimit, hgrows, fun hkept limit hfits => ?_⟩
  show f { s with limit } { s with limit } = _
  rw [hsame]
  exact hsteady hkept limit hfits

theorem steady_checksum : Steady checksum :=
  steady_align.bind fun _ => (steady_bits 8).bind fun _ => (steady_bits 8).bind fun _ =>
    (steady_bits 8).bind fun _ => (steady_bits 8).bind fun _ =>
    steady_get (fun _ => .ite (steady_throw _) (steady_pure ())) fun _ _ => rfl

/-- **Inflating a stream is steady.** -/
theorem steady_stream (bitCount : Nat) : Steady (stream bitCount) :=
  steady_header.bind fun _ => (steady_blocks ..).bind fun _ => steady_checksum

end Inflater

/-- A stream has output if all of it can be read and the output keeps to the limit. -/
theorem inflate_eq_ok_iff {limit room : Nat} {input output : ByteArray} :
    inflate limit room input = .ok output ↔
      ∃ s, Inflater.stream (8 * input.size + 1)
        { input, position := 0, output := .empty, limit } = .ok () s ∧
          s.output = output ∧ output.size ≤ limit := by
  have hstart : ByteArray.emptyWithCapacity room = ByteArray.empty := rfl
  rw [inflate, inflateOnto, hstart]
  generalize Inflater.stream (8 * input.size + 1)
    { input, position := 0, output := .empty, limit } = result
  cases result with
  | error stop s => cases stop <;> simp
  | ok ended s =>
    by_cases hfits : s.output.size ≤ limit
    · simp only [hfits, if_true, Except.ok.injEq, EStateM.Result.ok.injEq, true_and]
      constructor
      · rintro rfl
        exact ⟨s, rfl, rfl, hfits⟩
      · rintro ⟨_, rfl, houtput, -⟩
        exact houtput
    · simp only [hfits, if_false, reduceCtorEq, EStateM.Result.ok.injEq, true_and, false_iff,
        not_exists, not_and]
      rintro _ rfl rfl
      exact hfits

/-- **A stream has the same output under every limit that the output keeps to.** -/
theorem inflate_of_le {limit limit' room room' : Nat} {input output : ByteArray}
    (h : inflate limit room input = .ok output) (hfits : output.size ≤ limit') :
    inflate limit' room' input = .ok output := by
  obtain ⟨s, hstream, rfl, hkept⟩ := inflate_eq_ok_iff.1 h
  obtain ⟨-, -, hsame⟩ := Inflater.steady_stream _ hstream
  exact inflate_eq_ok_iff.2 ⟨_, hsame hkept limit' hfits, rfl, hfits⟩

/-! ## LZ4 blocks -/

namespace Lz4

section

variable {α β : Type}

/-- A step that only adds to the output, does not take it past the limit, and goes the same way
under every limit that the output keeps to. -/
def Steady (m : Nat → Expander ByteArray α) : Prop :=
  ∀ ⦃limit : Nat⦄ ⦃output : ByteArray⦄ ⦃a : α⦄ ⦃output' : ByteArray⦄,
    m limit output = .ok a output' →
      output.size ≤ output'.size ∧ (output.size ≤ limit → output'.size ≤ limit) ∧
        ∀ limit', output'.size ≤ limit' → m limit' output = .ok a output'

theorem steady_throw (fault : Lz4Fault) : Steady fun _ => (throw fault : Expander ByteArray α) := by
  intro limit output a output' h
  cases h

theorem steady_pure (a : α) : Steady fun _ => (pure a : Expander ByteArray α) := by
  intro limit output a' output' h
  cases h
  exact ⟨Nat.le_refl _, id, fun _ _ => rfl⟩

theorem steady_found (result : Except Lz4Fault α) : Steady fun _ => found result := by
  cases result with
  | error fault => exact steady_throw fault
  | ok a => exact steady_pure a

theorem Steady.bind {m : Nat → Expander ByteArray α} {f : α → Nat → Expander ByteArray β}
    (hm : Steady m) (hf : ∀ a, Steady (f a)) :
    Steady fun limit => m limit >>= fun a => f a limit := by
  intro limit output b output'' h
  obtain ⟨a, output', hfirst, hrest⟩ := exists_of_bind_eq_ok h
  obtain ⟨hgrows, hkeeps, hsame⟩ := hm hfirst
  obtain ⟨hgrows', hkeeps', hsame'⟩ := hf a hrest
  refine ⟨Nat.le_trans hgrows hgrows', fun hbefore => hkeeps' (hkeeps hbefore),
    fun limit' hfits => ?_⟩
  exact (bind_of_ok (hsame limit' (Nat.le_trans hgrows' hfits))).trans (hsame' limit' hfits)

/-- Room is made for what is added. -/
theorem steady_reserve {length : Nat} {next : Expander ByteArray α}
    (hnext : ∀ ⦃output a output'⦄, next output = .ok a output' →
      output'.size = output.size + length) :
    Steady fun limit => reserve appending limit length >>= fun _ => next := by
  intro limit output a output'' h
  obtain ⟨⟨⟩, output', hreserve, hrest⟩ := exists_of_bind_eq_ok h
  simp only [reserve] at hreserve
  split at hreserve
  · rename_i hfits
    cases hreserve
    have hsize := hnext hrest
    have hroom : output.size + length ≤ limit := hfits
    refine ⟨by omega, fun _ => by omega, fun limit' hfits' => ?_⟩
    have hroom' : appending.size output + length ≤ limit' := by
      show output.size + length ≤ limit'
      omega
    have hreserve : reserve appending limit' length output = .ok () output := if_pos hroom'
    exact (bind_of_ok hreserve).trans hrest
  · cases hreserve

end

theorem steady_literals (length : Nat) (input : Bytes) :
    Steady fun limit => literals appending limit length input := by
  simp only [literals]
  cases hsplit : Bytes.split? length input with
  | none => exact steady_throw _
  | some parts =>
    obtain ⟨piece, rest⟩ := parts
    refine steady_reserve fun output a output' h => ?_
    cases h
    have hpiece := (Bytes.split?_eq_some_iff.1 hsplit).2
    rw [← hpiece]
    exact ByteArray.size_append

theorem size_of_repeated {length offset : Nat} {output output' : ByteArray}
    (h : repeated appending length offset output = .ok () output') :
    output'.size = output.size + length := by
  rw [repeated] at h
  split at h
  · cases h
    exact size_copyBack ..
  · cases h

theorem steady_matched (half : Nat) (input : Bytes) :
    Steady fun limit => matched appending limit half input := by
  simp only [matched]
  split
  · split
    · exact steady_throw _
    · refine (steady_found _).bind fun ⟨length, rest⟩ => steady_reserve fun output a output' h => ?_
      obtain ⟨⟨⟩, middle, hrepeated, hrest⟩ := exists_of_bind_eq_ok h
      cases hrest
      exact size_of_repeated hrepeated
  · exact steady_throw _

theorem steady_sequence (input : Bytes) :
    Steady fun limit => sequence appending limit input := by
  simp only [sequence]
  cases input with
  | nil => exact steady_throw _
  | cons token rest =>
    refine (steady_found _).bind fun ⟨length, rest⟩ => (steady_literals ..).bind fun rest => ?_
    by_cases hend : rest.isEmpty = true
    · simp only [if_pos hend]
      exact steady_pure none
    · simp only [if_neg hend]
      exact (steady_matched ..).bind fun rest => steady_pure (some rest)

theorem steady_sequences (rounds : Nat) (input : Bytes) :
    Steady fun limit => sequences appending limit rounds input := by
  induction rounds generalizing input with
  | zero => exact steady_throw _
  | succ rounds ih =>
    simp only [sequences]
    refine (steady_sequence input).bind fun left => ?_
    cases left with
    | none => exact steady_pure ()
    | some rest => exact ih rest

/-- A block has output if all of it can be read and the output keeps to the limit. -/
theorem expand_eq_ok_iff {limit room : Nat} {input : Bytes} {output : ByteArray} :
    expand limit room input = .ok output ↔
      sequences appending limit (input.length + 1) input .empty = .ok () output := by
  have hstart : ByteArray.emptyWithCapacity room = ByteArray.empty := rfl
  rw [expand, hstart]
  generalize sequences appending limit (input.length + 1) input .empty = result
  cases result with
  | ok ended written => simp
  | error fault written => simp

/-- **A block has the same output under every limit that the output keeps to.** -/
theorem expand_of_le {limit limit' room room' : Nat} {input : Bytes} {output : ByteArray}
    (h : expand limit room input = .ok output) (hfits : output.size ≤ limit') :
    expand limit' room' input = .ok output := by
  obtain ⟨-, -, hsame⟩ := steady_sequences _ _ (expand_eq_ok_iff.1 h)
  exact expand_eq_ok_iff.2 (hsame limit' hfits)

theorem size_of_expand {limit room : Nat} {input : Bytes} {output : ByteArray}
    (h : expand limit room input = .ok output) : output.size ≤ limit := by
  obtain ⟨-, hkeeps, -⟩ := steady_sequences _ _ (expand_eq_ok_iff.1 h)
  exact hkeeps (Nat.zero_le limit)

end Lz4

/-! ## Payloads -/

/-- What comes out of a frame under a limit.  A frame that is not compressed is subject to none. -/
def unpack (method : Method) (limit : Nat) (frame : Bytes) : Except BatchFault ByteArray :=
  match method with
  | .none => .ok ⟨frame.toArray⟩
  | .zlib => (inflate limit 0 ⟨frame.toArray⟩).mapError .zlib
  | .lz4 => (Lz4.expand limit 0 frame).mapError .lz4

theorem mapError_eq_ok_iff {ε ε' α : Type} {f : ε → ε'} {x : Except ε α} {a : α} :
    x.mapError f = .ok a ↔ x = .ok a := by
  cases x with
  | ok b =>
    have hkept : (Except.ok b : Except ε α).mapError f = .ok b := rfl
    rw [hkept, Except.ok.injEq, Except.ok.injEq]
  | error e => exact iff_of_false (fun h => by cases h) (fun h => by cases h)

theorem unpack_of_le {method : Method} {limit limit' : Nat} {frame : Bytes} {payload : ByteArray}
    (h : unpack method limit frame = .ok payload) (hfits : payload.size ≤ limit') :
    unpack method limit' frame = .ok payload := by
  cases method with
  | none => exact h
  | zlib =>
    simp only [unpack, mapError_eq_ok_iff] at h ⊢
    exact inflate_of_le h hfits
  | lz4 =>
    simp only [unpack, mapError_eq_ok_iff] at h ⊢
    exact Lz4.expand_of_le h hfits

theorem size_of_unpack {method : Method} (hmethod : method ≠ .none) {limit : Nat} {frame : Bytes}
    {payload : ByteArray} (h : unpack method limit frame = .ok payload) : payload.size ≤ limit := by
  cases method with
  | none => exact absurd rfl hmethod
  | zlib =>
    simp only [unpack, mapError_eq_ok_iff] at h
    obtain ⟨_, _, _, hfits⟩ := inflate_eq_ok_iff.1 h
    exact hfits
  | lz4 =>
    simp only [unpack, mapError_eq_ok_iff] at h
    exact Lz4.size_of_expand h

namespace Decompressor

theorem expand_eq_unpack (method : Method) (room : Nat) (frame : Bytes) :
    expand method room frame = unpack method maxDecompressed frame := by
  cases method <;> rfl

/-- What comes out of a frame at all is accepted unless it is too large. -/
theorem expand_of_unpack {method : Method} {limit room : Nat} {frame : Bytes} {payload : ByteArray}
    (h : unpack method limit frame = .ok payload) (hsize : payload.size ≤ maxDecompressed) :
    expand method room frame = .ok payload := by
  rw [expand_eq_unpack]
  exact unpack_of_le h hsize

/-- **A compressed payload is accepted exactly if it comes out of its frame at all and is not too
large.**  How much room it was expected to take makes no difference. -/
theorem expand_eq_ok_iff {method : Method} (hmethod : method ≠ .none) {room : Nat} {frame : Bytes}
    {payload : ByteArray} :
    expand method room frame = .ok payload ↔
      (∃ limit, unpack method limit frame = .ok payload) ∧ payload.size ≤ maxDecompressed := by
  constructor
  · intro h
    rw [expand_eq_unpack] at h
    exact ⟨⟨_, h⟩, size_of_unpack hmethod h⟩
  · rintro ⟨⟨_, h⟩, hsize⟩
    exact expand_of_unpack h hsize

/-- What is not compressed is as long as its frame, and everything else has a limit. -/
theorem size_le_of_expand {method : Method} {room : Nat} {frame : Bytes}
    {payload : ByteArray} (h : expand method room frame = .ok payload) :
    payload.size ≤ if method = .none then frame.length else maxDecompressed := by
  split
  case isTrue hmethod =>
    subst hmethod
    cases h
    exact Nat.le_refl _
  case isFalse hmethod => exact ((expand_eq_ok_iff hmethod).1 h).2

end Decompressor
end BatchBridge.Compression
