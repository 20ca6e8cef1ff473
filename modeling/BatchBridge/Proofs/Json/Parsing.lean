import BatchBridge.Json.Parser
import BatchBridge.Proofs.Json.Lexing

/-!
# Exactly the JSON texts are read

* **`ofTokens?_tokens`** — the tokens of a tree are read as that tree.  The reader's stack is
  arbitrary in the lemmas before it, since a tree may stand anywhere inside another; each of them
  says what the tokens of a tree, or of the rest of a container, do to the reader.
* `Reading.consumed` — the tokens that led to a state of the reader.  Its stack says which containers
  are open, and they hold what has been read of them.
* **`consumed_next?`** — a step of the reader puts its token at the end.
* **`ofTokens?_eq_some_iff`** — so a tree is found exactly from its tokens.
* `isChain_tokens` — in a tree no two words, numbers or strings stand side by side.
* **`parse?_eq_some_iff`** — a tree is found exactly in the texts that are made of its tokens.
-/

namespace BatchBridge.Json

/-! ## The tokens of a tree -/

/-- The first token of a tree begins a value: it closes nothing. -/
theorem tokens_eq_cons (tree : Json) :
    ∃ token rest, tree.tokens = token :: rest ∧ token ≠ .closeBracket := by
  cases tree <;> (rw [tokens]; exact ⟨_, _, rfl, by simp⟩)

theorem elementTokens_eq_cons (element : Json) (rest : List Json) :
    ∃ token more, elementTokens (element :: rest) = token :: more ∧ token ≠ .closeBracket := by
  obtain ⟨token, more, htokens, hne⟩ := tokens_eq_cons element
  cases rest with
  | nil => exact ⟨token, more, by rw [elementTokens, htokens], hne⟩
  | cons next rest =>
    rw [elementTokens, htokens]
    exact ⟨token, _, rfl, hne⟩

/-- Where the first element of a list may stand, an element is read like a later one. -/
theorem next?_firstElement {token : Token} (h : token ≠ .closeBracket) (stack : List Frame) :
    Reading.next? (.firstElement stack) token =
      Reading.next? (.value (.array [] :: stack)) token := by
  cases token <;> first | rfl | exact absurd rfl h

mutual

/-- **A tree's tokens complete a value.** -/
theorem foldlM_tokens : ∀ (tree : Json) (stack : List Frame),
    tree.tokens.foldlM Reading.next? (.value stack) = some (.complete tree stack)
  | .null, stack => by simp [tokens, Reading.next?, Reading.begin?]
  | .bool b, stack => by simp [tokens, Reading.next?, Reading.begin?]
  | .number ds, stack => by simp [tokens, Reading.next?, Reading.begin?]
  | .string s, stack => by simp [tokens, Reading.next?, Reading.begin?]
  | .array [], stack => by simp [tokens, elementTokens, Reading.next?, Reading.begin?]
  | .array (element :: rest), stack => by
      have h := foldlM_elementTokens (element :: rest) [] stack (List.cons_ne_nil _ _)
      obtain ⟨token, more, htokens, hne⟩ := elementTokens_eq_cons element rest
      rw [htokens, List.cons_append, List.foldlM_cons, ← next?_firstElement hne] at h
      rw [tokens, htokens]
      exact h
  | .object [], stack => by simp [tokens, memberTokens, Reading.next?, Reading.begin?]
  | .object ((key, value) :: rest), stack => by
      have h := foldlM_memberTokens ((key, value) :: rest) [] stack (List.cons_ne_nil _ _)
      rw [tokens]
      cases rest with
      | nil => rw [memberTokens] at h ⊢; exact h
      | cons next rest => rw [memberTokens] at h ⊢; exact h

/-- The elements that are still to come, and the end of the list, complete the list. -/
theorem foldlM_elementTokens : ∀ (elements before : List Json) (stack : List Frame),
    elements ≠ [] →
    (elementTokens elements ++ [Token.closeBracket]).foldlM Reading.next?
        (.value (.array before :: stack)) =
      some (.complete (.array (before.reverse ++ elements)) stack)
  | [], _, _, h => absurd rfl h
  | [element], before, stack, _ => by
      rw [elementTokens, List.foldlM_append, foldlM_tokens element]
      show some (Reading.complete (.array (element :: before).reverse) stack) = _
      rw [List.reverse_cons]
  | element :: next :: rest, before, stack, _ => by
      have h := foldlM_elementTokens (next :: rest) (element :: before) stack
        (List.cons_ne_nil _ _)
      rw [elementTokens, List.append_assoc, List.foldlM_append, foldlM_tokens element]
      show List.foldlM Reading.next? (.value (.array (element :: before) :: stack))
        (elementTokens (next :: rest) ++ [Token.closeBracket]) = _
      rw [h]
      simp

/-- The members that are still to come, and the end of the object, complete the object. -/
theorem foldlM_memberTokens : ∀ (members before : List (Text × Json)) (stack : List Frame),
    members ≠ [] →
    (memberTokens members ++ [Token.closeBrace]).foldlM Reading.next? (.key stack before) =
      some (.complete (.object (before.reverse ++ members)) stack)
  | [], _, _, h => absurd rfl h
  | [(key, value)], before, stack, _ => by
      rw [memberTokens]
      show List.foldlM Reading.next? (.value (.object before key :: stack))
        (value.tokens ++ [Token.closeBrace]) = _
      rw [List.foldlM_append, foldlM_tokens value]
      show some (Reading.complete (.object ((key, value) :: before).reverse) stack) = _
      rw [List.reverse_cons]
  | (key, value) :: next :: rest, before, stack, _ => by
      have h := foldlM_memberTokens (next :: rest) ((key, value) :: before) stack
        (List.cons_ne_nil _ _)
      rw [memberTokens]
      simp only [List.cons_append, List.append_assoc]
      show List.foldlM Reading.next? (.value (.object before key :: stack)) _ = _
      rw [List.foldlM_append, foldlM_tokens value]
      show List.foldlM Reading.next? (.key stack ((key, value) :: before)) _ = _
      rw [h]
      simp

end

/-- **The tokens of a tree are read as that tree.** -/
theorem ofTokens?_tokens (tree : Json) : ofTokens? tree.tokens = some tree := by
  rw [ofTokens?, foldlM_tokens]
  rfl

/-! ## What the reader has read -/

/-- The elements of a list before a further one. -/
def elementsBefore (elements : List Json) : List Token :=
  elements.flatMap fun element => element.tokens ++ [.comma]

/-- The members of an object before a further one. -/
def membersBefore (members : List (Text × Json)) : List Token :=
  members.flatMap fun member => .string member.1 :: .colon :: member.2.tokens ++ [.comma]

/-- What has been read of an open container when its next value begins. -/
def Frame.consumed : Frame → List Token
  | .array before => .openBracket :: elementsBefore before.reverse
  | .object before key => .openBrace :: membersBefore before.reverse ++ [.string key, .colon]

/-- What has been read of the open containers when the next value begins. -/
def consumedBy : List Frame → List Token
  | [] => []
  | frame :: stack => consumedBy stack ++ frame.consumed

/-- The tokens that led to a state. -/
def Reading.consumed : Reading → List Token
  | .value stack => consumedBy stack
  | .firstElement stack => consumedBy stack ++ [.openBracket]
  | .firstMember stack => consumedBy stack ++ [.openBrace]
  | .key stack before => consumedBy stack ++ .openBrace :: membersBefore before.reverse
  | .colon stack before k =>
    consumedBy stack ++ .openBrace :: membersBefore before.reverse ++ [.string k]
  | .after stack frame last => consumedBy (frame :: stack) ++ last.tokens
  | .done tree => tree.tokens

theorem elementsBefore_concat (elements : List Json) (last : Json) :
    elementsBefore (elements ++ [last]) = elementsBefore elements ++ last.tokens ++ [.comma] := by
  simp [elementsBefore]

theorem membersBefore_concat (members : List (Text × Json)) (key : Text) (last : Json) :
    membersBefore (members ++ [(key, last)]) =
      membersBefore members ++ .string key :: .colon :: last.tokens ++ [.comma] := by
  simp [membersBefore]

theorem elementTokens_concat (elements : List Json) (last : Json) :
    elementTokens (elements ++ [last]) = elementsBefore elements ++ last.tokens := by
  induction elements with
  | nil => simp [elementTokens, elementsBefore]
  | cons element rest ih =>
    obtain ⟨next, more, hmore⟩ : ∃ next more, rest ++ [last] = next :: more := by
      cases rest <;> exact ⟨_, _, rfl⟩
    rw [List.cons_append, hmore, elementTokens, ← hmore, ih]
    simp [elementsBefore]

theorem memberTokens_concat (members : List (Text × Json)) (key : Text) (last : Json) :
    memberTokens (members ++ [(key, last)]) =
      membersBefore members ++ .string key :: .colon :: last.tokens := by
  induction members with
  | nil => simp [memberTokens, membersBefore]
  | cons member rest ih =>
    obtain ⟨next, more, hmore⟩ : ∃ next more, rest ++ [(key, last)] = next :: more := by
      cases rest <;> exact ⟨_, _, rfl⟩
    rw [List.cons_append, hmore, memberTokens, ← hmore, ih]
    simp [membersBefore]

theorem consumed_complete (tree : Json) (stack : List Frame) :
    (Reading.complete tree stack).consumed = consumedBy stack ++ tree.tokens := by
  cases stack <;> rfl

theorem consumed_begin? {stack : List Frame} {token : Token} {next : Reading}
    (h : Reading.begin? stack token = some next) : next.consumed = consumedBy stack ++ [token] := by
  cases token with
  | null | bool | number | string =>
    cases h
    rw [consumed_complete, tokens]
  | openBracket | openBrace =>
    cases h
    rfl
  | _ => cases h

/-- **A token is read.** -/
theorem consumed_next? {reading next : Reading} {token : Token}
    (h : reading.next? token = some next) : next.consumed = reading.consumed ++ [token] := by
  cases reading with
  | value stack => exact consumed_begin? h
  | firstElement stack =>
    by_cases hclose : token = .closeBracket
    · subst hclose
      cases h
      rw [consumed_complete]
      simp [Reading.consumed, tokens, elementTokens]
    · rw [next?_firstElement hclose] at h
      exact consumed_begin? h
  | firstMember stack =>
    cases token with
    | closeBrace =>
      cases h
      rw [consumed_complete]
      simp [Reading.consumed, tokens, memberTokens]
    | string key =>
      cases h
      simp [Reading.consumed, membersBefore]
    | _ => cases h
  | key stack before =>
    cases token with
    | string key =>
      cases h
      rfl
    | _ => cases h
  | colon stack before key =>
    cases token with
    | colon =>
      cases h
      simp [Reading.consumed, consumedBy, Frame.consumed]
    | _ => cases h
  | after stack frame last =>
    cases frame with
    | array before =>
      cases token with
      | comma =>
        cases h
        simp [Reading.consumed, consumedBy, Frame.consumed, elementsBefore_concat]
      | closeBracket =>
        cases h
        rw [consumed_complete]
        simp [Reading.consumed, consumedBy, Frame.consumed, tokens, elementTokens_concat]
      | _ => cases h
    | object before key =>
      cases token with
      | comma =>
        cases h
        simp [Reading.consumed, consumedBy, Frame.consumed, membersBefore_concat]
      | closeBrace =>
        cases h
        rw [consumed_complete]
        simp [Reading.consumed, consumedBy, Frame.consumed, tokens, memberTokens_concat]
      | _ => cases h
  | done tree => cases h

theorem consumed_foldlM {tokens : List Token} {reading final : Reading}
    (h : tokens.foldlM Reading.next? reading = some final) :
    final.consumed = reading.consumed ++ tokens := by
  induction tokens generalizing reading with
  | nil =>
    cases h
    rw [List.append_nil]
  | cons token tokens ih =>
    rw [List.foldlM_cons] at h
    obtain ⟨next, hnext, h⟩ := Option.bind_eq_some_iff.1 h
    rw [ih h, consumed_next? hnext, List.append_assoc, List.singleton_append]

/-- **A tree is found from its tokens**, and from no others. -/
theorem ofTokens?_eq_some_iff {read : List Token} {tree : Json} :
    ofTokens? read = some tree ↔ read = tree.tokens := by
  constructor
  · intro h
    rw [ofTokens?] at h
    split at h
    · rename_i found hfold
      cases h
      exact (consumed_foldlM hfold).symm
    · cases h
  · rintro rfl
    exact ofTokens?_tokens tree

/-! ## Tokens of trees stand apart -/

theorem isChain_cons_mark {token : Token} {tokens : List Token}
    (hmark : token.mark?.isSome = true) (h : tokens.IsChain Apart) :
    (token :: tokens).IsChain Apart :=
  h.cons fun _ _ => .inl hmark

theorem isChain_append_mark {front back : List Token} {token : Token}
    (hfront : front.IsChain Apart) (hmark : token.mark?.isSome = true)
    (hback : back.IsChain Apart) : (front ++ token :: back).IsChain Apart := by
  refine hfront.append (isChain_cons_mark hmark hback) fun _ _ next hnext => ?_
  cases hnext
  exact .inr hmark

theorem isChain_member (key : Text) {value : List Token} (h : value.IsChain Apart) :
    (Token.string key :: .colon :: value).IsChain Apart := by
  have hkey : [Token.string key].IsChain Apart := .singleton _
  exact isChain_append_mark hkey rfl h

mutual

/-- **Of two tokens side by side in a tree, one is a mark.** -/
theorem isChain_tokens : ∀ tree : Json, tree.tokens.IsChain Apart
  | .null | .bool _ | .number _ | .string _ => by simp [tokens]
  | .array elements => by
      rw [tokens]
      exact isChain_cons_mark rfl
        (isChain_append_mark (isChain_elementTokens elements) rfl .nil)
  | .object members => by
      rw [tokens]
      exact isChain_cons_mark rfl
        (isChain_append_mark (isChain_memberTokens members) rfl .nil)

theorem isChain_elementTokens : ∀ elements : List Json, (elementTokens elements).IsChain Apart
  | [] => by simp [elementTokens]
  | [element] => by
      rw [elementTokens]
      exact isChain_tokens element
  | element :: next :: rest => by
      rw [elementTokens]
      exact isChain_append_mark (isChain_tokens element) rfl (isChain_elementTokens (next :: rest))

theorem isChain_memberTokens : ∀ members : List (Text × Json),
    (memberTokens members).IsChain Apart
  | [] => by simp [memberTokens]
  | [(key, value)] => by
      rw [memberTokens]
      exact isChain_member key (isChain_tokens value)
  | (key, value) :: next :: rest => by
      rw [memberTokens]
      exact isChain_append_mark (isChain_member key (isChain_tokens value)) rfl
        (isChain_memberTokens (next :: rest))

end

/-- **A tree is found in a text exactly if the text is made of its tokens.** -/
theorem parse?_eq_some_iff {text : String} {tree : Json} :
    parse? text = some tree ↔ Spells tree.tokens text.toList := by
  rw [parse?, Option.bind_eq_some_iff]
  constructor
  · rintro ⟨read, hlex, htree⟩
    rw [← ofTokens?_eq_some_iff.1 htree]
    exact spells_of_lex hlex
  · intro h
    exact ⟨tree.tokens, (lex_eq_some_iff (isChain_tokens tree)).2 h, ofTokens?_tokens tree⟩

end BatchBridge.Json
