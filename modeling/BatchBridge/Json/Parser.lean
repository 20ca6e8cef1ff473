import BatchBridge.Json.Lexer

/-!
# Reading JSON

The tokens of a tree determine it, and one token at a time is enough to find it.  The reader keeps
the lists and objects that are open on a stack, so no nesting is too deep for it.

* `Frame`, `Reading` — the open containers and what has to come next.
* `Reading.next?` — takes in a token.
* `ofTokens?`, `parse?` — the tree of a token list and of a text.
-/

namespace BatchBridge.Json

/-- An open container; its earlier contents are in reverse. -/
inductive Frame where
  | array (before : List Json)
  /-- An object whose member `key` is being read. -/
  | object (before : List (Text × Json)) (key : Text)

/-- What has to come next. -/
inductive Reading where
  /-- A value. -/
  | value (stack : List Frame)
  /-- The first element of a list, or its end. -/
  | firstElement (stack : List Frame)
  /-- The first member of an object, or its end. -/
  | firstMember (stack : List Frame)
  /-- The key of a further member. -/
  | key (stack : List Frame) (before : List (Text × Json))
  /-- The colon after a key. -/
  | colon (stack : List Frame) (before : List (Text × Json)) (key : Text)
  /-- A comma or the end of the innermost container, which has just got a value. -/
  | after (stack : List Frame) (frame : Frame) (last : Json)
  /-- Nothing: the text is complete. -/
  | done (tree : Json)

/-- A value is complete. -/
def Reading.complete (tree : Json) : List Frame → Reading
  | [] => .done tree
  | frame :: stack => .after stack frame tree

/-- A token at the start of a value. -/
def Reading.begin? (stack : List Frame) : Token → Option Reading
  | .null => some (complete .null stack)
  | .bool b => some (complete (.bool b) stack)
  | .number ds => some (complete (.number ds) stack)
  | .string s => some (complete (.string s) stack)
  | .openBracket => some (.firstElement stack)
  | .openBrace => some (.firstMember stack)
  | _ => none

/-- Takes in a token. -/
def Reading.next? : Reading → Token → Option Reading
  | .value stack, token => begin? stack token
  | .firstElement stack, .closeBracket => some (complete (.array []) stack)
  | .firstElement stack, token => begin? (.array [] :: stack) token
  | .firstMember stack, .closeBrace => some (complete (.object []) stack)
  | .firstMember stack, .string k => some (.colon stack [] k)
  | .firstMember _, _ => none
  | .key stack before, .string k => some (.colon stack before k)
  | .key _ _, _ => none
  | .colon stack before k, .colon => some (.value (.object before k :: stack))
  | .colon .., _ => none
  | .after stack (.array before) last, .comma => some (.value (.array (last :: before) :: stack))
  | .after stack (.array before) last, .closeBracket =>
    some (complete (.array (last :: before).reverse) stack)
  | .after stack (.object before k) last, .comma => some (.key stack ((k, last) :: before))
  | .after stack (.object before k) last, .closeBrace =>
    some (complete (.object ((k, last) :: before).reverse) stack)
  | .after .., _ => none
  | .done _, _ => none

/-- The tree that a token list spells. -/
def ofTokens? (tokens : List Token) : Option Json :=
  match tokens.foldlM Reading.next? (.value []) with
  | some (.done tree) => some tree
  | _ => none

/-- The tree that a text spells. -/
def parse? (text : String) : Option Json :=
  (lex text.toList).bind ofTokens?

end BatchBridge.Json
