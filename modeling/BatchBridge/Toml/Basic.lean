/-!
# TOML values

* `Toml` — a value of a TOML document, and so also the document itself, which is a table.
* `Toml.Members` — the keys of a table and what they stand for, in the order in which they came.
* `Toml.member?` — the value of a key.
-/

namespace BatchBridge

/-- A value of a document. -/
inductive Toml where
  | string (text : String)
  | integer (n : Int64)
  /-- A floating-point number, as it was written. -/
  | float (text : String)
  | boolean (b : Bool)
  /-- A date, a time, or both, as they were written. -/
  | dateTime (text : String)
  | array (elements : List Toml)
  | table (members : List (String × Toml))
  deriving Repr

namespace Toml

/-- The keys of a table and their values. -/
abbrev Members := List (String × Toml)

/-- The value of a key. -/
def member? (key : String) (members : Members) : Option Toml := members.lookup key

end Toml
end BatchBridge
