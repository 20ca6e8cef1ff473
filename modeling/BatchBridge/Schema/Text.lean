import BatchBridge.Error
import BatchBridge.Json.Parser
import BatchBridge.Json.Printer

/-!
# Schemas as JSON

A schema is announced as `{"columns": [{"name": "...", "type": "INTEGER"}, ...]}`.

* `ColumnSchema.parse` — the schema that a payload announces.  A record may be an object, whose
  other members are ignored, or the list of its fields in order.
* `ColumnSchema.toJson` — the announcement of a schema.

Tags are looked at only after the whole text has been read, so a malformed element always wins
over an unknown tag, wherever the two stand.
-/

namespace BatchBridge

namespace Json

/-- The text of a string value. -/
def string? : Json → Option String
  | .string text => text.decode?
  | _ => none

/-- The members of an object with their keys as text, if every key is text. -/
def namedMembers? : List (Text × Json) → Option (List (String × Json))
  | [] => some []
  | (key, value) :: rest =>
    match key.decode?, namedMembers? rest with
    | some name, some named => some ((name, value) :: named)
    | _, _ => none

/-- The value of the only member with a name. -/
def onlyMember? (name : String) (members : List (String × Json)) : Option Json :=
  match members.filter (·.1 == name) with
  | [(_, value)] => some value
  | _ => none

end Json

namespace ColumnSchema

/-- The name and tag of a column. -/
def columnOf? : Json → Option (String × String)
  | .array [name, tag] =>
    match name.string?, tag.string? with
    | some name, some tag => some (name, tag)
    | _, _ => none
  | .object members =>
    match Json.namedMembers? members with
    | none => none
    | some named =>
      match Json.onlyMember? "name" named, Json.onlyMember? "type" named with
      | some name, some tag =>
        match name.string?, tag.string? with
        | some name, some tag => some (name, tag)
        | _, _ => none
      | _, _ => none
  | _ => none

/-- The columns of a list, if each element is one. -/
def columnsOf? : Json → Option (List (String × String))
  | .array elements => elements.mapM columnOf?
  | _ => none

/-- The names and tags that a schema text announces. -/
def announced? : Json → Option (List (String × String))
  | .array [columns] => columnsOf? columns
  | .object members =>
    match Json.namedMembers? members with
    | none => none
    | some named => (Json.onlyMember? "columns" named).bind columnsOf?
  | _ => none

/-- Gives columns their types; the policy decides about unknown tags. -/
def resolve (policy : TypePolicy) : List (String × String) → Except BridgeError (List ColumnDef)
  | [] => .ok []
  | (name, tag) :: rest =>
    match LogicalType.ofTag? tag, policy with
    | some type, _ => (resolve policy rest).map (⟨name, type, tag⟩ :: ·)
    | none, .permissive => (resolve policy rest).map (⟨name, .varchar, tag⟩ :: ·)
    | none, .strict => .error (.unsupportedType name tag)

/-- The schema that a payload announces. -/
def parse (payload : Bytes) (policy : TypePolicy) : Except BridgeError ColumnSchema :=
  match Utf8.decode payload with
  | .error fault => .error (.schemaParse (.notText fault))
  | .ok text =>
    match (Json.parse? text).bind announced? with
    | none => .error (.schemaParse .notColumns)
    | some columns => (resolve policy columns).map ColumnSchema.mk

/-- A column as a JSON object. -/
def columnTree (column : ColumnDef) : Json :=
  .object
    [(.ofString "name", .string (.ofString column.name)),
      (.ofString "type", .string (.ofString column.declared))]

/-- The announcement of a schema as a tree. -/
def tree (schema : ColumnSchema) : Json :=
  .object [(.ofString "columns", .array (schema.columns.map columnTree))]

/-- The announcement of a schema. -/
def toJson (schema : ColumnSchema) : String := schema.tree.render

end ColumnSchema
end BatchBridge
