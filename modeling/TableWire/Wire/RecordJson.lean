import TableWire.Wire.Buffer
import TableWire.Wire.Catalog

/-!
Records as JSON objects keyed by field names. Writing shows every field. In reading, fields that are
missing or null take their default, and the fields of an object are read in the order they stand in
it, so of several numbers outside their enums the first one is reported.
-/
namespace TableWire.Wire
open Layout

/-! ### To JSON -/

namespace Value

mutual

/-- A field of a class as JSON; a record of any table also names its table and tag. -/
def fieldJson (storage : StorageClass) : Value → Json
  | .int n => .int n
  | .bool b => .bool b
  | .text s => .str s
  | .enum position => .int position
  | .absent => .null
  | .record table members =>
    let fields := Json.obj (membersJson table.plan.members members)
    match storage with
    | .any =>
      .obj [("table", .str table.name), ("tag", .str table.tag.display), ("value", fields)]
    | _ => fields
  | .list items => .arr (itemsJson storage items)

def membersJson : List Member → List Value → List (String × Json)
  | member :: members, value :: values =>
    (member.name, fieldJson member.storage value) :: membersJson members values
  | _, _ => []

def itemsJson (storage : StorageClass) : List Value → List Json
  | [] => []
  | value :: values => fieldJson storage value :: itemsJson storage values

end

/-- A record as an object of its fields. -/
def toJson (value : Value) : Json := value.fieldJson (.table "")

/-- A record with its table and tag. -/
def toTaggedJson (value : Value) : Json := value.fieldJson .any

end Value

/-! ### From JSON -/

/-- The record with the given fields, all others at their default. -/
def Table.recordOf (table : Table) (fields : List (String × Value)) : Value :=
  .record table (table.plan.members.map fun member =>
    (fields.lookup member.name).getD (Value.default member.storage))

mutual

/-- A field of a class. -/
def fieldOfJson (catalog : Catalog) (storage : StorageClass) : Json → Attempt Value
  | .null => .ok (Value.default storage)
  | .bool b =>
    match storage with
    | .bool => .ok (.bool b)
    | _ => abort
  | .int n =>
    match storage with
    | .primitive kind => if Fits kind n then .ok (.int n) else abort
    | .enum name _ _ => catalog.enumValue name n
    | _ => abort
  | .str s =>
    match storage with
    | .string => .ok (.text s)
    | _ => abort
  | .arr items =>
    match storage with
    | .tableArray name => (itemsOfJson catalog (.table name) items).map .list
    | _ => abort
  | .obj fields =>
    match storage with
    | .table name =>
      match catalog.table? name with
      | some table => (membersOfJson catalog table fields).map table.recordOf
      | none => abort
    | .any =>
      match fields.lookup "table" with
      | some (.str name) => taggedOfJson catalog name fields
      | _ => abort
    | _ => abort

def itemsOfJson (catalog : Catalog) (storage : StorageClass) : List Json → Attempt (List Value)
  | [] => .ok []
  | item :: items => do
    let value ← fieldOfJson catalog storage item
    let values ← itemsOfJson catalog storage items
    return value :: values

/-- The fields of an object that a table has. -/
def membersOfJson (catalog : Catalog) (table : Table) :
    List (String × Json) → Attempt (List (String × Value))
  | [] => .ok []
  | (name, json) :: fields => do
    match table.plan.member? name with
    | none => membersOfJson catalog table fields
    | some storage =>
      let value ← fieldOfJson catalog storage json
      let values ← membersOfJson catalog table fields
      return (name, value) :: values

/-- The record under the key `value`, of the named table. -/
def taggedOfJson (catalog : Catalog) (name : String) : List (String × Json) → Attempt Value
  | [] => abort
  | (key, json) :: fields =>
    if key = "value" then fieldOfJson catalog (.table name) json
    else taggedOfJson catalog name fields

end

end TableWire.Wire
