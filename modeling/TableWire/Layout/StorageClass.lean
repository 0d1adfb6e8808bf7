import TableWire.Json
import TableWire.Schema.IntKind

/-!
How a field is stored: as an integer or an enum in the header, as a bit, or through an offset slot
that leads to a tail behind the header.
-/
namespace TableWire.Layout
open Schema (IntKind)

inductive StorageClass where
  | primitive (kind : IntKind)
  | bool
  | string
  | any
  | enum (name : String) (repr : IntKind) (first : String)
  | table (name : String)
  | tableArray (name : String)
deriving DecidableEq, Repr

/-- How the length of a tail is measured. -/
inductive LengthRule where
  | string
  | any
  | sub
  | subArray
deriving DecidableEq, Repr

inductive DefaultValue where
  | zero
  | false
  | emptyString
  | null
  | enumValue (name : String)
  | emptyArray
deriving DecidableEq, Repr

/-- Width of the offset slot that leads to a tail. -/
def slotWidth : Nat := 4

namespace StorageClass

/-- Bytes that a field takes in the header. Bools have none of their own: they share bytes. -/
def headerWidth? : StorageClass → Option Nat
  | .primitive kind => some kind.width
  | .enum _ repr _ => some repr.width
  | .bool => none
  | .string | .any | .table _ | .tableArray _ => some slotWidth

def lengthRule? : StorageClass → Option LengthRule
  | .string => some .string
  | .any => some .any
  | .table _ => some .sub
  | .tableArray _ => some .subArray
  | .primitive _ | .bool | .enum _ _ _ => none

def isVariable (storage : StorageClass) : Bool := storage.lengthRule?.isSome

def default : StorageClass → DefaultValue
  | .primitive _ => .zero
  | .bool => .false
  | .string => .emptyString
  | .any | .table _ => .null
  | .enum _ _ first => .enumValue first
  | .tableArray _ => .emptyArray

def toJson : StorageClass → Json
  | .primitive kind => .obj [("class", .str "primitive"), ("kind", .str kind.keyword)]
  | .bool => .obj [("class", .str "bool")]
  | .string => .obj [("class", .str "string")]
  | .any => .obj [("class", .str "any")]
  | .enum name repr first =>
    .obj [("class", .str "enum"), ("name", .str name), ("repr", .str repr.keyword),
      ("first", .str first)]
  | .table name => .obj [("class", .str "table"), ("name", .str name)]
  | .tableArray name => .obj [("class", .str "table_array"), ("name", .str name)]

end StorageClass

def LengthRule.toJson : LengthRule → Json
  | .string => .str "string"
  | .any => .str "any"
  | .sub => .str "sub"
  | .subArray => .str "sub_array"

def DefaultValue.toJson : DefaultValue → Json
  | .zero => .str "zero"
  | .false => .str "false"
  | .emptyString => .str "empty_string"
  | .null => .str "null"
  | .enumValue name => .obj [("enum_value", .str name)]
  | .emptyArray => .str "empty_array"

/-- A storage class with everything that follows from it. -/
def StorageClass.describe (storage : StorageClass) : Json :=
  .obj [("class", storage.toJson),
    ("header_width", storage.headerWidth?.elim .null fun width => .int width),
    ("length_fn", storage.lengthRule?.elim .null (·.toJson)),
    ("is_variable", .bool storage.isVariable),
    ("default", storage.default.toJson)]

end TableWire.Layout
