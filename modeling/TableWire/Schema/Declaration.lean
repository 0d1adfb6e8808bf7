import TableWire.Json
import TableWire.Schema.IntKind

/-!
What a schema declares: enums, and tables with their fields. Lines and columns are those of the
declared name.
-/
namespace TableWire.Schema

structure EnumDecl where
  name : String
  line : Nat
  column : Nat
  repr : IntKind
  /-- The value at index `i` is stored as `i`. -/
  values : List String
deriving DecidableEq, Repr

structure FieldDecl where
  name : String
  line : Nat
  column : Nat
  typeName : String
  isArray : Bool
deriving DecidableEq, Repr

structure TableDecl where
  name : String
  line : Nat
  column : Nat
  /-- The four bytes that stand for the table on the wire. -/
  tag : String
  fields : List FieldDecl
deriving DecidableEq, Repr

inductive Declaration where
  | enum (decl : EnumDecl)
  | table (decl : TableDecl)
deriving DecidableEq, Repr

def Declaration.name : Declaration → String
  | .enum decl => decl.name
  | .table decl => decl.name

/-- The tables among declarations, in order. -/
def Declaration.tables (declarations : List Declaration) : List TableDecl :=
  declarations.filterMap fun
    | .table decl => some decl
    | .enum _ => none

/-- The enums among declarations, in order. -/
def Declaration.enums (declarations : List Declaration) : List EnumDecl :=
  declarations.filterMap fun
    | .enum decl => some decl
    | .table _ => none

def FieldDecl.toJson (field : FieldDecl) : Json :=
  .obj [("name", .str field.name), ("line", .int field.line), ("column", .int field.column),
    ("type_name", .str field.typeName), ("is_array", .bool field.isArray)]

def Declaration.toJson : Declaration → Json
  | .enum decl =>
    .obj [("kind", .str "enum"), ("name", .str decl.name), ("line", .int decl.line),
      ("column", .int decl.column), ("repr", .str decl.repr.keyword),
      ("values", .arr (decl.values.map .str))]
  | .table decl =>
    .obj [("kind", .str "table"), ("name", .str decl.name), ("line", .int decl.line),
      ("column", .int decl.column), ("tag", .str decl.tag),
      ("fields", .arr (decl.fields.map (·.toJson)))]

end TableWire.Schema
