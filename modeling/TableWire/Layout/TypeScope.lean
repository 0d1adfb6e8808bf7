import TableWire.Layout.StorageClass
import TableWire.Schema.Declaration
import TableWire.Schema.Diagnostic
import Std.Data.TreeMap

/-!
The types declared so far, and what a field's type means among them. Types must be declared before
they are used; a later declaration of a name replaces the earlier one.
-/
namespace TableWire.Layout
open Schema

inductive TypeEntry where
  | enum (repr : IntKind) (values : List String)
  | table (tag : String)
deriving DecidableEq, Repr

structure TypeScope where
  entries : Std.TreeMap String TypeEntry

namespace TypeScope

def empty : TypeScope := ⟨{}⟩

def declareEnum (scope : TypeScope) (decl : EnumDecl) : TypeScope :=
  ⟨scope.entries.insert decl.name (.enum decl.repr decl.values)⟩

def declareTable (scope : TypeScope) (decl : TableDecl) : TypeScope :=
  ⟨scope.entries.insert decl.name (.table decl.tag)⟩

def lookup? (scope : TypeScope) (name : String) : Option TypeEntry := scope.entries[name]?

def contains (scope : TypeScope) (name : String) : Bool := scope.entries.contains name

def size (scope : TypeScope) : Nat := scope.entries.size

def isEmpty (scope : TypeScope) : Bool := scope.entries.isEmpty

end TypeScope

/-- A field whose type is resolved. -/
structure Member where
  name : String
  storage : StorageClass
deriving DecidableEq, Repr

/-- The class of a type name that needs no declaration. -/
def builtin? (typeName : String) : Option StorageClass :=
  if typeName = "bool" then some .bool
  else if typeName = "string" then some .string
  else if typeName = "any" then some .any
  else (IntKind.ofKeyword? typeName).map .primitive

/-- Resolves the type of a field. Built-in names come before declared ones, and only tables have
arrays. -/
def classify (scope : TypeScope) (table : String) (field : FieldDecl) :
    Except Diagnostic StorageClass :=
  let ref : FieldRef := ⟨table, field.name, field.typeName⟩
  match builtin? field.typeName with
  | some storage => if field.isArray then .error (.unsupportedArray ref) else .ok storage
  | none =>
    match scope.lookup? field.typeName with
    | none => .error (.unknownType ref)
    | some (.enum repr values) =>
      if field.isArray then .error (.unsupportedArray ref)
      else
        match values.head? with
        | none => .error (.emptyEnumField ref)
        | some first => .ok (.enum field.typeName repr first)
    | some (.table _) =>
      .ok (if field.isArray then .tableArray field.typeName else .table field.typeName)

/-- Resolves a field to a member of its table. -/
def resolve (scope : TypeScope) (table : String) (field : FieldDecl) : Except Diagnostic Member :=
  (classify scope table field).map (⟨field.name, ·⟩)

end TableWire.Layout
