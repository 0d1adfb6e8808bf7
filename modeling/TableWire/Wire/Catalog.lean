import TableWire.Session
import TableWire.Wire.Failure
import TableWire.Wire.Value

/-!
The enums and tables that records are made of, and the registry that finds a table by its tag.
-/
namespace TableWire.Wire
open Schema Layout

structure Catalog where
  enums : List EnumDecl
  tables : List Table

namespace Catalog

def table? (catalog : Catalog) (name : String) : Option Table :=
  catalog.tables.find? (·.name == name)

def enum? (catalog : Catalog) (name : String) : Option EnumDecl :=
  catalog.enums.find? (·.name == name)

/-- The types of a compiled schema. -/
def ofCompilation (compilation : Compilation) : Catalog where
  enums := Declaration.enums compilation.declarations
  tables := compilation.plans.filterMap fun plan => (Tag.ofText? plan.tag).map (⟨plan, ·⟩)

/-- The types of two schemas together. -/
def append (first second : Catalog) : Catalog :=
  ⟨first.enums ++ second.enums, first.tables ++ second.tables⟩

/-- The value of an enum that a number stands for. -/
def enumValue (catalog : Catalog) (name : String) (n : Int) : Attempt Value :=
  match catalog.enum? name with
  | none => abort
  | some decl =>
    if 0 ≤ n ∧ n.toNat < decl.values.length then .ok (.enum n.toNat)
    else reject (.invalidEnumValue name n)

end Catalog

/-- The tables that tags stand for. -/
structure Registry where
  bindings : Std.TreeMap Tag Table

namespace Registry

def empty : Registry := ⟨{}⟩

/-- Binds a tag to a table, in place of what it was bound to. -/
def bind (registry : Registry) (tag : Tag) (table : Table) : Registry :=
  ⟨registry.bindings.insert tag table⟩

/-- Binds a table to its own tag. -/
def register (registry : Registry) (table : Table) : Registry := registry.bind table.tag table

/-- Binds tables to their own tags, one after the other. -/
def ofTables (tables : List Table) : Registry := tables.foldl register empty

def lookup? (registry : Registry) (tag : Tag) : Option Table := registry.bindings[tag]?

def contains (registry : Registry) (tag : Tag) : Bool := registry.bindings.contains tag

def size (registry : Registry) : Nat := registry.bindings.size

def isEmpty (registry : Registry) : Bool := registry.bindings.isEmpty

end Registry
end TableWire.Wire
