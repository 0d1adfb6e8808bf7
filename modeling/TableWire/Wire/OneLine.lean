import TableWire.Emit.Naming
import TableWire.Wire.Catalog

/-!
Records on one line, with the names that generated code gives to types, fields and enum values.
-/
namespace TableWire.Wire.Value
open Layout

mutual

/-- A field of a class on one line, with the names that generated code gives it. -/
def lineField (catalog : Catalog) (storage : StorageClass) : Value → String
  | .int n => toString n
  | .bool b => if b then "true" else "false"
  | .text s => Text.quoted s
  | .enum position =>
    match storage with
    | .enum name _ _ =>
      let values := (catalog.enum? name).elim [] (·.values)
      Emit.typeName (values[position]?.getD "")
    | _ => toString position
  | .absent => "None"
  | .record table members =>
    let fields := lineFields catalog table.plan.members members
    let shown := if fields.isEmpty then Emit.typeName table.name
      else Emit.typeName table.name ++ " \x7b " ++ ", ".intercalate fields ++ " \x7d"
    match storage with
    | .tableArray _ => shown
    | _ => s!"Some({shown})"
  | .list items => "[" ++ ", ".intercalate (lineItems catalog storage items) ++ "]"

def lineFields (catalog : Catalog) : List Member → List Value → List String
  | member :: members, value :: values =>
    s!"{Emit.fieldName member.name}: {lineField catalog member.storage value}" ::
      lineFields catalog members values
  | _, _ => []

def lineItems (catalog : Catalog) (storage : StorageClass) : List Value → List String
  | [] => []
  | value :: values => lineField catalog storage value :: lineItems catalog storage values

end

/-- A record on one line, as an element of an array is shown. -/
def oneLine (catalog : Catalog) (value : Value) : String :=
  value.lineField catalog (.tableArray "")

end TableWire.Wire.Value
