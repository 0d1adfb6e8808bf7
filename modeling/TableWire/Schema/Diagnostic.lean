import TableWire.Schema.IntKind
import TableWire.Text.Quoted

/-!
Why a schema is refused, and how that is worded.
-/
namespace TableWire.Schema

/-- Where a declaration stops matching its grammar: the place right after its keyword. -/
structure Mismatch where
  fragment : String
  line : Nat
  column : Nat
deriving DecidableEq, Repr

/-- A field and the type it was declared with. -/
structure FieldRef where
  table : String
  field : String
  typeName : String
deriving DecidableEq, Repr

/-- The names that must differ from each other in generated code. -/
inductive NameScope where
  | schema
  | enum (name : String)
  | table (name : String)
deriving DecidableEq, Repr

inductive Diagnostic where
  | enumGrammar (mismatch : Mismatch)
  | enumOverflow (name : String) (count : Nat) (repr : IntKind)
  | enumValueName (name : String) (value : String)
  | tableGrammar (mismatch : Mismatch)
  | fieldGrammar (table : String) (entry : String)
  | unknownType (field : FieldRef)
  | unsupportedArray (field : FieldRef)
  | emptyEnumField (field : FieldRef)
  | nameCollision (scope : NameScope) (first second generated : String)
  | invalidIdentifier (scope : NameScope) (name : String)
  /-- A broken invariant of the compiler itself, which no schema leads to. -/
  | internal
deriving DecidableEq, Repr

open Text (quoted)

def Mismatch.message (mismatch : Mismatch) : String :=
  s!"at line {mismatch.line}, column {mismatch.column}: {quoted mismatch.fragment}"

def NameScope.message : NameScope → String
  | .schema => "schema"
  | .enum name => s!"enum {quoted name}"
  | .table name => s!"table {quoted name}"

def Diagnostic.message : Diagnostic → String
  | .enumGrammar mismatch =>
    "Failed to match enum <name> : <byte|uint16|uint32|int16|int32> \x7bvalues\x7d " ++
      mismatch.message
  | .enumOverflow name count repr =>
    s!"Enum {quoted name} has {count} values, more than {repr.keyword} can number"
  | .enumValueName name value => s!"Invalid value name {quoted value} in enum {quoted name}"
  | .tableGrammar mismatch =>
    "Failed to match table <name> : <tag> \x7bfields\x7d " ++ mismatch.message
  | .fieldGrammar table entry =>
    s!"Failed to match '<name> : <type>' in fields of table {quoted table}: {quoted entry}"
  | .unknownType ref =>
    s!"Unrecognized type {quoted ref.typeName} for field {quoted ref.field} of table " ++
      s!"{quoted ref.table} - types must be declared before they are used"
  | .unsupportedArray ref =>
    s!"Field {quoted ref.field} of table {quoted ref.table} declares an array of " ++
      s!"{quoted ref.typeName}, but only arrays of tables are supported"
  | .emptyEnumField ref =>
    s!"Field {quoted ref.field} of table {quoted ref.table} uses enum {quoted ref.typeName}, " ++
      "which has no values"
  | .nameCollision scope first second generated =>
    s!"{quoted first} and {quoted second} in {scope.message} both generate the name " ++
      quoted generated
  | .invalidIdentifier scope name =>
    s!"Name {quoted name} in {scope.message} has no valid form in generated code"
  | .internal => "The compiler broke an invariant of its own"

end TableWire.Schema
