import TableWire.Layout.Plan

/-!
What generated statements do, apart from how a language spells them: each moves one field, or one
byte of bools, between a record and its bytes.
-/
namespace TableWire.Emit
open Layout Schema

/-- The helper that a statement calls. -/
inductive Helper where
  | int (kind : IntKind)
  | string
  | any
  | sub
  | subArray
deriving DecidableEq, Repr

/-- The helper for fields of a class; bools have none. -/
def Helper.ofStorage? : StorageClass → Option Helper
  | .primitive kind | .enum _ kind _ => some (.int kind)
  | .string => some .string
  | .any => some .any
  | .table _ => some .sub
  | .tableArray _ => some .subArray
  | .bool => none

/-- A statement of a serialize body. -/
inductive Write where
  | slot (helper : Helper) (offset : Nat) (field : String)
  /-- Field `j` goes to bit `j`. -/
  | bools (offset : Nat) (fields : List String)
deriving DecidableEq, Repr

/-- A term of a length, added to the length of the header. -/
structure LengthTerm where
  rule : LengthRule
  field : String
deriving DecidableEq, Repr

/-- What a deserialize body reads for a field. -/
inductive Read where
  | slot (helper : Helper) (offset : Nat) (field : String)
  | bit (offset bit : Nat) (field : String)
deriving DecidableEq, Repr

end TableWire.Emit
