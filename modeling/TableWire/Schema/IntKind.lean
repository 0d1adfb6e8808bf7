/-!
The fixed-width integers that a field or an enum can be stored as.
-/
namespace TableWire.Schema

inductive IntKind where
  | byte
  | int16
  | uint16
  | int32
  | uint32
deriving DecidableEq, Repr

namespace IntKind

def all : List IntKind := [byte, int16, uint16, int32, uint32]

/-- The word that names the kind in a schema. -/
def keyword : IntKind → String
  | byte => "byte"
  | int16 => "int16"
  | uint16 => "uint16"
  | int32 => "int32"
  | uint32 => "uint32"

def ofKeyword? (word : String) : Option IntKind :=
  all.find? (·.keyword == word)

/-- Width in bytes. -/
def width : IntKind → Nat
  | byte => 1
  | int16 | uint16 => 2
  | int32 | uint32 => 4

def isSigned : IntKind → Bool
  | int16 | int32 => true
  | byte | uint16 | uint32 => false

/-- How many enum values the kind can number from zero without a sign. -/
def valueCapacity : IntKind → Nat
  | byte => 256
  | int16 => 32768
  | uint16 => 65536
  | int32 => 2147483648
  | uint32 => 4294967296

end IntKind
end TableWire.Schema
