import TableWire.Wire.Tag

/-!
How an access to bytes fails. Reading foreign bytes is refused with a reason. Breaking the contract
of a buffer, by writing past its end or by a size that 64 bits cannot hold, aborts.
-/
namespace TableWire.Wire

/-- Why bytes are no record. -/
inductive DecodeError where
  | outOfBounds (offset length available : Nat)
  | invalidUtf8 (offset : Nat)
  | overlappingData (offset : Nat)
  | unknownTag (tag : Tag)
  | invalidEnumValue (name : String) (value : Int)
deriving DecidableEq, Repr

def DecodeError.message : DecodeError → String
  | .outOfBounds offset length available =>
    s!"Read of {length} bytes at offset {offset} is out of bounds (buffer holds {available})"
  | .invalidUtf8 offset => s!"String at offset {offset} is not valid UTF-8"
  | .overlappingData offset =>
    s!"Data at offset {offset} overlaps data that was already decoded"
  | .unknownTag tag => s!"No deserializer registered for tag {tag.display}"
  | .invalidEnumValue name value => s!"Value {value} is not a member of enum {name}"

inductive Failure where
  | rejected (error : DecodeError)
  | abort
deriving DecidableEq, Repr

/-- The result of an access to bytes. -/
abbrev Attempt (α : Type) := Except Failure α

/-- Refuses foreign bytes. -/
def reject {α : Type} (error : DecodeError) : Attempt α := .error (.rejected error)

/-- Breaks off. -/
def abort {α : Type} : Attempt α := .error .abort

/-- The first number that 64 bits cannot hold. -/
def sizeLimit : Nat := 18446744073709551616

/-- A size that 64 bits must hold. -/
def sized (size : Nat) : Attempt Nat := if size < sizeLimit then .ok size else abort

end TableWire.Wire
