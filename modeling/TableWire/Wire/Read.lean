import TableWire.Wire.Catalog
import TableWire.Wire.Write

/-!
Reading records. The bytes may come from anywhere: slots may point backwards, at themselves or
past the end. A nested record must fit into the bytes it was read from, and array elements may not
overlap, so a small input cannot unfold into a large value. Nested records are read from strictly
fewer bytes than the record around them, which is why reading ends.
-/
namespace TableWire.Wire
open Layout

/-! ### Tails -/

def getString (src : Bytes) (slot : Nat) : Attempt String := do
  let offset ← getOffset src slot
  let length ← getOffset src offset
  let start ← sized (offset + 4)
  let bytes ← slice src start length
  match Text.ofUtf8? bytes with
  | some s => return s
  | none => reject (.invalidUtf8 offset)

/-- A record that must not be longer than the bytes it was read from. -/
def fitted (value : Value) (available offset : Nat) : Attempt Value := do
  let length ← sized value.length
  if available < length then reject (.overlappingData offset) else return value

/-- Reads a nested record; none for offset zero. -/
def getSub (read : Bytes → Attempt Value) (src : Bytes) (slot : Nat) : Attempt (Option Value) := do
  let offset ← getOffset src slot
  if offset = 0 then return none
  else
    let body ← rest src offset
    let value ← read body
    let value ← fitted value body.length offset
    return some value

/-- Reads `count` elements of an array at `offset`, whose entries go on at `entry`; none may start
before `least`. -/
def getItems (read : Bytes → Attempt Value) (array : Bytes) (offset : Nat) :
    (count entry least : Nat) → Attempt (List Value)
  | 0, _, _ => .ok []
  | count + 1, entry, least => do
    let entry ← sized entry
    let start ← getOffset array entry
    let place ← sized (offset + start)
    if start < least then reject (.overlappingData place)
    else
      let body ← rest array start
      let value ← read body
      let value ← fitted value body.length place
      let stop ← sized (start + value.length)
      let values ← getItems read array offset count (entry + 4) stop
      return value :: values

def getArray (read : Bytes → Attempt Value) (src : Bytes) (slot : Nat) :
    Attempt (List Value) := do
  let offset ← getOffset src slot
  let array ← rest src offset
  let count ← getOffset array 0
  let _ ← slice array 4 (4 * count)
  let least ← sized (4 + 4 * count)
  getItems read array offset count 4 least

/-- Reads a record of the table that its tag stands for; none for offset zero. -/
def getAny (registry : Registry) (read : Table → Bytes → Attempt Value) (src : Bytes) (slot : Nat) :
    Attempt (Option Value) := do
  let offset ← getOffset src slot
  if offset = 0 then return none
  else
    let body ← rest src offset
    let bytes ← slice body 0 4
    match Tag.ofBytes? bytes with
    | none => abort
    | some tag =>
      match registry.lookup? tag with
      | none => reject (.unknownTag tag)
      | some table =>
        let record := body.drop 4
        let value ← read table record
        let place ← sized (offset + 4)
        let value ← fitted value record.length place
        return some value

/-! ### Records -/

/-- Reads a field from its slot. -/
def getField (catalog : Catalog) (registry : Registry) (read : Table → Bytes → Attempt Value)
    (src : Bytes) (slot : Nat) : StorageClass → Attempt Value
  | .primitive kind => (getInt kind src slot).map .int
  | .enum name kind _ => do catalog.enumValue name (← getInt kind src slot)
  | .string => (getString src slot).map .text
  | .any => (getAny registry read src slot).map (·.getD .absent)
  | .table name =>
    match catalog.table? name with
    | none => abort
    | some table => (getSub (read table) src slot).map (·.getD .absent)
  | .tableArray name =>
    match catalog.table? name with
    | none => abort
    | some table => (getArray (read table) src slot).map .list
  | .bool => abort

/-- The lowest `count` bits of a number, the lowest first. -/
def unpackBits (n : Nat) : (count : Nat) → List Bool
  | 0 => []
  | count + 1 => (n % 2 == 1) :: unpackBits (n / 2) count

/-- Reads all bytes of bools and takes them apart. -/
def getFlags (src : Bytes) : List BoolChunk → Attempt (List Bool)
  | [] => .ok []
  | chunk :: chunks => do
    let byte ← getInt .byte src chunk.offset
    let flags ← getFlags src chunks
    return unpackBits byte.toNat chunk.members.length ++ flags

/-- Reads the members in declaration order, bools from the flags and all others from their slots. -/
def getMembers (catalog : Catalog) (registry : Registry) (read : Table → Bytes → Attempt Value)
    (src : Bytes) : List Member → List Slot → List Bool → Attempt (List Value)
  | [], _, _ => .ok []
  | member :: members, slots, flags =>
    match member.storage, slots, flags with
    | .bool, slots, flag :: flags => do
      let values ← getMembers catalog registry read src members slots flags
      return .bool flag :: values
    | storage, slot :: slots, flags => do
      let value ← getField catalog registry read src slot.offset storage
      let values ← getMembers catalog registry read src members slots flags
      return value :: values
    | _, _, _ => abort

/-- Reads a record, with `read` for the records inside it. -/
def getRecord (catalog : Catalog) (registry : Registry) (read : Table → Bytes → Attempt Value)
    (table : Table) (src : Bytes) : Attempt Value := do
  let plan := table.plan
  let flags ← getFlags src plan.chunks
  let members ← getMembers catalog registry read src plan.members plan.slots flags
  return .record table members

/-- Reads a record of a table. -/
def decode (catalog : Catalog) (registry : Registry) (table : Table) (src : Bytes) :
    Attempt Value :=
  getRecord catalog registry
    (fun nested body =>
      if body.length < src.length then decode catalog registry nested body else abort)
    table src
termination_by src.length

/-- Reads a record of the table that a tag stands for. -/
def decodeTagged (catalog : Catalog) (registry : Registry) (tag : Tag) (src : Bytes) :
    Attempt Value :=
  match registry.lookup? tag with
  | none => reject (.unknownTag tag)
  | some table => decode catalog registry table src

end TableWire.Wire
