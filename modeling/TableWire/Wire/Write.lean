import TableWire.Wire.Buffer
import TableWire.Wire.Value

/-!
Writing records. The header comes first; each field with a tail keeps a slot in it that holds the
offset of the tail, counted from the start of the record. Tails follow in declaration order:
* a string is its length and its bytes;
* a nested record is its bytes, and offset zero stands for none;
* an array is its count, an offset an element counted from the start of the array, and the
  elements;
* a record of any table is its tag and its bytes, and offset zero stands for none.
-/
namespace TableWire.Wire
open Layout

/-- What storing a record needs to know of it: its tag, its length, and how to write it at the
start of a buffer, which gives the buffer and the number of bytes written. -/
structure Body where
  tag : Tag
  length : Nat
  write : Bytes → Attempt (Bytes × Nat)

/-- Writes into the part of a buffer from `offset` on. -/
def writeAt (dest : Bytes) (offset : Nat) (write : Bytes → Attempt (Bytes × Nat)) :
    Attempt (Bytes × Nat) :=
  if offset ≤ dest.length then
    (write (dest.drop offset)).map fun (tail, written) => (dest.take offset ++ tail, written)
  else abort

/-! ### Tails -/

def stringLength (s : String) : Nat := 4 + s.utf8ByteSize

def putString (dest : Bytes) (slot offset : Nat) (s : String) : Attempt (Bytes × Nat) := do
  let dest ← putOffset dest slot offset
  let dest ← putOffset dest offset s.utf8ByteSize
  let dest ← overwrite dest (offset + 4) (Text.utf8 s)
  return (dest, stringLength s)

def subLength (body? : Option Body) : Nat := body?.elim 0 (·.length)

def putSub (dest : Bytes) (slot offset : Nat) (body? : Option Body) : Attempt (Bytes × Nat) := do
  match body? with
  | none =>
    let dest ← putOffset dest slot 0
    return (dest, 0)
  | some body =>
    let dest ← putOffset dest slot offset
    writeAt dest offset body.write

def arrayLength (bodies : List Body) : Nat := 4 + (bodies.map fun body => 4 + body.length).foldr (· + ·) 0

/-- Writes elements one behind the other from `cursor` on, and their offsets from `entry` on. -/
def putItems (array : Bytes) (entry cursor : Nat) : List Body → Attempt (Bytes × Nat)
  | [] => .ok (array, cursor)
  | body :: bodies => do
    let array ← putOffset array entry cursor
    let (array, written) ← writeAt array cursor body.write
    putItems array (entry + 4) (cursor + written) bodies

def putArray (dest : Bytes) (slot offset : Nat) (bodies : List Body) : Attempt (Bytes × Nat) := do
  let dest ← putOffset dest slot offset
  writeAt dest offset fun array => do
    let array ← putOffset array 0 bodies.length
    putItems array 4 (4 + 4 * bodies.length) bodies

def anyLength (body? : Option Body) : Nat := body?.elim 0 (4 + ·.length)

def putAny (dest : Bytes) (slot offset : Nat) (body? : Option Body) : Attempt (Bytes × Nat) := do
  match body? with
  | none =>
    let dest ← putOffset dest slot 0
    return (dest, 0)
  | some body =>
    let dest ← putOffset dest slot offset
    let dest ← overwrite dest offset body.tag.bytes
    let (dest, written) ← writeAt dest (offset + 4) body.write
    return (dest, 4 + written)

/-! ### Records -/

/-- The value of a field with nested records made ready for writing. -/
inductive Cell where
  | int (n : Int)
  | bool (b : Bool)
  | text (s : String)
  | absent
  | record (body : Body)
  | list (bodies : List Body)

/-- The length of the tail that a field adds. -/
def tailLength : StorageClass → Cell → Nat
  | .string, .text s => stringLength s
  | .table _, .record body => subLength (some body)
  | .tableArray _, .list bodies => arrayLength bodies
  | .any, .record body => anyLength (some body)
  | _, _ => 0

/-- Writes a field into its slot and its tail at `tail`, and gives the length of the tail. -/
def putField (dest : Bytes) (slot tail : Nat) : StorageClass → Cell → Attempt (Bytes × Nat)
  | .primitive kind, .int n => (putInt kind dest slot n).map (·, 0)
  | .enum _ kind _, .int n => (putInt kind dest slot n).map (·, 0)
  | .string, .text s => putString dest slot tail s
  | .table _, .absent => putSub dest slot tail none
  | .table _, .record body => putSub dest slot tail (some body)
  | .tableArray _, .list bodies => putArray dest slot tail bodies
  | .any, .absent => putAny dest slot tail none
  | .any, .record body => putAny dest slot tail (some body)
  | _, _ => abort

/-- Writes the members that have slots, their tails one behind the other from `tail` on, and gives
the end of the last tail. -/
def putMembers (dest : Bytes) (tail : Nat) :
    List Member → List Slot → List Cell → Attempt (Bytes × Nat)
  | [], _, [] => .ok (dest, tail)
  | member :: members, slots, cell :: cells =>
    match member.storage, slots with
    | .bool, slots => putMembers dest tail members slots cells
    | storage, slot :: slots => do
      let (dest, written) ← putField dest slot.offset tail storage cell
      putMembers dest (tail + written) members slots cells
    | _, [] => abort
  | _, _, _ => abort

/-- The bools of a record, in order. -/
def flagsOf (cells : List Cell) : List Bool :=
  cells.filterMap fun
    | .bool b => some b
    | _ => none

/-- Bools as a number, the first one in the lowest bit. -/
def packBits : List Bool → Nat
  | [] => 0
  | b :: bs => b.toNat + 2 * packBits bs

/-- Writes the bytes of bools, each taking as many bools as it has members. -/
def putChunks (dest : Bytes) : List BoolChunk → List Bool → Attempt Bytes
  | [], _ => .ok dest
  | chunk :: chunks, flags => do
    let count := chunk.members.length
    let dest ← putInt .byte dest chunk.offset (packBits (flags.take count))
    putChunks dest chunks (flags.drop count)

/-- The tail lengths of the members, in declaration order. -/
def tailLengths (members : List Member) (cells : List Cell) : List Nat :=
  (members.zip cells).filterMap fun (member, cell) =>
    if member.storage.isVariable then some (tailLength member.storage cell) else none

/-- A record of a table, ready for writing. -/
def Table.body (table : Table) (cells : List Cell) : Body where
  tag := table.tag
  length := table.plan.totalLength (tailLengths table.plan.members cells)
  write dest := do
    let plan := table.plan
    let (dest, stop) ← putMembers dest plan.baseLength plan.members plan.slots cells
    let dest ← putChunks dest plan.chunks (flagsOf cells)
    return (dest, stop)

/-- The record that a cell holds; anything else cannot be written. -/
def Cell.body : Cell → Body
  | .record body => body
  | _ => ⟨⟨0, 0, 0, 0⟩, 0, fun _ => abort⟩

namespace Value

mutual

/-- A value made ready for writing. -/
def cell : Value → Cell
  | .int n => .int n
  | .bool b => .bool b
  | .text s => .text s
  | .enum position => .int position
  | .absent => .absent
  | .record table members => .record (table.body (cells members))
  | .list items => .list ((cells items).map (·.body))

def cells : List Value → List Cell
  | [] => []
  | value :: values => cell value :: cells values

end

/-- A record made ready for writing. -/
def body (value : Value) : Body := value.cell.body

/-- The record if there is one, made ready for writing. -/
def body? : Value → Option Body
  | .absent => none
  | value => some value.body

/-- The length of a record in bytes. -/
def length (value : Value) : Nat := value.body.length

/-- Writes a record at the start of a buffer. -/
def write (value : Value) (dest : Bytes) : Attempt (Bytes × Nat) := value.body.write dest

/-- The bytes of a record. -/
def toBytes (value : Value) : Attempt Bytes :=
  (value.write (List.replicate value.length 0)).map fun (bytes, written) => bytes.take written

end Value
end TableWire.Wire
