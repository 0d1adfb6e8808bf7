import TableWire.Layout.TypeScope

/-!
Byte layout of a table. Integers and enums take their width in the header, tails take an offset
slot, both in declaration order. Bools fill bytes of eight bits at the end of the header, the first
byte last.
-/
namespace TableWire.Layout

/-- How many bools share a byte. -/
def boolsPerChunk : Nat := 8

/-- Where a field starts in the header. -/
structure Slot where
  name : String
  offset : Nat
deriving DecidableEq, Repr

/-- A byte of bools: member `j` is bit `j`, least significant first. -/
structure BoolChunk where
  offset : Nat
  members : List String
deriving DecidableEq, Repr

/-- The chunk offset and the bit of a bool, if the chunk holds it. -/
def BoolChunk.bitOf? (chunk : BoolChunk) (field : String) : Option (Nat × Nat) :=
  (chunk.members.findIdx? (· == field)).map (chunk.offset, ·)

/-- A field with a tail. -/
structure VariableField where
  name : String
  slot : Nat
  length : LengthRule
deriving DecidableEq, Repr

structure Plan where
  table : String
  tag : String
  /-- Length of the header. -/
  baseLength : Nat
  /-- Every field in declaration order. -/
  members : List Member
  /-- The fields that are no bools, in declaration order. -/
  slots : List Slot
  chunks : List BoolChunk
  /-- The fields with tails, in declaration order. -/
  variableFields : List VariableField
deriving DecidableEq, Repr

/-- The header as far as it is laid out. -/
structure Header where
  length : Nat
  slots : List Slot
  /-- Names of the bools in each chunk. -/
  chunks : List (List String)
  variableFields : List VariableField

namespace Header

def empty : Header := ⟨0, [], [], []⟩

/-- Adds a bool to the last chunk, or to a new one when that is full. -/
def addBool (chunks : List (List String)) (name : String) : List (List String) :=
  match chunks.getLast? with
  | some chunk =>
    if chunk.length < boolsPerChunk then chunks.dropLast ++ [chunk ++ [name]]
    else chunks ++ [[name]]
  | none => [[name]]

/-- Lays out one more member. -/
def place (header : Header) (member : Member) : Header :=
  match member.storage.headerWidth? with
  | none => { header with chunks := addBool header.chunks member.name }
  | some width =>
    { header with
      length := header.length + width
      slots := header.slots ++ [⟨member.name, header.length⟩]
      variableFields :=
        match member.storage.lengthRule? with
        | some rule => header.variableFields ++ [⟨member.name, header.length, rule⟩]
        | none => header.variableFields }

end Header

namespace Plan

/-- Lays out the members of a table. -/
def compute (table tag : String) (members : List Member) : Plan :=
  let header := members.foldl Header.place Header.empty
  let baseLength := header.length + header.chunks.length
  { table, tag, baseLength, members
    slots := header.slots
    chunks := header.chunks.mapIdx fun i names => ⟨baseLength - i - 1, names⟩
    variableFields := header.variableFields }

def hasVariableFields (plan : Plan) : Bool := !plan.variableFields.isEmpty

/-- Where a field starts in the header. -/
def slotOf? (plan : Plan) (field : String) : Option Nat :=
  (plan.slots.find? (·.name == field)).map (·.offset)

/-- The chunk offset and the bit of a bool. -/
def bitOf? (plan : Plan) (field : String) : Option (Nat × Nat) :=
  plan.chunks.findSome? (·.bitOf? field)

/-- The storage class of a field. -/
def member? (plan : Plan) (field : String) : Option StorageClass :=
  (plan.members.find? (·.name == field)).map (·.storage)

/-- The length of a record whose tails have the given lengths. -/
def totalLength (plan : Plan) (tails : List Nat) : Nat := plan.baseLength + tails.foldr (· + ·) 0

def toJson (plan : Plan) : Json :=
  .obj [("table", .str plan.table), ("tag", .str plan.tag), ("base_length", .int plan.baseLength),
    ("members", .arr (plan.members.map fun member =>
      .obj [("name", .str member.name), ("class", member.storage.toJson)])),
    ("slots", .arr (plan.slots.map fun slot =>
      .obj [("name", .str slot.name), ("offset", .int slot.offset)])),
    ("bool_chunks", .arr (plan.chunks.map fun chunk =>
      .obj [("offset", .int chunk.offset), ("members", .arr (chunk.members.map .str))])),
    ("variable_fields", .arr (plan.variableFields.map fun field =>
      .obj [("name", .str field.name), ("slot", .int field.slot),
        ("length", field.length.toJson)]))]

end Plan

/-- The plans as indented JSON. -/
def plansText (plans : List Plan) : String := (Json.arr (plans.map (·.toJson))).pretty

end TableWire.Layout
