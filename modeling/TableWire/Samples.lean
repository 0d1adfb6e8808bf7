import TableWire.Wire.Catalog

/-!
Schemas to try the record codec on: a small pet store, a collection of tables with every kind of field,
and a kennel and a grove whose types are also written out. A panel has more bools than a byte has bits.
-/
namespace TableWire.Samples
open Wire Layout

def petStoreLines : List String := [
  "namespace petstore;",
  "",
  "enum Kind: byte \x7b Cat, Dog, Parrot, \x7d",
  "",
  "enum Rating: int16 \x7b",
  "  Low,",
  "  Medium,",
  "  High",
  "\x7d",
  "",
  "table Pet: PETT \x7b",
  "  name: string;",
  "  kind: Kind;",
  "  tame: bool;",
  "  age: uint16;",
  "  vaccinated: bool;",
  "\x7d",
  "",
  "table Owner: OWNR \x7b",
  "  id: uint32;",
  "  name: string;",
  "  pets: [Pet];",
  "  favorite: Pet;",
  "  rating: Rating;",
  "  verified: bool;",
  "  note: any;",
  "\x7d",
  "",
  "table Node: NODE \x7b value: int32; next: Node; \x7d",
  "",
  "enum Box: uint16 \x7b String, Vec \x7d",
  "",
  "table Result: RSLT \x7b",
  "  ok: bool;",
  "  final: bool;",
  "  try: byte;",
  "  abstract: uint16;",
  "  type: string;",
  "  kind: Box;",
  "\x7d"]

def zooLines : List String := [
  "enum Tiny: byte \x7b A, B, C \x7d",
  "enum Short: int16 \x7b Neg, Zero, Pos \x7d",
  "enum Wide: uint16 \x7b U0, U1 \x7d",
  "enum Long: int32 \x7b I0, I1, I2, I3 \x7d",
  "enum Only: uint32 \x7b X0 \x7d",
  "",
  "table Twin: LEAF \x7b a: int16; b: bool \x7d",
  "table Leaf: LEAF \x7b value: int32 \x7d",
  "table Branch: BRCH \x7b name: string; first: Leaf; leaves: [Leaf]; payload: any \x7d",
  "table Pair: PAIR \x7b a: Pair; b: Pair \x7d",
  "table Empty: EMPT \x7b \x7d",
  "table Single: ONE1 \x7b b: bool \x7d",
  "table Scalars: SCAL \x7b b: byte; s: int16; us: uint16; i: int32; ui: uint32 \x7d",
  "table Enums: ENUM \x7b t: Tiny; s: Short; w: Wide; l: Long; o: Only \x7d",
  "table Flags: FLAG \x7b",
  "  b0: bool; b1: bool; n: byte; b2: bool; b3: bool; b4: bool; b5: bool; m: uint16;",
  "  b6: bool; b7: bool; b8: bool; b9: bool; b10: bool; b11: bool; b12: bool; b13: bool;",
  "  b14: bool; b15: bool; s: string; b16: bool",
  "\x7d",
  "table Tree: TREE \x7b label: string; kids: Tree[]; extra: any \x7d",
  "table Holder: HOLD \x7b e: Empty; es: [Empty]; x: any; s: string; p: Pair \x7d",
  "table Texts: TEXT \x7b a: string; b: string; c: string \x7d"]

def kennelLines : List String := [
  "enum Size: byte \x7b Small, Large \x7d",
  "table Chip: CHIP \x7b \x7d",
  "table Dog: DOGG \x7b",
  "  name: string; size: Size; tame: bool; chip: Chip; pups: [Dog]; note: any",
  "\x7d"]

/-- The tables of the collection that have branches and leaves. -/
def groveLines : List String := [
  "table Twin: LEAF \x7b a: int16; b: bool \x7d",
  "table Leaf: LEAF \x7b value: int32 \x7d",
  "table Branch: BRCH \x7b name: string; first: Leaf; leaves: [Leaf]; payload: any \x7d"]

/-- The types of a schema; none if it does not compile. -/
def catalogOf (lines : List String) : Catalog :=
  match compile ("\n".intercalate lines) (.ofTarget .rust) with
  | .ok compilation => .ofCompilation compilation
  | .error _ => ⟨[], []⟩

/-- The types of both schemas. -/
def catalog : Catalog := (catalogOf petStoreLines).append (catalogOf zooLines)

/-! ### The kennel -/

/-- A table without fields. -/
def chip : Table := ⟨.compute "Chip" "CHIP" [], ⟨67, 72, 73, 80⟩⟩

def dog : Table where
  plan := .compute "Dog" "DOGG" [⟨"name", .string⟩, ⟨"size", .enum "Size" .byte "Small"⟩, ⟨"tame", .bool⟩,
    ⟨"chip", .table "Chip"⟩, ⟨"pups", .tableArray "Dog"⟩, ⟨"note", .any⟩]
  tag := ⟨68, 79, 71, 71⟩

def kennel : Catalog where
  enums := [⟨"Size", 1, 6, .byte, ["Small", "Large"]⟩]
  tables := [chip, dog]

def pip : Value := .record dog [.text "Pip", .enum 0, .bool false, .absent, .list [], .absent]

/-- A dog with a chip, two pups and another chip as its note. -/
def rex : Value :=
  .record dog [.text "Rex", .enum 1, .bool true, .record chip [], .list [pip, pip], .record chip []]

/-- Bytes of a dog whose chip lies in the header, and whose name and pups lie in the same place. -/
def knot : Bytes := [
  18, 0, 0, 0, 1, 1, 0, 0, 0, 18, 0, 0, 0, 48, 0, 0, 0, 0,
  1, 0, 0, 0, 8, 0, 0, 0,
  18, 0, 0, 0, 0, 0, 0, 0, 0, 18, 0, 0, 0, 0, 0, 0, 0, 0, 0, 0, 0, 0,
  67, 72, 73, 80]

/-- The dog that `knot` stands for. -/
def unknotted : Value :=
  .record dog [.text "\x08", .enum 1, .bool false, .record chip [],
    .list [.record dog [.text "", .enum 0, .bool false, .absent, .list [], .absent]], .record chip []]

/-! ### The grove -/

def twin : Table := ⟨.compute "Twin" "LEAF" [⟨"a", .primitive .int16⟩, ⟨"b", .bool⟩], ⟨76, 69, 65, 70⟩⟩

/-- A table that shares its tag with another one. -/
def leaf : Table := ⟨.compute "Leaf" "LEAF" [⟨"value", .primitive .int32⟩], ⟨76, 69, 65, 70⟩⟩

def branch : Table where
  plan := .compute "Branch" "BRCH" [⟨"name", .string⟩, ⟨"first", .table "Leaf"⟩, ⟨"leaves", .tableArray "Leaf"⟩,
    ⟨"payload", .any⟩]
  tag := ⟨66, 82, 67, 72⟩

def grove : Catalog := ⟨[], [twin, leaf, branch]⟩

/-- A branch that carries nothing but a leaf. -/
def laden : Value := .record branch [.text "", .absent, .list [], .record leaf [.int 7]]

/-! ### The panel -/

/-- Nine switches, with a number and a text between them. -/
def panel : List Member := [
  ⟨"main", .bool⟩, ⟨"pump", .bool⟩, ⟨"level", .primitive .int16⟩, ⟨"valve", .bool⟩, ⟨"drain", .bool⟩, ⟨"heat", .bool⟩,
  ⟨"label", .string⟩, ⟨"light", .bool⟩, ⟨"horn", .bool⟩, ⟨"lock", .bool⟩, ⟨"fan", .bool⟩]

end TableWire.Samples
