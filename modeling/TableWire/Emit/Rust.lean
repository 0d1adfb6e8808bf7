import TableWire.Emit.NameClaims
import TableWire.Emit.Transfer
import TableWire.Schema.Declaration

/-!
Generated Rust. Enums get explicit numbers and a checked conversion from their integer; tables
become structs with a codec, and all tables are registered by one function at the end. Everything
outside the schema is named by its full path, so no declared name can capture it.
-/
namespace TableWire.Emit.Rust
open Layout Schema

/-! ### Statements -/

/-- A statement of a serialize body, with the class that decides its form. -/
inductive Statement where
  | slot (storage : StorageClass) (offset : Nat) (field : String)
  | bools (offset : Nat) (fields : List String)
deriving DecidableEq, Repr

/-- The statements of a serialize body: each slot by the class of its name, then the bools. -/
def statements (plan : Plan) : List Statement :=
  (plan.slots.filterMap fun slot =>
    (plan.member? slot.name).map (Statement.slot · slot.offset slot.name)) ++
  plan.chunks.map fun chunk => .bools chunk.offset chunk.members

/-- The length terms behind the length of the header. -/
def lengthTerms (plan : Plan) : List LengthTerm :=
  plan.variableFields.filterMap fun tail =>
    (plan.member? tail.name).bind fun storage => storage.lengthRule?.map (⟨·, tail.name⟩)

/-- What a struct literal reads for one member. -/
inductive Initializer where
  /-- A bit of the chunk that was read first into a variable of the given number. -/
  | bit (chunk : Nat) (offset bit : Nat) (field : String)
  | slot (storage : StorageClass) (offset : Nat) (field : String)
deriving DecidableEq, Repr

/-- The initializer of a member, found by its name. -/
def initializer (plan : Plan) (member : Member) : Initializer :=
  match plan.bitOf? member.name with
  | some (offset, bit) =>
    .bit ((plan.chunks.findIdx? (·.offset == offset)).getD 0) offset bit member.name
  | none => .slot member.storage ((plan.slotOf? member.name).getD 0) member.name

def initializers (plan : Plan) : List Initializer := plan.members.map (initializer plan)

/-- What an initializer reads; none for a bool that has a slot. -/
def Initializer.read? : Initializer → Option Read
  | .bit _ offset index field => some (.bit offset index field)
  | .slot storage offset field => (Helper.ofStorage? storage).map (Read.slot · offset field)

/-! ### Spelling -/

def intType : IntKind → String
  | .byte => "u8"
  | .int16 => "i16"
  | .uint16 => "u16"
  | .int32 => "i32"
  | .uint32 => "u32"

/-- The type of a struct member. Nested tables are boxed so that a table may contain itself. -/
def memberType : StorageClass → String
  | .primitive kind => intType kind
  | .bool => "bool"
  | .string => "::std::string::String"
  | .any => "::core::option::Option<ks::AnyTable>"
  | .enum name _ _ => typeName name
  | .table name => s!"::core::option::Option<::std::boxed::Box<{typeName name}>>"
  | .tableArray name => s!"::std::vec::Vec<{typeName name}>"

def LengthTerm.text (term : LengthTerm) : String :=
  let field := fieldName term.field
  match term.rule with
  | .string => s!"ks::string_length(&self.{field})"
  | .any => s!"ks::any_length(self.{field}.as_ref())"
  | .sub => s!"ks::sub_length(self.{field}.as_deref())"
  | .subArray => s!"ks::sub_array_length(&self.{field})"

/-- The byte that holds some bools. -/
def packedBools (fields : List String) : String :=
  match fields with
  | [only] => s!"self.{fieldName only} as u8"
  | fields =>
    " | ".intercalate (fields.mapIdx fun bit field =>
      if bit = 0 then s!"(self.{fieldName field} as u8)"
      else s!"((self.{fieldName field} as u8) << {bit})")

def Statement.text? : Statement → Option String
  | .slot storage offset name =>
    let field := fieldName name
    match storage with
    | .primitive kind => some s!"ks::serialize_{intType kind}(dest, {offset}, self.{field});"
    | .enum _ repr _ =>
      some s!"ks::serialize_{intType repr}(dest, {offset}, self.{field} as {intType repr});"
    | .string => some s!"offset += ks::serialize_string(dest, {offset}, offset, &self.{field});"
    | .any => some s!"offset += ks::serialize_any(dest, {offset}, offset, self.{field}.as_ref());"
    | .table _ =>
      some s!"offset += ks::serialize_sub(dest, {offset}, offset, self.{field}.as_deref());"
    | .tableArray _ =>
      some s!"offset += ks::serialize_sub_array(dest, {offset}, offset, &self.{field});"
    | .bool => none
  | .bools offset fields => some s!"ks::serialize_u8(dest, {offset}, {packedBools fields});"

/-- The expression that reads a field of a class from its slot. -/
def readText? (storage : StorageClass) (offset : Nat) : Option String :=
  match storage with
  | .primitive kind => some s!"ks::deserialize_{intType kind}(src, {offset})?"
  | .enum name repr _ =>
    some (s!"<{typeName name} as ::core::convert::TryFrom<{intType repr}>>::try_from(" ++
      s!"ks::deserialize_{intType repr}(src, {offset})?)?")
  | .string => some s!"ks::deserialize_string(src, {offset})?"
  | .any => some s!"ks::deserialize_any(src, {offset}, registry)?"
  | .table name =>
    some (s!"ks::deserialize_sub::<{typeName name}>(src, {offset}, registry)?" ++
      ".map(::std::boxed::Box::new)")
  | .tableArray name =>
    some s!"ks::deserialize_sub_array::<{typeName name}>(src, {offset}, registry)?"
  | .bool => none

def Initializer.text? : Initializer → Option String
  | .bit chunk _ index name =>
    let test :=
      if index = 0 then s!"bools{chunk} & 1 != 0" else s!"(bools{chunk} >> {index}) & 1 != 0"
    some s!"{fieldName name}: {test},"
  | .slot storage offset name =>
    (readText? storage offset).map fun value => s!"{fieldName name}: {value},"

/-! ### Declarations -/

/-- The lines of an enum and of the conversion from its integer. -/
def enumLines (decl : EnumDecl) : List String :=
  let name := typeName decl.name
  let repr := intType decl.repr
  let derived := if decl.values.isEmpty then
      ["#[derive(Debug, Clone, Copy, PartialEq, Eq, Hash)]"]
    else
      ["#[derive(Debug, Clone, Copy, PartialEq, Eq, Hash, Default)]", s!"#[repr({repr})]"]
  let variants := decl.values.mapIdx fun i value =>
    (if i = 0 then ["    #[default]"] else []) ++ [s!"    {typeName value} = {i},"]
  let cases := decl.values.mapIdx fun i value =>
    s!"            {i} => Ok({name}::{typeName value}),"
  derived ++ [s!"pub enum {name} \x7b"] ++ variants.flatten ++
  ["\x7d",
   "",
   s!"impl ::core::convert::TryFrom<{repr}> for {name} \x7b",
   "    type Error = ks::DecodeError;",
   "",
   s!"    fn try_from(value: {repr}) -> ::core::result::Result<Self, ks::DecodeError> \x7b",
   "        match value \x7b"] ++ cases ++
  [s!"            _ => Err(ks::DecodeError::InvalidEnumValue \x7b name: {Json.quote decl.name}, " ++
     "value: value as i64 \x7d),",
   "        \x7d",
   "    \x7d",
   "\x7d"]

def structLines (plan : Plan) : List String :=
  ["#[derive(Debug, Clone, PartialEq, Default)]",
   s!"pub struct {typeName plan.table} \x7b"] ++
  plan.members.map (fun member => s!"    pub {fieldName member.name}: {memberType member.storage},") ++
  ["\x7d"]

def lengthLines (plan : Plan) : List String :=
  let terms := toString plan.baseLength :: (lengthTerms plan).map LengthTerm.text
  ["    fn serialize_length(&self) -> usize \x7b",
   "        " ++ " + ".intercalate terms,
   "    \x7d"]

def serializeLines? (plan : Plan) : Option (List String) := do
  let body ← (statements plan).mapM Statement.text?
  let dest := if plan.members.isEmpty then "_dest" else "dest"
  let start := if plan.hasVariableFields then [s!"        let mut offset = {plan.baseLength};"] else []
  let result := if plan.hasVariableFields then "offset" else toString plan.baseLength
  return [s!"    fn serialize(&self, {dest}: &mut [u8]) -> usize \x7b"] ++ start ++
    body.map ("        " ++ ·) ++ ["        " ++ result, "    \x7d"]

/-- Whether reading the members may need the registry. -/
def needsRegistry (plan : Plan) : Bool :=
  plan.members.any fun member =>
    match member.storage with
    | .any | .table _ | .tableArray _ => true
    | _ => false

def deserializeLines? (plan : Plan) : Option (List String) := do
  let body ← (initializers plan).mapM Initializer.text?
  let src := if plan.members.isEmpty then "_src" else "src"
  let registry := if needsRegistry plan then "registry" else "_registry"
  let chunks := plan.chunks.mapIdx fun i chunk =>
    s!"        let bools{i} = ks::deserialize_u8(src, {chunk.offset})?;"
  return [s!"    fn deserialize({src}: &[u8], {registry}: &ks::Registry) -> " ++
      "::core::result::Result<Self, ks::DecodeError> \x7b"] ++ chunks ++
    [s!"        Ok({typeName plan.table} \x7b"] ++ body.map ("            " ++ ·) ++
    ["        \x7d)", "    \x7d"]

/-- The lines of a struct and its codec. -/
def tableLines? (plan : Plan) : Option (List String) := do
  let serialize ← serializeLines? plan
  let deserialize ← deserializeLines? plan
  return structLines plan ++
    ["",
     s!"impl ks::Table for {typeName plan.table} \x7b",
     s!"    const TAG: ks::Tag = ks::Tag::new(*b{Json.quote plan.tag});",
     ""] ++ lengthLines plan ++ [""] ++ serialize ++ [""] ++ deserialize ++ ["\x7d"]

/-- The lines of the function that registers tables, given by their struct names. -/
def registerLines (tables : List String) : List String :=
  let param := if tables.isEmpty then "_registry" else "registry"
  ["/// Binds every table of this schema to its tag.",
   s!"pub fn register_tables({param}: &mut ks::Registry) \x7b"] ++
  tables.map (fun table => s!"    registry.register::<{table}>();") ++ ["\x7d"]

/-! ### Emitter -/

structure Emitter where
  runtimePath : String
  /-- Struct names of the tables emitted so far. -/
  tables : List String
  types : NameClaims

namespace Emitter

def new (runtimePath : String) : Emitter := ⟨runtimePath, [], .empty⟩

def prelude (emitter : Emitter) : String :=
  s!"// Code generated by kserial. DO NOT EDIT.\n\nuse {emitter.runtimePath} as ks;"

/-- Emits an enum. The claim on its name stays even when a value has no name to take. -/
def emitEnum (emitter : Emitter) (decl : EnumDecl) : Emitter × Except Diagnostic String :=
  let (types, claimed) := emitter.types.claim .schema decl.name (typeName decl.name)
  let later := { emitter with types }
  match claimed with
  | .error diagnostic => (later, .error diagnostic)
  | .ok () =>
    match NameClaims.empty.claimAll (.enum decl.name) typeName decl.values with
    | .error diagnostic => (later, .error diagnostic)
    | .ok () => (later, .ok ("\n".intercalate (enumLines decl)))

/-- Emits a table. The claim on its name stays even when a field has no name to take. -/
def emitTable (emitter : Emitter) (plan : Plan) : Emitter × Except Diagnostic String :=
  let (types, claimed) := emitter.types.claim .schema plan.table (typeName plan.table)
  let later := { emitter with types }
  match claimed with
  | .error diagnostic => (later, .error diagnostic)
  | .ok () =>
    match NameClaims.empty.claimAll (.table plan.table) fieldName (plan.members.map (·.name)) with
    | .error diagnostic => (later, .error diagnostic)
    | .ok () =>
      let later := { later with tables := later.tables ++ [typeName plan.table] }
      match tableLines? plan with
      | some lines => (later, .ok ("\n".intercalate lines))
      | none => (later, .error .internal)

def finish (emitter : Emitter) : String := "\n".intercalate (registerLines emitter.tables)

end Emitter
end TableWire.Emit.Rust
