import TableWire.Emit.Transfer
import TableWire.Schema.Declaration

/-!
Generated TypeScript. Names are taken as declared. Enums become enums, tables become classes with a
codec, and each class registers itself.
-/
namespace TableWire.Emit.TypeScript
open Layout Schema

/-! ### Statements -/

/-- The helper that writes a field; anything without one of its own is written as a record. -/
def writeHelper : Option StorageClass → Helper
  | some (.primitive kind) | some (.enum _ kind _) => .int kind
  | some .string => .string
  | some .any => .any
  | some (.tableArray _) => .subArray
  | _ => .sub

/-- The statements of a serialize body: each slot by the class of its name, then the bools. -/
def writes (plan : Plan) : List Write :=
  (plan.slots.map fun slot =>
    Write.slot (writeHelper (plan.member? slot.name)) slot.offset slot.name) ++
  plan.chunks.map fun chunk => .bools chunk.offset chunk.members

/-- How the tail of a field is measured; anything without a rule of its own as a record. -/
def lengthRule : Option StorageClass → LengthRule
  | some .string => .string
  | some .any => .any
  | some (.tableArray _) => .subArray
  | _ => .sub

/-- The length terms behind the length of the header. -/
def lengthTerms (plan : Plan) : List LengthTerm :=
  plan.variableFields.map fun tail => ⟨lengthRule (plan.member? tail.name), tail.name⟩

/-- An entry of the object that a record is built from. -/
inductive Entry where
  | slot (storage : StorageClass) (offset : Nat) (field : String)
  /-- The only bool of its chunk. -/
  | single (offset : Nat) (field : String)
  /-- A bit of the chunk that was read first into a variable of the given number. -/
  | bit (chunk : Nat) (offset bit : Nat) (field : String)
deriving DecidableEq, Repr

/-- The entries for one chunk. -/
def chunkEntries (index : Nat) (chunk : BoolChunk) : List Entry :=
  match chunk.members with
  | [only] => [.single chunk.offset only]
  | members => members.mapIdx fun bit field => .bit index chunk.offset bit field

/-- The entries of a deserialize body: the slots by the class of their names, then the bools. -/
def readEntries (plan : Plan) : List Entry :=
  (plan.slots.filterMap fun slot =>
    match plan.member? slot.name with
    | none | some .bool => none
    | some storage => some (Entry.slot storage slot.offset slot.name)) ++
  (plan.chunks.mapIdx chunkEntries).flatten

/-- What an entry reads; none for a bool that has a slot. -/
def Entry.read? : Entry → Option Read
  | .slot storage offset field => (Helper.ofStorage? storage).map (Read.slot · offset field)
  | .single offset field => some (.bit offset 0 field)
  | .bit _ offset index field => some (.bit offset index field)

/-! ### Spelling -/

def kindSuffix : IntKind → String
  | .byte => "Byte"
  | .int16 => "Int16"
  | .uint16 => "Uint16"
  | .int32 => "Int32"
  | .uint32 => "Uint32"

def memberType : StorageClass → String
  | .primitive _ => "number"
  | .bool => "boolean"
  | .string => "string"
  | .any => "KSerializableAny|null"
  | .enum name _ _ => name
  | .table name => s!"{name}|null"
  | .tableArray name => s!"{name}[]"

def defaultText (storage : StorageClass) : String :=
  match storage with
  | .primitive _ => "0"
  | .bool => "false"
  | .string => "''"
  | .any | .table _ => "null"
  | .enum name _ first => s!"{name}.{first}"
  | .tableArray _ => "[]"

def lengthHelper : LengthRule → String
  | .string => "stringLength"
  | .any => "anyLength"
  | .sub => "subLength"
  | .subArray => "subArrayLength"

def writeText : Write → String
  | .slot helper offset field =>
    match helper with
    | .int kind => s!"serialize{kindSuffix kind}(dest, {offset}, this.{field});"
    | .string => s!"offset += serializeString(dest, {offset}, offset, this.{field});"
    | .any => s!"offset += serializeAny(dest, {offset}, offset, this.{field});"
    | .sub => s!"offset += serializeSub(dest, {offset}, offset, this.{field});"
    | .subArray => s!"offset += serializeSubArray(dest, {offset}, offset, this.{field});"
  | .bools offset fields =>
    let bits := fields.mapIdx fun bit field =>
      if bit = 0 then s!"((this.{field}?1:0))" else s!"((this.{field}?1:0)<<{bit})"
    let packed := "+".intercalate bits
    s!"serializeByte(dest, {offset}, {packed});"

/-- The expression that reads a field of a class from its slot. -/
def readText (storage : StorageClass) (offset : Nat) : String :=
  match storage with
  | .primitive kind => s!"deserialize{kindSuffix kind}(src, {offset})"
  | .enum name repr _ => s!"deserialize{kindSuffix repr}(src, {offset}) as {name}"
  | .string => s!"deserializeString(src, {offset})"
  | .any => s!"deserializeAny(src, {offset})"
  | .table name => s!"deserializeSub({name}.deserialize, src, {offset}) as {name}|null"
  | .tableArray name => s!"deserializeSubArray({name}.deserialize, src, {offset}) as {name}[]"
  | .bool => ""

def Entry.text : Entry → String
  | .slot storage offset field => s!"{field}: {readText storage offset}"
  | .single offset field => s!"{field}: !!(deserializeByte(src, {offset})&1)"
  | .bit chunk _ index field => s!"{field}: !!((bools{chunk}>>{index})&1)"

/-! ### Declarations -/

def enumLines (decl : EnumDecl) : List String :=
  [s!"export enum {decl.name} \x7b"] ++ decl.values.map (fun value => s!"  {value},") ++ ["\x7d"]

def constructorLines (plan : Plan) : List String :=
  if plan.members.isEmpty then []
  else
    let defaults := plan.members.map fun member => s!"{member.name}={defaultText member.storage}"
    let typed := plan.members.map fun member => s!"{member.name}?:{memberType member.storage}"
    let assigned := plan.members.map fun member => s!"this.{member.name}={member.name};"
    ["  constructor(\x7b" ++ ",".intercalate defaults ++ "\x7d:\x7b" ++ ",".intercalate typed ++
      "\x7d=\x7b\x7d) \x7b" ++ " ".intercalate assigned ++ "\x7d"]

def serializeLines (plan : Plan) : List String :=
  let start := if plan.hasVariableFields then [s!"    let offset = {plan.baseLength};"] else []
  let result := if plan.hasVariableFields then "offset" else toString plan.baseLength
  ["  serialize(dest: Uint8Array): number \x7b"] ++ start ++
  (writes plan).map ("    " ++ writeText ·) ++ [s!"    return {result};", "  \x7d"]

/-- A chunk of several bools is read once, before the object is built. -/
def chunkVariable? (index : Nat) (chunk : BoolChunk) : Option String :=
  match chunk.members with
  | [_] => none
  | _ => some s!"    const bools{index} = deserializeByte(src, {chunk.offset});"

def deserializeLines (plan : Plan) : List String :=
  let entries := readEntries plan
  let result := if entries.isEmpty then [s!"    return new {plan.table}();"]
    else [s!"    return new {plan.table}(\x7b"] ++
      entries.map (fun entry => s!"      {entry.text},") ++ ["    \x7d);"]
  [s!"  static deserialize(src: Uint8Array): {plan.table} \x7b"] ++
  (plan.chunks.mapIdx chunkVariable?).filterMap id ++ result ++ ["  \x7d"]

/-- The lines of a class and its registration. -/
def tableLines (plan : Plan) : List String :=
  let terms := toString plan.baseLength ::
    (lengthTerms plan).map fun term => s!"{lengthHelper term.rule}(this.{term.field})"
  [s!"export class {plan.table} \x7b",
   s!"  static readonly id:string = '{plan.tag}';"] ++
  plan.members.map (fun member => s!"  {member.name}: {memberType member.storage};") ++
  constructorLines plan ++
  ["  get serializeLength(): number \x7b return " ++ "+".intercalate terms ++ "; \x7d"] ++
  serializeLines plan ++ deserializeLines plan ++
  ["\x7d", s!"register('{plan.tag}', {plan.table}.deserialize);"]

/-! ### Emitter -/

structure Emitter where
  runtimeModule : String

namespace Emitter

/-- The literal that names a module: a JSON literal with each double quote made a single one. -/
def moduleLiteral (path : String) : String :=
  String.ofList ((Json.quotedChars path.toList).map fun c => if c = '"' then '\'' else c)

def prelude (emitter : Emitter) : String :=
  "import \x7bKSerializableAny,KSerializable,register,\n" ++
  "subLength,anyLength,subArrayLength,stringLength,\n" ++
  "serializeSub,serializeSubArray,serializeInt32,serializeInt16,serializeUint32," ++
  "serializeUint16,serializeByte,serializeString,serializeAny,\n" ++
  "deserializeSub,deserializeSubArray,deserializeInt32,deserializeInt16,deserializeUint32," ++
  "deserializeUint16,deserializeByte,deserializeString,deserializeAny\n" ++
  "\x7d from " ++ moduleLiteral emitter.runtimeModule ++ ";"

def emitEnum (decl : EnumDecl) : String := "\n".intercalate (enumLines decl)

def emitTable (plan : Plan) : String := "\n".intercalate (tableLines plan)

end Emitter
end TableWire.Emit.TypeScript
