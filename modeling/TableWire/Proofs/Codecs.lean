import Mathlib
import TableWire.Proofs.Steps

/-!
The codecs that are generated for one plan in both languages. What a codec does is a list of writes, a list of length
terms and a list of reads (`Transfers`), and each language has its way to say them (`Rust.Performs`, `Rust.Reads`,
`TypeScript.Performs`, `TypeScript.Reads`). For members with different names both languages say the same writes and
terms in the same order, and both read every member back from where it was written.
-/
namespace TableWire
open Schema Layout Emit

/-! ### Related lists -/

theorem forall₂_filterMap {α β : Type} {f : α → Option β} {related : α → β → Prop} {list : List α}
    (each : ∀ a ∈ list, ∃ b, f a = some b ∧ related a b) : List.Forall₂ related list (list.filterMap f) := by
  induction list with
  | nil => exact .nil
  | cons first list ih =>
    obtain ⟨b, found, holds⟩ := each first (by simp)
    rw [List.filterMap_cons_some found]
    exact .cons holds (ih fun a member => each a (by simp [member]))

theorem mapM_forall₂ {α β γ : Type} {f : α → Option β} {related : γ → β → Prop} {targets : List γ} {list : List α}
    (each : List.Forall₂ (fun target a => ∃ b, f a = some b ∧ related target b) targets list) :
    ∃ results, list.mapM f = some results ∧ List.Forall₂ related targets results := by
  induction each with
  | nil => exact ⟨[], rfl, .nil⟩
  | cons head _ ih =>
    obtain ⟨b, found, holds⟩ := head
    obtain ⟨more, rest, all⟩ := ih
    exact ⟨b :: more, by simp [found, rest], .cons holds all⟩

theorem forall₂_mapIdx {α β : Type} {f : Nat → α → β} {related : α × Nat → β → Prop}
    (each : ∀ a i, related (a, i) (f i a)) (list : List α) : List.Forall₂ related list.zipIdx (list.mapIdx f) := by
  rw [List.mapIdx_eq_zipIdx_map, List.forall₂_map_right_iff, List.forall₂_same]
  exact fun indexed _ => each indexed.1 indexed.2

theorem filterMap_flatten_mapIdx {α β γ : Type} {f : Nat → α → List β} {g : β → Option γ} {h : α → List γ}
    (each : ∀ i a, (f i a).filterMap g = h a) (list : List α) :
    (list.mapIdx f).flatten.filterMap g = list.flatMap h := by
  induction list generalizing f with
  | nil => rfl
  | cons first list ih =>
    rw [List.mapIdx_cons, List.flatten_cons, List.filterMap_append, List.flatMap_cons, each]
    rw [ih fun i a => each (i + 1) a]

namespace Emit

/-! ### What a codec does -/

/-- What is read of what a statement has written. -/
def Write.reads : Write → List Read
  | .slot helper offset field => [.slot helper offset field]
  | .bools offset fields => fields.mapIdx fun bit field => .bit offset bit field

def Read.field : Read → String
  | .slot _ _ field | .bit _ _ field => field

/-- A write of a slot by the helper for the class of its member. -/
def WritesSlot (members : List Member) (slot : Slot) (write : Write) : Prop :=
  ∃ member ∈ members, ∃ helper, member.name = slot.name ∧ Helper.ofStorage? member.storage = some helper ∧
    write = .slot helper slot.offset slot.name

/-- A length term by the rule for the class of its member. -/
def MeasuresTail (members : List Member) (tail : VariableField) (term : LengthTerm) : Prop :=
  ∃ member ∈ members, member.name = tail.name ∧ member.storage.lengthRule? = some term.rule ∧ term.field = tail.name

/-- What a codec for a plan does: it writes the slots in order and then the bytes of bools, adds up the tails in order,
and reads back every member from where it was written. -/
structure Transfers (plan : Plan) (writes : List Write) (terms : List LengthTerm) (reads : List Read) : Prop where
  written : ∃ slots, List.Forall₂ (WritesSlot plan.members) plan.slots slots ∧
    writes = slots ++ plan.chunks.map fun chunk => .bools chunk.offset chunk.members
  measured : List.Forall₂ (MeasuresTail plan.members) plan.variableFields terms
  readBack : reads.Perm (writes.flatMap Write.reads)
  once : (reads.map Read.field).Perm (plan.members.map (·.name))

/-- Variables for bytes, by number and offset, each of which stands for one byte. -/
def OneByteEach (bytes : List (Nat × Nat)) : Prop :=
  ∀ number first second, (number, first) ∈ bytes → (number, second) ∈ bytes → first = second

/-! ### How Rust says it -/

namespace Rust

inductive IntName : IntKind → String → Prop
  | byte : IntName .byte "u8"
  | int16 : IntName .int16 "i16"
  | uint16 : IntName .uint16 "u16"
  | int32 : IntName .int32 "i32"
  | uint32 : IntName .uint32 "u32"

/-- The value of a bool as a bit of a byte. -/
inductive BitValue (field : String) : Nat → String → Prop
  | alone : BitValue field 0 s!"self.{fieldName field} as u8"
  | first : BitValue field 0 s!"(self.{fieldName field} as u8)"
  | shifted {bit : Nat} : BitValue field bit s!"((self.{fieldName field} as u8) << {bit})"

inductive Performs : Write → String → Prop
  | primitive {kind : IntKind} {int : String} {offset : Nat} {field : String} (named : IntName kind int) :
      Performs (.slot (.int kind) offset field) s!"ks::serialize_{int}(dest, {offset}, self.{fieldName field});"
  | enum {kind : IntKind} {int : String} {offset : Nat} {field : String} (named : IntName kind int) :
      Performs (.slot (.int kind) offset field)
        s!"ks::serialize_{int}(dest, {offset}, self.{fieldName field} as {int});"
  | string {offset : Nat} {field : String} : Performs (.slot .string offset field)
      s!"offset += ks::serialize_string(dest, {offset}, offset, &self.{fieldName field});"
  | any {offset : Nat} {field : String} : Performs (.slot .any offset field)
      s!"offset += ks::serialize_any(dest, {offset}, offset, self.{fieldName field}.as_ref());"
  | sub {offset : Nat} {field : String} : Performs (.slot .sub offset field)
      s!"offset += ks::serialize_sub(dest, {offset}, offset, self.{fieldName field}.as_deref());"
  | subArray {offset : Nat} {field : String} : Performs (.slot .subArray offset field)
      s!"offset += ks::serialize_sub_array(dest, {offset}, offset, &self.{fieldName field});"
  | bools {offset : Nat} {fields bits : List String} {byte : String} (sum : byte = " | ".intercalate bits)
      (each : List.Forall₂ (fun flag bit => BitValue flag.1 flag.2 bit) fields.zipIdx bits) :
      Performs (.bools offset fields) s!"ks::serialize_u8(dest, {offset}, {byte});"

inductive Measures : LengthTerm → String → Prop
  | string {field : String} : Measures ⟨.string, field⟩ s!"ks::string_length(&self.{fieldName field})"
  | any {field : String} : Measures ⟨.any, field⟩ s!"ks::any_length(self.{fieldName field}.as_ref())"
  | sub {field : String} : Measures ⟨.sub, field⟩ s!"ks::sub_length(self.{fieldName field}.as_deref())"
  | subArray {field : String} : Measures ⟨.subArray, field⟩ s!"ks::sub_array_length(&self.{fieldName field})"

/-- The value that a helper reads from a slot. -/
inductive SlotValue : Helper → Nat → String → Prop
  | primitive {kind : IntKind} {int : String} {offset : Nat} (named : IntName kind int) :
      SlotValue (.int kind) offset s!"ks::deserialize_{int}(src, {offset})?"
  | enum {kind : IntKind} {int type : String} {offset : Nat} (named : IntName kind int) :
      SlotValue (.int kind) offset (s!"<{type} as ::core::convert::TryFrom<{int}>>::try_from(" ++
        s!"ks::deserialize_{int}(src, {offset})?)?")
  | string {offset : Nat} : SlotValue .string offset s!"ks::deserialize_string(src, {offset})?"
  | any {offset : Nat} : SlotValue .any offset s!"ks::deserialize_any(src, {offset}, registry)?"
  | sub {type : String} {offset : Nat} : SlotValue .sub offset
      (s!"ks::deserialize_sub::<{type}>(src, {offset}, registry)?" ++ ".map(::std::boxed::Box::new)")
  | subArray {type : String} {offset : Nat} : SlotValue .subArray offset
      s!"ks::deserialize_sub_array::<{type}>(src, {offset}, registry)?"

/-- The value of a bit of a byte in a variable. -/
inductive BitTest (number : Nat) : Nat → String → Prop
  | first : BitTest number 0 s!"bools{number} & 1 != 0"
  | shifted {bit : Nat} : BitTest number bit s!"(bools{number} >> {bit}) & 1 != 0"

inductive Reads (bytes : List (Nat × Nat)) : Read → String → Prop
  | slot {helper : Helper} {offset : Nat} {field value : String} (reads : SlotValue helper offset value) :
      Reads bytes (.slot helper offset field) s!"{fieldName field}: {value},"
  | bit {number offset bit : Nat} {field value : String} (byte : (number, offset) ∈ bytes)
      (tests : BitTest number bit value) : Reads bytes (.bit offset bit field) s!"{fieldName field}: {value},"

/-- The code for a plan does what the lists say and nothing else. -/
structure Codec (plan : Plan) (writes : List Write) (terms : List LengthTerm) (reads : List Read) : Prop where
  length : ∃ texts, List.Forall₂ Measures terms texts ∧
    lengthLines plan = ["    fn serialize_length(&self) -> usize \x7b",
      "        " ++ " + ".intercalate (toString plan.baseLength :: texts), "    \x7d"]
  serialize : ∃ texts, List.Forall₂ Performs writes texts ∧
    serializeLines? plan = some (
      ["    fn serialize(&self, " ++ (if plan.members.isEmpty then "_dest" else "dest") ++
        ": &mut [u8]) -> usize \x7b"] ++
      (if plan.hasVariableFields then [s!"        let mut offset = {plan.baseLength};"] else []) ++
      texts.map ("        " ++ ·) ++
      ["        " ++ (if plan.hasVariableFields then "offset" else toString plan.baseLength), "    \x7d"])
  deserialize : ∃ bytes texts, OneByteEach bytes ∧ List.Forall₂ (Reads bytes) reads texts ∧
    deserializeLines? plan = some (
      ["    fn deserialize(" ++ (if plan.members.isEmpty then "_src" else "src") ++ ": &[u8], " ++
        (if needsRegistry plan then "registry" else "_registry") ++ ": &ks::Registry) -> " ++
        "::core::result::Result<Self, ks::DecodeError> \x7b"] ++
      bytes.map (fun byte => s!"        let bools{byte.1} = ks::deserialize_u8(src, {byte.2})?;") ++
      [s!"        Ok({typeName plan.table} \x7b"] ++ texts.map ("            " ++ ·) ++ ["        \x7d)", "    \x7d"])
  code : ∃ before serialize deserialize, serializeLines? plan = some serialize ∧
    deserializeLines? plan = some deserialize ∧
    tableLines? plan = some (before ++ lengthLines plan ++ [""] ++ serialize ++ [""] ++ deserialize ++ ["\x7d"])
  /-- An emitter writes these lines for every plan whose names can be taken. -/
  emitted : ∀ lines, tableLines? plan = some lines → ∀ (emitter : Emitter) (chunk : String),
    ((Emit.Emitter.rust emitter).emitTable plan).2 = .ok chunk ↔
      Nameable emitter.types.taken (typeName plan.table) (plan.members.map (fieldName ·.name)) ∧
        chunk = "\n".intercalate lines

end Rust

/-! ### How TypeScript says it -/

namespace TypeScript

inductive IntName : IntKind → String → Prop
  | byte : IntName .byte "Byte"
  | int16 : IntName .int16 "Int16"
  | uint16 : IntName .uint16 "Uint16"
  | int32 : IntName .int32 "Int32"
  | uint32 : IntName .uint32 "Uint32"

/-- The value of a bool as a bit of a byte. -/
inductive BitValue (field : String) : Nat → String → Prop
  | first : BitValue field 0 s!"((this.{field}?1:0))"
  | shifted {bit : Nat} : BitValue field bit s!"((this.{field}?1:0)<<{bit})"

inductive Performs : Write → String → Prop
  | int {kind : IntKind} {int : String} {offset : Nat} {field : String} (named : IntName kind int) :
      Performs (.slot (.int kind) offset field) s!"serialize{int}(dest, {offset}, this.{field});"
  | string {offset : Nat} {field : String} : Performs (.slot .string offset field)
      s!"offset += serializeString(dest, {offset}, offset, this.{field});"
  | any {offset : Nat} {field : String} : Performs (.slot .any offset field)
      s!"offset += serializeAny(dest, {offset}, offset, this.{field});"
  | sub {offset : Nat} {field : String} : Performs (.slot .sub offset field)
      s!"offset += serializeSub(dest, {offset}, offset, this.{field});"
  | subArray {offset : Nat} {field : String} : Performs (.slot .subArray offset field)
      s!"offset += serializeSubArray(dest, {offset}, offset, this.{field});"
  | bools {offset : Nat} {fields bits : List String} {byte : String} (sum : byte = "+".intercalate bits)
      (each : List.Forall₂ (fun flag bit => BitValue flag.1 flag.2 bit) fields.zipIdx bits) :
      Performs (.bools offset fields) s!"serializeByte(dest, {offset}, {byte});"

inductive LengthName : LengthRule → String → Prop
  | string : LengthName .string "stringLength"
  | any : LengthName .any "anyLength"
  | sub : LengthName .sub "subLength"
  | subArray : LengthName .subArray "subArrayLength"

inductive Measures : LengthTerm → String → Prop
  | term {rule : LengthRule} {name field : String} (named : LengthName rule name) :
      Measures ⟨rule, field⟩ s!"{name}(this.{field})"

/-- The value that a helper reads from a slot. -/
inductive SlotValue : Helper → Nat → String → Prop
  | primitive {kind : IntKind} {int : String} {offset : Nat} (named : IntName kind int) :
      SlotValue (.int kind) offset s!"deserialize{int}(src, {offset})"
  | enum {kind : IntKind} {int type : String} {offset : Nat} (named : IntName kind int) :
      SlotValue (.int kind) offset s!"deserialize{int}(src, {offset}) as {type}"
  | string {offset : Nat} : SlotValue .string offset s!"deserializeString(src, {offset})"
  | any {offset : Nat} : SlotValue .any offset s!"deserializeAny(src, {offset})"
  | sub {type : String} {offset : Nat} :
      SlotValue .sub offset s!"deserializeSub({type}.deserialize, src, {offset}) as {type}|null"
  | subArray {type : String} {offset : Nat} :
      SlotValue .subArray offset s!"deserializeSubArray({type}.deserialize, src, {offset}) as {type}[]"

inductive Reads (bytes : List (Nat × Nat)) : Read → String → Prop
  | slot {helper : Helper} {offset : Nat} {field value : String} (reads : SlotValue helper offset value) :
      Reads bytes (.slot helper offset field) s!"{field}: {value}"
  | single {offset : Nat} {field : String} :
      Reads bytes (.bit offset 0 field) s!"{field}: !!(deserializeByte(src, {offset})&1)"
  | bit {number offset bit : Nat} {field : String} (byte : (number, offset) ∈ bytes) :
      Reads bytes (.bit offset bit field) s!"{field}: !!((bools{number}>>{bit})&1)"

/-- The code for a plan does what the lists say and nothing else. -/
structure Codec (plan : Plan) (writes : List Write) (terms : List LengthTerm) (reads : List Read) : Prop where
  length : ∃ before after texts, List.Forall₂ Measures terms texts ∧
    tableLines plan = before ++ ["  get serializeLength(): number \x7b return " ++
      "+".intercalate (toString plan.baseLength :: texts) ++ "; \x7d"] ++
      serializeLines plan ++ deserializeLines plan ++ after
  serialize : ∃ texts, List.Forall₂ Performs writes texts ∧
    serializeLines plan = ["  serialize(dest: Uint8Array): number \x7b"] ++
      (if plan.hasVariableFields then [s!"    let offset = {plan.baseLength};"] else []) ++
      texts.map ("    " ++ ·) ++
      ["    return " ++ (if plan.hasVariableFields then "offset" else toString plan.baseLength) ++ ";", "  \x7d"]
  deserialize : ∃ bytes texts, OneByteEach bytes ∧ List.Forall₂ (Reads bytes) reads texts ∧
    deserializeLines plan = [s!"  static deserialize(src: Uint8Array): {plan.table} \x7b"] ++
      bytes.map (fun byte => s!"    const bools{byte.1} = deserializeByte(src, {byte.2});") ++
      (if texts.isEmpty then [s!"    return new {plan.table}();"]
        else [s!"    return new {plan.table}(\x7b"] ++ texts.map (fun text => s!"      {text},") ++ ["    \x7d);"]) ++
      ["  \x7d"]
  emitted : ∀ emitter : Emitter,
    ((Emit.Emitter.typeScript emitter).emitTable plan).2 = .ok ("\n".intercalate (tableLines plan))

end TypeScript

/-! ### Writes -/

theorem Helper.exists_ofStorage? {storage : StorageClass} (slot : storage ≠ .bool) :
    ∃ helper, Helper.ofStorage? storage = some helper := by
  cases storage with
  | bool => exact absurd rfl slot
  | _ => exact ⟨_, rfl⟩

theorem TypeScript.writeHelper_eq {storage : StorageClass} {helper : Helper}
    (own : Helper.ofStorage? storage = some helper) : writeHelper (some storage) = helper := by
  cases storage with
  | bool => exact nomatch own
  | _ => exact Option.some.inj own

theorem Rust.intName (kind : IntKind) : IntName kind (intType kind) := by
  cases kind <;> constructor

theorem TypeScript.intName (kind : IntKind) : IntName kind (kindSuffix kind) := by
  cases kind <;> constructor

theorem Rust.performs_slot {storage : StorageClass} {helper : Helper}
    (own : Helper.ofStorage? storage = some helper) (offset : Nat) (field : String) :
    ∃ text, (Statement.slot storage offset field).text? = some text ∧ Performs (.slot helper offset field) text := by
  cases storage with
  | bool => exact nomatch own
  | primitive kind => cases own; exact ⟨_, rfl, .primitive (intName kind)⟩
  | enum name repr first => cases own; exact ⟨_, rfl, .enum (intName repr)⟩
  | string => cases own; exact ⟨_, rfl, .string⟩
  | any => cases own; exact ⟨_, rfl, .any⟩
  | table name => cases own; exact ⟨_, rfl, .sub⟩
  | tableArray name => cases own; exact ⟨_, rfl, .subArray⟩

theorem Rust.packedBools_bits (fields : List String) :
    ∃ bits, packedBools fields = " | ".intercalate bits ∧
      List.Forall₂ (fun flag bit => BitValue flag.1 flag.2 bit) fields.zipIdx bits := by
  unfold packedBools
  split
  · exact ⟨_, (String.intercalate_singleton).symm, .cons .alone .nil⟩
  · refine ⟨_, rfl, forall₂_mapIdx (fun field bit => ?_) _⟩
    split
    · next isFirst => exact isFirst ▸ .first
    · exact .shifted

theorem Rust.performs_bools (offset : Nat) (fields : List String) :
    ∃ text, (Statement.bools offset fields).text? = some text ∧ Performs (.bools offset fields) text := by
  obtain ⟨bits, sum, each⟩ := packedBools_bits fields
  exact ⟨_, rfl, .bools sum each⟩

theorem TypeScript.performs (write : Write) : Performs write (writeText write) := by
  cases write with
  | slot helper offset field =>
    cases helper with
    | int kind => exact .int (intName kind)
    | string => exact .string
    | any => exact .any
    | sub => exact .sub
    | subArray => exact .subArray
  | bools offset fields =>
    refine .bools rfl (forall₂_mapIdx (fun field bit => ?_) _)
    split
    · next isFirst => exact isFirst ▸ .first
    · exact .shifted

theorem exists_member {plan : Plan} {name : String} {storage : StorageClass}
    (found : plan.member? name = some storage) :
    ∃ member ∈ plan.members, member.name = name ∧ member.storage = storage := by
  obtain ⟨member, first, rfl⟩ := Option.map_eq_some_iff.mp found
  exact ⟨member, List.mem_of_find?_eq_some first, by simpa using List.find?_some first, rfl⟩

section
variable {plan : Plan} (computed : plan.Computed) (distinct : (plan.members.map (·.name)).Nodup)
include computed distinct

theorem slot_helper {slot : Slot} (listed : slot ∈ plan.slots) :
    ∃ storage helper, plan.member? slot.name = some storage ∧ Helper.ofStorage? storage = some helper := by
  obtain ⟨storage, found, noBool⟩ := computed.slot_class distinct slot listed
  obtain ⟨helper, own⟩ := Helper.exists_ofStorage? noBool
  exact ⟨storage, helper, found, own⟩

theorem writes_transfer :
    ∃ slots, List.Forall₂ (WritesSlot plan.members) plan.slots slots ∧
      TypeScript.writes plan = slots ++ plan.chunks.map fun chunk => .bools chunk.offset chunk.members := by
  refine ⟨_, List.forall₂_map_right_iff.mpr (List.forall₂_same.mpr fun slot listed => ?_), rfl⟩
  obtain ⟨storage, helper, found, own⟩ := slot_helper computed distinct listed
  obtain ⟨member, isMember, named, rfl⟩ := exists_member found
  exact ⟨member, isMember, helper, named, own, by rw [found, TypeScript.writeHelper_eq own]⟩

theorem statements_perform :
    ∃ texts, (Rust.statements plan).mapM Rust.Statement.text? = some texts ∧
      List.Forall₂ Rust.Performs (TypeScript.writes plan) texts := by
  refine mapM_forall₂ (List.rel_append ?_ ?_)
  · rw [List.forall₂_map_left_iff]
    refine forall₂_filterMap fun slot listed => ?_
    obtain ⟨storage, helper, found, own⟩ := slot_helper computed distinct listed
    rw [found, TypeScript.writeHelper_eq own]
    exact ⟨_, rfl, Rust.performs_slot own _ _⟩
  · rw [List.forall₂_map_left_iff, List.forall₂_map_right_iff, List.forall₂_same]
    exact fun chunk _ => Rust.performs_bools _ _

end

/-! ### Lengths -/

theorem TypeScript.lengthRule_eq {storage : StorageClass} {rule : LengthRule}
    (own : storage.lengthRule? = some rule) : lengthRule (some storage) = rule := by
  cases storage with
  | primitive | bool | enum => exact nomatch own
  | _ => exact Option.some.inj own

theorem Rust.measures (term : LengthTerm) : Measures term (LengthTerm.text term) := by
  obtain ⟨rule, field⟩ := term
  cases rule <;> constructor

theorem TypeScript.lengthName (rule : LengthRule) : LengthName rule (lengthHelper rule) := by
  cases rule <;> constructor

section
variable {plan : Plan} (computed : plan.Computed) (distinct : (plan.members.map (·.name)).Nodup)
include computed distinct

theorem tail_rule {tail : VariableField} (listed : tail ∈ plan.variableFields) :
    ∃ member ∈ plan.members, member.name = tail.name ∧ plan.member? tail.name = some member.storage ∧
      member.storage.lengthRule? = some tail.length := by
  rw [computed.variableFields_eq] at listed
  obtain ⟨member, isMember, named, rule⟩ := member_of_variableFrom listed
  exact ⟨member, isMember, named, named ▸ (computed.locates distinct).classes member isMember, rule⟩

theorem terms_measure : List.Forall₂ (MeasuresTail plan.members) plan.variableFields (TypeScript.lengthTerms plan) := by
  refine List.forall₂_map_right_iff.mpr (List.forall₂_same.mpr fun tail listed => ?_)
  obtain ⟨member, isMember, named, found, rule⟩ := tail_rule computed distinct listed
  refine ⟨member, isMember, named, ?_, rfl⟩
  rw [found, TypeScript.lengthRule_eq rule, rule]

/-- Both languages add up the same terms. -/
theorem lengthTerms_eq : Rust.lengthTerms plan = TypeScript.lengthTerms plan := by
  rw [Rust.lengthTerms, TypeScript.lengthTerms, ← List.filterMap_eq_map]
  refine List.filterMap_congr fun tail listed => ?_
  obtain ⟨member, -, -, found, rule⟩ := tail_rule computed distinct listed
  simp [found, rule, TypeScript.lengthRule_eq rule]

end

/-! ### Reads -/

/-- The byte that a bool is in. -/
theorem flag_chunk {plan : Plan} (computed : plan.Computed) {j : Nat} {flag : Member}
    (place : (flags plan.members)[j]? = some flag) :
    ∃ chunk, plan.chunks[j / 8]? = some chunk ∧ chunk.offset = plan.baseLength - j / 8 - 1 := by
  obtain ⟨inside, -⟩ := List.getElem?_eq_some_iff.mp place
  have listed : j / 8 < plan.chunks.length := by
    rw [computed.divides.chunks]
    omega
  have found := List.getElem?_eq_getElem listed
  exact ⟨_, found, (computed.divides.chunk _ _ found).2.1⟩

section
variable {plan : Plan} (computed : plan.Computed) (distinct : (plan.members.map (·.name)).Nodup)
include computed distinct

theorem slot_initializer {i : Nat} {member : Member} (place : (slotted plan.members)[i]? = some member) :
    Rust.initializer plan member =
      .slot member.storage (slotWidths ((slotted plan.members).take i)) member.name := by
  obtain ⟨slot, bit⟩ := computed.slot_found distinct place
  rw [Rust.initializer, bit, slot]
  rfl

theorem bit_initializer {j : Nat} {flag : Member} (place : (flags plan.members)[j]? = some flag) :
    Rust.initializer plan flag = .bit (j / 8) (plan.baseLength - j / 8 - 1) (j % 8) flag.name := by
  obtain ⟨chunk, found, offset⟩ := flag_chunk computed place
  have number := computed.divides.findIdx?_offset found
  rw [offset] at number
  simp only [Rust.initializer, (computed.bit_found distinct place).1, number, Option.getD_some]

end

theorem Rust.slotValue {storage : StorageClass} {helper : Helper} (own : Helper.ofStorage? storage = some helper)
    (offset : Nat) : ∃ value, readText? storage offset = some value ∧ SlotValue helper offset value := by
  cases storage with
  | bool => exact nomatch own
  | primitive kind => cases own; exact ⟨_, rfl, .primitive (intName kind)⟩
  | enum name repr first => cases own; exact ⟨_, rfl, .enum (intName repr)⟩
  | string => cases own; exact ⟨_, rfl, .string⟩
  | any => cases own; exact ⟨_, rfl, .any⟩
  | table name => cases own; exact ⟨_, rfl, .sub⟩
  | tableArray name => cases own; exact ⟨_, rfl, .subArray⟩

theorem TypeScript.slotValue {storage : StorageClass} {helper : Helper}
    (own : Helper.ofStorage? storage = some helper) (offset : Nat) :
    SlotValue helper offset (readText storage offset) := by
  cases storage with
  | bool => exact nomatch own
  | primitive kind => cases own; exact .primitive (intName kind)
  | enum name repr first => cases own; exact .enum (intName repr)
  | string => cases own; exact .string
  | any => cases own; exact .any
  | table name => cases own; exact .sub
  | tableArray name => cases own; exact .subArray

/-- The variables that Rust reads bytes of bools into. -/
def Rust.chunkBytes (plan : Plan) : List (Nat × Nat) := plan.chunks.mapIdx fun number chunk => (number, chunk.offset)

/-- The variables that TypeScript reads bytes of bools into; a bool that is alone in its byte needs none. -/
def TypeScript.chunkBytes (plan : Plan) : List (Nat × Nat) :=
  (plan.chunks.mapIdx fun number chunk =>
    match chunk.members with
    | [_] => none
    | _ => some (number, chunk.offset)).filterMap id

theorem Rust.mem_chunkBytes {plan : Plan} {number offset : Nat} :
    (number, offset) ∈ chunkBytes plan ↔ ∃ chunk, plan.chunks[number]? = some chunk ∧ chunk.offset = offset := by
  rw [chunkBytes, List.mem_mapIdx]
  constructor
  · rintro ⟨i, inside, same⟩
    obtain ⟨rfl, rfl⟩ := Prod.mk.inj same
    exact ⟨_, List.getElem?_eq_getElem inside, rfl⟩
  · rintro ⟨chunk, found, rfl⟩
    obtain ⟨inside, rfl⟩ := List.getElem?_eq_some_iff.mp found
    exact ⟨number, inside, rfl⟩

theorem TypeScript.mem_chunkBytes {plan : Plan} {number offset : Nat} :
    (number, offset) ∈ chunkBytes plan ↔
      ∃ chunk, plan.chunks[number]? = some chunk ∧ chunk.offset = offset ∧ ∀ only, chunk.members ≠ [only] := by
  rw [chunkBytes, List.mem_filterMap]
  constructor
  · rintro ⟨byte?, listed, rfl⟩
    obtain ⟨i, inside, same⟩ := List.mem_mapIdx.mp listed
    split at same
    · exact nomatch same
    · next several =>
      obtain ⟨rfl, rfl⟩ := Prod.mk.inj (Option.some.inj same)
      exact ⟨_, List.getElem?_eq_getElem inside, rfl, several⟩
  · rintro ⟨chunk, found, rfl, several⟩
    obtain ⟨inside, rfl⟩ := List.getElem?_eq_some_iff.mp found
    refine ⟨some _, List.mem_mapIdx.mpr ⟨number, inside, ?_⟩, rfl⟩
    split
    · next only single => exact absurd single (several only)
    · rfl

theorem chunkEntries_reads (number : Nat) (chunk : BoolChunk) :
    (TypeScript.chunkEntries number chunk).filterMap TypeScript.Entry.read? =
      (Write.bools chunk.offset chunk.members).reads := by
  unfold TypeScript.chunkEntries
  split
  · next only single =>
    rw [single]
    rfl
  · rw [Write.reads, List.mapIdx_eq_zipIdx_map, List.mapIdx_eq_zipIdx_map, List.filterMap_map]
    exact congrFun List.filterMap_eq_map' _

theorem bools_fields (offset : Nat) (fields : List String) :
    (Write.bools offset fields).reads.map Read.field = fields := by
  rw [Write.reads, List.mapIdx_eq_zipIdx_map, List.map_map]
  exact List.zipIdx_map_fst 0 fields

/-- Every member is written once. -/
theorem writes_fields {plan : Plan} (computed : plan.Computed) :
    (((TypeScript.writes plan).flatMap Write.reads).map Read.field).Perm (plan.members.map (·.name)) := by
  have slots : plan.slots.map (·.name) = (slotted plan.members).map (·.name) := by
    rw [computed.divides.slots]
    refine List.ext_getElem? fun k => ?_
    simp [Function.comp_def]
  have chunks : plan.chunks.map (·.members) = chunkNames plan.members := by
    rw [computed.chunks_eq]
    refine List.ext_getElem? fun k => ?_
    simp [getElem?_chunksBelow, Function.comp_def]
  have fields : ((TypeScript.writes plan).flatMap Write.reads).map Read.field =
      (slotted plan.members).map (·.name) ++ (flags plan.members).map (·.name) := by
    rw [TypeScript.writes, List.flatMap_append, List.map_append, List.flatMap_map, List.flatMap_map, List.map_flatMap,
      List.map_flatMap, ← slots]
    congr 1
    · exact List.map_eq_flatMap.symm
    · simp only [bools_fields]
      rw [List.flatMap_def, chunks, flatten_chunkNames]
      rfl
  rw [fields, ← List.map_append]
  refine List.Perm.map _ ?_
  simpa [slotted, flags] using List.filter_append_perm (·.storage ≠ .bool) plan.members

section
variable {plan : Plan} (computed : plan.Computed) (distinct : (plan.members.map (·.name)).Nodup)
include computed distinct

theorem initializer_reads {member : Member} (listed : member ∈ plan.members) :
    ∃ read, (Rust.initializer plan member).read? = some read ∧ read.field = member.name ∧
      ∃ text, (Rust.initializer plan member).text? = some text ∧ Rust.Reads (Rust.chunkBytes plan) read text := by
  rcases exists_place listed with ⟨i, place⟩ | ⟨j, place⟩
  · have isSlot := (List.mem_filter.mp (List.mem_of_getElem? place)).2
    obtain ⟨helper, own⟩ := Helper.exists_ofStorage? (by simpa using isSlot)
    obtain ⟨value, spelled, reads⟩ := Rust.slotValue own (slotWidths ((slotted plan.members).take i))
    rw [slot_initializer computed distinct place]
    exact ⟨_, congrArg (Option.map _) own, rfl, _, congrArg (Option.map _) spelled, .slot reads⟩
  · have byte := Rust.mem_chunkBytes.mpr (flag_chunk computed place)
    rw [bit_initializer computed distinct place]
    refine ⟨_, rfl, rfl, _, rfl, .bit byte ?_⟩
    split
    · next isFirst => exact isFirst ▸ .first
    · exact .shifted

theorem initializers_read :
    ∃ texts, (Rust.initializers plan).mapM Rust.Initializer.text? = some texts ∧
      List.Forall₂ (Rust.Reads (Rust.chunkBytes plan)) ((Rust.initializers plan).filterMap Rust.Initializer.read?)
        texts := by
  refine mapM_forall₂ (List.Forall₂.flip (forall₂_filterMap fun init listed => ?_))
  obtain ⟨member, isMember, rfl⟩ := List.mem_map.mp listed
  obtain ⟨read, found, -, spelled⟩ := initializer_reads computed distinct isMember
  exact ⟨read, found, spelled⟩

theorem initializers_fields :
    ((Rust.initializers plan).filterMap Rust.Initializer.read?).map Read.field = plan.members.map (·.name) := by
  rw [Rust.initializers, List.filterMap_map]
  refine (map_eq_of_forall₂ (forall₂_filterMap fun member listed => ?_)).symm
  obtain ⟨read, found, named, -⟩ := initializer_reads computed distinct listed
  exact ⟨read, found, named.symm⟩

/-- The entries of a deserialize body, with the class of each slot. -/
theorem readEntries_eq : TypeScript.readEntries plan =
    plan.slots.map (fun slot => .slot ((plan.member? slot.name).getD .bool) slot.offset slot.name) ++
      (plan.chunks.mapIdx TypeScript.chunkEntries).flatten := by
  rw [TypeScript.readEntries, ← List.filterMap_eq_map]
  congr 1
  refine List.filterMap_congr fun slot listed => ?_
  obtain ⟨storage, helper, found, own⟩ := slot_helper computed distinct listed
  rw [Function.comp_apply, found]
  cases storage with
  | bool => exact nomatch own
  | _ => rfl

theorem entries_read :
    List.Forall₂ (TypeScript.Reads (TypeScript.chunkBytes plan))
      ((TypeScript.readEntries plan).filterMap TypeScript.Entry.read?)
      ((TypeScript.readEntries plan).map TypeScript.Entry.text) := by
  rw [List.forall₂_map_right_iff]
  refine List.Forall₂.flip (forall₂_filterMap fun entry listed => ?_)
  rw [readEntries_eq computed distinct] at listed
  rcases List.mem_append.mp listed with slots | bools
  · obtain ⟨slot, isSlot, rfl⟩ := List.mem_map.mp slots
    obtain ⟨storage, helper, found, own⟩ := slot_helper computed distinct isSlot
    rw [found]
    exact ⟨_, congrArg (Option.map _) own, .slot (TypeScript.slotValue own _)⟩
  · obtain ⟨entries, chunks, inside⟩ := List.mem_flatten.mp bools
    obtain ⟨number, isChunk, rfl⟩ := List.mem_mapIdx.mp chunks
    unfold TypeScript.chunkEntries at inside
    split at inside
    · obtain rfl := List.mem_singleton.mp inside
      exact ⟨_, rfl, .single⟩
    · next several =>
      obtain ⟨bit, -, rfl⟩ := List.mem_mapIdx.mp inside
      exact ⟨_, rfl, .bit (TypeScript.mem_chunkBytes.mpr ⟨_, List.getElem?_eq_getElem isChunk, rfl, several⟩)⟩

/-- TypeScript reads back what is written, in the order in which it is written. -/
theorem entries_reads :
    (TypeScript.readEntries plan).filterMap TypeScript.Entry.read? = (TypeScript.writes plan).flatMap Write.reads := by
  rw [readEntries_eq computed distinct, TypeScript.writes, List.filterMap_append, List.flatMap_append]
  congr 1
  · have each : ∀ slot ∈ plan.slots,
        (TypeScript.Entry.slot ((plan.member? slot.name).getD .bool) slot.offset slot.name).read? =
          some (.slot (TypeScript.writeHelper (plan.member? slot.name)) slot.offset slot.name) := by
      intro slot listed
      obtain ⟨storage, helper, found, own⟩ := slot_helper computed distinct listed
      rw [found, TypeScript.writeHelper_eq own]
      exact congrArg (Option.map _) own
    rw [List.filterMap_map, List.flatMap_map]
    refine (List.filterMap_congr each).trans ?_
    rw [List.filterMap_eq_map']
    exact List.map_eq_flatMap
  · rw [List.flatMap_map]
    exact filterMap_flatten_mapIdx chunkEntries_reads plan.chunks

theorem writes_subset :
    (TypeScript.writes plan).flatMap Write.reads ⊆ (Rust.initializers plan).filterMap Rust.Initializer.read? := by
  intro read listed
  obtain ⟨write, isWrite, inside⟩ := List.mem_flatMap.mp listed
  rcases List.mem_append.mp isWrite with slots | bools
  · obtain ⟨slot, isSlot, rfl⟩ := List.mem_map.mp slots
    obtain rfl := List.mem_singleton.mp inside
    obtain ⟨storage, helper, found, own⟩ := slot_helper computed distinct isSlot
    rw [computed.divides.slots] at isSlot
    obtain ⟨i, bound, rfl⟩ := List.mem_mapIdx.mp isSlot
    have place := List.getElem?_eq_getElem bound
    have isMember := (List.mem_filter.mp (List.getElem_mem bound)).1
    obtain rfl := Option.some.inj (((computed.locates distinct).classes _ isMember).symm.trans found)
    rw [found, TypeScript.writeHelper_eq own]
    refine List.mem_filterMap.mpr ⟨_, List.mem_map_of_mem isMember, ?_⟩
    rw [slot_initializer computed distinct place]
    exact congrArg (Option.map _) own
  · obtain ⟨chunk, isChunk, rfl⟩ := List.mem_map.mp bools
    obtain ⟨bit, bound, rfl⟩ := List.mem_mapIdx.mp inside
    obtain ⟨c, found⟩ := List.getElem?_of_mem isChunk
    -- Bit `bit` of byte `c` holds the bool with the number `8 * c + bit`.
    obtain ⟨-, offset, -, full⟩ := computed.divides.chunk c chunk found
    have byte : (8 * c + bit) / 8 = c := by omega
    have inByte : (8 * c + bit) % 8 = bit := by omega
    have named := computed.divides.bits (8 * c + bit)
    rw [byte, inByte, found, Option.bind_some, List.getElem?_eq_getElem bound] at named
    obtain ⟨flag, place, same⟩ := Option.map_eq_some_iff.mp named.symm
    have isMember := (List.mem_filter.mp (List.mem_of_getElem? place)).1
    refine List.mem_filterMap.mpr ⟨_, List.mem_map_of_mem isMember, ?_⟩
    rw [bit_initializer computed distinct place, byte, inByte, ← offset, same]
    rfl

/-- Rust reads back what is written. -/
theorem initializers_perm :
    ((Rust.initializers plan).filterMap Rust.Initializer.read?).Perm
      ((TypeScript.writes plan).flatMap Write.reads) := by
  -- Rust reads in the order of the members, so the two lists are compared as sets without repetition.
  have fields := writes_fields computed
  have unique : ((TypeScript.writes plan).flatMap Write.reads).Nodup := (fields.nodup_iff.mpr distinct).of_map
  have lengths := fields.length_eq
  rw [← initializers_fields computed distinct, List.length_map, List.length_map] at lengths
  exact ((unique.subperm (writes_subset computed distinct)).perm_of_length_le lengths.ge).symm

end

/-! ### Codecs -/

theorem Rust.tableLines?_parts {plan : Plan} {lines : List String} (generated : tableLines? plan = some lines) :
    ∃ serialize deserialize, serializeLines? plan = some serialize ∧ deserializeLines? plan = some deserialize ∧
      lines = structLines plan ++ ["", s!"impl ks::Table for {typeName plan.table} \x7b",
          s!"    const TAG: ks::Tag = ks::Tag::new(*b{Json.quote plan.tag});", ""] ++
        lengthLines plan ++ [""] ++ serialize ++ [""] ++ deserialize ++ ["\x7d"] := by
  obtain ⟨serialize, written, more⟩ := Option.bind_eq_some_iff.mp generated
  obtain ⟨deserialize, read, built⟩ := Option.bind_eq_some_iff.mp more
  exact ⟨serialize, deserialize, written, read, (Option.some.inj built).symm⟩

/-- A table is emitted as its lines, exactly if its names can be taken. -/
theorem Rust.emitTable_ok_iff {plan : Plan} (computed : plan.Computed) {lines : List String}
    (generated : tableLines? plan = some lines) (emitter : Emitter) {chunk : String} :
    ((Emit.Emitter.rust emitter).emitTable plan).2 = .ok chunk ↔
      Nameable emitter.types.taken (typeName plan.table) (plan.members.map (fieldName ·.name)) ∧
        chunk = "\n".intercalate lines := by
  rcases Emit.Emitter.emitTable_outcome emitter computed with
    ⟨next, written, emitted, -, nameable⟩ | ⟨next, diagnostic, emitted, -, unnameable⟩
  · obtain ⟨_, -, rust⟩ := Emit.Emitter.emitTable_rust emitted
    have code := (Emitter.emitTable_ok rust).2.2.2.2
    rw [generated, Option.map_some, Option.some.injEq] at code
    rw [emitted, ← code, Except.ok.injEq]
    exact ⟨fun same => ⟨nameable, same.symm⟩, fun facts => facts.2.symm⟩
  · rw [emitted]
    exact iff_of_false (by simp) fun facts => unnameable facts.1

section
variable {plan : Plan} (computed : plan.Computed) (distinct : (plan.members.map (·.name)).Nodup)
include computed distinct

theorem Rust.codec : Codec plan (TypeScript.writes plan) (TypeScript.lengthTerms plan)
    ((initializers plan).filterMap Initializer.read?) := by
  constructor
  case length =>
    refine ⟨(lengthTerms plan).map LengthTerm.text, ?_, rfl⟩
    rw [lengthTerms_eq computed distinct, List.forall₂_map_right_iff, List.forall₂_same]
    exact fun term _ => measures term
  case serialize =>
    obtain ⟨texts, spelled, performed⟩ := statements_perform computed distinct
    refine ⟨texts, performed, ?_⟩
    rw [serializeLines?, spelled]
    rfl
  case deserialize =>
    obtain ⟨texts, spelled, read⟩ := initializers_read computed distinct
    refine ⟨chunkBytes plan, texts, ?_, read, ?_⟩
    · intro number first second isFirst isSecond
      obtain ⟨chunk, found, rfl⟩ := mem_chunkBytes.mp isFirst
      obtain ⟨other, again, rfl⟩ := mem_chunkBytes.mp isSecond
      rw [Option.some.inj (found.symm.trans again)]
    · have declared :
          (chunkBytes plan).map (fun byte => s!"        let bools{byte.1} = ks::deserialize_u8(src, {byte.2})?;") =
          plan.chunks.mapIdx fun i chunk => s!"        let bools{i} = ks::deserialize_u8(src, {chunk.offset})?;" := by
        rw [chunkBytes, List.mapIdx_eq_zipIdx_map, List.mapIdx_eq_zipIdx_map, List.map_map]
        rfl
      rw [deserializeLines?, spelled, declared]
      rfl
  case code =>
    obtain ⟨lines, generated⟩ := (computed.faultless distinct).tableLines
    obtain ⟨serialize, deserialize, written, read, rfl⟩ := tableLines?_parts generated
    exact ⟨_, serialize, deserialize, written, read, generated⟩
  case emitted => exact fun lines generated emitter chunk => emitTable_ok_iff computed generated emitter

theorem TypeScript.codec : Codec plan (writes plan) (lengthTerms plan)
    ((readEntries plan).filterMap Entry.read?) := by
  constructor
  case length =>
    refine ⟨[s!"export class {plan.table} \x7b", s!"  static readonly id:string = '{plan.tag}';"] ++
      plan.members.map (fun member => s!"  {member.name}: {memberType member.storage};") ++ constructorLines plan,
      ["\x7d", s!"register('{plan.tag}', {plan.table}.deserialize);"],
      (lengthTerms plan).map fun term => s!"{lengthHelper term.rule}(this.{term.field})", ?_, ?_⟩
    · rw [List.forall₂_map_right_iff, List.forall₂_same]
      exact fun term _ => .term (lengthName term.rule)
    · simp only [tableLines]
  case serialize =>
    refine ⟨(writes plan).map writeText, ?_, ?_⟩
    · rw [List.forall₂_map_right_iff, List.forall₂_same]
      exact fun write _ => performs write
    · rw [serializeLines, List.map_map]
      rfl
  case deserialize =>
    refine ⟨chunkBytes plan, _, ?_, entries_read computed distinct, ?_⟩
    · intro number first second isFirst isSecond
      obtain ⟨chunk, found, rfl, -⟩ := mem_chunkBytes.mp isFirst
      obtain ⟨other, again, rfl, -⟩ := mem_chunkBytes.mp isSecond
      rw [Option.some.inj (found.symm.trans again)]
    · have declared :
          (chunkBytes plan).map (fun byte => s!"    const bools{byte.1} = deserializeByte(src, {byte.2});") =
          (plan.chunks.mapIdx chunkVariable?).filterMap id := by
        rw [chunkBytes, List.map_filterMap, List.mapIdx_eq_zipIdx_map, List.mapIdx_eq_zipIdx_map, List.filterMap_map,
          List.filterMap_map]
        refine List.filterMap_congr fun indexed _ => ?_
        obtain ⟨⟨offset, fields⟩, number⟩ := indexed
        -- A variable is left out exactly for a chunk of one member.
        rcases fields with _ | ⟨first, _ | ⟨second, more⟩⟩ <;> rfl
      rw [deserializeLines, declared, List.map_map, List.isEmpty_map]
      rfl
  case emitted => exact fun _ => rfl

end

end Emit
end TableWire
