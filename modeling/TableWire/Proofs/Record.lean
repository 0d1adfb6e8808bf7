import Mathlib
import TableWire.Proofs.Catalog
import TableWire.Wire.Write

/-!
Records of a catalog's tables. `IsRecord` says when a value is a record of a table: one value a member,
each of the member's class, and every record inside it a record of its own table. Records inside a
record are its children and theirs (`Within`).
-/
namespace TableWire.Wire
open Schema Layout

namespace Value

/-- The table of a record. -/
def table? : Value → Option Table
  | .record table _ => some table
  | _ => none

/-- The records that the value of a field holds. -/
def held : Value → List Value
  | .record table members => [.record table members]
  | .list items => items
  | _ => []

/-- The records directly inside a record. -/
def children : Value → List Value
  | .record _ members => members.flatMap held
  | _ => []

/-- A record inside another at any depth, or the other record itself. -/
def Within (inner outer : Value) : Prop :=
  Relation.ReflTransGen (fun outer inner => inner ∈ outer.children) outer inner

/-- The value of a record's field. -/
def field? (name : String) : Value → Option Value
  | .record table members => ((table.plan.members.zip members).find? (·.1.name == name)).map (·.2)
  | _ => none

/-- The length of a tail, measured by a rule. -/
def measure : LengthRule → Value → Nat
  | .string, .text s => stringLength s
  | .sub, value => subLength value.body?
  | .subArray, .list items => arrayLength (items.map body)
  | .any, value => anyLength value.body?
  | _, _ => 0

/-- The length of the tail that a field of a record has. -/
def tailOf (value : Value) (field : VariableField) : Nat := (value.field? field.name).elim 0 (measure field.length)

/-- The tables of the records that fields of any table hold directly in a record. -/
def anyTables : Value → List Table
  | .record table members => (table.plan.members.zip members).filterMap fun (member, value) =>
      if member.storage = .any then value.table? else none
  | _ => []

/-- Children of a record come from its members. -/
theorem mem_children_of_member {table : Table} {members : List Value} {value inner : Value}
    (member : value ∈ members) (held : inner ∈ value.held) :
    inner ∈ (Value.record table members).children := List.mem_flatMap.mpr ⟨value, member, held⟩

/-- A child of a record is held by one of its fields. -/
theorem exists_pair_of_child {table : Table} {members : List Value} {inner : Value}
    (same : table.plan.members.length = members.length) (child : inner ∈ (Value.record table members).children) :
    ∃ field value, (field, value) ∈ table.plan.members.zip members ∧ inner ∈ value.held := by
  obtain ⟨value, member, held⟩ := List.mem_flatMap.mp child
  rw [← List.map_snd_zip same.ge] at member
  obtain ⟨⟨field, _⟩, pair, rfl⟩ := List.mem_map.mp member
  exact ⟨field, _, pair, held⟩

/-- The tables of records of any table are those that the fields of the class hold. -/
theorem mem_anyTables {table anyTable : Table} {members : List Value} :
    anyTable ∈ (Value.record table members).anyTables ↔ ∃ field value,
      (field, value) ∈ table.plan.members.zip members ∧ field.storage = .any ∧ value.table? = some anyTable := by
  simp only [anyTables, List.mem_filterMap, Prod.exists, Option.ite_none_right_eq_some]

theorem eq_record_of_table? {value : Value} {table : Table} (tabled : value.table? = some table) :
    ∃ members, value = .record table members := by
  cases value with
  | record other members =>
    obtain rfl : other = table := by simpa [table?] using tabled
    exact ⟨members, rfl⟩
  | _ => simp [table?] at tabled

end Value

/-- The registry leads from its tag to the table of every record of any table inside a record. -/
def Registry.Knows (registry : Registry) (value : Value) : Prop :=
  ∀ inner : Value, inner.Within value →
    ∀ table ∈ inner.anyTables, registry.lookup? table.tag = some table

theorem Registry.Knows.child {registry : Registry} {value inner : Value} (knows : registry.Knows value)
    (child : inner ∈ value.children) : registry.Knows inner :=
  fun deeper within => knows deeper (.head child within)

/-- The registry leads from a tag to no other table than that of the record of any table which has the tag. -/
def Registry.Faithful (registry : Registry) (value : Value) : Prop :=
  ∀ inner : Value, inner.Within value →
    ∀ table ∈ inner.anyTables, ∀ other, registry.lookup? table.tag = some other → other = table

theorem Registry.Faithful.child {registry : Registry} {value inner : Value} (faithful : registry.Faithful value)
    (child : inner ∈ value.children) : registry.Faithful inner :=
  fun deeper within => faithful deeper (.head child within)

theorem Registry.Knows.faithful {registry : Registry} {value : Value} (knows : registry.Knows value) :
    registry.Faithful value := by
  intro inner within table listed other bound
  exact Option.some.inj (bound.symm.trans (knows inner within table listed))

/-- A value that a field of a class can hold; of a record inside it only the table counts. -/
def Suits (catalog : Catalog) : StorageClass → Value → Prop
  | .primitive kind, .int n => Fits kind n
  | .bool, .bool _ => True
  | .string, .text _ => True
  | .enum name _ _, .enum position =>
    ∃ decl, catalog.enum? name = some decl ∧ position < decl.values.length
  | .table _, .absent => True
  | .table name, .record table _ => catalog.table? name = some table
  | .tableArray name, .list items =>
    ∃ table, catalog.table? name = some table ∧ ∀ item ∈ items, item.table? = some table
  | .any, .absent => True
  | .any, .record table _ => table ∈ catalog.tables
  | _, _ => False

/-- A record of a table: its members suit their classes, and so do those of all records inside. -/
inductive IsRecord (catalog : Catalog) : Table → Value → Prop
  | record {table : Table} {members : List Value}
      (suited : List.Forall₂ (fun member value => Suits catalog member.storage value)
        table.plan.members members)
      (nested : ∀ inner ∈ (Value.record table members).children, ∀ innerTable,
        inner.table? = some innerTable → IsRecord catalog innerTable inner) :
      IsRecord catalog table (.record table members)

/-- The records that a suited field holds belong to tables of the catalog. -/
theorem Suits.held_table {catalog : Catalog} {storage : StorageClass} {value : Value}
    (suits : Suits catalog storage value) :
    ∀ inner ∈ value.held, ∃ table ∈ catalog.tables, inner.table? = some table := by
  intro inner member
  cases value with
  | record table members =>
    obtain rfl := List.mem_singleton.mp member
    cases storage with
    | table name => exact ⟨table, Catalog.mem_of_table? suits, rfl⟩
    | any => exact ⟨table, suits, rfl⟩
    | _ => exact suits.elim
  | list items =>
    cases storage with
    | tableArray name =>
      obtain ⟨table, found, all⟩ := suits
      exact ⟨table, Catalog.mem_of_table? found, all inner member⟩
    | _ => exact suits.elim
  | _ => simp [Value.held] at member

/-- The records inside a suited record belong to tables of the catalog. -/
theorem children_table {catalog : Catalog} {table : Table} {members : List Value}
    (suited : List.Forall₂ (fun member value => Suits catalog member.storage value) table.plan.members members) :
    ∀ inner ∈ (Value.record table members).children, ∃ innerTable ∈ catalog.tables,
      inner.table? = some innerTable := by
  intro inner child
  obtain ⟨same, each⟩ := List.forall₂_iff_zip.mp suited
  obtain ⟨field, value, pair, held⟩ := Value.exists_pair_of_child same child
  exact (each pair).held_table inner held

/-- Records inside a record are records of their own tables. -/
theorem IsRecord.within {catalog : Catalog} {table : Table} {value inner : Value}
    (record : IsRecord catalog table value) (within : inner.Within value) :
    ∃ innerTable, inner.table? = some innerTable ∧ IsRecord catalog innerTable inner := by
  induction within with
  | refl =>
    obtain ⟨suited, nested⟩ := record
    exact ⟨table, rfl, .record suited nested⟩
  | tail _ child ih =>
    obtain ⟨outerTable, -, suited, nested⟩ := ih
    obtain ⟨innerTable, -, tabled⟩ := children_table suited _ child
    exact ⟨innerTable, tabled, nested _ child innerTable tabled⟩

/-- A registry that binds all tables of a catalog to their own tags knows all its records. -/
theorem IsRecord.knows {catalog : Catalog} {table : Table} {value : Value} {registry : Registry}
    (record : IsRecord catalog table value)
    (bound : ∀ table ∈ catalog.tables, registry.lookup? table.tag = some table) : registry.Knows value := by
  intro inner within anyTable listed
  obtain ⟨innerTable, -, suited, -⟩ := record.within within
  obtain ⟨field, held, pair, any, tabled⟩ := Value.mem_anyTables.mp listed
  have suits := (List.forall₂_iff_zip.mp suited).2 pair
  rw [any] at suits
  obtain ⟨members, rfl⟩ := Value.eq_record_of_table? tabled
  exact bound anyTable suits

namespace Value

theorem cells_eq_map (values : List Value) : cells values = values.map cell := by
  induction values with
  | nil => rfl
  | cons value values ih => rw [cells, ih, List.map_cons]

theorem body_record (table : Table) (members : List Value) :
    (Value.record table members).body = table.body (members.map cell) := by
  rw [body, cell, cells_eq_map, Cell.body]

theorem cell_record (table : Table) (members : List Value) :
    (Value.record table members).cell = .record (Value.record table members).body := by
  rw [body, cell, Cell.body]

theorem cell_list (items : List Value) : (Value.list items).cell = .list (items.map body) := by
  rw [cell, cells_eq_map, List.map_map]
  rfl

/-- The length of a record is that of its header and its tails. -/
theorem length_record (table : Table) (members : List Value) :
    (Value.record table members).length =
      table.plan.totalLength (tailLengths table.plan.members (members.map cell)) := by
  rw [length, body_record]
  rfl

end Value

/-! ### Tails by name -/

/-- The rule of a class measures what a field of the class adds. -/
theorem Suits.measure_eq {catalog : Catalog} {storage : StorageClass} {value : Value} {rule : LengthRule}
    (suits : Suits catalog storage value) (ruled : storage.lengthRule? = some rule) :
    Value.measure rule value = tailLength storage value.cell := by
  cases storage with
  | primitive | bool | enum => simp [StorageClass.lengthRule?] at ruled
  | string =>
    obtain rfl := Option.some.inj ruled
    cases value with
    | text s => rw [Value.cell, Value.measure, tailLength]
    | _ => exact suits.elim
  | table name =>
    obtain rfl := Option.some.inj ruled
    cases value with
    | record table members => rw [Value.cell_record, Value.measure, Value.body?, tailLength]; simp
    | absent => rw [Value.cell, Value.measure, Value.body?]; rfl
    | _ => exact suits.elim
  | tableArray name =>
    obtain rfl := Option.some.inj ruled
    cases value with
    | list items => rw [Value.cell_list, Value.measure, tailLength]
    | _ => exact suits.elim
  | any =>
    obtain rfl := Option.some.inj ruled
    cases value with
    | record table members => rw [Value.cell_record, Value.measure, Value.body?, tailLength]; simp
    | absent => rw [Value.cell, Value.measure, Value.body?]; rfl
    | _ => exact suits.elim

/-- Going through the variable fields is going through the members that have a rule. -/
theorem map_variableFrom (measured : String → LengthRule → Nat) (offset : Nat) (members : List Member)
    (values : List Value) (same : members.length = values.length) :
    (variableFrom offset members).map (fun field => measured field.name field.length) =
      (members.zip values).filterMap fun pair => pair.1.storage.lengthRule?.map (measured pair.1.name) := by
  induction members generalizing offset values with
  | nil => rfl
  | cons member members ih =>
    cases values with
    | nil => simp at same
    | cons value values =>
      have later := ih (offset + member.storage.width) values (by simpa using same)
      cases rule : member.storage.lengthRule? with
      | none => simp [variableFrom, rule, later]
      | some rule => simp_all [variableFrom]

/-- A member's value is found under its name. -/
theorem Value.field?_of_mem {table : Table} {members : List Value} {member : Member} {value : Value}
    (distinct : (table.plan.members.map (·.name)).Nodup) (same : table.plan.members.length = members.length)
    (pair : (member, value) ∈ table.plan.members.zip members) :
    (Value.record table members).field? member.name = some value := by
  have names : (table.plan.members.zip members).map (·.1.name) = table.plan.members.map (·.name) := by
    have firsts := congrArg (List.map (·.name)) (List.map_fst_zip same.le)
    rwa [List.map_map] at firsts
  have found : (table.plan.members.zip members).find? (·.1.name == member.name) = some (member, value) :=
    find?_name (names.symm ▸ distinct) pair
  rw [Value.field?, found]
  rfl

theorem IsRecord.length_eq {catalog : Catalog} {table : Table} {value : Value}
    (record : IsRecord catalog table value) (computed : table.plan.Computed)
    (distinct : (table.plan.members.map (·.name)).Nodup) :
    value.length = table.plan.totalLength (table.plan.variableFields.map value.tailOf) := by
  obtain ⟨suited, -⟩ := record
  rename_i members
  obtain ⟨same, each⟩ := List.forall₂_iff_zip.mp suited
  rw [Value.length_record, computed.variableFields_eq]
  congr 1
  unfold Value.tailOf
  rw [map_variableFrom (fun name rule => ((Value.record table members).field? name).elim 0 (Value.measure rule))
    0 _ members same]
  unfold tailLengths
  rw [List.zip_map_right, List.filterMap_map]
  refine List.filterMap_congr ?_
  rintro ⟨member, value⟩ pair
  simp only [Function.comp, Prod.map, id, StorageClass.isVariable]
  rw [Value.field?_of_mem distinct same pair]
  rcases Option.eq_none_or_eq_some member.storage.lengthRule? with unruled | ⟨rule, ruled⟩
  · simp [unruled]
  · simp [ruled, (each pair).measure_eq ruled]

/-! ### A record of the kennel -/

section
open Samples

theorem chip_isRecord : IsRecord kennel chip (.record chip []) :=
  .record .nil (by simp [Value.children])

/-- A small dog of any name, with nothing else. -/
def pup (name : String) : Value := .record dog [.text name, .enum 0, .bool false, .absent, .list [], .absent]

theorem pup_isRecord (name : String) : IsRecord kennel dog (pup name) := by
  refine .record ?_ (by simp [Value.children, Value.held])
  exact .cons trivial (.cons ⟨_, rfl, by decide⟩ (.cons trivial (.cons trivial
    (.cons ⟨dog, rfl, by simp⟩ (.cons trivial .nil)))))

theorem pip_isRecord : IsRecord kennel dog pip := pup_isRecord "Pip"

theorem rex_isRecord : IsRecord kennel dog rex := by
  refine .record ?_ ?_
  · exact .cons trivial (.cons ⟨_, rfl, by decide⟩ (.cons trivial (.cons rfl
      (.cons ⟨dog, rfl, by simp [pip, Value.table?]⟩ (.cons (by simp [Suits, kennel]) .nil)))))
  · intro inner child innerTable tabled
    simp only [Value.children, List.flatMap_cons, List.flatMap_nil, Value.held, List.mem_append, List.mem_cons,
      List.not_mem_nil, or_false, false_or] at child
    rcases child with rfl | (rfl | rfl) | rfl
    · exact Option.some.inj tabled ▸ chip_isRecord
    · exact Option.some.inj tabled ▸ pip_isRecord
    · exact Option.some.inj tabled ▸ pip_isRecord
    · exact Option.some.inj tabled ▸ chip_isRecord

end
end TableWire.Wire
