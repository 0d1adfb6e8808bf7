import Mathlib
import TableWire.Proofs.Buffer
import TableWire.Proofs.Session
import TableWire.Samples

/-!
Catalogs of accepted schemas. A catalog that compiled Rust schemas make up, one or several whose names
do not clash (`Catalog.Accepted`), is well formed: every table is laid out for its members, a table is
found by its name, and whatever a member refers to is found as well.
-/
namespace TableWire
open Schema Layout Emit

/-! ### Tags -/

namespace Schema

theorem readDeclaration_tag {text : String} {tokens rest : List Token} {decl : TableDecl}
    (found : readDeclaration text tokens = .ok (some (.table decl, rest))) :
    decl.tag.utf8ByteSize = tagLength := by
  obtain ⟨skipped, item, -, isItem, -⟩ := readDeclaration_some_iff.mp found
  cases isItem with
  | table begun tableText =>
    cases tableText with
    | table heading fourBytes listed => exact fourBytes

theorem readFrom_tag {text : String} {tokens : List Token} {decl : TableDecl}
    (found : .ok (.table decl) ∈ readFrom text tokens) : decl.tag.utf8ByteSize = tagLength := by
  fun_induction readFrom text tokens with
  | case1 tokens read => simp at found
  | case2 tokens declaration rest read ih =>
    rcases List.mem_cons.mp found with same | later
    · obtain rfl := Except.ok.inj same
      exact readDeclaration_tag read
    · exact ih later
  | case3 tokens diagnostic read => simp at found

end Schema

/-- The tags of all tables that a run has compiled have four bytes. -/
theorem Session.addAll_tag {text : String} {options : Options} {session : Session}
    (ran : (Session.start options).addAll (readAll text) = .ok session) :
    ∀ decl, .table decl ∈ session.declarations → decl.tag.utf8ByteSize = tagLength := by
  refine addAll_keeps (fun session =>
    ∀ decl, .table decl ∈ session.declarations → decl.tag.utf8ByteSize = tagLength) ?_ ?_ ran
  · intro session later declaration item tagged added decl member
    rw [add_declarations added] at member
    rcases List.mem_append.mp member with early | last
    · exact tagged decl early
    · obtain rfl := List.mem_singleton.mp last
      exact readFrom_tag item
  · simp [Session.start]

theorem Wire.Tag.ofBytes?_of_length {bytes : Bytes} (fourBytes : bytes.length = 4) :
    ∃ tag, Tag.ofBytes? bytes = some tag := by
  match bytes with
  | [first, second, third, fourth] => exact ⟨_, rfl⟩
  | [] | [_] | [_, _] | [_, _, _] | _ :: _ :: _ :: _ :: _ :: _ => simp at fourBytes

theorem Wire.Tag.ofText?_of_size {text : String} (fourBytes : text.utf8ByteSize = tagLength) :
    ∃ tag, Tag.ofText? text = some tag :=
  Tag.ofBytes?_of_length ((Text.length_utf8 text).trans fourBytes)

/-! ### Well-formed catalogs -/

namespace Wire

/-- What a class refers to is in the catalog, and an enum can number its values. -/
def Catalog.Resolves (catalog : Catalog) : StorageClass → Prop
  | .enum name repr _ => ∃ decl, catalog.enum? name = some decl ∧ decl.values.length ≤ repr.valueCapacity
  | .table name | .tableArray name => ∃ table, catalog.table? name = some table
  | .primitive _ | .bool | .string | .any => True

structure Catalog.WellFormed (catalog : Catalog) : Prop where
  computed : ∀ table ∈ catalog.tables, table.plan.Computed
  distinct : ∀ table ∈ catalog.tables, (table.plan.members.map (·.name)).Nodup
  found : ∀ table ∈ catalog.tables, catalog.table? table.name = some table
  resolved : ∀ table ∈ catalog.tables, ∀ member ∈ table.plan.members, catalog.Resolves member.storage

/-- A catalog of schemas that compile for Rust: of one schema, or of several that do not declare the
same name. -/
inductive Catalog.Accepted : Catalog → Prop
  | schema {text : String} {options : Options} {compilation : Compilation}
      (rust : options.target = .rust) (compiled : compile text options = .ok compilation) :
      Accepted (.ofCompilation compilation)
  | append {first second : Catalog} (left : Accepted first) (right : Accepted second)
      (tables : ∀ a ∈ first.tables, ∀ b ∈ second.tables, a.name ≠ b.name)
      (enums : ∀ a ∈ first.enums, ∀ b ∈ second.enums, a.name ≠ b.name) :
      Accepted (first.append second)

/-- Names of what is picked from a list are picked from its names. -/
theorem sublist_names {α β : Type} {pick : α → Option β} {name : α → String} {pickedName : β → String}
    (same : ∀ a b, pick a = some b → pickedName b = name a) (list : List α) :
    ((list.filterMap pick).map pickedName).Sublist (list.map name) := by
  induction list with
  | nil => simp
  | cons first list ih =>
    cases picked : pick first with
    | none =>
      rw [List.filterMap_cons_none picked, List.map_cons]
      exact ih.cons _
    | some b =>
      rw [List.filterMap_cons_some picked, List.map_cons, List.map_cons, same first b picked]
      exact ih.cons_cons _

theorem Catalog.mem_of_table? {catalog : Catalog} {name : String} {table : Table}
    (found : catalog.table? name = some table) : table ∈ catalog.tables := List.mem_of_find?_eq_some found

section
variable {session : Session} (sound : session.Sound)
include sound

theorem distinct_enums : ((Declaration.enums session.declarations).map (·.name)).Nodup := by
  refine sound.distinct.sublist (sublist_names ?_ _)
  intro declaration decl picked
  cases declaration with
  | table other => simp at picked
  | enum other =>
    obtain rfl : other = decl := by simpa using picked
    rfl

theorem names_of_plans : session.plans.map (·.table) = (Declaration.tables session.declarations).map (·.name) := by
  have pairs := congrArg (List.map Prod.fst) sound.planned
  rwa [List.map_map, List.map_map] at pairs

theorem sublist_plans : (session.plans.map (·.table)).Sublist (session.declarations.map (·.name)) := by
  rw [names_of_plans sound]
  refine sublist_names ?_ _
  intro declaration decl picked
  cases declaration with
  | enum other => simp at picked
  | table other =>
    obtain rfl : other = decl := by simpa using picked
    rfl

theorem distinct_plans : (session.plans.map (·.table)).Nodup := sound.distinct.sublist (sublist_plans sound)

theorem distinct_tables : ((Catalog.ofCompilation session.finish).tables.map (·.name)).Nodup := by
  refine (distinct_plans sound).sublist (sublist_names ?_ _)
  intro plan table picked
  obtain ⟨tag, -, rfl⟩ := Option.map_eq_some_iff.mp picked
  rfl

/-- A declared table is in the catalog under its name. -/
theorem exists_table (tagged : ∀ decl, .table decl ∈ session.declarations →
      decl.tag.utf8ByteSize = tagLength) {decl : TableDecl} (declared : .table decl ∈ session.declarations) :
    ∃ table, (Catalog.ofCompilation session.finish).table? decl.name = some table := by
  have listed : decl ∈ Declaration.tables session.declarations :=
    List.mem_filterMap.mpr ⟨.table decl, declared, rfl⟩
  have planned : (decl.name, decl.tag) ∈ session.plans.map fun plan => (plan.table, plan.tag) := by
    rw [sound.planned]
    exact List.mem_map_of_mem listed
  obtain ⟨plan, member, same⟩ := List.mem_map.mp planned
  obtain ⟨sameName, sameTag⟩ := Prod.mk.inj same
  obtain ⟨tag, spelled⟩ := Tag.ofText?_of_size (tagged decl declared)
  have inside : (⟨plan, tag⟩ : Table) ∈ (Catalog.ofCompilation session.finish).tables := by
    refine List.mem_filterMap.mpr ⟨plan, member, ?_⟩
    rw [sameTag, spelled]
    rfl
  refine ⟨⟨plan, tag⟩, ?_⟩
  rw [← sameName]
  exact find?_name (distinct_tables sound) inside

theorem ofCompilation_wellFormed (tagged : ∀ decl, .table decl ∈ session.declarations →
      decl.tag.utf8ByteSize = tagLength) : (Catalog.ofCompilation session.finish).WellFormed := by
  have laidOut : ∀ table ∈ (Catalog.ofCompilation session.finish).tables,
      table.plan.Sound session.declarations := by
    intro table member
    obtain ⟨plan, planned, picked⟩ := List.mem_filterMap.mp member
    obtain ⟨tag, -, rfl⟩ := Option.map_eq_some_iff.mp picked
    exact sound.laidOut plan planned
  refine ⟨fun table member => (laidOut table member).computed,
    fun table member => (laidOut table member).distinct,
    fun table member => find?_name (distinct_tables sound) member, ?_⟩
  intro table member field inside
  have declared := (laidOut table member).declared field inside
  cases storage : field.storage with
  | enum name repr value =>
    rw [storage] at declared
    obtain ⟨decl, known, rfl, rfl⟩ := declared
    refine ⟨decl, ?_, sound.numbered decl known⟩
    exact find?_name (distinct_enums sound) (List.mem_filterMap.mpr ⟨.enum decl, known, rfl⟩)
  | table name =>
    rw [storage] at declared
    obtain ⟨decl, known, rfl⟩ := declared
    exact exists_table sound tagged known
  | tableArray name =>
    rw [storage] at declared
    obtain ⟨decl, known, rfl⟩ := declared
    exact exists_table sound tagged known
  | _ => trivial

end

namespace Catalog

theorem table?_append (first second : Catalog) (name : String) :
    (first.append second).table? name = (first.table? name).or (second.table? name) :=
  List.find?_append

theorem enum?_append (first second : Catalog) (name : String) :
    (first.append second).enum? name = (first.enum? name).or (second.enum? name) :=
  List.find?_append

/-- A table of the second schema is found behind the tables of the first. -/
theorem table?_append_right {first second : Catalog} {name : String} {table : Table}
    (apart : ∀ a ∈ first.tables, ∀ b ∈ second.tables, a.name ≠ b.name)
    (found : second.table? name = some table) : (first.append second).table? name = some table := by
  have named : table.name = name := by simpa using List.find?_some found
  have absent : first.table? name = none := by
    refine List.find?_eq_none.mpr ?_
    intro other member
    have differ := apart other member table (mem_of_table? found)
    simpa [named] using differ
  rw [table?_append, absent, found]
  rfl

theorem enum?_append_right {first second : Catalog} {name : String} {decl : EnumDecl}
    (apart : ∀ a ∈ first.enums, ∀ b ∈ second.enums, a.name ≠ b.name)
    (found : second.enum? name = some decl) : (first.append second).enum? name = some decl := by
  have named : decl.name = name := by simpa using List.find?_some found
  have absent : first.enum? name = none := by
    refine List.find?_eq_none.mpr ?_
    intro other member
    have differ := apart other member decl (List.mem_of_find?_eq_some found)
    simpa [named] using differ
  rw [enum?_append, absent, found]
  rfl

theorem Resolves.mono {first second : Catalog}
    (tables : ∀ name table, first.table? name = some table → second.table? name = some table)
    (enums : ∀ name decl, first.enum? name = some decl → second.enum? name = some decl)
    {storage : StorageClass} (resolves : first.Resolves storage) : second.Resolves storage := by
  cases storage with
  | enum name repr value =>
    obtain ⟨decl, found, bound⟩ := resolves
    exact ⟨decl, enums name decl found, bound⟩
  | table name =>
    obtain ⟨table, found⟩ := resolves
    exact ⟨table, tables name table found⟩
  | tableArray name =>
    obtain ⟨table, found⟩ := resolves
    exact ⟨table, tables name table found⟩
  | _ => trivial

theorem WellFormed.append {first second : Catalog} (left : first.WellFormed) (right : second.WellFormed)
    (tables : ∀ a ∈ first.tables, ∀ b ∈ second.tables, a.name ≠ b.name)
    (enums : ∀ a ∈ first.enums, ∀ b ∈ second.enums, a.name ≠ b.name) :
    (first.append second).WellFormed := by
  have split : ∀ {table : Table}, table ∈ (first.append second).tables →
      table ∈ first.tables ∨ table ∈ second.tables := List.mem_append.mp
  refine ⟨?_, ?_, ?_, ?_⟩
  · intro table member
    rcases split member with member | member
    · exact left.computed table member
    · exact right.computed table member
  · intro table member
    rcases split member with member | member
    · exact left.distinct table member
    · exact right.distinct table member
  · intro table member
    rcases split member with member | member
    · rw [table?_append, left.found table member]
      rfl
    · exact table?_append_right tables (right.found table member)
  · intro table member field inside
    rcases split member with member | member
    · refine (left.resolved table member field inside).mono ?_ ?_
      · intro name other found
        rw [table?_append, found]
        rfl
      · intro name decl found
        rw [enum?_append, found]
        rfl
    · exact (right.resolved table member field inside).mono
        (fun name other => table?_append_right tables) (fun name decl => enum?_append_right enums)

theorem Accepted.wellFormed {catalog : Catalog} (accepted : catalog.Accepted) : catalog.WellFormed := by
  induction accepted with
  | @schema text options compilation rust compiled =>
    unfold compile at compiled
    cases ran : (Session.start options).addAll (readAll text) with
    | error diagnostic => simp [ran, Except.map] at compiled
    | ok session =>
      obtain rfl : session.finish = compilation := by simpa [ran, Except.map] using compiled
      exact ofCompilation_wellFormed ((Session.Sound.start rust).addAll ran) (Session.addAll_tag ran)
  | append _ _ tables enums left right => exact left.append right tables enums

end Catalog

/-- A catalog is accepted when a schema compiles to its types. -/
theorem Catalog.accepted_of_compile (text : String) {catalog : Catalog}
    (compiled : ((compile text (.ofTarget .rust)).toOption.map fun compilation =>
      ((ofCompilation compilation).enums, (ofCompilation compilation).tables)) =
      some (catalog.enums, catalog.tables)) : catalog.Accepted := by
  cases ran : compile text (.ofTarget .rust) with
  | error diagnostic => simp [ran, Except.toOption] at compiled
  | ok compilation =>
    obtain ⟨enums, tables⟩ : (ofCompilation compilation).enums = catalog.enums ∧
        (ofCompilation compilation).tables = catalog.tables := by
      simpa [ran, Except.toOption] using compiled
    have same : ofCompilation compilation = catalog := by
      cases whole : ofCompilation compilation
      simp_all
    exact same ▸ .schema rfl ran

/-- The kennel's types are those of its schema. -/
theorem kennel_accepted : Samples.kennel.Accepted :=
  Catalog.accepted_of_compile ("\n".intercalate Samples.kennelLines) (by decide +kernel)

theorem grove_accepted : Samples.grove.Accepted :=
  Catalog.accepted_of_compile ("\n".intercalate Samples.groveLines) (by decide +kernel)

end Wire
end TableWire
