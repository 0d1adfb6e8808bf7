import Mathlib
import TableWire.Proofs.Catalog
import TableWire.Proofs.Names
import TableWire.Proofs.Registry

/-!
What tags stand for while a schema is compiled and while records are decoded. A session keeps for every tag the table
that declared it last (`Session.addAll_tags`). Generated Rust registers its structs by calls in the order of the plans,
each under the tag in its code (`Wire.Catalog.Runs`), and of these too the last one with a tag is kept. So both come to
the same table for every tag (`Wire.BindingsAgree`).
-/
namespace TableWire
open Schema Layout Emit

/-- The name that stands last with a tag, among pairs of names and tags. -/
def Schema.lastName? (pairs : List (String × String)) (tag : String) : Option String :=
  (pairs.reverse.find? (·.2 = tag)).map (·.1)

/-- A name that declares a tag when no table behind it does. -/
def Schema.DeclaresLast (declarations : List Declaration) (tag name : String) : Prop :=
  ∃ before decl after, Declaration.tables declarations = before ++ decl :: after ∧ decl.name = name ∧ decl.tag = tag ∧
    ∀ other ∈ after, other.tag ≠ tag

namespace Schema

theorem lastName?_append (pairs : List (String × String)) (name own tag : String) :
    lastName? (pairs ++ [(name, own)]) tag = if own = tag then some name else lastName? pairs tag := by
  rw [lastName?, List.reverse_append, List.reverse_singleton, List.singleton_append, List.find?_cons]
  by_cases same : own = tag
  · simp [same]
  · simp [same, lastName?]

theorem getElem?_insert_lastName? {tags : Std.TreeMap String String} {pairs : List (String × String)} {tag : String}
    (known : tags[tag]? = lastName? pairs tag) (name own : String) :
    (tags.insert own name)[tag]? = lastName? (pairs ++ [(name, own)]) tag := by
  rw [lastName?_append, ← known, Std.TreeMap.getElem?_insert]
  simp only [Std.compare_eq_iff_eq]

theorem lastName?_map {α : Type} (name tag : α → String) (list : List α) (sought : String) :
    lastName? (list.map fun a => (name a, tag a)) sought = (list.reverse.find? (tag · = sought)).map name := by
  rw [lastName?, ← List.map_reverse, List.find?_map, Option.map_map]
  rfl

theorem declaresLast_iff {declarations : List Declaration} {tag name : String} :
    DeclaresLast declarations tag name ↔
      lastName? ((Declaration.tables declarations).map fun decl => (decl.name, decl.tag)) tag = some name := by
  rw [lastName?_map, Option.map_eq_some_iff]
  constructor
  · rintro ⟨before, decl, after, split, rfl, rfl, others⟩
    refine ⟨decl, List.find?_eq_some_iff_append.mpr ⟨by simp, after.reverse, before.reverse, by simp [split], ?_⟩, rfl⟩
    intro other listed
    simpa using others other (List.mem_reverse.mp listed)
  · rintro ⟨decl, found, rfl⟩
    obtain ⟨own, after, before, split, others⟩ := List.find?_eq_some_iff_append.mp found
    refine ⟨before.reverse, decl, after.reverse, ?_, rfl, by simpa using own, ?_⟩
    · rw [← List.reverse_reverse (Declaration.tables declarations), split]
      simp
    · intro other listed
      simpa using others other (List.mem_reverse.mp listed)

end Schema

/-- A tag leads to the table that declared it last, all along a run. -/
theorem Session.addAll_tags {options : Options} {session : Session} {items : List (Except Diagnostic Declaration)}
    (ran : (start options).addAll items = .ok session) (tag : String) :
    session.tags[tag]? =
      lastName? ((Declaration.tables session.declarations).map fun decl => (decl.name, decl.tag)) tag := by
  refine addAll_keeps (fun session => session.tags[tag]? =
    lastName? ((Declaration.tables session.declarations).map fun decl => (decl.name, decl.tag)) tag) ?_ ?_ ran
  · intro session later declaration _ known added
    cases adds_iff.mpr added with
    | enum numbered emitted => rwa [Declaration.tables_enum]
    | table resolved emitted =>
      rw [Declaration.tables_table, List.map_append, List.map_singleton]
      exact getElem?_insert_lastName? known _ _
  · simp [start, Declaration.tables, lastName?]

namespace Wire

theorem Tag.bytes_of_ofText? {text : String} {tag : Tag} (spelled : ofText? text = some tag) :
    tag.bytes = Text.utf8 text := by
  unfold ofText? ofBytes? at spelled
  split at spelled
  · next four =>
    rw [four]
    exact congrArg Tag.bytes (Option.some.inj spelled).symm
  · exact nomatch spelled

/-- A tag is spelled in one way. -/
theorem Tag.text_unique {first second : String} {tag : Tag} (spelled : ofText? first = some tag)
    (again : ofText? second = some tag) : first = second := by
  have same : Text.utf8 first = Text.utf8 second := (bytes_of_ofText? spelled).symm.trans (bytes_of_ofText? again)
  have read := Text.ofUtf8?_utf8 first
  rw [same, Text.ofUtf8?_utf8] at read
  exact (Option.some.inj read).symm

/-- A registry of tables has one binding for each of their tags. -/
theorem Registry.size_ofTables (tables : List Table) :
    (ofTables tables).size = (tables.map (·.tag)).toFinset.card := by
  induction tables using List.reverseRecOn with
  | nil => rfl
  | append_singleton tables table ih =>
    have last : ofTables (tables ++ [table]) = (ofTables tables).register table := by simp [ofTables]
    have bound : (ofTables tables).bindings.contains table.tag ↔ table.tag ∈ (tables.map (·.tag)).toFinset := by
      have found := lookup?_ofTables tables table.tag
      rw [lookup?] at found
      rw [Std.TreeMap.contains_eq_isSome_getElem?, found, List.find?_isSome]
      simp
    have grown : ((tables ++ [table]).map (·.tag)).toFinset = insert table.tag (tables.map (·.tag)).toFinset := by
      ext tag
      simp [eq_comm]
    rw [last, register, bind, size, Std.TreeMap.size_insert, grown, Finset.card_insert_eq_ite, ← ih]
    simp only [bound, size]

/-! ### Tags and their texts -/

section
variable {tables : List Table} (spelled : ∀ table ∈ tables, Tag.ofText? table.plan.tag = some table.tag)
include spelled

/-- In a registry of tables a tag leads to the name that stands last with its text. -/
theorem Registry.lookup?_name {text : String} {tag : Tag} (reads : Tag.ofText? text = some tag) :
    ((ofTables tables).lookup? tag).map (·.name) =
      lastName? (tables.map fun table => (table.name, table.plan.tag)) text := by
  rw [lastName?_map, lookup?_ofTables]
  refine congrArg (Option.map _) (List.find?_congr fun table listed => ?_)
  have own := spelled table (List.mem_reverse.mp listed)
  refine decide_eq_decide.mpr ⟨?_, ?_⟩
  · rintro rfl
    exact Tag.text_unique own reads
  · rintro rfl
    exact Option.some.inj (own.symm.trans reads)

/-- Different texts spell different tags, so that there is one binding for each text. -/
theorem Registry.size_texts : (ofTables tables).size = (tables.map (·.plan.tag)).toFinset.card := by
  have same : (tables.map (·.tag)).toFinset.image some = (tables.map (·.plan.tag)).toFinset.image Tag.ofText? := by
    have texts : (tables.map (·.tag)).map some = (tables.map (·.plan.tag)).map Tag.ofText? := by
      rw [List.map_map, List.map_map]
      exact List.map_congr_left fun table listed => (spelled table listed).symm
    have sets := congrArg List.toFinset texts
    ext tag
    simpa using Finset.ext_iff.mp sets tag
  have injective : Set.InjOn Tag.ofText? ((tables.map (·.plan.tag)).toFinset : Set String) := by
    intro first listed second _ again
    obtain ⟨table, isTable, rfl⟩ := List.mem_map.mp (List.mem_toFinset.mp listed)
    have own := spelled table isTable
    exact Tag.text_unique own (again.symm.trans own)
  rw [size_ofTables, ← Finset.card_image_of_injective _ (Option.some_injective Tag), same,
    Finset.card_image_of_injOn injective]

end

end Wire

/-! ### Structs of generated code -/

namespace Emit

/-- The code of a struct that has a tag. -/
def Rust.HasTag (code struct tag : String) : Prop :=
  ∃ front back, code = "\n".intercalate (front ++ [s!"impl ks::Table for {struct} \x7b",
    s!"    const TAG: ks::Tag = ks::Tag::new(*b\"{tag}\");"] ++ back)

theorem quote_word {text : String} (word : WordChars text.toList) : Json.quote text = "\"" ++ text ++ "\"" := by
  have plain : ∀ c ∈ text.toList, Json.quotedChar c = [c] := fun c member =>
    wordChar_forall (P := fun c => Json.quotedChar c = [c]) (by decide +kernel) (word c member)
  have itself : text.toList.flatMap Json.quotedChar = text.toList := by
    rw [List.flatMap_congr plain, List.flatMap_singleton']
  rw [Json.quote, Json.quotedChars, itself]
  simp [← String.toList_inj]

theorem Rust.tableCode_hasTag {plan : Plan} {code : String} (coded : tableCode? .rust plan = some code)
    (word : WordChars plan.tag.toList) : HasTag code (typeName plan.table) plan.tag := by
  obtain ⟨lines, generated, rfl⟩ := Option.map_eq_some_iff.mp coded
  obtain ⟨serialize, deserialize, -, -, split⟩ := tableLines?_parts generated
  refine ⟨structLines plan ++ [""],
    [""] ++ lengthLines plan ++ [""] ++ serialize ++ [""] ++ deserialize ++ ["\x7d"], ?_⟩
  have constant : s!"    const TAG: ks::Tag = ks::Tag::new(*b{Json.quote plan.tag});" =
      s!"    const TAG: ks::Tag = ks::Tag::new(*b\"{plan.tag}\");" := by
    rw [quote_word word]
    simp [← String.toList_inj, toString]
  rw [split, constant]
  simp

/-- Every plan has its code among the codes of the declarations. -/
theorem Coded.exists_code {target : Target} {declarations : List Declaration} {plans : List Plan} {codes : List String}
    (coded : Coded target declarations plans codes) {plan : Plan} (planned : plan ∈ plans) :
    ∃ code ∈ codes, tableCode? target plan = some code := by
  induction coded with
  | nil => simp at planned
  | enum decl early ih =>
    obtain ⟨code, listed, made⟩ := ih planned
    exact ⟨code, List.mem_append_left _ listed, made⟩
  | table early name tag made ih =>
    rcases List.mem_append.mp planned with before | last
    · obtain ⟨code, listed, made⟩ := ih before
      exact ⟨code, List.mem_append_left _ listed, made⟩
    · obtain rfl := List.mem_singleton.mp last
      exact ⟨_, List.mem_append_right _ (List.mem_singleton_self _), made⟩

/-- A call registers one struct only. -/
theorem Rust.Registers.unique {first second call : String} (registers : Registers first call)
    (again : Registers second call) : first = second := by
  have spelled : ∀ struct, Registers struct call → call = s!"    registry.register::<{struct}>();" := by
    rintro struct ⟨⟩
    rfl
  have same := (spelled first registers).symm.trans (spelled second again)
  exact (String.append_right_inj _).mp ((String.append_left_inj _).mp same)

end Emit

namespace Wire

/-- The table that a struct of generated Rust stands for. -/
def Catalog.struct? (catalog : Catalog) (name : String) : Option Table :=
  catalog.tables.find? (typeName ·.name == name)

/-- A struct of generated code that stands for a table and has the tag of that table. -/
structure Catalog.Binds (catalog : Catalog) (codes : List String) (struct : String) (table : Table) : Prop where
  stands : catalog.struct? struct = some table
  tagged : ∃ code ∈ codes, ∃ tag, Rust.HasTag code struct tag ∧ Tag.ofText? tag = some table.tag

/-- Calls that register structs of generated code in a registry, one after the other. -/
inductive Catalog.Runs (catalog : Catalog) (codes : List String) : List String → Registry → Registry → Prop
  | done {registry : Registry} : Runs catalog codes [] registry registry
  | call {struct call : String} {calls : List String} {table : Table} {registry later : Registry}
      (registers : Rust.Registers struct call) (binds : catalog.Binds codes struct table)
      (rest : Runs catalog codes calls (registry.register table) later) :
      Runs catalog codes (call :: calls) registry later

namespace Catalog
variable {catalog : Catalog} {codes calls : List String}

/-- Calls leave one registry behind. -/
theorem Runs.unique {registry first second : Registry} (runs : catalog.Runs codes calls registry first)
    (again : catalog.Runs codes calls registry second) : first = second := by
  induction runs with
  | done =>
    cases again
    rfl
  | call registers binds rest ih =>
    cases again with
    | call registersToo bindsToo restToo =>
      obtain rfl := registers.unique registersToo
      obtain rfl := Option.some.inj (binds.stands.symm.trans bindsToo.stands)
      exact ih restToo

/-- Calls for some structs register the tables that the structs stand for, in their order. -/
theorem runs_foldl {structs : List String} {tables : List Table}
    (each : List.Forall₂ Rust.Registers structs calls) (binds : List.Forall₂ (catalog.Binds codes) structs tables)
    (registry : Registry) : catalog.Runs codes calls registry (tables.foldl Registry.register registry) := by
  induction each generalizing tables registry with
  | nil =>
    cases binds
    exact .done
  | cons registers each ih =>
    cases binds with
    | cons first rest => exact .call registers first (ih rest _)

theorem runs_iff {structs : List String} {tables : List Table} (each : List.Forall₂ Rust.Registers structs calls)
    (binds : List.Forall₂ (catalog.Binds codes) structs tables) (registry : Registry) :
    catalog.Runs codes calls .empty registry ↔ registry = .ofTables tables := by
  have runs := runs_foldl each binds .empty
  refine ⟨fun again => again.unique runs, ?_⟩
  rintro rfl
  exact runs

/-- A table of a compilation has the tag that its plan spells. -/
theorem tag_of_mem {compilation : Compilation} {table : Table} (listed : table ∈ (ofCompilation compilation).tables) :
    Tag.ofText? table.plan.tag = some table.tag := by
  obtain ⟨plan, -, picked⟩ := List.mem_filterMap.mp listed
  obtain ⟨tag, spelled, rfl⟩ := Option.map_eq_some_iff.mp picked
  exact spelled

end Catalog

/-- What tags stand for in a compilation and in a registry: the same tables, each the last one to declare its tag. -/
structure BindingsAgree (compilation : Compilation) (registry : Registry) : Prop where
  same : ∀ text tag, Tag.ofText? text = some tag → compilation.tableFor? text = (registry.lookup? tag).map (·.name)
  tables : ∀ text tag, Tag.ofText? text = some tag → ∀ table ∈ (Catalog.ofCompilation compilation).tables,
    (registry.lookup? tag = some table ↔ compilation.tableFor? text = some table.name) ∧
      (compilation.tableFor? text = some table.name ↔ DeclaresLast compilation.declarations text table.name)
  known : ∀ tag table, registry.lookup? tag = some table →
    table ∈ (Catalog.ofCompilation compilation).tables ∧ ∃ text, Tag.ofText? text = some tag
  size : registry.size = (compilation.plans.map (·.tag)).toFinset.card

section
variable {session : Session} (sound : session.Sound)
include sound

theorem table_of_plan {plan : Plan} (planned : plan ∈ session.plans) :
    ∃ decl, .table decl ∈ session.declarations ∧ decl.tag = plan.tag := by
  have pair : (plan.table, plan.tag) ∈
      (Declaration.tables session.declarations).map fun decl => (decl.name, decl.tag) := by
    rw [← sound.planned]
    exact List.mem_map_of_mem planned
  obtain ⟨decl, isTable, same⟩ := List.mem_map.mp pair
  obtain ⟨declaration, declared, picked⟩ := List.mem_filterMap.mp isTable
  cases declaration with
  | enum other => exact nomatch picked
  | table other =>
    obtain rfl := Option.some.inj picked
    exact ⟨other, declared, (Prod.mk.inj same).2⟩

variable (tagged : ∀ decl, .table decl ∈ session.declarations → decl.tag.utf8ByteSize = tagLength)
include tagged

/-- Every plan becomes a table, since its tag has four bytes. -/
theorem plans_of_tables : (Catalog.ofCompilation session.finish).tables.map (·.plan) = session.plans := by
  have every : List.Forall₂ (fun plan table => plan = table.plan) session.plans
      (Catalog.ofCompilation session.finish).tables := by
    refine forall₂_filterMap fun plan planned => ?_
    obtain ⟨decl, declared, same⟩ := table_of_plan sound planned
    obtain ⟨tag, spelled⟩ := Tag.ofText?_of_size (tagged decl declared)
    rw [same] at spelled
    exact ⟨⟨plan, tag⟩, by rw [spelled]; rfl, rfl⟩
  have same := map_eq_of_forall₂ every
  rwa [List.map_id', eq_comm] at same

theorem structs_of_plans : session.plans.map (typeName ·.table) =
    (Catalog.ofCompilation session.finish).tables.map (typeName ·.name) := by
  rw [← plans_of_tables sound tagged, List.map_map]
  rfl

/-- Tables stand for different structs if all names of types are different. -/
theorem distinct_structs (distinct : (session.declarations.map (typeName ·.name)).Nodup) :
    ((Catalog.ofCompilation session.finish).tables.map (typeName ·.name)).Nodup := by
  have names := (sublist_plans sound).map typeName
  rw [List.map_map, List.map_map] at names
  rw [← structs_of_plans sound tagged]
  exact distinct.sublist names

/-- Structs of all plans, in their order, stand for the tables of the catalog and have their tags. -/
theorem binds_of_plans (distinct : (session.declarations.map (typeName ·.name)).Nodup)
    (words : ∀ declaration ∈ session.declarations, ∀ word ∈ declaration.words, WordChars word.toList)
    {codes : List String} (coded : Coded .rust session.declarations session.plans codes) :
    List.Forall₂ ((Catalog.ofCompilation session.finish).Binds codes) (session.plans.map (typeName ·.table))
      (Catalog.ofCompilation session.finish).tables := by
  rw [structs_of_plans sound tagged, List.forall₂_map_left_iff, List.forall₂_same]
  intro table listed
  have planned : table.plan ∈ session.plans := by
    rw [← plans_of_tables sound tagged]
    exact List.mem_map_of_mem listed
  obtain ⟨code, isCode, made⟩ := coded.exists_code planned
  obtain ⟨decl, declared, same⟩ := table_of_plan sound planned
  have word : WordChars table.plan.tag.toList :=
    words _ declared _ (by rw [← same]; simp [Declaration.words])
  exact ⟨find?_name (distinct_structs sound tagged distinct) listed, code, isCode, _,
    Rust.tableCode_hasTag made word, Catalog.tag_of_mem listed⟩

/-- A session for Rust and the registry of its tables agree on all tags. -/
theorem bindings_agree {options : Options} {items : List (Except Diagnostic Declaration)}
    (ran : (Session.start options).addAll items = .ok session) :
    BindingsAgree session.finish (.ofTables (Catalog.ofCompilation session.finish).tables) := by
  have spelled : ∀ table ∈ (Catalog.ofCompilation session.finish).tables,
      Tag.ofText? table.plan.tag = some table.tag := fun table => Catalog.tag_of_mem
  have plans := (plans_of_tables sound tagged).symm
  have names := distinct_tables sound
  generalize catalog : Catalog.ofCompilation session.finish = types at spelled plans names ⊢
  have same : ∀ text tag, Tag.ofText? text = some tag →
      session.finish.tableFor? text = ((Registry.ofTables types.tables).lookup? tag).map (·.name) := by
    intro text tag reads
    have pairs := sound.planned
    rw [plans, List.map_map] at pairs
    rw [Registry.lookup?_name spelled reads]
    exact (Session.addAll_tags ran text).trans (congrArg (lastName? · text) pairs.symm)
  have known : ∀ tag table, (Registry.ofTables types.tables).lookup? tag = some table →
      table ∈ types.tables ∧ table.tag = tag := by
    intro tag table bound
    refine ⟨?_, Registry.ownTags_ofTables _ tag table bound⟩
    rw [Registry.lookup?_ofTables] at bound
    exact List.mem_reverse.mp (List.mem_of_find?_eq_some bound)
  constructor
  case same => exact same
  case tables =>
    intro text tag reads table listed
    rw [catalog] at listed
    refine ⟨⟨fun bound => ?_, fun found => ?_⟩, ?_⟩
    · rw [same text tag reads, bound]
      rfl
    · rw [same text tag reads] at found
      obtain ⟨other, bound, sameName⟩ := Option.map_eq_some_iff.mp found
      have one := List.inj_on_of_nodup_map names (known tag other bound).1 listed sameName
      rw [bound, one]
    · rw [declaresLast_iff]
      exact Eq.congr_left (Session.addAll_tags ran text)
  case known =>
    intro tag table bound
    obtain ⟨listed, rfl⟩ := known tag table bound
    exact ⟨catalog ▸ listed, _, spelled table listed⟩
  case size =>
    change _ = (session.plans.map (·.tag)).toFinset.card
    rw [Registry.size_texts spelled, plans, List.map_map]
    rfl

end

/-- The output for a schema that is closed by calls to register its structs, in the order in which the tables are
declared, and the registry that these calls fill. -/
structure Registration (options : Options) (compilation : Compilation) (codes calls : List String)
    (registry : Registry) : Prop where
  coded : Coded .rust compilation.declarations compilation.plans codes
  output : ∃ lines, Rust.RegisterTables (compilation.plans.map (typeName ·.table)) calls lines ∧
    compilation.output =
      "\n\n".intercalate ((Emitter.new options).prelude :: codes ++ ["\n".intercalate lines]) ++ "\n"
  declared : compilation.plans.map (·.table) = (Declaration.tables compilation.declarations).map (·.name)
  tables : (Catalog.ofCompilation compilation).tables.map (·.plan) = compilation.plans
  binds : List.Forall₂ ((Catalog.ofCompilation compilation).Binds codes) (compilation.plans.map (typeName ·.table))
    (Catalog.ofCompilation compilation).tables
  runs : ∀ other, (Catalog.ofCompilation compilation).Runs codes calls .empty other ↔ other = registry

/-- Generated Rust registers the tables of a schema in the order in which they are declared. The registry that this
fills and the compilation agree on what every tag stands for: the last table that declares it. -/
theorem compile_bindings (text : String) (path : Option String) (compilation : Compilation)
    (compiled : compile text ⟨.rust, path⟩ = .ok compilation) :
    ∃ codes calls registry, Registration ⟨.rust, path⟩ compilation codes calls registry ∧
      BindingsAgree compilation registry := by
  obtain ⟨session, ran, rfl⟩ := map_ok_iff.mp compiled
  have sound := (Session.Sound.start rfl).addAll ran
  have tagged := Session.addAll_tag ran
  have coding := (Session.Codes.start ⟨.rust, path⟩).addAll ran
  obtain ⟨codes, chunks, coded⟩ := coding.coded
  obtain ⟨script, -, matched⟩ := Session.exists_matches none ran
  have distinct : (session.declarations.map (typeName ·.name)).Nodup := matched.declarations ▸ matched.named.types
  have binds := binds_of_plans sound tagged distinct (Session.addAll_words ran) coded
  obtain ⟨calls, registers⟩ := Rust.exists_registerTables (session.plans.map (typeName ·.table))
  refine ⟨codes, calls, .ofTables (Catalog.ofCompilation session.finish).tables, ?_, bindings_agree sound tagged ran⟩
  constructor
  case coded => exact coded
  case output => exact ⟨_, registers, coding.output chunks⟩
  case declared => exact names_of_plans sound
  case tables => exact plans_of_tables sound tagged
  case binds => exact binds
  case runs => exact Catalog.runs_iff registers.each binds

/-- Of two tables with one tag, the second is what the tag stands for, in the registry as well. -/
theorem shared_tag_bindings : ∃ compilation codes registry,
    compile "table a_b: SAME \x7b \x7d table c_d: SAME \x7b \x7d table E: EEEE \x7b \x7d" ⟨.rust, none⟩ =
        .ok compilation ∧
      (Catalog.ofCompilation compilation).Runs codes ["    registry.register::<AB>();",
        "    registry.register::<CD>();", "    registry.register::<E>();"] .empty registry ∧
      compilation.tableFor? "SAME" = some "c_d" ∧
      (registry.lookup? ⟨83, 65, 77, 69⟩).map (·.name) = some "c_d" ∧ registry.size = 2 := by
  have evaluated : (compile "table a_b: SAME \x7b \x7d table c_d: SAME \x7b \x7d table E: EEEE \x7b \x7d"
      ⟨.rust, none⟩).map (fun compilation => (compilation.tableFor? "SAME",
        compilation.plans.map (typeName ·.table), compilation.plans.map (·.tag))) =
      .ok (some "c_d", ["AB", "CD", "E"], ["SAME", "SAME", "EEEE"]) := by decide +kernel
  obtain ⟨compilation, compiled, facts⟩ := map_ok_iff.mp evaluated
  rw [Prod.mk.injEq, Prod.mk.injEq] at facts
  obtain ⟨bound, names, tags⟩ := facts
  obtain ⟨codes, calls, registry, registration, agree⟩ := compile_bindings _ none compilation compiled
  obtain ⟨lines, ⟨each, -⟩, -⟩ := registration.output
  rw [names] at each
  -- One call for each of the three structs.
  obtain _ | ⟨⟨⟩, _ | ⟨⟨⟩, _ | ⟨⟨⟩, ⟨⟩⟩⟩⟩ := each
  refine ⟨compilation, codes, registry, compiled, (registration.runs registry).mpr rfl, bound, ?_, ?_⟩
  · rw [← agree.same "SAME" ⟨83, 65, 77, 69⟩ (by decide +kernel), bound]
  · rw [agree.size, tags]
    rfl

end Wire
end TableWire
