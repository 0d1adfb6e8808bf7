import Mathlib
import TableWire.Proofs.Bindings
import TableWire.Proofs.History
import TableWire.Proofs.Resolution

/-!
What the result of a session refers to. A step puts its declaration into scope and binds its tag before it is known
whether there will be code, and a failure takes neither back (`Session.registered`, `Session.tagged`). So a plan may
name a type, and a tag a table, for which nothing was made. Nothing but such failures (`Session.stale`) leads out of the
result.
-/
namespace TableWire
open Schema Layout Emit

/-- The declared type that a class refers to. -/
def Layout.StorageClass.reference? : StorageClass → Option String
  | .enum name _ _ | .table name | .tableArray name => some name
  | .primitive _ | .bool | .string | .any => none

/-- A result that refers to nothing outside of itself: types of members are declared, and tags lead to tables that have
plans with these tags. -/
structure Compilation.Closed (compilation : Compilation) : Prop where
  types : ∀ plan ∈ compilation.plans, ∀ member ∈ plan.members, ∀ name, member.storage.reference? = some name →
    ∃ declaration ∈ compilation.declarations, declaration.name = name
  tags : ∀ tag name, compilation.tableFor? tag = some name →
    ∃ plan ∈ compilation.plans, plan.table = name ∧ plan.tag = tag

theorem Schema.Declares.exists_name {declarations : List Declaration} {storage : StorageClass} {name : String}
    (declared : Declares declarations storage) (refers : storage.reference? = some name) :
    ∃ declaration ∈ declarations, declaration.name = name := by
  cases storage with
  | enum other repr value =>
    obtain rfl := Option.some.inj refers
    obtain ⟨decl, listed, same, -⟩ := declared
    exact ⟨.enum decl, listed, same⟩
  | table other | tableArray other =>
    obtain rfl := Option.some.inj refers
    obtain ⟨decl, listed, same⟩ := declared
    exact ⟨.table decl, listed, same⟩
  | primitive kind | bool | string | any => exact nomatch refers

/-- What is declared in one of two parts refers to one of them. -/
theorem Schema.Declares.of_subset {all first second : List Declaration} (covered : ∀ declaration ∈ all,
    declaration ∈ first ∨ declaration ∈ second) {storage : StorageClass} (declared : Declares all storage) :
    Declares first storage ∨ Declares second storage := by
  cases storage with
  | enum name repr value | table name | tableArray name =>
    obtain ⟨decl, listed, same⟩ := declared
    exact (covered _ listed).imp (⟨decl, ·, same⟩) (⟨decl, ·, same⟩)
  | primitive kind | bool | string | any => exact .inl trivial

theorem Layout.HasClass.declares {declarations : List Declaration} {field : FieldDecl} {storage : StorageClass}
    (has : HasClass declarations field storage) : Declares declarations storage := by
  cases has with
  | builtin isBuiltin =>
    generalize field.typeName = builtin at isBuiltin
    cases isBuiltin with
    | bool | string | any | int => trivial
  | table _ latest | tableArray _ latest => exact ⟨_, mem_of_latest? latest⟩
  | enum _ latest => exact ⟨_, (mem_of_latest? latest).1, (mem_of_latest? latest).2, rfl⟩

/-- A failure to number the values of an enum. -/
def Schema.Diagnostic.isOverflow : Diagnostic → Bool
  | .enumOverflow .. => true
  | _ => false

/-- What fields fail on is neither a name nor a number of values. -/
theorem Layout.resolve_failure {scope : TypeScope} {table : String} {fields : List FieldDecl} {diagnostic : Diagnostic}
    (failed : fields.mapM (resolve scope table) = .error diagnostic) :
    diagnostic.isOverflow = false ∧ diagnostic.isNaming = false := by
  obtain ⟨_, field, _, -, -, unresolved⟩ := mapM_error_iff.mp failed
  rw [resolve, map_error_iff, classify] at unresolved
  split at unresolved
  · split_ifs at unresolved
    obtain rfl := Except.error.inj unresolved
    exact ⟨rfl, rfl⟩
  · split at unresolved
    · obtain rfl := Except.error.inj unresolved
      exact ⟨rfl, rfl⟩
    · split_ifs at unresolved
      · obtain rfl := Except.error.inj unresolved
        exact ⟨rfl, rfl⟩
      · split at unresolved
        · obtain rfl := Except.error.inj unresolved
          exact ⟨rfl, rfl⟩
        · simp at unresolved
    · simp at unresolved

namespace Session

/-- A step that put its declaration into scope. It may have failed later. -/
def Step.registers (step : Step) : Bool :=
  match step.outcome with
  | .ok () => true
  | .error diagnostic => !diagnostic.isOverflow

/-- A step that came as far as to code, and there succeeded or failed on a name. -/
def Step.reachesCode (step : Step) : Bool :=
  match step.outcome with
  | .ok () => true
  | .error diagnostic => diagnostic.isNaming

/-- All that steps have put into scope. -/
def registered (steps : List Step) : List Declaration :=
  (steps.filter (·.registers)).map (·.declaration)

/-- What steps have put into scope before they failed. -/
def stale (steps : List Step) : List Declaration :=
  (steps.filter fun step => step.registers && !step.outcome.isOk).map (·.declaration)

/-- The tables whose tags steps have bound. -/
def tagged (steps : List Step) : List TableDecl :=
  Declaration.tables ((steps.filter (·.reachesCode)).map (·.declaration))

theorem mem_succeeded {steps : List Step} {step : Step} (listed : step ∈ steps) (succeeds : step.outcome.isOk) :
    step.declaration ∈ succeeded steps :=
  List.mem_map_of_mem (List.mem_filter.mpr ⟨listed, succeeds⟩)

theorem mem_stale {steps : List Step} {step : Step} (listed : step ∈ steps) (registers : step.registers)
    (fails : step.outcome.isOk = false) : step.declaration ∈ stale steps :=
  List.mem_map_of_mem (List.mem_filter.mpr ⟨listed, by simp [registers, fails]⟩)

theorem mem_registered {steps : List Step} {declaration : Declaration} (listed : declaration ∈ registered steps) :
    declaration ∈ succeeded steps ∨ declaration ∈ stale steps := by
  obtain ⟨step, found, rfl⟩ := List.mem_map.mp listed
  obtain ⟨isStep, registers⟩ := List.mem_filter.mp found
  cases succeeds : step.outcome.isOk with
  | true => exact .inl (mem_succeeded isStep succeeds)
  | false => exact .inr (mem_stale isStep registers succeeds)

theorem registered_append {step : Step} (registers : step.registers) (steps : List Step) :
    registered (steps ++ [step]) = registered steps ++ [step.declaration] := by
  simp [registered, registers]

theorem tagged_append {decl : TableDecl} {outcome : Except Diagnostic Unit}
    (reaches : (Step.mk (.table decl) outcome).reachesCode) (steps : List Step) :
    tagged (steps ++ [⟨.table decl, outcome⟩]) = tagged steps ++ [decl] := by
  simp [tagged, reaches, Declaration.tables]

theorem tagged_enum (steps : List Step) (decl : EnumDecl) (outcome : Except Diagnostic Unit) :
    tagged (steps ++ [⟨.enum decl, outcome⟩]) = tagged steps := by
  cases reaches : (Step.mk (.enum decl) outcome).reachesCode <;> simp [tagged, reaches, Declaration.tables]

theorem mem_tagged {steps : List Step} {decl : TableDecl} (listed : decl ∈ tagged steps) :
    ∃ outcome, ⟨.table decl, outcome⟩ ∈ steps ∧ (Step.mk (.table decl) outcome).reachesCode := by
  obtain ⟨declaration, declared, isTable⟩ := List.mem_filterMap.mp listed
  obtain ⟨⟨same, outcome⟩, found, rfl⟩ := List.mem_map.mp declared
  obtain ⟨isStep, reaches⟩ := List.mem_filter.mp found
  cases same with
  | enum other => exact nomatch isTable
  | table other =>
    obtain rfl := Option.some.inj isTable
    exact ⟨outcome, isStep, reaches⟩

/-- A plan of a table that was handed over in one of some steps. Members have their classes by all that had been put
into scope in the steps before. -/
def Planned (steps : List Step) (plan : Plan) : Prop :=
  ∃ before decl after, steps = before ++ ⟨.table decl, .ok ()⟩ :: after ∧ plan.IsFor decl ∧
    Typed (registered before ++ [.table decl]) decl.fields plan.members

theorem Planned.append {steps : List Step} {plan : Plan} (planned : Planned steps plan) (step : Step) :
    Planned (steps ++ [step]) plan := by
  obtain ⟨before, decl, after, rfl, isFor, typed⟩ := planned
  exact ⟨before, decl, after ++ [step], by simp, isFor, typed⟩

/-! ### What a step leaves behind -/

theorem Step.registers_of_naming {declaration : Declaration} {diagnostic : Diagnostic}
    (naming : diagnostic.isNaming) : (Step.mk declaration (.error diagnostic)).registers := by
  cases diagnostic with
  | nameCollision | invalidIdentifier => rfl
  | _ => exact nomatch naming

section
variable {options : Options} {steps : List Step} {session later : Session} {declaration : Declaration}
  {outcome : Except Diagnostic Unit} (coding : session.Codes options)
  (known : session.types.Latest (registered steps)) (step : session.Adds declaration later outcome)
include coding known step

/-- A step either fails at once, on too many values, or puts its declaration into scope. -/
theorem Adds.latest : later.types.Latest (registered (steps ++ [⟨declaration, outcome⟩])) := by
  cases step with
  | @overflow decl many =>
    have same : registered (steps ++
        [⟨.enum decl, .error (.enumOverflow decl.name decl.values.length decl.repr)⟩]) = registered steps := by
      simp [registered, Step.registers, Diagnostic.isOverflow]
    rwa [same]
  | @unnamedEnum decl _ diagnostic numbered emitted =>
    rw [registered_append (Step.registers_of_naming (coding.emits.enum_refused emitted).2.2)]
    exact known.declare (.enum decl)
  | @enum decl _ _ numbered emitted =>
    rw [registered_append rfl]
    exact known.declare (.enum decl)
  | @unresolved decl _ failed =>
    rw [registered_append (by simp [Step.registers, resolve_failure failed])]
    exact known.declare (.table decl)
  | @unnamedTable decl _ _ _ resolved emitted =>
    rw [registered_append (Step.registers_of_naming (coding.emits.table_refused emitted).2.2)]
    exact known.declare (.table decl)
  | @table decl _ _ _ resolved emitted =>
    rw [registered_append rfl]
    exact known.declare (.table decl)

omit known in
/-- A table whose fields are resolved binds its tag, whether there will be code for it or not. -/
theorem Adds.tags_eq {tag : String}
    (bound : session.tags[tag]? = lastName? ((tagged steps).map fun decl => (decl.name, decl.tag)) tag) :
    later.tags[tag]? =
      lastName? ((tagged (steps ++ [⟨declaration, outcome⟩])).map fun decl => (decl.name, decl.tag)) tag := by
  cases step with
  | overflow many | unnamedEnum numbered emitted | enum numbered emitted => rwa [tagged_enum]
  | @unresolved decl diagnostic failed =>
    have same : tagged (steps ++ [⟨.table decl, .error diagnostic⟩]) = tagged steps := by
      simp [tagged, Step.reachesCode, (resolve_failure failed).2]
    rwa [same]
  | @unnamedTable decl _ _ diagnostic resolved emitted =>
    have reaches : (Step.mk (.table decl) (.error diagnostic)).reachesCode :=
      (coding.emits.table_refused emitted).2.2
    rw [tagged_append reaches, List.map_append, List.map_singleton]
    exact getElem?_insert_lastName? bound _ _
  | table resolved emitted =>
    rw [tagged_append rfl, List.map_append, List.map_singleton]
    exact getElem?_insert_lastName? bound _ _

omit known in
/-- Only code for Rust is refused for names. -/
theorem Adds.target_of_naming {diagnostic : Diagnostic} (failed : outcome = .error diagnostic)
    (naming : diagnostic.isNaming) : options.target = .rust := by
  cases step with
  | overflow many =>
    obtain rfl := Except.error.inj failed
    exact nomatch naming
  | unnamedEnum numbered emitted => exact (coding.emits.enum_refused emitted).2.1
  | enum numbered emitted => exact nomatch failed
  | unresolved unresolved =>
    obtain rfl := Except.error.inj failed
    rw [(resolve_failure unresolved).2] at naming
    exact nomatch naming
  | unnamedTable resolved emitted => exact (coding.emits.table_refused emitted).2.1
  | table resolved emitted => exact nomatch failed

omit coding in
/-- Classes of members come from what is in scope when a plan is made for them. -/
theorem Adds.planned (early : ∀ plan ∈ session.plans, Planned steps plan) :
    ∀ plan ∈ later.plans, Planned (steps ++ [⟨declaration, outcome⟩]) plan := by
  have kept : ∀ plan ∈ session.plans, Planned (steps ++ [⟨declaration, outcome⟩]) plan :=
    fun plan listed => (early plan listed).append _
  cases step with
  | overflow many | unnamedEnum numbered emitted | enum numbered emitted | unresolved failed
  | unnamedTable resolved emitted => exact kept
  | @table decl _ _ _ resolved emitted =>
    intro plan listed
    rcases List.mem_append.mp listed with before | last
    · exact kept plan before
    · obtain rfl := List.mem_singleton.mp last
      have typed := (resolve_typed_iff (known.declare (.table decl))).mp resolved
      exact ⟨steps, decl, [], rfl, ⟨rfl, rfl, resolve_names resolved, rfl⟩, typed⟩

end

/-- A session whose scope and tags come from its steps, those that failed included. -/
structure Tracks (options : Options) (steps : List Step) (session : Session) : Prop where
  records : session.Records options steps
  scope : session.types.Latest (registered steps)
  tags : ∀ tag, session.tags[tag]? = lastName? ((tagged steps).map fun decl => (decl.name, decl.tag)) tag
  planned : ∀ plan ∈ session.plans, Planned steps plan
  naming : ∀ step ∈ steps, ∀ diagnostic, step.outcome = .error diagnostic → diagnostic.isNaming → options.target = .rust

theorem Tracks.add {options : Options} {steps : List Step} {session later : Session} {declaration : Declaration}
    {outcome : Except Diagnostic Unit} (tracks : session.Tracks options steps)
    (step : session.Adds declaration later outcome) : later.Tracks options (steps ++ [⟨declaration, outcome⟩]) where
  records := tracks.records.add step
  scope := Adds.latest tracks.records.codes tracks.scope step
  tags tag := Adds.tags_eq tracks.records.codes step (tracks.tags tag)
  planned := Adds.planned tracks.scope step tracks.planned
  naming := by
    intro other listed diagnostic failed naming
    rcases List.mem_append.mp listed with before | last
    · exact tracks.naming other before diagnostic failed naming
    · obtain rfl := List.mem_singleton.mp last
      exact Adds.target_of_naming tracks.records.codes step failed naming

theorem addEach_tracks (options : Options) (declarations : List Declaration) :
    ((start options).addEach declarations).1.Tracks options ((start options).addEach declarations).2 := by
  refine addEach_keeps (fun steps session => session.Tracks options steps) Tracks.add ?_ declarations
  refine ⟨⟨rfl, .nil, Codes.start options⟩, ?_, ?_, ?_, ?_⟩
  · intro name
    simp [start, TypeScope.empty, TypeScope.lookup?, latest?, registered]
  · intro tag
    simp [start, tagged, lastName?, Declaration.tables]
  · simp [start]
  · simp

/-! ### What a result refers to -/

section
variable {options : Options} {steps : List Step} {session : Session} (tracks : session.Tracks options steps)
include tracks

/-- Types of members are declared, unless the step that put them into scope has failed. -/
theorem Tracks.declared {plan : Plan} (listed : plan ∈ session.plans) :
    ∃ before decl after, steps = before ++ ⟨.table decl, .ok ()⟩ :: after ∧ plan.IsFor decl ∧
      Typed (registered before ++ [.table decl]) decl.fields plan.members ∧
      ∀ member ∈ plan.members,
        Declares session.declarations member.storage ∨ Declares (stale before) member.storage := by
  obtain ⟨before, decl, after, rfl, isFor, typed⟩ := tracks.planned plan listed
  refine ⟨before, decl, after, rfl, isFor, typed, ?_⟩
  intro member isMember
  obtain ⟨i, inside, rfl⟩ := List.getElem_of_mem isMember
  have has := (typed.get (typed.length_eq ▸ inside) inside).2
  refine has.declares.of_subset ?_
  intro declaration isKnown
  rw [tracks.records.declarations]
  rcases List.mem_append.mp isKnown with early | last
  · refine (mem_registered early).imp_left fun compiled => ?_
    rw [succeeded, List.filter_append, List.map_append]
    exact List.mem_append_left _ compiled
  · obtain rfl := List.mem_singleton.mp last
    have isStep : Step.mk (.table decl) (.ok ()) ∈ before ++ ⟨.table decl, .ok ()⟩ :: after := by simp
    exact .inl (mem_succeeded isStep rfl)

/-- Tags lead to tables with plans, unless there was no name for the code of a table. -/
theorem Tracks.tag_planned {tag name : String} (bound : session.tags[tag]? = some name) :
    (∃ plan ∈ session.plans, plan.table = name ∧ plan.tag = tag) ∨
      options.target = .rust ∧ ∃ decl diagnostic, ⟨.table decl, .error diagnostic⟩ ∈ steps ∧ diagnostic.isNaming ∧
        decl.name = name ∧ decl.tag = tag := by
  rw [tracks.tags, lastName?_map, Option.map_eq_some_iff] at bound
  obtain ⟨decl, found, rfl⟩ := bound
  have same : decl.tag = tag := by simpa using List.find?_some found
  obtain ⟨outcome, isStep, reaches⟩ := mem_tagged (List.mem_reverse.mp (List.mem_of_find?_eq_some found))
  cases outcome with
  | error diagnostic =>
    exact .inr ⟨tracks.naming _ isStep diagnostic rfl reaches, decl, diagnostic, isStep, reaches, rfl, same⟩
  | ok done =>
    have compiled : decl ∈ Declaration.tables session.declarations := by
      rw [tracks.records.declarations]
      exact List.mem_filterMap.mpr ⟨.table decl, mem_succeeded isStep rfl, rfl⟩
    obtain ⟨i, inside, rfl⟩ := List.getElem_of_mem compiled
    have also := tracks.records.planned.length_eq ▸ inside
    have isFor := tracks.records.planned.get inside also
    exact .inl ⟨_, List.getElem_mem also, isFor.table, isFor.tag.trans same⟩

/-- With no failures but those of overflowing enums, a result is closed. -/
theorem Tracks.closed (fresh : stale steps = []) : session.finish.Closed where
  types := by
    intro plan listed member isMember name refers
    obtain ⟨before, decl, after, split, -, -, declared⟩ := tracks.declared listed
    rcases declared member isMember with compiled | failed
    · exact compiled.exists_name refers
    · obtain ⟨declaration, isStale, -⟩ := failed.exists_name refers
      rw [split, stale, List.filter_append, List.map_append, List.append_eq_nil_iff] at fresh
      have early : stale before = [] := fresh.1
      rw [early] at isStale
      exact nomatch isStale
  tags := by
    intro tag name bound
    refine (tracks.tag_planned bound).resolve_right ?_
    rintro ⟨-, decl, diagnostic, isStep, naming, -⟩
    have isStale : .table decl ∈ stale steps := mem_stale isStep (Step.registers_of_naming naming) rfl
    rw [fresh] at isStale
    exact nomatch isStale

end

end Session

/-- What a session refers to that goes on after failures. Types of members are found among what the steps up to their
table have put into scope, and are declared in the result or by one of these steps that failed. A tag leads to the last
table that came as far as to code with it, which has a plan unless Rust had no name for it. So the result is closed
unless a step has failed on something other than too many values. -/
theorem Session.addEach_references (options : Options) (declarations : List Declaration) :
    ∃ final steps, (start options).addEach declarations = (final, steps) ∧
      steps.map (·.declaration) = declarations ∧
      (∀ plan ∈ final.finish.plans, ∃ before decl after, steps = before ++ ⟨.table decl, .ok ()⟩ :: after ∧
        plan.IsFor decl ∧ Typed (registered before ++ [.table decl]) decl.fields plan.members ∧
        ∀ member ∈ plan.members,
          Declares final.finish.declarations member.storage ∨ Declares (stale before) member.storage) ∧
      (∀ tag, final.finish.tableFor? tag =
        lastName? ((tagged steps).map fun decl => (decl.name, decl.tag)) tag) ∧
      (∀ tag name, final.finish.tableFor? tag = some name →
        (∃ plan ∈ final.finish.plans, plan.table = name ∧ plan.tag = tag) ∨
          options.target = .rust ∧ ∃ decl diagnostic, ⟨.table decl, .error diagnostic⟩ ∈ steps ∧
            diagnostic.isNaming ∧ decl.name = name ∧ decl.tag = tag) ∧
      (stale steps = [] → final.finish.Closed) := by
  have tracks := addEach_tracks options declarations
  refine ⟨_, _, rfl, addEach_declarations _ declarations, ?_, tracks.tags, ?_, tracks.closed⟩
  · intro plan listed
    exact tracks.declared listed
  · intro tag name bound
    exact tracks.tag_planned bound

/-- An enum with too many values, another one of the same name and a table that uses it. -/
def Session.overflowing : List Declaration :=
  [.enum ⟨"Kind", 1, 6, .byte, List.replicate 257 "V"⟩, .enum ⟨"Kind", 2, 6, .byte, ["cat"]⟩,
    .table ⟨"pet", 3, 7, "PETT", [⟨"kind", 3, 19, "Kind", false⟩]⟩]

/-- The enum that fails leaves nothing behind for the table to refer to. -/
theorem Session.overflowing_closed : ∃ final steps, (start ⟨.rust, none⟩).addEach overflowing = (final, steps) ∧
    steps.map (·.outcome.isOk) = [false, true, true] ∧ final.finish.Closed := by
  have outcomes : ((start ⟨.rust, none⟩).addEach overflowing).2.map (·.outcome.isOk) = [false, true, true] := by
    decide +kernel
  have fresh : stale ((start ⟨.rust, none⟩).addEach overflowing).2 = [] := by decide +kernel
  obtain ⟨final, steps, ran, -, -, -, -, closed⟩ := addEach_references ⟨.rust, none⟩ overflowing
  rw [ran] at outcomes fresh
  exact ⟨final, steps, ran, outcomes, closed fresh⟩

/-- A table without a usable name for its field is what a member of the next table refers to, and what a tag leads to,
but there is neither a declaration nor a plan for it. -/
theorem Session.refused_table_dangles : ∃ compilation, ((start ⟨.rust, none⟩).addEach
      [.table ⟨"A", 1, 7, "AAAA", [⟨"_", 1, 17, "byte", false⟩]⟩,
        .table ⟨"B", 2, 7, "BBBB", [⟨"a", 2, 17, "A", false⟩]⟩]).1.finish = compilation ∧
    (∃ plan ∈ compilation.plans, ∃ member ∈ plan.members, member.storage.reference? = some "A") ∧
    (∀ declaration ∈ compilation.declarations, declaration.name ≠ "A") ∧
    compilation.tableFor? "AAAA" = some "A" ∧ (∀ plan ∈ compilation.plans, plan.table ≠ "A" ∧ plan.tag ≠ "AAAA") ∧
    ¬ compilation.Closed := by
  refine ⟨_, rfl, by decide +kernel, by decide +kernel, by decide +kernel, by decide +kernel, ?_⟩
  intro closed
  obtain ⟨plan, listed, named, -⟩ := closed.tags "AAAA" "A" (by decide +kernel)
  revert plan
  decide +kernel

end TableWire
