import Mathlib
import TableWire.Proofs.Targets

/-!
Sessions that go on after failures. Declarations are handed over one by one (`Session.addEach`), and of every step the
outcome is kept (`Session.Step`). A step that fails may leave names behind, but no code, no plan and no declaration
(`Session.Adds.refused`). So what a session yields comes from the steps that succeeded, and from all of these
(`Session.Yields`).
-/
namespace TableWire
open Schema Layout Emit

namespace Emit

/-! ### Code that is refused -/

/-- An enum that Rust refuses is not registered, and what it is refused for is a name. -/
theorem Rust.Emitter.emitEnum_refused {emitter later : Emitter} {decl : EnumDecl} {diagnostic : Diagnostic}
    (refused : emitter.emitEnum decl = (later, .error diagnostic)) :
    later.tables = emitter.tables ∧ diagnostic.isNaming := by
  rw [emitEnum] at refused
  rcases claims_cases emitter.types decl.name (.enum decl.name) typeName decl.values with
    ⟨types, schema, -, values, -⟩ | ⟨types, why, naming, -, schema | ⟨schema, values⟩⟩
  · simp [schema, values] at refused
  · simp only [schema, Prod.mk.injEq, Except.error.injEq] at refused
    obtain ⟨rfl, rfl⟩ := refused
    exact ⟨rfl, naming⟩
  · simp only [schema, values, Prod.mk.injEq, Except.error.injEq] at refused
    obtain ⟨rfl, rfl⟩ := refused
    exact ⟨rfl, naming⟩

/-- A table that Rust refuses is not registered either. -/
theorem Rust.Emitter.emitTable_refused {emitter later : Emitter} {plan : Plan} {diagnostic : Diagnostic}
    (computed : plan.Computed) (refused : emitter.emitTable plan = (later, .error diagnostic)) :
    later.tables = emitter.tables ∧ diagnostic.isNaming := by
  rw [emitTable] at refused
  rcases claims_cases emitter.types plan.table (.table plan.table) fieldName (plan.members.map (·.name)) with
    ⟨types, schema, -, fields, nameable⟩ | ⟨types, why, naming, -, schema | ⟨schema, fields⟩⟩
  · -- With all names taken there is code, so that nothing is left to fail once the table is registered.
    obtain ⟨lines, generated⟩ := (computed.faultless nameable.distinct.of_map).tableLines
    simp [schema, fields, generated] at refused
  · simp only [schema, Prod.mk.injEq, Except.error.injEq] at refused
    obtain ⟨rfl, rfl⟩ := refused
    exact ⟨rfl, naming⟩
  · simp only [schema, fields, Prod.mk.injEq, Except.error.injEq] at refused
    obtain ⟨rfl, rfl⟩ := refused
    exact ⟨rfl, naming⟩

namespace Emits
variable {target : Target} {plans : List Plan} {emitter later : Emitter} {diagnostic : Diagnostic}
  (emits : Emits target plans emitter)
include emits

theorem enum_refused {decl : EnumDecl} (refused : emitter.emitEnum decl = (later, .error diagnostic)) :
    Emits target plans later ∧ target = .rust ∧ diagnostic.isNaming := by
  cases emits with
  | @rust _ emitter tables =>
    cases written : emitter.emitEnum decl with
    | mk next outcome =>
      simp only [Emitter.emitEnum, written, Prod.mk.injEq] at refused
      obtain ⟨rfl, rfl⟩ := refused
      obtain ⟨same, naming⟩ := Rust.Emitter.emitEnum_refused written
      exact ⟨.rust (same.trans tables), rfl, naming⟩
  | typeScript => simp [Emitter.emitEnum] at refused

theorem table_refused {name tag : String} {members : List Member}
    (refused : emitter.emitTable (.compute name tag members) = (later, .error diagnostic)) :
    Emits target plans later ∧ target = .rust ∧ diagnostic.isNaming := by
  have computed : (Plan.compute name tag members).Computed := rfl
  cases emits with
  | @rust _ emitter tables =>
    cases written : emitter.emitTable (.compute name tag members) with
    | mk next outcome =>
      simp only [Emitter.emitTable, written, Prod.mk.injEq] at refused
      obtain ⟨rfl, rfl⟩ := refused
      obtain ⟨same, naming⟩ := Rust.Emitter.emitTable_refused computed written
      exact ⟨.rust (same.trans tables), rfl, naming⟩
  | typeScript => simp [Emitter.emitTable] at refused

end Emits

theorem Coded.length {target : Target} {declarations : List Declaration} {plans : List Plan} {codes : List String}
    (coded : Coded target declarations plans codes) : codes.length = declarations.length := by
  induction coded with
  | nil => rfl
  | enum decl early ih => simp [ih]
  | table early name tag code? ih => simp [ih]

end Emit

/-- A plan for a table: it has the table's name and tag, and is laid out for members named as the fields, in their
order. -/
structure Layout.Plan.IsFor (decl : TableDecl) (plan : Plan) : Prop where
  table : plan.table = decl.name
  tag : plan.tag = decl.tag
  fields : plan.members.map (·.name) = decl.fields.map (·.name)
  computed : plan.Computed

namespace Session

/-! ### Steps that fail -/

section
variable {options : Options} {session later : Session} {declaration : Declaration} {diagnostic : Diagnostic}

/-- A step that fails leaves alone what the session will yield, and the emitter registers nothing in it. -/
theorem Adds.refused (coding : session.Codes options) (step : session.Adds declaration later (.error diagnostic)) :
    later.declarations = session.declarations ∧ later.plans = session.plans ∧ later.chunks = session.chunks ∧
      later.Codes options := by
  refine ⟨by cases step <;> rfl, by cases step <;> rfl, by cases step <;> rfl, ?_⟩
  obtain ⟨emits, coded⟩ := coding
  cases step with
  | overflow many => exact ⟨emits, coded⟩
  | unnamedEnum numbered emitted => exact ⟨(emits.enum_refused emitted).1, coded⟩
  | unresolved failed => exact ⟨emits, coded⟩
  | unnamedTable resolved emitted => exact ⟨(emits.table_refused emitted).1, coded⟩

theorem Adds.codes {outcome : Except Diagnostic Unit} (coding : session.Codes options)
    (step : session.Adds declaration later outcome) : later.Codes options := by
  cases outcome with
  | error diagnostic => exact (step.refused coding).2.2.2
  | ok done => exact coding.add step.eq

end

/-! ### Histories -/

/-- A declaration that was handed to a session, and what came of it. -/
structure Step where
  declaration : Declaration
  outcome : Except Diagnostic Unit

/-- Hands declarations to a session one by one, also after failures. -/
def addEach (session : Session) : List Declaration → Session × List Step
  | [] => (session, [])
  | declaration :: more =>
    let (later, outcome) := session.add declaration
    let (final, steps) := later.addEach more
    (final, ⟨declaration, outcome⟩ :: steps)

/-- What the steps that succeeded have declared. -/
def succeeded (steps : List Step) : List Declaration :=
  (steps.filter (·.outcome.isOk)).map (·.declaration)

theorem addEach_cons {session later : Session} {declaration : Declaration} {outcome : Except Diagnostic Unit}
    (step : session.Adds declaration later outcome) (more : List Declaration) :
    session.addEach (declaration :: more) =
      ((later.addEach more).1, ⟨declaration, outcome⟩ :: (later.addEach more).2) := by
  rw [addEach, step.eq]

theorem addEach_declarations (session : Session) (declarations : List Declaration) :
    (session.addEach declarations).2.map (·.declaration) = declarations := by
  induction declarations generalizing session with
  | nil => rfl
  | cons declaration more ih => rw [addEach_cons (session.adds declaration), List.map_cons, ih]

/-- What holds before all steps, and is kept by each of them, holds after all of them. -/
theorem addEach_keeps (Keeps : List Step → Session → Prop)
    (keeps : ∀ {steps : List Step} {session later : Session} {declaration : Declaration}
      {outcome : Except Diagnostic Unit}, Keeps steps session → session.Adds declaration later outcome →
        Keeps (steps ++ [⟨declaration, outcome⟩]) later)
    {session : Session} (kept : Keeps [] session) (declarations : List Declaration) :
    Keeps (session.addEach declarations).2 (session.addEach declarations).1 := by
  -- Steps that have been made already stay in front of those that follow.
  have behind : ∀ earlier session, Keeps earlier session →
      Keeps (earlier ++ (session.addEach declarations).2) (session.addEach declarations).1 := by
    induction declarations with
    | nil =>
      intro earlier session kept
      rwa [addEach, List.append_nil]
    | cons declaration more ih =>
      intro earlier session kept
      have step := session.adds declaration
      have further := ih _ _ (keeps kept step)
      rwa [List.append_assoc, List.singleton_append] at further
  exact behind [] session kept

theorem succeeded_ok (steps : List Step) (declaration : Declaration) :
    succeeded (steps ++ [⟨declaration, .ok ()⟩]) = succeeded steps ++ [declaration] := by
  simp [succeeded, Except.isOk, Except.toBool]

theorem succeeded_error (steps : List Step) (declaration : Declaration) (diagnostic : Diagnostic) :
    succeeded (steps ++ [⟨declaration, .error diagnostic⟩]) = succeeded steps := by
  simp [succeeded, Except.isOk, Except.toBool]

/-- A session that has recorded the successes among its steps. -/
structure Records (options : Options) (steps : List Step) (session : Session) : Prop where
  declarations : session.declarations = succeeded steps
  planned : List.Forall₂ Plan.IsFor (Declaration.tables session.declarations) session.plans
  codes : session.Codes options

theorem Records.add {options : Options} {steps : List Step} {session later : Session} {declaration : Declaration}
    {outcome : Except Diagnostic Unit} (records : session.Records options steps)
    (step : session.Adds declaration later outcome) : later.Records options (steps ++ [⟨declaration, outcome⟩]) := by
  have codes := step.codes records.codes
  cases outcome with
  | error diagnostic =>
    obtain ⟨declarations, plans, -, -⟩ := step.refused records.codes
    refine ⟨?_, ?_, codes⟩
    · rw [declarations, records.declarations, succeeded_error]
    · rw [declarations, plans]
      exact records.planned
  | ok done =>
    refine ⟨?_, ?_, codes⟩
    · rw [add_declarations step.eq, records.declarations, succeeded_ok]
    · cases step with
      | enum numbered emitted =>
        rw [Declaration.tables_enum]
        exact records.planned
      | @table decl members _ _ resolved emitted =>
        have isFor : (Plan.compute decl.name decl.tag members).IsFor decl := ⟨rfl, rfl, resolve_names resolved, rfl⟩
        rw [Declaration.tables_table]
        exact List.rel_append records.planned (.cons isFor .nil)

theorem addEach_records (options : Options) (declarations : List Declaration) :
    ((start options).addEach declarations).1.Records options ((start options).addEach declarations).2 :=
  addEach_keeps (fun steps session => session.Records options steps) Records.add
    ⟨rfl, .nil, Codes.start options⟩ declarations

/-! ### What a session yields -/

/-- The result of a session that has compiled some declarations, for some options. Its output is the prelude, the code
of each declaration and, for Rust, a function that registers the structs of all tables. -/
structure Yields (options : Options) (compiled : List Declaration) (compilation : Compilation) : Prop where
  declarations : compilation.declarations = compiled
  plans : List.Forall₂ Plan.IsFor (Declaration.tables compiled) compilation.plans
  output : ∃ codes last, Coded options.target compiled compilation.plans codes ∧ codes.length = compiled.length ∧
    Closes options.target ((Declaration.tables compiled).map (typeName ·.name)) last ∧
    compilation.output = "\n\n".intercalate ((Emitter.new options).prelude :: codes ++ last) ++ "\n"

theorem Records.yields {options : Options} {steps : List Step} {session : Session}
    (records : session.Records options steps) : Yields options (succeeded steps) session.finish := by
  obtain ⟨declarations, planned, coding⟩ := records
  obtain ⟨codes, chunks, coded⟩ := coding.coded
  rw [declarations] at planned coded
  have structs : (Declaration.tables (succeeded steps)).map (typeName ·.name) = session.plans.map (typeName ·.table) :=
    map_eq_of_forall₂ (planned.imp fun decl plan isFor => congrArg typeName isFor.table.symm)
  exact ⟨declarations, planned, codes, _, coded, coded.length, structs ▸ closes options.target session.plans,
    coding.output chunks⟩

end Session

/-- A session that goes on after failures yields exactly what its successful steps have made: their declarations, a plan
for each of their tables and the code of both, in the order of the steps. After any steps, one more step that fails
changes nothing of this. -/
theorem Session.addEach_yields (options : Options) (declarations : List Declaration) :
    ∃ final steps, (start options).addEach declarations = (final, steps) ∧
      steps.map (·.declaration) = declarations ∧ Yields options (succeeded steps) final.finish ∧
      ∀ declaration later diagnostic, final.add declaration = (later, .error diagnostic) →
        later.finish.output = final.finish.output ∧ later.finish.declarations = final.finish.declarations ∧
          later.finish.plans = final.finish.plans := by
  have records := addEach_records options declarations
  refine ⟨_, _, rfl, addEach_declarations _ declarations, records.yields, ?_⟩
  intro declaration later diagnostic added
  have step := adds_iff.mpr added
  obtain ⟨same, plans, chunks, coding⟩ := step.refused records.codes
  refine ⟨?_, same, plans⟩
  -- The emitter may have changed in the step, but not what it registers at the end.
  rw [finish, finish, chunks, coding.emits.finish?_eq, plans, ← records.codes.emits.finish?_eq]

/-- An enum and a table, behind an enum with too many values, a table with an unknown type, one without a usable name
and one with two fields of the same name. -/
def Session.mixed : List Declaration :=
  [.enum ⟨"Many", 1, 1, .byte, List.replicate 257 "V"⟩, .table ⟨"T", 2, 1, "TTTT", [⟨"n", 2, 11, "Nope", false⟩]⟩,
    .table ⟨"_", 3, 1, "NONE", []⟩,
    .table ⟨"U", 4, 1, "UUUU", [⟨"aB", 4, 11, "byte", false⟩, ⟨"a_b", 4, 21, "byte", false⟩]⟩,
    .enum ⟨"Kind", 5, 1, .byte, ["cat"]⟩, .table ⟨"pet", 6, 1, "PETT", [⟨"kind", 6, 11, "Kind", false⟩]⟩]

/-- Of all these, the enum and the table at the end are compiled. A second table for the same name changes nothing. -/
theorem Session.mixed_yields : ∃ final steps, (start ⟨.rust, none⟩).addEach mixed = (final, steps) ∧
    succeeded steps = mixed.drop 4 ∧ Yields ⟨.rust, none⟩ (mixed.drop 4) final.finish ∧
    (final.add (.table ⟨"Pet", 7, 1, "PETS", []⟩)).1.finish.output = final.finish.output := by
  have compiled : succeeded ((start ⟨.rust, none⟩).addEach mixed).2 = mixed.drop 4 := by decide +kernel
  have failing : (((start ⟨.rust, none⟩).addEach mixed).1.add (.table ⟨"Pet", 7, 1, "PETS", []⟩)).2 =
      .error (.nameCollision .schema "pet" "Pet" "Pet") := by decide +kernel
  obtain ⟨final, steps, ran, -, yields, unchanged⟩ := addEach_yields ⟨.rust, none⟩ mixed
  rw [ran] at compiled failing
  refine ⟨final, steps, ran, compiled, compiled ▸ yields, ?_⟩
  exact (unchanged _ _ _ (Prod.ext rfl failing)).1

end TableWire
