import Mathlib
import TableWire.Proofs.Growth
import TableWire.Proofs.Steps

/-!
What the types of fields stand for. A name that is not built in stands for its latest declaration up to the table that
uses it, the table itself included (`latest?`). So a field has a class (`HasClass`) or lacks one for a reason
(`LacksClass`), and declarations that come later have no part in it. The first field without a class in a table that
is reached is what compiling fails on.
-/
namespace TableWire
open Schema Layout Emit

/-- The latest declaration of a name. -/
def Schema.latest? (declarations : List Declaration) (name : String) : Option Declaration :=
  declarations.reverse.find? (·.name = name)

theorem Schema.latest?_append (declarations : List Declaration) (declaration : Declaration) (name : String) :
    latest? (declarations ++ [declaration]) name =
      if declaration.name = name then some declaration else latest? declarations name := by
  rw [latest?, List.reverse_append, List.reverse_singleton, List.singleton_append, List.find?_cons]
  by_cases same : declaration.name = name
  · simp [same]
  · simp [same, latest?]

theorem Schema.mem_of_latest? {declarations : List Declaration} {name : String} {declaration : Declaration}
    (latest : latest? declarations name = some declaration) : declaration ∈ declarations ∧ declaration.name = name := by
  refine ⟨List.mem_reverse.mp (List.mem_of_find?_eq_some latest), ?_⟩
  simpa using List.find?_some latest

namespace Layout

/-- The types that need no declaration, and their classes. -/
inductive Builtin : String → StorageClass → Prop
  | bool : Builtin "bool" .bool
  | string : Builtin "string" .string
  | any : Builtin "any" .any
  | int (kind : IntKind) : Builtin kind.keyword (.primitive kind)

/-- The class of a field whose table is the last of some declarations. -/
inductive HasClass (declarations : List Declaration) (field : FieldDecl) : StorageClass → Prop
  | builtin {storage : StorageClass} (isBuiltin : Builtin field.typeName storage) (single : field.isArray = false) :
      HasClass declarations field storage
  | table {decl : TableDecl} (named : ∀ storage, ¬ Builtin field.typeName storage)
      (latest : latest? declarations field.typeName = some (.table decl)) (single : field.isArray = false) :
      HasClass declarations field (.table field.typeName)
  | tableArray {decl : TableDecl} (named : ∀ storage, ¬ Builtin field.typeName storage)
      (latest : latest? declarations field.typeName = some (.table decl)) (array : field.isArray = true) :
      HasClass declarations field (.tableArray field.typeName)
  | enum {decl : EnumDecl} {first : String} {more : List String} (named : ∀ storage, ¬ Builtin field.typeName storage)
      (latest : latest? declarations field.typeName = some (.enum decl)) (filled : decl.values = first :: more)
      (single : field.isArray = false) : HasClass declarations field (.enum field.typeName decl.repr first)

/-- Why a field has no class when its table is the last of some declarations. -/
inductive LacksClass (declarations : List Declaration) (table : String) (field : FieldDecl) : Diagnostic → Prop
  | builtinArray {storage : StorageClass} (isBuiltin : Builtin field.typeName storage) (array : field.isArray = true) :
      LacksClass declarations table field (.unsupportedArray ⟨table, field.name, field.typeName⟩)
  | unknown (named : ∀ storage, ¬ Builtin field.typeName storage)
      (undeclared : latest? declarations field.typeName = none) :
      LacksClass declarations table field (.unknownType ⟨table, field.name, field.typeName⟩)
  | enumArray {decl : EnumDecl} (named : ∀ storage, ¬ Builtin field.typeName storage)
      (latest : latest? declarations field.typeName = some (.enum decl)) (array : field.isArray = true) :
      LacksClass declarations table field (.unsupportedArray ⟨table, field.name, field.typeName⟩)
  | emptyEnum {decl : EnumDecl} (named : ∀ storage, ¬ Builtin field.typeName storage)
      (latest : latest? declarations field.typeName = some (.enum decl)) (empty : decl.values = [])
      (single : field.isArray = false) :
      LacksClass declarations table field (.emptyEnumField ⟨table, field.name, field.typeName⟩)

/-- The members that fields lead to. -/
def Typed (declarations : List Declaration) (fields : List FieldDecl) (members : List Member) : Prop :=
  List.Forall₂ (fun field member => member.name = field.name ∧ HasClass declarations field member.storage) fields
    members

theorem builtin?_eq_some_iff {typeName : String} {storage : StorageClass} :
    builtin? typeName = some storage ↔ Builtin typeName storage := by
  constructor
  · intro found
    unfold builtin? at found
    split_ifs at found with isBool isString isAny
    · obtain rfl := Option.some.inj found
      exact isBool ▸ .bool
    · obtain rfl := Option.some.inj found
      exact isString ▸ .string
    · obtain rfl := Option.some.inj found
      exact isAny ▸ .any
    · obtain ⟨kind, spelled, rfl⟩ := Option.map_eq_some_iff.mp found
      exact ofKeyword?_eq_some_iff.mp spelled ▸ .int kind
  · rintro (_ | _ | _ | ⟨kind⟩)
    · rfl
    · rfl
    · rfl
    · cases kind <;> rfl

theorem builtin?_eq_none_iff {typeName : String} :
    builtin? typeName = none ↔ ∀ storage, ¬ Builtin typeName storage := by
  rw [Option.eq_none_iff_forall_ne_some]
  exact forall_congr' fun storage => not_congr builtin?_eq_some_iff

/-- A scope in which every name leads to its latest declaration. -/
def TypeScope.Latest (scope : TypeScope) (declarations : List Declaration) : Prop :=
  ∀ name, scope.lookup? name = (latest? declarations name).map (·.entry)

theorem TypeScope.Latest.declare {scope : TypeScope} {declarations : List Declaration}
    (known : scope.Latest declarations) (declaration : Declaration) :
    (scope.declare declaration).Latest (declarations ++ [declaration]) := by
  intro name
  rw [lookup?_declare, latest?_append, known]
  split <;> rfl

theorem exists_scope (declarations : List Declaration) : ∃ scope : TypeScope, scope.Latest declarations := by
  induction declarations using List.reverseRecOn with
  | nil =>
    refine ⟨.empty, fun name => ?_⟩
    simp [TypeScope.empty, TypeScope.lookup?, latest?]
  | append_singleton declarations declaration ih =>
    obtain ⟨scope, known⟩ := ih
    exact ⟨scope.declare declaration, known.declare declaration⟩

section
variable {scope : TypeScope} {declarations : List Declaration} (known : scope.Latest declarations) {table : String}
  {field : FieldDecl}
include known

/-- A field has a class or lacks one, and classifying finds out which. -/
theorem classify_outcome (table : String) (field : FieldDecl) :
    (∃ storage, classify scope table field = .ok storage ∧ HasClass declarations field storage) ∨
      ∃ diagnostic, classify scope table field = .error diagnostic ∧
        LacksClass declarations table field diagnostic := by
  have found := known field.typeName
  rw [classify]
  cases builtin : builtin? field.typeName with
  | some storage =>
    have isBuiltin := builtin?_eq_some_iff.mp builtin
    cases array : field.isArray with
    | true => exact .inr ⟨_, rfl, .builtinArray isBuiltin array⟩
    | false => exact .inl ⟨storage, rfl, .builtin isBuiltin array⟩
  | none =>
    have named := builtin?_eq_none_iff.mp builtin
    cases latest : latest? declarations field.typeName with
    | none =>
      rw [latest] at found
      rw [found]
      exact .inr ⟨_, rfl, .unknown named latest⟩
    | some declaration =>
      rw [latest] at found
      rw [found]
      cases declaration with
      | table decl =>
        cases array : field.isArray with
        | true => exact .inl ⟨_, rfl, .tableArray named latest array⟩
        | false => exact .inl ⟨_, rfl, .table named latest array⟩
      | enum decl =>
        cases array : field.isArray with
        | true => exact .inr ⟨_, rfl, .enumArray named latest array⟩
        | false =>
          cases values : decl.values with
          | nil => exact .inr ⟨_, by simp [Declaration.entry, values], .emptyEnum named latest values array⟩
          | cons first more => exact .inl ⟨_, by simp [Declaration.entry, values], .enum named latest values array⟩

theorem HasClass.classify_eq {storage : StorageClass} (has : HasClass declarations field storage) :
    classify scope table field = .ok storage := by
  have found := known field.typeName
  rw [classify]
  cases has with
  | builtin isBuiltin single => simp [builtin?_eq_some_iff.mpr isBuiltin, single]
  | table named latest single =>
    simp [builtin?_eq_none_iff.mpr named, found, latest, Declaration.entry, single]
  | tableArray named latest array =>
    simp [builtin?_eq_none_iff.mpr named, found, latest, Declaration.entry, array]
  | enum named latest filled single =>
    simp [builtin?_eq_none_iff.mpr named, found, latest, Declaration.entry, filled, single]

theorem classify_ok_iff {storage : StorageClass} :
    classify scope table field = .ok storage ↔ HasClass declarations field storage := by
  refine ⟨fun classified => ?_, fun has => has.classify_eq known⟩
  rcases classify_outcome known table field with ⟨other, ok, has⟩ | ⟨diagnostic, failed, -⟩
  · obtain rfl := Except.ok.inj (classified.symm.trans ok)
    exact has
  · exact nomatch classified.symm.trans failed

theorem resolve_ok_iff {member : Member} :
    resolve scope table field = .ok member ↔ member.name = field.name ∧ HasClass declarations field member.storage := by
  rw [resolve, map_ok_iff]
  constructor
  · rintro ⟨storage, classified, rfl⟩
    exact ⟨rfl, (classify_ok_iff known).mp classified⟩
  · rintro ⟨named, has⟩
    refine ⟨member.storage, has.classify_eq known, ?_⟩
    rw [← named]

variable {fields : List FieldDecl}

theorem resolve_typed_iff {members : List Member} :
    fields.mapM (resolve scope table) = .ok members ↔ Typed declarations fields members := by
  rw [mapM_ok_iff, Typed]
  simp only [resolve_ok_iff known]

/-- The first field without a class is what resolving fails on. -/
theorem resolve_outcome (table : String) (fields : List FieldDecl) :
    ((∃ members, fields.mapM (resolve scope table) = .ok members) ∧
        ∀ field ∈ fields, ∃ storage, HasClass declarations field storage) ∨
      ∃ front field back diagnostic, fields = front ++ field :: back ∧
        (∀ other ∈ front, ∃ storage, HasClass declarations other storage) ∧
        LacksClass declarations table field diagnostic ∧ (¬ ∃ storage, HasClass declarations field storage) ∧
        fields.mapM (resolve scope table) = .error diagnostic := by
  cases resolved : fields.mapM (resolve scope table) with
  | ok members =>
    have typed := (resolve_typed_iff known).mp resolved
    exact .inl ⟨⟨members, rfl⟩, (List.forall₂_and_left _ _).mp
      (typed.imp fun field member facts => ⟨⟨member.storage, facts.2⟩, facts⟩) |>.1⟩
  | error diagnostic =>
    obtain ⟨front, field, back, split, passed, failed⟩ := mapM_error_iff.mp resolved
    rw [resolve, map_error_iff] at failed
    refine .inr ⟨front, field, back, diagnostic, split, ?_, ?_, ?_, rfl⟩
    · intro other listed
      obtain ⟨member, resolved⟩ := passed other listed
      exact ⟨member.storage, ((resolve_ok_iff known).mp resolved).2⟩
    · rcases classify_outcome known table field with ⟨storage, classified, -⟩ | ⟨why, classified, lacks⟩
      · exact nomatch classified.symm.trans failed
      · exact Except.error.inj (classified.symm.trans failed) ▸ lacks
    · rintro ⟨storage, has⟩
      exact nomatch (has.classify_eq known).symm.trans failed

end

/-- A field has at most one class. -/
theorem HasClass.unique {declarations : List Declaration} {field : FieldDecl} {storage other : StorageClass}
    (has : HasClass declarations field storage) (also : HasClass declarations field other) : storage = other := by
  obtain ⟨scope, known⟩ := exists_scope declarations
  have classified : classify scope "" field = .ok storage := has.classify_eq known
  exact Except.ok.inj (classified.symm.trans (also.classify_eq known))

end Layout

/-! ### Sessions -/

namespace Session

/-- Names lead to their latest declaration all along a run. -/
theorem addAll_latest {options : Options} {session : Session} {items : List (Except Diagnostic Declaration)}
    (ran : (start options).addAll items = .ok session) : session.types.Latest session.declarations := by
  -- A declaration comes into scope in the same step in which it is recorded.
  refine addAll_keeps (fun session => session.types.Latest session.declarations) ?_ ?_ ran
  · intro session later declaration _ known added
    rw [add_declarations added, (adds_iff.mpr added).types]
    exact known.declare declaration
  · intro name
    simp [start, TypeScope.empty, TypeScope.lookup?, latest?]

/-- A run has one plan a table, and one chunk of output a declaration behind the first chunk. -/
theorem addAll_counts {options : Options} {session : Session} {items : List (Except Diagnostic Declaration)}
    (ran : (start options).addAll items = .ok session) :
    session.plans.length = (Declaration.tables session.declarations).length ∧
      session.chunks.length = session.declarations.length + 1 := by
  refine addAll_keeps (fun session => session.plans.length = (Declaration.tables session.declarations).length ∧
    session.chunks.length = session.declarations.length + 1) ?_ ⟨rfl, rfl⟩ ran
  intro session later declaration _ counted added
  cases adds_iff.mpr added with
  | enum numbered emitted => simpa [Declaration.tables] using counted
  | table resolved emitted => simpa [Declaration.tables] using counted

/-- A run over declarations that were read compiles these declarations. -/
theorem addAll_read {options : Options} {session : Session} {declarations : List Declaration}
    (ran : (start options).addAll (declarations.map .ok) = .ok session) : session.declarations = declarations := by
  obtain ⟨others, same, all⟩ := addAll_declarations ran
  have inj : Function.Injective (Except.ok : Declaration → Except Diagnostic Declaration) := fun _ _ => Except.ok.inj
  rw [all, ← List.map_injective_iff.mpr inj same]
  rfl

/-- The scope in which the fields of a table are resolved, behind some declarations. -/
theorem addAll_scope {options : Options} {session : Session} {earlier : List Declaration}
    (reached : (start options).addAll (earlier.map .ok) = .ok session) (decl : TableDecl) :
    (session.types.declareTable decl).Latest (earlier ++ [Declaration.table decl]) := by
  have known := addAll_latest reached
  rw [addAll_read reached] at known
  exact known.declare (.table decl)

/-- A run that succeeds comes to each of its declarations, and adds it. -/
theorem addAll_at {options : Options} {final : Session} {earlier : List Declaration} {declaration : Declaration}
    {rest : List (Except Diagnostic Declaration)}
    (ran : (start options).addAll (earlier.map .ok ++ .ok declaration :: rest) = .ok final) :
    ∃ session later, (start options).addAll (earlier.map .ok) = .ok session ∧
      session.Adds declaration later (.ok ()) ∧ later.Extends final := by
  obtain ⟨session, reached, ran⟩ := addAll_split ran
  obtain ⟨later, added, ran⟩ := addAll_cons_ok ran
  exact ⟨session, later, reached, adds_iff.mpr added, addAll_extends ran⟩

section
variable {options : Options} {final : Session} {earlier : List Declaration}
  {rest : List (Except Diagnostic Declaration)}

/-- What a run that succeeds has made of a table: the plan for the classes of its fields, and the code of the plan. -/
theorem addAll_table {decl : TableDecl}
    (ran : (start options).addAll (earlier.map .ok ++ .ok (.table decl) :: rest) = .ok final) :
    ∃ members code, Typed (earlier ++ [Declaration.table decl]) decl.fields members ∧
      final.plans[(Declaration.tables earlier).length]? = some (.compute decl.name decl.tag members) ∧
      tableCode? options.target (.compute decl.name decl.tag members) = some code ∧
      final.chunks[earlier.length + 1]? = some code := by
  obtain ⟨session, later, reached, adds, extended⟩ := addAll_at ran
  obtain ⟨planned, written⟩ := addAll_counts reached
  rw [addAll_read reached] at planned written
  cases adds with
  | @table _ members emitter code resolved emitted =>
    obtain ⟨morePlans, plans⟩ := extended.plans
    obtain ⟨moreChunks, chunks⟩ := extended.chunks
    refine ⟨members, code, (resolve_typed_iff (addAll_scope reached decl)).mp resolved, ?_,
      (((Codes.start options).addAll reached).emits.table emitted).1, ?_⟩
    · rw [← plans, ← planned]
      simp
    · rw [← chunks, ← written]
      simp

/-- What a run that succeeds has made of an enum. -/
theorem addAll_enum {decl : EnumDecl}
    (ran : (start options).addAll (earlier.map .ok ++ .ok (.enum decl) :: rest) = .ok final) :
    final.chunks[earlier.length + 1]? = some (enumCode options.target decl) := by
  obtain ⟨session, later, reached, adds, extended⟩ := addAll_at ran
  obtain ⟨-, written⟩ := addAll_counts reached
  rw [addAll_read reached] at written
  cases adds with
  | @enum _ emitter code numbered emitted =>
    obtain ⟨moreChunks, chunks⟩ := extended.chunks
    rw [← chunks, ← written, ← (((Codes.start options).addAll reached).emits.enum emitted).1]
    simp

end

end Session

/-- Types are found among what is declared before their use. A table whose turn it is gets through exactly if each of
its fields has a class by the declarations up to the table, and its plan has these classes. Otherwise compiling fails
with what the first field without a class lacks, unless a declaration before the table has failed. -/
theorem compile_resolution (text : String) (options : Options) (earlier : List Declaration) (decl : TableDecl)
    (rest : List (Except Diagnostic Declaration))
    (read : readAll text = earlier.map .ok ++ .ok (.table decl) :: rest) :
    (∀ session, (Session.start options).addAll (earlier.map .ok) = .ok session →
      ((∃ members, decl.fields.mapM (resolve (session.types.declareTable decl) decl.name) = .ok members) ↔
        ∀ field ∈ decl.fields, ∃ storage, HasClass (earlier ++ [Declaration.table decl]) field storage)) ∧
    (∀ compilation, compile text options = .ok compilation →
      ∃ plan, compilation.plans[(Declaration.tables earlier).length]? = some plan ∧ plan.table = decl.name ∧
        plan.tag = decl.tag ∧ Typed (earlier ++ [Declaration.table decl]) decl.fields plan.members) ∧
    ((∃ field ∈ decl.fields, ∀ storage, ¬ HasClass (earlier ++ [Declaration.table decl]) field storage) →
      ∃ front field back diagnostic, decl.fields = front ++ field :: back ∧
        (∀ other ∈ front, ∃ storage, HasClass (earlier ++ [Declaration.table decl]) other storage) ∧
        LacksClass (earlier ++ [Declaration.table decl]) decl.name field diagnostic ∧
        ((CompileFailsAfter text options earlier diagnostic ∧ compile text options = .error diagnostic) ∨
          ∃ before declaration after failure, earlier = before ++ declaration :: after ∧
            CompileFailsAfter text options before failure ∧ compile text options = .error failure)) := by
  refine ⟨?_, ?_, ?_⟩
  · intro session reached
    rcases resolve_outcome (Session.addAll_scope reached decl) decl.name decl.fields with
      ⟨resolved, classes⟩ | ⟨front, field, back, diagnostic, split, -, -, none, failed⟩
    · exact ⟨fun _ => classes, fun _ => resolved⟩
    · constructor
      · rintro ⟨members, resolved⟩
        exact nomatch failed.symm.trans resolved
      · intro all
        exact absurd (all field (by simp [split])) none
  · intro compilation compiled
    obtain ⟨final, ran, rfl⟩ := map_ok_iff.mp compiled
    rw [read] at ran
    obtain ⟨members, code, typed, planned, -, -⟩ := Session.addAll_table ran
    exact ⟨_, planned, rfl, rfl, typed⟩
  · rintro ⟨unclear, listed, lacking⟩
    have unresolved : ¬ ∀ field ∈ decl.fields, ∃ storage,
        HasClass (earlier ++ [Declaration.table decl]) field storage := by
      intro classes
      obtain ⟨storage, has⟩ := classes unclear listed
      exact lacking storage has
    cases reached : (Session.start options).addAll (earlier.map .ok) with
    | error failure =>
      -- The table is never looked at, so its first field without a class is found in a scope of its own.
      obtain ⟨known, latest⟩ := exists_scope (earlier ++ [Declaration.table decl])
      obtain ⟨front, field, back, diagnostic, split, passed, lacks, -⟩ :=
        (resolve_outcome latest decl.name decl.fields).resolve_left fun outcome => unresolved outcome.2
      obtain ⟨before, declaration, after, apart, fails⟩ :=
        Session.exists_failsAfter_within reached (.ok (.table decl) :: rest)
      rw [← read] at fails
      exact ⟨front, field, back, diagnostic, split, passed, lacks,
        .inr ⟨before, declaration, after, failure, apart, fails, compile_error_iff.mpr ⟨before, fails⟩⟩⟩
    | ok session =>
      obtain ⟨front, field, back, diagnostic, split, passed, lacks, -, failed⟩ :=
        (resolve_outcome (Session.addAll_scope reached decl) decl.name decl.fields).resolve_left
          fun outcome => unresolved outcome.2
      have fails : CompileFailsAfter text options earlier diagnostic := by
        have refused : session.FailsAfter (.ok (.table decl) :: rest) [] diagnostic :=
          .refused (Session.Adds.unresolved failed).eq
        simpa only [CompileFailsAfter, read, List.append_nil] using refused.behind reached
      exact ⟨front, field, back, diagnostic, split, passed, lacks, .inl ⟨fails, compile_error_iff.mpr ⟨earlier, fails⟩⟩⟩

/-- A table stands for its name although an enum had the name before, and a type that is built in is not that of a table
of the same name. A table that is declared behind its use is unknown. -/
theorem redeclared_and_late_resolution :
    (∃ compilation plan, compile ("enum K: byte \x7b A \x7d table K: KKKK \x7b \x7d table bool: BOOL \x7b \x7d" ++
        "table T: TTTT \x7b k: [K]; b: bool; t: T \x7d") ⟨.typeScript, none⟩ = .ok compilation ∧
      compilation.plans[2]? = some plan ∧ plan.members.map (·.storage) = [.tableArray "K", .bool, .table "T"]) ∧
    CompileFailsAfter "table T: TTTT \x7b t: T; u: U \x7d table U: UUUU \x7b \x7d" ⟨.typeScript, none⟩ []
      (.unknownType ⟨"T", "u", "U"⟩) := by
  have named : ∀ name ∈ ["K", "T", "U"], ∀ storage, ¬ Builtin name storage := by
    simp only [← builtin?_eq_none_iff]
    decide
  constructor
  · have works : (compile ("enum K: byte \x7b A \x7d table K: KKKK \x7b \x7d table bool: BOOL \x7b \x7d" ++
        "table T: TTTT \x7b k: [K]; b: bool; t: T \x7d") ⟨.typeScript, none⟩).toOption.isSome := by decide +kernel
    have read : readAll ("enum K: byte \x7b A \x7d table K: KKKK \x7b \x7d table bool: BOOL \x7b \x7d" ++
        "table T: TTTT \x7b k: [K]; b: bool; t: T \x7d") =
        [.enum ⟨"K", 1, 6, .byte, ["A"]⟩, .table ⟨"K", 1, 26, "KKKK", []⟩,
          .table ⟨"bool", 1, 44, "BOOL", []⟩].map .ok ++ [.ok (.table ⟨"T", 1, 64, "TTTT",
            [⟨"k", 1, 74, "K", true⟩, ⟨"b", 1, 82, "bool", false⟩, ⟨"t", 1, 91, "T", false⟩]⟩)] := by decide +kernel
    obtain ⟨compilation, compiled⟩ := exists_ok works
    obtain ⟨plan, placed, -, -, typed⟩ := (compile_resolution _ ⟨.typeScript, none⟩ _ _ _ read).2.1 compilation compiled
    refine ⟨compilation, plan, compiled, placed, ?_⟩
    generalize plan.members = members at typed ⊢
    obtain _ | ⟨array, _ | ⟨flag, _ | ⟨self, _ | _⟩⟩⟩ := typed
    have array := array.2.unique (.tableArray (named "K" (by simp)) rfl rfl)
    have flag := flag.2.unique (.builtin .bool rfl)
    have self := self.2.unique (.table (named "T" (by simp)) rfl rfl)
    simp [array, flag, self]
  · have read : readAll "table T: TTTT \x7b t: T; u: U \x7d table U: UUUU \x7b \x7d" =
        [].map .ok ++ .ok (.table ⟨"T", 1, 7, "TTTT", [⟨"t", 1, 17, "T", false⟩, ⟨"u", 1, 23, "U", false⟩]⟩) ::
          [.ok (.table ⟨"U", 1, 36, "UUUU", []⟩)] := by decide +kernel
    have unknown : (compile "table T: TTTT \x7b t: T; u: U \x7d table U: UUUU \x7b \x7d"
        ⟨.typeScript, none⟩).map (·.output) = .error (.unknownType ⟨"T", "u", "U"⟩) := by decide +kernel
    have lacking : ∀ storage, ¬ HasClass
        [.table ⟨"T", 1, 7, "TTTT", [⟨"t", 1, 17, "T", false⟩, ⟨"u", 1, 23, "U", false⟩]⟩]
        ⟨"u", 1, 23, "U", false⟩ storage := by
      rintro storage (⟨isBuiltin, -⟩ | ⟨-, latest, -⟩ | ⟨-, latest, -⟩ | ⟨-, latest, -⟩)
      · exact named "U" (by simp) storage isBuiltin
      all_goals simp [latest?, Declaration.name] at latest
    obtain ⟨front, field, back, diagnostic, -, -, -, ⟨fails, failed⟩ | ⟨before, declaration, after, -, split, -⟩⟩ :=
      (compile_resolution _ ⟨.typeScript, none⟩ _ _ _ read).2.2 ⟨⟨"u", 1, 23, "U", false⟩, by simp, lacking⟩
    · obtain rfl := Except.error.inj (failed.symm.trans (map_error_iff.mp unknown))
      exact fails
    · simp at split

end TableWire
