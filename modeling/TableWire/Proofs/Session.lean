import Mathlib
import TableWire.Proofs.Grammar
import TableWire.Proofs.Header
import TableWire.Session

/-!
Sessions that generate Rust. A session in which every declaration succeeded knows exactly its
declarations: names do not repeat, every type in scope is declared, every plan is laid out for a
declared table and names only declared types (`Session.Sound`). One more declaration keeps this
(`Sound.add`), and so does a whole run (`Sound.addAll`).
-/
namespace TableWire
open Schema Layout Emit

/-! ### Names taken -/

namespace Emit.NameClaims

theorem claim_ok {claims later : NameClaims} {scope : NameScope} {name generated : String}
    (claimed : claims.claim scope name generated = (later, .ok ())) :
    generated ∉ claims.taken ∧ later.taken = claims.taken.insert generated name := by
  unfold claim at claimed
  split at claimed
  · simp at claimed
  · cases found : claims.taken[generated]? with
    | some first => simp [found] at claimed
    | none =>
      simp only [found, Prod.mk.injEq] at claimed
      obtain ⟨rfl, -⟩ := claimed
      refine ⟨?_, rfl⟩
      rw [Std.TreeMap.mem_iff_isSome_getElem?, found]
      simp

/-- Names taken together lead to different generated names, none of them taken before. -/
theorem claimAll_ok {claims : NameClaims} {scope : NameScope} {generate : String → String}
    {names : List String} (claimed : claims.claimAll scope generate names = .ok ()) :
    (names.map generate).Nodup ∧ ∀ name ∈ names, generate name ∉ claims.taken := by
  induction names generalizing claims with
  | nil => simp
  | cons name names ih =>
    rw [claimAll] at claimed
    split at claimed
    · simp at claimed
    · next later taken =>
      obtain ⟨free, insertion⟩ := claim_ok taken
      obtain ⟨distinct, fresh⟩ := ih claimed
      have others : ∀ other ∈ names, generate other ≠ generate name ∧ generate other ∉ claims.taken := by
        intro other member
        have absent := fresh other member
        rw [insertion, Std.TreeMap.mem_insert, Std.compare_eq_iff_eq, not_or] at absent
        exact ⟨fun same => absent.1 same.symm, absent.2⟩
      refine ⟨?_, ?_⟩
      · rw [List.map_cons, List.nodup_cons]
        refine ⟨?_, distinct⟩
        intro repeated
        obtain ⟨other, member, same⟩ := List.mem_map.mp repeated
        exact (others other member).1 same
      · intro other member
        rcases List.mem_cons.mp member with rfl | later
        · exact free
        · exact (others other later).2

end Emit.NameClaims

namespace Emit.Rust.Emitter

theorem emitEnum_ok {emitter later : Emitter} {decl : EnumDecl} {chunk : String}
    (emitted : emitter.emitEnum decl = (later, .ok chunk)) :
    typeName decl.name ∉ emitter.types.taken ∧
      later.types.taken = emitter.types.taken.insert (typeName decl.name) decl.name ∧
      later.tables = emitter.tables ∧ chunk = "\n".intercalate (enumLines decl) := by
  unfold emitEnum at emitted
  cases claimed : emitter.types.claim .schema decl.name (typeName decl.name) with
  | mk types outcome =>
    cases outcome with
    | error diagnostic => simp [claimed] at emitted
    | ok done =>
      simp only [claimed] at emitted
      split at emitted
      · simp at emitted
      · obtain ⟨rfl, code⟩ := Prod.mk.inj emitted
        obtain ⟨free, insertion⟩ := NameClaims.claim_ok claimed
        exact ⟨free, insertion, rfl, (Except.ok.inj code).symm⟩

theorem emitTable_ok {emitter later : Emitter} {plan : Plan} {chunk : String}
    (emitted : emitter.emitTable plan = (later, .ok chunk)) :
    typeName plan.table ∉ emitter.types.taken ∧
      later.types.taken = emitter.types.taken.insert (typeName plan.table) plan.table ∧
      (plan.members.map (·.name)).Nodup ∧ later.tables = emitter.tables ++ [typeName plan.table] ∧
      (tableLines? plan).map ("\n".intercalate ·) = some chunk := by
  unfold emitTable at emitted
  cases claimed : emitter.types.claim .schema plan.table (typeName plan.table) with
  | mk types outcome =>
    cases outcome with
    | error diagnostic => simp [claimed] at emitted
    | ok done =>
      simp only [claimed] at emitted
      split at emitted
      · simp at emitted
      · next fields =>
        obtain ⟨free, insertion⟩ := NameClaims.claim_ok claimed
        have distinct : (plan.members.map (·.name)).Nodup :=
          (NameClaims.claimAll_ok fields).1.of_map
        split at emitted
        · next generated =>
          obtain ⟨rfl, code⟩ := Prod.mk.inj emitted
          refine ⟨free, insertion, distinct, rfl, ?_⟩
          rw [generated, Option.map_some, Except.ok.inj code]
        · simp at emitted

end Emit.Rust.Emitter

theorem Emit.Emitter.emitEnum_rust {rust : Rust.Emitter} {emitter : Emitter} {decl : EnumDecl}
    {chunk : String} (emitted : (Emitter.rust rust).emitEnum decl = (emitter, .ok chunk)) :
    ∃ later, emitter = .rust later ∧ rust.emitEnum decl = (later, .ok chunk) := by
  cases written : rust.emitEnum decl with
  | mk later outcome =>
    simp only [Emitter.emitEnum, written, Prod.mk.injEq] at emitted
    obtain ⟨rfl, rfl⟩ := emitted
    exact ⟨later, rfl, rfl⟩

theorem Emit.Emitter.emitTable_rust {rust : Rust.Emitter} {emitter : Emitter} {plan : Plan}
    {chunk : String} (emitted : (Emitter.rust rust).emitTable plan = (emitter, .ok chunk)) :
    ∃ later, emitter = .rust later ∧ rust.emitTable plan = (later, .ok chunk) := by
  cases written : rust.emitTable plan with
  | mk later outcome =>
    simp only [Emitter.emitTable, written, Prod.mk.injEq] at emitted
    obtain ⟨rfl, rfl⟩ := emitted
    exact ⟨later, rfl, rfl⟩

/-! ### Steps of a session -/

namespace Session

theorem addEnum_ok {session later : Session} {decl : EnumDecl}
    (added : session.addEnum decl = (later, .ok ())) :
    decl.values.length ≤ decl.repr.valueCapacity ∧
      ∃ emitter chunk, session.emitter.emitEnum decl = (emitter, .ok chunk) ∧
        later = { session with
          types := session.types.declareEnum decl
          emitter := emitter
          chunks := session.chunks ++ [chunk]
          declarations := session.declarations ++ [.enum decl] } := by
  unfold addEnum at added
  split at added
  · simp at added
  · next fits =>
    refine ⟨by omega, ?_⟩
    cases emitted : session.emitter.emitEnum decl with
    | mk emitter outcome =>
      cases outcome with
      | error diagnostic => simp [emitted] at added
      | ok chunk =>
        simp only [emitted, Prod.mk.injEq] at added
        exact ⟨emitter, chunk, rfl, added.1.symm⟩

theorem addTable_ok {session later : Session} {decl : TableDecl}
    (added : session.addTable decl = (later, .ok ())) :
    ∃ members emitter chunk,
      decl.fields.mapM (resolve (session.types.declareTable decl) decl.name) = .ok members ∧
      session.emitter.emitTable (Plan.compute decl.name decl.tag members) = (emitter, .ok chunk) ∧
      later = { session with
        types := session.types.declareTable decl
        emitter := emitter
        tags := session.tags.insert decl.tag decl.name
        chunks := session.chunks ++ [chunk]
        plans := session.plans ++ [Plan.compute decl.name decl.tag members]
        declarations := session.declarations ++ [.table decl] } := by
  unfold addTable at added
  cases resolved : decl.fields.mapM (resolve (session.types.declareTable decl) decl.name) with
  | error diagnostic => simp [resolved] at added
  | ok members =>
    cases emitted : session.emitter.emitTable (Plan.compute decl.name decl.tag members) with
    | mk emitter outcome =>
      cases outcome with
      | error diagnostic => simp [resolved, emitted] at added
      | ok chunk =>
        simp only [resolved, emitted, Prod.mk.injEq] at added
        exact ⟨members, emitter, chunk, rfl, emitted, added.1.symm⟩

theorem add_declarations {session later : Session} {declaration : Declaration}
    (added : session.add declaration = (later, .ok ())) :
    later.declarations = session.declarations ++ [declaration] := by
  cases declaration with
  | enum decl =>
    obtain ⟨-, emitter, chunk, -, rfl⟩ := addEnum_ok added
    rfl
  | table decl =>
    obtain ⟨members, emitter, chunk, -, -, rfl⟩ := addTable_ok added
    rfl

/-- What every step of a run keeps holds at its end. -/
theorem addAll_keeps (Keeps : Session → Prop) {items : List (Except Diagnostic Declaration)}
    (step : ∀ {session later : Session} {declaration : Declaration}, .ok declaration ∈ items →
      Keeps session → session.add declaration = (later, .ok ()) → Keeps later)
    {session final : Session} (start : Keeps session) (ran : session.addAll items = .ok final) :
    Keeps final := by
  induction items generalizing session with
  | nil =>
    obtain rfl : session = final := by simpa [addAll] using ran
    exact start
  | cons item items ih =>
    cases item with
    | error diagnostic => simp [addAll] at ran
    | ok declaration =>
      rw [addAll] at ran
      split at ran
      · simp at ran
      · next later added =>
        exact ih (fun member => step (List.mem_cons_of_mem _ member))
          (step (List.mem_cons_self ..) start added) ran

end Session

/-! ### Types in scope -/

/-- Every result of a list of steps is the result of one of them. -/
theorem mapM_ok {α β : Type} {f : α → Except Diagnostic β} {list : List α} {results : List β}
    (mapped : list.mapM f = .ok results) : ∀ result ∈ results, ∃ a ∈ list, f a = .ok result := by
  have each := mapM_ok_iff.mp mapped
  induction each with
  | nil => simp
  | @cons first result list results head tail ih =>
    intro other member
    rcases List.mem_cons.mp member with rfl | later
    · exact ⟨first, by simp, head⟩
    · obtain ⟨a, found, same⟩ := ih (mapM_ok_iff.mpr tail) other later
      exact ⟨a, by simp [found], same⟩

theorem Schema.Declaration.tables_enum (declarations : List Declaration) (decl : EnumDecl) :
    Declaration.tables (declarations ++ [.enum decl]) = Declaration.tables declarations := by
  simp [Declaration.tables]

theorem Schema.Declaration.tables_table (declarations : List Declaration) (decl : TableDecl) :
    Declaration.tables (declarations ++ [.table decl]) = Declaration.tables declarations ++ [decl] := by
  simp [Declaration.tables]

/-- What a declaration puts into scope. -/
def Schema.Declaration.entry : Declaration → TypeEntry
  | .enum decl => .enum decl.repr decl.values
  | .table decl => .table decl.tag

/-- The scope with one more declaration. -/
def Layout.TypeScope.declare (scope : TypeScope) : Declaration → TypeScope
  | .enum decl => scope.declareEnum decl
  | .table decl => scope.declareTable decl

theorem Layout.TypeScope.lookup?_declare (scope : TypeScope) (declaration : Declaration) (name : String) :
    (scope.declare declaration).lookup? name =
      if declaration.name = name then some declaration.entry else scope.lookup? name := by
  have inserted : (scope.declare declaration).entries =
      scope.entries.insert declaration.name declaration.entry := by
    cases declaration with
    | enum decl => rfl
    | table decl => rfl
  rw [lookup?, inserted, Std.TreeMap.getElem?_insert]
  by_cases same : declaration.name = name
  · simp [same]
  · simp [same, lookup?]

/-- What a class refers to is in scope. -/
def Layout.TypeScope.Holds (scope : TypeScope) : StorageClass → Prop
  | .enum name repr _ => ∃ values, scope.lookup? name = some (.enum repr values)
  | .table name | .tableArray name => ∃ tag, scope.lookup? name = some (.table tag)
  | .primitive _ | .bool | .string | .any => True

theorem Layout.builtin?_holds {typeName : String} {storage : StorageClass} (scope : TypeScope)
    (builtin : builtin? typeName = some storage) : scope.Holds storage := by
  unfold builtin? at builtin
  split_ifs at builtin
  · obtain rfl := Option.some.inj builtin
    trivial
  · obtain rfl := Option.some.inj builtin
    trivial
  · obtain rfl := Option.some.inj builtin
    trivial
  · obtain ⟨kind, -, rfl⟩ := Option.map_eq_some_iff.mp builtin
    trivial

theorem Layout.classify_holds {scope : TypeScope} {table : String} {field : FieldDecl}
    {storage : StorageClass} (classified : classify scope table field = .ok storage) :
    scope.Holds storage := by
  unfold classify at classified
  split at classified
  · next builtin =>
    split at classified
    · simp at classified
    · obtain rfl := Except.ok.inj classified
      exact builtin?_holds scope builtin
  · split at classified
    · simp at classified
    · next repr values found =>
      split at classified
      · simp at classified
      · split at classified
        · simp at classified
        · obtain rfl := Except.ok.inj classified
          exact ⟨values, found⟩
    · next tag found =>
      obtain rfl := Except.ok.inj classified
      split
      · exact ⟨tag, found⟩
      · exact ⟨tag, found⟩

theorem Layout.resolve_holds {scope : TypeScope} {table : String} {field : FieldDecl} {member : Member}
    (resolved : resolve scope table field = .ok member) : scope.Holds member.storage := by
  unfold resolve at resolved
  cases classified : classify scope table field with
  | error diagnostic => simp [classified, Except.map] at resolved
  | ok storage =>
    obtain rfl : (⟨field.name, storage⟩ : Member) = member := by
      simpa [classified, Except.map] using resolved
    exact classify_holds classified

/-! ### Sound sessions -/

/-- What a class refers to is declared. -/
def Schema.Declares (declarations : List Declaration) : StorageClass → Prop
  | .enum name repr _ => ∃ decl, .enum decl ∈ declarations ∧ decl.name = name ∧ decl.repr = repr
  | .table name | .tableArray name => ∃ decl, .table decl ∈ declarations ∧ decl.name = name
  | .primitive _ | .bool | .string | .any => True

theorem Schema.Declares.mono {first second : List Declaration} (sub : first ⊆ second)
    {storage : StorageClass} (declared : Declares first storage) : Declares second storage := by
  cases storage with
  | enum name repr value =>
    obtain ⟨decl, member, same⟩ := declared
    exact ⟨decl, sub member, same⟩
  | table name =>
    obtain ⟨decl, member, same⟩ := declared
    exact ⟨decl, sub member, same⟩
  | tableArray name =>
    obtain ⟨decl, member, same⟩ := declared
    exact ⟨decl, sub member, same⟩
  | _ => trivial

/-- A plan that is laid out for its members, which have different names and known types. -/
structure Layout.Plan.Sound (declarations : List Declaration) (plan : Plan) : Prop where
  computed : plan.Computed
  distinct : (plan.members.map (·.name)).Nodup
  declared : ∀ member ∈ plan.members, Declares declarations member.storage

structure Session.Sound (session : Session) : Prop where
  distinct : (session.declarations.map (·.name)).Nodup
  claimed : ∃ emitter, session.emitter = .rust emitter ∧
    ∀ declaration ∈ session.declarations, typeName declaration.name ∈ emitter.types.taken
  inScope : ∀ name entry, session.types.lookup? name = some entry →
    ∃ declaration ∈ session.declarations, declaration.name = name ∧ declaration.entry = entry
  numbered : ∀ decl, .enum decl ∈ session.declarations → decl.values.length ≤ decl.repr.valueCapacity
  planned : session.plans.map (fun plan => (plan.table, plan.tag)) =
    (Declaration.tables session.declarations).map fun decl => (decl.name, decl.tag)
  laidOut : ∀ plan ∈ session.plans, plan.Sound session.declarations

namespace Session.Sound

theorem start {options : Options} (rust : options.target = .rust) : (Session.start options).Sound where
  distinct := by simp [Session.start]
  claimed := by simp [Session.start, Emitter.new, rust]
  inScope := by simp [Session.start, TypeScope.empty, TypeScope.lookup?]
  numbered := by simp [Session.start]
  planned := by simp [Session.start, Declaration.tables]
  laidOut := by simp [Session.start]

/-- Types in scope stay declared when the next declaration comes into scope. -/
theorem inScope_declare {session : Session} (sound : session.Sound) (declaration : Declaration) (name : String)
    (entry : TypeEntry) (found : (session.types.declare declaration).lookup? name = some entry) :
    ∃ known ∈ session.declarations ++ [declaration], known.name = name ∧ known.entry = entry := by
  rw [TypeScope.lookup?_declare] at found
  split at found
  · next same => exact ⟨declaration, by simp, same, Option.some.inj found⟩
  · obtain ⟨known, member, facts⟩ := sound.inScope name entry found
    exact ⟨known, by simp [member], facts⟩

/-- A class that is in scope is declared. -/
theorem declares_of_holds {scope : TypeScope} {declarations : List Declaration}
    (inScope : ∀ name entry, scope.lookup? name = some entry →
      ∃ known ∈ declarations, known.name = name ∧ known.entry = entry)
    {storage : StorageClass} (holds : scope.Holds storage) : Declares declarations storage := by
  have tables : ∀ name tag, scope.lookup? name = some (.table tag) →
      ∃ decl, .table decl ∈ declarations ∧ decl.name = name := by
    intro name tag found
    obtain ⟨known, member, same, kept⟩ := inScope name _ found
    cases known with
    | enum decl => simp [Declaration.entry] at kept
    | table decl => exact ⟨decl, member, same⟩
  cases storage with
  | enum name repr value =>
    obtain ⟨values, found⟩ := holds
    obtain ⟨known, member, same, kept⟩ := inScope name _ found
    cases known with
    | table decl => simp [Declaration.entry] at kept
    | enum decl =>
      simp only [Declaration.entry, TypeEntry.enum.injEq] at kept
      exact ⟨decl, member, same, kept.1⟩
  | table name => exact tables name holds.choose holds.choose_spec
  | tableArray name => exact tables name holds.choose holds.choose_spec
  | _ => trivial

/-- A name whose generated form is free repeats no declared name. -/
theorem distinct_append {declarations : List Declaration} {taken : Std.TreeMap String String}
    {declaration : Declaration} (distinct : (declarations.map (·.name)).Nodup)
    (claimed : ∀ known ∈ declarations, typeName known.name ∈ taken)
    (free : typeName declaration.name ∉ taken) :
    ((declarations ++ [declaration]).map (·.name)).Nodup := by
  rw [List.map_append, List.map_singleton, List.nodup_append]
  refine ⟨distinct, by simp, ?_⟩
  intro name member other same
  obtain ⟨known, found, rfl⟩ := List.mem_map.mp member
  obtain rfl := List.mem_singleton.mp same
  intro repeated
  exact free (repeated ▸ claimed known found)

theorem claimed_append {declarations : List Declaration} {taken : Std.TreeMap String String}
    {declaration : Declaration} (claimed : ∀ known ∈ declarations, typeName known.name ∈ taken) :
    ∀ known ∈ declarations ++ [declaration],
      typeName known.name ∈ taken.insert (typeName declaration.name) declaration.name := by
  intro known member
  rw [Std.TreeMap.mem_insert, Std.compare_eq_iff_eq]
  rcases List.mem_append.mp member with early | last
  · exact .inr (claimed known early)
  · obtain rfl := List.mem_singleton.mp last
    exact .inl rfl

theorem addEnum {session later : Session} {decl : EnumDecl} (sound : session.Sound)
    (added : session.addEnum decl = (later, .ok ())) : later.Sound := by
  obtain ⟨numbered, emitter, chunk, emitted, rfl⟩ := addEnum_ok added
  obtain ⟨rust, isRust, claimed⟩ := sound.claimed
  rw [isRust] at emitted
  obtain ⟨next, rfl, written⟩ := Emitter.emitEnum_rust emitted
  obtain ⟨free, taken, -⟩ := Rust.Emitter.emitEnum_ok written
  refine ⟨distinct_append sound.distinct claimed free, ⟨next, rfl, ?_⟩,
    sound.inScope_declare (.enum decl), ?_, ?_, ?_⟩
  · rw [taken]
    exact claimed_append claimed
  · intro other member
    rcases List.mem_append.mp member with early | last
    · exact sound.numbered other early
    · obtain rfl : other = decl := by simpa using last
      exact numbered
  · rw [sound.planned]
    simp [Declaration.tables]
  · intro plan member
    obtain ⟨computed, distinct, declared⟩ := sound.laidOut plan member
    exact ⟨computed, distinct, fun field found => (declared field found).mono (by simp)⟩

theorem addTable {session later : Session} {decl : TableDecl} (sound : session.Sound)
    (added : session.addTable decl = (later, .ok ())) : later.Sound := by
  obtain ⟨members, emitter, chunk, resolved, emitted, rfl⟩ := addTable_ok added
  obtain ⟨rust, isRust, claimed⟩ := sound.claimed
  rw [isRust] at emitted
  obtain ⟨next, rfl, written⟩ := Emitter.emitTable_rust emitted
  obtain ⟨free, taken, fields, -⟩ := Rust.Emitter.emitTable_ok written
  have inScope := sound.inScope_declare (.table decl)
  refine ⟨distinct_append sound.distinct claimed free, ⟨next, rfl, ?_⟩, inScope, ?_, ?_, ?_⟩
  · rw [taken]
    exact claimed_append claimed
  · intro other member
    rcases List.mem_append.mp member with early | last
    · exact sound.numbered other early
    · simp at last
  · rw [List.map_append, sound.planned]
    simp [Declaration.tables, Plan.compute]
  · intro plan member
    rcases List.mem_append.mp member with early | last
    · obtain ⟨computed, distinct, declared⟩ := sound.laidOut plan early
      exact ⟨computed, distinct, fun field found => (declared field found).mono (by simp)⟩
    · obtain rfl := List.mem_singleton.mp last
      refine ⟨rfl, fields, ?_⟩
      -- The table itself is already in scope when its fields are resolved.
      intro field found
      obtain ⟨source, -, read⟩ := mapM_ok resolved field found
      exact declares_of_holds inScope (resolve_holds read)

theorem add {session later : Session} {declaration : Declaration} (sound : session.Sound)
    (added : session.add declaration = (later, .ok ())) : later.Sound := by
  cases declaration with
  | enum decl => exact sound.addEnum added
  | table decl => exact sound.addTable added

theorem addAll {session later : Session} {items : List (Except Diagnostic Declaration)}
    (sound : session.Sound) (ran : session.addAll items = .ok later) : later.Sound :=
  addAll_keeps Session.Sound (fun _ sound added => sound.add added) sound ran

end Session.Sound
end TableWire
