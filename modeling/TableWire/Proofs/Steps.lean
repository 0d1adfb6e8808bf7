import Mathlib
import TableWire.Proofs.Safety

/-!
Everything that one declaration can do to a session (`Session.Adds`), failures included, and where a run of
declarations fails (`Session.FailsAfter`). Code for Rust fails only on names, and exactly when a generated name cannot
stand in code or is taken (`Rust.Nameable`).
-/
namespace TableWire
open Schema Layout Emit

/-! ### Names that can be taken -/

/-- A failure to find names for a declaration. -/
def Schema.Diagnostic.isNaming : Diagnostic → Bool
  | .nameCollision .. | .invalidIdentifier .. => true
  | _ => false

/-- A step that fails on a name. -/
def FailsNaming {α : Type} (step : Except Diagnostic α) : Prop :=
  ∃ diagnostic : Diagnostic, step = .error diagnostic ∧ diagnostic.isNaming

namespace Emit

/-- A generated name that can stand in code. -/
def Usable (generated : String) : Prop := generated ≠ "" ∧ generated ≠ "_"

/-- A claim succeeds exactly on usable names that are free, and what stops it is the name. -/
theorem NameClaims.claim_cases (claims : NameClaims) (scope : NameScope) (name generated : String) :
    ((claims.claim scope name generated).2 = .ok () ∧ Usable generated ∧ generated ∉ claims.taken) ∨
      (FailsNaming (claims.claim scope name generated).2 ∧ ¬ (Usable generated ∧ generated ∉ claims.taken)) := by
  unfold claim
  by_cases unusable : generated = "" ∨ generated = "_"
  · rw [if_pos unusable]
    refine .inr ⟨⟨_, rfl, rfl⟩, ?_⟩
    rintro ⟨⟨filled, named⟩, -⟩
    exact unusable.elim filled named
  · rw [if_neg unusable]
    rw [not_or] at unusable
    cases found : claims.taken[generated]? with
    | some first =>
      refine .inr ⟨⟨_, rfl, rfl⟩, ?_⟩
      rintro ⟨-, free⟩
      rw [Std.TreeMap.mem_iff_isSome_getElem?, found] at free
      exact free rfl
    | none =>
      refine .inl ⟨rfl, unusable, ?_⟩
      rw [Std.TreeMap.mem_iff_isSome_getElem?, found]
      simp

/-- Generated names that can all be taken, one after the other. -/
structure NameClaims.Free (claims : NameClaims) (generated : List String) : Prop where
  distinct : generated.Nodup
  usable : ∀ name ∈ generated, Usable name
  free : ∀ name ∈ generated, name ∉ claims.taken

theorem NameClaims.free_cons {claims : NameClaims} {first : String} {generated : List String} (name : String) :
    claims.Free (first :: generated) ↔
      (Usable first ∧ first ∉ claims.taken) ∧ NameClaims.Free ⟨claims.taken.insert first name⟩ generated := by
  have insertion : ∀ other, other ∉ claims.taken.insert first name ↔ first ≠ other ∧ other ∉ claims.taken := by
    intro other
    rw [Std.TreeMap.mem_insert, Std.compare_eq_iff_eq, not_or]
  constructor
  · rintro ⟨distinct, usable, free⟩
    obtain ⟨apart, distinct⟩ := List.nodup_cons.mp distinct
    refine ⟨⟨usable first (by simp), free first (by simp)⟩, distinct,
      fun other member => usable other (by simp [member]), ?_⟩
    intro other member
    refine (insertion other).mpr ⟨?_, free other (by simp [member])⟩
    rintro rfl
    exact apart member
  · rintro ⟨⟨usable, free⟩, distinct, others, fresh⟩
    have apart : ∀ other ∈ generated, first ≠ other ∧ other ∉ claims.taken :=
      fun other member => (insertion other).mp (fresh other member)
    refine ⟨List.nodup_cons.mpr ⟨fun member => (apart first member).1 rfl, distinct⟩, ?_, ?_⟩
    · intro other member
      rcases List.mem_cons.mp member with rfl | later
      · exact usable
      · exact others other later
    · intro other member
      rcases List.mem_cons.mp member with rfl | later
      · exact free
      · exact (apart other later).2

theorem NameClaims.claimAll_cases (claims : NameClaims) (scope : NameScope) (generate : String → String)
    (names : List String) :
    (claims.claimAll scope generate names = .ok () ∧ claims.Free (names.map generate)) ∨
      (FailsNaming (claims.claimAll scope generate names) ∧ ¬ claims.Free (names.map generate)) := by
  induction names generalizing claims with
  | nil => exact .inl ⟨rfl, by simp, by simp, by simp⟩
  | cons name names ih =>
    rw [List.map_cons, free_cons name]
    cases claimed : claims.claim scope name (generate name) with
    | mk later outcome =>
      have first := claims.claim_cases scope name (generate name)
      rw [claimed] at first
      rw [claimAll, claimed]
      rcases first with ⟨rfl, free⟩ | ⟨⟨diagnostic, rfl, naming⟩, taken⟩
      · obtain ⟨-, insertion⟩ := claim_ok claimed
        obtain rfl : later = ⟨claims.taken.insert (generate name) name⟩ := by rw [← insertion]
        rcases ih ⟨claims.taken.insert (generate name) name⟩ with ⟨ok, rest⟩ | ⟨fails, rest⟩
        · exact .inl ⟨ok, free, rest⟩
        · exact .inr ⟨fails, fun all => rest all.2⟩
      · exact .inr ⟨⟨diagnostic, rfl, naming⟩, fun all => taken all.1⟩

namespace Rust

/-- A declaration whose generated names can all be taken: its own, and those of its values or fields. -/
structure Nameable (taken : Std.TreeMap String String) (name : String) (inner : List String) : Prop where
  free : name ∉ taken
  usable : Usable name
  distinct : inner.Nodup
  innerUsable : ∀ generated ∈ inner, Usable generated

theorem nameable_iff {taken : Std.TreeMap String String} {name : String} {inner : List String} :
    Nameable taken name inner ↔ (Usable name ∧ name ∉ taken) ∧ NameClaims.empty.Free inner := by
  constructor
  · rintro ⟨free, usable, distinct, innerUsable⟩
    exact ⟨⟨usable, free⟩, distinct, innerUsable, fun other _ => by simp [NameClaims.empty]⟩
  · rintro ⟨⟨usable, free⟩, distinct, innerUsable, -⟩
    exact ⟨free, usable, distinct, innerUsable⟩

/-- The two claims of a declaration, on its own name and on those inside, succeed exactly if it is nameable. -/
theorem claims_cases (types : NameClaims) (name : String) (scope : NameScope) (generate : String → String)
    (inner : List String) :
    (∃ later, types.claim .schema name (typeName name) = (later, .ok ()) ∧
        later.taken = types.taken.insert (typeName name) name ∧
        NameClaims.empty.claimAll scope generate inner = .ok () ∧
        Nameable types.taken (typeName name) (inner.map generate)) ∨
      ∃ later diagnostic, diagnostic.isNaming ∧ ¬ Nameable types.taken (typeName name) (inner.map generate) ∧
        (types.claim .schema name (typeName name) = (later, .error diagnostic) ∨
          types.claim .schema name (typeName name) = (later, .ok ()) ∧
            NameClaims.empty.claimAll scope generate inner = .error diagnostic) := by
  rw [nameable_iff]
  have schema := types.claim_cases .schema name (typeName name)
  cases claimed : types.claim .schema name (typeName name) with
  | mk later outcome =>
    rw [claimed] at schema
    rcases schema with ⟨rfl, free⟩ | ⟨⟨diagnostic, rfl, naming⟩, taken⟩
    · rcases NameClaims.empty.claimAll_cases scope generate inner with
        ⟨ok, fine⟩ | ⟨⟨diagnostic, failed, naming⟩, unfit⟩
      · exact .inl ⟨later, rfl, (NameClaims.claim_ok claimed).2, ok, free, fine⟩
      · exact .inr ⟨later, diagnostic, naming, fun all => unfit all.2, .inr ⟨rfl, failed⟩⟩
    · exact .inr ⟨later, diagnostic, naming, fun all => taken all.1, .inl rfl⟩

end Rust

/-- What comes of an enum when Rust is generated. -/
theorem Emitter.emitEnum_outcome (rust : Rust.Emitter) (decl : EnumDecl) :
    (∃ next chunk, (Emitter.rust rust).emitEnum decl = (.rust next, .ok chunk) ∧
        next.types.taken = rust.types.taken.insert (typeName decl.name) decl.name ∧
        Rust.Nameable rust.types.taken (typeName decl.name) (decl.values.map typeName)) ∨
      ∃ next diagnostic, (Emitter.rust rust).emitEnum decl = (.rust next, .error diagnostic) ∧ diagnostic.isNaming ∧
        ¬ Rust.Nameable rust.types.taken (typeName decl.name) (decl.values.map typeName) := by
  rw [emitEnum, Rust.Emitter.emitEnum]
  rcases Rust.claims_cases rust.types decl.name (.enum decl.name) typeName decl.values with
    ⟨types, schema, taken, values, nameable⟩ | ⟨types, diagnostic, naming, unnameable, schema | ⟨schema, values⟩⟩
  · simp only [schema, values]
    exact .inl ⟨_, _, rfl, taken, nameable⟩
  · simp only [schema]
    exact .inr ⟨_, diagnostic, rfl, naming, unnameable⟩
  · simp only [schema, values]
    exact .inr ⟨_, diagnostic, rfl, naming, unnameable⟩

/-- What comes of a table when Rust is generated. -/
theorem Emitter.emitTable_outcome (rust : Rust.Emitter) {plan : Plan} (computed : plan.Computed) :
    (∃ next chunk, (Emitter.rust rust).emitTable plan = (.rust next, .ok chunk) ∧
        next.types.taken = rust.types.taken.insert (typeName plan.table) plan.table ∧
        Rust.Nameable rust.types.taken (typeName plan.table) (plan.members.map (fieldName ·.name))) ∨
      ∃ next diagnostic, (Emitter.rust rust).emitTable plan = (.rust next, .error diagnostic) ∧ diagnostic.isNaming ∧
        ¬ Rust.Nameable rust.types.taken (typeName plan.table) (plan.members.map (fieldName ·.name)) := by
  have names : plan.members.map (fieldName ·.name) = (plan.members.map (·.name)).map fieldName := by simp
  rw [emitTable, Rust.Emitter.emitTable, names]
  rcases Rust.claims_cases rust.types plan.table (.table plan.table) fieldName (plan.members.map (·.name)) with
    ⟨types, schema, taken, fields, nameable⟩ | ⟨types, diagnostic, naming, unnameable, schema | ⟨schema, fields⟩⟩
  · -- Different generated names come from different names, and then code exists.
    obtain ⟨lines, generated⟩ := (computed.faultless nameable.distinct.of_map).tableLines
    simp only [schema, fields, generated]
    exact .inl ⟨_, _, rfl, taken, nameable⟩
  · simp only [schema]
    exact .inr ⟨_, diagnostic, rfl, naming, unnameable⟩
  · simp only [schema, fields]
    exact .inr ⟨_, diagnostic, rfl, naming, unnameable⟩

end Emit

/-! ### One declaration -/

namespace Session

/-- What becomes of a session with one more declaration, and the outcome. -/
inductive Adds (session : Session) : Declaration → Session → Except Diagnostic Unit → Prop
  | overflow {decl : EnumDecl} (many : decl.repr.valueCapacity < decl.values.length) :
      session.Adds (.enum decl) session (.error (.enumOverflow decl.name decl.values.length decl.repr))
  | unnamedEnum {decl : EnumDecl} {emitter : Emitter} {diagnostic : Diagnostic}
      (numbered : decl.values.length ≤ decl.repr.valueCapacity)
      (emitted : session.emitter.emitEnum decl = (emitter, .error diagnostic)) :
      session.Adds (.enum decl) { session with types := session.types.declareEnum decl, emitter := emitter }
        (.error diagnostic)
  | enum {decl : EnumDecl} {emitter : Emitter} {chunk : String}
      (numbered : decl.values.length ≤ decl.repr.valueCapacity)
      (emitted : session.emitter.emitEnum decl = (emitter, .ok chunk)) :
      session.Adds (.enum decl)
        { session with
          types := session.types.declareEnum decl
          emitter := emitter
          chunks := session.chunks ++ [chunk]
          declarations := session.declarations ++ [.enum decl] } (.ok ())
  | unresolved {decl : TableDecl} {diagnostic : Diagnostic}
      (failed : decl.fields.mapM (resolve (session.types.declareTable decl) decl.name) = .error diagnostic) :
      session.Adds (.table decl) { session with types := session.types.declareTable decl } (.error diagnostic)
  | unnamedTable {decl : TableDecl} {members : List Member} {emitter : Emitter} {diagnostic : Diagnostic}
      (resolved : decl.fields.mapM (resolve (session.types.declareTable decl) decl.name) = .ok members)
      (emitted : session.emitter.emitTable (.compute decl.name decl.tag members) = (emitter, .error diagnostic)) :
      session.Adds (.table decl)
        { session with
          types := session.types.declareTable decl
          emitter := emitter
          tags := session.tags.insert decl.tag decl.name } (.error diagnostic)
  | table {decl : TableDecl} {members : List Member} {emitter : Emitter} {chunk : String}
      (resolved : decl.fields.mapM (resolve (session.types.declareTable decl) decl.name) = .ok members)
      (emitted : session.emitter.emitTable (.compute decl.name decl.tag members) = (emitter, .ok chunk)) :
      session.Adds (.table decl)
        { session with
          types := session.types.declareTable decl
          emitter := emitter
          tags := session.tags.insert decl.tag decl.name
          chunks := session.chunks ++ [chunk]
          plans := session.plans ++ [.compute decl.name decl.tag members]
          declarations := session.declarations ++ [.table decl] } (.ok ())

theorem adds (session : Session) (declaration : Declaration) :
    session.Adds declaration (session.add declaration).1 (session.add declaration).2 := by
  cases declaration with
  | enum decl =>
    rw [add, addEnum]
    by_cases many : decl.repr.valueCapacity < decl.values.length
    · rw [if_pos many]
      exact .overflow many
    · rw [if_neg many]
      rw [Nat.not_lt] at many
      cases emitted : session.emitter.emitEnum decl with
      | mk emitter outcome =>
        cases outcome with
        | error diagnostic => exact .unnamedEnum many emitted
        | ok chunk => exact .enum many emitted
  | table decl =>
    rw [add, addTable]
    cases resolved : decl.fields.mapM (resolve (session.types.declareTable decl) decl.name) with
    | error diagnostic => exact .unresolved resolved
    | ok members =>
      simp only
      cases emitted : session.emitter.emitTable (.compute decl.name decl.tag members) with
      | mk emitter outcome =>
        cases outcome with
        | error diagnostic => exact .unnamedTable resolved emitted
        | ok chunk => exact .table resolved emitted

theorem Adds.eq {session later : Session} {declaration : Declaration} {outcome : Except Diagnostic Unit}
    (step : session.Adds declaration later outcome) : session.add declaration = (later, outcome) := by
  cases step with
  | overflow many => rw [add, addEnum, if_pos many]
  | unnamedEnum numbered emitted => rw [add, addEnum, if_neg (Nat.not_lt.mpr numbered), emitted]
  | enum numbered emitted => rw [add, addEnum, if_neg (Nat.not_lt.mpr numbered), emitted]
  | unresolved failed => simp only [add, addTable, failed]
  | unnamedTable resolved emitted => simp only [add, addTable, resolved, emitted]
  | table resolved emitted => simp only [add, addTable, resolved, emitted]

theorem adds_iff {session later : Session} {declaration : Declaration} {outcome : Except Diagnostic Unit} :
    session.Adds declaration later outcome ↔ session.add declaration = (later, outcome) := by
  refine ⟨Adds.eq, fun added => ?_⟩
  have step := session.adds declaration
  rwa [added] at step

theorem add_outcome (session : Session) (declaration : Declaration) :
    (∃ later, session.add declaration = (later, .ok ())) ∨
      ∃ later diagnostic, session.add declaration = (later, .error diagnostic) := by
  cases added : session.add declaration with
  | mk later outcome =>
    cases outcome with
    | error diagnostic => exact .inr ⟨later, diagnostic, rfl⟩
    | ok done => exact .inl ⟨later, rfl⟩

/-- A declaration that is added is in scope from then on. -/
theorem Adds.types {session later : Session} {declaration : Declaration}
    (step : session.Adds declaration later (.ok ())) : later.types = session.types.declare declaration := by
  cases step with
  | enum numbered emitted => rfl
  | table resolved emitted => rfl

/-! ### Runs that fail -/

/-- A run that adds some declarations and then fails, because the next one could not be read or added. -/
inductive FailsAfter : Session → List (Except Diagnostic Declaration) → List Declaration → Diagnostic → Prop
  | unread {session : Session} {diagnostic : Diagnostic} {rest : List (Except Diagnostic Declaration)} :
      FailsAfter session (.error diagnostic :: rest) [] diagnostic
  | refused {session later : Session} {declaration : Declaration} {diagnostic : Diagnostic}
      {rest : List (Except Diagnostic Declaration)} (added : session.add declaration = (later, .error diagnostic)) :
      FailsAfter session (.ok declaration :: rest) [] diagnostic
  | later {session later : Session} {declaration : Declaration} {diagnostic : Diagnostic}
      {rest : List (Except Diagnostic Declaration)} {earlier : List Declaration}
      (added : session.add declaration = (later, .ok ())) (fails : FailsAfter later rest earlier diagnostic) :
      FailsAfter session (.ok declaration :: rest) (declaration :: earlier) diagnostic

theorem addAll_ok_cons {session later : Session} {declaration : Declaration}
    (added : session.add declaration = (later, .ok ())) (items : List (Except Diagnostic Declaration)) :
    session.addAll (.ok declaration :: items) = later.addAll items := by
  rw [addAll, added]

theorem addAll_refused {session later : Session} {declaration : Declaration} {diagnostic : Diagnostic}
    (added : session.add declaration = (later, .error diagnostic)) (items : List (Except Diagnostic Declaration)) :
    session.addAll (.ok declaration :: items) = .error diagnostic := by
  rw [addAll, added]

theorem addAll_cons_ok {session final : Session} {declaration : Declaration}
    {items : List (Except Diagnostic Declaration)} (ran : session.addAll (.ok declaration :: items) = .ok final) :
    ∃ later, session.add declaration = (later, .ok ()) ∧ later.addAll items = .ok final := by
  rcases session.add_outcome declaration with ⟨later, added⟩ | ⟨later, diagnostic, refused⟩
  · exact ⟨later, added, (addAll_ok_cons added items).symm.trans ran⟩
  · exact nomatch (addAll_refused refused items).symm.trans ran

theorem FailsAfter.addAll_eq {session : Session} {items : List (Except Diagnostic Declaration)}
    {earlier : List Declaration} {diagnostic : Diagnostic} (fails : session.FailsAfter items earlier diagnostic) :
    session.addAll items = .error diagnostic := by
  induction fails with
  | unread => rfl
  | refused added => exact addAll_refused added _
  | later added _ ih => rw [addAll_ok_cons added, ih]

theorem exists_failsAfter {session : Session} {items : List (Except Diagnostic Declaration)} {diagnostic : Diagnostic}
    (failed : session.addAll items = .error diagnostic) : ∃ earlier, session.FailsAfter items earlier diagnostic := by
  induction items generalizing session with
  | nil => simp [addAll] at failed
  | cons item items ih =>
    cases item with
    | error read =>
      obtain rfl : read = diagnostic := Except.error.inj failed
      exact ⟨[], .unread⟩
    | ok declaration =>
      rcases session.add_outcome declaration with ⟨later, added⟩ | ⟨later, why, refused⟩
      · rw [addAll_ok_cons added] at failed
        obtain ⟨earlier, fails⟩ := ih failed
        exact ⟨declaration :: earlier, .later added fails⟩
      · obtain rfl : why = diagnostic := Except.error.inj ((addAll_refused refused items).symm.trans failed)
        exact ⟨[], .refused refused⟩

theorem addAll_append_ok {session middle : Session} {first : List (Except Diagnostic Declaration)}
    (ran : session.addAll first = .ok middle) (second : List (Except Diagnostic Declaration)) :
    session.addAll (first ++ second) = middle.addAll second := by
  induction first generalizing session with
  | nil =>
    obtain rfl := Except.ok.inj ran
    rfl
  | cons item first ih =>
    cases item with
    | error diagnostic => simp [addAll] at ran
    | ok declaration =>
      obtain ⟨later, added, ran⟩ := addAll_cons_ok ran
      rw [List.cons_append, addAll_ok_cons added, ih ran]

/-- A run over more declarations that fails goes on from where the first ones led to. -/
theorem FailsAfter.behind {session middle : Session} {first more : List Declaration} {diagnostic : Diagnostic}
    {items : List (Except Diagnostic Declaration)} (ran : session.addAll (first.map .ok) = .ok middle)
    (fails : middle.FailsAfter items more diagnostic) :
    session.FailsAfter (first.map .ok ++ items) (first ++ more) diagnostic := by
  induction first generalizing session with
  | nil =>
    obtain rfl := Except.ok.inj ran
    exact fails
  | cons declaration first ih =>
    obtain ⟨later, added, ran⟩ := addAll_cons_ok ran
    exact .later added (ih ran)

/-- A run that fails within the first declarations fails on one of them, whatever follows. -/
theorem exists_failsAfter_within {session : Session} {first : List Declaration} {diagnostic : Diagnostic}
    (failed : session.addAll (first.map .ok) = .error diagnostic) (items : List (Except Diagnostic Declaration)) :
    ∃ before declaration after, first = before ++ declaration :: after ∧
      session.FailsAfter (first.map .ok ++ items) before diagnostic := by
  induction first generalizing session with
  | nil => simp [addAll] at failed
  | cons declaration first ih =>
    rcases session.add_outcome declaration with ⟨later, added⟩ | ⟨later, why, refused⟩
    · rw [List.map_cons, addAll_ok_cons added] at failed
      obtain ⟨before, last, after, rfl, fails⟩ := ih failed
      exact ⟨declaration :: before, last, after, rfl, .later added fails⟩
    · obtain rfl : why = diagnostic := Except.error.inj ((addAll_refused refused _).symm.trans failed)
      exact ⟨[], declaration, first, rfl, .refused refused⟩

/-- A run that succeeds has come through its first declarations. -/
theorem addAll_split {session final : Session} {first : List Declaration}
    {items : List (Except Diagnostic Declaration)} (ran : session.addAll (first.map .ok ++ items) = .ok final) :
    ∃ middle, session.addAll (first.map .ok) = .ok middle ∧ middle.addAll items = .ok final := by
  cases reached : session.addAll (first.map .ok) with
  | error diagnostic =>
    obtain ⟨before, declaration, after, -, fails⟩ := exists_failsAfter_within reached items
    exact nomatch ran.symm.trans fails.addAll_eq
  | ok middle => exact ⟨middle, rfl, (addAll_append_ok reached items).symm.trans ran⟩

end Session

/-- Compiling a text adds some declarations and then fails. -/
def CompileFailsAfter (text : String) (options : Options) (earlier : List Declaration) (diagnostic : Diagnostic) :
    Prop :=
  (Session.start options).FailsAfter (readAll text) earlier diagnostic

theorem compile_error_iff {text : String} {options : Options} {diagnostic : Diagnostic} :
    compile text options = .error diagnostic ↔ ∃ earlier, CompileFailsAfter text options earlier diagnostic := by
  rw [compile, map_error_iff]
  refine ⟨Session.exists_failsAfter, ?_⟩
  rintro ⟨earlier, fails⟩
  exact fails.addAll_eq

end TableWire
