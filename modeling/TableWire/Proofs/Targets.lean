import Mathlib
import TableWire.Proofs.Growth
import TableWire.Proofs.Steps

/-!
The two targets side by side. A session that generates Rust and one that generates TypeScript come to the same layouts
and the same failures as long as the generated Rust names can be used (`Session.Matches`). So a schema compiles to Rust
exactly if it compiles to TypeScript and is well named (`Rust.WellNamed`).
-/
namespace TableWire
open Schema Layout Emit

namespace Emit.Rust

/-- The generated names of the values or fields of a declaration. -/
def innerNames : Declaration → List String
  | .enum decl => decl.values.map typeName
  | .table decl => decl.fields.map (fieldName ·.name)

/-- Declarations whose generated names can be used and differ from each other in every scope. -/
structure WellNamed (declarations : List Declaration) : Prop where
  types : (declarations.map (typeName ·.name)).Nodup
  inner : ∀ declaration ∈ declarations, (innerNames declaration).Nodup
  usable : ∀ declaration ∈ declarations,
    Usable (typeName declaration.name) ∧ ∀ generated ∈ innerNames declaration, Usable generated

theorem WellNamed.sublist {first second : List Declaration} (sub : first.Sublist second) (named : WellNamed second) :
    WellNamed first :=
  ⟨named.types.sublist (sub.map _), fun declaration member => named.inner declaration (sub.subset member),
    fun declaration member => named.usable declaration (sub.subset member)⟩

/-- One more declaration is well named if its names can be taken next to those of the others. -/
theorem wellNamed_append {taken : Std.TreeMap String String} {declarations : List Declaration}
    (declaration : Declaration)
    (claimed : ∀ generated, generated ∈ taken ↔ generated ∈ declarations.map (typeName ·.name)) :
    WellNamed (declarations ++ [declaration]) ↔
      WellNamed declarations ∧ Nameable taken (typeName declaration.name) (innerNames declaration) := by
  constructor
  · intro named
    have last : declaration ∈ declarations ++ [declaration] := by simp
    obtain ⟨usable, innerUsable⟩ := named.usable declaration last
    refine ⟨named.sublist (List.sublist_append_left ..), ?_, usable, named.inner declaration last, innerUsable⟩
    have types := named.types
    rw [List.map_append, List.nodup_append] at types
    intro member
    exact types.2.2 _ ((claimed _).mp member) _ (by simp) rfl
  · rintro ⟨named, free, usable, distinct, innerUsable⟩
    have split : ∀ other ∈ declarations ++ [declaration], other ∈ declarations ∨ other = declaration := by simp
    refine ⟨?_, ?_, ?_⟩
    · rw [List.map_append, List.map_singleton, List.nodup_append]
      refine ⟨named.types, by simp, ?_⟩
      rintro generated member other same rfl
      rw [List.mem_singleton] at same
      exact free ((claimed _).mpr (same ▸ member))
    · intro other member
      rcases split other member with early | rfl
      · exact named.inner other early
      · exact distinct
    · intro other member
      rcases split other member with early | rfl
      · exact named.usable other early
      · exact ⟨usable, innerUsable⟩

end Emit.Rust

theorem Layout.resolve_names {scope : TypeScope} {table : String} {fields : List FieldDecl} {members : List Member}
    (resolved : fields.mapM (resolve scope table) = .ok members) : members.map (·.name) = fields.map (·.name) := by
  refine (map_eq_of_forall₂ ((mapM_ok_iff.mp resolved).imp fun field member found => ?_)).symm
  obtain ⟨storage, -, rfl⟩ := map_ok_iff.mp found
  rfl

/-! ### Sessions of both targets -/

namespace Session

/-- Sessions for Rust and for TypeScript that have compiled the same declarations, which are well named. The names
taken are exactly those of the declarations. -/
structure Matches (rust script : Session) : Prop where
  types : rust.types = script.types
  tags : rust.tags = script.tags
  plans : rust.plans = script.plans
  declarations : rust.declarations = script.declarations
  named : Rust.WellNamed script.declarations
  claimed : ∃ emitter, rust.emitter = .rust emitter ∧
    ∀ generated, generated ∈ emitter.types.taken ↔ generated ∈ script.declarations.map (typeName ·.name)
  unclaimed : ∃ emitter, script.emitter = .typeScript emitter

theorem Matches.start (rustPath scriptPath : Option String) :
    (Session.start ⟨.rust, rustPath⟩).Matches (Session.start ⟨.typeScript, scriptPath⟩) where
  types := rfl
  tags := rfl
  plans := rfl
  declarations := rfl
  named := ⟨by simp [Session.start], by simp [Session.start], by simp [Session.start]⟩
  claimed := ⟨.new _, rfl, by simp [Session.start, Rust.Emitter.new, NameClaims.empty]⟩
  unclaimed := ⟨_, rfl⟩

/-- The names taken after one more declaration. -/
theorem claimed_insert {taken : Std.TreeMap String String} {declarations : List Declaration} (declaration : Declaration)
    (claimed : ∀ generated, generated ∈ taken ↔ generated ∈ declarations.map (typeName ·.name)) (generated : String) :
    generated ∈ taken.insert (typeName declaration.name) declaration.name ↔
      generated ∈ (declarations ++ [declaration]).map (typeName ·.name) := by
  rw [Std.TreeMap.mem_insert, Std.compare_eq_iff_eq, claimed]
  simp [or_comm, eq_comm]

section
variable {rust script later : Session} {declaration : Declaration} (same : rust.Matches script)
include same

/-- What TypeScript fails on is found before any code is generated, and Rust fails on it too. -/
theorem Matches.add_error {diagnostic : Diagnostic} (added : script.add declaration = (later, .error diagnostic)) :
    ∃ other, rust.add declaration = (other, .error diagnostic) := by
  obtain ⟨emitter, isScript⟩ := same.unclaimed
  cases adds_iff.mpr added with
  | overflow many => exact ⟨_, (Adds.overflow many).eq⟩
  | unnamedEnum numbered emitted =>
    rw [isScript] at emitted
    exact nomatch (Prod.mk.inj emitted).2
  | unresolved failed =>
    rw [← same.types] at failed
    exact ⟨_, (Adds.unresolved failed).eq⟩
  | unnamedTable resolved emitted =>
    rw [isScript] at emitted
    exact nomatch (Prod.mk.inj emitted).2

/-- A declaration that TypeScript accepts is accepted for Rust too, unless it is not well named. -/
theorem Matches.add_ok (added : script.add declaration = (later, .ok ())) :
    (∃ other, rust.add declaration = (other, .ok ()) ∧ other.Matches later) ∨
      ∃ other diagnostic, rust.add declaration = (other, .error diagnostic) ∧ diagnostic.isNaming ∧
        ¬ Rust.WellNamed later.declarations := by
  obtain ⟨emitter, isScript⟩ := same.unclaimed
  obtain ⟨generator, isRust, claimed⟩ := same.claimed
  have named := Rust.wellNamed_append declaration claimed
  have insertion := claimed_insert declaration claimed
  cases adds_iff.mpr added with
  | @enum decl _ chunk numbered emitted =>
    rw [isScript] at emitted
    obtain ⟨rfl, -⟩ := Prod.mk.inj emitted
    rcases Emitter.emitEnum_outcome generator decl with
      ⟨next, code, emits, taken, nameable⟩ | ⟨next, diagnostic, emits, naming, unnameable⟩
    · rw [← isRust] at emits
      refine .inl ⟨_, (Adds.enum numbered emits).eq, ?_⟩
      exact { types := congrArg (TypeScope.declareEnum · decl) same.types
              tags := same.tags
              plans := same.plans
              declarations := congrArg (· ++ [.enum decl]) same.declarations
              named := named.mpr ⟨same.named, nameable⟩
              claimed := ⟨next, rfl, taken ▸ insertion⟩
              unclaimed := ⟨emitter, rfl⟩ }
    · rw [← isRust] at emits
      exact .inr ⟨_, diagnostic, (Adds.unnamedEnum numbered emits).eq, naming, fun all => unnameable (named.mp all).2⟩
  | @table decl members _ chunk resolved emitted =>
    rw [isScript] at emitted
    obtain ⟨rfl, -⟩ := Prod.mk.inj emitted
    -- Rust takes names for the members of the plan, which are those of the fields that were declared.
    have inner : (Plan.compute decl.name decl.tag members).members.map (fieldName ·.name) =
        Rust.innerNames (.table decl) := by
      have names := congrArg (List.map fieldName) (resolve_names resolved)
      rwa [List.map_map, List.map_map] at names
    rw [← same.types] at resolved
    have computed : (Plan.compute decl.name decl.tag members).Computed := rfl
    have outcome := Emitter.emitTable_outcome generator computed
    rw [inner] at outcome
    rcases outcome with ⟨next, code, emits, taken, nameable⟩ | ⟨next, diagnostic, emits, naming, unnameable⟩
    · rw [← isRust] at emits
      refine .inl ⟨_, (Adds.table resolved emits).eq, ?_⟩
      exact { types := congrArg (TypeScope.declareTable · decl) same.types
              tags := congrArg (·.insert decl.tag decl.name) same.tags
              plans := congrArg (· ++ [Plan.compute decl.name decl.tag members]) same.plans
              declarations := congrArg (· ++ [.table decl]) same.declarations
              named := named.mpr ⟨same.named, nameable⟩
              claimed := ⟨next, rfl, taken ▸ insertion⟩
              unclaimed := ⟨emitter, rfl⟩ }
    · rw [← isRust] at emits
      exact .inr ⟨_, diagnostic, (Adds.unnamedTable resolved emits).eq, naming, fun all => unnameable (named.mp all).2⟩

end

section
variable {rust script final : Session} {items : List (Except Diagnostic Declaration)}

/-- A run that succeeds for TypeScript succeeds for Rust too, unless what was compiled is not well named. -/
theorem Matches.addAll_ok (same : rust.Matches script) (ran : script.addAll items = .ok final) :
    (∃ other, rust.addAll items = .ok other ∧ other.Matches final) ∨
      ∃ diagnostic, (rust.addAll items = .error diagnostic ∧ diagnostic.isNaming) ∧
        ¬ Rust.WellNamed final.declarations := by
  induction items generalizing rust script with
  | nil =>
    obtain rfl := Except.ok.inj ran
    exact .inl ⟨rust, rfl, same⟩
  | cons item items ih =>
    cases item with
    | error diagnostic => simp [addAll] at ran
    | ok declaration =>
      obtain ⟨later, added, ran⟩ := addAll_cons_ok ran
      rcases same.add_ok added with ⟨next, accepted, still⟩ | ⟨next, diagnostic, refused, naming, unnamed⟩
      · rw [addAll_ok_cons accepted]
        exact ih still ran
      · refine .inr ⟨diagnostic, ⟨addAll_refused refused items, naming⟩, fun named => unnamed ?_⟩
        exact named.sublist (addAll_extends ran).declarations.sublist

/-- Where a run fails for TypeScript it fails for Rust, unless a declaration before has no names for Rust. -/
theorem Matches.failsAfter {earlier : List Declaration} {diagnostic : Diagnostic} (same : rust.Matches script)
    (fails : script.FailsAfter items earlier diagnostic) :
    rust.FailsAfter items earlier diagnostic ∨
      ∃ before declaration after naming, earlier = before ++ declaration :: after ∧ naming.isNaming ∧
        rust.FailsAfter items before naming := by
  induction fails generalizing rust with
  | unread => exact .inl .unread
  | refused added =>
    obtain ⟨other, refused⟩ := same.add_error added
    exact .inl (.refused refused)
  | @later script later declaration diagnostic rest earlier added _ ih =>
    rcases same.add_ok added with ⟨next, accepted, still⟩ | ⟨next, naming, refused, isNaming, -⟩
    · rcases ih still with fails | ⟨before, unnamed, after, naming, rfl, isNaming, fails⟩
      · exact .inl (.later accepted fails)
      · exact .inr ⟨declaration :: before, unnamed, after, naming, rfl, isNaming, .later accepted fails⟩
    · exact .inr ⟨[], declaration, earlier, naming, rfl, isNaming, .refused refused⟩

/-- A run that succeeds for Rust succeeds for TypeScript, with the same result. -/
theorem exists_matches {rustPath : Option String} (scriptPath : Option String)
    (ran : (Session.start ⟨.rust, rustPath⟩).addAll items = .ok rust) :
    ∃ script, (Session.start ⟨.typeScript, scriptPath⟩).addAll items = .ok script ∧ rust.Matches script := by
  have same := Matches.start rustPath scriptPath
  cases ranScript : (Session.start ⟨.typeScript, scriptPath⟩).addAll items with
  | error diagnostic =>
    obtain ⟨earlier, fails⟩ := exists_failsAfter ranScript
    rcases same.failsAfter fails with again | ⟨before, declaration, after, naming, -, -, again⟩
    · exact nomatch ran.symm.trans again.addAll_eq
    · exact nomatch ran.symm.trans again.addAll_eq
  | ok script =>
    rcases same.addAll_ok ranScript with ⟨other, again, matched⟩ | ⟨diagnostic, ⟨failed, -⟩, -⟩
    · obtain rfl := Except.ok.inj (ran.symm.trans again)
      exact ⟨script, rfl, matched⟩
    · exact nomatch ran.symm.trans failed

end
end Session

/-- A schema compiles to Rust exactly if it compiles to TypeScript and its generated Rust names can be used. Both come
to the same plans, declarations and tags. Where TypeScript fails, Rust fails with the same, or on the names of a
declaration that stands before. -/
theorem compile_targets (text : String) (rustPath scriptPath : Option String) :
    ((∃ compilation, compile text ⟨.rust, rustPath⟩ = .ok compilation) ↔
      ∃ compilation, compile text ⟨.typeScript, scriptPath⟩ = .ok compilation ∧
        Rust.WellNamed compilation.declarations) ∧
    (∀ rust script, compile text ⟨.rust, rustPath⟩ = .ok rust → compile text ⟨.typeScript, scriptPath⟩ = .ok script →
      rust.plans = script.plans ∧ rust.declarations = script.declarations ∧
        ∀ tag, rust.tableFor? tag = script.tableFor? tag) ∧
    ∀ diagnostic, compile text ⟨.typeScript, scriptPath⟩ = .error diagnostic →
      ∃ earlier, CompileFailsAfter text ⟨.typeScript, scriptPath⟩ earlier diagnostic ∧
        (compile text ⟨.rust, rustPath⟩ = .error diagnostic ∨
          ∃ before declaration after naming, earlier = before ++ declaration :: after ∧ naming.isNaming ∧
            CompileFailsAfter text ⟨.rust, rustPath⟩ before naming ∧
            compile text ⟨.rust, rustPath⟩ = .error naming) := by
  have same := Session.Matches.start rustPath scriptPath
  refine ⟨⟨?_, ?_⟩, ?_, ?_⟩
  · rintro ⟨compilation, compiled⟩
    obtain ⟨session, ran, -⟩ := map_ok_iff.mp compiled
    obtain ⟨final, ranScript, matched⟩ := Session.exists_matches scriptPath ran
    exact ⟨final.finish, map_ok_iff.mpr ⟨final, ranScript, rfl⟩, matched.named⟩
  · rintro ⟨compilation, compiled, named⟩
    obtain ⟨final, ran, rfl⟩ := map_ok_iff.mp compiled
    rcases same.addAll_ok ran with ⟨other, ranRust, -⟩ | ⟨diagnostic, -, unnamed⟩
    · exact ⟨other.finish, map_ok_iff.mpr ⟨other, ranRust, rfl⟩⟩
    · exact absurd named unnamed
  · intro rust script compiledRust compiledScript
    obtain ⟨session, ranRust, rfl⟩ := map_ok_iff.mp compiledRust
    obtain ⟨final, ranScript, rfl⟩ := map_ok_iff.mp compiledScript
    obtain ⟨other, again, matched⟩ := Session.exists_matches scriptPath ranRust
    obtain rfl := Except.ok.inj (ranScript.symm.trans again)
    exact ⟨matched.plans, matched.declarations, fun tag => congrArg (·[tag]?) matched.tags⟩
  · intro diagnostic failed
    obtain ⟨earlier, fails⟩ := compile_error_iff.mp failed
    refine ⟨earlier, fails, ?_⟩
    rcases same.failsAfter fails with again | ⟨before, declaration, after, naming, split, isNaming, again⟩
    · exact .inl (compile_error_iff.mpr ⟨earlier, again⟩)
    · exact .inr ⟨before, declaration, after, naming, split, isNaming, again, compile_error_iff.mpr ⟨before, again⟩⟩

/-- An enum and a table with usable names are laid out in the same way for both targets. A field of an unknown type is
what TypeScript fails on, when Rust has failed on two fields with one name before. -/
theorem camel_and_snake_targets :
    (∃ rust script,
      compile "enum Kind: byte \x7b cat \x7d table pet: PETT \x7b kind: Kind \x7d" ⟨.rust, none⟩ = .ok rust ∧
      compile "enum Kind: byte \x7b cat \x7d table pet: PETT \x7b kind: Kind \x7d" ⟨.typeScript, none⟩ = .ok script ∧
      rust.plans = script.plans) ∧
    ∃ before declaration after naming, naming.isNaming ∧
      CompileFailsAfter "table T: TTTT \x7b aB: byte; a_b: byte \x7d table U: UUUU \x7b n: Nope \x7d"
        ⟨.typeScript, none⟩ (before ++ declaration :: after) (.unknownType ⟨"U", "n", "Nope"⟩) ∧
      CompileFailsAfter "table T: TTTT \x7b aB: byte; a_b: byte \x7d table U: UUUU \x7b n: Nope \x7d" ⟨.rust, none⟩
        before naming := by
  constructor
  · have forRust : (compile "enum Kind: byte \x7b cat \x7d table pet: PETT \x7b kind: Kind \x7d"
        ⟨.rust, none⟩).toOption.isSome := by decide +kernel
    have forScript : (compile "enum Kind: byte \x7b cat \x7d table pet: PETT \x7b kind: Kind \x7d"
        ⟨.typeScript, none⟩).toOption.isSome := by decide +kernel
    obtain ⟨rust, compiledRust⟩ := exists_ok forRust
    obtain ⟨script, compiledScript⟩ := exists_ok forScript
    obtain ⟨plans, -⟩ := (compile_targets _ none none).2.1 rust script compiledRust compiledScript
    exact ⟨rust, script, compiledRust, compiledScript, plans⟩
  · have unknown : (compile "table T: TTTT \x7b aB: byte; a_b: byte \x7d table U: UUUU \x7b n: Nope \x7d"
        ⟨.typeScript, none⟩).map (·.output) = .error (.unknownType ⟨"U", "n", "Nope"⟩) := by decide +kernel
    have collision : (compile "table T: TTTT \x7b aB: byte; a_b: byte \x7d table U: UUUU \x7b n: Nope \x7d"
        ⟨.rust, none⟩).map (·.output) = .error (.nameCollision (.table "T") "aB" "a_b" "a_b") := by decide +kernel
    obtain ⟨earlier, fails, again | ⟨before, declaration, after, naming, rfl, isNaming, refused, -⟩⟩ :=
      (compile_targets _ none none).2.2 _ (map_error_iff.mp unknown)
    · rw [map_error_iff.mp collision] at again
      exact nomatch again
    · exact ⟨before, declaration, after, naming, isNaming, fails, refused⟩

end TableWire
