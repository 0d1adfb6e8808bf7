import Mathlib
import TableWire.Proofs.Faults
import TableWire.Proofs.Names
import TableWire.Proofs.References

/-!
Spellings of names. What a name is apart from case and underscores is kept when it is put in another case and escaped
(`folded_typeName`, `folded_fieldName`). Names that generated code cannot tell apart stand in one scope of the schema
(`Collides`), so they are spellings of the same name.
-/
namespace TableWire
open Schema Layout Emit

/-! ### What a spelling keeps -/

namespace Emit
open Text (upperChar lowerChar lowerText lowerAfter)

/-- Characters without underscores, in lower case. -/
def foldChars (cs : List Char) : List Char := (cs.filter (· ≠ '_')).map Char.toLower

/-- What a name is apart from case and underscores. -/
def folded (name : String) : String := String.ofList (foldChars name.toList)

@[simp] theorem foldChars_nil : foldChars [] = [] := rfl

@[simp] theorem foldChars_append (front back : List Char) :
    foldChars (front ++ back) = foldChars front ++ foldChars back := by
  simp [foldChars]

theorem foldChars_cons (c : Char) (cs : List Char) : foldChars (c :: cs) = foldChars [c] ++ foldChars cs :=
  foldChars_append [c] cs

theorem foldChars_singleton {c : Char} : foldChars [c] = [] ↔ c = '_' := by
  simp [foldChars]

theorem wordChar_folds {c : Char} (word : isWordChar c) :
    foldChars [c.toUpper] = foldChars [c] ∧ foldChars [c.toLower] = foldChars [c] :=
  wordChar_forall (P := fun c => foldChars [c.toUpper] = foldChars [c] ∧ foldChars [c.toLower] = foldChars [c])
    (by decide +kernel) word

/-- The case of an underscore is the underscore, and that of no other character. -/
theorem wordChar_underscore {c : Char} (word : isWordChar c) :
    (c.toUpper = '_' ↔ c = '_') ∧ (c.toLower = '_' ↔ c = '_') := by
  obtain ⟨upper, lower⟩ := wordChar_folds word
  constructor
  · rw [← foldChars_singleton, upper, foldChars_singleton]
  · rw [← foldChars_singleton, lower, foldChars_singleton]

section
variable {cs : List Char} (word : WordChars cs)
include word

theorem foldChars_lower : foldChars (cs.map Char.toLower) = foldChars cs := by
  induction cs with
  | nil => rfl
  | cons c cs ih =>
    obtain ⟨first, rest⟩ := wordChars_cons.mp word
    rw [List.map_cons, foldChars_cons, (wordChar_folds first).2, ih rest, ← foldChars_cons]

theorem foldChars_capitalize (lowerRest : Bool) : foldChars (capitalize lowerRest cs) = foldChars cs := by
  cases cs with
  | nil => rfl
  | cons c rest =>
    obtain ⟨first, others⟩ := wordChars_cons.mp word
    rw [capitalize, foldChars_append, upperChar_of_word first, (wordChar_folds first).1, foldChars_cons c rest]
    cases lowerRest with
    | false => rfl
    | true => rw [if_pos rfl, lowerText, lowerAfter_of_word others, foldChars_lower others]

theorem underscore_notMem_capitalize (none : '_' ∉ cs) (lowerRest : Bool) : '_' ∉ capitalize lowerRest cs := by
  cases cs with
  | nil => exact none
  | cons c rest =>
    obtain ⟨first, others⟩ := wordChars_cons.mp word
    obtain ⟨apart, absent⟩ : '_' ≠ c ∧ '_' ∉ rest := by simpa using none
    have upper : '_' ≠ c.toUpper := fun same => apart ((wordChar_underscore first).1.mp same.symm).symm
    have lower : '_' ∉ rest.map Char.toLower := by
      intro member
      obtain ⟨other, inside, same⟩ := List.mem_map.mp member
      obtain rfl := (wordChar_underscore (others other inside)).2.mp same
      exact absent inside
    rw [capitalize, upperChar_of_word first, lowerText, lowerAfter_of_word others]
    cases lowerRest with
    | false => simpa using ⟨upper, absent⟩
    | true => simpa using ⟨upper, by simpa using lower⟩

end

/-- Only underscores are lost between the words of a name. -/
theorem foldChars_splitOn (cs : List Char) : (cs.splitOn '_').flatMap foldChars = foldChars cs := by
  induction cs with
  | nil => simp
  | cons c cs ih =>
    rw [List.splitOn_cons_eq_if_modifyHead, foldChars_cons, ← ih]
    by_cases separates : c = '_'
    · simp [separates, foldChars]
    · rw [if_neg (by simpa using separates)]
      cases split : cs.splitOn '_' with
      | nil => exact absurd split (by simp)
      | cons first pieces => simp [foldChars_cons c first]

theorem foldChars_capitalized {pieces : List (List Char)} (words : ∀ piece ∈ pieces, WordChars piece) :
    foldChars ((pieces.filter (!·.isEmpty)).flatMap (capitalize true)) = pieces.flatMap foldChars := by
  induction pieces with
  | nil => rfl
  | cons piece pieces ih =>
    obtain ⟨first, rest⟩ := List.forall_mem_cons.mp words
    cases piece with
    | nil => simpa using ih rest
    | cons c piece => simp [foldChars_capitalize first, ih rest]

section
variable {cs : List Char} (word : WordChars cs)
include word

theorem foldChars_pascalChars : foldChars (pascalChars cs) = foldChars cs := by
  unfold pascalChars
  split
  · have words : ∀ piece ∈ cs.splitOn '_', WordChars piece :=
      fun piece listed c inside => word c ((splitOn_piece listed).2 inside)
    rw [foldChars_capitalized words, foldChars_splitOn]
  · exact foldChars_capitalize word _

theorem underscore_notMem_pascalChars : '_' ∉ pascalChars cs := by
  unfold pascalChars
  split
  · intro member
    obtain ⟨piece, listed, inside⟩ := List.mem_flatMap.mp member
    obtain ⟨none, within⟩ := splitOn_piece (List.mem_of_mem_filter listed)
    exact underscore_notMem_capitalize (fun c member => word c (within member)) none true inside
  · next none => exact underscore_notMem_capitalize word (by simpa using none) _

theorem foldChars_snakeAfter (previous : Option Char) : foldChars (snakeAfter previous cs) = foldChars cs := by
  induction cs generalizing previous with
  | nil => rfl
  | cons c cs ih =>
    obtain ⟨first, rest⟩ := wordChars_cons.mp word
    rw [snakeAfter, foldChars_cons c cs]
    by_cases upper : Text.isUpper c
    · -- What is put in front of a word is an underscore.
      have divider : foldChars (if startsWord previous cs then ['_'] else []) = [] := by split <;> rfl
      rw [if_pos upper, foldChars_append, foldChars_append, divider, lowerChar_of_word first,
        (wordChar_folds first).2, ih rest, List.nil_append]
    · rw [if_neg upper, foldChars_cons, ih rest]

theorem snakeAfter_lower (previous : Option Char) : ∀ c ∈ snakeAfter previous cs, Text.isUpper c = false := by
  induction cs generalizing previous with
  | nil => simp [snakeAfter]
  | cons c cs ih =>
    obtain ⟨first, rest⟩ := wordChars_cons.mp word
    have lowered : Text.isUpper c.toLower = false :=
      wordChar_forall (P := fun c => Text.isUpper c.toLower = false) (by decide +kernel) first
    rw [snakeAfter]
    by_cases upper : Text.isUpper c
    · have divider : ∀ c ∈ (if startsWord previous cs then ['_'] else []), Text.isUpper c = false := by
        split <;> simp [show Text.isUpper '_' = false from rfl]
      rw [if_pos upper, lowerChar_of_word first]
      simp only [List.forall_mem_append, List.forall_mem_singleton]
      exact ⟨⟨divider, lowered⟩, ih rest _⟩
    · rw [if_neg upper]
      exact List.forall_mem_cons.mpr ⟨by simpa using upper, ih rest _⟩

end

/-- Nothing is done about a name without upper case. -/
theorem snakeAfter_of_lower {cs : List Char} (lower : ∀ c ∈ cs, Text.isUpper c = false) (previous : Option Char) :
    snakeAfter previous cs = cs := by
  induction cs generalizing previous with
  | nil => rfl
  | cons c cs ih =>
    obtain ⟨first, rest⟩ := List.forall_mem_cons.mp lower
    rw [snakeAfter, if_neg (by simp [first]), ih rest]

theorem folded_escapeName (name : String) : folded (escapeName name) = folded name := by
  have underscore : foldChars "_".toList = [] := rfl
  unfold escapeName
  split_ifs with reserved digit
  · rw [folded, String.toList_append, foldChars_append, underscore, List.append_nil, folded]
  · rw [folded, String.toList_append, foldChars_append, underscore, List.nil_append, folded]
  · rfl

section
variable {name : String} (word : WordChars name.toList)
include word

theorem folded_typeName : folded (typeName name) = folded name := by
  rw [typeName, folded_escapeName, folded, pascalCase, String.toList_ofList, foldChars_pascalChars word, folded]

theorem folded_fieldName : folded (fieldName name) = folded name := by
  rw [fieldName, folded_escapeName, folded, snakeCase, String.toList_ofList, snakeChars, foldChars_snakeAfter word,
    folded]

theorem snakeCase_lower : ∀ c ∈ (snakeCase name).toList, Text.isUpper c = false := by
  rw [snakeCase, String.toList_ofList]
  exact snakeAfter_lower word none

theorem snakeCase_snakeCase : snakeCase (snakeCase name) = snakeCase name := by
  have same : snakeChars (snakeCase name).toList = (snakeCase name).toList :=
    snakeAfter_of_lower (snakeCase_lower word) none
  rw [snakeCase, same, String.ofList_toList]

theorem underscore_notMem_pascalCase : '_' ∉ (pascalCase name).toList := by
  rw [pascalCase, String.toList_ofList]
  exact underscore_notMem_pascalChars word

end

/-! ### Names that collide -/

/-- Two of some names, the second behind the first, that lead to the same generated name. -/
structure Repeats (generate : String → String) (names : List String) (first second generated : String) : Prop where
  listed : List.Sublist [first, second] names
  generates : generate first = generated
  again : generate second = generated

namespace NameClaims

/-- Every name that is taken was generated for one of some names. -/
def MadeFrom (claims : NameClaims) (generate : String → String) (names : List String) : Prop :=
  ∀ generated name : String, claims.taken[generated]? = some name → name ∈ names ∧ generate name = generated

theorem madeFrom_empty (generate : String → String) : empty.MadeFrom generate [] := by
  intro generated name found
  simp [empty] at found

variable {claims : NameClaims} {generate : String → String} {names : List String}

theorem MadeFrom.mono {more : List String} (made : claims.MadeFrom generate names) (sub : names ⊆ more) :
    claims.MadeFrom generate more :=
  fun generated name found => ⟨sub (made generated name found).1, (made generated name found).2⟩

theorem MadeFrom.insert (made : claims.MadeFrom generate names) (name : String) :
    MadeFrom ⟨claims.taken.insert (generate name) name⟩ generate (names ++ [name]) := by
  intro generated other found
  simp only [Std.TreeMap.getElem?_insert, Std.compare_eq_iff_eq] at found
  by_cases same : generate name = generated
  · rw [if_pos same] at found
    obtain rfl := Option.some.inj found
    exact ⟨by simp, same⟩
  · rw [if_neg same] at found
    obtain ⟨listed, generates⟩ := made generated other found
    exact ⟨List.mem_append_left _ listed, generates⟩

/-- What a claim leaves behind, and what it collides with. -/
theorem MadeFrom.claim (made : claims.MadeFrom generate names) (scope : NameScope) (name : String) :
    (claims.claim scope name (generate name)).1.MadeFrom generate (names ++ [name]) ∧
      ∀ place first second generated,
        (claims.claim scope name (generate name)).2 = .error (.nameCollision place first second generated) →
        place = scope ∧ Repeats generate (names ++ [name]) first second generated := by
  unfold NameClaims.claim
  by_cases unusable : generate name = "" ∨ generate name = "_"
  · rw [if_pos unusable]
    exact ⟨made.mono (List.subset_append_left ..), by simp⟩
  · rw [if_neg unusable]
    cases found : claims.taken[generate name]? with
    | none => exact ⟨made.insert name, by simp⟩
    | some earlier =>
      refine ⟨made.insert name, ?_⟩
      intro place first second generated collides
      simp only [Except.error.injEq, Diagnostic.nameCollision.injEq] at collides
      obtain ⟨rfl, rfl, rfl, rfl⟩ := collides
      obtain ⟨listed, generates⟩ := made _ _ found
      exact ⟨rfl, (List.singleton_sublist.mpr listed).append (List.Sublist.refl [name]), generates, rfl⟩

theorem MadeFrom.claimAll (made : claims.MadeFrom generate names) {scope place : NameScope} {more : List String}
    {first second generated : String}
    (failed : claims.claimAll scope generate more = .error (.nameCollision place first second generated)) :
    place = scope ∧ Repeats generate (names ++ more) first second generated := by
  induction more generalizing claims names with
  | nil => simp [NameClaims.claimAll] at failed
  | cons name more ih =>
    obtain ⟨later, collides⟩ := made.claim scope name
    have front : names ++ name :: more = (names ++ [name]) ++ more := by simp
    rw [NameClaims.claimAll] at failed
    cases claimed : claims.claim scope name (generate name) with
    | mk next outcome =>
      rw [claimed] at later collides failed
      cases outcome with
      | error diagnostic =>
        obtain ⟨same, listed, generates, again⟩ := collides _ _ _ _ failed
        exact ⟨same, front ▸ List.sublist_append_of_sublist_left listed, generates, again⟩
      | ok done =>
        rw [front]
        exact ih later failed

end NameClaims
end Emit

/-- The names in a scope of a schema, and how names are generated for them. -/
inductive ScopeNames (declarations : List Declaration) : NameScope → (String → String) → List String → Prop
  | schema : ScopeNames declarations .schema typeName (declarations.map (·.name))
  | enum {decl : EnumDecl} (declared : .enum decl ∈ declarations) :
      ScopeNames declarations (.enum decl.name) typeName decl.values
  | table {decl : TableDecl} (declared : .table decl ∈ declarations) :
      ScopeNames declarations (.table decl.name) fieldName (decl.fields.map (·.name))

/-- Two names in a scope of a schema that lead to the same generated name. -/
def Collides (declarations : List Declaration) (scope : NameScope) (first second generated : String) : Prop :=
  ∃ generate names, ScopeNames declarations scope generate names ∧ Repeats generate names first second generated

section
variable {declarations : List Declaration} {scope : NameScope} {first second generated : String}

theorem Collides.append (collides : Collides declarations scope first second generated) (more : List Declaration) :
    Collides (declarations ++ more) scope first second generated := by
  obtain ⟨generate, names, scopes, listed, generates, again⟩ := collides
  cases scopes with
  | schema =>
    refine ⟨_, _, .schema, ?_, generates, again⟩
    rw [List.map_append]
    exact List.sublist_append_of_sublist_left listed
  | enum declared => exact ⟨_, _, .enum (List.mem_append_left _ declared), listed, generates, again⟩
  | table declared => exact ⟨_, _, .table (List.mem_append_left _ declared), listed, generates, again⟩

/-- What is generated for words in a scope is a spelling of them. -/
theorem ScopeNames.folded_generate {generate : String → String} {names : List String}
    (scopes : ScopeNames declarations scope generate names)
    (words : ∀ declaration ∈ declarations, ∀ name ∈ declaration.names, WordChars name.toList) :
    ∀ name ∈ names, folded (generate name) = folded name := by
  intro name listed
  cases scopes with
  | schema =>
    obtain ⟨declaration, declared, rfl⟩ := List.mem_map.mp listed
    apply folded_typeName
    apply words declaration declared
    cases declaration <;> simp [Declaration.names, Declaration.name]
  | enum declared =>
    apply folded_typeName
    apply words _ declared
    simp [Declaration.names, listed]
  | table declared =>
    apply folded_fieldName
    apply words _ declared
    exact List.mem_cons_of_mem _ listed

/-- Words that collide are spellings of the same name. -/
theorem Collides.folded_eq (collides : Collides declarations scope first second generated)
    (words : ∀ declaration ∈ declarations, ∀ name ∈ declaration.names, WordChars name.toList) :
    folded first = folded second := by
  obtain ⟨generate, names, scopes, listed, generates, again⟩ := collides
  have keeps := scopes.folded_generate words
  calc folded first = folded (generate first) := (keeps first (listed.subset (by simp))).symm
    _ = folded (generate second) := by rw [generates, again]
    _ = folded second := keeps second (listed.subset (by simp))

end

/-! ### Sessions -/

namespace Emit
namespace Rust.Emitter
variable {emitter later : Emitter} {outcome : Except Diagnostic String}

/-- The names that are claimed for an enum: its own, and then those of its values. -/
theorem emitEnum_claims {decl : EnumDecl} (emitted : emitter.emitEnum decl = (later, outcome)) :
    later.types = (emitter.types.claim .schema decl.name (typeName decl.name)).1 ∧
      ∀ diagnostic, outcome = .error diagnostic →
        (emitter.types.claim .schema decl.name (typeName decl.name)).2 = .error diagnostic ∨
          NameClaims.empty.claimAll (.enum decl.name) typeName decl.values = .error diagnostic := by
  rw [emitEnum] at emitted
  cases claimed : emitter.types.claim .schema decl.name (typeName decl.name) with
  | mk types result =>
    simp only [claimed] at emitted
    cases result with
    | error diagnostic =>
      simp only [Prod.mk.injEq] at emitted
      obtain ⟨rfl, rfl⟩ := emitted
      exact ⟨rfl, fun _ same => .inl (congrArg _ (Except.error.inj same))⟩
    | ok done =>
      cases valued : NameClaims.empty.claimAll (.enum decl.name) typeName decl.values with
      | error diagnostic =>
        simp only [valued, Prod.mk.injEq] at emitted
        obtain ⟨rfl, rfl⟩ := emitted
        exact ⟨rfl, fun _ same => .inr (congrArg _ (Except.error.inj same))⟩
      | ok done =>
        simp only [valued, Prod.mk.injEq] at emitted
        obtain ⟨rfl, rfl⟩ := emitted
        exact ⟨rfl, by simp⟩

/-- The names that are claimed for a table: its own, and then those of its fields. -/
theorem emitTable_claims {plan : Plan} (emitted : emitter.emitTable plan = (later, outcome)) :
    later.types = (emitter.types.claim .schema plan.table (typeName plan.table)).1 ∧
      ∀ diagnostic, outcome = .error diagnostic → diagnostic ≠ .internal →
        (emitter.types.claim .schema plan.table (typeName plan.table)).2 = .error diagnostic ∨
          NameClaims.empty.claimAll (.table plan.table) fieldName (plan.members.map (·.name)) =
            .error diagnostic := by
  rw [emitTable] at emitted
  cases claimed : emitter.types.claim .schema plan.table (typeName plan.table) with
  | mk types result =>
    simp only [claimed] at emitted
    cases result with
    | error diagnostic =>
      simp only [Prod.mk.injEq] at emitted
      obtain ⟨rfl, rfl⟩ := emitted
      exact ⟨rfl, fun _ same _ => .inl (congrArg _ (Except.error.inj same))⟩
    | ok done =>
      cases fielded : NameClaims.empty.claimAll (.table plan.table) fieldName (plan.members.map (·.name)) with
      | error diagnostic =>
        simp only [fielded, Prod.mk.injEq] at emitted
        obtain ⟨rfl, rfl⟩ := emitted
        exact ⟨rfl, fun _ same _ => .inr (congrArg _ (Except.error.inj same))⟩
      | ok done =>
        simp only [fielded] at emitted
        cases generated : tableLines? plan with
        | some lines =>
          simp only [generated, Prod.mk.injEq] at emitted
          obtain ⟨rfl, rfl⟩ := emitted
          exact ⟨rfl, by simp⟩
        | none =>
          simp only [generated, Prod.mk.injEq] at emitted
          obtain ⟨rfl, rfl⟩ := emitted
          exact ⟨rfl, fun _ same apart => absurd (Except.error.inj same).symm apart⟩

end Rust.Emitter

section
variable {types : NameClaims} {declarations : List Declaration} {declaration : Declaration}
  (made : types.MadeFrom typeName (declarations.map (·.name)))
include made

theorem NameClaims.MadeFrom.declare (declaration : Declaration) :
    (types.claim .schema declaration.name (typeName declaration.name)).1.MadeFrom typeName
      ((declarations ++ [declaration]).map (·.name)) := by
  rw [List.map_append]
  exact (made.claim .schema declaration.name).1

/-- Claims for a declaration collide on its own name, or on two of those inside. -/
theorem NameClaims.MadeFrom.collides {inner scope : NameScope} {generate : String → String} {names : List String}
    {first second generated : String} (scopes : ScopeNames (declarations ++ [declaration]) inner generate names)
    (failed : (types.claim .schema declaration.name (typeName declaration.name)).2 =
        .error (.nameCollision scope first second generated) ∨
      empty.claimAll inner generate names = .error (.nameCollision scope first second generated)) :
    Collides (declarations ++ [declaration]) scope first second generated := by
  rcases failed with own | inside
  · obtain ⟨rfl, repeats⟩ := (made.claim .schema declaration.name).2 _ _ _ _ own
    refine ⟨_, _, .schema, ?_⟩
    rw [List.map_append]
    exact repeats
  · obtain ⟨rfl, repeats⟩ := (madeFrom_empty generate).claimAll inside
    exact ⟨_, _, scopes, repeats⟩

end

/-- The names of types that an emitter has given out were generated for some declarations. -/
def Emitter.NamedFrom : Emitter → List Declaration → Prop
  | .rust emitter, declarations => emitter.types.MadeFrom typeName (declarations.map (·.name))
  | .typeScript _, _ => True

namespace Emitter.NamedFrom
variable {emitter later : Emitter} {declarations : List Declaration} {outcome : Except Diagnostic String}
  (named : emitter.NamedFrom declarations)
include named

theorem append (more : List Declaration) : emitter.NamedFrom (declarations ++ more) := by
  cases emitter with
  | rust emitter => exact NameClaims.MadeFrom.mono named (by simp)
  | typeScript emitter => trivial

/-- The names that an emitter has given out with one more enum, and those that collide in it. -/
theorem enum {decl : EnumDecl} (emitted : emitter.emitEnum decl = (later, outcome)) :
    later.NamedFrom (declarations ++ [.enum decl]) ∧
      ∀ scope first second generated, outcome = .error (.nameCollision scope first second generated) →
        Collides (declarations ++ [.enum decl]) scope first second generated := by
  cases emitter with
  | typeScript emitter =>
    obtain ⟨rfl, rfl⟩ := Prod.mk.inj emitted
    exact ⟨trivial, by simp⟩
  | rust emitter =>
    cases written : emitter.emitEnum decl with
    | mk next result =>
      simp only [Emitter.emitEnum, written, Prod.mk.injEq] at emitted
      obtain ⟨rfl, rfl⟩ := emitted
      obtain ⟨types, fails⟩ := Rust.Emitter.emitEnum_claims written
      constructor
      · show next.types.MadeFrom _ _
        rw [types]
        exact NameClaims.MadeFrom.declare named (.enum decl)
      · intro scope first second generated failed
        exact NameClaims.MadeFrom.collides named (.enum (by simp)) (fails _ failed)

theorem table {decl : TableDecl} {members : List Member} (same : members.map (·.name) = decl.fields.map (·.name))
    (emitted : emitter.emitTable (.compute decl.name decl.tag members) = (later, outcome)) :
    later.NamedFrom (declarations ++ [.table decl]) ∧
      ∀ scope first second generated, outcome = .error (.nameCollision scope first second generated) →
        Collides (declarations ++ [.table decl]) scope first second generated := by
  cases emitter with
  | typeScript emitter =>
    obtain ⟨rfl, rfl⟩ := Prod.mk.inj emitted
    exact ⟨trivial, by simp⟩
  | rust emitter =>
    cases written : emitter.emitTable (.compute decl.name decl.tag members) with
    | mk next result =>
      simp only [Emitter.emitTable, written, Prod.mk.injEq] at emitted
      obtain ⟨rfl, rfl⟩ := emitted
      obtain ⟨types, fails⟩ := Rust.Emitter.emitTable_claims written
      constructor
      · show next.types.MadeFrom _ _
        rw [types]
        exact NameClaims.MadeFrom.declare named (.table decl)
      · intro scope first second generated failed
        have fails := fails _ failed (by simp)
        rw [show (Plan.compute decl.name decl.tag members).members.map (·.name) = decl.fields.map (·.name) from same]
          at fails
        exact NameClaims.MadeFrom.collides named (.table (by simp)) fails

end Emitter.NamedFrom
end Emit

namespace Session

/-- A session whose names come from the declarations of its steps, and whose steps collide on names of these. -/
structure Spelled (steps : List Step) (session : Session) : Prop where
  named : session.emitter.NamedFrom (steps.map (·.declaration))
  collides : ∀ step ∈ steps, ∀ scope first second generated,
    step.outcome = .error (.nameCollision scope first second generated) →
      Collides (steps.map (·.declaration)) scope first second generated

theorem Spelled.add {steps : List Step} {session later : Session} {declaration : Declaration}
    {outcome : Except Diagnostic Unit} (spelled : session.Spelled steps)
    (step : session.Adds declaration later outcome) : later.Spelled (steps ++ [⟨declaration, outcome⟩]) := by
  obtain ⟨named, collides⟩ := spelled
  have both : later.emitter.NamedFrom (steps.map (·.declaration) ++ [declaration]) ∧
      ∀ scope first second generated, outcome = .error (.nameCollision scope first second generated) →
        Collides (steps.map (·.declaration) ++ [declaration]) scope first second generated := by
    cases step with
    | overflow many => exact ⟨named.append _, by simp⟩
    | unnamedEnum numbered emitted => exact ⟨(named.enum emitted).1, by simpa using (named.enum emitted).2⟩
    | enum numbered emitted => exact ⟨(named.enum emitted).1, by simp⟩
    | unresolved failed =>
      refine ⟨named.append _, ?_⟩
      intro scope first second generated same
      obtain rfl := Except.error.inj same
      exact absurd (resolve_failure failed).2 (by simp [Diagnostic.isNaming])
    | unnamedTable resolved emitted =>
      obtain ⟨given, fails⟩ := named.table (resolve_names resolved) emitted
      exact ⟨given, by simpa using fails⟩
    | table resolved emitted => exact ⟨(named.table (resolve_names resolved) emitted).1, by simp⟩
  have all : (steps ++ [Step.mk declaration outcome]).map (·.declaration) =
      steps.map (·.declaration) ++ [declaration] := by simp
  rw [← all] at both
  refine ⟨both.1, ?_⟩
  intro made member
  rcases List.mem_append.mp member with earlier | here
  · intro scope first second generated failed
    rw [all]
    exact (collides made earlier _ _ _ _ failed).append _
  · obtain rfl := List.mem_singleton.mp here
    exact both.2

theorem addEach_spelled (options : Options) (declarations : List Declaration) :
    ((start options).addEach declarations).1.Spelled ((start options).addEach declarations).2 := by
  refine addEach_keeps (fun steps session => session.Spelled steps) Spelled.add ⟨?_, by simp⟩ declarations
  cases target : options.target with
  | rust =>
    simp only [start, Emitter.new, target]
    exact NameClaims.madeFrom_empty typeName
  | typeScript =>
    simp only [start, Emitter.new, target]
    trivial

/-- A run fails on something that could not be read, or in one of its steps. -/
theorem FailsAfter.exists_step {session : Session} {items : List (Except Diagnostic Declaration)}
    {earlier : List Declaration} {diagnostic : Diagnostic} (fails : session.FailsAfter items earlier diagnostic) :
    .error diagnostic ∈ items ∨ ∃ declarations rest, items = declarations.map .ok ++ rest ∧
      ∃ step ∈ (session.addEach declarations).2, step.outcome = .error diagnostic := by
  induction fails with
  | unread => exact .inl (List.mem_cons_self ..)
  | @refused session later declaration diagnostic rest added =>
    refine .inr ⟨[declaration], rest, rfl, ⟨declaration, .error diagnostic⟩, ?_, rfl⟩
    rw [addEach_cons (adds_iff.mpr added)]
    exact List.mem_cons_self ..
  | @later session later declaration diagnostic rest earlier added fails ih =>
    rcases ih with unread | ⟨declarations, behind, rfl, step, member, failed⟩
    · exact .inl (List.mem_cons_of_mem _ unread)
    · refine .inr ⟨declaration :: declarations, behind, rfl, step, ?_, failed⟩
      rw [addEach_cons (adds_iff.mpr added)]
      exact List.mem_cons_of_mem _ member

end Session

/-- A schema is read without regard to what its names lead to. -/
theorem Schema.readAll_failure {text : String} {diagnostic : Diagnostic} (failed : .error diagnostic ∈ readAll text) :
    diagnostic.isNaming = false := by
  obtain ⟨found, -, all | ⟨other, all⟩⟩ := readFrom_shape text (scan text)
  · rw [readAll, all] at failed
    simp at failed
  · obtain rfl : diagnostic = other := by
      rw [readAll, all] at failed
      simpa using failed
    obtain ⟨_, _, _, -, -, fault⟩ := (readFrom_error_iff (List.infix_refl _)).mp all
    cases fault with
    | enumGrammar | enumValueName | tableGrammar | fieldGrammar => rfl

/-- Words that collide in a step of a session are spellings of the same name. -/
theorem Session.addEach_collides {options : Options} {declarations : List Declaration}
    (words : ∀ declaration ∈ declarations, ∀ name ∈ declaration.names, WordChars name.toList) {step : Step}
    (member : step ∈ ((start options).addEach declarations).2) {scope : NameScope} {first second generated : String}
    (failed : step.outcome = .error (.nameCollision scope first second generated)) :
    Collides declarations scope first second generated ∧ folded first = folded second := by
  have collides := (addEach_spelled options declarations).collides step member _ _ _ _ failed
  rw [addEach_declarations] at collides
  exact ⟨collides, collides.folded_eq words⟩

/-- Putting a word in another case and escaping it changes nothing but case and underscores: what is in snake_case has
no upper case, and stays as it is, and what is in PascalCase has no underscores. So names that collide, in a run or in
any step of a session, are two names in one scope of the schema that differ at most in case and underscores. -/
theorem compile_spellings :
    (∀ name : String, WordChars name.toList →
      folded (typeName name) = folded name ∧ folded (fieldName name) = folded name ∧
        (∀ c ∈ (snakeCase name).toList, Text.isUpper c = false) ∧ snakeCase (snakeCase name) = snakeCase name ∧
        '_' ∉ (pascalCase name).toList) ∧
    (∀ (options : Options) (declarations : List Declaration),
      (∀ declaration ∈ declarations, ∀ name ∈ declaration.names, WordChars name.toList) →
      ∀ step ∈ ((Session.start options).addEach declarations).2, ∀ scope first second generated,
        step.outcome = .error (.nameCollision scope first second generated) →
          Collides declarations scope first second generated ∧ folded first = folded second) ∧
    ∀ (text : String) (options : Options) (scope : NameScope) (first second generated : String),
      compile text options = .error (.nameCollision scope first second generated) →
        ∃ declarations rest, readAll text = declarations.map .ok ++ rest ∧
          Collides declarations scope first second generated ∧ folded first = folded second := by
  refine ⟨?_, ?_, ?_⟩
  · intro name word
    exact ⟨folded_typeName word, folded_fieldName word, snakeCase_lower word, snakeCase_snakeCase word,
      underscore_notMem_pascalCase word⟩
  · intro options declarations words step member scope first second generated failed
    exact Session.addEach_collides words member failed
  · intro text options scope first second generated failed
    obtain ⟨earlier, fails⟩ := compile_error_iff.mp failed
    rcases fails.exists_step with unread | ⟨declarations, rest, read, step, member, refused⟩
    · exact nomatch readAll_failure unread
    · have words : ∀ declaration ∈ declarations, ∀ name ∈ declaration.names, WordChars name.toList :=
        fun declaration declared name member => readAll_words
          (read ▸ List.mem_append_left _ (List.mem_map_of_mem declared)) name (declaration.names_subset_words member)
      exact ⟨declarations, rest, read, Session.addEach_collides words member refused⟩

/-- A table without a usable name, and one with two fields that are spellings of the same name. -/
def Session.clashing : List Declaration :=
  [.table ⟨"_", 1, 1, "NONE", []⟩,
    .table ⟨"U", 2, 1, "UUUU", [⟨"aB", 2, 11, "byte", false⟩, ⟨"a_b", 2, 21, "byte", false⟩]⟩]

/-- A name with an acronym, a digit and an underscore, two tables whose names differ in case and an underscore, and two
such fields in a session that has failed before. -/
theorem respelled_names_collide :
    (folded (typeName "HTTPServer_2x") = "httpserver2x" ∧ folded (fieldName "HTTPServer_2x") = "httpserver2x") ∧
    (∃ declarations rest, readAll "table fooBar: AAAA \x7b\x7d enum E: byte \x7b e \x7d table foo_bar: BBBB \x7b\x7d" =
        declarations.map .ok ++ rest ∧ Collides declarations .schema "fooBar" "foo_bar" "FooBar") ∧
    Collides Session.clashing (.table "U") "aB" "a_b" "a_b" := by
  obtain ⟨names, sessions, runs⟩ := compile_spellings
  refine ⟨?_, ?_, ?_⟩
  · obtain ⟨type, field, -⟩ := names "HTTPServer_2x" (List.all_eq_true.mp (by decide +kernel))
    have letters : folded "HTTPServer_2x" = "httpserver2x" := by decide +kernel
    exact ⟨type.trans letters, field.trans letters⟩
  · have collision : (compile "table fooBar: AAAA \x7b\x7d enum E: byte \x7b e \x7d table foo_bar: BBBB \x7b\x7d"
        ⟨.rust, none⟩).map (·.declarations) = .error (.nameCollision .schema "fooBar" "foo_bar" "FooBar") := by
      decide +kernel
    obtain ⟨declarations, rest, read, collides, -⟩ := runs _ _ _ _ _ _ (map_error_iff.mp collision)
    exact ⟨declarations, rest, read, collides⟩
  · have words : ∀ declaration ∈ Session.clashing, ∀ name ∈ declaration.names, WordChars name.toList := by
      simp [Session.clashing, Declaration.names, WordChars, isWordChar]
    have outcome : (((Session.start ⟨.rust, none⟩).addEach Session.clashing).2.map (·.outcome))[1]? =
        some (.error (.nameCollision (.table "U") "aB" "a_b" "a_b")) := by decide +kernel
    obtain ⟨step, member, failed⟩ := List.mem_map.mp (List.mem_of_getElem? outcome)
    exact (sessions _ _ words step member _ _ _ _ failed).1

end TableWire
