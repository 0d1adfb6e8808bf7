import Mathlib
import TableWire.Proofs.History
import TableWire.Proofs.Partition

/-!
Names that repeat inside of a declaration. A plan finds members by their names, so it leads every member to its own
class and place exactly if no name repeats (`Plan.Computed.locates_iff`). Code for Rust is refused for names that
repeat (`Rust.WellNamed.distinct`). Code for TypeScript is not, and may then access one member in the way of another.
-/
namespace TableWire
open Schema Layout Emit

/-- The names inside of a declaration, of its values or fields. -/
def Schema.Declaration.inner : Declaration → List String
  | .enum decl => decl.values
  | .table decl => decl.fields.map (·.name)

/-- A list of names without repetition, by their places. -/
theorem nodup_of_places {α : Type} {name : α → String} {list : List α}
    (apart : ∀ (i j : Nat) first second, list[i]? = some first → list[j]? = some second →
      name first = name second → i = j) :
    (list.map name).Nodup := by
  rw [List.nodup_iff_injective_getElem]
  rintro ⟨i, inside⟩ ⟨j, alsoInside⟩ same
  simp only [List.getElem_map] at same
  simp only [List.length_map] at inside alsoInside
  refine Fin.ext ?_
  exact apart i j _ _ (List.getElem?_eq_getElem inside) (List.getElem?_eq_getElem alsoInside) same

namespace Layout

theorem slotWidths_take_lt {members : List Member} (wide : ∀ member ∈ members, 0 < member.storage.width) {i j : Nat}
    (less : i < j) (inside : i < members.length) : slotWidths (members.take i) < slotWidths (members.take j) := by
  induction members generalizing i j with
  | nil => exact absurd inside (Nat.not_lt_zero i)
  | cons first rest ih =>
    obtain ⟨j, rfl⟩ : ∃ before, j = before + 1 := ⟨j - 1, by omega⟩
    rw [List.take_succ_cons, slotWidths_cons]
    cases i with
    | zero =>
      have positive := wide first (by simp)
      rw [List.take_zero, slotWidths_nil]
      omega
    | succ i =>
      rw [List.take_succ_cons, slotWidths_cons]
      have later := ih (fun member listed => wide member (by simp [listed])) (Nat.lt_of_succ_lt_succ less)
        (Nat.lt_of_succ_lt_succ inside)
      omega

theorem slotted_append_flags (members : List Member) : (slotted members ++ flags members).Perm members := by
  have bools : flags members = members.filter fun member => !decide (member.storage ≠ .bool) := by
    simp [flags]
  rw [bools]
  exact List.filter_append_perm _ members

namespace Plan.Computed
variable {plan : Plan} (computed : plan.Computed) (locates : plan.Locates plan.members)
include locates

/-- Slots start at different bytes. -/
theorem slot_names : ((slotted plan.members).map (·.name)).Nodup := by
  have wide : ∀ member ∈ slotted plan.members, 0 < member.storage.width := by
    intro member listed
    exact StorageClass.width_pos (by simpa using (List.mem_filter.mp listed).2)
  refine nodup_of_places ?_
  intro i j first second place other same
  have starts := (locates.slots i first place).1.symm.trans (same ▸ (locates.slots j second other).1)
  have starts := Option.some.inj starts
  obtain ⟨inside, -⟩ := List.getElem?_eq_some_iff.mp place
  obtain ⟨alsoInside, -⟩ := List.getElem?_eq_some_iff.mp other
  rcases Nat.lt_trichotomy i j with less | equal | more
  · have := slotWidths_take_lt wide less inside
    omega
  · exact equal
  · have := slotWidths_take_lt wide more alsoInside
    omega

include computed

/-- Bools are different bits, inside the header. -/
theorem flag_names : ((flags plan.members).map (·.name)).Nodup := by
  refine nodup_of_places ?_
  intro j k first second place other same
  have bits := (locates.bits j first place).1.symm.trans (same ▸ (locates.bits k second other).1)
  obtain ⟨byte, bit⟩ := Prod.mk.inj (Option.some.inj bits)
  obtain ⟨inside, -⟩ := List.getElem?_eq_some_iff.mp place
  obtain ⟨alsoInside, -⟩ := List.getElem?_eq_some_iff.mp other
  have length := computed.divides.length
  omega

omit locates in
/-- Names lead to their own members exactly if they do not repeat. -/
theorem locates_iff : plan.Locates plan.members ↔ (plan.members.map (·.name)).Nodup := by
  refine ⟨fun locates => ?_, computed.locates⟩
  rw [← ((slotted_append_flags plan.members).map (·.name)).nodup_iff, List.map_append, List.nodup_append]
  refine ⟨slot_names locates, computed.flag_names locates, ?_⟩
  -- A name of both kinds would have a slot by one of its members, and none by the other.
  rintro name slotName other flagName rfl
  obtain ⟨member, isSlot, rfl⟩ := List.mem_map.mp slotName
  obtain ⟨flag, isFlag, same⟩ := List.mem_map.mp flagName
  obtain ⟨i, place⟩ := List.getElem?_of_mem isSlot
  obtain ⟨j, bit⟩ := List.getElem?_of_mem isFlag
  have found := (locates.slots i member place).1
  rw [← same, (locates.bits j flag bit).2] at found
  exact nomatch found

end Plan.Computed
end Layout

/-! ### Schemas -/

/-- Different generated names come from different names. -/
theorem Emit.Rust.WellNamed.distinct {declarations : List Declaration} (named : WellNamed declarations)
    {declaration : Declaration} (listed : declaration ∈ declarations) : declaration.inner.Nodup := by
  have generated := named.inner declaration listed
  cases declaration with
  | enum decl => exact generated.of_map
  | table decl =>
    have names : innerNames (.table decl) = (decl.fields.map (·.name)).map fieldName := by simp [innerNames]
    rw [names] at generated
    exact generated.of_map

theorem Session.addAll_records {options : Options} {session : Session} {items : List (Except Diagnostic Declaration)}
    (ran : (start options).addAll items = .ok session) : ∃ steps, session.Records options steps := by
  refine addAll_keeps (fun session => ∃ steps, session.Records options steps) ?_ ?_ ran
  · rintro session later declaration - ⟨steps, records⟩ added
    exact ⟨_, records.add (adds_iff.mpr added)⟩
  · exact ⟨[], rfl, .nil, Codes.start options⟩

/-- A schema that compiles to Rust has no names that repeat inside of a declaration. For both targets, the plan of a
table leads its fields to their own places exactly if their names do not repeat. Where a name does repeat in what
compiles to TypeScript, Rust is refused for a name. -/
theorem compile_distinct (text : String) (options : Options) (compilation : Compilation)
    (compiled : compile text options = .ok compilation) :
    (options.target = .rust → ∀ declaration ∈ compilation.declarations, declaration.inner.Nodup) ∧
    List.Forall₂ (fun decl plan => plan.IsFor decl ∧
        ((Declaration.table decl).inner.Nodup ↔ plan.Locates plan.members))
      (Declaration.tables compilation.declarations) compilation.plans ∧
    ((∃ declaration ∈ compilation.declarations, ¬ declaration.inner.Nodup) → ∀ path, ∃ diagnostic,
      compile text ⟨.rust, path⟩ = .error diagnostic ∧ diagnostic.isNaming) := by
  obtain ⟨session, ran, rfl⟩ := map_ok_iff.mp compiled
  have forRust : options.target = .rust → ∀ declaration ∈ session.declarations, declaration.inner.Nodup := by
    intro isRust declaration listed
    obtain ⟨target, path⟩ := options
    obtain rfl : target = .rust := isRust
    obtain ⟨script, -, matched⟩ := Session.exists_matches none ran
    exact matched.named.distinct (matched.declarations ▸ listed)
  refine ⟨forRust, ?_, ?_⟩
  · obtain ⟨steps, records⟩ := Session.addAll_records ran
    refine records.planned.imp fun decl plan isFor => ⟨isFor, ?_⟩
    rw [isFor.computed.locates_iff, isFor.fields]
    rfl
  · rintro ⟨declaration, listed, repeated⟩ rustPath
    obtain ⟨target, path⟩ := options
    cases target with
    | rust => exact absurd (forRust rfl declaration listed) repeated
    | typeScript =>
      rcases (Session.Matches.start rustPath path).addAll_ok ran with
        ⟨other, -, matched⟩ | ⟨diagnostic, ⟨failed, naming⟩, -⟩
      · exact absurd (matched.named.distinct listed) repeated
      · exact ⟨diagnostic, map_error_iff.mpr failed, naming⟩

/-- Fields of a table that compiles to Rust are found in their own places. A table with a field named twice compiles
to TypeScript, and not to Rust. -/
theorem distinct_and_repeated :
    (∃ compilation plan, compile "table T: TTTT \x7b x: string; y: bool \x7d" ⟨.rust, none⟩ = .ok compilation ∧
      compilation.plans = [plan] ∧ plan.Locates plan.members) ∧
    ∃ diagnostic, compile "table T: TTTT \x7b x: string; x: bool \x7d" ⟨.rust, none⟩ = .error diagnostic ∧
      diagnostic.isNaming := by
  constructor
  · have works : (compile "table T: TTTT \x7b x: string; y: bool \x7d" ⟨.rust, none⟩).map (·.declarations) =
        .ok [.table ⟨"T", 1, 7, "TTTT", [⟨"x", 1, 17, "string", false⟩, ⟨"y", 1, 28, "bool", false⟩]⟩] := by
      decide +kernel
    obtain ⟨compilation, compiled, declared⟩ := map_ok_iff.mp works
    obtain ⟨distinct, planned, -⟩ := compile_distinct _ ⟨.rust, none⟩ compilation compiled
    rw [declared] at distinct planned
    obtain ⟨plan, others, ⟨-, located⟩, rest, plans⟩ := List.forall₂_cons_left_iff.mp planned
    rw [List.forall₂_nil_left_iff.mp rest] at plans
    exact ⟨compilation, plan, compiled, plans, located.mp (distinct rfl _ (List.mem_singleton_self _))⟩
  · have works : (compile "table T: TTTT \x7b x: string; x: bool \x7d" ⟨.typeScript, none⟩).map (·.declarations) =
        .ok [.table ⟨"T", 1, 7, "TTTT", [⟨"x", 1, 17, "string", false⟩, ⟨"x", 1, 28, "bool", false⟩]⟩] := by
      decide +kernel
    obtain ⟨compilation, compiled, declared⟩ := map_ok_iff.mp works
    obtain ⟨-, -, refused⟩ := compile_distinct _ ⟨.typeScript, none⟩ compilation compiled
    refine refused ⟨_, by rw [declared]; exact List.mem_singleton_self _, ?_⟩ none
    simp [Declaration.inner]

/-- TypeScript is generated for an enum that lists a value twice and for a table that declares a field twice. By the
name of the second field, which is an integer, its plan finds the class and the slot of the first, which is a text. -/
theorem repeated_names_accepted : ∃ compilation plan,
    compile "enum E: byte \x7b A, A \x7d table T: TTTT \x7b x: string; x: int32 \x7d" ⟨.typeScript, none⟩ =
      .ok compilation ∧
    compilation.declarations.map (·.inner) = [["A", "A"], ["x", "x"]] ∧ compilation.plans = [plan] ∧
    plan.members = [⟨"x", .string⟩, ⟨"x", .primitive .int32⟩] ∧ plan.slots = [⟨"x", 0⟩, ⟨"x", 4⟩] ∧
    plan.member? "x" = some .string ∧ plan.slotOf? "x" = some 0 ∧ ¬ plan.Locates plan.members := by
  have evaluated : (compile "enum E: byte \x7b A, A \x7d table T: TTTT \x7b x: string; x: int32 \x7d"
      ⟨.typeScript, none⟩).map (fun compilation => (compilation.declarations.map (·.inner), compilation.plans)) =
      .ok ([["A", "A"], ["x", "x"]],
        [.compute "T" "TTTT" [⟨"x", .string⟩, ⟨"x", .primitive .int32⟩]]) := by decide +kernel
  obtain ⟨compilation, compiled, facts⟩ := map_ok_iff.mp evaluated
  obtain ⟨inner, plans⟩ := Prod.mk.inj facts
  have computed : (Plan.compute "T" "TTTT" [⟨"x", .string⟩, ⟨"x", .primitive .int32⟩]).Computed := rfl
  refine ⟨compilation, _, compiled, inner, plans, rfl, by decide +kernel, by decide +kernel, by decide +kernel, ?_⟩
  rw [computed.locates_iff]
  decide +kernel

end TableWire
