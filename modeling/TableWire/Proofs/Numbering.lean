import Mathlib
import TableWire.Proofs.History
import TableWire.Proofs.Names
import TableWire.Proofs.Placement

/-!
Numbers of enum values. A value is stored as its position, so a kind of integer is wide enough for an enum exactly if it
holds every position (`fits_position_iff`). A number that is read is converted into the value at that position, or it is
refused (`EnumDecl.Converts`). In Rust this is done by arms that are tried in order (`Rust.Arm`, `Rust.convert?`), and
they find the right value because no two values have the same generated name.
-/
namespace TableWire
open Schema Layout Emit Wire

/-! ### Numbers in buffers -/

/-- A kind can number as many values as its capacity says, and no more. -/
theorem Wire.fits_position_iff {kind : IntKind} {position : Nat} :
    Fits kind position ↔ position < kind.valueCapacity := by
  refine ⟨fun fits => ?_, fits_of_valueCapacity⟩
  cases kind <;> simp [Fits, IntKind.isSigned, range, IntKind.valueCapacity] at fits ⊢ <;> omega

theorem Schema.EnumDecl.overflows_iff {decl : EnumDecl} :
    decl.repr.valueCapacity < decl.values.length ↔ ∃ position < decl.values.length, ¬ Fits decl.repr position := by
  simp only [fits_position_iff]
  constructor
  · intro many
    exact ⟨decl.repr.valueCapacity, many, lt_irrefl _⟩
  · rintro ⟨position, inside, beyond⟩
    exact (Nat.not_lt.mp beyond).trans_lt inside

theorem Wire.exists_putInt {kind : IntKind} {n : Int} (fits : Fits kind n) {dest : Bytes} {offset : Nat}
    (inside : offset + kind.width ≤ dest.length) :
    ∃ result, putInt kind dest offset n = .ok result ∧ getInt kind result offset = .ok n := by
  have room : offset + (encodeInt kind n).length ≤ dest.length := by rwa [length_encodeInt]
  obtain ⟨result, written⟩ := exists_overwrite room
  exact ⟨result, written, getInt_of_standsAt fits (standsAt_of_overwrite written)⟩

/-! ### Conversions -/

/-- What a number is converted into: the value at that position, or a failure that carries the number. -/
inductive Schema.EnumDecl.Converts (decl : EnumDecl) : Int → Attempt Value → Prop
  | value {position : Nat} (inside : position < decl.values.length) : decl.Converts position (.ok (.enum position))
  | invalid {n : Int} (outside : ∀ position < decl.values.length, n ≠ position) :
      decl.Converts n (reject (.invalidEnumValue decl.name n))

theorem Wire.Catalog.enumValue_converts {catalog : Catalog} {decl : EnumDecl}
    (found : catalog.enum? decl.name = some decl) (n : Int) : decl.Converts n (catalog.enumValue decl.name n) := by
  simp only [enumValue, found]
  by_cases inside : 0 ≤ n ∧ n.toNat < decl.values.length
  · rw [if_pos inside]
    obtain ⟨position, rfl⟩ := Int.eq_ofNat_of_zero_le inside.1
    exact .value inside.2
  · rw [if_neg inside]
    refine .invalid ?_
    rintro position listed rfl
    exact inside ⟨by omega, listed⟩

namespace Emit.Rust

/-- An arm of a conversion. It is for one number, and gives a value of a type by its name, or it is for all others. -/
inductive Arm where
  | value (number : Nat) (type variant : String)
  | other (name : String)

namespace Arm

def line : Arm → String
  | value number type variant => s!"            {number} => Ok({type}::{variant}),"
  | other name => s!"            _ => Err(ks::DecodeError::InvalidEnumValue \x7b name: {Json.quote name}, " ++
     "value: value as i64 \x7d),"

def accepts (n : Int) : Arm → Bool
  | value number _ _ => n = number
  | other _ => true

/-- What the arm gives for a number, if the variants of the type have some names. A failure carries the number as a
signed integer of eight bytes. -/
def result (variants : List String) (n : Int) : Arm → Attempt Value
  | value _ _ variant =>
    match variants.idxOf? variant with
    | some position => .ok (.enum position)
    | none => abort
  | other name => reject (.invalidEnumValue name (n.bmod (2 ^ 64)))

end Arm

def arms (decl : EnumDecl) : List Arm :=
  (decl.values.mapIdx fun i value => .value i (typeName decl.name) (typeName value)) ++ [.other decl.name]

/-- What the first arm for a number gives. -/
def convert? (decl : EnumDecl) (n : Int) : Option (Attempt Value) :=
  ((arms decl).find? (·.accepts n)).map (·.result (decl.values.map typeName) n)

/-- The lines of the conversion from an integer. -/
def conversionLines (decl : EnumDecl) : List String :=
  [s!"impl ::core::convert::TryFrom<{intType decl.repr}> for {typeName decl.name} \x7b",
   "    type Error = ks::DecodeError;",
   "",
   s!"    fn try_from(value: {intType decl.repr}) -> ::core::result::Result<Self, ks::DecodeError> \x7b",
   "        match value \x7b"] ++ (arms decl).map Arm.line ++ ["        \x7d", "    \x7d", "\x7d"]

/-- The conversion stands at the end of the code of an enum. -/
theorem conversionLines_suffix (decl : EnumDecl) : conversionLines decl <:+ enumLines decl := by
  have spelled : (arms decl).map Arm.line =
      (decl.values.mapIdx fun i value => s!"            {i} => Ok({typeName decl.name}::{typeName value}),") ++
        [(Arm.other decl.name).line] := by
    rw [arms, List.map_append, List.map_singleton]
    congr 1
    refine List.ext_getElem (by simp) fun i _ _ => ?_
    rw [List.getElem_map, List.getElem_mapIdx, List.getElem_mapIdx]
    rfl
  rw [enumLines, conversionLines, spelled]
  simp only [List.append_assoc, List.cons_append, List.nil_append]
  -- In front of it stand attributes, the heading of the type and its variants.
  refine List.IsSuffix.trans ?_ (List.suffix_append ..)
  refine List.IsSuffix.trans ?_ (List.suffix_cons ..)
  refine List.IsSuffix.trans ?_ (List.suffix_append ..)
  exact (List.suffix_cons ..).trans (List.suffix_cons ..)

section
variable {decl : EnumDecl}

theorem arms_value {position : Nat} (inside : position < decl.values.length) :
    (arms decl)[position]? = some (.value position (typeName decl.name) (typeName decl.values[position])) := by
  rw [arms, List.getElem?_append_left (by simpa using inside), List.getElem?_mapIdx, List.getElem?_eq_getElem inside]
  rfl

theorem arms_other : (arms decl)[decl.values.length]? = some (.other decl.name) := by
  simp [arms]

/-- The arms in front of that of a position are for other numbers. -/
theorem find?_arms {n : Int} {position : Nat} {arm : Arm} (placed : (arms decl)[position]? = some arm)
    (accepts : arm.accepts n) (within : position ≤ decl.values.length) (others : ∀ earlier < position, n ≠ earlier) :
    (arms decl).find? (·.accepts n) = some arm := by
  obtain ⟨inside, same⟩ := List.getElem?_eq_some_iff.mp placed
  refine List.find?_eq_some_iff_getElem.mpr ⟨accepts, position, inside, same, ?_⟩
  intro earlier before
  have value := arms_value (before.trans_le within)
  rw [List.getElem?_eq_getElem (before.trans inside)] at value
  rw [Option.some.inj value]
  simp [Arm.accepts, others earlier before]

/-- Every number of a kind is also one of eight bytes. -/
theorem bmod_of_fits {kind : IntKind} {n : Int} (fits : Fits kind n) : n.bmod (2 ^ 64) = n := by
  apply Int.bmod_eq_of_le <;> cases kind <;> simp [Fits, IntKind.isSigned, range] at fits ⊢ <;> omega

/-- The conversion is right if no two variants have the same name. -/
theorem convert?_converts (distinct : (decl.values.map typeName).Nodup) {n : Int} (fits : Fits decl.repr n) :
    ∃ result, convert? decl n = some result ∧ decl.Converts n result := by
  by_cases listed : ∃ position < decl.values.length, n = position
  · obtain ⟨position, inside, rfl⟩ := listed
    have first := find?_arms (n := position) (arms_value inside) (by simp [Arm.accepts]) inside.le (by simp; omega)
    have named : (decl.values.map typeName).idxOf? (typeName decl.values[position]) = some position := by
      refine List.idxOf?_eq_some_iff.mpr ⟨by simpa using inside, List.getElem_map .., ?_⟩
      intro earlier before same
      rw [← List.getElem_map typeName (h := by simpa using inside)] at same
      exact before.ne ((distinct.getElem_inj_iff).mp same)
    refine ⟨.ok (.enum position), ?_, .value inside⟩
    rw [convert?, first, Option.map_some, Arm.result, named]
  · have outside : ∀ position < decl.values.length, n ≠ position :=
      fun position inside same => listed ⟨position, inside, same⟩
    have last := find?_arms arms_other (n := n) rfl le_rfl outside
    refine ⟨_, ?_, .invalid outside⟩
    rw [convert?, last, Option.map_some, Arm.result, bmod_of_fits fits]

end
end Emit.Rust

/-! ### Enums that are accepted -/

/-- What is refused of an enum is a name. -/
theorem Emit.Emitter.emitEnum_naming {emitter later : Emitter} {decl : EnumDecl} {diagnostic : Diagnostic}
    (refused : emitter.emitEnum decl = (later, .error diagnostic)) : diagnostic.isNaming := by
  cases emitter with
  | typeScript emitter => simp [emitEnum] at refused
  | rust emitter =>
    cases written : emitter.emitEnum decl with
    | mk next outcome =>
      simp only [emitEnum, written, Prod.mk.injEq] at refused
      obtain ⟨-, rfl⟩ := refused
      exact (Rust.Emitter.emitEnum_refused written).2

/-- An enum whose values can be stored. Its kind holds every position, each number of the kind can be put anywhere in a
buffer and is found again, and what is found is converted. -/
structure Schema.EnumDecl.Encodable (decl : EnumDecl) : Prop where
  holds : ∀ position < decl.values.length, Fits decl.repr position
  stores : ∀ n, Fits decl.repr n → ∀ (dest : Bytes) (offset : Nat), offset + decl.repr.width ≤ dest.length →
    ∃ result, putInt decl.repr dest offset n = .ok result ∧ getInt decl.repr result offset = .ok n
  reads : ∀ catalog : Catalog, catalog.enum? decl.name = some decl → ∀ registry read src slot first n,
    getInt decl.repr src slot = .ok n →
      decl.Converts n (getField catalog registry read src slot (.enum decl.name decl.repr first))

theorem Schema.EnumDecl.encodable {decl : EnumDecl} (numbered : decl.values.length ≤ decl.repr.valueCapacity) :
    decl.Encodable where
  holds position inside := fits_position_iff.mpr (inside.trans_le numbered)
  stores n fits dest offset inside := exists_putInt fits inside
  reads catalog found registry read src slot first n stored := by
    rw [getField, stored]
    exact Catalog.enumValue_converts found n

theorem Session.addEnum_overflow_iff {session : Session} {decl : EnumDecl} {name : String} {count : Nat}
    {repr : IntKind} : (session.addEnum decl).2 = .error (.enumOverflow name count repr) ↔
      (name = decl.name ∧ count = decl.values.length ∧ repr = decl.repr) ∧
        decl.repr.valueCapacity < decl.values.length := by
  cases added : session.addEnum decl with
  | mk later outcome =>
    have step : session.Adds (.enum decl) later outcome := adds_iff.mpr added
    cases step with
    | overflow many => simp [many, eq_comm]
    | unnamedEnum numbered emitted =>
      constructor
      · intro same
        obtain rfl := Except.error.inj same
        exact nomatch Emitter.emitEnum_naming emitted
      · rintro ⟨-, many⟩
        exact absurd many (Nat.not_lt.mpr numbered)
    | enum numbered emitted => simp [numbered]

/-- Code for Rust is given for an enum only if its variants have different names. -/
theorem Emit.Emitter.emitEnum_code {rust : Rust.Emitter} {later : Emitter} {decl : EnumDecl} {chunk : String}
    (emitted : (Emitter.rust rust).emitEnum decl = (later, .ok chunk)) :
    chunk = "\n".intercalate (Rust.enumLines decl) ∧ (decl.values.map typeName).Nodup := by
  obtain ⟨next, -, written⟩ := emitEnum_rust emitted
  obtain ⟨-, -, -, code⟩ := Rust.Emitter.emitEnum_ok written
  rcases emitEnum_outcome rust decl with ⟨_, _, -, -, nameable⟩ | ⟨_, _, refused, -, -⟩
  · exact ⟨code, nameable.distinct⟩
  · rw [refused] at emitted
    exact nomatch (Prod.mk.inj emitted).2

/-- An enum is refused for its number of values exactly if its kind cannot hold some position. One that is accepted can
be stored: every position is found again and stands for the value there, and any other number, also a negative one, is
refused with that number. The code for Rust numbers its variants so, and converts numbers so. -/
theorem Session.addEnum_encodable (session : Session) (decl : EnumDecl) :
    (∀ name count repr, (session.addEnum decl).2 = .error (.enumOverflow name count repr) ↔
      (name = decl.name ∧ count = decl.values.length ∧ repr = decl.repr) ∧
        ∃ position < decl.values.length, ¬ Fits decl.repr position) ∧
    ((session.addEnum decl).2 = .ok () → decl.Encodable ∧
      ∀ rust, session.emitter = .rust rust → ∃ lines,
        (session.addEnum decl).1.chunks = session.chunks ++ ["\n".intercalate lines] ∧
          Rust.Introduces (.enum decl) ("\n".intercalate lines) ∧ Rust.conversionLines decl <:+ lines ∧
          ∀ n, Fits decl.repr n → ∃ result, Rust.convert? decl n = some result ∧ decl.Converts n result) := by
  constructor
  · intro name count repr
    rw [addEnum_overflow_iff, EnumDecl.overflows_iff]
  · intro accepted
    obtain ⟨numbered, emitter, chunk, emitted, later⟩ := addEnum_ok (Prod.ext rfl accepted)
    refine ⟨EnumDecl.encodable numbered, ?_⟩
    intro rust isRust
    rw [isRust] at emitted
    obtain ⟨rfl, distinct⟩ := Emitter.emitEnum_code emitted
    refine ⟨Rust.enumLines decl, congrArg chunks later, Rust.enumCode_introduces decl,
      Rust.conversionLines_suffix decl, ?_⟩
    intro n fits
    exact Rust.convert?_converts distinct fits

/-- A byte numbers 256 values and no more. Two values of a signed kind are stored, and minus one is none of them. -/
theorem signed_and_full_encodable :
    ((Session.start ⟨.typeScript, none⟩).addEnum ⟨"Many", 1, 1, .byte, List.replicate 257 "V"⟩).2 =
      .error (.enumOverflow "Many" 257 .byte) ∧
    (EnumDecl.mk "Many" 1 1 .byte (List.replicate 256 "V")).Encodable ∧
    (EnumDecl.mk "Kind" 1 1 .int16 ["cat", "dog"]).Encodable ∧
    Rust.convert? ⟨"Kind", 1, 1, .int16, ["cat", "dog"]⟩ 1 = some (.ok (.enum 1)) ∧
    Rust.convert? ⟨"Kind", 1, 1, .int16, ["cat", "dog"]⟩ (-1) = some (reject (.invalidEnumValue "Kind" (-1))) := by
  obtain ⟨overflows, -⟩ := Session.addEnum_encodable (.start ⟨.typeScript, none⟩)
    ⟨"Many", 1, 1, .byte, List.replicate 257 "V"⟩
  obtain ⟨-, full⟩ := Session.addEnum_encodable (.start ⟨.typeScript, none⟩)
    ⟨"Many", 1, 1, .byte, List.replicate 256 "V"⟩
  obtain ⟨-, signed⟩ := Session.addEnum_encodable (.start ⟨.rust, none⟩) ⟨"Kind", 1, 1, .int16, ["cat", "dog"]⟩
  obtain ⟨encodable, rust⟩ := signed (by decide +kernel)
  obtain ⟨-, -, -, -, converts⟩ := rust _ rfl
  refine ⟨?_, (full (by decide +kernel)).1, encodable, ?_, ?_⟩
  · have beyond : 256 < (List.replicate 257 "V").length := by rw [List.length_replicate]; omega
    exact (overflows _ _ _).mpr ⟨⟨rfl, List.length_replicate.symm, rfl⟩, 256, beyond, by decide⟩
  · obtain ⟨result, converted, right⟩ := converts 1 (by decide)
    rw [converted]
    cases right with
    | value inside => rfl
    | invalid outside => exact absurd rfl (outside 1 (by decide))
  · obtain ⟨result, converted, right⟩ := converts (-1) (by decide)
    rw [converted]
    cases right with
    | invalid outside => rfl

end TableWire
