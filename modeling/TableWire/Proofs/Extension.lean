import Mathlib
import TableWire.Proofs.Decoded

/-!
Reading again with more: with bytes added behind the record, and with a registry that binds more tags. All that
can change is a failure that was for want of bytes or of a table (`Mendable`); any other outcome stays as it was
(`Mends`). Every nested record is read from all bytes to the end, so the bytes that are added reach each of them.
One lemma a reader carries this from the bytes of integers up to whole records (`decode_mends`). Longer bytes alone
and larger registries alone are its two main cases.
-/
namespace TableWire.Wire
open Schema Layout

/-! ### Outcomes that stay -/

/-- Failures that may be gone once `extra` follows the bytes and `larger` stands in for `smaller`. -/
inductive Mendable (extra : Bytes) (smaller larger : Registry) : Failure → Prop
  | bounds {offset length available : Nat} (longer : extra ≠ []) :
      Mendable extra smaller larger (.rejected (.outOfBounds offset length available))
  | overlap {offset : Nat} (longer : extra ≠ []) :
      Mendable extra smaller larger (.rejected (.overlappingData offset))
  | tag {tag : Tag} (unknown : smaller.lookup? tag = none) (bound : larger.lookup? tag ≠ none) :
      Mendable extra smaller larger (.rejected (.unknownTag tag))

/-- The second attempt ends like the first, unless the first failed in a way that can be mended. -/
def Mends {α : Type} (mendable : Failure → Prop) (before after : Attempt α) : Prop :=
  after = before ∨ ∃ failure, mendable failure ∧ before = .error failure

section
variable {α β : Type} {mendable : Failure → Prop} {before after : Attempt α}

theorem Mends.refl (attempt : Attempt α) : Mends mendable attempt attempt := .inl rfl

theorem Mends.of_ok (mends : Mends mendable before after) {a : α} (found : before = .ok a) : after = .ok a := by
  rcases mends with same | ⟨failure, -, failed⟩
  · rw [same, found]
  · simp [found] at failed

theorem Mends.bind (first : Mends mendable before after) {next other : α → Attempt β}
    (second : ∀ a, before = .ok a → Mends mendable (next a) (other a)) :
    Mends mendable (before >>= next) (after >>= other) := by
  rcases first with rfl | ⟨failure, gone, rfl⟩
  · cases after with
    | error failure => exact .refl _
    | ok a => exact second a rfl
  · exact .inr ⟨failure, gone, rfl⟩

theorem Mends.map (first : Mends mendable before after) (f : α → β) :
    Mends mendable (before.map f) (after.map f) := by
  rcases first with rfl | ⟨failure, gone, rfl⟩
  · exact .refl _
  · exact .inr ⟨failure, gone, rfl⟩

end

section
variable {extra : Bytes} {smaller larger : Registry}

/-! ### Bytes -/

theorem slice_mends (src : Bytes) (offset length : Nat) :
    Mends (Mendable extra smaller larger) (slice src offset length) (slice (src ++ extra) offset length) := by
  by_cases inside : offset + length ≤ src.length
  · left
    have front : ((src ++ extra).drop offset).take length = (src.drop offset).take length := by
      rw [List.drop_append_of_le_length (by omega), List.take_append_of_le_length (by rw [List.length_drop]; omega)]
    rw [slice, slice, if_pos inside, if_pos (by rw [List.length_append]; omega), front]
  · by_cases longer : extra = []
    · left
      rw [longer, List.append_nil]
    · right
      exact ⟨_, .bounds longer, if_neg inside⟩

theorem getInt_mends (kind : IntKind) (src : Bytes) (offset : Nat) :
    Mends (Mendable extra smaller larger) (getInt kind src offset) (getInt kind (src ++ extra) offset) :=
  (slice_mends src offset kind.width).map _

theorem getOffset_mends (src : Bytes) (slot : Nat) :
    Mends (Mendable extra smaller larger) (getOffset src slot) (getOffset (src ++ extra) slot) :=
  (getInt_mends .uint32 src slot).map _

theorem getFlags_mends (src : Bytes) (chunks : List BoolChunk) :
    Mends (Mendable extra smaller larger) (getFlags src chunks) (getFlags (src ++ extra) chunks) := by
  induction chunks with
  | nil => exact .refl _
  | cons chunk chunks ih =>
    rw [getFlags, getFlags]
    refine (getInt_mends .byte src chunk.offset).bind fun byte _ => ?_
    exact ih.bind fun _ _ => .refl _

theorem rest_bind {β : Type} (src : Bytes) (offset : Nat) (next : Bytes → Attempt β) :
    rest src offset >>= next = slice src offset 0 >>= fun _ => next (src.drop offset) := by
  rw [rest]
  cases slice src offset 0 with
  | error failure => rfl
  | ok bytes => rfl

/-- What is read from the rest of the bytes is read again from a longer rest. -/
theorem rest_mends {β : Type} {src : Bytes} {offset : Nat} {next other : Bytes → Attempt β}
    (later : offset ≤ src.length →
      Mends (Mendable extra smaller larger) (next (src.drop offset)) (other (src.drop offset ++ extra))) :
    Mends (Mendable extra smaller larger) (rest src offset >>= next) (rest (src ++ extra) offset >>= other) := by
  rw [rest_bind, rest_bind]
  refine (slice_mends src offset 0).bind fun _ sliced => ?_
  have inside : offset ≤ src.length := (slice_ok.mp sliced).1
  rw [List.drop_append_of_le_length inside]
  exact later inside

theorem fitted_mends (value : Value) (available offset : Nat) :
    Mends (Mendable extra smaller larger) (fitted value available offset)
      (fitted value (available + extra.length) offset) := by
  unfold fitted
  refine (Mends.refl _).bind fun length _ => ?_
  by_cases fits : available < length
  · by_cases longer : extra = []
    · subst longer
      exact .refl _
    · right
      exact ⟨_, .overlap longer, if_pos fits⟩
  · left
    rw [if_neg fits, if_neg (by omega)]

/-! ### Tails -/

theorem getString_mends (src : Bytes) (slot : Nat) :
    Mends (Mendable extra smaller larger) (getString src slot) (getString (src ++ extra) slot) := by
  unfold getString
  refine (getOffset_mends src slot).bind fun offset _ => ?_
  refine (getOffset_mends src offset).bind fun length _ => ?_
  refine (Mends.refl _).bind fun start _ => ?_
  exact (slice_mends src start length).bind fun _ _ => .refl _

section
variable {read other : Bytes → Attempt Value} {src : Bytes}
  (nested : ∀ body : Bytes, body.length < src.length →
    Mends (Mendable extra smaller larger) (read body) (other (body ++ extra)))
include nested

theorem getSub_mends (slot : Nat) :
    Mends (Mendable extra smaller larger) (getSub read src slot) (getSub other (src ++ extra) slot) := by
  unfold getSub
  refine (getOffset_mends src slot).bind fun offset found => ?_
  have room := (getOffset_bounds found).1
  split
  · exact .refl _
  · refine rest_mends fun _ => ?_
    refine (nested _ (by rw [List.length_drop]; omega)).bind fun value _ => ?_
    rw [List.length_append]
    exact (fitted_mends value _ offset).bind fun _ _ => .refl _

/-- The elements of an array that got longer. The induction is on the number of elements still to be read. -/
theorem getItems_mends (offset count entry least : Nat) (behind : 0 < least) :
    Mends (Mendable extra smaller larger) (getItems read src offset count entry least)
      (getItems other (src ++ extra) offset count entry least) := by
  induction count generalizing entry least with
  | zero => exact .refl _
  | succ count ih =>
    rw [getItems, getItems]
    refine (Mends.refl _).bind fun entry _ => ?_
    refine (getOffset_mends src entry).bind fun start found => ?_
    have room := (getOffset_bounds found).1
    refine (Mends.refl _).bind fun place _ => ?_
    split
    · exact .refl _
    · refine rest_mends fun _ => ?_
      refine (nested _ (by rw [List.length_drop]; omega)).bind fun value _ => ?_
      rw [List.length_append]
      refine (fitted_mends value _ place).bind fun kept _ => ?_
      refine (Mends.refl _).bind fun stop stopped => ?_
      obtain ⟨-, rfl⟩ := sized_ok.mp stopped
      exact (ih (entry + 4) _ (by omega)).bind fun _ _ => .refl _

theorem getArray_mends (slot : Nat) :
    Mends (Mendable extra smaller larger) (getArray read src slot) (getArray other (src ++ extra) slot) := by
  unfold getArray
  refine (getOffset_mends src slot).bind fun offset _ => ?_
  refine rest_mends fun _ => ?_
  refine (getOffset_mends _ 0).bind fun count _ => ?_
  refine (slice_mends _ 4 (4 * count)).bind fun _ _ => ?_
  refine (Mends.refl _).bind fun least limited => ?_
  obtain ⟨-, rfl⟩ := sized_ok.mp limited
  refine getItems_mends (fun body shorter => nested body ?_) offset count 4 _ (by omega)
  rw [List.length_drop] at shorter
  omega

end

variable (sub : smaller.Sub larger)
include sub

section
variable {read other : Table → Bytes → Attempt Value} {src : Bytes}
  (nested : ∀ (table : Table) (body : Bytes), body.length < src.length →
    Mends (Mendable extra smaller larger) (read table body) (other table (body ++ extra)))
include nested

theorem getAny_mends (slot : Nat) :
    Mends (Mendable extra smaller larger) (getAny smaller read src slot)
      (getAny larger other (src ++ extra) slot) := by
  unfold getAny
  refine (getOffset_mends src slot).bind fun offset found => ?_
  have room := (getOffset_bounds found).1
  split
  · exact .refl _
  · refine rest_mends fun _ => ?_
    refine (slice_mends _ 0 4).bind fun bytes sliced => ?_
    have inside := (slice_ok.mp sliced).1
    cases Tag.ofBytes? bytes with
    | none => exact .refl _
    | some tag =>
      simp only
      cases known : smaller.lookup? tag with
      | none =>
        -- only here does it matter which tags the larger registry adds
        by_cases bound : larger.lookup? tag = none
        · rw [bound]
          exact .refl _
        · exact .inr ⟨_, .tag known bound, rfl⟩
      | some table =>
        rw [sub tag table known, List.drop_append_of_le_length (by omega)]
        simp only
        refine (nested table _ (by simp only [List.length_drop]; omega)).bind fun value _ => ?_
        refine (Mends.refl _).bind fun place _ => ?_
        rw [List.length_append]
        exact (fitted_mends value _ place).bind fun _ _ => .refl _

/-! ### Records -/

theorem getField_mends (catalog : Catalog) (slot : Nat) (storage : StorageClass) :
    Mends (Mendable extra smaller larger) (getField catalog smaller read src slot storage)
      (getField catalog larger other (src ++ extra) slot storage) := by
  cases storage with
  | bool => exact .refl _
  | primitive kind => exact (getInt_mends kind src slot).map _
  | enum name kind first => exact (getInt_mends kind src slot).bind fun _ _ => .refl _
  | string => exact (getString_mends src slot).map _
  | any => exact (getAny_mends sub nested slot).map _
  | table name =>
    rw [getField, getField]
    cases catalog.table? name with
    | none => exact .refl _
    | some table => exact (getSub_mends (nested table) slot).map _
  | tableArray name =>
    rw [getField, getField]
    cases catalog.table? name with
    | none => exact .refl _
    | some table => exact (getArray_mends (nested table) slot).map _

theorem getMembers_mends (catalog : Catalog) (members : List Member) (slots : List Slot) (flags : List Bool) :
    Mends (Mendable extra smaller larger) (getMembers catalog smaller read src members slots flags)
      (getMembers catalog larger other (src ++ extra) members slots flags) := by
  induction members generalizing slots flags with
  | nil => exact .refl _
  | cons member members ih =>
    unfold getMembers
    split
    · exact (ih _ _).bind fun _ _ => .refl _
    · refine (getField_mends sub nested catalog _ _).bind fun value _ => ?_
      exact (ih _ _).bind fun _ _ => .refl _
    · exact .refl _

end

/-- Whole records. The induction is on the length of the bytes, as nested records are read from fewer. -/
theorem decode_mends (catalog : Catalog) (table : Table) (src : Bytes) :
    Mends (Mendable extra smaller larger) (decode catalog smaller table src)
      (decode catalog larger table (src ++ extra)) := by
  induction size : src.length using Nat.strong_induction_on generalizing table src with
  | _ size ih =>
    subst size
    rw [decode_eq, decode_eq, getRecord, getRecord]
    refine (getFlags_mends src table.plan.chunks).bind fun flags _ => ?_
    refine (getMembers_mends sub ?_ catalog table.plan.members table.plan.slots flags).bind fun _ _ => .refl _
    intro inner body shorter
    exact ih body.length shorter inner body rfl

end

/-- What was decoded from bytes is decoded from them whatever follows. -/
theorem decode_append (catalog : Catalog) (registry : Registry) (table : Table) {src : Bytes} {value : Value}
    (decoded : decode catalog registry table src = .ok value) (extra : Bytes) :
    decode catalog registry table (src ++ extra) = .ok value :=
  (decode_mends registry.sub_refl catalog table src).of_ok decoded

open Samples in
/-- The dog in `knot` stays the same with its own bytes behind it once more. -/
theorem knot_append :
    decode kennel (.ofTables kennel.tables) dog knot = .ok unknotted ∧
    decode kennel (.ofTables kennel.tables) dog (knot ++ knot) = .ok unknotted := by
  have decoded : decode kennel (.ofTables kennel.tables) dog knot = .ok unknotted := by decide +kernel
  exact ⟨decoded, decode_append kennel _ dog decoded knot⟩

/-- A larger registry only finds tables for tags that were unknown: records stay as they are, and so does every
other failure. A tag that is still unknown is still the failure. -/
theorem decode_larger_registry (catalog : Catalog) {smaller larger : Registry} (sub : smaller.Sub larger)
    (table : Table) (src : Bytes) :
    (∀ value, decode catalog smaller table src = .ok value → decode catalog larger table src = .ok value) ∧
    (∀ error, (∀ tag, error ≠ .unknownTag tag) →
      decode catalog smaller table src = .error (.rejected error) →
      decode catalog larger table src = .error (.rejected error)) ∧
    ∀ tag, larger.lookup? tag = none →
      decode catalog smaller table src = .error (.rejected (.unknownTag tag)) →
      decode catalog larger table src = .error (.rejected (.unknownTag tag)) := by
  have mends : Mends (Mendable [] smaller larger) (decode catalog smaller table src)
      (decode catalog larger table (src ++ [])) := decode_mends sub catalog table src
  rw [List.append_nil] at mends
  have stays : ∀ error, decode catalog smaller table src = .error (.rejected error) →
      decode catalog larger table src = .error (.rejected error) ∨
        ∃ tag, error = .unknownTag tag ∧ larger.lookup? tag ≠ none := by
    intro error failed
    rcases mends with same | ⟨failure, mendable, failedAgain⟩
    · left
      rw [same, failed]
    · obtain rfl := Except.error.inj (failed.symm.trans failedAgain)
      cases mendable with
      | bounds longer => exact absurd rfl longer
      | overlap longer => exact absurd rfl longer
      | tag unknown bound => exact .inr ⟨_, rfl, bound⟩
  refine ⟨fun value => mends.of_ok, fun error other failed => ?_, fun tag unknown failed => ?_⟩
  · rcases stays error failed with same | ⟨tag, rfl, -⟩
    · exact same
    · exact absurd rfl (other tag)
  · rcases stays _ failed with same | ⟨found, same, bound⟩
    · exact same
    · obtain rfl := DecodeError.unknownTag.inj same
      exact absurd unknown bound

open Samples in
/-- Dogs added to a registry of chips change neither the dog in `knot` nor the refusal of no bytes at all. They do
not help with a note that is tagged as a cat. -/
theorem knot_larger_registry :
    (Registry.ofTables [chip]).Sub (.ofTables kennel.tables) ∧
    (decode kennel (.ofTables [chip]) dog knot = .ok unknotted ∧
      decode kennel (.ofTables kennel.tables) dog knot = .ok unknotted) ∧
    (decode kennel (.ofTables [chip]) dog [] = .error (.rejected (.outOfBounds 17 1 0)) ∧
      decode kennel (.ofTables kennel.tables) dog [] = .error (.rejected (.outOfBounds 17 1 0))) ∧
    (decode kennel (.ofTables [chip]) dog (knot.take 48 ++ [67, 65, 84, 83]) =
        .error (.rejected (.unknownTag ⟨67, 65, 84, 83⟩)) ∧
      decode kennel (.ofTables kennel.tables) dog (knot.take 48 ++ [67, 65, 84, 83]) =
        .error (.rejected (.unknownTag ⟨67, 65, 84, 83⟩))) := by
  have free : (Registry.ofTables [chip]).lookup? dog.tag = none := by decide +kernel
  have sub : (Registry.ofTables [chip]).Sub (.ofTables kennel.tables) := Registry.sub_bind free dog
  have decoded : decode kennel (.ofTables [chip]) dog knot = .ok unknotted := by decide +kernel
  have refused : decode kennel (.ofTables [chip]) dog [] = .error (.rejected (.outOfBounds 17 1 0)) := by
    decide +kernel
  have unknown : decode kennel (.ofTables [chip]) dog (knot.take 48 ++ [67, 65, 84, 83]) =
      .error (.rejected (.unknownTag ⟨67, 65, 84, 83⟩)) := by
    decide +kernel
  refine ⟨sub, ⟨decoded, ?_⟩, ⟨refused, ?_⟩, unknown, ?_⟩
  · exact (decode_larger_registry kennel sub dog knot).1 _ decoded
  · exact (decode_larger_registry kennel sub dog []).2.1 _ nofun refused
  · exact (decode_larger_registry kennel sub dog _).2.2 _ (by decide +kernel) unknown

end TableWire.Wire
