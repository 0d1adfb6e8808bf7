import Mathlib
import TableWire.Proofs.Inflation

/-!
Reading ends with a record or a reason. Nothing in foreign bytes makes a reader break off: offsets and counts
take four bytes, so sums of them stay far below `sizeLimit`; a nested record comes from fewer bytes, and its
length is bounded by what it was decoded from. Each reader ends when the reader of nested records does on
all shorter bytes (`SafeBelow`); the result for whole records is by induction on the length of the bytes.
-/
namespace TableWire.Wire
open Schema Layout

theorem ends_sized {size : Nat} (small : size < sizeLimit) : Ends (sized size) := by
  rw [sized_of_lt small]
  exact ends_ok size

/-- A reader of nested records that ends on all bytes below a length, with records of a size that 64 bits can
hold. -/
def SafeBelow (limit : Nat) (read : Bytes → Attempt Value) : Prop :=
  ∀ body : Bytes, body.length < limit →
    Ends (read body) ∧ ∀ value, read body = .ok value → value.length < sizeLimit

theorem ends_fitted {value : Value} (small : value.length < sizeLimit) (available offset : Nat) :
    Ends (fitted value available offset) := by
  unfold fitted
  refine ends_bind (ends_sized small) fun length _ => ?_
  split
  · exact ends_reject _
  · exact ends_pure _

/-! ### Tails -/

theorem ends_getString (src : Bytes) (slot : Nat) : Ends (getString src slot) := by
  unfold getString
  refine ends_bind (ends_getOffset src slot) fun offset found => ?_
  have small := (getOffset_bounds found).2
  refine ends_bind (ends_getOffset src offset) fun length _ => ?_
  refine ends_bind (ends_sized ?_) fun start _ => ?_
  · simp only [offsetLimit, sizeLimit] at small ⊢
    omega
  refine ends_bind (ends_slice src start length) fun bytes _ => ?_
  split
  · exact ends_pure _
  · exact ends_reject _

section
variable {read : Bytes → Attempt Value} {src : Bytes}

theorem ends_getSub (safe : SafeBelow src.length read) (slot : Nat) : Ends (getSub read src slot) := by
  unfold getSub
  refine ends_bind (ends_getOffset src slot) fun offset found => ?_
  have room := (getOffset_bounds found).1
  split
  · exact ends_pure _
  · refine ends_bind (ends_rest src offset) fun body taken => ?_
    obtain ⟨-, rfl⟩ := rest_ok.mp taken
    obtain ⟨ends, small⟩ := safe (src.drop offset) (by rw [List.length_drop]; omega)
    refine ends_bind ends fun value nested => ?_
    exact ends_bind (ends_fitted (small value nested) _ _) fun _ _ => ends_pure _

/-- Elements end when the entries that are still to be read lie inside the array. -/
theorem ends_getItems {array : Bytes} (safe : SafeBelow array.length read) (short : array.length < offsetLimit)
    {offset : Nat} (near : offset < offsetLimit) {count entry least : Nat}
    (entries : entry + 4 * count ≤ array.length) (behind : 0 < least) :
    Ends (getItems read array offset count entry least) := by
  have limits : 2 * offsetLimit < sizeLimit := by decide
  induction count generalizing entry least with
  | zero => exact ends_ok _
  | succ count ih =>
    rw [getItems]
    refine ends_bind (ends_sized (by omega)) fun place placed => ?_
    obtain ⟨-, rfl⟩ := sized_ok.mp placed
    refine ends_bind (ends_getOffset array place) fun start found => ?_
    obtain ⟨room, small⟩ := getOffset_bounds found
    refine ends_bind (ends_sized (by omega)) fun _ _ => ?_
    split
    · exact ends_reject _
    · refine ends_bind (ends_rest array start) fun body taken => ?_
      obtain ⟨inside, rfl⟩ := rest_ok.mp taken
      obtain ⟨ends, sized⟩ := safe (array.drop start) (by rw [List.length_drop]; omega)
      refine ends_bind ends fun value nested => ?_
      refine ends_bind (ends_fitted (sized value nested) _ _) fun kept fits => ?_
      obtain ⟨rfl, -, fits⟩ := fitted_ok.mp fits
      rw [List.length_drop] at fits
      refine ends_bind (ends_sized (by omega)) fun stop stopped => ?_
      obtain ⟨-, rfl⟩ := sized_ok.mp stopped
      exact ends_bind (ih (by omega) (by omega)) fun _ _ => ends_pure _

theorem ends_getArray (safe : SafeBelow src.length read) (short : src.length < offsetLimit) (slot : Nat) :
    Ends (getArray read src slot) := by
  have limits : offsetLimit < sizeLimit := by decide
  unfold getArray
  refine ends_bind (ends_getOffset src slot) fun offset found => ?_
  have near := (getOffset_bounds found).2
  refine ends_bind (ends_rest src offset) fun array taken => ?_
  obtain ⟨-, rfl⟩ := rest_ok.mp taken
  refine ends_bind (ends_getOffset _ 0) fun count _ => ?_
  refine ends_bind (ends_slice _ 4 (4 * count)) fun _ sliced => ?_
  obtain ⟨room, -⟩ := slice_ok.mp sliced
  have shorter : (src.drop offset).length ≤ src.length := by
    rw [List.length_drop]
    omega
  refine ends_bind (ends_sized (by omega)) fun least limited => ?_
  obtain ⟨-, rfl⟩ := sized_ok.mp limited
  exact ends_getItems (fun body below => safe body (by omega)) (by omega) near room (by omega)

end

section
variable {catalog : Catalog} {registry : Registry} (serves : registry.Serves catalog)
  {read : Table → Bytes → Attempt Value} {src : Bytes}
  (safe : ∀ table ∈ catalog.tables, SafeBelow src.length (read table))
include serves safe

theorem ends_getAny (slot : Nat) : Ends (getAny registry read src slot) := by
  unfold getAny
  refine ends_bind (ends_getOffset src slot) fun offset found => ?_
  have limits : 2 * offsetLimit < sizeLimit := by decide
  obtain ⟨room, near⟩ := getOffset_bounds found
  split
  · exact ends_pure _
  · refine ends_bind (ends_rest src offset) fun body taken => ?_
    obtain ⟨-, rfl⟩ := rest_ok.mp taken
    refine ends_bind (ends_slice _ 0 4) fun bytes sliced => ?_
    obtain ⟨inside, rfl⟩ := slice_ok.mp sliced
    have fourBytes : (((src.drop offset).drop 0).take 4).length = 4 := by
      rw [List.length_take, List.length_drop]
      omega
    obtain ⟨tag, spelled⟩ := Tag.ofBytes?_of_length fourBytes
    rw [spelled]
    simp only
    cases known : registry.lookup? tag with
    | none => exact ends_reject _
    | some table =>
      obtain ⟨ends, small⟩ := safe table (serves tag table known) ((src.drop offset).drop 4)
        (by simp only [List.length_drop]; omega)
      refine ends_bind ends fun value nested => ?_
      refine ends_bind (ends_sized (by simp only [offsetLimit, sizeLimit] at *; omega)) fun _ _ => ?_
      exact ends_bind (ends_fitted (small value nested) _ _) fun _ _ => ends_pure _

/-! ### Records -/

theorem ends_getField (short : src.length < offsetLimit) {storage : StorageClass} (slotted : storage ≠ .bool)
    (resolves : catalog.Resolves storage) (slot : Nat) :
    Ends (getField catalog registry read src slot storage) := by
  cases storage with
  | bool => exact absurd rfl slotted
  | primitive kind => exact ends_map _ (ends_getInt kind src slot)
  | string => exact ends_map _ (ends_getString src slot)
  | any => exact ends_map _ (ends_getAny serves safe slot)
  | enum name kind first =>
    obtain ⟨decl, named, -⟩ := resolves
    refine ends_bind (ends_getInt kind src slot) fun n _ => ?_
    rw [Catalog.enumValue, named]
    simp only
    split
    · exact ends_ok _
    · exact ends_reject _
  | table name =>
    obtain ⟨table, named⟩ := resolves
    rw [getField, named]
    exact ends_map _ (ends_getSub (safe table (Catalog.mem_of_table? named)) slot)
  | tableArray name =>
    obtain ⟨table, named⟩ := resolves
    rw [getField, named]
    exact ends_map _ (ends_getArray (safe table (Catalog.mem_of_table? named)) short slot)

theorem ends_getMembers (short : src.length < offsetLimit) {members : List Member}
    (resolved : ∀ member ∈ members, catalog.Resolves member.storage) (offset : Nat) {flags : List Bool}
    (all : flags.length = (boolNames members).length) :
    Ends (getMembers catalog registry read src members (slotsFrom offset members) flags) := by
  induction members generalizing offset flags with
  | nil => exact ends_ok _
  | cons member members ih =>
    have later : ∀ other ∈ members, catalog.Resolves other.storage :=
      fun other listed => resolved other (List.mem_cons_of_mem _ listed)
    by_cases flag : member.storage = .bool
    · rw [boolNames_bool flag, List.length_cons] at all
      obtain ⟨b, more, rfl⟩ := List.exists_cons_of_length_eq_add_one all
      rw [slotsFrom, if_pos flag, getMembers_bool flag]
      exact ends_bind (ih later offset (by simpa using all)) fun _ _ => ends_pure _
    · rw [boolNames_slot flag] at all
      rw [slotsFrom, if_neg flag, getMembers_slot flag]
      refine ends_bind (ends_getField serves safe short flag (resolved member (List.mem_cons_self ..)) offset)
        fun value _ => ?_
      exact ends_bind (ih later _ all) fun _ _ => ends_pure _

end

theorem length_unpackBits (n count : Nat) : (unpackBits n count).length = count := by
  induction count generalizing n with
  | zero => rfl
  | succ count ih => rw [unpackBits, List.length_cons, ih]

theorem ends_getFlags (src : Bytes) (chunks : List BoolChunk) : Ends (getFlags src chunks) := by
  induction chunks with
  | nil => exact ends_ok _
  | cons chunk chunks ih =>
    rw [getFlags]
    refine ends_bind (ends_getInt _ _ _) fun byte _ => ?_
    exact ends_bind ih fun flags _ => ends_pure _

/-- Bytes of bools give one bool a name. -/
theorem getFlags_length {src : Bytes} {stop : Nat} {names : List (List String)} {flags : List Bool}
    (found : getFlags src (chunksBelow stop names) = .ok flags) : flags.length = names.flatten.length := by
  induction names generalizing stop flags with
  | nil =>
    obtain rfl : [] = flags := Except.ok.inj found
    rfl
  | cons first names ih =>
    rw [chunksBelow, getFlags] at found
    simp only [bind_ok_iff, pure_ok_iff] at found
    obtain ⟨byte, -, later, rest, rfl⟩ := found
    rw [List.length_append, length_unpackBits, ih rest, List.flatten_cons, List.length_append]

/-! ### Sizes -/

theorem four_mul_variableFrom (offset : Nat) (members : List Member) :
    4 * (variableFrom offset members).length ≤ slotWidths members := by
  induction members generalizing offset with
  | nil => simp [variableFrom]
  | cons member members ih =>
    have later := ih (offset + member.storage.width)
    cases ruled : member.storage.lengthRule? with
    | none =>
      simp only [variableFrom, ruled, slotWidths_cons]
      omega
    | some rule =>
      have width : member.storage.width = 4 := by
        cases storage : member.storage with
        | primitive | bool | enum => simp [storage, StorageClass.lengthRule?] at ruled
        | _ => rfl
      simp only [variableFrom, ruled, slotWidths_cons, List.length_cons]
      omega

/-- The length of what is decoded from bytes that offsets can reach needs no more than 64 bits. -/
theorem decode_length_lt {catalog : Catalog} (wellFormed : catalog.WellFormed) {registry : Registry}
    (serves : registry.Serves catalog) {table : Table} (member : table ∈ catalog.tables) {src : Bytes}
    (short : src.length < offsetLimit) {value : Value}
    (decoded : decode catalog registry table src = .ok value) : value.length < sizeLimit := by
  have computed := wellFormed.computed table member
  have base := decode_baseLength wellFormed member decoded
  have length := decode_length wellFormed member decoded serves
  have few := four_mul_variableFrom 0 table.plan.members
  rw [← computed.variableFields_eq] at few
  have width := computed.baseLength_eq
  have product : table.plan.variableFields.length * src.length ≤ 1073741824 * 4294967296 := by
    refine Nat.mul_le_mul ?_ ?_
    · simp only [offsetLimit] at short
      omega
    · exact short.le
  simp only [offsetLimit, sizeLimit] at short ⊢
  omega

theorem ends_decode {catalog : Catalog} (wellFormed : catalog.WellFormed) {registry : Registry}
    (serves : registry.Serves catalog) {table : Table} (member : table ∈ catalog.tables) {src : Bytes}
    (short : src.length < offsetLimit) : Ends (decode catalog registry table src) := by
  induction size : src.length using Nat.strong_induction_on generalizing table src with
  | _ size ih =>
    subst size
    have computed := wellFormed.computed table member
    have safe : ∀ other ∈ catalog.tables, SafeBelow src.length (decode catalog registry other) := by
      intro other known body shorter
      refine ⟨ih body.length shorter known (by omega) rfl, fun value decoded => ?_⟩
      exact decode_length_lt wellFormed serves known (by omega) decoded
    rw [decode_eq, getRecord, computed.slots_eq, computed.chunks_eq]
    refine ends_bind (ends_getFlags _ _) fun flags packed => ?_
    have all := getFlags_length packed
    rw [flatten_chunkNames] at all
    refine ends_bind ?_ fun _ _ => ends_pure _
    exact ends_getMembers serves safe short (wellFormed.resolved table member) 0 all

/-- Decoding is total. Whatever bytes there are, decoding a table, or the table of a tag, ends with a record or
a reason to refuse them. Records inside are decoded from strictly fewer bytes: a reader of them that is right
on shorter bytes only, and does anything on the others, gives the same result. -/
theorem decode_total {catalog : Catalog} (accepted : catalog.Accepted) {registry : Registry}
    (serves : registry.Serves catalog) {src : Bytes} (short : src.length < 2 ^ 32) :
    (∀ table ∈ catalog.tables,
      ((∃ value, decode catalog registry table src = .ok value) ∨
        ∃ error, decode catalog registry table src = .error (.rejected error)) ∧
      ∀ read : Table → Bytes → Attempt Value,
        (∀ nested body, body.length < src.length → read nested body = decode catalog registry nested body) →
        getRecord catalog registry read table src = decode catalog registry table src) ∧
    ∀ tag, (∃ value, decodeTagged catalog registry tag src = .ok value) ∨
      ∃ error, decodeTagged catalog registry tag src = .error (.rejected error) := by
  have wellFormed := accepted.wellFormed
  refine ⟨fun table member => ⟨ends_iff.mp (ends_decode wellFormed serves member short), ?_⟩, fun tag => ?_⟩
  · intro read same
    rw [decode_eq, getRecord, getRecord]
    refine bind_congr_ok fun flags _ => ?_
    rw [getMembers_congr same]
  · refine ends_iff.mp ?_
    unfold decodeTagged
    cases known : registry.lookup? tag with
    | none => exact ends_reject _
    | some table => exact ends_decode wellFormed serves (serves tag table known) short

open Samples in
/-- The dog in `knot` is decoded or refused by a registry that takes chips for dogs. -/
theorem knot_ends :
    (Registry.empty.bind chip.tag dog).Serves kennel ∧ knot.length < 2 ^ 32 ∧
    ((∃ value, decode kennel (.bind .empty chip.tag dog) dog knot = .ok value) ∨
      ∃ error, decode kennel (.bind .empty chip.tag dog) dog knot = .error (.rejected error)) ∧
    ((∃ value, decodeTagged kennel (.bind .empty chip.tag dog) chip.tag knot = .ok value) ∨
      ∃ error, decodeTagged kennel (.bind .empty chip.tag dog) chip.tag knot = .error (.rejected error)) := by
  have known : dog ∈ kennel.tables := by simp [kennel]
  have serves := (Registry.serves_empty kennel).bind chip.tag known
  obtain ⟨total, tagged⟩ := decode_total kennel_accepted serves (show knot.length < 2 ^ 32 by decide)
  exact ⟨serves, by decide, (total dog known).1, tagged chip.tag⟩

end TableWire.Wire
