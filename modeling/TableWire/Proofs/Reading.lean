import Mathlib
import TableWire.Proofs.Buffer
import TableWire.Proofs.Header
import TableWire.Wire.Read

/-!
When reading succeeds. Each reader of a tail has one lemma that says what it found (`getString_ok` and the
like); all else about results follows from these. Nested records are read from strictly fewer bytes, so
`decode_eq` can drop the check on the length that makes the recursion end.
-/
namespace TableWire.Wire
open Schema Layout

/-! ### Tails -/

section
variable {read : Bytes → Attempt Value} {src : Bytes} {slot : Nat}

theorem getString_ok {s : String} :
    getString src slot = .ok s ↔ ∃ offset length, getOffset src slot = .ok offset ∧
      getOffset src offset = .ok length ∧ offset + 4 < sizeLimit ∧ offset + 4 + length ≤ src.length ∧
      Text.ofUtf8? ((src.drop (offset + 4)).take length) = some s := by
  unfold getString
  simp only [bind_ok_iff, sized_ok, slice_ok]
  constructor
  · rintro ⟨offset, found, length, counted, _, ⟨small, rfl⟩, _, ⟨inside, rfl⟩, text⟩
    refine ⟨offset, length, found, counted, small, inside, ?_⟩
    cases spelled : Text.ofUtf8? ((src.drop (offset + 4)).take length) with
    | none => simp [spelled, reject] at text
    | some other => simpa [spelled, pure, Except.pure] using text
  · rintro ⟨offset, length, found, counted, small, inside, spelled⟩
    refine ⟨offset, found, length, counted, _, ⟨small, rfl⟩, _, ⟨inside, rfl⟩, ?_⟩
    rw [spelled]
    rfl

theorem fitted_ok {value result : Value} {available offset : Nat} :
    fitted value available offset = .ok result ↔
      result = value ∧ value.length < sizeLimit ∧ value.length ≤ available := by
  unfold fitted
  simp only [bind_ok_iff, sized_ok]
  constructor
  · rintro ⟨_, ⟨small, rfl⟩, kept⟩
    split at kept
    · simp [reject] at kept
    · next fits => exact ⟨(Except.ok.inj kept).symm, small, by omega⟩
  · rintro ⟨rfl, small, fits⟩
    refine ⟨_, ⟨small, rfl⟩, ?_⟩
    rw [if_neg (by omega)]
    rfl

/-- A record read from bytes that it fits into. -/
def ReadsFrom (read : Bytes → Attempt Value) (body : Bytes) (value : Value) : Prop :=
  read body = .ok value ∧ value.length < sizeLimit ∧ value.length ≤ body.length

theorem getSub_ok {value? : Option Value} :
    getSub read src slot = .ok value? ↔ ∃ offset, getOffset src slot = .ok offset ∧
      (offset = 0 ∧ value? = none ∨
        offset ≠ 0 ∧ offset ≤ src.length ∧ ∃ value, ReadsFrom read (src.drop offset) value ∧
          value? = some value) := by
  unfold getSub ReadsFrom
  simp only [bind_ok_iff]
  constructor
  · rintro ⟨offset, found, kept⟩
    refine ⟨offset, found, ?_⟩
    split at kept
    · next null => exact .inl ⟨null, (Except.ok.inj kept).symm⟩
    · next present =>
      simp only [bind_ok_iff, rest_ok, fitted_ok, pure_ok_iff] at kept
      obtain ⟨_, ⟨inside, rfl⟩, value, nested, _, ⟨rfl, small, fits⟩, rfl⟩ := kept
      exact .inr ⟨present, inside, _, ⟨nested, small, fits⟩, rfl⟩
  · rintro ⟨offset, found, ⟨null, rfl⟩ | ⟨present, inside, value, ⟨nested, small, fits⟩, rfl⟩⟩
    · refine ⟨offset, found, ?_⟩
      rw [if_pos null]
      rfl
    · refine ⟨offset, found, ?_⟩
      rw [if_neg present]
      simp only [bind_ok_iff, rest_ok, fitted_ok, pure_ok_iff]
      exact ⟨_, ⟨inside, rfl⟩, value, nested, _, ⟨rfl, small, fits⟩, rfl⟩

/-- One more element: it starts behind the one before it and the next may not start before its end. -/
theorem getItems_succ_ok {array : Bytes} {offset count entry least : Nat} {values : List Value} :
    getItems read array offset (count + 1) entry least = .ok values ↔ ∃ start value later,
      entry < sizeLimit ∧ getOffset array entry = .ok start ∧ offset + start < sizeLimit ∧ least ≤ start ∧
      start ≤ array.length ∧ ReadsFrom read (array.drop start) value ∧ start + value.length < sizeLimit ∧
      getItems read array offset count (entry + 4) (start + value.length) = .ok later ∧
      values = value :: later := by
  rw [getItems]
  unfold ReadsFrom
  simp only [bind_ok_iff, sized_ok]
  constructor
  · rintro ⟨_, ⟨entrySmall, rfl⟩, start, found, _, ⟨placeSmall, rfl⟩, kept⟩
    split at kept
    · simp [reject] at kept
    · next behind =>
      simp only [bind_ok_iff, rest_ok, fitted_ok, sized_ok, pure_ok_iff] at kept
      obtain ⟨_, ⟨inside, rfl⟩, value, nested, _, ⟨rfl, small, fits⟩, _, ⟨stopSmall, rfl⟩, later, rest, rfl⟩ := kept
      exact ⟨start, _, later, entrySmall, found, placeSmall, by omega, inside, ⟨nested, small, fits⟩, stopSmall,
        rest, rfl⟩
  · rintro ⟨start, value, later, entrySmall, found, placeSmall, behind, inside, ⟨nested, small, fits⟩, stopSmall,
      rest, rfl⟩
    refine ⟨_, ⟨entrySmall, rfl⟩, start, found, _, ⟨placeSmall, rfl⟩, ?_⟩
    rw [if_neg (by omega)]
    simp only [bind_ok_iff, rest_ok, fitted_ok, sized_ok, pure_ok_iff]
    exact ⟨_, ⟨inside, rfl⟩, value, nested, _, ⟨rfl, small, fits⟩, _, ⟨stopSmall, rfl⟩, later, rest, rfl⟩

theorem getArray_ok {values : List Value} :
    getArray read src slot = .ok values ↔ ∃ offset count, getOffset src slot = .ok offset ∧
      offset ≤ src.length ∧ getOffset (src.drop offset) 0 = .ok count ∧
      4 + 4 * count ≤ (src.drop offset).length ∧ 4 + 4 * count < sizeLimit ∧
      getItems read (src.drop offset) offset count 4 (4 + 4 * count) = .ok values := by
  unfold getArray
  simp only [bind_ok_iff, rest_ok, slice_ok, sized_ok]
  constructor
  · rintro ⟨offset, found, _, ⟨inside, rfl⟩, count, counted, _, ⟨room, -⟩, _, ⟨small, rfl⟩, items⟩
    exact ⟨offset, count, found, inside, counted, room, small, items⟩
  · rintro ⟨offset, count, found, inside, counted, room, small, items⟩
    exact ⟨offset, found, _, ⟨inside, rfl⟩, count, counted, _, ⟨room, rfl⟩, _, ⟨small, rfl⟩, items⟩

end

theorem Tag.ofBytes?_bytes (tag : Tag) : Tag.ofBytes? tag.bytes = some tag := rfl

theorem getAny_ok {registry : Registry} {read : Table → Bytes → Attempt Value} {src : Bytes} {slot : Nat}
    {value? : Option Value} :
    getAny registry read src slot = .ok value? ↔ ∃ offset, getOffset src slot = .ok offset ∧
      (offset = 0 ∧ value? = none ∨
        offset ≠ 0 ∧ offset + 4 ≤ src.length ∧ offset + 4 < sizeLimit ∧ ∃ tag table value,
          Tag.ofBytes? ((src.drop offset).take 4) = some tag ∧ registry.lookup? tag = some table ∧
          ReadsFrom (read table) (src.drop (offset + 4)) value ∧ value? = some value) := by
  unfold getAny ReadsFrom
  simp only [bind_ok_iff]
  constructor
  · rintro ⟨offset, found, kept⟩
    refine ⟨offset, found, ?_⟩
    split at kept
    · next null => exact .inl ⟨null, (Except.ok.inj kept).symm⟩
    · next present =>
      simp only [bind_ok_iff, rest_ok, slice_ok, Nat.zero_add, List.drop_zero] at kept
      obtain ⟨_, ⟨inside, rfl⟩, _, ⟨room, rfl⟩, kept⟩ := kept
      split at kept
      · simp [abort] at kept
      · next tag spelled =>
        split at kept
        · simp [reject] at kept
        · next table known =>
          simp only [bind_ok_iff, sized_ok, fitted_ok, pure_ok_iff, List.drop_drop] at kept
          obtain ⟨value, nested, _, ⟨small, rfl⟩, _, ⟨rfl, sized, fits⟩, rfl⟩ := kept
          rw [List.length_drop] at room
          exact .inr ⟨present, by omega, small, tag, table, _, spelled, known, ⟨nested, sized, fits⟩, rfl⟩
  · rintro ⟨offset, found, ⟨null, rfl⟩ |
      ⟨present, room, small, tag, table, value, spelled, known, ⟨nested, sized, fits⟩, rfl⟩⟩
    · refine ⟨offset, found, ?_⟩
      rw [if_pos null]
      rfl
    · refine ⟨offset, found, ?_⟩
      rw [if_neg present]
      simp only [bind_ok_iff, rest_ok, slice_ok, Nat.zero_add, List.drop_zero]
      refine ⟨_, ⟨by omega, rfl⟩, _, ⟨by rw [List.length_drop]; omega, rfl⟩, ?_⟩
      rw [spelled]
      simp only
      rw [known]
      simp only [bind_ok_iff, sized_ok, fitted_ok, pure_ok_iff, List.drop_drop]
      exact ⟨value, nested, _, ⟨small, rfl⟩, _, ⟨rfl, sized, fits⟩, rfl⟩

/-! ### Members -/

section
variable {catalog : Catalog} {registry : Registry} {read : Table → Bytes → Attempt Value} {src : Bytes}

theorem getMembers_bool {member : Member} (flag : member.storage = .bool) (members : List Member)
    (slots : List Slot) (b : Bool) (flags : List Bool) :
    getMembers catalog registry read src (member :: members) slots (b :: flags) = (do
      let values ← getMembers catalog registry read src members slots flags
      return .bool b :: values) := by
  rw [getMembers]
  simp only [flag]

theorem getMembers_slot {member : Member} (slotted : member.storage ≠ .bool) (members : List Member)
    (slot : Slot) (slots : List Slot) (flags : List Bool) :
    getMembers catalog registry read src (member :: members) (slot :: slots) flags = (do
      let value ← getField catalog registry read src slot.offset member.storage
      let values ← getMembers catalog registry read src members slots flags
      return value :: values) := by
  rw [getMembers]
  intro _ _ flag
  exact absurd flag slotted

end

/-! ### Nested records are shorter -/

section
variable {read other : Bytes → Attempt Value} {src : Bytes} {slot : Nat}

/-- A nested record is not read from where the record around it starts. -/
theorem getSub_congr (same : ∀ body : Bytes, body.length < src.length → read body = other body) :
    getSub read src slot = getSub other src slot := by
  unfold getSub
  refine bind_congr_ok fun offset found => ?_
  have inside := (getOffset_bounds found).1
  split
  · rfl
  · refine bind_congr_ok fun body taken => ?_
    obtain ⟨-, rfl⟩ := rest_ok.mp taken
    rw [same _ (by rw [List.length_drop]; omega)]

/-- An element is not read from where its array starts. -/
theorem getItems_congr {array : Bytes} (same : ∀ body : Bytes, body.length < array.length → read body = other body)
    (offset count entry least : Nat) (behind : 0 < least) :
    getItems read array offset count entry least = getItems other array offset count entry least := by
  induction count generalizing entry least with
  | zero => rfl
  | succ count ih =>
    rw [getItems, getItems]
    refine bind_congr_ok fun entry _ => bind_congr_ok fun start found => bind_congr_ok fun place _ => ?_
    have inside := (getOffset_bounds found).1
    split
    · rfl
    · refine bind_congr_ok fun body taken => ?_
      obtain ⟨-, rfl⟩ := rest_ok.mp taken
      rw [same _ (by rw [List.length_drop]; omega)]
      refine bind_congr_ok fun value _ => bind_congr_ok fun value _ => bind_congr_ok fun stop ended => ?_
      obtain ⟨-, rfl⟩ := sized_ok.mp ended
      rw [ih (entry + 4) _ (by omega)]

theorem getArray_congr (same : ∀ body : Bytes, body.length < src.length → read body = other body) :
    getArray read src slot = getArray other src slot := by
  unfold getArray
  refine bind_congr_ok fun offset _ => bind_congr_ok fun array taken => ?_
  obtain ⟨-, rfl⟩ := rest_ok.mp taken
  refine bind_congr_ok fun count _ => bind_congr_ok fun _ _ => bind_congr_ok fun least limited => ?_
  obtain ⟨-, rfl⟩ := sized_ok.mp limited
  refine getItems_congr (fun body shorter => same body ?_) _ _ _ _ (by omega)
  rw [List.length_drop] at shorter
  omega

end

section
variable {catalog : Catalog} {registry : Registry} {read other : Table → Bytes → Attempt Value} {src : Bytes}
  (same : ∀ (table : Table) (body : Bytes), body.length < src.length → read table body = other table body)
include same

theorem getAny_congr (slot : Nat) : getAny registry read src slot = getAny registry other src slot := by
  unfold getAny
  refine bind_congr_ok fun offset found => ?_
  have inside := (getOffset_bounds found).1
  split
  · rfl
  · refine bind_congr_ok fun body taken => bind_congr_ok fun bytes _ => ?_
    obtain ⟨-, rfl⟩ := rest_ok.mp taken
    cases Tag.ofBytes? bytes with
    | none => rfl
    | some tag =>
      simp only
      cases registry.lookup? tag with
      | none => rfl
      | some table =>
        have shorter : ((src.drop offset).drop 4).length < src.length := by
          simp only [List.length_drop]
          omega
        simp only [same table _ shorter]

theorem getField_congr (slot : Nat) (storage : StorageClass) :
    getField catalog registry read src slot storage = getField catalog registry other src slot storage := by
  cases storage with
  | any => rw [getField, getField, getAny_congr same]
  | table name =>
    rw [getField, getField]
    cases catalog.table? name with
    | none => rfl
    | some table => simp only [getSub_congr (same table)]
  | tableArray name =>
    rw [getField, getField]
    cases catalog.table? name with
    | none => rfl
    | some table => simp only [getArray_congr (same table)]
  | _ => rfl

theorem getMembers_congr (members : List Member) (slots : List Slot) (flags : List Bool) :
    getMembers catalog registry read src members slots flags =
      getMembers catalog registry other src members slots flags := by
  induction members generalizing slots flags with
  | nil => rfl
  | cons member members ih =>
    unfold getMembers
    simp only [ih, getField_congr same]

end

/-- Reading a record reads the records inside it in the same way. -/
theorem decode_eq (catalog : Catalog) (registry : Registry) (table : Table) (src : Bytes) :
    decode catalog registry table src = getRecord catalog registry (decode catalog registry) table src := by
  rw [decode]
  unfold getRecord
  refine bind_congr_ok fun flags _ => ?_
  rw [getMembers_congr]
  intro nested body shorter
  rw [if_pos shorter]

end TableWire.Wire
