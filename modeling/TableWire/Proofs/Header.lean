import Mathlib
import TableWire.Layout.Plan

/-!
What a header looks like once all members are placed. Slots follow each other in declaration order
(`slotsFrom`), the names of the bools are cut into pieces of at most eight (`chunkNames`), and the
bytes of these pieces lie behind the slots, the first one last (`chunksBelow`). The placement goes
through four accumulators; `foldl_place` says what each of them ends as.
-/
namespace TableWire.Layout

/-- Bytes that a field takes in front of the bools. -/
def StorageClass.width (storage : StorageClass) : Nat := storage.headerWidth?.getD 0

/-- Bytes that the slots of members take together. -/
def slotWidths (members : List Member) : Nat := (members.map (·.storage.width)).sum

/-- The slots of members from an offset on. -/
def slotsFrom (offset : Nat) : List Member → List Slot
  | [] => []
  | member :: members =>
    if member.storage = .bool then slotsFrom offset members
    else ⟨member.name, offset⟩ :: slotsFrom (offset + member.storage.width) members

/-- The fields with tails among members whose slots start at an offset. -/
def variableFrom (offset : Nat) : List Member → List VariableField
  | [] => []
  | member :: members =>
    let later := variableFrom (offset + member.storage.width) members
    match member.storage.lengthRule? with
    | some rule => ⟨member.name, offset, rule⟩ :: later
    | none => later

def boolNames (members : List Member) : List String :=
  (members.filter (·.storage = .bool)).map (·.name)

/-- The names of the bools that share a byte, byte by byte. -/
def chunkNames (members : List Member) : List (List String) :=
  (boolNames members).foldl Header.addBool []

/-- Bytes of bools that end at an offset, the first one last. -/
def chunksBelow (stop : Nat) : List (List String) → List BoolChunk
  | [] => []
  | names :: more => ⟨stop - 1, names⟩ :: chunksBelow (stop - 1) more

/-- A plan that its own members lead to. -/
def Plan.Computed (plan : Plan) : Prop := plan = Plan.compute plan.table plan.tag plan.members

/-! ### Widths -/

theorem StorageClass.headerWidth?_of_ne {storage : StorageClass} (slotted : storage ≠ .bool) :
    storage.headerWidth? = some storage.width := by
  cases storage with
  | bool => exact absurd rfl slotted
  | _ => rfl

@[simp] theorem StorageClass.width_bool : StorageClass.width .bool = 0 := rfl

theorem StorageClass.width_pos {storage : StorageClass} (slotted : storage ≠ .bool) : 0 < storage.width := by
  cases storage with
  | bool => exact absurd rfl slotted
  | primitive kind => cases kind <;> exact Nat.succ_pos _
  | enum name repr first => cases repr <;> exact Nat.succ_pos _
  | _ => exact Nat.succ_pos _

@[simp] theorem slotWidths_nil : slotWidths [] = 0 := rfl

@[simp] theorem slotWidths_cons (member : Member) (members : List Member) :
    slotWidths (member :: members) = member.storage.width + slotWidths members := rfl

theorem Plan.totalLength_eq (plan : Plan) (tails : List Nat) :
    plan.totalLength tails = plan.baseLength + tails.sum := rfl

/-- A field with a tail is a member with a rule. -/
theorem member_of_variableFrom {offset : Nat} {members : List Member} {tail : VariableField}
    (listed : tail ∈ variableFrom offset members) :
    ∃ member ∈ members, member.name = tail.name ∧ member.storage.lengthRule? = some tail.length := by
  induction members generalizing offset with
  | nil => simp [variableFrom] at listed
  | cons member members ih =>
    cases rule : member.storage.lengthRule? with
    | none =>
      rw [variableFrom, rule] at listed
      obtain ⟨other, inside, facts⟩ := ih listed
      exact ⟨other, by simp [inside], facts⟩
    | some measured =>
      rw [variableFrom, rule] at listed
      rcases List.mem_cons.mp listed with rfl | later
      · exact ⟨member, by simp, rfl, rule⟩
      · obtain ⟨other, inside, facts⟩ := ih later
        exact ⟨other, by simp [inside], facts⟩

theorem boolNames_bool {member : Member} (flag : member.storage = .bool) (members : List Member) :
    boolNames (member :: members) = member.name :: boolNames members := by simp [boolNames, flag]

theorem boolNames_slot {member : Member} (slotted : member.storage ≠ .bool) (members : List Member) :
    boolNames (member :: members) = boolNames members := by simp [boolNames, slotted]

/-! ### Placing members -/

theorem foldl_place (members : List Member) (header : Header) :
    members.foldl Header.place header =
      { length := header.length + slotWidths members
        slots := header.slots ++ slotsFrom header.length members
        chunks := (boolNames members).foldl Header.addBool header.chunks
        variableFields := header.variableFields ++ variableFrom header.length members } := by
  induction members generalizing header with
  | nil => simp [slotsFrom, variableFrom, boolNames]
  | cons member members ih =>
    rw [List.foldl_cons, ih]
    by_cases flag : member.storage = .bool
    · simp [Header.place, flag, StorageClass.headerWidth?, slotsFrom, variableFrom, boolNames,
        StorageClass.lengthRule?]
    · have width := StorageClass.headerWidth?_of_ne flag
      cases rule : member.storage.lengthRule? with
      | none => simp [Header.place, width, flag, rule, slotsFrom, variableFrom, boolNames, Nat.add_assoc]
      | some rule => simp_all [Header.place, slotsFrom, variableFrom, boolNames, Nat.add_assoc]

theorem mapIdx_chunks (stop : Nat) (names : List (List String)) :
    (names.mapIdx fun i names => (⟨stop - i - 1, names⟩ : BoolChunk)) = chunksBelow stop names := by
  induction names generalizing stop with
  | nil => rfl
  | cons first names ih =>
    rw [List.mapIdx_cons, chunksBelow, ← ih]
    have shift : ∀ i, stop - (i + 1) - 1 = stop - 1 - i - 1 := by intro i; omega
    simp only [shift, Nat.sub_zero]

section
variable (table tag : String) (members : List Member)

theorem compute_slots : (Plan.compute table tag members).slots = slotsFrom 0 members := by
  simp [Plan.compute, foldl_place, Header.empty]

theorem compute_baseLength :
    (Plan.compute table tag members).baseLength = slotWidths members + (chunkNames members).length := by
  simp [Plan.compute, foldl_place, Header.empty, chunkNames]

theorem compute_chunks : (Plan.compute table tag members).chunks =
    chunksBelow (slotWidths members + (chunkNames members).length) (chunkNames members) := by
  simp [Plan.compute, foldl_place, Header.empty, chunkNames, mapIdx_chunks]

theorem compute_variableFields :
    (Plan.compute table tag members).variableFields = variableFrom 0 members := by
  simp [Plan.compute, foldl_place, Header.empty]

end

namespace Plan.Computed
variable {plan : Plan} (computed : plan.Computed)
include computed

theorem slots_eq : plan.slots = slotsFrom 0 plan.members :=
  (congrArg Plan.slots computed).trans (compute_slots _ _ _)

theorem baseLength_eq : plan.baseLength = slotWidths plan.members + (chunkNames plan.members).length :=
  (congrArg Plan.baseLength computed).trans (compute_baseLength _ _ _)

theorem chunks_eq : plan.chunks = chunksBelow plan.baseLength (chunkNames plan.members) := by
  rw [computed.baseLength_eq]
  exact (congrArg Plan.chunks computed).trans (compute_chunks _ _ _)

theorem variableFields_eq : plan.variableFields = variableFrom 0 plan.members :=
  (congrArg Plan.variableFields computed).trans (compute_variableFields _ _ _)

end Plan.Computed

/-! ### Bytes of bools -/

/-- A byte of bools that is laid out holds between one and eight names. -/
def ChunkSized (names : List String) : Prop := 0 < names.length ∧ names.length ≤ boolsPerChunk

theorem addBool_flatten (chunks : List (List String)) (name : String) :
    (Header.addBool chunks name).flatten = chunks.flatten ++ [name] := by
  unfold Header.addBool
  cases last : chunks.getLast? with
  | none => simp [List.getLast?_eq_none_iff.mp last]
  | some chunk =>
    obtain ⟨init, rfl⟩ := List.getLast?_eq_some_iff.mp last
    by_cases room : chunk.length < boolsPerChunk
    · simp [room]
    · simp [room]

theorem addBool_sized {chunks : List (List String)} (sized : ∀ chunk ∈ chunks, ChunkSized chunk)
    (name : String) : ∀ chunk ∈ Header.addBool chunks name, ChunkSized chunk := by
  have single : ChunkSized [name] := by simp [ChunkSized, boolsPerChunk]
  unfold Header.addBool
  cases last : chunks.getLast? with
  | none => simpa using single
  | some chunk =>
    obtain ⟨init, rfl⟩ := List.getLast?_eq_some_iff.mp last
    by_cases room : chunk.length < boolsPerChunk
    · intro grown member
      simp only [room, if_true, List.dropLast_concat, List.mem_append, List.mem_singleton] at member
      rcases member with early | rfl
      · exact sized grown (by simp [early])
      · simp [ChunkSized]
        omega
    · intro grown member
      simp only [room, if_false, List.mem_append, List.mem_singleton] at member
      rcases member with early | rfl
      · exact sized grown (by simpa using early)
      · exact single

/-- What placing bools one after the other keeps. -/
theorem foldl_addBool (names : List String) (chunks : List (List String))
    (sized : ∀ chunk ∈ chunks, ChunkSized chunk) :
    (names.foldl Header.addBool chunks).flatten = chunks.flatten ++ names ∧
      ∀ chunk ∈ names.foldl Header.addBool chunks, ChunkSized chunk := by
  induction names generalizing chunks with
  | nil => simpa using sized
  | cons name names ih =>
    obtain ⟨flat, small⟩ := ih _ (addBool_sized sized name)
    refine ⟨?_, small⟩
    rw [List.foldl_cons, flat, addBool_flatten, List.append_assoc, List.singleton_append]

theorem flatten_chunkNames (members : List Member) : (chunkNames members).flatten = boolNames members := by
  simpa [chunkNames] using (foldl_addBool (boolNames members) [] (by simp)).1

theorem chunkNames_sized (members : List Member) : ∀ names ∈ chunkNames members, ChunkSized names :=
  (foldl_addBool (boolNames members) [] (by simp)).2

/-! ### Looking fields up -/

/-- The first entry of a name is the only one when names do not repeat. -/
theorem find?_name {α : Type} {name : α → String} {list : List α} {entry : α}
    (distinct : (list.map name).Nodup) (member : entry ∈ list) :
    list.find? (name · == name entry) = some entry := by
  induction list with
  | nil => simp at member
  | cons first list ih =>
    rw [List.map_cons, List.nodup_cons] at distinct
    rcases List.mem_cons.mp member with rfl | later
    · simp
    · have other : name first ≠ name entry := fun same => distinct.1 (same ▸ List.mem_map_of_mem later)
      rw [List.find?_cons_of_neg (by simpa using other)]
      exact ih distinct.2 later

/-- The slot of a member lies behind the slots of all members before it. -/
theorem find?_slotsFrom {members : List Member} {i : Nat} {member : Member} (offset : Nat)
    (distinct : (members.map (·.name)).Nodup) (found : members[i]? = some member)
    (slotted : member.storage ≠ .bool) :
    (slotsFrom offset members).find? (·.name == member.name) =
      some ⟨member.name, offset + slotWidths (members.take i)⟩ := by
  induction members generalizing i offset with
  | nil => simp at found
  | cons first members ih =>
    rw [List.map_cons, List.nodup_cons] at distinct
    obtain ⟨fresh, distinct⟩ := distinct
    cases i with
    | zero =>
      obtain rfl : first = member := by simpa using found
      simp [slotsFrom, slotted]
    | succ i =>
      have later : member ∈ members := List.mem_of_getElem? (by simpa using found)
      have other : first.name ≠ member.name := fun same => fresh (same ▸ List.mem_map_of_mem later)
      by_cases flag : first.storage = .bool
      · simp only [slotsFrom, flag, if_true, List.take_succ_cons, slotWidths_cons,
          StorageClass.width_bool, Nat.zero_add]
        exact ih offset distinct (by simpa using found)
      · simp only [slotsFrom, flag, if_false, List.take_succ_cons, slotWidths_cons, ← Nat.add_assoc]
        rw [List.find?_cons_of_neg (by simpa using other)]
        exact ih _ distinct (by simpa using found)

namespace Plan.Computed
variable {plan : Plan} (computed : plan.Computed) (distinct : (plan.members.map (·.name)).Nodup)
include distinct

theorem member?_eq {member : Member} (found : member ∈ plan.members) :
    plan.member? member.name = some member.storage := by
  simp [Plan.member?, find?_name distinct found]

include computed

theorem slotOf?_eq {i : Nat} {member : Member} (found : plan.members[i]? = some member)
    (slotted : member.storage ≠ .bool) :
    plan.slotOf? member.name = some (slotWidths (plan.members.take i)) := by
  rw [Plan.slotOf?, computed.slots_eq, find?_slotsFrom 0 distinct found slotted]
  simp

end Plan.Computed
end TableWire.Layout
