import Mathlib
import TableWire.Proofs.Partition
import TableWire.Proofs.Scanning
import TableWire.Proofs.Session

/-!
Compiling never breaks an invariant of its own. What a reader cuts out of the text are tokens that follow each other,
so that they have a source (`readDeclaration_safe`). What an emitter generates code for are plans whose names do not
repeat, so that every member is found at its own place in the header (`Rust.Faultless`). Hence every failure of a
session is one that the schema is to blame for (`Session.addAll_safe`).
-/
namespace TableWire
open Schema Layout Emit

/-- A step that breaks no invariant of the compiler. -/
def Safe {α : Type} (step : Except Diagnostic α) : Prop := step ≠ .error .internal

section
variable {α β : Type}

theorem safe_ok (a : α) : Safe (.ok a) := nofun

theorem safe_error {diagnostic : Diagnostic} (blamed : diagnostic ≠ .internal) :
    Safe (.error diagnostic : Except Diagnostic α) := by
  simpa [Safe] using blamed

theorem Safe.bind {step : Except Diagnostic α} {next : α → Except Diagnostic β} (first : Safe step)
    (later : ∀ a, step = .ok a → Safe (next a)) : Safe (step >>= next) := by
  cases step with
  | error diagnostic => simpa [Safe, Bind.bind, Except.bind] using first
  | ok a => exact later a rfl

theorem Safe.map {step : Except Diagnostic α} (safe : Safe step) (f : α → β) : Safe (step.map f) := by
  cases step with
  | error diagnostic => simpa [Safe, Except.map] using safe
  | ok a => exact safe_ok (f a)

theorem safe_mapM {f : α → Except Diagnostic β} {list : List α} (each : ∀ a ∈ list, Safe (f a)) :
    Safe (list.mapM f) := by
  induction list with
  | nil => exact safe_ok []
  | cons first list ih =>
    rw [List.mapM_cons]
    refine (each first (by simp)).bind fun b _ => ?_
    exact (ih fun a member => each a (by simp [member])).bind fun more _ => safe_ok (b :: more)

end

/-! ### Reading -/

namespace Schema

theorem exists_sourceOf? {text : String} {entry : List Token} (part : entry <:+: scan text) (filled : entry ≠ []) :
    ∃ before source after, text.toList = before ++ (source ++ after) ∧
      sourceOf? text entry = some (String.ofList source) := by
  obtain ⟨front, back, scanned⟩ := part
  rw [List.append_assoc] at scanned
  obtain ⟨before, source, after, split, same⟩ := exists_source scanned.symm filled
  exact ⟨before, source, after, split, same text after split⟩

theorem behind_within (front : List Token) (token : Token) (rest : List Token) : rest <:+: front ++ token :: rest :=
  ((List.suffix_cons ..).trans (List.suffix_append ..)).isInfix

theorem splitOnP_within (separator : TokenKind) (body : List Token) :
    ∀ piece ∈ body.splitOnP (·.kind = separator), piece <:+: body := by
  induction size : body.length using Nat.strong_induction_on generalizing body with
  | _ size ih =>
    subst size
    rcases exists_first separator body with none | ⟨front, first, rest, rfl, before, found⟩
    · rw [List.splitOnP_eq_singleton (by simpa using none)]
      simp
    · have passed : ∀ token ∈ front, decide (token.kind = separator) = false := by simpa using before
      rw [List.splitOnP_append_cons_of_forall_mem passed first (by simpa using found)]
      intro piece member
      rcases List.mem_cons.mp member with rfl | later
      · exact (List.prefix_append ..).isInfix
      · have inside := ih rest.length (by simp; omega) rest rfl piece later
        exact inside.trans (behind_within ..)

theorem pieces_within {separator : TokenKind} {body piece : List Token} (listed : piece ∈ pieces separator body) :
    piece <:+: body ∧ piece ≠ [] := by
  obtain ⟨member, filled⟩ := List.mem_filter.mp listed
  exact ⟨splitOnP_within separator body piece member, by simpa using filled⟩

theorem Headed.body_within {front body rest tokens : List Token} {name word : Token}
    (heads : Headed front name word body) (part : front ++ rest <:+: tokens) : body <:+: tokens := by
  cases heads with
  | @heading _ colon _ opening closing _ _ _ _ _ _ _ =>
    have inside : body <:+: name :: colon :: word :: opening :: (body ++ [closing]) ++ rest :=
      ⟨[name, colon, word, opening], closing :: rest, by simp⟩
    exact inside.trans part

section
variable {text : String} {tokens : List Token}

theorem readEntry_safe {α : Type} {read? : List Token → Option α} {why : String → Diagnostic}
    (blamed : ∀ source, why source ≠ .internal) {entry : List Token} (part : entry <:+: scan text)
    (filled : entry ≠ []) : Safe (readEntry text read? why entry) := by
  unfold readEntry
  split
  · exact safe_ok _
  · obtain ⟨before, source, after, -, found⟩ := exists_sourceOf? part filled
    rw [refuseEntry, found]
    exact safe_error (blamed _)

theorem readEntries_safe {α : Type} {front body rest : List Token} {name word : Token}
    (heads : Headed front name word body) (part : front ++ rest <:+: scan text) (separator : TokenKind)
    (read? : List Token → Option α) {why : String → Diagnostic} (blamed : ∀ source, why source ≠ .internal) :
    Safe ((pieces separator body).mapM (readEntry text read? why)) := by
  refine safe_mapM fun entry listed => ?_
  obtain ⟨inside, filled⟩ := pieces_within listed
  exact readEntry_safe blamed (inside.trans (heads.body_within part)) filled

theorem readEnum_safe (part : tokens <:+: scan text) : Safe (readEnum text tokens) := by
  rcases readEnum_headed text tokens with failed | ⟨front, name, word, body, rest, repr, heads, spelled, rfl⟩
  · exact failed ▸ safe_error nofun
  · rw [readEnum_eq heads spelled]
    exact (readEntries_safe heads part .comma enumValue? (by simp)).map _

theorem readTable_safe (part : tokens <:+: scan text) : Safe (readTable text tokens) := by
  rcases readTable_headed text tokens with failed | ⟨front, name, word, body, rest, heads, fourBytes, rfl⟩
  · exact failed ▸ safe_error nofun
  · rw [readTable_eq heads fourBytes]
    exact (readEntries_safe heads part .semicolon fieldDecl? (by simp)).map _

theorem readDeclaration_safe (part : tokens <:+: scan text) : Safe (readDeclaration text tokens) := by
  cases begins tokens with
  | nothing schema unread => exact unread text ▸ safe_ok none
  | enum skips begun =>
    rw [skips.readDeclaration_append, readDeclaration_enum begun]
    exact (readEnum_safe ((behind_within ..).trans part)).map _
  | table skips begun =>
    rw [skips.readDeclaration_append, readDeclaration_table begun]
    exact (readTable_safe ((behind_within ..).trans part)).map _

theorem readDeclaration_suffix {declaration : Declaration} {rest : List Token}
    (read : readDeclaration text tokens = .ok (some (declaration, rest))) : rest <:+ tokens := by
  obtain ⟨skipped, item, -, -, rfl⟩ := readDeclaration_some_iff.mp read
  exact (List.suffix_append ..).trans (List.suffix_append ..)

theorem readFrom_safe (part : tokens <:+: scan text) : ∀ result ∈ readFrom text tokens, Safe result := by
  fun_induction readFrom text tokens with
  | case1 => simp
  | case2 tokens declaration rest read ih =>
    intro result member
    rcases List.mem_cons.mp member with rfl | later
    · exact safe_ok declaration
    · exact ih ((readDeclaration_suffix read).isInfix.trans part) result later
  | case3 tokens diagnostic read =>
    have safe := readDeclaration_safe part
    rw [read] at safe
    intro result member
    obtain rfl := List.mem_singleton.mp member
    simpa [Safe] using safe

end

/-- A reader never goes back and never leaves the tokens of its text. -/
theorem Reader.pending_suffix (reader : Reader) (calls : Nat) : (reader.after calls).pending <:+ reader.pending := by
  have step : ∀ reader : Reader, reader.next.2.pending <:+ reader.pending := by
    intro reader
    unfold next
    split
    · exact List.suffix_refl _
    · cases read : readDeclaration reader.text reader.pending with
      | error diagnostic => exact List.suffix_refl _
      | ok found =>
        cases found with
        | none => exact List.suffix_refl _
        | some found =>
          obtain ⟨declaration, rest⟩ := found
          exact readDeclaration_suffix read
  induction calls generalizing reader with
  | zero => exact List.suffix_refl _
  | succ calls ih =>
    rw [after, Function.iterate_succ_apply]
    exact (ih reader.next.2).trans (step reader)

end Schema

/-! ### Generating code -/

namespace Emit.Rust

/-- A plan that code is generated for as it stands: names do not repeat, no bool has a slot, every member is found in
the header, and so everything has a text. -/
structure Faultless (plan : Plan) : Prop where
  distinct : (plan.members.map (·.name)).Nodup
  classes : ∀ slot ∈ plan.slots, ∃ storage, plan.member? slot.name = some storage ∧ storage ≠ .bool
  places : ∀ member ∈ plan.members,
    (∃ offset bit chunk, plan.bitOf? member.name = some (offset, bit) ∧
      plan.chunks.findIdx? (·.offset == offset) = some chunk) ∨
    plan.bitOf? member.name = none ∧ member.storage ≠ .bool ∧ ∃ offset, plan.slotOf? member.name = some offset
  statements : ∀ statement ∈ statements plan, statement.text?.isSome
  initializers : ∀ initializer ∈ initializers plan, initializer.text?.isSome

theorem Statement.text?_isSome {storage : StorageClass} (slot : storage ≠ .bool) (offset : Nat) (field : String) :
    (Statement.slot storage offset field).text?.isSome := by
  cases storage with
  | bool => exact absurd rfl slot
  | _ => rfl

theorem Initializer.text?_isSome {storage : StorageClass} (slot : storage ≠ .bool) (offset : Nat) (field : String) :
    (Initializer.slot storage offset field).text?.isSome := by
  cases storage with
  | bool => exact absurd rfl slot
  | _ => rfl

end Emit.Rust

namespace Layout.Plan

/-- Bytes of bools have different offsets. -/
theorem Divides.findIdx?_offset {plan : Plan} {members : List Member} (divides : plan.Divides members) {c : Nat}
    {chunk : BoolChunk} (found : plan.chunks[c]? = some chunk) :
    plan.chunks.findIdx? (·.offset == chunk.offset) = some c := by
  obtain ⟨inside, same⟩ := List.getElem?_eq_some_iff.mp found
  refine List.findIdx?_eq_some_iff_getElem.mpr ⟨inside, by simp [same], ?_⟩
  intro earlier before
  obtain ⟨fits, offset, -⟩ := divides.chunk c chunk found
  obtain ⟨-, other, -⟩ := divides.chunk earlier _ (List.getElem?_eq_getElem (before.trans inside))
  rw [other, offset, beq_iff_eq]
  omega

namespace Computed
variable {plan : Plan} (computed : plan.Computed) (distinct : (plan.members.map (·.name)).Nodup)
include computed distinct

theorem slot_class :
    ∀ slot ∈ plan.slots, ∃ storage, plan.member? slot.name = some storage ∧ storage ≠ .bool := by
  intro slot listed
  rw [computed.divides.slots] at listed
  obtain ⟨i, inside, rfl⟩ := List.mem_mapIdx.mp listed
  obtain ⟨member, isSlot⟩ := List.mem_filter.mp (List.getElem_mem inside)
  exact ⟨_, (computed.locates distinct).classes _ member, by simpa using isSlot⟩

theorem member_place :
    ∀ member ∈ plan.members,
      (∃ offset bit chunk, plan.bitOf? member.name = some (offset, bit) ∧
        plan.chunks.findIdx? (·.offset == offset) = some chunk) ∨
      plan.bitOf? member.name = none ∧ member.storage ≠ .bool ∧
        ∃ offset, plan.slotOf? member.name = some offset := by
  have divides := computed.divides
  intro member listed
  rcases exists_place listed with ⟨i, place⟩ | ⟨j, place⟩
  · obtain ⟨slot, bit⟩ := computed.slot_found distinct place
    have isSlot := (List.mem_filter.mp (List.mem_of_getElem? place)).2
    exact .inr ⟨bit, by simpa using isSlot, _, slot⟩
  · obtain ⟨inside, -⟩ := List.getElem?_eq_some_iff.mp place
    have listedChunk : j / 8 < plan.chunks.length := by
      rw [divides.chunks]
      omega
    have found := List.getElem?_eq_getElem listedChunk
    refine .inl ⟨_, _, j / 8, (computed.bit_found distinct place).1, ?_⟩
    rw [← (divides.chunk _ _ found).2.1]
    exact divides.findIdx?_offset found

open Rust

theorem faultless : Faultless plan := by
  have classes := computed.slot_class distinct
  have places := computed.member_place distinct
  refine ⟨distinct, classes, places, ?_, ?_⟩
  · intro statement listed
    rcases List.mem_append.mp listed with slot | bools
    · obtain ⟨slot, isSlot, same⟩ := List.mem_filterMap.mp slot
      obtain ⟨storage, found, noBool⟩ := classes slot isSlot
      rw [found, Option.map_some] at same
      exact Option.some.inj same ▸ Statement.text?_isSome noBool _ _
    · obtain ⟨chunk, -, rfl⟩ := List.mem_map.mp bools
      rfl
  · intro init listed
    obtain ⟨member, isMember, rfl⟩ := List.mem_map.mp listed
    rw [initializer]
    rcases places member isMember with ⟨offset, bit, chunk, found, -⟩ | ⟨none, noBool, -⟩
    · rw [found]
      rfl
    · rw [none]
      exact Initializer.text?_isSome noBool _ _

end Computed
end Layout.Plan

namespace Emit

theorem NameClaims.claim_safe (claims : NameClaims) (scope : NameScope) (name generated : String) :
    Safe (claims.claim scope name generated).2 := by
  unfold claim
  split
  · exact safe_error nofun
  · cases claims.taken[generated]? with
    | some first => exact safe_error nofun
    | none => exact safe_ok ()

theorem NameClaims.claimAll_safe (claims : NameClaims) (scope : NameScope) (generate : String → String)
    (names : List String) : Safe (claims.claimAll scope generate names) := by
  induction names generalizing claims with
  | nil => exact safe_ok ()
  | cons name names ih =>
    have safe := claims.claim_safe scope name (generate name)
    rw [claimAll]
    split
    · next claimed =>
      rw [claimed] at safe
      simpa [Safe] using safe
    · exact ih _

namespace Rust

theorem mapM_isSome {α β : Type} {f : α → Option β} {list : List α} (each : ∀ a ∈ list, (f a).isSome) :
    ∃ results, list.mapM f = some results := by
  induction list with
  | nil => exact ⟨[], rfl⟩
  | cons first list ih =>
    obtain ⟨b, head⟩ := Option.isSome_iff_exists.mp (each first (by simp))
    obtain ⟨more, tail⟩ := ih fun a member => each a (by simp [member])
    exact ⟨b :: more, by simp [head, tail]⟩

theorem Faultless.tableLines {plan : Plan} (faultless : Faultless plan) : ∃ lines, tableLines? plan = some lines := by
  obtain ⟨writes, written⟩ := mapM_isSome faultless.statements
  obtain ⟨reads, read⟩ := mapM_isSome faultless.initializers
  simp [tableLines?, serializeLines?, deserializeLines?, written, read]

theorem Emitter.emitEnum_safe (emitter : Emitter) (decl : EnumDecl) : Safe (emitter.emitEnum decl).2 := by
  have schema := emitter.types.claim_safe .schema decl.name (typeName decl.name)
  have values := NameClaims.empty.claimAll_safe (.enum decl.name) typeName decl.values
  unfold emitEnum
  cases claimed : emitter.types.claim .schema decl.name (typeName decl.name) with
  | mk types outcome =>
    rw [claimed] at schema
    cases outcome with
    | error diagnostic => simpa [Safe] using schema
    | ok done =>
      cases taken : NameClaims.empty.claimAll (.enum decl.name) typeName decl.values with
      | error diagnostic => simpa [Safe, taken] using values
      | ok done => simp [Safe]

theorem Emitter.emitTable_safe (emitter : Emitter) {plan : Plan} (computed : plan.Computed) :
    Safe (emitter.emitTable plan).2 := by
  have schema := emitter.types.claim_safe .schema plan.table (typeName plan.table)
  have members := NameClaims.empty.claimAll_safe (.table plan.table) fieldName (plan.members.map (·.name))
  unfold emitTable
  cases claimed : emitter.types.claim .schema plan.table (typeName plan.table) with
  | mk types outcome =>
    rw [claimed] at schema
    cases outcome with
    | error diagnostic => simpa [Safe] using schema
    | ok done =>
      cases taken : NameClaims.empty.claimAll (.table plan.table) fieldName (plan.members.map (·.name)) with
      | error diagnostic => simpa [Safe, taken] using members
      | ok done =>
        -- Names that could all be taken do not repeat, and then code exists.
        have distinct : (plan.members.map (·.name)).Nodup := (NameClaims.claimAll_ok taken).1.of_map
        obtain ⟨lines, generated⟩ := (computed.faultless distinct).tableLines
        simp [Safe, generated]

end Rust

theorem Emitter.emitEnum_safe (emitter : Emitter) (decl : EnumDecl) : Safe (emitter.emitEnum decl).2 := by
  cases emitter with
  | rust emitter =>
    have safe := Rust.Emitter.emitEnum_safe emitter decl
    cases written : emitter.emitEnum decl with
    | mk later outcome =>
      rw [written] at safe
      rw [emitEnum, written]
      exact safe
  | typeScript emitter => exact safe_ok _

theorem Emitter.emitTable_safe (emitter : Emitter) {plan : Plan} (computed : plan.Computed) :
    Safe (emitter.emitTable plan).2 := by
  cases emitter with
  | rust emitter =>
    have safe := Rust.Emitter.emitTable_safe emitter computed
    cases written : emitter.emitTable plan with
    | mk later outcome =>
      rw [written] at safe
      rw [emitTable, written]
      exact safe
  | typeScript emitter => exact safe_ok _

end Emit

/-! ### Sessions -/

theorem Layout.resolve_safe (scope : TypeScope) (table : String) (field : FieldDecl) :
    Safe (resolve scope table field) := by
  refine Safe.map ?_ _
  unfold classify
  split
  · split
    · exact safe_error nofun
    · exact safe_ok _
  · split
    · exact safe_error nofun
    · split
      · exact safe_error nofun
      · split
        · exact safe_error nofun
        · exact safe_ok _
    · exact safe_ok _

namespace Session

theorem addEnum_safe (session : Session) (decl : EnumDecl) : Safe (session.addEnum decl).2 := by
  have safe := session.emitter.emitEnum_safe decl
  unfold addEnum
  split
  · exact safe_error nofun
  · cases emitted : session.emitter.emitEnum decl with
    | mk emitter outcome =>
      rw [emitted] at safe
      cases outcome with
      | error diagnostic => simpa [Safe] using safe
      | ok chunk => exact safe_ok ()

theorem addTable_safe (session : Session) (decl : TableDecl) : Safe (session.addTable decl).2 := by
  have fields : Safe (decl.fields.mapM (resolve (session.types.declareTable decl) decl.name)) :=
    safe_mapM fun field _ => resolve_safe _ _ field
  unfold addTable
  cases resolved : decl.fields.mapM (resolve (session.types.declareTable decl) decl.name) with
  | error diagnostic =>
    rw [resolved] at fields
    simpa [Safe, resolved] using fields
  | ok members =>
    have safe : Safe (session.emitter.emitTable (Plan.compute decl.name decl.tag members)).2 :=
      session.emitter.emitTable_safe rfl
    cases emitted : session.emitter.emitTable (Plan.compute decl.name decl.tag members) with
    | mk emitter outcome =>
      rw [emitted] at safe
      cases outcome with
      | error diagnostic => simpa [Safe, resolved, emitted] using safe
      | ok chunk => simp [Safe, resolved, emitted]

theorem add_safe (session : Session) (declaration : Declaration) : Safe (session.add declaration).2 := by
  cases declaration with
  | enum decl => exact session.addEnum_safe decl
  | table decl => exact session.addTable_safe decl

theorem addAll_safe (session : Session) {items : List (Except Diagnostic Declaration)}
    (safe : ∀ item ∈ items, Safe item) : Safe (session.addAll items) := by
  induction items generalizing session with
  | nil => exact safe_ok session
  | cons item items ih =>
    cases item with
    | error diagnostic => simpa [Safe, addAll] using safe (.error diagnostic) (by simp)
    | ok declaration =>
      have step := session.add_safe declaration
      rw [addAll]
      split
      · next added =>
        rw [added] at step
        simpa [Safe] using step
      · exact ih _ fun item member => safe item (by simp [member])

end Session

/-- Compiling gives code or names what is wrong with the schema. Readers stay before the end mark, what they show of the
text can be cut out of it, bytes of bools lie inside the header, and code is generated only for plans in which every
member is found. -/
theorem compile_safe (text : String) (options : Options) :
    ((∃ compilation, compile text options = .ok compilation) ∨
      ∃ diagnostic, compile text options = .error diagnostic ∧ diagnostic ≠ .internal) ∧
    (∀ calls, ∃ index < (tokenize text).length,
      ((Reader.ofText text).after calls).pending ++ [endToken text] = (tokenize text).drop index) ∧
    (∀ front entry back, scan text = front ++ (entry ++ back) → entry ≠ [] →
      ∃ before source after, text.toList = before ++ (source ++ after) ∧
        sourceOf? text entry = some (String.ofList source)) ∧
    (∀ table tag members, ∀ c < (Plan.compute table tag members).chunks.length,
      c + 1 ≤ (Plan.compute table tag members).baseLength) ∧
    ∀ (emitter : Rust.Emitter) table tag members chunk,
      (emitter.emitTable (Plan.compute table tag members)).2 = .ok chunk →
        Rust.Faultless (Plan.compute table tag members) := by
  refine ⟨?_, fun calls => ?_, fun front entry back scanned filled => ?_, fun table tag members c inside => ?_,
    fun emitter table tag members chunk emitted => ?_⟩
  · have safe : Safe (compile text options) :=
      ((Session.start options).addAll_safe (readFrom_safe (List.infix_refl _))).map _
    cases compiled : compile text options with
    | ok compilation => exact .inl ⟨compilation, rfl⟩
    | error diagnostic => exact .inr ⟨diagnostic, rfl, by rintro rfl; exact safe compiled⟩
  · obtain ⟨front, split⟩ := (Reader.ofText text).pending_suffix calls
    have scanned : scan text = front ++ ((Reader.ofText text).after calls).pending := split.symm
    refine ⟨front.length, ?_, ?_⟩
    · rw [tokenize, scanned]
      simp
    · rw [tokenize, scanned, List.append_assoc, List.drop_left]
  · exact exists_sourceOf? ⟨front, back, by rw [scanned, List.append_assoc]⟩ filled
  · have computed : (Plan.compute table tag members).Computed := rfl
    exact (computed.divides.chunk c _ (List.getElem?_eq_getElem inside)).1
  · have computed : (Plan.compute table tag members).Computed := rfl
    cases written : emitter.emitTable (Plan.compute table tag members) with
    | mk later outcome =>
      rw [written] at emitted
      obtain rfl := emitted
      exact computed.faultless (Rust.Emitter.emitTable_ok written).2.2.1

open Samples in
/-- The code of a panel is generated as it stands, and tokens beyond ASCII are shown as they were written. -/
theorem panel_safe :
    (∃ chunk, ((Rust.Emitter.new "kserial").emitTable (Plan.compute "Panel" "PANL" panel)).2 = .ok chunk ∧
      Rust.Faultless (Plan.compute "Panel" "PANL" panel)) ∧
    (scan "déjà vu").tail ≠ [] ∧ ∃ before source after, "déjà vu".toList = before ++ (source ++ after) ∧
      sourceOf? "déjà vu" (scan "déjà vu").tail = some (String.ofList source) := by
  obtain ⟨-, -, sourced, -, generated⟩ := compile_safe "déjà vu" (.ofTarget .rust)
  have filled : (scan "déjà vu").tail ≠ [] := by decide +kernel
  refine ⟨?_, filled, sourced ((scan "déjà vu").take 1) _ [] ?_ filled⟩
  · have works : ((Rust.Emitter.new "kserial").emitTable (Plan.compute "Panel" "PANL" panel)).2.toOption.isSome := by
      decide +kernel
    obtain ⟨chunk, emitted⟩ := exists_ok works
    exact ⟨chunk, emitted, generated _ _ _ _ chunk emitted⟩
  · rw [List.append_nil, ← List.drop_one, List.take_append_drop]

end TableWire
