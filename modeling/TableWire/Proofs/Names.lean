import Mathlib
import TableWire.Proofs.Codecs
import TableWire.Proofs.Resolution
import TableWire.Proofs.Targets
import TableWire.Proofs.Tiling

/-!
Names in generated Rust. The names of a schema are words of its text, and they stay words whatever case they are put
in, so every name that code is generated for is an identifier (`Rust.IsIdentifier`). No two declarations lead to the
same name of a type. So the type that the code of a field mentions is the one that is generated for the declaration
which the field stands for (`Rust.Refers`, `Rust.Denotes`).
-/
namespace TableWire
open Schema Layout Emit

/-! ### Words of a text -/

namespace Schema

/-- Letters, digits and underscores. -/
def WordChars (cs : List Char) : Prop := ∀ c ∈ cs, isWordChar c

theorem WordChars.append {front back : List Char} (first : WordChars front) (second : WordChars back) :
    WordChars (front ++ back) :=
  List.forall_mem_append.mpr ⟨first, second⟩

theorem wordChars_cons {c : Char} {cs : List Char} : WordChars (c :: cs) ↔ isWordChar c ∧ WordChars cs :=
  List.forall_mem_cons

theorem Marks.ne_word {kind : TokenKind} {c : Char} (marks : Marks kind c) : kind ≠ .word := by
  cases marks <;> simp

theorem scan_word {text : String} {token : Token} (scanned : token ∈ scan text) (word : token.kind = .word) :
    WordChars token.text.toList := by
  obtain ⟨-, -, before, after, -, -, isText⟩ := (tokensOf_scan text).stands token scanned
  rw [word] at isText
  generalize token.text.toList = piece at isText ⊢
  cases isText with
  | word filled words left right => exact words
  | mark marks => exact absurd rfl marks.ne_word

/-- The names that a declaration brings. -/
def Declaration.names : Declaration → List String
  | .enum decl => decl.name :: decl.values
  | .table decl => decl.name :: decl.fields.map (·.name)

/-- The words that a declaration brings: its names, and the tag of a table. -/
def Declaration.words : Declaration → List String
  | .enum decl => (Declaration.enum decl).names
  | .table decl => decl.tag :: (Declaration.table decl).names

theorem Declaration.names_subset_words (declaration : Declaration) : declaration.names ⊆ declaration.words := by
  cases declaration with
  | enum decl => exact List.Subset.refl _
  | table decl => exact List.subset_cons_self _ _

/-- What entries of a body lead to comes from tokens of the body. -/
theorem exists_piece {α : Type} {reads : List Token → α → Prop} {separator : TokenKind} {body : List Token}
    {results : List α} (listed : List.Forall₂ reads (pieces separator body) results) {result : α}
    (member : result ∈ results) : ∃ piece, piece ⊆ body ∧ reads piece result := by
  obtain ⟨i, inside, rfl⟩ := List.getElem_of_mem member
  have entry : i < (pieces separator body).length := listed.length_eq ▸ inside
  exact ⟨_, (pieces_within (List.getElem_mem entry)).1.subset, listed.get entry inside⟩

theorem EnumText.words {tokens : List Token} {decl : EnumDecl} (text : EnumText tokens decl) :
    ∀ word ∈ (Declaration.enum decl).words, ∃ token ∈ tokens, token.kind = .word ∧ token.text = word := by
  obtain ⟨⟨named, -, -, -, -, -⟩, -, listed⟩ := text
  intro word member
  rcases List.mem_cons.mp member with rfl | value
  · exact ⟨_, by simp, named, rfl⟩
  · obtain ⟨piece, inside, ⟨isWord⟩⟩ := exists_piece listed value
    exact ⟨_, by simp [inside (List.mem_singleton_self _)], isWord, rfl⟩

theorem FieldText.named {entry : List Token} {field : FieldDecl} (text : FieldText entry field) :
    ∃ token ∈ entry, token.kind = .word ∧ token.text = field.name := by
  cases text with
  | single named => exact ⟨_, by simp, named, rfl⟩
  | bracketed named => exact ⟨_, by simp, named, rfl⟩
  | marked named => exact ⟨_, by simp, named, rfl⟩

theorem TableText.words {tokens : List Token} {decl : TableDecl} (text : TableText tokens decl) :
    ∀ word ∈ (Declaration.table decl).words, ∃ token ∈ tokens, token.kind = .word ∧ token.text = word := by
  obtain ⟨⟨named, -, tagged, -, -, -⟩, -, listed⟩ := text
  intro word member
  rcases List.mem_cons.mp member with rfl | member
  · exact ⟨_, by simp, tagged, rfl⟩
  rcases List.mem_cons.mp member with rfl | inner
  · exact ⟨_, by simp, named, rfl⟩
  · obtain ⟨field, isField, rfl⟩ := List.mem_map.mp inner
    obtain ⟨piece, inside, fieldText⟩ := exists_piece listed isField
    obtain ⟨token, listed, isWord, same⟩ := fieldText.named
    exact ⟨token, by simp [inside listed], isWord, same⟩

theorem Item.words {item : List Token} {declaration : Declaration} (isItem : Item item [declaration]) :
    ∀ word ∈ declaration.words, ∃ token ∈ item, token.kind = .word ∧ token.text = word := by
  intro word member
  cases isItem with
  | enum begun text =>
    obtain ⟨token, listed, facts⟩ := text.words word member
    exact ⟨token, List.mem_cons_of_mem _ listed, facts⟩
  | table begun text =>
    obtain ⟨token, listed, facts⟩ := text.words word member
    exact ⟨token, List.mem_cons_of_mem _ listed, facts⟩

/-- Everything that is read has words of the schema as its names and as its tag. -/
theorem readFrom_words {text : String} {tokens : List Token} {declaration : Declaration}
    (read : .ok declaration ∈ readFrom text tokens) :
    ∀ word ∈ declaration.words, ∃ token ∈ tokens, token.kind = .word ∧ token.text = word := by
  fun_induction readFrom text tokens with
  | case1 => simp at read
  | case2 tokens first rest found ih =>
    intro word member
    obtain ⟨skipped, item, -, isItem, rfl⟩ := readDeclaration_some_iff.mp found
    rcases List.mem_cons.mp read with here | later
    · obtain rfl := Except.ok.inj here
      obtain ⟨token, listed, facts⟩ := isItem.words word member
      exact ⟨token, by simp [listed], facts⟩
    · obtain ⟨token, listed, facts⟩ := ih later word member
      exact ⟨token, by simp [listed], facts⟩
  | case3 => simp at read

theorem readAll_words {text : String} {declaration : Declaration} (read : .ok declaration ∈ readAll text) :
    ∀ word ∈ declaration.words, WordChars word.toList := by
  intro word member
  obtain ⟨token, scanned, isWord, rfl⟩ := readFrom_words read word member
  exact scan_word scanned isWord

end Schema

theorem Session.addAll_words {text : String} {options : Options} {session : Session}
    (ran : (Session.start options).addAll (readAll text) = .ok session) :
    ∀ declaration ∈ session.declarations, ∀ word ∈ declaration.words, WordChars word.toList := by
  obtain ⟨declarations, read, all⟩ := addAll_declarations ran
  obtain rfl : session.declarations = declarations := all
  intro declaration member
  exact readAll_words (read ▸ List.mem_map_of_mem member)

/-! ### Cases -/

namespace Emit
open Text (upperChar lowerChar lowerText lowerAfter capitalSigma)

theorem wordChar_ascii {c : Char} (word : isWordChar c) : c.toNat < 0x80 := by
  have value : c.toNat = c.val.toNat := rfl
  simp only [isWordChar, Char.isAlphanum, Char.isAlpha, Char.isUpper, Char.isLower, Char.isDigit, Bool.or_eq_true,
    Bool.and_eq_true, decide_eq_true_eq, UInt32.le_iff_toNat_le, ge_iff_le, beq_iff_eq] at word
  rcases word with ((⟨-, upper⟩ | ⟨-, lower⟩) | ⟨-, digit⟩) | rfl
  · change c.val.toNat ≤ 90 at upper
    omega
  · change c.val.toNat ≤ 122 at lower
    omega
  · change c.val.toNat ≤ 57 at digit
    omega
  · decide

/-- What holds of all word characters among the ASCII codes holds of all word characters. -/
theorem wordChar_forall {P : Char → Prop} (each : ∀ code < 0x80, isWordChar (Char.ofNat code) → P (Char.ofNat code))
    {c : Char} (word : isWordChar c) : P c := by
  have holds := each c.toNat (wordChar_ascii word)
  rw [Char.ofNat_toNat] at holds
  exact holds word

theorem wordChar_case {c : Char} (word : isWordChar c) : isWordChar c.toUpper ∧ isWordChar c.toLower :=
  wordChar_forall (P := fun c => isWordChar c.toUpper ∧ isWordChar c.toLower) (by decide +kernel) word

theorem upperChar_of_word {c : Char} (word : isWordChar c) : upperChar c = [c.toUpper] :=
  if_pos (wordChar_ascii word)

theorem lowerChar_of_word {c : Char} (word : isWordChar c) : lowerChar c = [c.toLower] :=
  if_pos (wordChar_ascii word)

theorem upperChar_word {c : Char} (word : isWordChar c) : WordChars (upperChar c) := by
  rw [upperChar_of_word word]
  simpa [WordChars] using (wordChar_case word).1

theorem lowerChar_word {c : Char} (word : isWordChar c) : WordChars (lowerChar c) := by
  rw [lowerChar_of_word word]
  simpa [WordChars] using (wordChar_case word).2

theorem lowerAfter_of_word {cs : List Char} (word : WordChars cs) (before : List Char) :
    lowerAfter before cs = cs.map Char.toLower := by
  induction cs generalizing before with
  | nil => rfl
  | cons c cs ih =>
    obtain ⟨first, rest⟩ := wordChars_cons.mp word
    -- Only a capital sigma looks at the letters around it, and it is not ASCII.
    have noSigma : c ≠ capitalSigma := by
      rintro rfl
      exact absurd first (by decide)
    rw [lowerAfter, ih rest]
    simp only [noSigma, decide_false, Bool.false_and, Bool.false_eq_true, if_false, lowerChar_of_word first]
    rfl

theorem lowerAfter_word {cs : List Char} (word : WordChars cs) (before : List Char) :
    WordChars (lowerAfter before cs) := by
  rw [lowerAfter_of_word word]
  intro c member
  obtain ⟨other, inside, rfl⟩ := List.mem_map.mp member
  exact (wordChar_case (word other inside)).2

theorem capitalize_word {cs : List Char} (word : WordChars cs) (lowerRest : Bool) :
    WordChars (capitalize lowerRest cs) := by
  cases cs with
  | nil => exact word
  | cons c rest =>
    obtain ⟨first, others⟩ := wordChars_cons.mp word
    refine (upperChar_word first).append ?_
    split
    · exact lowerAfter_word others []
    · exact others

/-- What stands between separators holds none of them, and nothing that was not there. -/
theorem splitOn_piece {separator : Char} {cs piece : List Char} (listed : piece ∈ cs.splitOn separator) :
    separator ∉ piece ∧ piece ⊆ cs := by
  induction cs generalizing piece with
  | nil =>
    obtain rfl : piece = [] := by simpa using listed
    simp
  | cons c cs ih =>
    rw [List.splitOn_cons_eq_if_modifyHead] at listed
    split at listed
    · rcases List.mem_cons.mp listed with rfl | later
      · simp
      · exact ⟨(ih later).1, List.subset_cons_of_subset c (ih later).2⟩
    · next apart =>
      cases split : cs.splitOn separator with
      | nil => simp [split] at listed
      | cons first pieces =>
        rw [split] at listed ih
        rcases List.mem_cons.mp listed with rfl | later
        · obtain ⟨absent, inside⟩ := ih (List.mem_cons_self ..)
          refine ⟨?_, List.cons_subset_cons c inside⟩
          rintro (_ | ⟨_, again⟩)
          · exact apart (beq_self_eq_true _)
          · exact absent again
        · obtain ⟨absent, inside⟩ := ih (List.mem_cons_of_mem _ later)
          exact ⟨absent, List.subset_cons_of_subset c inside⟩

theorem pascalChars_word {cs : List Char} (word : WordChars cs) : WordChars (pascalChars cs) := by
  unfold pascalChars
  split
  · intro c member
    obtain ⟨piece, listed, inside⟩ := List.mem_flatMap.mp member
    have within := (splitOn_piece (List.mem_of_mem_filter listed)).2
    exact capitalize_word (fun c member => word c (within member)) true c inside
  · exact capitalize_word word _

theorem snakeAfter_word {cs : List Char} (word : WordChars cs) (previous : Option Char) :
    WordChars (snakeAfter previous cs) := by
  induction cs generalizing previous with
  | nil => exact word
  | cons c cs ih =>
    obtain ⟨first, rest⟩ := wordChars_cons.mp word
    rw [snakeAfter]
    split
    · refine (WordChars.append ?_ (lowerChar_word first)).append (ih rest _)
      split
      · exact fun c member => List.mem_singleton.mp member ▸ rfl
      · exact nofun
    · exact wordChars_cons.mpr ⟨first, ih rest _⟩

/-! ### Identifiers -/

/-- A name that can stand in Rust code. -/
structure Rust.IsIdentifier (name : String) : Prop where
  chars : ∀ c ∈ name.toList, c.isAlphanum ∨ c = '_'
  start : ∃ first rest, name.toList = first :: rest ∧ ¬ first.isDigit
  named : name ≠ "_"
  unreserved : name ∉ reservedWords

/-- No reserved word is empty, starts with a digit or an underscore, or ends with an underscore. -/
theorem reservedWords_form {word : String} (reserved : word ∈ reservedWords) :
    ∃ first rest, word.toList = first :: rest ∧ ¬ first.isDigit ∧ first ≠ '_' ∧
      (first :: rest).getLast? ≠ some '_' := by
  have forms : ∀ word ∈ reservedWords, word.toList.head?.any (fun first => !first.isDigit && first != '_') ∧
      word.toList.getLast? ≠ some '_' := by decide +kernel
  obtain ⟨start, stop⟩ := forms word reserved
  cases split : word.toList with
  | nil => simp [split] at start
  | cons first rest =>
    have form : ¬ first.isDigit ∧ first ≠ '_' := by simpa [split] using start
    exact ⟨first, rest, rfl, form.1, form.2, split ▸ stop⟩

/-- Escaping makes an identifier of every word, unless it comes out empty or as an underscore. -/
theorem escapeName_identifier {name : String} (word : WordChars name.toList) (usable : Usable (escapeName name)) :
    Rust.IsIdentifier (escapeName name) := by
  have chars : ∀ {generated : String}, WordChars generated.toList → ∀ c ∈ generated.toList, c.isAlphanum ∨ c = '_' :=
    fun word c member => by simpa [isWordChar] using word c member
  have underscore : WordChars "_".toList := by simp [WordChars, isWordChar]
  obtain ⟨filled, named⟩ := usable
  unfold escapeName at filled named ⊢
  split at filled
  · next reserved =>
    obtain ⟨first, rest, split, noDigit, -⟩ := reservedWords_form reserved
    rw [if_pos reserved] at named ⊢
    refine ⟨chars ?_, ⟨first, rest ++ ['_'], ?_, noDigit⟩, named, ?_⟩
    · rw [String.toList_append]
      exact word.append underscore
    · rw [String.toList_append, split]
      rfl
    · -- The escaped word ends with an underscore, as no reserved word does.
      intro again
      obtain ⟨first, rest, same, -, -, last⟩ := reservedWords_form again
      exact last (by simp [← same])
  · next unreserved =>
    rw [if_neg unreserved] at named ⊢
    split at filled
    · next digit =>
      rw [if_pos digit] at named ⊢
      refine ⟨chars ?_, ⟨'_', name.toList, String.toList_append, by decide⟩, named, ?_⟩
      · rw [String.toList_append]
        exact underscore.append word
      · intro again
        obtain ⟨first, rest, same, -, apart, -⟩ := reservedWords_form again
        exact apart (List.cons.inj (String.toList_append.symm.trans same)).1.symm
    · next noDigit =>
      rw [if_neg noDigit] at named ⊢
      refine ⟨chars word, ?_, named, unreserved⟩
      cases split : name.toList with
      | nil => exact absurd (String.toList_eq_nil_iff.mp split) filled
      | cons first rest => exact ⟨first, rest, rfl, by simpa [split] using noDigit⟩

theorem typeName_identifier {name : String} (word : WordChars name.toList) (usable : Usable (typeName name)) :
    Rust.IsIdentifier (typeName name) := by
  refine escapeName_identifier ?_ usable
  rw [pascalCase, String.toList_ofList]
  exact pascalChars_word word

theorem fieldName_identifier {name : String} (word : WordChars name.toList) (usable : Usable (fieldName name)) :
    Rust.IsIdentifier (fieldName name) := by
  refine escapeName_identifier ?_ usable
  rw [snakeCase, String.toList_ofList]
  exact snakeAfter_word word none

theorem Rust.WellNamed.identifiers {declarations : List Declaration} (named : WellNamed declarations)
    (words : ∀ declaration ∈ declarations, ∀ name ∈ declaration.names, WordChars name.toList) :
    ∀ declaration ∈ declarations, IsIdentifier (typeName declaration.name) ∧
      ∀ generated ∈ innerNames declaration, IsIdentifier generated := by
  intro declaration member
  obtain ⟨usable, innerUsable⟩ := named.usable declaration member
  have word := words declaration member
  cases declaration with
  | enum decl =>
    refine ⟨typeName_identifier (word decl.name (by simp [Declaration.names])) usable, fun generated inner => ?_⟩
    have fine := innerUsable generated inner
    obtain ⟨value, listed, rfl⟩ := List.mem_map.mp inner
    exact typeName_identifier (word value (by simp [Declaration.names, listed])) fine
  | table decl =>
    refine ⟨typeName_identifier (word decl.name (by simp [Declaration.names])) usable, fun generated inner => ?_⟩
    have fine := innerUsable generated inner
    obtain ⟨field, listed, rfl⟩ := List.mem_map.mp inner
    exact fieldName_identifier (word field.name (List.mem_cons_of_mem _ (List.mem_map_of_mem listed))) fine

/-! ### Names in the code -/

/-- A line of a piece of code. -/
def HasLine (code line : String) : Prop := ∃ front back, code = "\n".intercalate (front ++ line :: back)

theorem hasLine_of_mem {lines : List String} {line : String} (member : line ∈ lines) :
    HasLine ("\n".intercalate lines) line := by
  obtain ⟨front, back, rfl⟩ := List.append_of_mem member
  exact ⟨front, back, rfl⟩

namespace Rust

/-- The code of a declaration introduces the generated names: an item, and a line inside for each value or field. -/
inductive Introduces : Declaration → String → Prop
  | enum {decl : EnumDecl} {code : String} (item : HasLine code s!"pub enum {typeName decl.name} \x7b")
      (variants : ∀ (i : Nat) (value : String), decl.values[i]? = some value →
        HasLine code s!"    {typeName value} = {i},") : Introduces (.enum decl) code
  | table {decl : TableDecl} {code : String} (item : HasLine code s!"pub struct {typeName decl.name} \x7b")
      (members : ∀ field ∈ decl.fields, ∃ type : String, HasLine code s!"    pub {fieldName field.name}: {type},") :
      Introduces (.table decl) code

/-- The type and the value of a field, array or not, that mention the type of a declaration. -/
inductive Refers : Declaration → Bool → String → String → Prop
  | enum {decl : EnumDecl} {offset : Nat} : Refers (.enum decl) false (typeName decl.name)
      (s!"<{typeName decl.name} as ::core::convert::TryFrom<{intType decl.repr}>>::try_from(" ++
        s!"ks::deserialize_{intType decl.repr}(src, {offset})?)?")
  | table {decl : TableDecl} {offset : Nat} : Refers (.table decl) false
      s!"::core::option::Option<::std::boxed::Box<{typeName decl.name}>>"
      (s!"ks::deserialize_sub::<{typeName decl.name}>(src, {offset}, registry)?" ++ ".map(::std::boxed::Box::new)")
  | tableArray {decl : TableDecl} {offset : Nat} : Refers (.table decl) true s!"::std::vec::Vec<{typeName decl.name}>"
      s!"ks::deserialize_sub_array::<{typeName decl.name}>(src, {offset}, registry)?"

/-- The name of the type of a declaration is that of no other declaration. -/
def Denotes (declarations : List Declaration) (target : Declaration) : Prop :=
  ∃ i : Nat, declarations[i]? = some target ∧
    ∀ (j : Nat) (other : Declaration), declarations[j]? = some other →
      typeName other.name = typeName target.name → j = i

/-- The code of a field mentions the declaration that the field stands for, among those that are known. -/
def RefersTo (declarations known : List Declaration) (field : FieldDecl) (code : String) : Prop :=
  ∃ target type value, latest? known field.typeName = some target ∧ Denotes declarations target ∧
    Refers target field.isArray type value ∧ HasLine code s!"    pub {fieldName field.name}: {type}," ∧
    HasLine code ("            " ++ s!"{fieldName field.name}: {value},")

end Rust

theorem Rust.WellNamed.denotes {declarations : List Declaration} (named : WellNamed declarations)
    {target : Declaration} (member : target ∈ declarations) : Denotes declarations target := by
  obtain ⟨i, found⟩ := List.getElem?_of_mem member
  refine ⟨i, found, fun j other listed same => ?_⟩
  obtain ⟨inside, -⟩ := List.getElem?_eq_some_iff.mp listed
  refine (List.getElem?_inj (by simpa using inside) named.types).mp ?_
  rw [List.getElem?_map, List.getElem?_map, listed, found]
  exact congrArg some same

end Emit

theorem Layout.HasClass.refers {declarations : List Declaration} {field : FieldDecl} {storage : StorageClass}
    (has : HasClass declarations field storage) :
    (∃ storage, Builtin field.typeName storage) ∨
      storage ≠ .bool ∧ ∃ target, latest? declarations field.typeName = some target ∧
        ∀ offset, ∃ value, Rust.readText? storage offset = some value ∧
          Rust.Refers target field.isArray (Rust.memberType storage) value := by
  cases has with
  | builtin isBuiltin => exact .inl ⟨storage, isBuiltin⟩
  | table _ latest single =>
    obtain ⟨-, same⟩ := mem_of_latest? latest
    refine .inr ⟨by simp, _, latest, fun offset => ?_⟩
    rw [single, ← same]
    exact ⟨_, rfl, .table⟩
  | tableArray _ latest array =>
    obtain ⟨-, same⟩ := mem_of_latest? latest
    refine .inr ⟨by simp, _, latest, fun offset => ?_⟩
    rw [array, ← same]
    exact ⟨_, rfl, .tableArray⟩
  | enum _ latest filled single =>
    obtain ⟨-, same⟩ := mem_of_latest? latest
    refine .inr ⟨by simp, _, latest, fun offset => ?_⟩
    rw [single, ← same]
    exact ⟨_, rfl, .enum⟩

namespace Emit

theorem mem_of_mapM {α β : Type} {f : α → Option β} {list : List α} {results : List β}
    (all : list.mapM f = some results) {a : α} {b : β} (member : a ∈ list) (found : f a = some b) : b ∈ results := by
  induction list generalizing results with
  | nil => simp at member
  | cons first list ih =>
    rw [List.mapM_cons] at all
    obtain ⟨c, head, all⟩ := Option.bind_eq_some_iff.mp all
    obtain ⟨more, tail, all⟩ := Option.bind_eq_some_iff.mp all
    obtain rfl := Option.some.inj all
    rcases List.mem_cons.mp member with rfl | later
    · obtain rfl := Option.some.inj (head.symm.trans found)
      simp
    · exact List.mem_cons_of_mem _ (ih tail later)

/-- Lines in the code of a table: its item, its members and what is read for them. -/
theorem Rust.tableCode_lines {plan : Plan} {code : String} (coded : tableCode? .rust plan = some code) :
    HasLine code s!"pub struct {typeName plan.table} \x7b" ∧
      (∀ member ∈ plan.members, HasLine code s!"    pub {fieldName member.name}: {memberType member.storage},") ∧
      ∀ init ∈ initializers plan, ∀ text, init.text? = some text → HasLine code ("            " ++ text) := by
  obtain ⟨lines, generated, rfl⟩ := Option.map_eq_some_iff.mp coded
  obtain ⟨serialize, deserialize, -, read, split⟩ := tableLines?_parts generated
  have struct : ∀ line ∈ structLines plan, HasLine ("\n".intercalate lines) line :=
    fun line member => hasLine_of_mem (by simp [split, member])
  refine ⟨struct _ (by simp [structLines]), fun member listed => struct _ ?_, fun init listed text spelled => ?_⟩
  · exact List.mem_append_left _ (List.mem_append_right _ (List.mem_map_of_mem listed))
  · obtain ⟨body, spelledAll, built⟩ := Option.bind_eq_some_iff.mp read
    obtain rfl := Option.some.inj built
    have inside := mem_of_mapM spelledAll listed spelled
    exact hasLine_of_mem (by simp [split, inside])

theorem Rust.enumCode_introduces (decl : EnumDecl) : Introduces (.enum decl) (enumCode .rust decl) := by
  refine .enum (hasLine_of_mem (by simp [enumLines])) fun i value found => hasLine_of_mem ?_
  obtain ⟨inside, rfl⟩ := List.getElem?_eq_some_iff.mp found
  have listed : s!"    {typeName decl.values[i]} = {i}," ∈ (decl.values.mapIdx fun i value =>
      (if i = 0 then ["    #[default]"] else []) ++ [s!"    {typeName value} = {i},"]).flatten :=
    List.mem_flatten.mpr ⟨_, List.mem_mapIdx.mpr ⟨i, inside, rfl⟩, by simp⟩
  simp only [enumLines, List.mem_append, listed, or_true, true_or]

end Emit

/-- Members have the names of their fields. -/
theorem Layout.Typed.names {known : List Declaration} {fields : List FieldDecl} {members : List Member}
    (typed : Typed known fields members) : fields.map (·.name) = members.map (·.name) :=
  map_eq_of_forall₂ (typed.imp fun _ _ facts => facts.1.symm)

theorem Layout.Typed.exists_member {known : List Declaration} {fields : List FieldDecl} {members : List Member}
    (typed : Typed known fields members) {field : FieldDecl} (listed : field ∈ fields) :
    ∃ member ∈ members, member.name = field.name ∧ HasClass known field member.storage := by
  obtain ⟨i, inside, rfl⟩ := List.getElem_of_mem listed
  have also : i < members.length := typed.length_eq ▸ inside
  exact ⟨_, List.getElem_mem also, typed.get inside also⟩

section
variable {plan : Plan} {known : List Declaration} {decl : TableDecl} {code : String}
  (typed : Typed known decl.fields plan.members) (coded : tableCode? .rust plan = some code)
include typed coded

theorem Emit.Rust.tableCode_introduces (table : plan.table = decl.name) : Introduces (.table decl) code := by
  obtain ⟨item, members, -⟩ := tableCode_lines coded
  rw [table] at item
  refine .table item fun field listed => ?_
  obtain ⟨member, isMember, same, -⟩ := typed.exists_member listed
  exact ⟨_, same ▸ members member isMember⟩

/-- The code of a table mentions the declarations that the fields stand for. -/
theorem Emit.Rust.tableCode_refers (computed : plan.Computed) (distinct : (decl.fields.map (·.name)).Nodup)
    {declarations : List Declaration} (named : WellNamed declarations) (sub : known ⊆ declarations) :
    ∀ field ∈ decl.fields, (∃ storage, Builtin field.typeName storage) ∨ RefersTo declarations known field code := by
  intro field listed
  obtain ⟨-, members, reads⟩ := tableCode_lines coded
  obtain ⟨member, isMember, same, has⟩ := typed.exists_member listed
  rcases has.refers with builtin | ⟨noBool, target, latest, texts⟩
  · exact .inl builtin
  · right
    -- A field that refers to a declaration is no bool, so what is read for it comes from its slot.
    have slot : member ∈ slotted plan.members := List.mem_filter.mpr ⟨isMember, by simpa using noBool⟩
    obtain ⟨i, place⟩ := List.getElem?_of_mem slot
    rw [typed.names] at distinct
    have init := slot_initializer computed distinct place
    obtain ⟨value, spelled, refers⟩ := texts (slotWidths ((slotted plan.members).take i))
    have line := reads _ (List.mem_map_of_mem isMember) s!"{fieldName member.name}: {value}," (by
      rw [init]
      exact congrArg (Option.map _) spelled)
    rw [same] at line
    exact ⟨target, _, value, latest, named.denotes (sub (mem_of_latest? latest).1), refers,
      same ▸ members member isMember, line⟩

end

/-- What a run for Rust that succeeds has written for a declaration. -/
theorem Session.addAll_introduces {path : Option String} {final : Session} {declarations : List Declaration}
    (ran : (Session.start ⟨.rust, path⟩).addAll (declarations.map .ok) = .ok final) {i : Nat}
    (inside : i < declarations.length) :
    ∃ code, final.chunks[i + 1]? = some code ∧ Rust.Introduces declarations[i] code := by
  have split : declarations = declarations.take i ++ declarations[i] :: declarations.drop (i + 1) := by
    rw [← List.drop_eq_getElem_cons inside, List.take_append_drop]
  have place : (declarations.take i).length = i := List.length_take_of_le inside.le
  rw [split, List.map_append, List.map_cons] at ran
  generalize declarations[i] = declaration at ran ⊢
  cases declaration with
  | enum decl =>
    have placed := addAll_enum ran
    rw [place] at placed
    exact ⟨_, placed, Rust.enumCode_introduces decl⟩
  | table decl =>
    obtain ⟨members, code, typed, -, coded, placed⟩ := addAll_table ran
    rw [place] at placed
    exact ⟨code, placed, Rust.tableCode_introduces typed coded rfl⟩

/-- Every name that Rust code is generated for is an identifier, and no two names of types, of values of an enum or of
fields of a table are the same. The code of each declaration introduces its names, and the type that it mentions for a
field is that of the one declaration which the field stands for. -/
theorem compile_names (text : String) (path : Option String) (compilation : Compilation)
    (compiled : compile text ⟨.rust, path⟩ = .ok compilation) :
    (∀ declaration ∈ compilation.declarations, Rust.IsIdentifier (typeName declaration.name) ∧
      ∀ generated ∈ Rust.innerNames declaration, Rust.IsIdentifier generated) ∧
    ((compilation.declarations.map (typeName ·.name)).Nodup ∧
      ∀ declaration ∈ compilation.declarations, (Rust.innerNames declaration).Nodup) ∧
    ∃ codes, compilation.output = outputOf ⟨.rust, path⟩ compilation.plans codes ∧
      List.Forall₂ Rust.Introduces compilation.declarations codes ∧
      ∀ earlier decl later, compilation.declarations = earlier ++ Declaration.table decl :: later →
        ∃ code, codes[earlier.length]? = some code ∧ ∀ field ∈ decl.fields,
          (∃ storage, Builtin field.typeName storage) ∨
            Rust.RefersTo compilation.declarations (earlier ++ [Declaration.table decl]) field code := by
  obtain ⟨final, ran, rfl⟩ := map_ok_iff.mp compiled
  obtain ⟨script, -, matched⟩ := Session.exists_matches none ran
  have named : Rust.WellNamed final.declarations := matched.declarations ▸ matched.named
  have words : ∀ declaration ∈ final.declarations, ∀ name ∈ declaration.names, WordChars name.toList :=
    fun declaration declared name member =>
      Session.addAll_words ran declaration declared name (declaration.names_subset_words member)
  have coding := (Session.Codes.start ⟨.rust, path⟩).addAll ran
  obtain ⟨codes, chunks, -⟩ := coding.coded
  have counted := (Session.addAll_counts ran).2
  obtain ⟨declarations, read, all⟩ := Session.addAll_declarations ran
  obtain rfl : final.declarations = declarations := all
  rw [read] at ran
  rw [chunks, List.length_cons, Nat.add_right_cancel_iff] at counted
  refine ⟨named.identifiers words, ⟨named.types, named.inner⟩, codes, coding.output chunks, ?_, ?_⟩
  · refine List.forall₂_iff_get.mpr ⟨counted.symm, fun i inside _ => ?_⟩
    obtain ⟨code, placed, introduces⟩ := Session.addAll_introduces ran inside
    rw [chunks, List.getElem?_cons_succ] at placed
    obtain ⟨_, rfl⟩ := List.getElem?_eq_some_iff.mp placed
    exact introduces
  · intro earlier decl later split
    change final.declarations = earlier ++ Declaration.table decl :: later at split
    have declared : Declaration.table decl ∈ final.declarations := by simp [split]
    have known : earlier ++ [Declaration.table decl] ⊆ final.declarations := by simp [split]
    have distinct : (decl.fields.map (·.name)).Nodup :=
      List.Nodup.of_map fieldName (by rw [List.map_map]; exact named.inner _ declared)
    rw [split, List.map_append, List.map_cons] at ran
    obtain ⟨members, code, typed, -, coded, placed⟩ := Session.addAll_table ran
    rw [chunks, List.getElem?_cons_succ] at placed
    exact ⟨code, placed, Rust.tableCode_refers typed coded rfl distinct named known⟩

/-- Names that are reserved words or start with a digit are escaped, and a table of such a name is still found. -/
theorem escaped_names :
    ∃ compilation code, compile "enum type: byte \x7b Self, 3d \x7d table self: SELF \x7b TYPE: type; me: [self] \x7d"
        ⟨.rust, none⟩ = .ok compilation ∧
      (∀ name ∈ ["Type", "Self_", "_3d", "type_", "me"], Rust.IsIdentifier name) ∧
      Rust.RefersTo compilation.declarations compilation.declarations ⟨"me", 1, 61, "self", true⟩ code := by
  have works : (compile "enum type: byte \x7b Self, 3d \x7d table self: SELF \x7b TYPE: type; me: [self] \x7d"
      ⟨.rust, none⟩).map (·.declarations) = .ok [.enum ⟨"type", 1, 6, .byte, ["Self", "3d"]⟩,
        .table ⟨"self", 1, 36, "SELF", [⟨"TYPE", 1, 49, "type", false⟩, ⟨"me", 1, 61, "self", true⟩]⟩] := by
    decide +kernel
  obtain ⟨compilation, compiled, declared⟩ := map_ok_iff.mp works
  obtain ⟨identifiers, -, codes, -, -, refers⟩ := compile_names _ none compilation compiled
  have generated : ["Type", "Self_", "_3d", "type_", "me"] = [typeName "type", typeName "self", typeName "3d",
      fieldName "TYPE", fieldName "me"] := by decide +kernel
  rw [declared] at identifiers refers
  obtain ⟨type, values⟩ := identifiers _ (List.mem_cons_self ..)
  obtain ⟨self, fieldNames⟩ := identifiers _ (List.mem_cons_of_mem _ (List.mem_cons_self ..))
  obtain ⟨code, -, fields⟩ := refers [_] _ [] rfl
  have noBuiltin : ¬ ∃ storage, Builtin "self" storage := not_exists.mpr (builtin?_eq_none_iff.mp (by decide))
  refine ⟨compilation, code, compiled, ?_, ?_⟩
  · rw [generated]
    simp only [List.forall_mem_cons]
    exact ⟨type, self, values _ (by simp [Rust.innerNames]), fieldNames _ (by simp [Rust.innerNames]),
      fieldNames _ (by simp [Rust.innerNames]), nofun⟩
  · rw [declared]
    exact (fields ⟨"me", 1, 61, "self", true⟩ (by simp)).resolve_left noBuiltin

end TableWire
