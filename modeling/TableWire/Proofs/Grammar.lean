import Mathlib
import TableWire.Proofs.Outcomes
import TableWire.Schema.Reader

/-!
The grammar of schemas, apart from how they are read. A schema is a sequence of items (`SchemaText`): tokens that
mean nothing, statements that are skipped as a whole, enums and tables. Reading accepts exactly the sequences of
items and gives what they declare (`readFrom_eq_map_iff`). A reader gives one declaration after the other, and after the
end or a failure nothing more (`Reader.result_eq`).
-/
namespace TableWire

theorem map_eq_of_forall₂ {α β γ : Type} {f : α → γ} {g : β → γ} {first : List α} {second : List β}
    (each : List.Forall₂ (fun a b => f a = g b) first second) : first.map f = second.map g := by
  rw [← List.forall₂_eq_eq_eq, List.forall₂_map_left_iff, List.forall₂_map_right_iff]
  exact each

namespace Schema

/-! ### Grammar -/

/-- `name : word { body }` up to the first closing brace. -/
inductive Headed : List Token → Token → Token → List Token → Prop
  | heading {name colon word opening closing : Token} {body : List Token} (named : name.kind = .word)
      (divided : colon.kind = .colon) (worded : word.kind = .word) (opened : opening.kind = .leftBrace)
      (inside : ∀ token ∈ body, token.kind ≠ .rightBrace) (closed : closing.kind = .rightBrace) :
      Headed (name :: colon :: word :: opening :: (body ++ [closing])) name word body

/-- The pieces of a body between separators that are not empty. -/
def pieces (separator : TokenKind) (body : List Token) : List (List Token) :=
  (body.splitOnP (·.kind = separator)).filter (· ≠ [])

/-- A value of an enum is a word. -/
inductive ValueText : List Token → String → Prop
  | word {value : Token} (isWord : value.kind = .word) : ValueText [value] value.text

/-- What follows the word `enum`. -/
inductive EnumText : List Token → EnumDecl → Prop
  | enum {tokens body : List Token} {name word : Token} {repr : IntKind} {values : List String}
      (heading : Headed tokens name word body) (spelled : word.text = repr.keyword)
      (listed : List.Forall₂ ValueText (pieces .comma body) values) :
      EnumText tokens ⟨name.text, name.start.line, name.start.column, repr, values⟩

/-- `name : type`, `name : [type]` or `name : type[]`. -/
inductive FieldText : List Token → FieldDecl → Prop
  | single {name colon type : Token} (named : name.kind = .word) (divided : colon.kind = .colon)
      (typed : type.kind = .word) :
      FieldText [name, colon, type] ⟨name.text, name.start.line, name.start.column, type.text, false⟩
  | bracketed {name colon opening type closing : Token} (named : name.kind = .word) (divided : colon.kind = .colon)
      (opened : opening.kind = .leftBracket) (typed : type.kind = .word) (closed : closing.kind = .rightBracket) :
      FieldText [name, colon, opening, type, closing]
        ⟨name.text, name.start.line, name.start.column, type.text, true⟩
  | marked {name colon type opening closing : Token} (named : name.kind = .word) (divided : colon.kind = .colon)
      (typed : type.kind = .word) (opened : opening.kind = .leftBracket) (closed : closing.kind = .rightBracket) :
      FieldText [name, colon, type, opening, closing]
        ⟨name.text, name.start.line, name.start.column, type.text, true⟩

/-- What follows the word `table`. -/
inductive TableText : List Token → TableDecl → Prop
  | table {tokens body : List Token} {name tag : Token} {fields : List FieldDecl}
      (heading : Headed tokens name tag body) (fourBytes : tag.text.utf8ByteSize = 4)
      (listed : List.Forall₂ FieldText (pieces .semicolon body) fields) :
      TableText tokens ⟨name.text, name.start.line, name.start.column, tag.text, fields⟩

/-- An item of a schema, and what it declares. -/
inductive Item : List Token → List Declaration → Prop
  | other {token : Token} (noEnum : ¬ token.isWord "enum") (noTable : ¬ token.isWord "table")
      (noStatement : ¬ token.isWord "namespace") : Item [token] []
  | statement {keyword closing : Token} {body : List Token} (begun : keyword.isWord "namespace")
      (inside : ∀ token ∈ body, token.kind ≠ .semicolon) (closed : closing.kind = .semicolon) :
      Item (keyword :: (body ++ [closing])) []
  | enum {keyword : Token} {tokens : List Token} {decl : EnumDecl} (begun : keyword.isWord "enum")
      (text : EnumText tokens decl) : Item (keyword :: tokens) [.enum decl]
  | table {keyword : Token} {tokens : List Token} {decl : TableDecl} (begun : keyword.isWord "table")
      (text : TableText tokens decl) : Item (keyword :: tokens) [.table decl]

/-- A sequence of items, and what they declare. A statement without an end goes on to the end of the schema. -/
inductive SchemaText : List Token → List Declaration → Prop
  | nil : SchemaText [] []
  | cons {item rest : List Token} {declared more : List Declaration} (first : Item item declared)
      (later : SchemaText rest more) : SchemaText (item ++ rest) (declared ++ more)
  | unclosed {keyword : Token} {body : List Token} (begun : keyword.isWord "namespace")
      (inside : ∀ token ∈ body, token.kind ≠ .semicolon) : SchemaText (keyword :: body) []

/-! ### Headings -/

/-- A list of tokens is cut at the first token of a kind, or there is none. -/
theorem exists_first (kind : TokenKind) (tokens : List Token) :
    (∀ token ∈ tokens, token.kind ≠ kind) ∨ ∃ front first rest, tokens = front ++ first :: rest ∧
      (∀ token ∈ front, token.kind ≠ kind) ∧ first.kind = kind := by
  induction tokens with
  | nil => simp
  | cons token tokens ih =>
    by_cases here : token.kind = kind
    · exact .inr ⟨[], token, tokens, rfl, by simp, here⟩
    · rcases ih with none | ⟨front, first, rest, rfl, before, found⟩
      · exact .inl (by simpa [here] using none)
      · exact .inr ⟨token :: front, first, rest, rfl, by simpa [here] using before, found⟩

theorem cut_first {kind : TokenKind} {front : List Token} {first : Token} (rest : List Token)
    (before : ∀ token ∈ front, token.kind ≠ kind) (found : first.kind = kind) :
    (front ++ first :: rest).takeWhile (·.kind != kind) = front ∧
      (front ++ first :: rest).dropWhile (·.kind != kind) = first :: rest := by
  have passed : ∀ token ∈ front, (token.kind != kind) = true := by simpa using before
  rw [List.takeWhile_append_of_pos passed, List.dropWhile_append_of_pos passed]
  simp [found]

theorem closeBody?_eq_some_iff {tokens body rest : List Token} :
    closeBody? tokens = some (body, rest) ↔ ∃ closing : Token, tokens = body ++ closing :: rest ∧
      (∀ token ∈ body, token.kind ≠ .rightBrace) ∧ closing.kind = .rightBrace := by
  constructor
  · intro closes
    rcases exists_first .rightBrace tokens with none | ⟨front, first, later, rfl, before, found⟩
    · have dropped : tokens.dropWhile (·.kind != .rightBrace) = [] := by simpa using none
      simp [closeBody?, dropped] at closes
    · obtain ⟨taken, dropped⟩ := cut_first later before found
      rw [closeBody?, dropped, taken] at closes
      obtain ⟨rfl, rfl⟩ := Prod.mk.inj (Option.some.inj closes)
      exact ⟨first, rfl, before, found⟩
  · rintro ⟨closing, rfl, inside, closed⟩
    obtain ⟨taken, dropped⟩ := cut_first rest inside closed
    rw [closeBody?, dropped, taken]

theorem heading?_eq_some_iff {tokens body rest : List Token} {name word : Token} :
    heading? tokens = some ⟨name, word, body, rest⟩ ↔
      ∃ front, Headed front name word body ∧ tokens = front ++ rest := by
  constructor
  · intro found
    unfold heading? at found
    split at found
    · split at found
      · next kinds =>
        obtain ⟨named, divided, worded, opened⟩ := kinds
        obtain ⟨⟨body, later⟩, closes, same⟩ := Option.map_eq_some_iff.mp found
        obtain ⟨rfl, rfl, rfl, rfl⟩ := Heading.mk.inj same
        obtain ⟨closing, rfl, inside, closed⟩ := closeBody?_eq_some_iff.mp closes
        exact ⟨_, .heading named divided worded opened inside closed, by simp⟩
      · simp at found
    · simp at found
  · rintro ⟨front, @⟨_, colon, _, opening, closing, _, named, divided, worded, opened, inside, closed⟩, rfl⟩
    have closes : closeBody? (body ++ closing :: rest) = some (body, rest) :=
      closeBody?_eq_some_iff.mpr ⟨closing, rfl, inside, closed⟩
    simp [heading?, named, divided, worded, opened, closes]

/-! ### Entries -/

theorem entries_eq_pieces (separator : TokenKind) (body : List Token) :
    entries separator body = pieces separator body := by
  unfold entries pieces
  congr 1
  funext piece
  cases piece with
  | nil => rfl
  | cons token piece => simp

/-- Reads an entry, or refuses it. -/
def readEntry {α : Type} (text : String) (read? : List Token → Option α) (why : String → Diagnostic)
    (entry : List Token) : Except Diagnostic α :=
  match read? entry with
  | some result => .ok result
  | none => refuseEntry text entry why

theorem readEntry_ok_iff {α : Type} {text : String} {read? : List Token → Option α} {why : String → Diagnostic}
    {entry : List Token} {result : α} : readEntry text read? why entry = .ok result ↔ read? entry = some result := by
  unfold readEntry refuseEntry
  cases read? entry with
  | some found => simp
  | none => cases sourceOf? text entry <;> simp

theorem enumValue?_eq_some_iff {entry : List Token} {value : String} :
    enumValue? entry = some value ↔ ValueText entry value := by
  constructor
  · intro read
    unfold enumValue? at read
    split at read
    · split at read
      · next isWord => exact Option.some.inj read ▸ .word isWord
      · simp at read
    · simp at read
  · rintro ⟨isWord⟩
    simp [enumValue?, isWord]

theorem fieldDecl?_eq_some_iff {entry : List Token} {decl : FieldDecl} :
    fieldDecl? entry = some decl ↔ FieldText entry decl := by
  constructor
  · intro read
    unfold fieldDecl? at read
    split at read
    · next name type isArray parts =>
      split at read
      · next kinds =>
        obtain ⟨named, typed⟩ := kinds
        obtain rfl := Option.some.inj read
        unfold fieldParts? at parts
        split at parts
        · split at parts
          · next divided =>
            obtain ⟨rfl, rfl, rfl⟩ := by simpa using parts
            exact .single named divided typed
          · simp at parts
        · split at parts
          · next marks =>
            obtain ⟨rfl, rfl, rfl⟩ := by simpa using parts
            exact .bracketed named marks.1 marks.2.1 typed marks.2.2
          · split at parts
            · next marks =>
              obtain ⟨rfl, rfl, rfl⟩ := by simpa using parts
              exact .marked named marks.1 typed marks.2.1 marks.2.2
            · simp at parts
        · simp at parts
      · simp at read
    · simp at read
  · intro text
    cases text with
    | single named divided typed => simp [fieldDecl?, fieldParts?, named, divided, typed]
    | bracketed named divided opened typed closed =>
      simp [fieldDecl?, fieldParts?, named, divided, opened, typed, closed]
    | marked named divided typed opened closed =>
      simp [fieldDecl?, fieldParts?, named, divided, opened, typed, closed]

theorem ofKeyword?_eq_some_iff {word : String} {kind : IntKind} :
    IntKind.ofKeyword? word = some kind ↔ word = kind.keyword := by
  constructor
  · intro found
    exact (by simpa using List.find?_some found : kind.keyword = word).symm
  · rintro rfl
    cases kind <;> decide

/-! ### Declarations -/

section
variable {text : String} {tokens front body rest : List Token} {name word : Token}

/-- What follows the word `enum` is refused as a whole, or has a heading with a known type. -/
theorem readEnum_headed (text : String) (tokens : List Token) :
    readEnum text tokens = .error (.enumGrammar (mismatchAt text tokens)) ∨
      ∃ front name word body rest, ∃ repr : IntKind, Headed front name word body ∧ word.text = repr.keyword ∧
        tokens = front ++ rest := by
  cases headed : heading? tokens with
  | none => exact .inl (by rw [readEnum, headed])
  | some heading =>
    cases known : IntKind.ofKeyword? heading.word.text with
    | none => exact .inl (by simp only [readEnum, headed, known])
    | some repr =>
      obtain ⟨front, heads, split⟩ := heading?_eq_some_iff.mp headed
      exact .inr ⟨front, _, _, _, _, repr, heads, ofKeyword?_eq_some_iff.mp known, split⟩

theorem readEnum_eq (heads : Headed front name word body) {repr : IntKind} (spelled : word.text = repr.keyword) :
    readEnum text (front ++ rest) =
      ((pieces .comma body).mapM (readEntry text enumValue? (.enumValueName name.text))).map fun values =>
        (⟨name.text, name.start.line, name.start.column, repr, values⟩, rest) := by
  have headed : heading? (front ++ rest) = some ⟨name, word, body, rest⟩ := heading?_eq_some_iff.mpr ⟨front, heads, rfl⟩
  rw [← entries_eq_pieces]
  simp only [readEnum, headed, ofKeyword?_eq_some_iff.mpr spelled, bind_pure_eq_map]
  congr 2
  funext entry
  cases read : enumValue? entry <;> simp [readEntry, read]

/-- What follows the word `table` is refused as a whole, or has a heading with a tag of four bytes. -/
theorem readTable_headed (text : String) (tokens : List Token) :
    readTable text tokens = .error (.tableGrammar (mismatchAt text tokens)) ∨
      ∃ front name word body rest, Headed front name word body ∧ word.text.utf8ByteSize = 4 ∧
        tokens = front ++ rest := by
  cases headed : heading? tokens with
  | none => exact .inl (by rw [readTable, headed])
  | some heading =>
    by_cases fourBytes : heading.word.text.utf8ByteSize = 4
    · obtain ⟨front, heads, split⟩ := heading?_eq_some_iff.mp headed
      exact .inr ⟨front, _, _, _, _, heads, fourBytes, split⟩
    · exact .inl (by simp only [readTable, headed, tagLength, fourBytes, if_false])

theorem readTable_eq (heads : Headed front name word body) (fourBytes : word.text.utf8ByteSize = 4) :
    readTable text (front ++ rest) =
      ((pieces .semicolon body).mapM (readEntry text fieldDecl? (.fieldGrammar name.text))).map fun fields =>
        (⟨name.text, name.start.line, name.start.column, word.text, fields⟩, rest) := by
  have headed : heading? (front ++ rest) = some ⟨name, word, body, rest⟩ := heading?_eq_some_iff.mpr ⟨front, heads, rfl⟩
  rw [← entries_eq_pieces]
  simp only [readTable, headed, tagLength, fourBytes, if_true, bind_pure_eq_map]
  congr 2
  funext entry
  cases read : fieldDecl? entry <;> simp [readEntry, read]

theorem listed_iff {α : Type} {read? : List Token → Option α} {why : String → Diagnostic}
    {Text : List Token → α → Prop} (reads : ∀ {entry result}, read? entry = some result ↔ Text entry result)
    {entries : List (List Token)} {results : List α} :
    entries.mapM (readEntry text read? why) = .ok results ↔ List.Forall₂ Text entries results := by
  simp only [mapM_ok_iff, readEntry_ok_iff, reads]

theorem readEnum_ok_iff {decl : EnumDecl} :
    readEnum text tokens = .ok (decl, rest) ↔ ∃ front, EnumText front decl ∧ tokens = front ++ rest := by
  constructor
  · intro read
    rcases readEnum_headed text tokens with failed | ⟨front, name, word, body, behind, repr, heads, spelled, rfl⟩
    · simp [failed] at read
    · rw [readEnum_eq heads spelled, map_ok_iff] at read
      obtain ⟨values, listed, same⟩ := read
      obtain ⟨rfl, rfl⟩ := Prod.mk.inj same
      exact ⟨front, .enum heads spelled ((listed_iff enumValue?_eq_some_iff).mp listed), rfl⟩
  · rintro ⟨front, ⟨heads, spelled, listed⟩, rfl⟩
    rw [readEnum_eq heads spelled, map_ok_iff]
    exact ⟨_, (listed_iff enumValue?_eq_some_iff).mpr listed, rfl⟩

theorem readTable_ok_iff {decl : TableDecl} :
    readTable text tokens = .ok (decl, rest) ↔ ∃ front, TableText front decl ∧ tokens = front ++ rest := by
  constructor
  · intro read
    rcases readTable_headed text tokens with failed | ⟨front, name, word, body, behind, heads, fourBytes, rfl⟩
    · simp [failed] at read
    · rw [readTable_eq heads fourBytes, map_ok_iff] at read
      obtain ⟨fields, listed, same⟩ := read
      obtain ⟨rfl, rfl⟩ := Prod.mk.inj same
      exact ⟨front, .table heads fourBytes ((listed_iff fieldDecl?_eq_some_iff).mp listed), rfl⟩
  · rintro ⟨front, ⟨heads, fourBytes, listed⟩, rfl⟩
    rw [readTable_eq heads fourBytes, map_ok_iff]
    exact ⟨_, (listed_iff fieldDecl?_eq_some_iff).mpr listed, rfl⟩

end

/-! ### Items -/

theorem afterStatement_closed {body : List Token} {closing : Token} (rest : List Token)
    (inside : ∀ token ∈ body, token.kind ≠ .semicolon) (closed : closing.kind = .semicolon) :
    afterStatement (body ++ closing :: rest) = rest := by
  rw [afterStatement, (cut_first rest inside closed).2]
  rfl

theorem afterStatement_unclosed {body : List Token} (inside : ∀ token ∈ body, token.kind ≠ .semicolon) :
    afterStatement body = [] := by
  have dropped : body.dropWhile (·.kind != .semicolon) = [] := by simpa using inside
  rw [afterStatement, dropped]
  rfl

/-- A token is only one word. -/
theorem Token.isWord_unique {token : Token} {word other : String} (found : token.isWord word)
    (differ : word ≠ other) : ¬ token.isWord other := by
  simp only [isWord, Bool.and_eq_true, beq_iff_eq] at found ⊢
  rintro ⟨-, same⟩
  exact differ (found.2.symm.trans same)

section
variable {text : String} {token : Token} {rest : List Token}

theorem readDeclaration_other (noEnum : ¬ token.isWord "enum") (noTable : ¬ token.isWord "table")
    (noStatement : ¬ token.isWord "namespace") :
    readDeclaration text (token :: rest) = readDeclaration text rest := by
  rw [readDeclaration, if_neg noStatement, if_neg noEnum, if_neg noTable]

theorem readDeclaration_statement (begun : token.isWord "namespace") :
    readDeclaration text (token :: rest) = readDeclaration text (afterStatement rest) := by
  rw [readDeclaration, if_pos begun]

theorem readDeclaration_enum (begun : token.isWord "enum") :
    readDeclaration text (token :: rest) = (readEnum text rest).map fun found => some (.enum found.1, found.2) := by
  rw [readDeclaration, if_neg (Token.isWord_unique begun (by decide)), if_pos begun]

theorem readDeclaration_table (begun : token.isWord "table") :
    readDeclaration text (token :: rest) = (readTable text rest).map fun found => some (.table found.1, found.2) := by
  rw [readDeclaration, if_neg (Token.isWord_unique begun (by decide)),
    if_neg (Token.isWord_unique begun (by decide)), if_pos begun]

end

theorem Item.declared {item : List Token} {declarations : List Declaration} (isItem : Item item declarations) :
    declarations = [] ∨ ∃ declaration, declarations = [declaration] := by
  cases isItem <;> simp

/-- Items that declare nothing. -/
inductive Skips : List Token → Prop
  | nil : Skips []
  | cons {item rest : List Token} (first : Item item []) (later : Skips rest) : Skips (item ++ rest)

theorem Skips.readDeclaration_append {skipped : List Token} (skips : Skips skipped) (text : String)
    (tokens : List Token) : readDeclaration text (skipped ++ tokens) = readDeclaration text tokens := by
  induction skips with
  | nil => rfl
  | @cons item rest first later ih =>
    rw [List.append_assoc]
    cases first with
    | other noEnum noTable noStatement =>
      rw [List.singleton_append, readDeclaration_other noEnum noTable noStatement, ih]
    | statement begun inside closed =>
      rw [List.cons_append, List.append_assoc, List.singleton_append, readDeclaration_statement begun,
        afterStatement_closed _ inside closed, ih]

theorem Skips.schemaText_append {skipped tokens : List Token} {declarations : List Declaration}
    (skips : Skips skipped) (schema : SchemaText tokens declarations) :
    SchemaText (skipped ++ tokens) declarations := by
  induction skips with
  | nil => exact schema
  | cons first later ih =>
    rw [List.append_assoc]
    exact .cons first ih

theorem Skips.single {item : List Token} (only : Item item []) : Skips item := by
  simpa using Skips.cons only .nil

/-- How tokens begin: they declare nothing, or a declaration follows items that declare nothing. -/
inductive Begins : List Token → Prop
  | nothing {tokens : List Token} (schema : SchemaText tokens [])
      (unread : ∀ text, readDeclaration text tokens = .ok none) : Begins tokens
  | enum {skipped rest : List Token} {keyword : Token} (skips : Skips skipped) (begun : keyword.isWord "enum") :
      Begins (skipped ++ keyword :: rest)
  | table {skipped rest : List Token} {keyword : Token} (skips : Skips skipped) (begun : keyword.isWord "table") :
      Begins (skipped ++ keyword :: rest)

theorem Begins.skip {item rest : List Token} (first : Item item []) (begins : Begins rest) : Begins (item ++ rest) := by
  cases begins with
  | nothing schema unread =>
    refine .nothing (.cons first schema) fun text => ?_
    rw [(Skips.single first).readDeclaration_append, unread]
  | enum skips begun =>
    rw [← List.append_assoc]
    exact .enum (.cons first skips) begun
  | table skips begun =>
    rw [← List.append_assoc]
    exact .table (.cons first skips) begun

theorem begins (tokens : List Token) : Begins tokens := by
  induction size : tokens.length using Nat.strong_induction_on generalizing tokens with
  | _ size ih =>
    subst size
    cases tokens with
    | nil => exact .nothing .nil fun text => by rw [readDeclaration]
    | cons token tokens =>
      by_cases isEnum : token.isWord "enum"
      · exact .enum .nil isEnum
      by_cases isTable : token.isWord "table"
      · exact .table .nil isTable
      by_cases begun : token.isWord "namespace"
      · rcases exists_first .semicolon tokens with inside | ⟨body, closing, rest, rfl, inside, closed⟩
        · refine .nothing (.unclosed begun inside) fun text => ?_
          rw [readDeclaration_statement begun, afterStatement_unclosed inside, readDeclaration]
        · have shorter : rest.length < (token :: (body ++ closing :: rest)).length := by simp; omega
          have skipped := (ih rest.length shorter rest rfl).skip (.statement begun inside closed)
          rwa [List.cons_append, List.append_assoc, List.singleton_append] at skipped
      · exact (ih tokens.length (by simp) tokens rfl).skip (.other isEnum isTable begun)

theorem readDeclaration_some_iff {text : String} {tokens rest : List Token} {declaration : Declaration} :
    readDeclaration text tokens = .ok (some (declaration, rest)) ↔
      ∃ skipped item, Skips skipped ∧ Item item [declaration] ∧ tokens = skipped ++ (item ++ rest) := by
  constructor
  · intro read
    cases begins tokens with
    | nothing schema unread => simp [unread] at read
    | enum skips begun =>
      rw [skips.readDeclaration_append, readDeclaration_enum begun, map_ok_iff] at read
      obtain ⟨⟨decl, more⟩, found, same⟩ := read
      obtain ⟨rfl, rfl⟩ := Prod.mk.inj (Option.some.inj same)
      obtain ⟨front, enumText, rfl⟩ := readEnum_ok_iff.mp found
      exact ⟨_, _, skips, .enum begun enumText, rfl⟩
    | table skips begun =>
      rw [skips.readDeclaration_append, readDeclaration_table begun, map_ok_iff] at read
      obtain ⟨⟨decl, more⟩, found, same⟩ := read
      obtain ⟨rfl, rfl⟩ := Prod.mk.inj (Option.some.inj same)
      obtain ⟨front, tableText, rfl⟩ := readTable_ok_iff.mp found
      exact ⟨_, _, skips, .table begun tableText, rfl⟩
  · rintro ⟨skipped, item, skips, isItem, rfl⟩
    rw [skips.readDeclaration_append]
    cases isItem with
    | @enum keyword front decl begun enumText =>
      rw [List.cons_append, readDeclaration_enum begun, readEnum_ok_iff.mpr ⟨front, enumText, rfl⟩]
      rfl
    | @table keyword front decl begun tableText =>
      rw [List.cons_append, readDeclaration_table begun, readTable_ok_iff.mpr ⟨front, tableText, rfl⟩]
      rfl

/-! ### All declarations -/

section
variable {text : String} {tokens : List Token}

theorem readFrom_none (read : readDeclaration text tokens = .ok none) : readFrom text tokens = [] := by
  rw [readFrom]
  split <;> simp_all

theorem readFrom_some {declaration : Declaration} {rest : List Token}
    (read : readDeclaration text tokens = .ok (some (declaration, rest))) :
    readFrom text tokens = .ok declaration :: readFrom text rest := by
  rw [readFrom]
  split <;> simp_all

theorem readFrom_error {diagnostic : Diagnostic} (read : readDeclaration text tokens = .error diagnostic) :
    readFrom text tokens = [.error diagnostic] := by
  rw [readFrom]
  split <;> simp_all

theorem readFrom_congr {other : List Token} (same : readDeclaration text tokens = readDeclaration text other) :
    readFrom text tokens = readFrom text other := by
  rw [readFrom, readFrom]
  split <;> split <;> simp_all

/-- Reading gives what the items of a schema declare, and nothing else. -/
theorem readFrom_eq_map_iff {declarations : List Declaration} :
    readFrom text tokens = declarations.map .ok ↔ SchemaText tokens declarations := by
  constructor
  · intro read
    fun_induction readFrom text tokens generalizing declarations with
    | case1 tokens found =>
      obtain rfl : declarations = [] := by simpa using read.symm
      cases begins tokens with
      | nothing schema unread => exact schema
      | enum skips begun =>
        rw [skips.readDeclaration_append, readDeclaration_enum begun, map_ok_iff] at found
        simp at found
      | table skips begun =>
        rw [skips.readDeclaration_append, readDeclaration_table begun, map_ok_iff] at found
        simp at found
    | case2 tokens declaration rest found ih =>
      cases declarations with
      | nil => simp at read
      | cons first more =>
        obtain ⟨same, later⟩ := List.cons.inj read
        obtain rfl := Except.ok.inj same
        obtain ⟨skipped, item, skips, isItem, rfl⟩ := readDeclaration_some_iff.mp found
        exact skips.schemaText_append (.cons isItem (ih later))
    | case3 tokens diagnostic found => cases declarations <;> simp at read
  · intro schema
    induction schema with
    | nil => exact readFrom_none (by rw [readDeclaration])
    | @cons item rest declared more first later ih =>
      rcases first.declared with rfl | ⟨declaration, rfl⟩
      · rw [readFrom_congr ((Skips.single first).readDeclaration_append text rest), ih]
        rfl
      · have read : readDeclaration text (item ++ rest) = .ok (some (declaration, rest)) :=
          readDeclaration_some_iff.mpr ⟨[], item, .nil, first, rfl⟩
        rw [readFrom_some read, ih]
        rfl
    | @unclosed keyword body begun inside =>
      refine readFrom_none ?_
      rw [readDeclaration_statement begun, afterStatement_unclosed inside, readDeclaration]

/-- What is read are declarations, no more than there are tokens, and then the end or a failure. -/
theorem readFrom_shape (text : String) (tokens : List Token) :
    ∃ found : List Declaration, found.length ≤ tokens.length ∧
      (readFrom text tokens = found.map .ok ∨
        ∃ diagnostic, readFrom text tokens = found.map .ok ++ [.error diagnostic]) := by
  fun_induction readFrom text tokens with
  | case1 tokens read => exact ⟨[], by simp⟩
  | case2 tokens declaration rest read ih =>
    obtain ⟨found, bound, all⟩ := ih
    have shorter := length_of_readDeclaration read
    refine ⟨declaration :: found, by rw [List.length_cons]; omega, ?_⟩
    rcases all with all | ⟨diagnostic, all⟩
    · exact .inl (by rw [all]; rfl)
    · exact .inr ⟨diagnostic, by rw [all]; rfl⟩
  | case3 tokens diagnostic read => exact ⟨[], by simp⟩

end

theorem parse_ok_iff {text : String} {declarations : List Declaration} :
    parse text = .ok declarations ↔ readAll text = declarations.map .ok := by
  rw [parse, mapM_ok_iff, ← List.forall₂_eq_eq_eq]
  exact List.forall₂_map_right_iff.symm

theorem parse_error {text : String} {found : List Declaration} {diagnostic : Diagnostic}
    (read : readAll text = found.map .ok ++ [.error diagnostic]) : parse text = .error diagnostic := by
  have stops : ∀ found : List Declaration,
      (found.map Except.ok ++ [Except.error diagnostic]).mapM id = .error diagnostic := by
    intro found
    induction found with
    | nil => rfl
    | cons declaration found ih =>
      rw [List.map_cons, List.cons_append, List.mapM_cons, ih]
      rfl
  rw [parse, read, stops]

/-! ### Readers -/

namespace Reader

/-- The reader after some calls of `next`. -/
def after (reader : Reader) (calls : Nat) : Reader := (fun reader => reader.next.2)^[calls] reader

/-- What a call of `next` gives, the calls counted from zero. -/
def result (reader : Reader) (call : Nat) : Option (Except Diagnostic Declaration) := (reader.after call).next.1

theorem result_succ (reader : Reader) (call : Nat) : reader.result (call + 1) = reader.next.2.result call := by
  rw [result, after, Function.iterate_succ_apply]
  rfl

theorem result_finished {reader : Reader} (finished : reader.finished) (call : Nat) : reader.result call = none := by
  have still : reader.next = (none, reader) := by rw [next, if_pos finished]
  induction call with
  | zero => rw [result, after, Function.iterate_zero_apply, still]
  | succ call ih => rw [result_succ, still, ih]

/-- A reader gives what is read from its tokens, and nothing after that. -/
theorem result_eq (text : String) (pending : List Token) (call : Nat) :
    (Reader.mk text pending false).result call = (readFrom text pending)[call]? := by
  induction call generalizing pending with
  | zero =>
    rw [result, after, Function.iterate_zero_apply, next]
    cases read : readDeclaration text pending with
    | error diagnostic => simp [readFrom_error read]
    | ok found =>
      cases found with
      | none => simp [readFrom_none read]
      | some found =>
        obtain ⟨declaration, rest⟩ := found
        simp [readFrom_some read]
  | succ call ih =>
    rw [result_succ, next]
    cases read : readDeclaration text pending with
    | error diagnostic => simp [readFrom_error read, result_finished]
    | ok found =>
      cases found with
      | none => simp [readFrom_none read, result_finished]
      | some found =>
        obtain ⟨declaration, rest⟩ := found
        simp [readFrom_some read, ih]

end Reader

/-- Reading accepts exactly the schemas of the grammar and gives what they declare. Declarations come one by one, no
more than there are tokens, then the end or the failure comes, and nothing after that. -/
theorem parse_grammar (text : String) :
    (∀ declarations, parse text = .ok declarations ↔ SchemaText (scan text) declarations) ∧
    ∃ found : List Declaration, found.length ≤ (scan text).length ∧
      (∀ call declaration, found[call]? = some declaration →
        (Reader.ofText text).result call = some (.ok declaration)) ∧
      ((Reader.ofText text).result found.length = none ∧ parse text = .ok found ∨
        ∃ diagnostic, (Reader.ofText text).result found.length = some (.error diagnostic) ∧
          parse text = .error diagnostic) ∧
      ∀ call > found.length, (Reader.ofText text).result call = none := by
  refine ⟨fun declarations => parse_ok_iff.trans readFrom_eq_map_iff, ?_⟩
  have results : ∀ call, (Reader.ofText text).result call = (readAll text)[call]? :=
    Reader.result_eq text (scan text)
  obtain ⟨found, bound, all⟩ := readFrom_shape text (scan text)
  simp only [results]
  refine ⟨found, bound, ?_⟩
  rcases all with all | ⟨diagnostic, all⟩
  · have read : readAll text = found.map .ok := all
    rw [read]
    refine ⟨fun call declaration listed => ?_, .inl ⟨by simp, parse_ok_iff.mpr read⟩, fun call behind => ?_⟩
    · rw [List.getElem?_map, listed, Option.map_some]
    · rw [List.getElem?_eq_none (by rw [List.length_map]; omega)]
  · have read : readAll text = found.map .ok ++ [.error diagnostic] := all
    rw [read]
    refine ⟨fun call declaration listed => ?_, .inr ⟨diagnostic, by simp, parse_error read⟩, fun call behind => ?_⟩
    · obtain ⟨inside, -⟩ := List.getElem?_eq_some_iff.mp listed
      rw [List.getElem?_append_left (by rwa [List.length_map]), List.getElem?_map, listed, Option.map_some]
    · rw [List.getElem?_eq_none (by simp; omega)]

end Schema
end TableWire
