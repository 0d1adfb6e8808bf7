import TableWire.Schema.Declaration
import TableWire.Schema.Diagnostic
import TableWire.Schema.Token
import TableWire.Text.Excerpt

/-!
Reading declarations from tokens. Between declarations everything is skipped, a `namespace`
statement as a whole. Inside an `enum` or `table` the grammar is strict, and the first mismatch
ends the reading.
-/
namespace TableWire.Schema

/-- The parts of `name : word { body }`. -/
structure Heading where
  name : Token
  word : Token
  body : List Token
  rest : List Token

/-- Splits at the first closing brace. -/
def closeBody? (tokens : List Token) : Option (List Token × List Token) :=
  match tokens.dropWhile (·.kind != .rightBrace) with
  | [] => none
  | _ :: rest => some (tokens.takeWhile (·.kind != .rightBrace), rest)

def heading? : List Token → Option Heading
  | name :: colon :: word :: brace :: rest =>
    if name.kind = .word ∧ colon.kind = .colon ∧ word.kind = .word ∧ brace.kind = .leftBrace then
      (closeBody? rest).map fun (body, rest) => ⟨name, word, body, rest⟩
    else none
  | _ => none

/-- The pieces of a body between separators, empty ones left out. -/
def entries (separator : TokenKind) (body : List Token) : List (List Token) :=
  (body.splitOnP (·.kind == separator)).filter (!·.isEmpty)

/-- The source from the first to the last token of an entry. -/
def sourceOf? (text : String) (entry : List Token) : Option String :=
  match entry.head?, entry.getLast? with
  | some first, some last => Text.slice? text first.start.offset last.stop
  | _, _ => none

/-- Refuses an entry, showing its source. -/
def refuseEntry {α : Type} (text : String) (entry : List Token) (why : String → Diagnostic) :
    Except Diagnostic α :=
  match sourceOf? text entry with
  | some source => .error (why source)
  | none => .error .internal

/-- An entry of an enum body is one word. -/
def enumValue? : List Token → Option String
  | [value] => if value.kind = .word then some value.text else none
  | _ => none

/-- The name token and the type token of `name : type`, `name : [type]` or `name : type[]`, and
whether the type is an array. -/
def fieldParts? : List Token → Option (Token × Token × Bool)
  | [name, colon, type] => if colon.kind = .colon then some (name, type, false) else none
  | [name, colon, third, fourth, fifth] =>
    if colon.kind = .colon ∧ third.kind = .leftBracket ∧ fifth.kind = .rightBracket then
      some (name, fourth, true)
    else if colon.kind = .colon ∧ fourth.kind = .leftBracket ∧ fifth.kind = .rightBracket then
      some (name, third, true)
    else none
  | _ => none

/-- An entry of a table body. -/
def fieldDecl? (entry : List Token) : Option FieldDecl :=
  match fieldParts? entry with
  | some (name, type, isArray) =>
    if name.kind = .word ∧ type.kind = .word then
      some ⟨name.text, name.start.line, name.start.column, type.text, isArray⟩
    else none
  | none => none

/-- How many bytes the tag of a table has. -/
def tagLength : Nat := 4

/-- Where the tokens after a keyword start, the end mark standing in when there are none. -/
def mismatchAt (text : String) (tokens : List Token) : Mismatch :=
  let position := (tokens.headD (endToken text)).start
  ⟨Text.excerpt text position.offset, position.line, position.column⟩

/-- Reads what follows the word `enum`. -/
def readEnum (text : String) (tokens : List Token) : Except Diagnostic (EnumDecl × List Token) :=
  match heading? tokens with
  | none => .error (.enumGrammar (mismatchAt text tokens))
  | some heading =>
    match IntKind.ofKeyword? heading.word.text with
    | none => .error (.enumGrammar (mismatchAt text tokens))
    | some repr => do
      let name := heading.name
      let values ← (entries .comma heading.body).mapM fun entry =>
        match enumValue? entry with
        | some value => .ok value
        | none => refuseEntry text entry (.enumValueName name.text)
      return (⟨name.text, name.start.line, name.start.column, repr, values⟩, heading.rest)

/-- Reads what follows the word `table`. -/
def readTable (text : String) (tokens : List Token) : Except Diagnostic (TableDecl × List Token) :=
  match heading? tokens with
  | none => .error (.tableGrammar (mismatchAt text tokens))
  | some heading =>
    if heading.word.text.utf8ByteSize = tagLength then do
      let name := heading.name
      let fields ← (entries .semicolon heading.body).mapM fun entry =>
        match fieldDecl? entry with
        | some field => .ok field
        | none => refuseEntry text entry (.fieldGrammar name.text)
      return (⟨name.text, name.start.line, name.start.column, heading.word.text, fields⟩,
        heading.rest)
    else .error (.tableGrammar (mismatchAt text tokens))

/-- What follows the next semicolon. -/
def afterStatement (tokens : List Token) : List Token :=
  (tokens.dropWhile (·.kind != .semicolon)).drop 1

theorem length_dropWhile_le {α : Type} (p : α → Bool) (l : List α) :
    (l.dropWhile p).length ≤ l.length :=
  (List.dropWhile_suffix p).length_le

theorem length_afterStatement_le (tokens : List Token) :
    (afterStatement tokens).length ≤ tokens.length := by
  have := length_dropWhile_le (fun t : Token => t.kind != .semicolon) tokens
  simp only [afterStatement, List.length_drop]
  omega

/-- Reads the next declaration and what follows it, if any is left. -/
def readDeclaration (text : String) (tokens : List Token) :
    Except Diagnostic (Option (Declaration × List Token)) :=
  match tokens with
  | [] => .ok none
  | token :: rest =>
    if token.isWord "namespace" then readDeclaration text (afterStatement rest)
    else if token.isWord "enum" then
      (readEnum text rest).map fun (decl, rest) => some (.enum decl, rest)
    else if token.isWord "table" then
      (readTable text rest).map fun (decl, rest) => some (.table decl, rest)
    else readDeclaration text rest
termination_by tokens.length
decreasing_by
  · have := length_afterStatement_le rest
    simp only [List.length_cons]
    omega
  · simp

theorem length_of_closeBody? {tokens body rest : List Token}
    (closed : closeBody? tokens = some (body, rest)) : rest.length < tokens.length := by
  have bound := length_dropWhile_le (fun t : Token => t.kind != .rightBrace) tokens
  unfold closeBody? at closed
  split at closed
  · simp at closed
  · next dropped =>
    rw [dropped] at bound
    obtain ⟨-, rfl⟩ := Prod.mk.inj (Option.some.inj closed)
    exact bound

theorem length_of_heading? {tokens : List Token} {heading : Heading}
    (found : heading? tokens = some heading) : heading.rest.length < tokens.length := by
  unfold heading? at found
  split at found
  · split at found
    · obtain ⟨⟨body, rest⟩, closed, rfl⟩ := Option.map_eq_some_iff.1 found
      have := length_of_closeBody? closed
      simp only [List.length_cons]
      omega
    · simp at found
  · simp at found

theorem length_of_readEnum {text : String} {tokens rest : List Token} {decl : EnumDecl}
    (found : readEnum text tokens = .ok (decl, rest)) : rest.length < tokens.length := by
  unfold readEnum at found
  split at found
  · simp at found
  · next heading headed =>
    split at found
    · simp at found
    · simp only [bind, Except.bind, pure, Except.pure] at found
      split at found
      · simp at found
      · obtain ⟨-, rfl⟩ := Prod.mk.inj (Except.ok.inj found)
        exact length_of_heading? headed

theorem length_of_readTable {text : String} {tokens rest : List Token} {decl : TableDecl}
    (found : readTable text tokens = .ok (decl, rest)) : rest.length < tokens.length := by
  unfold readTable at found
  split at found
  · simp at found
  · next heading headed =>
    split at found
    · simp only [bind, Except.bind, pure, Except.pure] at found
      split at found
      · simp at found
      · obtain ⟨-, rfl⟩ := Prod.mk.inj (Except.ok.inj found)
        exact length_of_heading? headed
    · simp at found

/-- A declaration takes at least one token. -/
theorem length_of_readDeclaration {text : String} {tokens rest : List Token}
    {declaration : Declaration}
    (found : readDeclaration text tokens = .ok (some (declaration, rest))) :
    rest.length < tokens.length := by
  fun_induction readDeclaration text tokens with
  | case1 => simp at found
  | case2 token tail _ ih =>
    have := length_afterStatement_le tail
    have := ih found
    simp only [List.length_cons]
    omega
  | case3 token tail =>
    match read : readEnum text tail with
    | .error _ => simp [read, Except.map] at found
    | .ok (decl, more) =>
      simp only [read, Except.map, Except.ok.injEq, Option.some.injEq, Prod.mk.injEq] at found
      obtain ⟨-, rfl⟩ := found
      have := length_of_readEnum read
      simp only [List.length_cons]
      omega
  | case4 token tail =>
    match read : readTable text tail with
    | .error _ => simp [read, Except.map] at found
    | .ok (decl, more) =>
      simp only [read, Except.map, Except.ok.injEq, Option.some.injEq, Prod.mk.injEq] at found
      obtain ⟨-, rfl⟩ := found
      have := length_of_readTable read
      simp only [List.length_cons]
      omega
  | case5 token tail _ _ _ ih =>
    have := ih found
    simp only [List.length_cons]
    omega

/-- A reader between two declarations of a text. -/
structure Reader where
  text : String
  pending : List Token
  finished : Bool

namespace Reader

def ofText (text : String) : Reader := ⟨text, scan text, false⟩

/-- The next declaration or the reason why there is none. Nothing follows an end or a failure. -/
def next (reader : Reader) : Option (Except Diagnostic Declaration) × Reader :=
  if reader.finished then (none, reader)
  else
    match readDeclaration reader.text reader.pending with
    | .ok none => (none, { reader with finished := true })
    | .ok (some (declaration, rest)) => (some (.ok declaration), { reader with pending := rest })
    | .error diagnostic => (some (.error diagnostic), { reader with finished := true })

end Reader

/-- All declarations from some tokens on, up to the first failure. -/
def readFrom (text : String) (tokens : List Token) : List (Except Diagnostic Declaration) :=
  match _read : readDeclaration text tokens with
  | .ok none => []
  | .ok (some (declaration, rest)) => .ok declaration :: readFrom text rest
  | .error diagnostic => [.error diagnostic]
termination_by tokens.length
decreasing_by exact length_of_readDeclaration ‹_›

/-- All declarations of a text, up to the first failure. -/
def readAll (text : String) : List (Except Diagnostic Declaration) := readFrom text (scan text)

/-- The declarations of a text, or its first failure. -/
def parse (text : String) : Except Diagnostic (List Declaration) := (readAll text).mapM id

end TableWire.Schema
