import Mathlib
import TableWire.Proofs.Steps

/-!
Formatting does not matter. Two sequences of tokens are alike (`Alike`) if they differ only in where the tokens stand
and in separators that divide nothing in the bodies of declarations (`Pads`). What is read from them agrees up to
places (`readFrom_agree`): a reader looks only at kinds and texts of tokens and at the entries of bodies, and separators
that divide nothing add no entry (`Padded.pieces_eq`). A session does not look at places at all
(`Session.Adds.unplaced`).
-/
namespace TableWire
open Schema Layout Emit

/-! ### Up to places -/

namespace Schema

/-- An enum without its place. -/
def EnumDecl.unplaced (decl : EnumDecl) : EnumDecl := { decl with line := 0, column := 0 }

/-- A field without its place. -/
def FieldDecl.unplaced (decl : FieldDecl) : FieldDecl := { decl with line := 0, column := 0 }

/-- A table without its place and those of its fields. -/
def TableDecl.unplaced (decl : TableDecl) : TableDecl :=
  { decl with line := 0, column := 0, fields := decl.fields.map (·.unplaced) }

def Declaration.unplaced : Declaration → Declaration
  | .enum decl => .enum decl.unplaced
  | .table decl => .table decl.unplaced

end Schema

/-- A compilation without the places of its declarations. -/
def Compilation.unplaced (compilation : Compilation) : Compilation :=
  { compilation with declarations := compilation.declarations.map (·.unplaced) }

/-- A session without the places of its declarations. -/
def Session.unplaced (session : Session) : Session :=
  { session with declarations := session.declarations.map (·.unplaced) }

/-- Outcomes that agree: both give results that are alike, or both fail in the same way. -/
inductive Agree {α : Type} (alike : α → α → Prop) : Except Diagnostic α → Except Diagnostic α → Prop
  | ok {first second : α} (same : alike first second) : Agree alike (.ok first) (.ok second)
  | error {first second : Diagnostic} (same : first.ctorIdx = second.ctorIdx) :
      Agree alike (.error first) (.error second)

section
variable {α β : Type} {alike : α → α → Prop} {alikeLater : β → β → Prop}

theorem Agree.map {first second : Except Diagnostic α} {f g : α → β} (agree : Agree alike first second)
    (maps : ∀ a b, alike a b → alikeLater (f a) (g b)) : Agree alikeLater (first.map f) (second.map g) := by
  cases agree with
  | ok same => exact .ok (maps _ _ same)
  | error same => exact .error same

/-- Steps that agree one by one agree as a whole. -/
theorem Agree.mapM {f g : β → Except Diagnostic α} {first second : List β}
    (each : List.Forall₂ (fun a b => Agree alike (f a) (g b)) first second) :
    Agree (List.Forall₂ alike) (first.mapM f) (second.mapM g) := by
  induction each with
  | nil => exact .ok .nil
  | cons step _ ih =>
    rw [List.mapM_cons, List.mapM_cons]
    generalize f _ = result at step
    generalize g _ = other at step
    generalize List.mapM f _ = results at ih
    generalize List.mapM g _ = others at ih
    cases step with
    | error same => exact .error same
    | ok same =>
      cases ih with
      | error same => exact .error same
      | ok more => exact .ok (.cons same more)

end

/-! ### Layout -/

namespace Schema

/-- What a token is, wherever it stands. -/
def Token.glyph (token : Token) : TokenKind × String := (token.kind, token.text)

def glyphs (tokens : List Token) : List (TokenKind × String) := tokens.map Token.glyph

/-- Changes to the body of a declaration that mean nothing: the tokens stand elsewhere, or a separator is added at one
end of the body or next to another one. -/
inductive Pads (separator : TokenKind) : List Token → List Token → Prop
  | same {body other : List Token} (same : glyphs body = glyphs other) : Pads separator body other
  | extra {front back : List Token} {token : Token} (isSeparator : token.kind = separator)
      (idle : front = [] ∨ back = [] ∨ (∃ last ∈ front.getLast?, last.kind = separator) ∨
        ∃ next ∈ back.head?, next.kind = separator) : Pads separator (front ++ back) (front ++ token :: back)

/-- Bodies that differ by any number of such changes. -/
def Padded (separator : TokenKind) : List Token → List Token → Prop := Relation.EqvGen (Pads separator)

/-- The words that begin declarations, and what divides the bodies of these. -/
inductive Divides : String → TokenKind → Prop
  | enum : Divides "enum" .comma
  | table : Divides "table" .semicolon

/-- Tokens that do not begin with `name : word { body }`. -/
def Headless (tokens : List Token) : Prop :=
  ∀ front name word body rest, Headed front name word body → tokens ≠ front ++ rest

/-- Token sequences that differ only in layout: in where tokens stand and in the separators of bodies. Reading ends at a
declaration without a body, so that nothing behind it matters. -/
inductive Alike : List Token → List Token → Prop
  | nil : Alike [] []
  | skipped {item other rest more : List Token} (isItem : Item item []) (same : glyphs item = glyphs other)
      (later : Alike rest more) : Alike (item ++ rest) (other ++ more)
  | unclosed {keyword keyword' : Token} {body other : List Token} (begun : keyword.isWord "namespace")
      (inside : ∀ token ∈ body, token.kind ≠ .semicolon)
      (same : glyphs (keyword :: body) = glyphs (keyword' :: other)) :
      Alike (keyword :: body) (keyword' :: other)
  | declaration {start : String} {separator : TokenKind} {keyword keyword' name name' word word' : Token}
      {front other body body' rest more : List Token} (divides : Divides start separator)
      (begun : keyword.isWord start) (sameKeyword : keyword.glyph = keyword'.glyph)
      (heads : Headed front name word body) (heads' : Headed other name' word' body')
      (sameName : name.glyph = name'.glyph) (sameWord : word.glyph = word'.glyph)
      (padded : Padded separator body body') (later : Alike rest more) :
      Alike (keyword :: (front ++ rest)) (keyword' :: (other ++ more))
  | malformed {start : String} {separator : TokenKind} {keyword keyword' : Token} {tokens others : List Token}
      (divides : Divides start separator) (begun : keyword.isWord start) (sameKeyword : keyword.glyph = keyword'.glyph)
      (headless : Headless tokens) (headless' : Headless others) : Alike (keyword :: tokens) (keyword' :: others)

section
variable {token other : Token} {tokens others : List Token} {kind : TokenKind}

theorem glyph_kind (same : token.glyph = other.glyph) : token.kind = other.kind := (Prod.mk.inj same).1

theorem glyph_text (same : token.glyph = other.glyph) : token.text = other.text := (Prod.mk.inj same).2

theorem glyph_isWord (same : token.glyph = other.glyph) (word : String) : token.isWord word = other.isWord word := by
  rw [Token.isWord, Token.isWord, glyph_kind same, glyph_text same]

theorem glyphs_cons_iff : glyphs (token :: tokens) = glyphs others ↔
    ∃ first more, others = first :: more ∧ token.glyph = first.glyph ∧ glyphs tokens = glyphs more := by
  constructor
  · intro same
    obtain ⟨first, more, rfl, sameFirst, sameMore⟩ := List.map_eq_cons_iff.mp same.symm
    exact ⟨first, more, rfl, sameFirst.symm, sameMore.symm⟩
  · rintro ⟨first, more, rfl, sameFirst, sameMore⟩
    exact congrArg₂ List.cons sameFirst sameMore

theorem glyphs_append_iff {front back : List Token} : glyphs (front ++ back) = glyphs others ↔
    ∃ front' back', others = front' ++ back' ∧ glyphs front = glyphs front' ∧ glyphs back = glyphs back' := by
  constructor
  · intro same
    rw [glyphs, List.map_append] at same
    obtain ⟨front', back', rfl, sameFront, sameBack⟩ := List.map_eq_append_iff.mp same.symm
    exact ⟨front', back', rfl, sameFront.symm, sameBack.symm⟩
  · rintro ⟨front', back', rfl, sameFront, sameBack⟩
    rw [glyphs, glyphs, List.map_append, List.map_append]
    exact congrArg₂ _ sameFront sameBack

theorem glyphs_nil_iff : glyphs [] = glyphs others ↔ others = [] := by
  rw [eq_comm]
  exact List.map_eq_nil_iff

/-- A kind that is missing is missing from every layout. -/
theorem glyphs_free (same : glyphs tokens = glyphs others) (free : ∀ token ∈ tokens, token.kind ≠ kind) :
    ∀ token ∈ others, token.kind ≠ kind := by
  intro token member
  have found : token.glyph ∈ glyphs tokens := same ▸ List.mem_map_of_mem member
  obtain ⟨earlier, listed, sameGlyph⟩ := List.mem_map.mp found
  exact glyph_kind sameGlyph ▸ free earlier listed

end

/-! ### Entries -/

theorem pieces_append {separator : TokenKind} {token : Token} (isSeparator : token.kind = separator)
    (front back : List Token) :
    pieces separator (front ++ token :: back) = pieces separator front ++ pieces separator back := by
  rw [pieces, List.splitOnP_append_cons _ _ (by simpa using isSeparator), List.filter_append, pieces, pieces]

theorem pieces_nil (separator : TokenKind) : pieces separator [] = [] := by
  simp [pieces]

theorem pieces_cons {separator : TokenKind} {token : Token} (isSeparator : token.kind = separator) (back : List Token) :
    pieces separator (token :: back) = pieces separator back := by
  have split := pieces_append isSeparator [] back
  rwa [pieces_nil, List.nil_append, List.nil_append] at split

/-- A separator that divides nothing adds no entry. -/
theorem pieces_extra {separator : TokenKind} {token : Token} {front back : List Token}
    (isSeparator : token.kind = separator)
    (idle : front = [] ∨ back = [] ∨ (∃ last ∈ front.getLast?, last.kind = separator) ∨
      ∃ next ∈ back.head?, next.kind = separator) :
    pieces separator (front ++ token :: back) = pieces separator (front ++ back) := by
  rcases idle with rfl | rfl | ⟨last, isLast, divides⟩ | ⟨next, isNext, divides⟩
  · exact pieces_cons isSeparator back
  · rw [pieces_append isSeparator, pieces_nil, List.append_nil, List.append_nil]
  · obtain ⟨init, rfl⟩ := List.getLast?_eq_some_iff.mp isLast
    rw [List.append_assoc, List.append_assoc, List.singleton_append, List.singleton_append, pieces_append divides,
      pieces_append divides, pieces_cons isSeparator]
  · obtain ⟨more, rfl⟩ := List.head?_eq_some_iff.mp isNext
    rw [pieces_append isSeparator, pieces_append divides, pieces_cons divides]

theorem pieces_glyphs {separator : TokenKind} {body other : List Token} (same : glyphs body = glyphs other) :
    (pieces separator body).map glyphs = (pieces separator other).map glyphs := by
  induction size : body.length using Nat.strong_induction_on generalizing body other with
  | _ size ih =>
    subst size
    rcases exists_first separator body with none | ⟨front, first, rest, rfl, before, found⟩
    · have whole : ∀ body : List Token, (∀ token ∈ body, token.kind ≠ separator) →
          pieces separator body = [body].filter (· ≠ []) := by
        intro body none
        rw [pieces, List.splitOnP_eq_singleton (by simpa using none)]
      rw [whole body none, whole other (glyphs_free same none)]
      cases body with
      | nil => rw [glyphs_nil_iff.mp same]
      | cons token body =>
        obtain ⟨first, more, rfl, -, -⟩ := glyphs_cons_iff.mp same
        simpa using same
    · obtain ⟨front', back', rfl, sameFront, sameBack⟩ := glyphs_append_iff.mp same
      obtain ⟨first', rest', rfl, sameFirst, sameRest⟩ := glyphs_cons_iff.mp sameBack
      rw [pieces_append found, pieces_append (glyph_kind sameFirst ▸ found), List.map_append, List.map_append,
        ih front.length (by simp) sameFront rfl, ih rest.length (by simp; omega) sameRest rfl]

/-- Bodies that are padded differently have the same entries. -/
theorem Padded.pieces_eq {separator : TokenKind} {body other : List Token} (padded : Padded separator body other) :
    (pieces separator body).map glyphs = (pieces separator other).map glyphs := by
  induction padded with
  | rel body other pads =>
    cases pads with
    | same same => exact pieces_glyphs same
    | extra isSeparator idle => rw [pieces_extra isSeparator idle]
  | refl body => rfl
  | symm body other _ ih => exact ih.symm
  | trans body middle other _ _ ih ih' => exact ih.trans ih'

section
variable {α : Type} {alike : α → α → Prop} {read? : List Token → Option α} {text text' : String}
  {why why' : String → Diagnostic}

/-- Entries of the same tokens are read alike, or both are refused. -/
theorem readEntry_agree
    (reads : ∀ {entry other result}, glyphs entry = glyphs other → read? entry = some result →
      ∃ found, read? other = some found ∧ alike result found)
    (sameWhy : ∀ source source', (why source).ctorIdx = (why' source').ctorIdx) {entry other : List Token}
    (part : entry <:+: scan text) (part' : other <:+: scan text') (filled : entry ≠ [])
    (same : glyphs entry = glyphs other) :
    Agree alike (readEntry text read? why entry) (readEntry text' read? why' other) := by
  cases read : read? entry with
  | some result =>
    obtain ⟨found, readOther, isAlike⟩ := reads same read
    simp only [readEntry, read, readOther]
    exact .ok isAlike
  | none =>
    have readOther : read? other = none := by
      by_contra accepted
      obtain ⟨result, readOther⟩ := Option.ne_none_iff_exists'.mp accepted
      obtain ⟨found, again, -⟩ := reads same.symm readOther
      simp [read] at again
    have filled' : other ≠ [] := by
      rintro rfl
      exact filled (glyphs_nil_iff.mp same.symm)
    obtain ⟨_, source, _, -, found⟩ := exists_sourceOf? part filled
    obtain ⟨_, source', _, -, found'⟩ := exists_sourceOf? part' filled'
    simp only [readEntry, read, readOther, refuseEntry, found, found']
    exact .error (sameWhy _ _)

theorem readEntries_agree
    (reads : ∀ {entry other result}, glyphs entry = glyphs other → read? entry = some result →
      ∃ found, read? other = some found ∧ alike result found)
    (sameWhy : ∀ source source', (why source).ctorIdx = (why' source').ctorIdx)
    {separator : TokenKind} {body other : List Token} (part : body <:+: scan text) (part' : other <:+: scan text')
    (padded : Padded separator body other) :
    Agree (List.Forall₂ alike) ((pieces separator body).mapM (readEntry text read? why))
      ((pieces separator other).mapM (readEntry text' read? why')) := by
  have each := padded.pieces_eq
  rw [← List.forall₂_eq_eq_eq, List.forall₂_map_left_iff, List.forall₂_map_right_iff] at each
  refine Agree.mapM ?_
  rw [List.forall₂_iff_get] at each ⊢
  refine ⟨each.1, fun i inside inside' => ?_⟩
  obtain ⟨within, filled⟩ := pieces_within (List.get_mem (pieces separator body) ⟨i, inside⟩)
  obtain ⟨within', -⟩ := pieces_within (List.get_mem (pieces separator other) ⟨i, inside'⟩)
  exact readEntry_agree reads sameWhy (within.trans part) (within'.trans part') filled (each.2 i inside inside')

end

/-! ### Declarations -/

theorem enumValue?_glyphs {entry other : List Token} {value : String} (same : glyphs entry = glyphs other)
    (read : enumValue? entry = some value) : ∃ found, enumValue? other = some found ∧ value = found := by
  simp only [enumValue?_eq_some_iff] at read ⊢
  refine ⟨value, ?_, rfl⟩
  cases read with
  | word isWord =>
    obtain ⟨token, more, rfl, sameToken, sameMore⟩ := glyphs_cons_iff.mp same
    obtain rfl := glyphs_nil_iff.mp sameMore
    rw [glyph_text sameToken]
    exact .word (glyph_kind sameToken ▸ isWord)

theorem fieldDecl?_glyphs {entry other : List Token} {decl : FieldDecl} (same : glyphs entry = glyphs other)
    (read : fieldDecl? entry = some decl) :
    ∃ found, fieldDecl? other = some found ∧ decl.unplaced = found.unplaced := by
  simp only [fieldDecl?_eq_some_iff] at read ⊢
  cases read with
  | single named divided typed =>
    obtain ⟨name, _, rfl, sameName, same⟩ := glyphs_cons_iff.mp same
    obtain ⟨colon, _, rfl, sameColon, same⟩ := glyphs_cons_iff.mp same
    obtain ⟨type, _, rfl, sameType, same⟩ := glyphs_cons_iff.mp same
    obtain rfl := glyphs_nil_iff.mp same
    refine ⟨_, .single (glyph_kind sameName ▸ named) (glyph_kind sameColon ▸ divided) (glyph_kind sameType ▸ typed), ?_⟩
    simp [FieldDecl.unplaced, glyph_text sameName, glyph_text sameType]
  | bracketed named divided opened typed closed =>
    obtain ⟨name, _, rfl, sameName, same⟩ := glyphs_cons_iff.mp same
    obtain ⟨colon, _, rfl, sameColon, same⟩ := glyphs_cons_iff.mp same
    obtain ⟨opening, _, rfl, sameOpening, same⟩ := glyphs_cons_iff.mp same
    obtain ⟨type, _, rfl, sameType, same⟩ := glyphs_cons_iff.mp same
    obtain ⟨closing, _, rfl, sameClosing, same⟩ := glyphs_cons_iff.mp same
    obtain rfl := glyphs_nil_iff.mp same
    refine ⟨_, .bracketed (glyph_kind sameName ▸ named) (glyph_kind sameColon ▸ divided)
      (glyph_kind sameOpening ▸ opened) (glyph_kind sameType ▸ typed) (glyph_kind sameClosing ▸ closed), ?_⟩
    simp [FieldDecl.unplaced, glyph_text sameName, glyph_text sameType]
  | marked named divided typed opened closed =>
    obtain ⟨name, _, rfl, sameName, same⟩ := glyphs_cons_iff.mp same
    obtain ⟨colon, _, rfl, sameColon, same⟩ := glyphs_cons_iff.mp same
    obtain ⟨type, _, rfl, sameType, same⟩ := glyphs_cons_iff.mp same
    obtain ⟨opening, _, rfl, sameOpening, same⟩ := glyphs_cons_iff.mp same
    obtain ⟨closing, _, rfl, sameClosing, same⟩ := glyphs_cons_iff.mp same
    obtain rfl := glyphs_nil_iff.mp same
    refine ⟨_, .marked (glyph_kind sameName ▸ named) (glyph_kind sameColon ▸ divided) (glyph_kind sameType ▸ typed)
      (glyph_kind sameOpening ▸ opened) (glyph_kind sameClosing ▸ closed), ?_⟩
    simp [FieldDecl.unplaced, glyph_text sameName, glyph_text sameType]

section
variable {text text' : String} {front other body body' rest more : List Token} {name name' word word' : Token}

theorem readEnum_headless {tokens : List Token} (headless : Headless tokens) :
    readEnum text tokens = .error (.enumGrammar (mismatchAt text tokens)) := by
  rcases readEnum_headed text tokens with failed | ⟨front, name, word, body, rest, _, heads, -, split⟩
  · exact failed
  · exact absurd split (headless front name word body rest heads)

theorem readTable_headless {tokens : List Token} (headless : Headless tokens) :
    readTable text tokens = .error (.tableGrammar (mismatchAt text tokens)) := by
  rcases readTable_headed text tokens with failed | ⟨front, name, word, body, rest, heads, -, split⟩
  · exact failed
  · exact absurd split (headless front name word body rest heads)

section
variable (heads : Headed front name word body) (heads' : Headed other name' word' body')
  (sameName : name.glyph = name'.glyph) (sameWord : word.glyph = word'.glyph)
  (part : front ++ rest <:+: scan text) (part' : other ++ more <:+: scan text')
include heads heads' sameName sameWord part part'

theorem readEnum_agree (padded : Padded .comma body body') :
    Agree (fun first second => first.1.unplaced = second.1.unplaced ∧ first.2 = rest ∧ second.2 = more)
      (readEnum text (front ++ rest)) (readEnum text' (other ++ more)) := by
  have headed : heading? (front ++ rest) = some ⟨name, word, body, rest⟩ := heading?_eq_some_iff.mpr ⟨front, heads, rfl⟩
  have headed' : heading? (other ++ more) = some ⟨name', word', body', more⟩ :=
    heading?_eq_some_iff.mpr ⟨other, heads', rfl⟩
  cases known : IntKind.ofKeyword? word.text with
  | none =>
    have known' : IntKind.ofKeyword? word'.text = none := glyph_text sameWord ▸ known
    simp only [readEnum, headed, headed', known, known']
    exact .error rfl
  | some repr =>
    have spelled := ofKeyword?_eq_some_iff.mp known
    rw [readEnum_eq heads spelled, readEnum_eq heads' (glyph_text sameWord ▸ spelled)]
    refine Agree.map (readEntries_agree enumValue?_glyphs ?_ (heads.body_within part)
      (heads'.body_within part') padded) ?_
    · exact fun _ _ => rfl
    · intro values values' same
      rw [List.forall₂_eq_eq_eq] at same
      refine ⟨?_, rfl, rfl⟩
      simp [EnumDecl.unplaced, glyph_text sameName, same]

theorem readTable_agree (padded : Padded .semicolon body body') :
    Agree (fun first second => first.1.unplaced = second.1.unplaced ∧ first.2 = rest ∧ second.2 = more)
      (readTable text (front ++ rest)) (readTable text' (other ++ more)) := by
  have headed : heading? (front ++ rest) = some ⟨name, word, body, rest⟩ := heading?_eq_some_iff.mpr ⟨front, heads, rfl⟩
  have headed' : heading? (other ++ more) = some ⟨name', word', body', more⟩ :=
    heading?_eq_some_iff.mpr ⟨other, heads', rfl⟩
  by_cases fourBytes : word.text.utf8ByteSize = 4
  · rw [readTable_eq heads fourBytes, readTable_eq heads' (glyph_text sameWord ▸ fourBytes)]
    refine Agree.map (readEntries_agree fieldDecl?_glyphs ?_ (heads.body_within part)
      (heads'.body_within part') padded) ?_
    · exact fun _ _ => rfl
    · intro fields fields' same
      refine ⟨?_, rfl, rfl⟩
      simp [TableDecl.unplaced, glyph_text sameName, glyph_text sameWord, map_eq_of_forall₂ same]
  · have fourBytes' : ¬ word'.text.utf8ByteSize = 4 := glyph_text sameWord ▸ fourBytes
    simp only [readTable, headed, headed', tagLength, fourBytes, fourBytes', if_false]
    exact .error rfl

end

/-- What is read of two declarations that differ in layout, and that reading goes on behind them. -/
theorem readDeclaration_agree {start : String} {separator : TokenKind} {keyword keyword' : Token}
    (divides : Divides start separator) (begun : keyword.isWord start) (sameKeyword : keyword.glyph = keyword'.glyph)
    (heads : Headed front name word body) (heads' : Headed other name' word' body')
    (sameName : name.glyph = name'.glyph) (sameWord : word.glyph = word'.glyph) (padded : Padded separator body body')
    (part : front ++ rest <:+: scan text) (part' : other ++ more <:+: scan text') :
    Agree (fun first second => ∃ declaration declaration', first = some (declaration, rest) ∧
        second = some (declaration', more) ∧ declaration.unplaced = declaration'.unplaced)
      (readDeclaration text (keyword :: (front ++ rest))) (readDeclaration text' (keyword' :: (other ++ more))) := by
  have begun' : keyword'.isWord start := glyph_isWord sameKeyword start ▸ begun
  cases divides with
  | enum =>
    rw [readDeclaration_enum begun, readDeclaration_enum begun']
    refine (readEnum_agree heads heads' sameName sameWord part part' padded).map ?_
    rintro ⟨decl, _⟩ ⟨decl', _⟩ ⟨same, rfl, rfl⟩
    exact ⟨_, _, rfl, rfl, congrArg Declaration.enum same⟩
  | table =>
    rw [readDeclaration_table begun, readDeclaration_table begun']
    refine (readTable_agree heads heads' sameName sameWord part part' padded).map ?_
    rintro ⟨decl, _⟩ ⟨decl', _⟩ ⟨same, rfl, rfl⟩
    exact ⟨_, _, rfl, rfl, congrArg Declaration.table same⟩

theorem readDeclaration_malformed (text text' : String) {start : String} {separator : TokenKind}
    {keyword keyword' : Token} {tokens others : List Token} (divides : Divides start separator)
    (begun : keyword.isWord start) (sameKeyword : keyword.glyph = keyword'.glyph) (headless : Headless tokens)
    (headless' : Headless others) :
    ∃ first second, readDeclaration text (keyword :: tokens) = .error first ∧
      readDeclaration text' (keyword' :: others) = .error second ∧ first.ctorIdx = second.ctorIdx := by
  have begun' : keyword'.isWord start := glyph_isWord sameKeyword start ▸ begun
  cases divides with
  | enum =>
    rw [readDeclaration_enum begun, readDeclaration_enum begun', readEnum_headless headless,
      readEnum_headless headless']
    exact ⟨_, _, rfl, rfl, rfl⟩
  | table =>
    rw [readDeclaration_table begun, readDeclaration_table begun', readTable_headless headless,
      readTable_headless headless']
    exact ⟨_, _, rfl, rfl, rfl⟩

end

theorem Item.glyphs {item other : List Token} (isItem : Item item []) (same : glyphs item = glyphs other) :
    Item other [] := by
  cases isItem with
  | other noEnum noTable noStatement =>
    obtain ⟨token, more, rfl, sameToken, sameMore⟩ := glyphs_cons_iff.mp same
    obtain rfl := glyphs_nil_iff.mp sameMore
    rw [glyph_isWord sameToken] at noEnum noTable noStatement
    exact .other noEnum noTable noStatement
  | statement begun inside closed =>
    obtain ⟨keyword, _, rfl, sameKeyword, same⟩ := glyphs_cons_iff.mp same
    obtain ⟨body, _, rfl, sameBody, same⟩ := glyphs_append_iff.mp same
    obtain ⟨closing, _, rfl, sameClosing, same⟩ := glyphs_cons_iff.mp same
    obtain rfl := glyphs_nil_iff.mp same
    exact .statement (glyph_isWord sameKeyword _ ▸ begun) (glyphs_free sameBody inside)
      (glyph_kind sameClosing ▸ closed)

/-- Texts whose tokens are alike are read alike. -/
theorem readFrom_agree {text text' : String} {tokens others : List Token} (alike : Alike tokens others)
    (part : tokens <:+: scan text) (part' : others <:+: scan text') :
    List.Forall₂ (Agree fun first second => first.unplaced = second.unplaced) (readFrom text tokens)
      (readFrom text' others) := by
  induction alike with
  | nil =>
    rw [readFrom_none (by rw [readDeclaration]), readFrom_none (by rw [readDeclaration])]
    exact .nil
  | skipped isItem same later ih =>
    rw [readFrom_congr ((Skips.single isItem).readDeclaration_append _ _),
      readFrom_congr ((Skips.single (isItem.glyphs same)).readDeclaration_append _ _)]
    exact ih ((List.suffix_append ..).isInfix.trans part) ((List.suffix_append ..).isInfix.trans part')
  | @unclosed keyword keyword' body other begun inside same =>
    obtain ⟨_, _, isCons, sameKeyword, sameBody⟩ := glyphs_cons_iff.mp same
    obtain ⟨rfl, rfl⟩ := List.cons.inj isCons
    have none : ∀ text (keyword : Token) (body : List Token), keyword.isWord "namespace" →
        (∀ token ∈ body, token.kind ≠ .semicolon) → readFrom text (keyword :: body) = [] := by
      intro text keyword body begun inside
      refine readFrom_none ?_
      rw [readDeclaration_statement begun, afterStatement_unclosed inside, readDeclaration]
    rw [none _ _ _ begun inside, none _ _ _ (glyph_isWord sameKeyword _ ▸ begun) (glyphs_free sameBody inside)]
    exact .nil
  | declaration divides begun sameKeyword heads heads' sameName sameWord padded later ih =>
    have within := (List.suffix_cons ..).isInfix.trans part
    have within' := (List.suffix_cons ..).isInfix.trans part'
    have read := readDeclaration_agree divides begun sameKeyword heads heads' sameName sameWord padded within within'
    have ih := ih ((List.suffix_append ..).isInfix.trans within) ((List.suffix_append ..).isInfix.trans within')
    generalize first : readDeclaration text _ = outcome at read
    generalize second : readDeclaration text' _ = outcome' at read
    cases read with
    | error same =>
      rw [readFrom_error first, readFrom_error second]
      exact .cons (.error same) .nil
    | ok same =>
      obtain ⟨declaration, declaration', rfl, rfl, same⟩ := same
      rw [readFrom_some first, readFrom_some second]
      exact .cons (.ok same) ih
  | malformed divides begun sameKeyword headless headless' =>
    obtain ⟨first, second, read, read', same⟩ :=
      readDeclaration_malformed text text' divides begun sameKeyword headless headless'
    rw [readFrom_error read, readFrom_error read']
    exact .cons (.error same) .nil

/-! ### Tokens that stand elsewhere -/

/-- A heading that stands elsewhere is the same heading. -/
theorem Headed.glyphs {front rest others body : List Token} {name word : Token} (heads : Headed front name word body)
    (same : glyphs (front ++ rest) = glyphs others) :
    ∃ other more name' word' body', others = other ++ more ∧ Headed other name' word' body' ∧
      name.glyph = name'.glyph ∧ word.glyph = word'.glyph ∧ Schema.glyphs body = Schema.glyphs body' ∧
      Schema.glyphs rest = Schema.glyphs more := by
  cases heads with
  | heading named divided worded opened inside closed =>
    obtain ⟨_, more, rfl, same, sameRest⟩ := glyphs_append_iff.mp same
    obtain ⟨name', _, rfl, sameName, same⟩ := glyphs_cons_iff.mp same
    obtain ⟨colon, _, rfl, sameColon, same⟩ := glyphs_cons_iff.mp same
    obtain ⟨word', _, rfl, sameWord, same⟩ := glyphs_cons_iff.mp same
    obtain ⟨opening, _, rfl, sameOpening, same⟩ := glyphs_cons_iff.mp same
    obtain ⟨body', _, rfl, sameBody, same⟩ := glyphs_append_iff.mp same
    obtain ⟨closing, _, rfl, sameClosing, same⟩ := glyphs_cons_iff.mp same
    obtain rfl := glyphs_nil_iff.mp same
    refine ⟨_, more, name', word', body', rfl, ?_, sameName, sameWord, sameBody, sameRest⟩
    exact .heading (glyph_kind sameName ▸ named) (glyph_kind sameColon ▸ divided) (glyph_kind sameWord ▸ worded)
      (glyph_kind sameOpening ▸ opened) (glyphs_free sameBody inside) (glyph_kind sameClosing ▸ closed)

theorem Headless.glyphs {tokens others : List Token} (headless : Headless tokens)
    (same : glyphs tokens = glyphs others) : Headless others := by
  rintro front name word body rest heads rfl
  obtain ⟨other, more, name', word', body', rfl, heads', -⟩ := heads.glyphs same.symm
  exact headless other name' word' body' more heads' rfl

/-- Moving tokens changes only layout. -/
theorem alike_of_glyphs {tokens others : List Token} (same : glyphs tokens = glyphs others) : Alike tokens others := by
  induction size : tokens.length using Nat.strong_induction_on generalizing tokens others with
  | _ size ih =>
    subst size
    cases tokens with
    | nil =>
      obtain rfl := glyphs_nil_iff.mp same
      exact .nil
    | cons keyword tokens =>
      obtain ⟨keyword', others, rfl, sameKeyword, sameTokens⟩ := glyphs_cons_iff.mp same
      have declared : ∀ {start : String} {separator : TokenKind}, Divides start separator → keyword.isWord start →
          Alike (keyword :: tokens) (keyword' :: others) := by
        intro start separator divides begun
        by_cases headless : Headless tokens
        · exact .malformed divides begun sameKeyword headless (headless.glyphs sameTokens)
        · simp only [Headless, not_forall, not_not] at headless
          obtain ⟨front, name, word, body, rest, heads, rfl⟩ := headless
          obtain ⟨other, more, name', word', body', rfl, heads', sameName, sameWord, sameBody, sameRest⟩ :=
            heads.glyphs sameTokens
          refine .declaration divides begun sameKeyword heads heads' sameName sameWord (.rel _ _ (.same sameBody)) ?_
          refine ih rest.length ?_ sameRest rfl
          simp only [List.length_cons, List.length_append]
          omega
      by_cases isEnum : keyword.isWord "enum"
      · exact declared .enum isEnum
      by_cases isTable : keyword.isWord "table"
      · exact declared .table isTable
      by_cases begun : keyword.isWord "namespace"
      · rcases exists_first .semicolon tokens with inside | ⟨body, closing, rest, rfl, inside, closed⟩
        · exact .unclosed begun inside same
        · obtain ⟨body', _, rfl, sameBody, same⟩ := glyphs_append_iff.mp sameTokens
          obtain ⟨closing', rest', rfl, sameClosing, sameRest⟩ := glyphs_cons_iff.mp same
          have shorter : rest.length < (keyword :: (body ++ closing :: rest)).length := by
            simp only [List.length_cons, List.length_append]
            omega
          have sameItem : glyphs (keyword :: (body ++ [closing])) = glyphs (keyword' :: (body' ++ [closing'])) := by
            simp only [glyphs, List.map_cons, List.map_append] at sameKeyword sameBody sameClosing ⊢
            rw [sameKeyword, sameBody, sameClosing]
          have alike := Alike.skipped (.statement begun inside closed) sameItem (ih _ shorter sameRest rfl)
          simpa using alike
      · have sameItem : glyphs [keyword] = glyphs [keyword'] :=
          glyphs_cons_iff.mpr ⟨keyword', [], rfl, sameKeyword, rfl⟩
        exact .skipped (.other isEnum isTable begun) sameItem (ih tokens.length (by simp) sameTokens rfl)

end Schema

/-! ### Sessions -/

theorem Emit.Emitter.emitEnum_unplaced (emitter : Emitter) (decl : EnumDecl) :
    emitter.emitEnum decl.unplaced = emitter.emitEnum decl := by
  cases emitter <;> rfl

theorem Layout.resolve_unplaced (scope : TypeScope) (table : String) (fields : List FieldDecl) :
    (fields.map (·.unplaced)).mapM (resolve scope table) = fields.mapM (resolve scope table) := by
  rw [List.mapM_map]
  rfl

namespace Session

/-- A session takes a declaration as it would take it without its place. -/
theorem Adds.unplaced {session later : Session} {declaration : Declaration} {outcome : Except Diagnostic Unit}
    (step : session.Adds declaration later outcome) :
    session.unplaced.Adds declaration.unplaced later.unplaced outcome := by
  cases step with
  | overflow many => exact .overflow many
  | unnamedEnum numbered emitted =>
    rw [← Emitter.emitEnum_unplaced] at emitted
    exact .unnamedEnum numbered emitted
  | enum numbered emitted =>
    rw [← Emitter.emitEnum_unplaced] at emitted
    simp only [Session.unplaced, List.map_append, List.map_singleton]
    exact .enum numbered emitted
  | unresolved failed =>
    rw [← resolve_unplaced] at failed
    exact .unresolved failed
  | unnamedTable resolved emitted =>
    rw [← resolve_unplaced] at resolved
    exact .unnamedTable resolved emitted
  | table resolved emitted =>
    rw [← resolve_unplaced] at resolved
    simp only [Session.unplaced, List.map_append, List.map_singleton]
    exact .table resolved emitted

theorem addAll_agree {session other : Session} {items others : List (Except Diagnostic Declaration)}
    (same : session.unplaced = other.unplaced)
    (read : List.Forall₂ (Agree fun first second => first.unplaced = second.unplaced) items others) :
    Agree (fun first second => first.unplaced = second.unplaced) (session.addAll items) (other.addAll others) := by
  induction read generalizing session other with
  | nil => exact .ok same
  | cons first later ih =>
    cases first with
    | error same => exact .error same
    | @ok declaration declaration' sameDeclaration =>
      have step := (session.adds declaration).unplaced.eq
      have step' := (other.adds declaration').unplaced.eq
      rw [same, sameDeclaration, step'] at step
      obtain ⟨sameLater, sameOutcome⟩ := Prod.mk.inj step
      rw [addAll, addAll]
      generalize session.add declaration = result at sameLater sameOutcome
      generalize other.add declaration' = result' at sameLater sameOutcome
      obtain ⟨later, outcome⟩ := result
      obtain ⟨later', outcome'⟩ := result'
      obtain rfl : outcome' = outcome := sameOutcome
      cases outcome' with
      | error diagnostic => exact .error rfl
      | ok => exact ih sameLater.symm

end Session

/-- Formatting does not matter. Two texts whose tokens have the same kinds and texts, or differ besides only in
separators of bodies that divide nothing, compile to the same, places apart, or both fail in the same way. -/
theorem compile_formatting {text other : String}
    (same : glyphs (tokenize text) = glyphs (tokenize other) ∨ Alike (scan text) (scan other)) (options : Options) :
    Agree (fun first second => first.unplaced = second.unplaced) (compile text options) (compile other options) := by
  have alike : Alike (scan text) (scan other) := by
    rcases same with same | alike
    · refine alike_of_glyphs ?_
      rw [glyphs, glyphs, tokenize, tokenize, List.map_append, List.map_append] at same
      exact (List.append_inj' same rfl).1
    · exact alike
  have read := readFrom_agree alike (List.infix_refl _) (List.infix_refl _)
  have started : (Session.start options).unplaced = (Session.start options).unplaced := rfl
  refine (Session.addAll_agree started read).map fun first second same => ?_
  exact congrArg Session.finish same

/-- Blanks and a comment, and commas at both ends of a body and next to each other. -/
theorem spaced_and_padded_formatting :
    (glyphs (tokenize "enum E:byte\x7bA\x7d") = glyphs (tokenize "enum E : byte // values\n\x7b A \x7d") ∧
      Agree (fun first second => first.unplaced = second.unplaced) (compile "enum E:byte\x7bA\x7d" ⟨.rust, none⟩)
        (compile "enum E : byte // values\n\x7b A \x7d" ⟨.rust, none⟩)) ∧
    Alike (scan "enum E:byte\x7bA\x7d") (scan "enum E:byte\x7b,A,,\x7d") ∧
      Agree (fun first second => first.unplaced = second.unplaced) (compile "enum E:byte\x7bA\x7d" ⟨.typeScript, none⟩)
        (compile "enum E:byte\x7b,A,,\x7d" ⟨.typeScript, none⟩) := by
  have spaced : glyphs (tokenize "enum E:byte\x7bA\x7d") =
      glyphs (tokenize "enum E : byte // values\n\x7b A \x7d") := by decide +kernel
  have padded : Alike (scan "enum E:byte\x7bA\x7d") (scan "enum E:byte\x7b,A,,\x7d") := by
    have first : scan "enum E:byte\x7bA\x7d" =
        [⟨.word, "enum", ⟨0, 1, 1⟩⟩, ⟨.word, "E", ⟨5, 1, 6⟩⟩, ⟨.colon, ":", ⟨6, 1, 7⟩⟩, ⟨.word, "byte", ⟨7, 1, 8⟩⟩,
          ⟨.leftBrace, "\x7b", ⟨11, 1, 12⟩⟩, ⟨.word, "A", ⟨12, 1, 13⟩⟩, ⟨.rightBrace, "\x7d", ⟨13, 1, 14⟩⟩] := by
      decide +kernel
    have second : scan "enum E:byte\x7b,A,,\x7d" =
        [⟨.word, "enum", ⟨0, 1, 1⟩⟩, ⟨.word, "E", ⟨5, 1, 6⟩⟩, ⟨.colon, ":", ⟨6, 1, 7⟩⟩, ⟨.word, "byte", ⟨7, 1, 8⟩⟩,
          ⟨.leftBrace, "\x7b", ⟨11, 1, 12⟩⟩, ⟨.comma, ",", ⟨12, 1, 13⟩⟩, ⟨.word, "A", ⟨13, 1, 14⟩⟩,
          ⟨.comma, ",", ⟨14, 1, 15⟩⟩, ⟨.comma, ",", ⟨15, 1, 16⟩⟩, ⟨.rightBrace, "\x7d", ⟨16, 1, 17⟩⟩] := by
      decide +kernel
    have commas : ∀ {value value' front back beside : Token}, value.glyph = value'.glyph → front.kind = .comma →
        back.kind = .comma → beside.kind = .comma → Padded .comma [value] [front, value', back, beside] := by
      intro value value' front back beside same isFront isBack isBeside
      have moved : Pads .comma [value] [value'] := .same (congrArg (fun glyph => [glyph]) same)
      have opened : Pads .comma [value'] [front, value'] := @Pads.extra _ [] _ _ isFront (.inl rfl)
      have closed : Pads .comma [front, value'] [front, value', back] :=
        @Pads.extra _ [_, _] [] _ isBack (.inr (.inl rfl))
      have doubled : Pads .comma [front, value', back] [front, value', back, beside] :=
        @Pads.extra _ [_, _, _] [] _ isBeside (.inr (.inr (.inl ⟨back, rfl, isBack⟩)))
      refine .trans _ _ _ (.rel _ _ moved) ?_
      refine .trans _ _ _ (.rel _ _ opened) ?_
      exact .trans _ _ _ (.rel _ _ closed) (.rel _ _ doubled)
    rw [first, second]
    refine .declaration .enum rfl rfl (.heading rfl rfl rfl rfl ?_ rfl) (.heading rfl rfl rfl rfl ?_ rfl) rfl rfl
      (commas ?_ ?_ ?_ ?_) .nil
    all_goals simp [Token.glyph]
  exact ⟨⟨spaced, compile_formatting (.inl spaced) _⟩, padded, compile_formatting (.inr padded) _⟩

end TableWire
