import Mathlib
import TableWire.Proofs.Safety
import TableWire.Proofs.Tiling

/-!
Where a schema is at fault. A keyword behind well-formed items begins something that is no declaration (`Fault`): either
its heading is malformed, and the text behind the keyword is shown (`Shows`), or an entry of its body is, and the first
such entry is shown as it was written (`FirstMalformed`, `SourceText`). Reading fails exactly on such a fault, with what
it shows, after it has given everything that the items in front declare (`readFrom_error_iff`).
-/
namespace TableWire.Schema
open String (utf8Len)

/-! ### Faults -/

/-- Items one behind the other, and what they declare. -/
inductive Items : List Token → List Declaration → Prop
  | nil : Items [] []
  | cons {item rest : List Token} {declared more : List Declaration} (first : Item item declared)
      (later : Items rest more) : Items (item ++ rest) (declared ++ more)

/-- What is shown of the text where some tokens start: at most eighty characters from the first of them on, and its line
and column. Without any tokens it is the end of the text. -/
inductive Shows (text : String) : List Token → Mismatch → Prop
  | token {before after : List Char} {token : Token} {more : List Token}
      (split : text.toList = before ++ (token.text.toList ++ after)) (start : token.start = placeAfter before) :
      Shows text (token :: more) ⟨String.ofList ((token.text.toList ++ after).take 80), (placeAfter before).line,
        (placeAfter before).column⟩
  | ending : Shows text [] ⟨"", (placeAfter text.toList).line, (placeAfter text.toList).column⟩

/-- The source of an entry: the text from where its first token starts to where its last token ends. -/
inductive SourceText (text : String) : List Token → String → Prop
  | span {entry : List Token} {first last : Token} {before source after front : List Char}
      (begins : entry.head? = some first) (start : first.start = placeAfter before)
      (ends : entry.getLast? = some last) (lastStart : last.start = placeAfter front)
      (split : text.toList = before ++ (source ++ after)) (stop : before ++ source = front ++ last.text.toList) :
      SourceText text entry (String.ofList source)

/-- The first of some entries that is malformed. -/
inductive FirstMalformed {α : Type} (Text : List Token → α → Prop) : List (List Token) → List Token → Prop
  | entry {front back : List (List Token)} {entry : List Token} (fine : ∀ other ∈ front, ∃ result, Text other result)
      (malformed : ∀ result, ¬ Text entry result) : FirstMalformed Text (front ++ entry :: back) entry

/-- Tokens that begin with the heading of an enum, and its name and body. -/
def EnumHeaded (tokens : List Token) (name : Token) (body : List Token) : Prop :=
  ∃ front word rest, ∃ repr : IntKind, Headed front name word body ∧ word.text = repr.keyword ∧ tokens = front ++ rest

/-- Tokens that begin with the heading of a table, and its name and body. -/
def TableHeaded (tokens : List Token) (name : Token) (body : List Token) : Prop :=
  ∃ front word rest, Headed front name word body ∧ word.text.utf8ByteSize = 4 ∧ tokens = front ++ rest

/-- Why a keyword and the tokens behind it begin with no declaration. -/
inductive Fault (text : String) : Token → List Token → Diagnostic → Prop
  | enumGrammar {keyword : Token} {tokens : List Token} {mismatch : Mismatch} (begun : keyword.isWord "enum")
      (headless : ∀ name body, ¬ EnumHeaded tokens name body) (shown : Shows text tokens mismatch) :
      Fault text keyword tokens (.enumGrammar mismatch)
  | enumValueName {keyword name : Token} {tokens body entry : List Token} {source : String}
      (begun : keyword.isWord "enum") (headed : EnumHeaded tokens name body)
      (malformed : FirstMalformed ValueText (pieces .comma body) entry) (sourced : SourceText text entry source) :
      Fault text keyword tokens (.enumValueName name.text source)
  | tableGrammar {keyword : Token} {tokens : List Token} {mismatch : Mismatch} (begun : keyword.isWord "table")
      (headless : ∀ name body, ¬ TableHeaded tokens name body) (shown : Shows text tokens mismatch) :
      Fault text keyword tokens (.tableGrammar mismatch)
  | fieldGrammar {keyword name : Token} {tokens body entry : List Token} {source : String}
      (begun : keyword.isWord "table") (headed : TableHeaded tokens name body)
      (malformed : FirstMalformed FieldText (pieces .semicolon body) entry) (sourced : SourceText text entry source) :
      Fault text keyword tokens (.fieldGrammar name.text source)

/-- The first fault of some tokens, behind items that are well-formed and what these declare. -/
def FaultBehind (text : String) (tokens : List Token) (found : List Declaration) (diagnostic : Diagnostic) : Prop :=
  ∃ front keyword rest, tokens = front ++ keyword :: rest ∧ Items front found ∧ Fault text keyword rest diagnostic

/-! ### What is shown -/

section
variable {text : String} {tokens : List Token}

theorem Shows.eq {mismatch : Mismatch} (shows : Shows text tokens mismatch) : mismatchAt text tokens = mismatch := by
  cases shows with
  | @token before after token more split start =>
    have cut : Text.dropBytes? text.toList (utf8Len before) = some (token.text.toList ++ after) := by
      rw [split]
      exact Text.dropBytes?_append ..
    simp only [mismatchAt, List.headD_cons, start, Text.excerpt, Text.excerptLength]
    simp only [placeAfter, cut, Option.getD_some]
  | ending =>
    have cut : Text.dropBytes? text.toList (utf8Len text.toList) = some [] := by
      have whole := Text.dropBytes?_append text.toList []
      rwa [List.append_nil] at whole
    simp only [mismatchAt, List.headD_nil, endToken, after_eq_placeAfter, Text.excerpt]
    simp only [placeAfter, cut, Option.getD_some, List.take_nil, String.ofList_nil]

theorem exists_shows (part : tokens <:+: scan text) : ∃ mismatch, Shows text tokens mismatch := by
  cases tokens with
  | nil => exact ⟨_, .ending⟩
  | cons token more =>
    have scanned : token ∈ scan text := part.subset (by simp)
    obtain ⟨-, -, before, after, split, start, -⟩ := (tokensOf_scan text).stands token scanned
    exact ⟨_, .token split start⟩

theorem shows_iff (part : tokens <:+: scan text) {mismatch : Mismatch} :
    Shows text tokens mismatch ↔ mismatchAt text tokens = mismatch := by
  constructor
  · exact Shows.eq
  · rintro rfl
    obtain ⟨mismatch, shows⟩ := exists_shows part
    exact shows.eq ▸ shows

end

/-- Of two beginnings of a text the one with fewer bytes is the shorter one. -/
theorem prefix_of_utf8Len_le {first second cs : List Char} (one : first <+: cs) (two : second <+: cs)
    (less : utf8Len first ≤ utf8Len second) : first <+: second := by
  rcases List.prefix_or_prefix_of_prefix one two with shorter | longer
  · exact shorter
  · obtain ⟨more, rfl⟩ := longer
    by_cases filled : more = []
    · simp [filled]
    · have size := utf8Len_pos filled
      rw [String.utf8Len_append] at less
      omega

section
variable {text : String} {entry : List Token}

theorem SourceText.eq {source : String} (sourced : SourceText text entry source) :
    sourceOf? text entry = some source := by
  cases sourced with
  | @span first last before source after front begins start ends lastStart split stop =>
    have stops : last.stop = utf8Len before + utf8Len source := by
      rw [Token.stop_of_start lastStart, ← stop, String.utf8Len_append]
    simp only [sourceOf?, begins, ends, stops, start]
    exact Text.slice?_eq split

/-- The first token of an entry stands at the last one or before it. -/
theorem offset_first_le {first last : Token} {tokens : List Token}
    (ordered : tokens.Pairwise fun first second => first.stop ≤ second.start.offset)
    (begins : tokens.head? = some first) (ends : tokens.getLast? = some last) :
    first.start.offset ≤ last.start.offset := by
  obtain ⟨more, rfl⟩ := List.head?_eq_some_iff.mp begins
  rcases List.mem_cons.mp (List.mem_of_getLast? ends) with rfl | behind
  · exact le_refl _
  · have apart := (List.pairwise_cons.mp ordered).1 last behind
    unfold Token.stop at apart
    omega

theorem exists_sourceText (part : entry <:+: scan text) (filled : entry ≠ []) :
    ∃ source, SourceText text entry source := by
  have tokens := tokensOf_scan text
  obtain ⟨first, begins⟩ : ∃ first, entry.head? = some first := ⟨_, List.head?_eq_some_head filled⟩
  obtain ⟨last, ends⟩ : ∃ last, entry.getLast? = some last := ⟨_, List.getLast?_eq_some_getLast filled⟩
  have stands : ∀ token ∈ entry, ∃ before after, text.toList = before ++ (token.text.toList ++ after) ∧
      token.start = placeAfter before := by
    intro token member
    obtain ⟨-, -, before, after, split, start, -⟩ := tokens.stands token (part.subset member)
    exact ⟨before, after, split, start⟩
  obtain ⟨before, behind, split, start⟩ := stands first (List.mem_of_head? begins)
  obtain ⟨front, after, splitLast, lastStart⟩ := stands last (List.mem_of_getLast? ends)
  have less : utf8Len before ≤ utf8Len front := by
    have offsets := offset_first_le (tokens.ordered.sublist part.sublist) begins ends
    rwa [start, lastStart] at offsets
  obtain ⟨between, rfl⟩ := prefix_of_utf8Len_le ⟨_, split.symm⟩ ⟨_, splitLast.symm⟩ less
  have whole : text.toList = before ++ (between ++ last.text.toList ++ after) := by simpa using splitLast
  exact ⟨_, .span begins start ends lastStart whole (by simp)⟩

end

/-! ### Entries -/

section
variable {α : Type} {text : String} {read? : List Token → Option α} {why : String → Diagnostic}
  {Text : List Token → α → Prop} (reads : ∀ {entry result}, read? entry = some result ↔ Text entry result)
include reads

theorem readEntry_error_iff {entry : List Token} (part : entry <:+: scan text) (filled : entry ≠ [])
    {diagnostic : Diagnostic} :
    readEntry text read? why entry = .error diagnostic ↔
      (∀ result, ¬ Text entry result) ∧ ∃ source, SourceText text entry source ∧ why source = diagnostic := by
  obtain ⟨source, sourced⟩ := exists_sourceText part filled
  cases read : read? entry with
  | some result =>
    have accepted : Text entry result := reads.mp read
    simp only [readEntry, read, reduceCtorEq, false_iff, not_and]
    intro malformed
    exact absurd accepted (malformed result)
  | none =>
    have malformed : ∀ result, ¬ Text entry result := by
      intro result accepted
      simp [reads.mpr accepted] at read
    simp only [readEntry, read, refuseEntry, sourced.eq, Except.error.injEq]
    constructor
    · intro same
      exact ⟨malformed, source, sourced, same⟩
    · rintro ⟨-, other, found, same⟩
      obtain rfl := Option.some.inj (sourced.eq.symm.trans found.eq)
      exact same

/-- The entries of a body are refused exactly if one is malformed, and it is the first such one that is shown. -/
theorem readEntries_error_iff {separator : TokenKind} {body : List Token} (part : body <:+: scan text)
    {diagnostic : Diagnostic} :
    (pieces separator body).mapM (readEntry text read? why) = .error diagnostic ↔
      ∃ entry source, FirstMalformed Text (pieces separator body) entry ∧ SourceText text entry source ∧
        why source = diagnostic := by
  have within : ∀ entry ∈ pieces separator body, entry <:+: scan text ∧ entry ≠ [] := by
    intro entry listed
    obtain ⟨inside, filled⟩ := pieces_within listed
    exact ⟨inside.trans part, filled⟩
  rw [mapM_error_iff]
  constructor
  · rintro ⟨front, entry, back, listed, passed, stopped⟩
    obtain ⟨inside, filled⟩ := within entry (by simp [listed])
    obtain ⟨malformed, source, sourced, same⟩ := (readEntry_error_iff reads inside filled).mp stopped
    refine ⟨entry, source, ?_, sourced, same⟩
    rw [listed]
    refine .entry ?_ malformed
    intro other member
    obtain ⟨result, read⟩ := passed other member
    exact ⟨result, reads.mp (readEntry_ok_iff.mp read)⟩
  · rintro ⟨entry, source, malformed, sourced, same⟩
    generalize listed : pieces separator body = entries at malformed
    cases malformed with
    | @entry front back _ fine malformed =>
      obtain ⟨inside, filled⟩ := within entry (by simp [listed])
      refine ⟨front, entry, back, rfl, ?_, ?_⟩
      · intro other member
        obtain ⟨result, accepted⟩ := fine other member
        exact ⟨result, readEntry_ok_iff.mpr (reads.mpr accepted)⟩
      · exact (readEntry_error_iff reads inside filled).mpr ⟨malformed, source, sourced, same⟩

end

/-! ### Declarations -/

/-- A heading is read in one way only. -/
theorem Headed.unique {front other body body' rest more : List Token} {name name' word word' : Token}
    (heads : Headed front name word body) (heads' : Headed other name' word' body')
    (same : front ++ rest = other ++ more) : name = name' ∧ word = word' ∧ body = body' ∧ rest = more := by
  have headed : heading? (front ++ rest) = some ⟨name, word, body, rest⟩ := heading?_eq_some_iff.mpr ⟨front, heads, rfl⟩
  have headed' : heading? (front ++ rest) = some ⟨name', word', body', more⟩ :=
    heading?_eq_some_iff.mpr ⟨other, heads', same⟩
  simpa using headed.symm.trans headed'

section
variable {text : String} {keyword : Token} {tokens : List Token} {diagnostic : Diagnostic}

theorem readEnum_error_iff (begun : keyword.isWord "enum") (part : tokens <:+: scan text) :
    readEnum text tokens = .error diagnostic ↔ Fault text keyword tokens diagnostic := by
  have noTable : ¬ keyword.isWord "table" := Token.isWord_unique begun (by decide)
  by_cases opens : ∃ name body, EnumHeaded tokens name body
  · obtain ⟨name, body, front, word, rest, repr, heads, spelled, rfl⟩ := opens
    rw [readEnum_eq heads spelled, map_error_iff,
      readEntries_error_iff enumValue?_eq_some_iff (heads.body_within part)]
    constructor
    · rintro ⟨entry, source, malformed, sourced, rfl⟩
      exact .enumValueName begun ⟨front, word, rest, repr, heads, spelled, rfl⟩ malformed sourced
    · intro fault
      cases fault with
      | enumGrammar _ headless => exact absurd ⟨front, word, rest, repr, heads, spelled, rfl⟩ (headless name body)
      | enumValueName _ headed malformed sourced =>
        obtain ⟨other, _, more, _, heads', -, same⟩ := headed
        obtain ⟨rfl, -, rfl, -⟩ := heads.unique heads' same
        exact ⟨_, _, malformed, sourced, rfl⟩
      | tableGrammar isTable => exact absurd isTable noTable
      | fieldGrammar isTable => exact absurd isTable noTable
  · have headless : ∀ name body, ¬ EnumHeaded tokens name body := by simpa using opens
    have failed : readEnum text tokens = .error (.enumGrammar (mismatchAt text tokens)) := by
      rcases readEnum_headed text tokens with failed | ⟨front, name, word, body, rest, repr, heads, spelled, split⟩
      · exact failed
      · exact absurd ⟨front, word, rest, repr, heads, spelled, split⟩ (headless name body)
    rw [failed, Except.error.injEq]
    constructor
    · rintro rfl
      exact .enumGrammar begun headless ((shows_iff part).mpr rfl)
    · intro fault
      cases fault with
      | enumGrammar _ _ shown => rw [shown.eq]
      | enumValueName _ headed => exact absurd headed (headless _ _)
      | tableGrammar isTable => exact absurd isTable noTable
      | fieldGrammar isTable => exact absurd isTable noTable

theorem readTable_error_iff (begun : keyword.isWord "table") (part : tokens <:+: scan text) :
    readTable text tokens = .error diagnostic ↔ Fault text keyword tokens diagnostic := by
  have noEnum : ¬ keyword.isWord "enum" := Token.isWord_unique begun (by decide)
  by_cases opens : ∃ name body, TableHeaded tokens name body
  · obtain ⟨name, body, front, word, rest, heads, fourBytes, rfl⟩ := opens
    rw [readTable_eq heads fourBytes, map_error_iff,
      readEntries_error_iff fieldDecl?_eq_some_iff (heads.body_within part)]
    constructor
    · rintro ⟨entry, source, malformed, sourced, rfl⟩
      exact .fieldGrammar begun ⟨front, word, rest, heads, fourBytes, rfl⟩ malformed sourced
    · intro fault
      cases fault with
      | enumGrammar isEnum => exact absurd isEnum noEnum
      | enumValueName isEnum => exact absurd isEnum noEnum
      | tableGrammar _ headless => exact absurd ⟨front, word, rest, heads, fourBytes, rfl⟩ (headless name body)
      | fieldGrammar _ headed malformed sourced =>
        obtain ⟨other, _, more, heads', -, same⟩ := headed
        obtain ⟨rfl, -, rfl, -⟩ := heads.unique heads' same
        exact ⟨_, _, malformed, sourced, rfl⟩
  · have headless : ∀ name body, ¬ TableHeaded tokens name body := by simpa using opens
    have failed : readTable text tokens = .error (.tableGrammar (mismatchAt text tokens)) := by
      rcases readTable_headed text tokens with failed | ⟨front, name, word, body, rest, heads, fourBytes, split⟩
      · exact failed
      · exact absurd ⟨front, word, rest, heads, fourBytes, split⟩ (headless name body)
    rw [failed, Except.error.injEq]
    constructor
    · rintro rfl
      exact .tableGrammar begun headless ((shows_iff part).mpr rfl)
    · intro fault
      cases fault with
      | enumGrammar isEnum => exact absurd isEnum noEnum
      | enumValueName isEnum => exact absurd isEnum noEnum
      | tableGrammar _ _ shown => rw [shown.eq]
      | fieldGrammar _ headed => exact absurd headed (headless _ _)

theorem Fault.keyword_cases (fault : Fault text keyword tokens diagnostic) :
    keyword.isWord "enum" ∨ keyword.isWord "table" := by
  cases fault with
  | enumGrammar begun => exact .inl begun
  | enumValueName begun => exact .inl begun
  | tableGrammar begun => exact .inr begun
  | fieldGrammar begun => exact .inr begun

theorem Fault.readDeclaration_eq (fault : Fault text keyword tokens diagnostic) (part : tokens <:+: scan text) :
    readDeclaration text (keyword :: tokens) = .error diagnostic := by
  rcases fault.keyword_cases with begun | begun
  · rw [readDeclaration_enum begun, map_error_iff]
    exact (readEnum_error_iff begun part).mpr fault
  · rw [readDeclaration_table begun, map_error_iff]
    exact (readTable_error_iff begun part).mpr fault

end

/-! ### Whole schemas -/

theorem Skips.items_append {skipped tokens : List Token} {declarations : List Declaration} (skips : Skips skipped)
    (items : Items tokens declarations) : Items (skipped ++ tokens) declarations := by
  induction skips with
  | nil => exact items
  | cons first later ih =>
    rw [List.append_assoc]
    exact .cons first ih

section
variable {text : String} {tokens : List Token} {found : List Declaration} {diagnostic : Diagnostic}

/-- What fails to be read has a fault behind tokens that declare nothing. -/
theorem exists_fault (part : tokens <:+: scan text) (failed : readDeclaration text tokens = .error diagnostic) :
    FaultBehind text tokens [] diagnostic := by
  cases begins tokens with
  | nothing schema unread =>
    rw [unread] at failed
    exact nomatch failed
  | @enum skipped rest keyword skips begun =>
    rw [skips.readDeclaration_append, readDeclaration_enum begun, map_error_iff] at failed
    refine ⟨skipped, keyword, rest, rfl, by simpa using skips.items_append .nil, ?_⟩
    exact (readEnum_error_iff begun ((behind_within ..).trans part)).mp failed
  | @table skipped rest keyword skips begun =>
    rw [skips.readDeclaration_append, readDeclaration_table begun, map_error_iff] at failed
    refine ⟨skipped, keyword, rest, rfl, by simpa using skips.items_append .nil, ?_⟩
    exact (readTable_error_iff begun ((behind_within ..).trans part)).mp failed

/-- Items give what they declare, and reading goes on behind them. -/
theorem Items.readFrom_append (items : Items tokens found) (text : String) (rest : List Token) :
    readFrom text (tokens ++ rest) = found.map .ok ++ readFrom text rest := by
  induction items with
  | nil => rfl
  | @cons item later declared more first _ ih =>
    rw [List.append_assoc, List.map_append, List.append_assoc, ← ih]
    rcases first.declared with rfl | ⟨declaration, rfl⟩
    · exact readFrom_congr ((Skips.single first).readDeclaration_append text _)
    · exact readFrom_some (readDeclaration_some_iff.mpr ⟨[], item, .nil, first, rfl⟩)

/-- Reading gives declarations and then fails exactly if these are declared in front of the first fault. -/
theorem readFrom_error_iff (part : tokens <:+: scan text) :
    readFrom text tokens = found.map .ok ++ [.error diagnostic] ↔ FaultBehind text tokens found diagnostic := by
  constructor
  · intro read
    fun_induction readFrom text tokens generalizing found with
    | case1 tokens ended => simp at read
    | case2 tokens declaration rest first ih =>
      obtain ⟨skipped, item, skips, isItem, rfl⟩ := readDeclaration_some_iff.mp first
      cases found with
      | nil => simp at read
      | cons other more =>
        obtain ⟨same, later⟩ := List.cons.inj read
        obtain rfl := Except.ok.inj same
        have suffix : rest <:+ skipped ++ (item ++ rest) := (List.suffix_append ..).trans (List.suffix_append ..)
        obtain ⟨front, keyword, behind, rfl, items, fault⟩ := ih (suffix.isInfix.trans part) later
        refine ⟨skipped ++ (item ++ front), keyword, behind, by simp, ?_, fault⟩
        exact skips.items_append (.cons isItem items)
    | case3 tokens other failed =>
      cases found with
      | cons first more => simp at read
      | nil =>
        obtain rfl : other = diagnostic := by simpa using read
        exact exists_fault part failed
  · rintro ⟨front, keyword, rest, rfl, items, fault⟩
    rw [items.readFrom_append, readFrom_error (fault.readDeclaration_eq ((behind_within ..).trans part))]

theorem parse_error_iff : parse text = .error diagnostic ↔
    ∃ found : List Declaration, readAll text = found.map .ok ++ [.error diagnostic] := by
  constructor
  · intro failed
    obtain ⟨found, -, all | ⟨other, all⟩⟩ := readFrom_shape text (scan text)
    · rw [parse_ok_iff.mpr all] at failed
      exact nomatch failed
    · have same : parse text = .error other := parse_error all
      rw [same] at failed
      obtain rfl := Except.error.inj failed
      exact ⟨found, all⟩
  · rintro ⟨found, read⟩
    exact parse_error read

end

/-- Reading a schema fails exactly on its first fault, with what is shown of it. A reader has by then given everything
that is declared in front of the fault, one by one, and gives nothing after it. -/
theorem parse_faults (text : String) (diagnostic : Diagnostic) :
    (parse text = .error diagnostic ↔ ∃ found, FaultBehind text (scan text) found diagnostic) ∧
    ∀ found : List Declaration, FaultBehind text (scan text) found diagnostic ↔
      ∀ call, (Reader.ofText text).result call = (found.map Except.ok ++ [.error diagnostic])[call]? := by
  have whole : ∀ found : List Declaration,
      readAll text = found.map .ok ++ [.error diagnostic] ↔ FaultBehind text (scan text) found diagnostic :=
    fun found => readFrom_error_iff (List.infix_refl _)
  constructor
  · rw [parse_error_iff]
    exact exists_congr whole
  · intro found
    have results : ∀ call, (Reader.ofText text).result call = (readAll text)[call]? :=
      Reader.result_eq text (scan text)
    rw [← whole]
    constructor
    · intro read call
      rw [results, read]
    · intro each
      refine List.ext_getElem? fun call => ?_
      rw [← results, each]

/-- A malformed field is shown as it was written, with the comment and the end of line inside. -/
example : parse "enum E: byte \x7b a \x7d table T: TTTT \x7b ok: byte; odd // why\n byte; ; \x7d" =
    .error (.fieldGrammar "T" "odd // why\n byte") := by decide +kernel

end TableWire.Schema
