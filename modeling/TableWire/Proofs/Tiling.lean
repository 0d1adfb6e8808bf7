import Mathlib
import TableWire.Proofs.Scanning

/-!
Where tokens stand. Lines and columns are counts over the text in front (`placeAfter`), and a comment is all that stands
on a line from its first pair of slashes on (`InComment`). The tokens of a text stand in it one behind the other, with
nothing but blanks and comments around them (`Tiles`), and which pieces of the text are tokens depends only on what
stands right next to them and on comments (`TokenText`). Scanning is followed part by part (`Scans`): no part of the
text starts inside a word or a comment (`Fresh`).
-/
namespace TableWire.Schema
open String (utf8Len)

/-! ### Places -/

/-- What stands behind the last newline of a text. -/
def lastLine (before : List Char) : List Char := before.rtakeWhile (· != '\n')

/-- The place behind a text: its bytes, its newlines and the characters of its last line, lines and columns counted
from one. -/
def placeAfter (before : List Char) : Position :=
  ⟨utf8Len before, 1 + before.count '\n', 1 + (lastLine before).length⟩

theorem lastLine_newline (before : List Char) : lastLine (before ++ ['\n']) = [] := by
  rw [lastLine, List.rtakeWhile_concat_neg _ _ _ (by simp)]

theorem lastLine_concat {c : Char} (sameLine : c ≠ '\n') (before : List Char) :
    lastLine (before ++ [c]) = lastLine before ++ [c] := by
  rw [lastLine, List.rtakeWhile_concat_pos _ _ _ (by simpa using sameLine), lastLine]

theorem lastLine_append {cs : List Char} (sameLine : '\n' ∉ cs) (before : List Char) :
    lastLine (before ++ cs) = lastLine before ++ cs := by
  induction cs using List.reverseRecOn with
  | nil => simp
  | append_singleton cs c ih =>
    simp only [List.mem_append, List.mem_singleton, not_or] at sameLine
    rw [← List.append_assoc, lastLine_concat (Ne.symm sameLine.2), ih sameLine.1, List.append_assoc]

theorem placeAfter_concat (before : List Char) (c : Char) :
    placeAfter (before ++ [c]) = (placeAfter before).next c := by
  by_cases newline : c = '\n'
  · subst newline
    simp [placeAfter, Position.next, lastLine_newline, String.utf8Len_append, Nat.add_assoc]
  · simp [placeAfter, Position.next, newline, lastLine_concat newline, String.utf8Len_append, Nat.add_assoc]

/-- Going through a text character by character leads to its counts. -/
theorem after_eq_placeAfter (before : List Char) : Position.start.after before = placeAfter before := by
  induction before using List.reverseRecOn with
  | nil => rfl
  | append_singleton before c ih =>
    rw [Position.after_append, ih, placeAfter_concat]
    rfl

theorem placeAfter_append (before cs : List Char) : (placeAfter before).after cs = placeAfter (before ++ cs) := by
  rw [← after_eq_placeAfter, ← after_eq_placeAfter, Position.after_append]

theorem utf8Len_pos {cs : List Char} (filled : cs ≠ []) : 0 < utf8Len cs := by
  obtain ⟨c, more, rfl⟩ := List.exists_cons_of_ne_nil filled
  have size := c.utf8Size_pos
  rw [String.utf8Len_cons]
  omega

/-- Different places in a text have different positions. -/
theorem placeAfter_ne {before cs : List Char} (filled : cs ≠ []) : placeAfter before ≠ placeAfter (before ++ cs) := by
  intro same
  have offset := congrArg Position.offset same
  have size := utf8Len_pos filled
  simp only [placeAfter, String.utf8Len_append] at offset
  omega

/-! ### What tokens are -/

/-- The character that `after` starts with stands in a comment: on its line, at it or before it, a pair of slashes
begins. -/
def InComment (before after : List Char) : Prop :=
  ∃ c, after.head? = some c ∧ c ≠ '\n' ∧ ['/', '/'] <:+: lastLine before ++ after.take 2

/-- The kinds of tokens that are one character and no word. -/
inductive Marks : TokenKind → Char → Prop
  | colon : Marks .colon ':'
  | semicolon : Marks .semicolon ';'
  | comma : Marks .comma ','
  | leftBrace : Marks .leftBrace '\x7b'
  | rightBrace : Marks .rightBrace '\x7d'
  | leftBracket : Marks .leftBracket '['
  | rightBracket : Marks .rightBracket ']'
  | unknown {c : Char} (other : c ∉ [':', ';', ',', '\x7b', '\x7d', '[', ']']) : Marks .unknown c

/-- A piece of a text that is a token unless it stands in a comment: as many word characters as there are, or one other
character that is not blank. -/
inductive TokenText : TokenKind → List Char → List Char → List Char → Prop
  | word {before run after : List Char} (filled : run ≠ []) (words : ∀ c ∈ run, isWordChar c)
      (left : ∀ c ∈ before.getLast?, ¬ isWordChar c) (right : ∀ c ∈ after.head?, ¬ isWordChar c) :
      TokenText .word before run after
  | mark {kind : TokenKind} {before after : List Char} {c : Char} (marks : Marks kind c) (noWord : ¬ isWordChar c)
      (noBlank : ¬ Text.isBlank c) : TokenText kind before [c] after

/-- Blanks and comments in front of a text. A comment runs to just before a newline or to the end. -/
inductive Gap : List Char → List Char → Prop
  | nil {rest : List Char} : Gap [] rest
  | blank {c : Char} {gap rest : List Char} (isBlank : Text.isBlank c) (later : Gap gap rest) : Gap (c :: gap) rest
  | comment {body gap rest : List Char} (inside : '\n' ∉ body) (stops : ∀ c ∈ (gap ++ rest).head?, c = '\n')
      (later : Gap gap rest) : Gap ('/' :: '/' :: (body ++ gap)) rest

/-- Tokens that stand in a text one behind the other, each where its position says, with nothing but blanks and comments
around them. The text stands behind `before`. -/
inductive Tiles : List Char → List Char → List Token → Prop
  | last {before gap : List Char} (skipped : Gap gap []) : Tiles before gap []
  | token {before gap after : List Char} {token : Token} {more : List Token}
      (skipped : Gap gap (token.text.toList ++ after)) (filled : token.text ≠ "")
      (start : token.start = placeAfter (before ++ gap))
      (later : Tiles (before ++ (gap ++ token.text.toList)) after more) :
      Tiles before (gap ++ (token.text.toList ++ after)) (token :: more)

theorem Marks.unique {first second : TokenKind} {c : Char} (one : Marks first c) (two : Marks second c) :
    first = second := by
  cases one with
  | unknown other =>
    cases two with
    | unknown => rfl
    | _ => simp at other
  | _ =>
    cases two with
    | unknown other => simp at other
    | _ => rfl

theorem marks_ofChar (c : Char) : Marks (.ofChar c) c := by
  unfold TokenKind.ofChar
  split
  · exact .colon
  · exact .semicolon
  · exact .comma
  · exact .leftBrace
  · exact .rightBrace
  · exact .leftBracket
  · exact .rightBracket
  · next colon semicolon comma leftBrace rightBrace leftBracket rightBracket =>
    refine .unknown ?_
    simp only [List.mem_cons, List.not_mem_nil, or_false, not_or]
    exact ⟨colon, semicolon, comma, leftBrace, rightBrace, leftBracket, rightBracket⟩

theorem TokenText.ne_eof {kind : TokenKind} {before piece after : List Char}
    (text : TokenText kind before piece after) : kind ≠ .eof := by
  cases text with
  | word => simp
  | mark marks => cases marks <;> simp

theorem TokenText.filled {kind : TokenKind} {before piece after : List Char}
    (text : TokenText kind before piece after) : piece ≠ [] := by
  cases text with
  | word filled => exact filled
  | mark => simp

/-- No blank is a word character. -/
theorem not_word_of_blank {c : Char} (blank : Text.isBlank c) : ¬ isWordChar c := by
  intro word
  have value : c.toNat = c.val.toNat := rfl
  simp only [Text.isBlank, Text.within, Text.blankRuns, Text.Run.contains, List.any_cons, List.any_nil,
    Bool.or_eq_true, Bool.and_eq_true, decide_eq_true_eq, Bool.or_false] at blank
  simp only [isWordChar, Char.isAlphanum, Char.isAlpha, Char.isUpper, Char.isLower, Char.isDigit, Bool.or_eq_true,
    Bool.and_eq_true, decide_eq_true_eq, UInt32.le_iff_toNat_le, ge_iff_le, beq_iff_eq] at word
  rcases word with ((⟨low, high⟩ | ⟨low, high⟩) | ⟨low, high⟩) | rfl
  · change 65 ≤ c.val.toNat at low
    change c.val.toNat ≤ 90 at high
    omega
  · change 97 ≤ c.val.toNat at low
    change c.val.toNat ≤ 122 at high
    omega
  · change 48 ≤ c.val.toNat at low
    change c.val.toNat ≤ 57 at high
    omega
  · exact absurd blank (by decide)

/-! ### Parts of a text -/

/-- What the first part of a text can be, and what can follow it. -/
inductive Lexeme.Cuts : Lexeme → List Char → Prop
  | comment {body rest : List Char} (inside : '\n' ∉ body) (stops : ∀ c ∈ rest.head?, c = '\n') :
      Cuts ⟨none, '/' :: '/' :: body⟩ rest
  | blank {blanks rest : List Char} (filled : blanks ≠ []) (blank : ∀ c ∈ blanks, Text.isBlank c) :
      Cuts ⟨none, blanks⟩ rest
  | word {run rest : List Char} (filled : run ≠ []) (words : ∀ c ∈ run, isWordChar c)
      (stops : ∀ c ∈ rest.head?, ¬ isWordChar c) : Cuts ⟨some .word, run⟩ rest
  | mark {kind : TokenKind} {c : Char} {rest : List Char} (marks : Marks kind c) (noWord : ¬ isWordChar c)
      (noBlank : ¬ Text.isBlank c) (single : c = '/' → rest.head? ≠ some '/') : Cuts ⟨some kind, [c]⟩ rest

theorem drop_takeWhile (p : Char → Bool) (c : Char) (rest : List Char) :
    (c :: rest).drop (c :: rest.takeWhile p).length = rest.dropWhile p := by
  have whole : rest = rest.takeWhile p ++ rest.dropWhile p := List.takeWhile_append_dropWhile.symm
  rw [List.length_cons, List.drop_succ_cons]
  nth_rewrite 2 [whole]
  exact List.drop_left

theorem head_dropWhile {p : Char → Bool} {rest : List Char} : ∀ c ∈ (rest.dropWhile p).head?, p c = false := by
  intro c first
  have stops := List.head?_dropWhile_not p rest
  rw [Option.mem_def.mp first] at stops
  simpa using stops

theorem Lexeme.first_cuts (c : Char) (rest : List Char) :
    (first c rest).Cuts ((c :: rest).drop (first c rest).text.length) := by
  unfold first
  split_ifs with comment blank word
  · obtain ⟨rfl, second⟩ : c = '/' ∧ rest.head? = some '/' := by simpa using comment
    obtain ⟨more, rfl⟩ : ∃ more, rest = '/' :: more := by
      cases rest with
      | nil => simp at second
      | cons d more => exact ⟨more, by simpa using second⟩
    rw [drop_takeWhile]
    have taken : ('/' :: more).takeWhile (· != '\n') = '/' :: more.takeWhile (· != '\n') := by simp
    rw [taken]
    refine .comment ?_ ?_
    · intro inside
      have passed := List.mem_takeWhile_imp inside
      simp at passed
    · intro d first
      simpa using head_dropWhile d first
  · refine .blank (by simp) ?_
    intro d member
    rcases List.mem_cons.mp member with rfl | later
    · exact blank
    · exact List.mem_takeWhile_imp later
  · rw [drop_takeWhile]
    refine .word (by simp) ?_ ?_
    · intro d member
      rcases List.mem_cons.mp member with rfl | later
      · exact word
      · exact List.mem_takeWhile_imp later
    · intro d first
      simpa using head_dropWhile d first
  · refine .mark (marks_ofChar c) word blank ?_
    rintro rfl second
    exact comment (by simpa using second)

/-- A text behind `before`, cut into its parts, and its tokens. -/
inductive Scans : List Char → List Char → List Token → Prop
  | nil {before : List Char} : Scans before [] []
  | part {before rest : List Char} {part : Lexeme} {tokens : List Token} (cuts : part.Cuts rest)
      (later : Scans (before ++ part.text) rest tokens) :
      Scans before (part.text ++ rest) ((part.token? (placeAfter before)).toList ++ tokens)

theorem scanFrom_scans (before cs : List Char) : Scans before cs (scanFrom (placeAfter before) cs) := by
  induction size : cs.length using Nat.strong_induction_on generalizing before cs with
  | _ size ih =>
    subst size
    cases cs with
    | nil =>
      rw [scanFrom]
      exact .nil
    | cons c rest =>
      have later := ih _ (Lexeme.length_drop_first c rest) (before ++ (Lexeme.first c rest).text) _ rfl
      have all := Scans.part (Lexeme.first_cuts c rest) later
      rwa [Lexeme.text_append_drop, ← placeAfter_append, ← scanFrom_cons] at all

theorem Lexeme.Cuts.filled {part : Lexeme} {rest : List Char} (cuts : part.Cuts rest) : part.text ≠ [] := by
  cases cuts with
  | comment => simp
  | blank filled => exact filled
  | word filled => exact filled
  | mark => simp

/-! ### Tokens tile the text -/

/-- A piece that lengthens every gap can stand in front of a tiled text. -/
theorem Tiles.skip {before piece rest : List Char} {tokens : List Token}
    (lengthens : ∀ gap after, gap ++ after = rest → Gap gap after → Gap (piece ++ gap) after)
    (tiles : Tiles (before ++ piece) rest tokens) : Tiles before (piece ++ rest) tokens := by
  cases tiles with
  | last skipped => exact .last (lengthens _ [] (by simp) skipped)
  | token skipped filled start later =>
    rw [← List.append_assoc]
    refine .token (lengthens _ _ rfl skipped) filled ?_ ?_
    · rw [start, List.append_assoc]
    · rwa [List.append_assoc] at later ⊢

theorem gap_blanks {blanks gap rest : List Char} (blank : ∀ c ∈ blanks, Text.isBlank c) (later : Gap gap rest) :
    Gap (blanks ++ gap) rest := by
  induction blanks with
  | nil => exact later
  | cons c blanks ih => exact .blank (blank c (by simp)) (ih fun d member => blank d (by simp [member]))

/-- A part that is a token stands in front of what is tiled behind it. -/
theorem Tiles.behind {kind : TokenKind} {before piece rest : List Char} {tokens : List Token} (filled : piece ≠ [])
    (tiles : Tiles (before ++ piece) rest tokens) :
    Tiles before (piece ++ rest) (⟨kind, String.ofList piece, placeAfter before⟩ :: tokens) := by
  have all := @Tiles.token before [] rest ⟨kind, String.ofList piece, placeAfter before⟩ tokens .nil
    (by simpa using filled) (by simp) (by simpa using tiles)
  simpa using all

theorem Scans.tiles {before cs : List Char} {tokens : List Token} (scans : Scans before cs tokens) :
    Tiles before cs tokens := by
  induction scans with
  | nil => exact .last .nil
  | part cuts later ih =>
    cases cuts with
    | comment inside stops =>
      refine ih.skip ?_
      rintro gap after rfl skipped
      exact .comment inside stops skipped
    | blank filled blank => exact ih.skip fun gap after _ skipped => gap_blanks blank skipped
    | word filled => exact ih.behind filled
    | mark => exact ih.behind (by simp)

theorem Tiles.offset_le {before cs : List Char} {tokens : List Token} (tiles : Tiles before cs tokens) :
    ∀ token ∈ tokens, utf8Len before ≤ token.start.offset := by
  induction tiles with
  | last => simp
  | token skipped filled start later ih =>
    intro token member
    rcases List.mem_cons.mp member with rfl | behind
    · rw [start]
      simp [placeAfter, String.utf8Len_append]
    · have further := ih token behind
      simp only [String.utf8Len_append] at further
      omega

theorem Token.stop_of_start {token : Token} {before : List Char} (start : token.start = placeAfter before) :
    token.stop = utf8Len (before ++ token.text.toList) := by
  rw [← after_eq_placeAfter] at start
  rw [Token.stop_eq start, String.utf8Len_append]

/-- Tokens that tile a text are in order and do not overlap. -/
theorem Tiles.ordered {before cs : List Char} {tokens : List Token} (tiles : Tiles before cs tokens) :
    tokens.Pairwise fun first second => first.stop ≤ second.start.offset := by
  induction tiles with
  | last => exact .nil
  | token skipped filled start later ih =>
    refine .cons ?_ ih
    intro token member
    rw [Token.stop_of_start start, List.append_assoc]
    exact later.offset_le token member

/-! ### Which pieces are tokens -/

/-- A pair of slashes at the end of a text, or before it. -/
theorem slashes_concat {line : List Char} {c : Char} :
    ['/', '/'] <:+: line ++ [c] ↔ ['/', '/'] <:+: line ∨ line.getLast? = some '/' ∧ c = '/' := by
  have atEnd : ['/', '/'] <:+ line ++ [c] ↔ line.getLast? = some '/' ∧ c = '/' := by
    induction line using List.reverseRecOn with
    | nil =>
      simp only [List.nil_append, List.getLast?_nil, reduceCtorEq, false_and, iff_false]
      intro impossible
      simpa using impossible.length_le
    | append_singleton line d _ =>
      rw [show ['/', '/'] = ['/'] ++ ['/'] from rfl, ← List.reverse_prefix]
      simp [eq_comm, and_comm]
  rw [List.infix_concat_iff, atEnd, or_comm]

/-- Scanning goes on at a place that is neither inside a word nor inside a comment. -/
structure Fresh (before rest : List Char) : Prop where
  uncommented : ∀ c ∈ rest.head?, c ≠ '\n' → ¬ ['/', '/'] <:+: lastLine before ++ [c]
  apart : ∀ c ∈ before.getLast?, isWordChar c → ∀ d ∈ rest.head?, ¬ isWordChar d

theorem fresh_nil (cs : List Char) : Fresh [] cs := by
  refine ⟨fun c _ _ slashes => ?_, by simp⟩
  simpa [lastLine] using slashes.length_le

/-- A character outside of comments, unless it begins one. -/
theorem Fresh.not_inComment {before rest : List Char} {c : Char} (fresh : Fresh before (c :: rest))
    (sameLine : c ≠ '\n') (single : c = '/' → rest.head? ≠ some '/') : ¬ InComment before (c :: rest) := by
  rintro ⟨_, -, -, slashes⟩
  have clear := fresh.uncommented c (by simp) sameLine
  cases rest with
  | nil => exact clear slashes
  | cons d rest =>
    have line : lastLine before ++ (c :: d :: rest).take 2 = lastLine before ++ [c] ++ [d] := by simp
    rw [line, slashes_concat] at slashes
    rcases slashes with early | ⟨slash, rfl⟩
    · exact clear early
    · rw [List.getLast?_concat] at slash
      exact single (Option.some.inj slash) rfl

/-- No pair of slashes stands on the last line. -/
def Quiet (before : List Char) : Prop := ¬ ['/', '/'] <:+: lastLine before

theorem quiet_concat {before : List Char} {c : Char} (plain : c ≠ '/') (quiet : c = '\n' ∨ Quiet before) :
    Quiet (before ++ [c]) := by
  by_cases newline : c = '\n'
  · rw [newline, Quiet, lastLine_newline]
    simp
  · rw [Quiet, lastLine_concat newline, slashes_concat]
    rintro (early | ⟨-, slash⟩)
    · exact quiet.resolve_left newline early
    · exact plain slash

theorem quiet_append {before cs : List Char} (plain : '/' ∉ cs) (quiet : Quiet before) : Quiet (before ++ cs) := by
  induction cs using List.reverseRecOn with
  | nil => simpa using quiet
  | append_singleton cs c ih =>
    simp only [List.mem_append, List.mem_singleton, not_or] at plain
    rw [← List.append_assoc]
    exact quiet_concat (Ne.symm plain.2) (.inr (ih plain.1))

theorem getLast?_lastLine {before : List Char} {c : Char} (last : (lastLine before).getLast? = some c) :
    before.getLast? = some c := by
  obtain ⟨front, whole⟩ := List.rtakeWhile_suffix (· != '\n') before
  rw [← whole, List.getLast?_append]
  simp only [lastLine] at last
  simp [last]

/-- Behind characters that are no slashes no comment goes on. -/
theorem Fresh.plain {before cs rest : List Char} (fresh : Fresh before (cs ++ rest)) (filled : cs ≠ [])
    (plain : '/' ∉ cs) : ∀ c ∈ rest.head?, c ≠ '\n' → ¬ ['/', '/'] <:+: lastLine (before ++ cs) ++ [c] := by
  obtain ⟨first, more, rfl⟩ := List.exists_cons_of_ne_nil filled
  have quiet : Quiet (before ++ (first :: more)) := by
    simp only [List.mem_cons, not_or] at plain
    have start : Quiet (before ++ [first]) := by
      refine quiet_concat (Ne.symm plain.1) ?_
      by_cases newline : first = '\n'
      · exact .inl newline
      · refine .inr fun slashes => fresh.uncommented first (by simp) newline ?_
        exact slashes_concat.mpr (.inl slashes)
    rw [← List.singleton_append, ← List.append_assoc]
    exact quiet_append plain.2 start
  intro c _ _ slashes
  rcases slashes_concat.mp slashes with early | ⟨slash, -⟩
  · exact quiet early
  · have last := getLast?_lastLine slash
    rw [List.getLast?_append_of_ne_nil _ (by simp)] at last
    exact plain (List.mem_of_getLast? last)

theorem Fresh.step {before rest : List Char} {part : Lexeme} (fresh : Fresh before (part.text ++ rest))
    (cuts : part.Cuts rest) : Fresh (before ++ part.text) rest := by
  have last : ∀ c ∈ (before ++ part.text).getLast?, c ∈ part.text := by
    intro c isLast
    rw [List.getLast?_append_of_ne_nil _ cuts.filled] at isLast
    exact List.mem_of_getLast? isLast
  cases cuts with
  | comment inside stops =>
    refine ⟨fun c first otherLine => absurd (stops c first) otherLine, ?_⟩
    intro _ _ _ d first
    rw [stops d first]
    decide
  | @blank blanks _ filled blank =>
    refine ⟨fresh.plain filled ?_, ?_⟩
    · intro slash
      exact absurd (blank '/' slash) (by decide)
    · intro c isLast word
      exact absurd word (not_word_of_blank (blank c (last c isLast)))
  | word filled words stops =>
    refine ⟨fresh.plain filled ?_, fun _ _ _ => stops⟩
    intro slash
    exact absurd (words '/' slash) (by decide)
  | @mark kind c _ marks noWord noBlank single =>
    refine ⟨?_, ?_⟩
    · intro d first otherLine slashes
      have sameLine : c ≠ '\n' := by
        rintro rfl
        exact noBlank (by decide)
      rw [lastLine_concat sameLine, slashes_concat] at slashes
      rcases slashes with early | ⟨slash, rfl⟩
      · exact fresh.uncommented c (by simp) sameLine early
      · rw [List.getLast?_concat] at slash
        exact single (Option.some.inj slash) first
    · intro d isLast word
      obtain rfl : d = c := by simpa using last d isLast
      exact absurd word noWord

/-- Everything in a comment that was skipped stands in a comment. -/
theorem inComment_of_body {before mid seg rest : List Char} {body : List Char} (inside : '\n' ∉ body)
    (split : '/' :: '/' :: body = mid ++ seg) (filled : seg ≠ []) : InComment (before ++ mid) (seg ++ rest) := by
  have sameLine : '\n' ∉ mid ++ seg := by
    rw [← split]
    simpa using inside
  simp only [List.mem_append, not_or] at sameLine
  obtain ⟨c, more, rfl⟩ := List.exists_cons_of_ne_nil filled
  refine ⟨c, by simp, ?_, ?_⟩
  · rintro rfl
    exact sameLine.2 (by simp)
  · rw [lastLine_append sameLine.1, List.append_assoc]
    have begins : ['/', '/'] <+: mid ++ (c :: more ++ rest).take 2 := by
      have whole : mid ++ (c :: more ++ rest) = ['/', '/'] ++ (body ++ rest) := by
        rw [← List.append_assoc, ← split]
        simp
      have cut : mid ++ (c :: more ++ rest).take 2 = (['/', '/'] ++ (body ++ rest)).take (mid.length + 2) := by
        rw [← whole, List.take_length_add_append]
      rw [cut, List.take_append, List.take_of_length_le (by simp)]
      exact List.prefix_append ..
    exact begins.isInfix.trans (List.suffix_append ..).isInfix

/-- What starts inside a part is a token only if it is that part: the tokens behind start further on. -/
theorem Scans.mem_part_iff {before mid seg rest : List Char} {part : Lexeme} {tokens : List Token} {kind : TokenKind}
    {text : String} (later : Scans (before ++ part.text) rest tokens) (split : part.text = mid ++ seg)
    (filled : seg ≠ []) :
    ⟨kind, text, placeAfter (before ++ mid)⟩ ∈ (part.token? (placeAfter before)).toList ++ tokens ↔
      mid = [] ∧ part.kind = some kind ∧ String.ofList part.text = text := by
  have further : ⟨kind, text, placeAfter (before ++ mid)⟩ ∉ tokens := by
    intro member
    have offset := later.tiles.offset_le _ member
    have size := utf8Len_pos filled
    rw [split] at offset
    simp only [placeAfter, String.utf8Len_append] at offset
    omega
  rw [List.mem_append, or_iff_left further, Option.mem_toList, Lexeme.token?]
  constructor
  · intro own
    obtain ⟨found, isKind, same⟩ := Option.map_eq_some_iff.mp own
    obtain ⟨rfl, rfl, start⟩ := Token.mk.inj same
    refine ⟨?_, isKind, rfl⟩
    by_contra inside
    exact placeAfter_ne inside start
  · rintro ⟨rfl, isKind, rfl⟩
    simp [isKind]

/-- Of two runs of word characters at one place that cannot be made longer, each is the other. -/
theorem maximal_run_unique {first second behind further : List Char} (same : first ++ behind = second ++ further)
    (words : ∀ c ∈ first, isWordChar c) (stops : ∀ c ∈ behind.head?, ¬ isWordChar c)
    (words' : ∀ c ∈ second, isWordChar c) (stops' : ∀ c ∈ further.head?, ¬ isWordChar c) : first = second := by
  have shortest : ∀ {run rest : List Char}, (∀ c ∈ run, isWordChar c) → (∀ c ∈ rest.head?, ¬ isWordChar c) →
      (run ++ rest).takeWhile isWordChar = run := by
    intro run rest words stops
    rw [List.takeWhile_append_of_pos words]
    cases rest with
    | nil => simp
    | cons c rest => simp [stops c (by simp)]
  rw [← shortest words stops, same, shortest words' stops']

theorem TokenText.blank_free {kind : TokenKind} {before piece after : List Char}
    (text : TokenText kind before piece after) : ∀ c ∈ piece, ¬ Text.isBlank c := by
  intro c member blank
  cases text with
  | word filled words => exact not_word_of_blank blank (words c member)
  | mark marks noWord noBlank =>
    rw [List.mem_singleton.mp member] at blank
    exact noBlank blank

/-- In a part that is skipped every token would stand in a comment. -/
theorem Lexeme.Cuts.commented {kind : TokenKind} {before mid seg skipped piece after rest : List Char}
    (cuts : Cuts ⟨none, skipped⟩ rest) (split : skipped = mid ++ seg) (same : piece ++ after = seg ++ rest)
    (filled : seg ≠ []) (text : TokenText kind (before ++ mid) piece after) :
    InComment (before ++ mid) (piece ++ after) := by
  cases cuts with
  | comment inside stops =>
    rw [same]
    exact inComment_of_body inside split filled
  | blank _ blank =>
    obtain ⟨c, more, rfl⟩ := List.exists_cons_of_ne_nil filled
    obtain ⟨d, others, rfl⟩ := List.exists_cons_of_ne_nil text.filled
    obtain rfl : d = c := (List.cons.inj same).1
    exact absurd (blank d (by simp [split])) (text.blank_free d (by simp))

/-- In a part that is a token there is no other one. -/
theorem Lexeme.Cuts.whole {kind found : TokenKind} {before mid seg run piece after rest : List Char}
    (cuts : Cuts ⟨some found, run⟩ rest) (split : run = mid ++ seg) (same : piece ++ after = seg ++ rest)
    (filled : seg ≠ []) (text : TokenText kind (before ++ mid) piece after) :
    mid = [] ∧ found = kind ∧ run = piece := by
  obtain ⟨c, more, rfl⟩ := List.exists_cons_of_ne_nil filled
  cases cuts with
  | word _ words stops =>
    have word : isWordChar c := words c (by simp [split])
    cases text with
    | mark marks noWord => exact absurd ((List.cons.inj same).1 ▸ word) noWord
    | word _ pieceWords left right =>
      have whole : mid = [] := by
        by_contra inside
        obtain ⟨front, last, rfl⟩ := (List.eq_nil_or_concat mid).resolve_left inside
        exact left last (by simp) (words last (by simp [split]))
      subst whole split
      exact ⟨rfl, rfl, (maximal_run_unique same pieceWords right words stops).symm⟩
  | mark marks noWord =>
    obtain ⟨rfl, rfl, rfl⟩ : mid = [] ∧ more = [] ∧ c = _ := by
      have sizes := congrArg List.length split
      simp only [List.length_append, List.length_cons, List.length_nil] at sizes
      obtain rfl := List.eq_nil_of_length_eq_zero (l := mid) (by omega)
      obtain rfl := List.eq_nil_of_length_eq_zero (l := more) (by omega)
      exact ⟨rfl, rfl, (List.cons.inj split).1.symm⟩
    cases text with
    | word pieceFilled words =>
      obtain ⟨d, others, rfl⟩ := List.exists_cons_of_ne_nil pieceFilled
      exact absurd (words d (by simp)) ((List.cons.inj same).1 ▸ noWord)
    | mark pieceMarks =>
      obtain ⟨rfl, -⟩ := List.cons.inj same
      exact ⟨rfl, marks.unique pieceMarks, rfl⟩

/-- A part that is a token is one for what stands next to it, and stands in no comment. -/
theorem Fresh.tokenText {kind : TokenKind} {before run rest : List Char} (fresh : Fresh before (run ++ rest))
    (cuts : Lexeme.Cuts ⟨some kind, run⟩ rest) :
    TokenText kind before run rest ∧ ¬ InComment before (run ++ rest) := by
  cases cuts with
  | word filled words stops =>
    obtain ⟨c, more, rfl⟩ := List.exists_cons_of_ne_nil filled
    have word : isWordChar c := words c (by simp)
    refine ⟨.word filled words ?_ stops, ?_⟩
    · intro last isLast wordBefore
      exact fresh.apart last isLast wordBefore c (by simp) word
    · apply fresh.not_inComment
      · rintro rfl
        exact absurd word (by decide)
      · rintro rfl
        exact absurd word (by decide)
  | mark marks noWord noBlank single =>
    refine ⟨.mark marks noWord noBlank, fresh.not_inComment ?_ single⟩
    rintro rfl
    exact noBlank (by decide)

/-- The tokens of a text are the pieces that are words or marks for what stands next to them, comments apart. -/
theorem Scans.mem_iff {before cs : List Char} {tokens : List Token} (scans : Scans before cs tokens)
    (fresh : Fresh before cs) {kind : TokenKind} {mid piece after : List Char} (split : cs = mid ++ (piece ++ after)) :
    ⟨kind, String.ofList piece, placeAfter (before ++ mid)⟩ ∈ tokens ↔
      TokenText kind (before ++ mid) piece after ∧ ¬ InComment (before ++ mid) (piece ++ after) := by
  -- By induction on the parts. A piece that starts behind the first part is settled by the parts behind.
  induction scans generalizing mid with
  | nil =>
    obtain ⟨-, empty, -⟩ : mid = [] ∧ piece = [] ∧ after = [] := by simpa using split
    simp only [List.not_mem_nil, false_iff, not_and]
    intro text
    exact absurd empty text.filled
  | @part before rest part tokens cuts later ih =>
    obtain ⟨back, rfl, behind⟩ | ⟨seg, inside, same, filled⟩ :
        (∃ back, mid = part.text ++ back ∧ rest = back ++ (piece ++ after)) ∨
          ∃ seg, part.text = mid ++ seg ∧ piece ++ after = seg ++ rest ∧ seg ≠ [] := by
      rcases List.append_eq_append_iff.mp split with ⟨back, isMid, isRest⟩ | ⟨seg, isPart, isPiece⟩
      · exact .inl ⟨back, isMid, isRest⟩
      · by_cases empty : seg = []
        · subst empty
          exact .inl ⟨[], by simpa using isPart.symm, by simpa using isPiece.symm⟩
        · exact .inr ⟨seg, isPart, isPiece, empty⟩
    · rw [← List.append_assoc, ← ih (fresh.step cuts) behind, List.mem_append, or_iff_right]
      rw [Option.mem_toList, Lexeme.token?]
      intro own
      obtain ⟨found, -, same⟩ := Option.map_eq_some_iff.mp own
      obtain ⟨-, -, start⟩ := Token.mk.inj same
      rw [List.append_assoc] at start
      exact placeAfter_ne (by simp [cuts.filled]) start
    · rw [later.mem_part_iff inside filled]
      obtain ⟨_ | found, run⟩ := part
      · simp only [reduceCtorEq, false_and, and_false, false_iff, not_and, not_not]
        exact cuts.commented inside same filled
      · constructor
        · rintro ⟨rfl, isKind, isText⟩
          obtain rfl := Option.some.inj isKind
          obtain rfl : run = piece := String.ofList_injective isText
          obtain rfl : seg = run := inside.symm
          obtain rfl : after = rest := List.append_cancel_left same
          rw [List.append_nil]
          exact fresh.tokenText cuts
        · rintro ⟨text, -⟩
          obtain ⟨isMid, rfl, rfl⟩ := cuts.whole inside same filled text
          exact ⟨isMid, rfl, rfl⟩

/-! ### The tokens of a text -/

/-- Every token of a tiled text stands where its position says. -/
theorem Tiles.stands {before cs : List Char} {tokens : List Token} (tiles : Tiles before cs tokens) :
    ∀ token ∈ tokens, token.text ≠ "" ∧
      ∃ mid after, cs = mid ++ (token.text.toList ++ after) ∧ token.start = placeAfter (before ++ mid) := by
  induction tiles with
  | last => simp
  | @token before gap after first more skipped filled start later ih =>
    intro token member
    rcases List.mem_cons.mp member with rfl | behind
    · exact ⟨filled, gap, after, rfl, start⟩
    · obtain ⟨filled, mid, back, rfl, start⟩ := ih token behind
      refine ⟨filled, gap ++ first.text.toList ++ mid, back, by simp, ?_⟩
      rw [start]
      simp

/-- Tokens that are exactly those of a text. -/
structure TokensOf (text : String) (tokens : List Token) : Prop where
  /-- Each one is what the text holds at its place, and what it is there is a word or a mark of its kind. -/
  stands : ∀ token ∈ tokens, token.text ≠ "" ∧ Text.slice? text token.start.offset token.stop = some token.text ∧
    ∃ before after, text.toList = before ++ (token.text.toList ++ after) ∧ token.start = placeAfter before ∧
      TokenText token.kind before token.text.toList after
  /-- They are in order and do not overlap. -/
  ordered : tokens.Pairwise fun first second => first.stop ≤ second.start.offset
  /-- Around them there are only blanks and comments, and their positions are places in the text. -/
  tiles : Tiles [] text.toList tokens
  /-- A piece of the text is one of them, of a kind, exactly if it is a word or a mark of that kind outside comments. -/
  exactly : ∀ kind before piece after, text.toList = before ++ (piece ++ after) →
    (⟨kind, String.ofList piece, placeAfter before⟩ ∈ tokens ↔
      TokenText kind before piece after ∧ ¬ InComment before (piece ++ after))
  /-- A slash in front of a slash is none of them. -/
  single : ∀ token ∈ tokens, ∀ before after, text.toList = before ++ '/' :: '/' :: after →
    token.text = "/" → token.start ≠ placeAfter before
  /-- None of them is the end. -/
  endless : ∀ token ∈ tokens, token.kind ≠ .eof

theorem tokensOf_scan (text : String) : TokensOf text (scan text) := by
  have scans : Scans [] text.toList (scan text) := scanFrom_scans [] text.toList
  have exactly : ∀ kind before piece after, text.toList = before ++ (piece ++ after) →
      (⟨kind, String.ofList piece, placeAfter before⟩ ∈ scan text ↔
        TokenText kind before piece after ∧ ¬ InComment before (piece ++ after)) :=
    fun kind before piece after split => scans.mem_iff (fresh_nil _) split
  have placed : ∀ token ∈ scan text, token.text ≠ "" ∧ ∃ before after,
      text.toList = before ++ (token.text.toList ++ after) ∧ token.start = placeAfter before ∧
        TokenText token.kind before token.text.toList after := by
    rintro ⟨kind, piece, start⟩ member
    obtain ⟨filled, before, after, split, rfl⟩ := scans.tiles.stands _ member
    refine ⟨filled, before, after, split, rfl, ?_⟩
    rw [← String.ofList_toList (s := piece)] at member
    exact ((exactly kind before piece.toList after split).mp member).1
  refine ⟨?_, scans.tiles.ordered, scans.tiles, exactly, ?_, ?_⟩
  · intro token member
    obtain ⟨filled, before, after, split, start, isText⟩ := placed token member
    refine ⟨filled, ?_, before, after, split, start, isText⟩
    rw [Token.stop_of_start start, start, String.utf8Len_append, placeAfter, Text.slice?_eq split,
      String.ofList_toList]
  · rintro ⟨kind, _, _⟩ member before after split rfl rfl
    obtain ⟨-, outside⟩ := (exactly kind before ['/'] ('/' :: after) split).mp member
    refine outside ⟨'/', rfl, by decide, ?_⟩
    exact (List.suffix_append ..).isInfix
  · intro token member
    obtain ⟨-, before, after, -, -, isText⟩ := placed token member
    exact isText.ne_eof

/-- Tokenizing a text gives exactly its tokens, which tile it, and one end behind it. -/
theorem tokenize_tiles (text : String) :
    ∃ tokens, tokenize text = tokens ++ [⟨.eof, "", placeAfter text.toList⟩] ∧
      (placeAfter text.toList).offset = text.utf8ByteSize ∧ TokensOf text tokens := by
  refine ⟨scan text, ?_, ?_, tokensOf_scan text⟩
  · rw [tokenize, endToken, after_eq_placeAfter]
  · rw [placeAfter, ← String.utf8ByteSize_ofList, String.ofList_toList]

end TableWire.Schema
