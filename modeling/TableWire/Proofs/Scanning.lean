import Mathlib
import TableWire.Schema.Reader

/-!
Tokens and the text they come from. A token stands in the text where its position says, and scanning goes on right
behind it (`tokenAt_of_scanFrom`), so that tokens which follow each other have a source (`exists_source`). When text is
appended, only the last token can change, and a closing brace never does (`scan_grows`).
-/
namespace TableWire

/-! ### Bytes of a text -/

namespace Text
open String (utf8Len)

theorem dropBytes?_cons (c : Char) (cs : List Char) (count : Nat) :
    dropBytes? (c :: cs) (count + c.utf8Size) = dropBytes? cs count := by
  obtain ⟨size, same⟩ := Nat.exists_eq_succ_of_ne_zero (Nat.pos_iff_ne_zero.mp c.utf8Size_pos)
  rw [same, Nat.add_succ, dropBytes?, if_pos (by omega), same]
  congr 1
  omega

theorem takeBytes?_cons (c : Char) (cs : List Char) (count : Nat) :
    takeBytes? (c :: cs) (count + c.utf8Size) = (takeBytes? cs count).map (c :: ·) := by
  obtain ⟨size, same⟩ := Nat.exists_eq_succ_of_ne_zero (Nat.pos_iff_ne_zero.mp c.utf8Size_pos)
  rw [same, Nat.add_succ, takeBytes?, if_pos (by omega), same]
  congr 2
  omega

theorem dropBytes?_append (front back : List Char) : dropBytes? (front ++ back) (utf8Len front) = some back := by
  induction front with
  | nil => cases back <;> rfl
  | cons c front ih => rw [List.cons_append, String.utf8Len_cons, dropBytes?_cons, ih]

theorem takeBytes?_append (front back : List Char) : takeBytes? (front ++ back) (utf8Len front) = some front := by
  induction front with
  | nil => cases back <;> rfl
  | cons c front ih => rw [List.cons_append, String.utf8Len_cons, takeBytes?_cons, ih, Option.map_some]

/-- A piece of a text between two places. -/
theorem slice?_eq {text : String} {before source after : List Char}
    (split : text.toList = before ++ (source ++ after)) :
    slice? text (utf8Len before) (utf8Len before + utf8Len source) = some (String.ofList source) := by
  rw [slice?, if_pos (Nat.le_add_right ..), split, dropBytes?_append, Option.bind_some, Nat.add_sub_cancel_left,
    takeBytes?_append, Option.map_some]

end Text

namespace Schema
open String (utf8Len)

namespace Position

theorem after_append (position : Position) (front back : List Char) :
    position.after (front ++ back) = (position.after front).after back := List.foldl_append

theorem offset_after (position : Position) (cs : List Char) :
    (position.after cs).offset = position.offset + utf8Len cs := by
  induction cs generalizing position with
  | nil => rfl
  | cons c cs ih =>
    have step : (position.next c).offset = position.offset + c.utf8Size := by
      unfold next
      split <;> rfl
    rw [after, List.foldl_cons, ← after, ih, step, String.utf8Len_cons]
    omega

end Position

/-! ### Scanning -/

namespace Lexeme

/-- The token that a part of the source is, if it is one. -/
def token? (part : Lexeme) (start : Position) : Option Token := part.kind.map (⟨·, String.ofList part.text, start⟩)

theorem text_append_drop (c : Char) (rest : List Char) :
    (first c rest).text ++ (c :: rest).drop (first c rest).text.length = c :: rest := by
  have front : (first c rest).text <+: c :: rest := by
    unfold first
    split
    · exact List.cons_prefix_cons.mpr ⟨rfl, List.takeWhile_prefix _⟩
    · split
      · exact List.cons_prefix_cons.mpr ⟨rfl, List.takeWhile_prefix _⟩
      · split
        · exact List.cons_prefix_cons.mpr ⟨rfl, List.takeWhile_prefix _⟩
        · exact List.cons_prefix_cons.mpr ⟨rfl, List.nil_prefix⟩
  obtain ⟨back, same⟩ := front
  conv_rhs => rw [← same]
  rw [← same, List.drop_left]

theorem length_drop_first (c : Char) (rest : List Char) :
    ((c :: rest).drop (first c rest).text.length).length < (c :: rest).length := by
  have := length_first_pos c rest
  rw [List.length_drop, List.length_cons]
  omega

end Lexeme

theorem scanFrom_cons (position : Position) (c : Char) (rest : List Char) :
    scanFrom position (c :: rest) = ((Lexeme.first c rest).token? position).toList ++
      scanFrom (position.after (Lexeme.first c rest).text) ((c :: rest).drop (Lexeme.first c rest).text.length) := by
  rw [scanFrom]
  cases kind : (Lexeme.first c rest).kind with
  | none => simp [Lexeme.token?, kind]
  | some kind => simp [Lexeme.token?, *]

/-- A token of a text that starts at a position stands where its own position says, and the tokens behind it are
those of the text behind it. -/
def TokenAt (position : Position) (cs : List Char) (token : Token) (back : List Token) : Prop :=
  ∃ before after, cs = before ++ (token.text.toList ++ after) ∧ token.start = position.after before ∧
    scanFrom (position.after (before ++ token.text.toList)) after = back

theorem TokenAt.behind {position : Position} {part cs : List Char} {token : Token} {back : List Token}
    (stands : TokenAt (position.after part) cs token back) : TokenAt position (part ++ cs) token back := by
  obtain ⟨before, after, rfl, start, more⟩ := stands
  refine ⟨part ++ before, after, (List.append_assoc ..).symm, ?_, ?_⟩
  · rw [start, Position.after_append]
  · rw [List.append_assoc, Position.after_append, more]

theorem tokenAt_of_scanFrom {position : Position} {cs : List Char} {front back : List Token} {token : Token}
    (scanned : scanFrom position cs = front ++ token :: back) : TokenAt position cs token back := by
  induction size : cs.length using Nat.strong_induction_on generalizing position cs front with
  | _ size ih =>
    subst size
    cases cs with
    | nil => simp [scanFrom] at scanned
    | cons c rest =>
      have shorter := Lexeme.length_drop_first c rest
      rw [scanFrom_cons, Lexeme.token?] at scanned
      rw [← Lexeme.text_append_drop c rest]
      cases kind : (Lexeme.first c rest).kind with
      | none =>
        rw [kind, Option.map_none, Option.toList_none, List.nil_append] at scanned
        exact (ih _ shorter scanned rfl).behind
      | some found =>
        rw [kind, Option.map_some, Option.toList_some, List.singleton_append] at scanned
        cases front with
        | nil =>
          obtain ⟨rfl, rfl⟩ := List.cons.inj scanned
          refine ⟨[], (c :: rest).drop (Lexeme.first c rest).text.length, ?_, rfl, ?_⟩
          · rw [List.nil_append, String.toList_ofList]
          · rw [List.nil_append, String.toList_ofList]
        | cons first front => exact (ih _ shorter (List.cons.inj scanned).2 rfl).behind

/-! ### Sources -/

theorem Token.stop_eq {token : Token} {before : List Char} (start : token.start = Position.start.after before) :
    token.stop = utf8Len before + utf8Len token.text.toList := by
  have size : token.text.utf8ByteSize = utf8Len token.text.toList := by
    rw [← String.utf8ByteSize_ofList, String.ofList_toList]
  rw [stop, start, Position.offset_after, size]
  exact congrArg (· + _) (Nat.zero_add _)

/-- Tokens that follow each other have a source, from the first of them to the end of the last. It is also their
source in every text that goes on differently behind them. -/
theorem exists_source {text : String} {front entry back : List Token}
    (scanned : scan text = front ++ (entry ++ back)) (filled : entry ≠ []) :
    ∃ before source after, text.toList = before ++ (source ++ after) ∧
      ∀ (other : String) later, other.toList = before ++ (source ++ later) →
        sourceOf? other entry = some (String.ofList source) := by
  obtain ⟨first, more, rfl⟩ := List.exists_cons_of_ne_nil filled
  obtain ⟨before, after, split, start, behind⟩ := tokenAt_of_scanFrom scanned
  have offset : first.start.offset = utf8Len before := by
    rw [start, Position.offset_after]
    exact Nat.zero_add _
  rcases List.eq_nil_or_concat more with rfl | ⟨middle, last, rfl⟩
  · refine ⟨before, first.text.toList, after, split, fun other later goesOn => ?_⟩
    have cut := Text.slice?_eq goesOn
    rw [← Token.stop_eq start, ← offset] at cut
    exact cut
  · rw [List.concat_eq_append] at behind
    have scannedLast : scanFrom (Position.start.after (before ++ first.text.toList)) after =
        middle ++ last :: back := by
      simpa using behind
    obtain ⟨between, rest, rfl, lastStart, -⟩ := tokenAt_of_scanFrom scannedLast
    rw [← Position.after_append] at lastStart
    refine ⟨before, first.text.toList ++ (between ++ last.text.toList), rest, by simpa using split,
      fun other later goesOn => ?_⟩
    have cut := Text.slice?_eq goesOn
    have stop : last.stop = utf8Len before + utf8Len (first.text.toList ++ (between ++ last.text.toList)) := by
      rw [Token.stop_eq lastStart]
      simp only [String.utf8Len_append]
      omega
    rw [← stop, ← offset] at cut
    rw [sourceOf?, List.concat_eq_append, List.head?_cons, ← List.cons_append, List.getLast?_concat]
    exact cut

/-! ### Appended text -/

/-- Tokens of a text and tokens of the text with more behind it: the last token may become another one, unless it is a
closing brace. -/
inductive Grows : List Token → List Token → Prop
  | nil {new : List Token} : Grows [] new
  | last {token : Token} {new : List Token} (unclosed : token.kind ≠ .rightBrace) : Grows [token] new
  | cons {token : Token} {old new : List Token} (later : Grows old new) : Grows (token :: old) (token :: new)

/-- What ends at a closing brace stays the same. -/
theorem Grows.drop {closing : Token} (closed : closing.kind = .rightBrace) {front rest new : List Token}
    (grows : Grows (front ++ closing :: rest) new) :
    ∃ later, new = front ++ closing :: later ∧ Grows rest later := by
  induction front generalizing new with
  | nil =>
    cases grows with
    | last unclosed => exact absurd closed unclosed
    | cons later => exact ⟨_, rfl, later⟩
  | cons token front ih =>
    rw [List.cons_append] at grows
    generalize same : front ++ closing :: rest = more at grows
    cases grows with
    | last unclosed => simp at same
    | cons later =>
      obtain ⟨tail, rfl, grown⟩ := ih (same ▸ later)
      exact ⟨tail, rfl, grown⟩

namespace Lexeme

theorem ofChar_eq_rightBrace {c : Char} (brace : TokenKind.ofChar c = .rightBrace) : c = '\x7d' := by
  unfold TokenKind.ofChar at brace
  split at brace <;> simp_all

/-- A part that ends before the text does is not changed by more text. -/
theorem first_append {c : Char} {rest : List Char} (inside : (first c rest).text.length < (c :: rest).length)
    (more : List Char) : first c (rest ++ more) = first c rest := by
  have head : (rest ++ more).head? = rest.head? := by
    have := length_first_pos c rest
    cases rest with
    | nil =>
      rw [List.length_singleton] at inside
      omega
    | cons d rest => rfl
  have stays : ∀ p : Char → Bool, (c :: rest.takeWhile p).length < (c :: rest).length →
      (rest ++ more).takeWhile p = rest.takeWhile p := by
    intro p stops
    rw [List.length_cons, List.length_cons] at stops
    rw [List.takeWhile_append, if_neg (by omega)]
  unfold first at inside ⊢
  rw [head]
  split_ifs at inside ⊢
  · rw [stays _ inside]
  · rw [stays _ inside]
  · rw [stays _ inside]
  · rfl

/-- A closing brace is a token whatever follows it. -/
theorem first_of_brace {c : Char} {rest : List Char} (brace : (first c rest).kind = some .rightBrace)
    (other : List Char) : first c other = first c rest := by
  have isBrace : c = '\x7d' := by
    unfold first at brace
    split_ifs at brace
    · simp at brace
    · exact ofChar_eq_rightBrace (Option.some.inj brace)
  subst isBrace
  rfl

end Lexeme

theorem Grows.behind (token? : Option Token) {old new : List Token} (later : Grows old new) :
    Grows (token?.toList ++ old) (token?.toList ++ new) := by
  cases token? with
  | none => exact later
  | some token => exact later.cons

theorem scanFrom_grows (position : Position) (cs more : List Char) :
    Grows (scanFrom position cs) (scanFrom position (cs ++ more)) := by
  induction size : cs.length using Nat.strong_induction_on generalizing position cs with
  | _ size ih =>
    subst size
    cases cs with
    | nil =>
      rw [scanFrom]
      exact .nil
    | cons c rest =>
      rw [List.cons_append, scanFrom_cons, scanFrom_cons]
      by_cases inside : (Lexeme.first c rest).text.length < (c :: rest).length
      · rw [Lexeme.first_append inside, ← List.cons_append, List.drop_append_of_le_length inside.le]
        exact (ih _ (Lexeme.length_drop_first c rest) _ _ rfl).behind _
      · -- The part reaches the end of the text, so that its token is the last one.
        rw [List.drop_eq_nil_of_le (not_lt.mp inside), scanFrom]
        cases kind : (Lexeme.first c rest).kind with
        | none =>
          rw [Lexeme.token?, kind]
          exact .nil
        | some found =>
          by_cases brace : found = .rightBrace
          · subst brace
            rw [Lexeme.first_of_brace kind (rest ++ more)]
            exact Grows.nil.behind _
          · rw [Lexeme.token?, kind]
            exact .last brace

theorem scan_grows (text more : String) : Grows (scan text) (scan (text ++ more)) := by
  rw [scan, scan, String.toList_append]
  exact scanFrom_grows ..

end Schema
end TableWire
