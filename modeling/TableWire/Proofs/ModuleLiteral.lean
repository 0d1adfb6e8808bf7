import Mathlib
import TableWire.Emit.Emitter

/-!
The module that generated TypeScript imports from. A string literal in single quotes is read piece by piece, and a piece
is an escape or a character that stands for itself (`piece?`). The value of a literal is a sequence of UTF-16 code units
(`IsLiteral`). The literal of a module is made for double quotes, which are then replaced, so that a path with a single
quote has no literal, and one with a double quote has that of another path (`isLiteral_moduleLiteral`).
-/
namespace TableWire.Emit.TypeScript

/-! ### String literals -/

/-- The UTF-16 code units of a code point. -/
def codeUnits (code : Nat) : List Nat :=
  if code < 0x10000 then [code] else [0xd800 + (code - 0x10000) / 0x400, 0xdc00 + (code - 0x10000) % 0x400]

def textUnits (cs : List Char) : List Nat := cs.flatMap (codeUnits ·.toNat)

def hexDigit? (c : Char) : Option Nat :=
  if c.isDigit then some (c.toNat - 0x30)
  else if 'a' ≤ c ∧ c ≤ 'f' then some (c.toNat - 0x61 + 10)
  else if 'A' ≤ c ∧ c ≤ 'F' then some (c.toNat - 0x41 + 10)
  else none

def hexNumber? (digits : List Char) : Option Nat :=
  digits.foldlM (fun number c => (hexDigit? c).map (16 * number + ·)) 0

/-- A code unit by a fixed number of digits. -/
def fixedEscape? (count : Nat) (cs : List Char) : Option (List Nat × List Char) :=
  if count ≤ cs.length then (hexNumber? (cs.take count)).map fun unit => ([unit], cs.drop count) else none

/-- A code point by digits up to a closing brace. -/
def bracedEscape? (cs : List Char) : Option (List Nat × List Char) :=
  let digits := cs.takeWhile (· ≠ '\x7d')
  if digits = [] ∨ digits.length = cs.length then none
  else
    (hexNumber? digits).bind fun code =>
      if code ≤ 0x10ffff then some (codeUnits code, cs.drop (digits.length + 1)) else none

/-- Letters that stand for a control character behind a backslash. -/
def letterEscapes : List (Char × Nat) := [('b', 8), ('t', 9), ('n', 10), ('v', 11), ('f', 12), ('r', 13)]

/-- Characters that end a line. Behind a backslash they stand for nothing. -/
def lineEnds : List Char := ['\n', '\r', Char.ofNat 0x2028, Char.ofNat 0x2029]

/-- What stands behind a backslash: its value, and the rest. -/
def escape? : List Char → Option (List Nat × List Char)
  | [] => none
  | c :: rest =>
    if c = 'x' then fixedEscape? 2 rest
    else if c = 'u' then if rest.head? = some '\x7b' then bracedEscape? rest.tail else fixedEscape? 4 rest
    else if c = '0' ∧ ¬ rest.head?.any Char.isDigit then some ([0], rest)
    else if c.isDigit then none
    else if c = '\r' ∧ rest.head? = some '\n' then some ([], rest.tail)
    else if c ∈ lineEnds then some ([], rest)
    else
      match letterEscapes.lookup c with
      | some unit => some ([unit], rest)
      | none => some (codeUnits c.toNat, rest)

/-- The first piece between single quotes: its value, and the rest. -/
def piece? : List Char → Option (List Nat × List Char)
  | [] => none
  | c :: rest =>
    if c = '\\' then escape? rest
    else if c = '\'' ∨ c = '\n' ∨ c = '\r' then none
    else some (codeUnits c.toNat, rest)

/-- Pieces one behind the other, and their value. -/
inductive Pieces : List Char → List Nat → Prop
  | nil : Pieces [] []
  | cons {cs rest : List Char} {units more : List Nat} (first : piece? cs = some (units, rest))
      (later : Pieces rest more) : Pieces cs (units ++ more)

/-- A text that is one string literal in single quotes, with a value. -/
def IsLiteral (text : String) (units : List Nat) : Prop :=
  ∃ content, text.toList = '\'' :: (content ++ ['\'']) ∧ Pieces content units

theorem pieces_nil_iff {units : List Nat} : Pieces [] units ↔ units = [] := by
  constructor
  · intro pieces
    cases pieces with
    | nil => rfl
    | cons first later => simp [piece?] at first
  · rintro rfl
    exact .nil

/-- What is read as a piece can be read in no other way. -/
theorem pieces_iff {cs rest : List Char} {units all : List Nat} (first : piece? cs = some (units, rest)) :
    Pieces cs all ↔ ∃ more, all = units ++ more ∧ Pieces rest more := by
  constructor
  · intro pieces
    cases pieces with
    | nil => simp [piece?] at first
    | cons other later =>
      obtain ⟨rfl, rfl⟩ := Prod.mk.inj (Option.some.inj (first.symm.trans other))
      exact ⟨_, rfl, later⟩
  · rintro ⟨more, rfl, later⟩
    exact .cons first later

theorem not_pieces_quote {rest : List Char} {units : List Nat} : ¬ Pieces ('\'' :: rest) units := by
  intro pieces
  cases pieces with
  | cons first later => simp [piece?] at first

/-! ### The literal of a module -/

/-- How a character of a path is written. -/
def spelledChar (c : Char) : List Char := (Json.quotedChar c).map fun c => if c = '"' then '\'' else c

/-- The character with a single quote for a double one. -/
def unquoted (c : Char) : Char := if c = '"' then '\'' else c

theorem toList_moduleLiteral (path : String) :
    (Emitter.moduleLiteral path).toList = '\'' :: (path.toList.flatMap spelledChar ++ ['\'']) := by
  simp only [Emitter.moduleLiteral, Json.quotedChars, String.toList_ofList, List.map_append, List.map_flatMap]
  rfl

/-- Characters that are written as a backslash and a letter or themselves. -/
def shortEscaped : List Char := ['"', '\\', '\n', '\r', '\t', '\x08', '\x0c']

theorem piece?_short {c : Char} (short : c ∈ shortEscaped) (rest : List Char) :
    piece? (spelledChar c ++ rest) = some (codeUnits (unquoted c).toNat, rest) := by
  simp only [shortEscaped, List.mem_cons, List.not_mem_nil, or_false] at short
  rcases short with rfl | rfl | rfl | rfl | rfl | rfl | rfl <;> rfl

theorem fixedEscape?_append {digits : List Char} {number : Nat} (reads : hexNumber? digits = some number)
    (rest : List Char) : fixedEscape? digits.length (digits ++ rest) = some ([number], rest) := by
  rw [fixedEscape?, if_pos (by simp), List.take_left, reads, List.drop_left]
  rfl

theorem piece?_control {c : Char} (control : c.toNat < 0x20) (long : c ∉ shortEscaped) (rest : List Char) :
    piece? (spelledChar c ++ rest) = some (codeUnits (unquoted c).toNat, rest) := by
  have each : ∀ code < 0x20, Char.ofNat code ∉ shortEscaped →
      spelledChar (Char.ofNat code) = ['\\', 'u'] ++ (spelledChar (Char.ofNat code)).drop 2 ∧
        ((spelledChar (Char.ofNat code)).drop 2).length = 4 ∧
        ((spelledChar (Char.ofNat code)).drop 2).head? = some '0' ∧
        hexNumber? ((spelledChar (Char.ofNat code)).drop 2) = some code := by decide +kernel
  obtain ⟨split, four, zero, reads⟩ := each c.toNat control (by rwa [Char.ofNat_toNat])
  rw [Char.ofNat_toNat] at split four zero reads
  generalize (spelledChar c).drop 2 = digits at split four zero reads
  have head : (digits ++ rest).head? ≠ some '\x7b' := by
    simp [List.head?_append, zero]
  have value : codeUnits (unquoted c).toNat = [c.toNat] := by
    have same : unquoted c = c := if_neg (by rintro rfl; exact long (by decide))
    rw [same, codeUnits, if_pos (by omega)]
  have read := fixedEscape?_append reads rest
  rw [four] at read
  rw [split, value]
  show escape? ('u' :: (digits ++ rest)) = _
  rw [escape?, if_neg (by decide), if_pos rfl, if_neg head, read]

theorem piece?_plain {c : Char} (visible : 0x20 ≤ c.toNat) (long : c ∉ shortEscaped) (noQuote : c ≠ '\'')
    (rest : List Char) : piece? (spelledChar c ++ rest) = some (codeUnits (unquoted c).toNat, rest) := by
  simp only [shortEscaped, List.mem_cons, List.not_mem_nil, or_false, not_or] at long
  obtain ⟨noDouble, noBackslash, noFeed, noReturn, noTab, noBack, noForm⟩ := long
  have itself : Json.quotedChar c = [c] := by
    unfold Json.quotedChar
    split <;> try contradiction
    rw [if_neg (by omega), if_neg (by omega)]
  have same : unquoted c = c := if_neg noDouble
  rw [spelledChar, itself, same, List.map_singleton, if_neg noDouble, List.singleton_append, piece?,
    if_neg noBackslash, if_neg (by simp [noQuote, noFeed, noReturn])]

/-- Every character but a single quote is written as one piece. A double quote is written as the escape of a single
quote. -/
theorem piece?_spelled {c : Char} (noQuote : c ≠ '\'') (rest : List Char) :
    piece? (spelledChar c ++ rest) = some (codeUnits (unquoted c).toNat, rest) := by
  by_cases short : c ∈ shortEscaped
  · exact piece?_short short rest
  by_cases control : c.toNat < 0x20
  · exact piece?_control control short rest
  · exact piece?_plain (by omega) short noQuote rest

theorem pieces_spelled {cs : List Char} {units : List Nat} :
    Pieces (cs.flatMap spelledChar) units ↔ '\'' ∉ cs ∧ units = textUnits (cs.map unquoted) := by
  induction cs generalizing units with
  | nil => simp [pieces_nil_iff, textUnits]
  | cons c cs ih =>
    rw [List.flatMap_cons]
    by_cases quote : c = '\''
    · subst quote
      exact iff_of_false not_pieces_quote (by simp)
    · rw [pieces_iff (piece?_spelled quote _)]
      simp only [ih, textUnits, List.map_cons, List.flatMap_cons, List.mem_cons, not_or]
      constructor
      · rintro ⟨more, rfl, absent, rfl⟩
        exact ⟨⟨fun same => quote same.symm, absent⟩, rfl⟩
      · rintro ⟨⟨-, absent⟩, rfl⟩
        exact ⟨_, rfl, absent, rfl⟩

theorem isLiteral_moduleLiteral {path : String} {units : List Nat} :
    IsLiteral (Emitter.moduleLiteral path) units ↔
      '\'' ∉ path.toList ∧ units = textUnits (path.toList.map unquoted) := by
  rw [← pieces_spelled]
  constructor
  · rintro ⟨content, split, pieces⟩
    rw [toList_moduleLiteral] at split
    obtain rfl := List.append_cancel_right (List.cons.inj split).2
    exact pieces
  · intro pieces
    exact ⟨_, toList_moduleLiteral path, pieces⟩

/-- Only double quotes are lost. -/
theorem textUnits_unquoted_iff {cs : List Char} : textUnits cs = textUnits (cs.map unquoted) ↔ '"' ∉ cs := by
  induction cs with
  | nil => simp
  | cons c cs ih =>
    simp only [textUnits, List.map_cons, List.flatMap_cons, List.mem_cons, not_or] at ih ⊢
    by_cases double : c = '"'
    · subst double
      simp [codeUnits, unquoted]
    · have same : unquoted c = c := if_neg double
      rw [same, List.append_cancel_left_eq, ih]
      simp [Ne.symm double]

/-- In front of the module always stand the same names, and the word behind them. -/
theorem Emitter.exists_prelude : ∃ front : String, "from ".toList <:+ front.toList ∧
    ∀ emitter : Emitter, emitter.prelude = front ++ moduleLiteral emitter.runtimeModule ++ ";" := by
  refine ⟨_, ?_, fun emitter => rfl⟩
  rw [String.toList_append]
  have word : "from ".toList <:+ "\x7d from ".toList := by decide +kernel
  exact word.trans (List.suffix_append ..)

/-- The import names its module behind the names that are imported, which are always the same. What stands there is a
string literal exactly if the path of the module has no single quote. Its value is then the path with single quotes for
double ones, and so it is the path itself exactly if the path has no quotes at all. -/
theorem prelude_module (path : String) : ∃ front literal : String,
    (∀ other, ∃ rest, (Emit.Emitter.new ⟨.typeScript, some other⟩).prelude = front ++ rest) ∧
    "from ".toList <:+ front.toList ∧
    (Emit.Emitter.new ⟨.typeScript, some path⟩).prelude = front ++ literal ++ ";" ∧
    (∀ units, IsLiteral literal units ↔ '\'' ∉ path.toList ∧ units = textUnits (path.toList.map unquoted)) ∧
    (IsLiteral literal (textUnits path.toList) ↔ '\'' ∉ path.toList ∧ '"' ∉ path.toList) := by
  obtain ⟨front, word, prelude⟩ := Emitter.exists_prelude
  refine ⟨front, Emitter.moduleLiteral path, ?_, word, prelude ⟨path⟩, ?_, ?_⟩
  · intro other
    exact ⟨_, (prelude ⟨other⟩).trans (String.append_assoc ..)⟩
  · intro units
    exact isLiteral_moduleLiteral
  · rw [isLiteral_moduleLiteral, textUnits_unquoted_iff]

/-- A path with a single quote ends its own literal, and one with a double quote is taken for another path. -/
theorem quoted_paths_lost :
    Emitter.moduleLiteral "it's" = "'it's'" ∧ (∀ units, ¬ IsLiteral "'it's'" units) ∧
    Emitter.moduleLiteral "a\"b" = "'a\\'b'" ∧ IsLiteral "'a\\'b'" (textUnits "a'b".toList) ∧
    ¬ IsLiteral "'a\\'b'" (textUnits "a\"b".toList) := by
  have single : Emitter.moduleLiteral "it's" = "'it's'" := by decide +kernel
  have double : Emitter.moduleLiteral "a\"b" = "'a\\'b'" := by decide +kernel
  refine ⟨single, ?_, double, ?_, ?_⟩
  · intro units
    rw [← single, isLiteral_moduleLiteral]
    simp
  · rw [← double, isLiteral_moduleLiteral]
    exact ⟨by decide, by decide⟩
  · rw [← double, isLiteral_moduleLiteral, textUnits_unquoted_iff]
    simp

end TableWire.Emit.TypeScript
