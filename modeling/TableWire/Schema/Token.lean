import TableWire.Text.Blank

/-!
Tokens of a schema. The source is cut into comments, blanks, words and single characters; comments
and blanks are dropped. Nothing is refused here: a character that the grammar has no use for is a
token of kind `unknown`, which the declaration around it rejects.
-/
namespace TableWire.Schema

/-- A place in a text: bytes from the start, and line and column counted from one. -/
structure Position where
  offset : Nat
  line : Nat
  column : Nat
deriving DecidableEq, Repr

namespace Position

def start : Position := ⟨0, 1, 1⟩

/-- The place right after a character. -/
def next (position : Position) (c : Char) : Position :=
  if c = '\n' then ⟨position.offset + c.utf8Size, position.line + 1, 1⟩
  else ⟨position.offset + c.utf8Size, position.line, position.column + 1⟩

/-- The place right after a piece of text. -/
def after (position : Position) (cs : List Char) : Position := cs.foldl next position

end Position

inductive TokenKind where
  | word
  | colon
  | semicolon
  | comma
  | leftBrace
  | rightBrace
  | leftBracket
  | rightBracket
  | unknown
  | eof
deriving DecidableEq, Repr

/-- The kind of a token that is one character and no word. -/
def TokenKind.ofChar : Char → TokenKind
  | ':' => .colon
  | ';' => .semicolon
  | ',' => .comma
  | '\x7b' => .leftBrace
  | '\x7d' => .rightBrace
  | '[' => .leftBracket
  | ']' => .rightBracket
  | _ => .unknown

structure Token where
  kind : TokenKind
  text : String
  start : Position
deriving DecidableEq, Repr

namespace Token

/-- Whether the token is the given word. -/
def isWord (token : Token) (word : String) : Bool :=
  token.kind == .word && token.text == word

/-- The byte offset right after the token. -/
def stop (token : Token) : Nat := token.start.offset + token.text.utf8ByteSize

end Token

/-- Letters, digits and underscores of ASCII make words. -/
def isWordChar (c : Char) : Bool := c.isAlphanum || c == '_'

/-- A part of the source; comments and blanks have no kind. -/
structure Lexeme where
  kind : Option TokenKind
  text : List Char

/-- The part that a text starting with `c` starts with. -/
def Lexeme.first (c : Char) (rest : List Char) : Lexeme :=
  if c == '/' && rest.head? == some '/' then ⟨none, c :: rest.takeWhile (· != '\n')⟩
  else if Text.isBlank c then ⟨none, c :: rest.takeWhile Text.isBlank⟩
  else if isWordChar c then ⟨some .word, c :: rest.takeWhile isWordChar⟩
  else ⟨some (.ofChar c), [c]⟩

theorem Lexeme.length_first_pos (c : Char) (rest : List Char) :
    0 < (Lexeme.first c rest).text.length := by
  unfold Lexeme.first
  split
  · simp
  · split
    · simp
    · split <;> simp

/-- The tokens of a text that starts at the given place. -/
def scanFrom (position : Position) (cs : List Char) : List Token :=
  match cs with
  | [] => []
  | c :: rest =>
    let part := Lexeme.first c rest
    let later := scanFrom (position.after part.text) ((c :: rest).drop part.text.length)
    match part.kind with
    | none => later
    | some kind => ⟨kind, String.ofList part.text, position⟩ :: later
termination_by cs.length
decreasing_by
  have := Lexeme.length_first_pos c rest
  simp only [List.length_drop, List.length_cons]
  omega

/-- The tokens of a text, the end mark left out. -/
def scan (text : String) : List Token := scanFrom .start text.toList

/-- The mark at the end of a text. -/
def endToken (text : String) : Token := ⟨.eof, "", Position.start.after text.toList⟩

/-- All tokens of a text, closed by the end mark. -/
def tokenize (text : String) : List Token := scan text ++ [endToken text]

end TableWire.Schema
