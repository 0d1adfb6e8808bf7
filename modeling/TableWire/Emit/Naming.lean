import TableWire.Text.LetterCase

/-!
Names in generated code. Types and enum values are written in PascalCase and fields in snake_case;
a reserved word gets an underscore behind it and a leading digit one in front.
-/
namespace TableWire.Emit
open Text (upperChar lowerChar upperText lowerText isUpper isLower)

/-- The first character in upper case, the others in lower case if asked. -/
def capitalize (lowerRest : Bool) : List Char → List Char
  | [] => []
  | c :: rest => upperChar c ++ if lowerRest then lowerText rest else rest

def pascalChars (cs : List Char) : List Char :=
  if cs.contains '_' then ((cs.splitOn '_').filter (!·.isEmpty)).flatMap (capitalize true)
  else capitalize (cs == upperText cs) cs

/-- A name in PascalCase. Underscores divide words; without any, only a name that is all upper case
loses its capitals behind the first. -/
def pascalCase (name : String) : String := String.ofList (pascalChars name.toList)

/-- Whether a word starts at an upper-case letter between the two neighbours. -/
def startsWord (previous : Option Char) (rest : List Char) : Bool :=
  match previous with
  | none => false
  | some c =>
    if isUpper c then rest.head?.any isLower else c != '_'

def snakeAfter (previous : Option Char) : List Char → List Char
  | [] => []
  | c :: rest =>
    if isUpper c then
      (if startsWord previous rest then ['_'] else []) ++ lowerChar c ++ snakeAfter (some c) rest
    else c :: snakeAfter (some c) rest

def snakeChars (cs : List Char) : List Char := snakeAfter none cs

/-- A name in snake_case, with acronyms kept together. -/
def snakeCase (name : String) : String := String.ofList (snakeChars name.toList)

/-- Words that cannot be names in generated Rust. -/
def reservedWords : List String := [
  "as", "break", "const", "continue", "crate", "else", "enum", "extern", "false", "fn", "for",
  "if", "impl", "in", "let", "loop", "match", "mod", "move", "mut", "pub", "ref", "return",
  "self", "Self", "static", "struct", "super", "trait", "true", "type", "unsafe", "use", "where",
  "while", "async", "await", "dyn", "abstract", "become", "box", "do", "final", "macro",
  "override", "priv", "try", "typeof", "unsized", "virtual", "yield"]

/-- A form of the name that is no reserved word and starts with no digit. -/
def escapeName (name : String) : String :=
  if name ∈ reservedWords then name ++ "_"
  else if name.toList.head?.any Char.isDigit then "_" ++ name
  else name

/-- The name of a type or an enum value. -/
def typeName (name : String) : String := escapeName (pascalCase name)

/-- The name of a field. -/
def fieldName (name : String) : String := escapeName (snakeCase name)

end TableWire.Emit
