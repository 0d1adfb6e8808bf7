import TableWire.Text.VisibleTables

/-!
Text in double quotes as diagnostics show it. Quotes, backslashes and the usual controls get a
short escape; every other character without a glyph of its own is written by its code point, so a
message never hides what the source holds.
-/
namespace TableWire.Text

/-- Characters with a glyph of their own that does not attach to the character before. -/
def isVisible (c : Char) : Bool :=
  if c.toNat < 0x80 then 0x20 ≤ c.toNat && c.toNat < 0x7f
  else !within extendingRuns c && !within unprintableRuns c && !within fillerRuns c

/-- The code point in lower-case hexadecimal digits. -/
def hexDigits (code : Nat) : List Char := Nat.toDigits 16 code

/-- One character between the quotes. -/
def quotedChar (c : Char) : List Char :=
  match c with
  | '"' => ['\\', '"']
  | '\\' => ['\\', '\\']
  | '\n' => ['\\', 'n']
  | '\r' => ['\\', 'r']
  | '\t' => ['\\', 't']
  | '\x00' => ['\\', '0']
  | c => if isVisible c then [c] else ['\\', 'u', '\x7b'] ++ hexDigits c.toNat ++ ['\x7d']

/-- The text in quotes, with everything invisible escaped. -/
def quoted (text : String) : String :=
  String.ofList (['"'] ++ text.toList.flatMap quotedChar ++ ['"'])

end TableWire.Text
