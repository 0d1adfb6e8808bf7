/-!
Pieces of a text cut at byte offsets. A cut inside a character or past the end has no result.
-/
namespace TableWire.Text

/-- What is left of a text after its first `count` bytes. -/
def dropBytes? (cs : List Char) (count : Nat) : Option (List Char) :=
  match cs, count with
  | cs, 0 => some cs
  | [], _ + 1 => none
  | c :: cs, count + 1 =>
    if c.utf8Size ≤ count + 1 then dropBytes? cs (count + 1 - c.utf8Size) else none

/-- The first `count` bytes of a text. -/
def takeBytes? (cs : List Char) (count : Nat) : Option (List Char) :=
  match cs, count with
  | _, 0 => some []
  | [], _ + 1 => none
  | c :: cs, count + 1 =>
    if c.utf8Size ≤ count + 1 then (takeBytes? cs (count + 1 - c.utf8Size)).map (c :: ·) else none

/-- The text from byte `start` to just before byte `stop`. -/
def slice? (text : String) (start stop : Nat) : Option String :=
  if start ≤ stop then
    ((dropBytes? text.toList start).bind (takeBytes? · (stop - start))).map String.ofList
  else none

/-- How many characters an excerpt shows at most. -/
def excerptLength : Nat := 80

/-- The characters from byte `start` on, up to the length of an excerpt; empty at a bad offset. -/
def excerpt (text : String) (start : Nat) : String :=
  String.ofList (((dropBytes? text.toList start).getD []).take excerptLength)

end TableWire.Text
