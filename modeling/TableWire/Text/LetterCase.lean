import TableWire.Text.CaseTables

/-!
Upper and lower case of characters and of texts. A character may have several characters as its
other form. The lower case of a text has one rule that looks around: a capital sigma that ends a
word becomes a final sigma.
-/
namespace TableWire.Text

def isUpper (c : Char) : Bool :=
  if c.toNat < 0x80 then c.isUpper else within upperRuns c

def isLower (c : Char) : Bool :=
  if c.toNat < 0x80 then c.isLower else within lowerRuns c

/-- The code point moved by the first shift whose run holds it. -/
def shifted (shifts : List Shift) (c : Char) : Char :=
  match shifts.find? (·.run.contains c.toNat) with
  | some shift => Char.ofNat (c.toNat + shift.distance).toNat
  | none => c

/-- The upper-case form of a character. -/
def upperChar (c : Char) : List Char :=
  if c.toNat < 0x80 then [c.toUpper]
  else match upperExpansions.lookup c.toNat with
    | some codes => codes.map Char.ofNat
    | none => [shifted upperShifts c]

/-- The lower-case form of a character. -/
def lowerChar (c : Char) : List Char :=
  if c.toNat < 0x80 then [c.toLower]
  else if c.toNat = 0x130 then ['i', Char.ofNat 0x307]
  else [shifted lowerShifts c]

/-- The upper-case form of a text. -/
def upperText (cs : List Char) : List Char := cs.flatMap upperChar

def capitalSigma : Char := Char.ofNat 0x3a3

def finalSigma : Char := Char.ofNat 0x3c2

/-- Whether the first character that matters for case is a letter with case. -/
def startsCased (cs : List Char) : Bool :=
  match cs.dropWhile (within ignorableRuns) with
  | [] => false
  | c :: _ => within casedRuns c

/-- Lower case of `cs`, where `before` holds the characters in front, nearest first. -/
def lowerAfter (before : List Char) : List Char → List Char
  | [] => []
  | c :: cs =>
    let lowered :=
      if c = capitalSigma && startsCased before && !startsCased cs then [finalSigma]
      else lowerChar c
    lowered ++ lowerAfter (c :: before) cs

/-- The lower-case form of a text. -/
def lowerText (cs : List Char) : List Char := lowerAfter [] cs

end TableWire.Text
