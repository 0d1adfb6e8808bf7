import TableWire.Text.Quoted
import TableWire.Text.Utf8

/-!
Tags: the four bytes that say which table a stored record belongs to.
-/
namespace TableWire.Wire

structure Tag where
  first : UInt8
  second : UInt8
  third : UInt8
  fourth : UInt8
deriving DecidableEq, Repr

namespace Tag

def bytes (tag : Tag) : Bytes := [tag.first, tag.second, tag.third, tag.fourth]

def ofBytes? : Bytes → Option Tag
  | [first, second, third, fourth] => some ⟨first, second, third, fourth⟩
  | _ => none

/-- The tag that a text of four bytes spells. -/
def ofText? (text : String) : Option Tag := ofBytes? (Text.utf8 text)

/-- Tags compare byte by byte. -/
instance : Ord Tag := ⟨compareOn bytes⟩

instance : Std.TransOrd Tag := inferInstanceAs (Std.TransCmp (compareOn bytes))

def display (tag : Tag) : String := Text.lossyText tag.bytes

def debugText (tag : Tag) : String := s!"Tag({Text.quoted tag.display})"

end Tag
end TableWire.Wire
