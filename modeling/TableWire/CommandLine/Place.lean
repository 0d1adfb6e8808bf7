/-!
Places of files: where a path leads from a working folder or from the root of the system, piece by
piece, without asking what is there.
-/
namespace TableWire.CommandLine

/-- Where a path sets out. -/
inductive Origin where
  /-- The root of the system. -/
  | root
  /-- A number of levels above the working folder. -/
  | above (levels : Nat)
deriving DecidableEq, Repr

/-- A way down from its origin by names. -/
structure Place where
  origin : Origin
  names : List String
deriving DecidableEq, Repr

namespace Place

/-- What stands between the slashes of a path. -/
def pieces (path : String) : List String := (path.toList.splitOn '/').map String.ofList

/-- Whether a piece of a path stays where it is. -/
def isIdle (piece : String) : Bool := piece == "" || piece == "."

def isAbsolute (path : String) : Bool := path.toList.head? == some '/'

/-- The folder that a path sets out from. -/
def start (path : String) : Place := ⟨if isAbsolute path then .root else .above 0, []⟩

/-- The folder around a place; the root lies in itself. -/
def parent : Place → Place
  | ⟨.root, []⟩ => ⟨.root, []⟩
  | ⟨.above levels, []⟩ => ⟨.above (levels + 1), []⟩
  | ⟨origin, names⟩ => ⟨origin, names.dropLast⟩

def child (place : Place) (name : String) : Place := { place with names := place.names ++ [name] }

/-- Where a piece of a path leads. -/
def step (place : Place) (piece : String) : Place :=
  if isIdle piece then place
  else if piece == ".." then place.parent
  else place.child piece

/-- Where a path leads. -/
def ofPath (path : String) : Place := (pieces path).foldl step (start path)

/-- Whether one place lies below another. -/
def isBelow (inner outer : Place) : Bool :=
  inner.origin == outer.origin && outer.names.isPrefixOf inner.names &&
    outer.names.length < inner.names.length

end Place
end TableWire.CommandLine
