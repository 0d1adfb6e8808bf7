import TableWire.CommandLine.Place
import TableWire.CommandLine.Run

/-!
A folder in memory, to run the command line on. Folders inside it exist as far as files lie in
them. Around it are only the folders and devices that every system has.
-/
namespace TableWire.CommandLine

/-- Files that stand for something else than stored bytes. -/
inductive Device where
  /-- Holds nothing and takes everything. -/
  | nothing
  /-- Never runs out and takes everything. -/
  | endless
  /-- Never runs out and has no room. -/
  | full
  | standardInput
  | standardOutput
  | standardError
deriving DecidableEq, Repr

namespace Device

/-- The devices by the names on their way from the root. -/
def all : List (List String × Device) := [
  (["dev", "null"], nothing), (["dev", "zero"], endless), (["dev", "random"], endless),
  (["dev", "urandom"], endless), (["dev", "full"], full),
  (["dev", "stdin"], standardInput), (["dev", "stdout"], standardOutput),
  (["dev", "stderr"], standardError),
  (["dev", "fd", "0"], standardInput), (["dev", "fd", "1"], standardOutput),
  (["dev", "fd", "2"], standardError),
  (["proc", "self", "fd", "0"], standardInput), (["proc", "self", "fd", "1"], standardOutput),
  (["proc", "self", "fd", "2"], standardError)]

/-- The device at a place. -/
def at? (place : Place) : Option Device :=
  if place.origin = .root then all.lookup place.names else none

end Device

structure Folder where
  /-- Files by their places, each place once. -/
  files : List (Place × Bytes)
  input : Bytes
  printed : String

namespace Folder

/-- Puts a file in place of any other. -/
def put (folder : Folder) (place : Place) (content : Bytes) : Folder :=
  { folder with files := (place, content) :: folder.files.filter (·.1 != place) }

/-- A folder with files of the given texts, put there one after the other. -/
def ofFiles (files : List (String × String)) (input : Bytes) : Folder :=
  files.foldl (fun folder (path, text) => folder.put (.ofPath path) (Text.utf8 text))
    ⟨[], input, ""⟩

/-- Whether new files can be put into a folder at the given place. -/
def isOpen (folder : Folder) (place : Place) : Bool :=
  place.names.isEmpty || place == ⟨.root, ["tmp"]⟩ || folder.files.any (·.1.isBelow place)

/-- Whether a folder lies at the given place. -/
def holdsFolder (folder : Folder) (place : Place) : Bool :=
  folder.isOpen place || Device.all.any fun (names, _) => Place.isBelow ⟨.root, names⟩ place

/-- Where a piece of a path leads, if a folder is there. -/
def enter? (folder : Folder) (place : Place) (piece : String) : Option Place :=
  let next := place.step piece
  if folder.holdsFolder next then some next else none

/-- How many bytes a path has at most. -/
def pathLimit : Nat := 4095

/-- How many bytes a name has at most. -/
def nameLimit : Nat := 255

/-- The folder that a path goes through, which has to be there, and the name of a file in it. -/
def locate? (folder : Folder) (path : String) : Option (Place × String) :=
  match (Place.pieces path).getLast? with
  | none => none
  | some name =>
    if pathLimit < path.utf8ByteSize || nameLimit < name.utf8ByteSize then none
    else if Place.isIdle name || name == ".." then none
    else
      ((Place.pieces path).dropLast.foldlM folder.enter? (Place.start path)).map (·, name)

/-- The bytes of a file. Nothing has been written to the output streams when they are read, and a
device that never runs out gives no result. -/
def read? (folder : Folder) (path : String) : Option Bytes := do
  let (outer, name) ← folder.locate? path
  let place := outer.child name
  match Device.at? place with
  | some .nothing | some .standardOutput | some .standardError => some []
  | some .standardInput => some folder.input
  | some .endless | some .full => none
  | none => folder.files.lookup place

def print (folder : Folder) (text : String) : Folder :=
  { folder with printed := folder.printed ++ text }

/-- Writes a file; none if a folder is in its place or it cannot be put there. Text for a device
that is not the standard output is not kept. -/
def write? (folder : Folder) (path text : String) : Option Folder := do
  let (outer, name) ← folder.locate? path
  let place := outer.child name
  match Device.at? place with
  | some .nothing | some .endless | some .standardInput | some .standardError => some folder
  | some .standardOutput => some (folder.print text)
  | some .full => if text.isEmpty then some folder else none
  | none =>
    if folder.isOpen outer && !folder.holdsFolder place then
      some (folder.put place (Text.utf8 text))
    else none

/-- A host for the command line. -/
def host : Host (StateM Folder) where
  readInput := do return (← get).input
  readFile path := do return (← get).read? path
  writeFile path text := do
    match (← get).write? path text with
    | some folder =>
      set folder
      return true
    | none => return false
  print text := modify (·.print text)

end Folder
end TableWire.CommandLine
