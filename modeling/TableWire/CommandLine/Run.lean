import TableWire.CommandLine.Arguments
import TableWire.Session
import TableWire.Text.Utf8

/-!
Running a command. Files, standard input and standard output belong to a host, so that the same
program runs on a disk and on a folder in memory. Nothing is written unless the whole schema
compiles.
-/
namespace TableWire.CommandLine
open Schema (Diagnostic)

/-- What a command needs from outside. -/
structure Host (m : Type → Type) where
  readInput : m Bytes
  /-- The bytes of a file; none if it cannot be read. -/
  readFile : String → m (Option Bytes)
  /-- Writes a file and says whether that worked. -/
  writeFile : String → String → m Bool
  print : String → m Unit

/-- Why the program fails. -/
inductive Problem where
  | usage
  | access
  | schema (diagnostic : Diagnostic)
deriving DecidableEq, Repr

/-- The exit status of a run. -/
def exitStatus : Except Problem Unit → Nat
  | .ok () => 0
  | .error .usage => 2
  | .error .access | .error (.schema _) => 1

def versionText : String := "kserial 0.1.0\n"

variable {m : Type → Type} [Monad m]

/-- The text of a schema, from a file if one is named. -/
def readSchema (host : Host m) (input? : Option String) : m (Except Problem String) := do
  let bytes? ← match input? with
    | some path => host.readFile path
    | none => some <$> host.readInput
  match bytes?.bind Text.ofUtf8? with
  | some text => return .ok text
  | none => return .error .access

/-- Hands out a result, to a file if one is named. -/
def deliver (host : Host m) (output? : Option String) (text : String) :
    m (Except Problem Unit) := do
  match output? with
  | some path =>
    if ← host.writeFile path text then return .ok () else return .error .access
  | none =>
    host.print text
    return .ok ()

/-- Reads a schema, makes a text of it and hands that out. -/
def convert (host : Host m) (input? output? : Option String)
    (make : String → Except Diagnostic String) : m (Except Problem Unit) := do
  match ← readSchema host input? with
  | .error problem => return .error problem
  | .ok text =>
    match make text with
    | .error diagnostic => return .error (.schema diagnostic)
    | .ok result => deliver host output? result

/-- Runs the command line with the given arguments. -/
def run (host : Host m) (args : List String) : m (Except Problem Unit) :=
  match command? args with
  | none => return .error .usage
  | some .version => do
    host.print versionText
    return .ok ()
  | some (.generate options input? output?) =>
    convert host input? output? fun text => (compile text options).map (·.output)
  | some (.layout input?) =>
    convert host input? none fun text => (layoutText text).map (· ++ "\n")

end TableWire.CommandLine
