import TableWire.Emit.Emitter
import TableWire.Schema.Reader

/-!
Compiling a schema. A session takes declarations one by one: it registers the name, resolves the
fields against what is registered, lays out the table and emits code. Output is handed out only at
the end. What a failing declaration had registered before it failed stays registered.
-/
namespace TableWire
open Schema Layout Emit

/-- What a session has made of its declarations. -/
structure Compilation where
  output : String
  declarations : List Declaration
  /-- The layout of every table, in order. -/
  plans : List Plan
  tags : Std.TreeMap String String

namespace Compilation

/-- The table that a tag stands for. -/
def tableFor? (compilation : Compilation) (tag : String) : Option String := compilation.tags[tag]?

/-- The plan of the first table of a name. -/
def plan? (compilation : Compilation) (table : String) : Option Plan :=
  compilation.plans.find? (·.table == table)

end Compilation

structure Session where
  types : TypeScope
  tags : Std.TreeMap String String
  emitter : Emitter
  /-- The prelude and the code of every declaration so far. -/
  chunks : List String
  plans : List Plan
  declarations : List Declaration

namespace Session

def start (options : Options) : Session :=
  let emitter := Emitter.new options
  { types := .empty, tags := {}, emitter, chunks := [emitter.prelude], plans := []
    declarations := [] }

/-- Compiles an enum, unless it has more values than its integer can number. -/
def addEnum (session : Session) (decl : EnumDecl) : Session × Except Diagnostic Unit :=
  if decl.repr.valueCapacity < decl.values.length then
    (session, .error (.enumOverflow decl.name decl.values.length decl.repr))
  else
    let (emitter, emitted) := session.emitter.emitEnum decl
    let later := { session with types := session.types.declareEnum decl, emitter }
    match emitted with
    | .error diagnostic => (later, .error diagnostic)
    | .ok chunk =>
      ({ later with
          chunks := later.chunks ++ [chunk]
          declarations := later.declarations ++ [.enum decl] }, .ok ())

/-- Compiles a table. Its name is registered first, so that a table may contain itself. -/
def addTable (session : Session) (decl : TableDecl) : Session × Except Diagnostic Unit :=
  let types := session.types.declareTable decl
  match decl.fields.mapM (resolve types decl.name) with
  | .error diagnostic => ({ session with types }, .error diagnostic)
  | .ok members =>
    let plan := Plan.compute decl.name decl.tag members
    let (emitter, emitted) := session.emitter.emitTable plan
    let later := { session with types, emitter, tags := session.tags.insert decl.tag decl.name }
    match emitted with
    | .error diagnostic => (later, .error diagnostic)
    | .ok chunk =>
      ({ later with
          chunks := later.chunks ++ [chunk]
          plans := later.plans ++ [plan]
          declarations := later.declarations ++ [.table decl] }, .ok ())

/-- Compiles one more declaration. -/
def add (session : Session) : Declaration → Session × Except Diagnostic Unit
  | .enum decl => session.addEnum decl
  | .table decl => session.addTable decl

/-- All chunks with blank lines between them and a newline at the end. -/
def finish (session : Session) : Compilation :=
  { output := "\n\n".intercalate (session.chunks ++ session.emitter.finish?.toList) ++ "\n"
    declarations := session.declarations
    plans := session.plans
    tags := session.tags }

/-- Compiles what a reader found, up to the first failure of either. -/
def addAll (session : Session) : List (Except Diagnostic Declaration) → Except Diagnostic Session
  | [] => .ok session
  | .error diagnostic :: _ => .error diagnostic
  | .ok declaration :: more =>
    match session.add declaration with
    | (_, .error diagnostic) => .error diagnostic
    | (later, .ok ()) => later.addAll more

end Session

/-- Compiles a schema in one forward pass. -/
def compile (text : String) (options : Options) : Except Diagnostic Compilation :=
  ((Session.start options).addAll (readAll text)).map (·.finish)

/-- The layout of every table of a schema as indented JSON. -/
def layoutText (text : String) : Except Diagnostic String :=
  (compile text (.ofTarget .rust)).map (plansText ·.plans)

end TableWire
