import TableWire.Text.Quoted

/-!
The languages that code is generated for, and the options of a run.
-/
namespace TableWire.Emit

inductive Target where
  | rust
  | typeScript
deriving DecidableEq, Repr

namespace Target

/-- The target that a name means, in any mix of ASCII letter cases. -/
def ofName? (name : String) : Option Target :=
  let lowered := name.map Char.toLower
  if lowered = "rust" ∨ lowered = "rs" then some .rust
  else if lowered = "typescript" ∨ lowered = "ts" then some .typeScript
  else none

/-- What is said about a name that means no target. -/
def unknownMessage (name : String) : String :=
  s!"unknown target {Text.quoted (name.map Char.toLower)} (expected rust or ts)"

/-- The short name. -/
def display : Target → String
  | .rust => "rust"
  | .typeScript => "ts"

/-- The full name in lower case. -/
def fullName : Target → String
  | .rust => "rust"
  | .typeScript => "typescript"

/-- Where generated code finds its helpers unless told otherwise. -/
def defaultRuntimePath : Target → String
  | .rust => "kserial::runtime"
  | .typeScript => "kserial"

end Target

structure Options where
  target : Target
  runtimePath? : Option String
deriving DecidableEq, Repr

namespace Options

def ofTarget (target : Target) : Options := ⟨target, none⟩

def runtimePath (options : Options) : String :=
  options.runtimePath?.getD options.target.defaultRuntimePath

end Options
end TableWire.Emit
