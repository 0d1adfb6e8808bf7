import TableWire.Emit.Rust
import TableWire.Emit.Target
import TableWire.Emit.TypeScript

/-!
One interface to the generators. An emitter gives a prelude, one chunk a declaration, and what
closes the output; it keeps the names it has given out, also those of a declaration that failed.
-/
namespace TableWire.Emit
open Layout Schema

inductive Emitter where
  | rust (emitter : Rust.Emitter)
  | typeScript (emitter : TypeScript.Emitter)

namespace Emitter

def new (options : Options) : Emitter :=
  match options.target with
  | .rust => .rust (.new options.runtimePath)
  | .typeScript => .typeScript ⟨options.runtimePath⟩

def prelude : Emitter → String
  | .rust emitter => emitter.prelude
  | .typeScript emitter => emitter.prelude

def emitEnum (emitter : Emitter) (decl : EnumDecl) : Emitter × Except Diagnostic String :=
  match emitter with
  | .rust emitter =>
    let (later, result) := emitter.emitEnum decl
    (.rust later, result)
  | .typeScript emitter => (.typeScript emitter, .ok (TypeScript.Emitter.emitEnum decl))

def emitTable (emitter : Emitter) (plan : Plan) : Emitter × Except Diagnostic String :=
  match emitter with
  | .rust emitter =>
    let (later, result) := emitter.emitTable plan
    (.rust later, result)
  | .typeScript emitter => (.typeScript emitter, .ok (TypeScript.Emitter.emitTable plan))

/-- The chunk behind all declarations, if the target has one. -/
def finish? : Emitter → Option String
  | .rust emitter => some emitter.finish
  | .typeScript _ => none

end Emitter
end TableWire.Emit
