import TableWire.Emit.Naming
import TableWire.Schema.Diagnostic
import Std.Data.TreeMap

/-!
Names taken in one scope of generated code. Two schema names may not lead to the same generated
name, and a generated name must be usable.
-/
namespace TableWire.Emit
open Schema (Diagnostic NameScope)

/-- The generated names taken so far, each with the schema name that took it last. -/
structure NameClaims where
  taken : Std.TreeMap String String

namespace NameClaims

def empty : NameClaims := ⟨{}⟩

/-- Takes a generated name for a schema name. On a clash the later name still takes over. -/
def claim (claims : NameClaims) (scope : NameScope) (name generated : String) :
    NameClaims × Except Diagnostic Unit :=
  if generated = "" ∨ generated = "_" then (claims, .error (.invalidIdentifier scope name))
  else
    let later : NameClaims := ⟨claims.taken.insert generated name⟩
    match claims.taken[generated]? with
    | some first => (later, .error (.nameCollision scope first name generated))
    | none => (later, .ok ())

/-- Takes names one after the other, up to the first that cannot be had. -/
def claimAll (claims : NameClaims) (scope : NameScope) (generate : String → String) :
    List String → Except Diagnostic Unit
  | [] => .ok ()
  | name :: names =>
    match claims.claim scope name (generate name) with
    | (_, .error diagnostic) => .error diagnostic
    | (later, .ok ()) => later.claimAll scope generate names

end NameClaims
end TableWire.Emit
