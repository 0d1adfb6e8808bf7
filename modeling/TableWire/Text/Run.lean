/-!
Sets of characters given as runs of code points.
-/
namespace TableWire.Text

/-- Every `step`-th code point from `first` to `last`. -/
structure Run where
  first : Nat
  last : Nat
  step : Nat

def Run.contains (run : Run) (code : Nat) : Bool :=
  run.first ≤ code && code ≤ run.last && (code - run.first) % run.step == 0

/-- Whether a character lies in one of the runs. -/
def within (runs : List Run) (c : Char) : Bool :=
  runs.any (·.contains c.toNat)

end TableWire.Text
