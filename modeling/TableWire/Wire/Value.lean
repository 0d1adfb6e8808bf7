import TableWire.Layout.Plan
import TableWire.Wire.Tag

/-!
Records and the values of their fields. A record knows its table and holds one value a member, in
declaration order.
-/
namespace TableWire.Wire
open Layout

/-- A table as it is stored: its layout and its tag. -/
structure Table where
  plan : Plan
  tag : Tag
deriving DecidableEq, Repr

def Table.name (table : Table) : String := table.plan.table

inductive Value where
  | int (n : Int)
  | bool (b : Bool)
  | text (s : String)
  /-- The value of an enum at a position. -/
  | enum (position : Nat)
  /-- No record. -/
  | absent
  | record (table : Table) (members : List Value)
  | list (items : List Value)

namespace Value

mutual

def decEq (a b : Value) : Decidable (a = b) :=
  match a, b with
  | .int m, .int n => decidable_of_iff (m = n) (by simp)
  | .bool m, .bool n => decidable_of_iff (m = n) (by simp)
  | .text m, .text n => decidable_of_iff (m = n) (by simp)
  | .enum m, .enum n => decidable_of_iff (m = n) (by simp)
  | .absent, .absent => .isTrue rfl
  | .record t vs, .record u ws =>
    match decEqList vs ws with
    | .isTrue h => decidable_of_iff (t = u) (by simp [h])
    | .isFalse h => .isFalse (by simp [h])
  | .list vs, .list ws =>
    match decEqList vs ws with
    | .isTrue h => .isTrue (by rw [h])
    | .isFalse h => .isFalse (by simp [h])
  | .int _, .bool _ | .int _, .text _ | .int _, .enum _ | .int _, .absent | .int _, .record _ _
  | .int _, .list _ | .bool _, .int _ | .bool _, .text _ | .bool _, .enum _ | .bool _, .absent
  | .bool _, .record _ _ | .bool _, .list _ | .text _, .int _ | .text _, .bool _
  | .text _, .enum _ | .text _, .absent | .text _, .record _ _ | .text _, .list _
  | .enum _, .int _ | .enum _, .bool _ | .enum _, .text _ | .enum _, .absent
  | .enum _, .record _ _ | .enum _, .list _ | .absent, .int _ | .absent, .bool _
  | .absent, .text _ | .absent, .enum _ | .absent, .record _ _ | .absent, .list _
  | .record _ _, .int _ | .record _ _, .bool _ | .record _ _, .text _ | .record _ _, .enum _
  | .record _ _, .absent | .record _ _, .list _ | .list _, .int _ | .list _, .bool _
  | .list _, .text _ | .list _, .enum _ | .list _, .absent | .list _, .record _ _ =>
    .isFalse nofun

def decEqList (vs ws : List Value) : Decidable (vs = ws) :=
  match vs, ws with
  | [], [] => .isTrue rfl
  | [], _ :: _ => .isFalse nofun
  | _ :: _, [] => .isFalse nofun
  | v :: vs, w :: ws =>
    match decEq v w, decEqList vs ws with
    | .isTrue h, .isTrue t => .isTrue (by rw [h, t])
    | .isFalse h, _ => .isFalse (by simp [h])
    | _, .isFalse t => .isFalse (by simp [t])

end

instance : DecidableEq Value := decEq

/-- The value of a field that is not given. -/
def default : StorageClass → Value
  | .primitive _ => .int 0
  | .bool => .bool false
  | .string => .text ""
  | .enum _ _ _ => .enum 0
  | .any | .table _ => .absent
  | .tableArray _ => .list []

end Value
end TableWire.Wire
