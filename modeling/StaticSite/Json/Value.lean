import StaticSite.Decimal.Reader

/-!
# JSON values

Objects keep their members in the order in which their keys first came.
-/

namespace StaticSite.Json

open StaticSite.Decimal

/-- An integer stays exact; everything else is a float. -/
inductive Number
  | integer (n : Int)
  | float (x : Float)

inductive Value
  | null
  | bool (b : Bool)
  | number (n : Number)
  | string (s : String)
  | array (items : List Value)
  | object (members : List (String × Value))

instance : Inhabited Value := ⟨.null⟩

/-- The members of an object. -/
abbrev Members := List (String × Value)

/-- A key that is there already keeps its place and takes the new value. -/
def Members.insert (key : String) (value : Value) : Members → Members
  | [] => [(key, value)]
  | (k, v) :: rest =>
    if k = key then (k, value) :: rest else (k, v) :: Members.insert key value rest

def Members.get? (key : String) (members : Members) : Option Value :=
  members.lookup key

def Number.toFloat : Number → Float
  | .integer n => ofBits (n < 0) (if n = 0 then 0 else nearestBits n.natAbs 1)
  | .float x => x

/-- The member of an object under a key; other values have none. -/
def Value.member? (key : String) : Value → Option Value
  | .object members => Members.get? key members
  | _ => none

end StaticSite.Json
