import RenderPlan.Format.Document
import RenderPlan.Format.Json

/-! JSON values as documents. A record is an object or an array of its fields in order; a case is
its label, or an object with the label as the only key. -/
namespace RenderPlan.Format.Json
open Number

/-- Looks up the known keys. A known key must not be repeated; other keys are passed over. -/
def fieldsOfMembers (fields : List String) (members : List (String × Json)) :
    Option (List (Option Json)) :=
  if fields.any fun f => 1 < members.countP fun m => m.1 == f then none
  else some (fields.map fun f => members.lookup f)

/-- Fields by position. Missing ones are at the end. -/
def fieldsOfItems (fields : List String) (items : List Json) : Option (List (Option Json)) :=
  if items.length ≤ fields.length then
    some (items.map some ++ List.replicate (fields.length - items.length) none)
  else none

def fields? (fields : List String) : Json → Option (List (Option Json))
  | object members => fieldsOfMembers fields members
  | array items => fieldsOfItems fields items
  | _ => none

/-- A number as a 32-bit float. Integers are rounded at once, other numbers by way of 64 bits. -/
def numberToBinary32? : JsonNumber → Option Binary32
  | .integer n => some (Binary32.ofInt n)
  | .real negative significand exponent =>
    (scaleWord significand exponent).map (Binary32.ofMagnitude negative)

instance : Document Json where
  text?
    | string s => some s
    | _ => none
  natBelow? bound
    | number (.integer n) => if 0 ≤ n ∧ n < bound then some n.toNat else none
    | _ => none
  float?
    | number n => numberToBinary32? n
    | _ => none
  list?
    | array items => some items
    | _ => none
  tuple? n
    | array items => if items.length = n then some items else none
    | _ => none
  optional?
    | null => some none
    | v => some (some v)
  record? _ := fields?
  unitCase?
    | string s => some s
    | object [(label, null)] => some label
    | _ => none
  valueCase?
    | object [(label, v)] => some (label, v)
    | _ => none
  recordCase?
    | object [(label, _)] => some label
    | _ => none
  parameters? names
    | object [(_, v)] => v.fields? names
    | _ => none

end RenderPlan.Format.Json
