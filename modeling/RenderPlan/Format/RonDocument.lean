import RenderPlan.Format.Document
import RenderPlan.Format.Ron

/-! RON values as documents. Records have named fields only, and a field that nobody asks for may
hold any well-formed value that is not nested too deep. -/
namespace RenderPlan.Format
open RonLexis RonNumber

namespace Ron

/-- Words that are values of their own, so that no parentheses may follow them. -/
def isLiteral (w : String) : Bool := w ∈ ["true", "false", "None"]

mutual

/-- Whether a value is well formed when nothing is known about its type. What `Some` holds may be
several values or fields only if parameters are `unwrapped`. -/
def isSound (unwrapped : Bool) : Ron → Bool
  | number n => isProper n
  | range bounds => bounds.all isProper
  | name w => w != "Some"
  | text _ | character _ | bytes | unit => true
  | present v => v.isSound unwrapped
  | list items => allSound unwrapped items
  | map entries => entriesSound unwrapped entries
  | tuple (some w) items =>
    !isLiteral w && (w != "Some" || unwrapped || items.length == 1) && allSound unwrapped items
  | tuple none items => allSound unwrapped items
  | record (some w) fields =>
    !isLiteral w && (w != "Some" || unwrapped) && fieldsSound unwrapped fields
  | record none fields => fieldsSound unwrapped fields

def allSound (unwrapped : Bool) : List Ron → Bool
  | [] => true
  | v :: vs => v.isSound unwrapped && allSound unwrapped vs

def fieldsSound (unwrapped : Bool) : List (String × Ron) → Bool
  | [] => true
  | (_, v) :: fields => v.isSound unwrapped && fieldsSound unwrapped fields

def entriesSound (unwrapped : Bool) : List (Ron × Ron) → Bool
  | [] => true
  | (k, v) :: entries =>
    k.isSound unwrapped && v.isSound unwrapped && entriesSound unwrapped entries

end

mutual

/-- The number of levels a value of unknown type takes. A collection takes one, and one more if it
has parts; `Some` takes one, and what it holds is a collection unless it is a single value. -/
def height : Ron → Nat
  | number _ | range _ | name _ | text _ | character _ | bytes | unit => 0
  | present v => v.height + 1
  | list items => partsHeight items + 1
  | map entries => entriesHeight entries + 1
  | tuple type items =>
    partsHeight items + (if type ≠ some "Some" then 1 else if items.length = 1 then 0 else 2)
  | record type fields => fieldsHeight fields + (if type = some "Some" then 2 else 1)

def partsHeight : List Ron → Nat
  | [] => 0
  | v :: vs => max (v.height + 1) (partsHeight vs)

def fieldsHeight : List (String × Ron) → Nat
  | [] => 0
  | (_, v) :: fields => max (v.height + 1) (fieldsHeight fields)

def entriesHeight : List (Ron × Ron) → Nat
  | [] => 0
  | (k, v) :: entries => max (max (k.height + 1) (v.height + 1)) (entriesHeight entries)

end

def heightLimit : Nat := 128

end Ron

structure RonDocument where
  extensions : RonExtensions
  value : Ron
  /-- The number of levels around the value. -/
  depth : Nat := 0
  /-- The value is a tuple that has no parentheses of its own. -/
  unwrapped : Bool := false

namespace RonDocument

def parse (text : String) : Option RonDocument :=
  (Ron.parse text).map fun (extensions, value) => { extensions, value }

def part (d : RonDocument) (levels : Nat) (value : Ron) : RonDocument :=
  { extensions := d.extensions, value, depth := d.depth + levels }

/-- The value, unless it is several values without parentheses. -/
def single? (d : RonDocument) : Option Ron :=
  match d.unwrapped, d.value with
  | false, v => some v
  | true, .tuple none [v] => some v
  | true, _ => none

/-- The parameter that stands alone in the parentheses of a case. -/
def parameter? (d : RonDocument) (levels : Nat) (items : List Ron) : Option RonDocument :=
  if d.extensions.unwrapParameters then
    some { d.part levels (.tuple none items) with unwrapped := true }
  else
    match items with
    | [v] => some (d.part levels v)
    | _ => none

/-- Whether a value may stand where nobody asks for it. -/
def mayIgnore (d : RonDocument) : Bool :=
  d.value.isSound d.extensions.unwrapParameters && d.depth + d.value.height ≤ Ron.heightLimit

/-- Looks up the known fields, some levels down. A known field must not be repeated; others have to
be such that they may be ignored. -/
def lookUp (d : RonDocument) (levels : Nat) (names : List String) (fields : List (String × Ron)) :
    Option (List (Option RonDocument)) :=
  if (names.any fun n => 1 < fields.countP fun f => f.1 == n) ||
      (fields.any fun f => !names.contains f.1 && !(d.part levels f.2).mayIgnore) then none
  else some (names.map fun n => (fields.lookup n).map (d.part levels))

/-- Whether a record may carry this name, or none. -/
def namedAs (d : RonDocument) (type : String) : Option String → Bool
  | some w => plain w == type
  | none => !d.extensions.explicitNames

instance : Document RonDocument where
  text? d :=
    match d.single? with
    | some (.text s) => some s
    | _ => none
  natBelow? bound d :=
    match d.single? with
    | some (.number (.spelled spelling)) =>
      readNat (if bound = UInt32.size then "u32" else "u64") bound spelling
    | _ => none
  float? d :=
    match d.single? with
    | some (.number (.spelled spelling)) => readFloat "f32" spelling
    | _ => none
  list? d :=
    match d.single? with
    | some (.list items) => some (items.map (d.part 2))
    | _ => none
  tuple? n d :=
    match d.value with
    | .tuple none items => if items.length = n then some (items.map (d.part 2)) else none
    | _ => none
  optional? d :=
    match d.single? with
    | some (.name "None") => some none
    | some (.tuple (some "Some") items) => (d.parameter? 1 items).map some
    | some (.present v) => some (some (d.part 1 v))
    | some v => if d.extensions.implicitSome then some (some (d.part 1 v)) else none
    | none => none
  record? type names d :=
    match d.single? with
    | some .unit => if d.namedAs type none then d.lookUp 2 names [] else none
    | some (.tuple name []) => if d.namedAs type name then d.lookUp 2 names [] else none
    | some (.record name fields) =>
      if d.namedAs type name then d.lookUp 2 names fields else none
    | _ => none
  unitCase? d :=
    match d.single? with
    | some (.name w) => some (plain w)
    | _ => none
  valueCase? d :=
    match d.single? with
    | some (.tuple (some w) items) => (d.parameter? 2 items).map fun v => (plain w, v)
    | _ => none
  recordCase? d :=
    match d.single? with
    | some (.tuple (some w) []) | some (.record (some w) _) => some (plain w)
    | _ => none
  parameters? names d :=
    match d.single? with
    | some (.tuple (some _) []) => d.lookUp 3 names []
    | some (.record (some _) fields) => d.lookUp 3 names fields
    | _ => none

end RonDocument

end RenderPlan.Format
