import RenderPlan.Text.Labelled
import RenderPlan.Format.Json

/-! Data as it is written out, before a format is chosen: numbers, texts, lists, records, and the
cases of a choice with none, one or several named parameters. -/
namespace RenderPlan.Format
open Number

inductive Data
  | bool (b : Bool)
  | nat (n : Nat)
  | float (x : Binary32)
  | text (s : String)
  | list (items : List Data)
  | tuple (items : List Data)
  | absent
  | present (value : Data)
  | record (fields : List (String × Data))
  /-- A record of one nameless field. -/
  | wrapped (value : Data)
  | unitCase (label : String)
  | valueCase (label : String) (value : Data)
  | recordCase (label : String) (fields : List (String × Data))

namespace Data

def label {α : Type} [Text.Labelled α] (a : α) : Data := .unitCase (Text.Labelled.label a)

def listOf {α : Type} (encode : α → Data) (items : List α) : Data := .list (items.map encode)

def optional {α : Type} (encode : α → Data) : Option α → Data
  | some a => .present (encode a)
  | none => .absent

def texts (items : List String) : Data := listOf .text items

def word32 (n : UInt32) : Data := .nat n.toNat

mutual

/-- The JSON form: a case with parameters is an object with its label as the only key, and an absent
value is null. How a float is written is left open, because JSON has none that are not finite. -/
def toJson (float : Binary32 → Json) : Data → Json
  | bool b => .bool b
  | nat n => .nat n
  | .float x => float x
  | text s => .string s
  | list items => .array (itemsToJson float items)
  | tuple items => .array (itemsToJson float items)
  | absent => .null
  | present value => value.toJson float
  | record fields => .object (fieldsToJson float fields)
  | wrapped value => value.toJson float
  | unitCase label => .string label
  | valueCase label value => .object [(label, value.toJson float)]
  | recordCase label fields => .object [(label, .object (fieldsToJson float fields))]

def itemsToJson (float : Binary32 → Json) : List Data → List Json
  | [] => []
  | d :: ds => d.toJson float :: itemsToJson float ds

def fieldsToJson (float : Binary32 → Json) : List (String × Data) → List (String × Json)
  | [] => []
  | (name, d) :: fields => (name, d.toJson float) :: fieldsToJson float fields

end

end Data

end RenderPlan.Format
