import RenderPlan.Text.Numeral

/-! Paths into a host value, such as `Lights[2].Color.z`. -/
namespace RenderPlan

inductive PathSegment
  | field (name : String)
  /-- An array element or a matrix column. -/
  | index (i : Nat)
  /-- A vector component. -/
  | component (i : Nat)
  deriving DecidableEq

/-- The segments, outermost first. -/
structure ValuePath where
  segments : List PathSegment := []
  deriving DecidableEq

/-- The text of a component: a letter, or its number past the fourth. -/
def componentText : Nat → String
  | 0 => ".x"
  | 1 => ".y"
  | 2 => ".z"
  | 3 => ".w"
  | n => "." ++ Text.decimal n

/-- The text of a segment that is not the first. -/
def PathSegment.text : PathSegment → String
  | field name => "." ++ name
  | index i => "[" ++ Text.decimal i ++ "]"
  | component i => componentText i

namespace ValuePath

def root : ValuePath := {}

def extend (p : ValuePath) (s : PathSegment) : ValuePath := ⟨p.segments ++ [s]⟩

def field (p : ValuePath) (name : String) : ValuePath := p.extend (.field name)

def index (p : ValuePath) (i : Nat) : ValuePath := p.extend (.index i)

def component (p : ValuePath) (i : Nat) : ValuePath := p.extend (.component i)

/-- A field in front has no dot. -/
def text (p : ValuePath) : String :=
  match p.segments with
  | .field name :: rest => name ++ String.join (rest.map PathSegment.text)
  | segments => String.join (segments.map PathSegment.text)

end ValuePath

end RenderPlan
