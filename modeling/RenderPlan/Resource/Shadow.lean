import RenderPlan.Text.Numeral

/-! Shadow targets. A pass that samples a texture and renders into it as well renders into a copy,
the shadow, and the two are swapped afterwards. The shadow is named after its texture. The names are
numbered by a counter of 32 bits. The first free one among all numbers is found as well if fewer names
are taken than the counter can tell apart. -/
namespace RenderPlan

/-- What becomes of a counter of 32 bits behind its greatest number: the run is given up, or it goes on
with the least number. -/
inductive Overflow
  | stops
  | wraps
  deriving DecidableEq

def Overflow.next? (o : Overflow) (n : Int32) : Option Int32 :=
  if o = stops ∧ n = Int32.maxValue then none else some (n + 1)

structure ShadowTarget where
  texture : String
  name : String
  deriving DecidableEq

namespace ShadowTarget

/-- The name of the shadow under a number of the counter. -/
def numbered (texture : String) (attempt : Int32) : String :=
  texture ++ "Target" ++ Text.signedDecimal attempt.toInt

/-- Asks for a name, and if it is taken for the one under the next number. Gives the names asked for
and the free one. More than `limit` refusals mean that the numbers repeat and there is no end. -/
def searchFrom (o : Overflow) (texture : String) (taken : List String) :
    (limit : Nat) → (name : String) → (attempt : Int32) → Option (List String × String)
  | 0, name, _ => if name ∈ taken then none else some ([name], name)
  | limit + 1, name, attempt =>
    if name ∈ taken then do
      let next ← o.next? attempt
      let (names, found) ← searchFrom o texture taken limit (numbered texture attempt) next
      return (name :: names, found)
    else some ([name], name)

/-- The search for the name of a texture's shadow, with the names asked for. -/
def search? (o : Overflow) (texture : String) (taken : List String) :
    Option (List String × ShadowTarget) :=
  (searchFrom o texture taken taken.length (texture ++ "Target") 1).map fun (names, name) =>
    (names, ⟨texture, name⟩)

/-- The names tried for the shadow of a texture, in order, if the numbers have no end. -/
def candidate (texture : String) : Nat → String
  | 0 => texture ++ "Target"
  | attempt + 1 => texture ++ "Target" ++ Text.decimal (attempt + 1)

/-- The number of candidates that are taken before the first free one, from `attempt` on. A list of
taken names blocks no more candidates than it is long. -/
def takenBefore (texture : String) (taken : List String) : (limit attempt : Nat) → Nat
  | 0, _ => 0
  | limit + 1, attempt =>
    if candidate texture attempt ∈ taken then takenBefore texture taken limit (attempt + 1) + 1
    else 0

/-- How many candidates are passed over. -/
def rejected (texture : String) (taken : List String) : Nat :=
  takenBefore texture taken taken.length 0

/-- The shadow of a texture under the first candidate that is not taken. The search with a counter of
32 bits finds the same if fewer than 2147483647 names are taken. -/
def named (texture : String) (taken : List String) : ShadowTarget :=
  ⟨texture, candidate texture (rejected texture taken)⟩

/-- The candidates that were looked at, the chosen one last. -/
def asked (texture : String) (taken : List String) : List String :=
  (List.range (rejected texture taken + 1)).map (candidate texture)

end ShadowTarget

end RenderPlan
