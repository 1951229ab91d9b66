import RenderPlan.Number.Binary32
import RenderPlan.Text.Labelled

/-! What the readers of specifications ask of a parsed document, whatever its format. Every
question has an answer or fails; there is no partial reading. -/
namespace RenderPlan.Format
open Number Text

/-- A parsed document of type `τ`. -/
class Document (τ : Type) where
  text? : τ → Option String
  /-- A natural number below a bound. -/
  natBelow? : Nat → τ → Option Nat
  float? : τ → Option Binary32
  list? : τ → Option (List τ)
  /-- Exactly the given number of values. -/
  tuple? : Nat → τ → Option (List τ)
  /-- An optional value that is present or absent. -/
  optional? : τ → Option (Option τ)
  /-- The values of the named fields of a record of the named type. A field may be missing. -/
  record? : String → List String → τ → Option (List (Option τ))
  /-- The label of a case without parameters. -/
  unitCase? : τ → Option String
  /-- The label and the parameter of a case with one nameless parameter. -/
  valueCase? : τ → Option (String × τ)
  /-- The label of a case with named parameters. -/
  recordCase? : τ → Option String
  /-- The values of the named parameters of a case. -/
  parameters? : List String → τ → Option (List (Option τ))

namespace Document
variable {τ : Type} [Document τ]

def word32? (d : τ) : Option UInt32 := (natBelow? UInt32.size d).map UInt32.ofNat

def listOf? {α : Type} (read : τ → Option α) (d : τ) : Option (List α) :=
  (list? d).bind (List.mapM read)

def optionalOf? {α : Type} (read : τ → Option α) (d : τ) : Option (Option α) :=
  match optional? d with
  | some (some v) => (read v).map some
  | some none => some none
  | none => none

def label? {α : Type} [Labelled α] (d : τ) : Option α := (unitCase? d).bind Labelled.ofLabel?

def required {α : Type} (read : τ → Option α) : Option τ → Option α
  | some v => read v
  | none => none

/-- A field that stands for `default` when it is missing. -/
def withDefault {α : Type} (default : α) (read : τ → Option α) : Option τ → Option α
  | some v => read v
  | none => some default

end Document

end RenderPlan.Format
