/-! Finite vocabularies: types whose few values each have a fixed word in files and reports. -/
namespace RenderPlan.Text

/-- A type whose values are listed and named. -/
class Labelled (α : Type) where
  all : List α
  label : α → String

def Labelled.ofLabel? {α : Type} [Labelled α] (word : String) : Option α :=
  (all : List α).find? fun a => Labelled.label a == word

end RenderPlan.Text
