import RenderPlan.Format.JsonDocument
import RenderPlan.Format.RonDocument
import RenderPlan.Specification.Decoding

/-! The formats of specification files. -/
namespace RenderPlan
open Format

inductive FileFormat
  | ron
  | json
  deriving DecidableEq, Repr

namespace FileFormat

def name : FileFormat → String
  | ron => "RON"
  | json => "JSON"

/-- The format that a file name extension stands for, in letters of either case. -/
def ofExtension? (extension : String) : Option FileFormat :=
  match extension.toLower with
  | "ron" => some ron
  | "json" => some json
  | _ => none

end FileFormat

def Specification.parse (text : String) : FileFormat → Option Specification
  | .ron => (RonDocument.parse text).bind Specification.decode
  | .json => (Json.parse text).bind Specification.decode

end RenderPlan
