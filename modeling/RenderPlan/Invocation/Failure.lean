import RenderPlan.Generation.Run
import RenderPlan.Specification.FileFormat

/-! Why an invocation fails, and the messages that say so. -/
namespace RenderPlan

/-- A cause that lies outside of the generator. -/
inductive ForeignCause
  | files
  | ron
  | json
  | toml
  deriving DecidableEq

def FileFormat.cause : FileFormat → ForeignCause
  | ron => .ron
  | json => .json

def FileFormat.failureMessage (f : FileFormat) : String :=
  s!"Failed to parse {f.name} specification"

def configurationMessage : String := "Failed to parse generator configuration"

inductive Failure
  | unreadableConfiguration (path : String)
  | malformedConfiguration (path : String)
  | unknownFormat (path : String)
  | unreadableSpecification (path : String)
  | malformedSpecification (path : String) (format : FileFormat)
  | generation (path : String) (error : GenerationError)
  | noParentDirectory (path : String)
  | noStagingDirectory (parent : String)
  | notStaged (path : String)
  | noOutputDirectory (path : String)
  | notMoved (path : String)
  deriving DecidableEq

namespace Failure

def messages : Failure → List String
  | unreadableConfiguration path => [s!"Failed to read configuration file '{path}'"]
  | malformedConfiguration path => [s!"Failed to parse TOML from '{path}'", configurationMessage]
  | unknownFormat path => [s!"Cannot tell the format of '{path}': expected a .ron or .json file"]
  | unreadableSpecification path => [s!"Failed to read specification '{path}'"]
  | malformedSpecification path format =>
    [s!"Invalid specification '{path}'", format.failureMessage]
  | generation path e => [s!"Failed to generate from '{path}'", e.message, e.fault.message]
  | noParentDirectory path => [s!"Failed to create directory '{path}'"]
  | noStagingDirectory parent => [s!"Failed to create staging directory in '{parent}'"]
  | notStaged path => [s!"Failed to stage '{path}'"]
  | noOutputDirectory path => [s!"Failed to create output directory '{path}'"]
  | notMoved path => [s!"Failed to move '{path}' into place"]

/-- The cause behind the last message, if it lies outside. -/
def cause? : Failure → Option ForeignCause
  | malformedConfiguration _ => some .toml
  | malformedSpecification _ format => some format.cause
  | unknownFormat _ | generation .. => none
  | _ => some .files

end Failure

end RenderPlan
