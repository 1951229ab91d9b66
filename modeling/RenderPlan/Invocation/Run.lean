import RenderPlan.Configuration.Reading
import RenderPlan.Files.Store
import RenderPlan.Generation.Files
import RenderPlan.Invocation.Arguments
import RenderPlan.Invocation.Failure

/-! One invocation from its arguments to its files. All files are first written to a directory of
their own beside the output, and then moved one by one. -/
namespace RenderPlan

structure Outcome where
  /-- The files written, none if the specification was only checked. -/
  written : List String
  diagnostics : Nat
  deriving DecidableEq, Repr

def FileFormat.ofPath (path : String) : Except Failure FileFormat :=
  match (Path.extension? path).bind ofExtension? with
  | some format => .ok format
  | none => .error (.unknownFormat path)

section
variable {m : Type → Type} [Monad m] [FileStore m]

def orFail (failure : Failure) (step : m Bool) : ExceptT Failure m Unit := do
  if ← (step : m Bool) then return () else throw failure

def defaultConfigFile : String := "pipegen.toml"

def Configuration.loadFrom (path : String) : ExceptT Failure m Configuration := do
  match ← (FileStore.readText? path : m (Option String)) with
  | none => throw (.unreadableConfiguration path)
  | some text =>
    match Configuration.parse text with
    | some c => return c
    | none => throw (.malformedConfiguration path)

/-- Reads the configuration file that was named, or else the default one if there is one. -/
def Configuration.load : Option String → ExceptT Failure m Configuration
  | some path => loadFrom path
  | none => do
    if ← (FileStore.isPresent defaultConfigFile : m Bool) then loadFrom defaultConfigFile
    else return {}

def Specification.load (path : String) : ExceptT Failure m Specification := do
  let format ← ExceptT.mk (pure (FileFormat.ofPath path))
  match ← (FileStore.readText? path : m (Option String)) with
  | none => throw (.unreadableSpecification path)
  | some text =>
    match Specification.parse text format with
    | some spec => return spec
    | none => throw (.malformedSpecification path format)

namespace ArtifactFile

def stagingStart : String := ".pipegen-staging-"

def stage (staging : String) : List ArtifactFile → ExceptT Failure m Unit
  | [] => return ()
  | f :: files => do
    let path := Path.join staging f.name
    orFail (.notStaged path) (FileStore.writeText path f.contents)
    stage staging files

/-- Moves staged files into place. The answer is where they went. -/
def moveAll (staging outputDir : String) : List ArtifactFile → ExceptT Failure m (List String)
  | [] => return []
  | f :: files => do
    let target := Path.join outputDir f.name
    orFail (.notMoved target) (FileStore.move (Path.join staging f.name) target)
    return target :: (← moveAll staging outputDir files)

/-- Stages all files, and moves them once every one of them is written. -/
def writeStaged (staging outputDir : String) (files : List ArtifactFile) :
    ExceptT Failure m (List String) := do
  stage staging files
  orFail (.noOutputDirectory outputDir) (FileStore.makeDirectories outputDir)
  moveAll staging outputDir files

def stagingParent (outputDir : String) : String :=
  match Path.parent? outputDir with
  | some parent => if parent = "" then "." else parent
  | none => "."

/-- Writes files to a directory by way of a staging directory, which is removed in any case. -/
def writeAll (outputDir : String) (files : List ArtifactFile) :
    ExceptT Failure m (List String) := do
  let parent := stagingParent outputDir
  orFail (.noParentDirectory parent) (FileStore.makeDirectories parent)
  match ← (FileStore.makeFreshDirectory? parent stagingStart : m (Option String)) with
  | none => throw (.noStagingDirectory parent)
  | some staging =>
    ExceptT.mk do
      let result ← (writeStaged staging outputDir files).run
      FileStore.removeTree staging
      return result

end ArtifactFile

def Arguments.run (a : Arguments) : ExceptT Failure m Outcome := do
  let config := a.override (← Configuration.load a.config)
  let spec ← Specification.load a.input
  match spec.generate with
  | .error e => throw (.generation a.input e)
  | .ok artifacts =>
    let diagnostics := artifacts.diagnostics.length
    if a.check then return { written := [], diagnostics }
    else
      return {
        written := ← ArtifactFile.writeAll config.outputDir (artifacts.files config)
        diagnostics }

end

end RenderPlan
