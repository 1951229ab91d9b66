import RenderPlan.Invocation.Run

/-! The command line. It reads and writes real files, and reports what went wrong. -/
namespace RenderPlan.CommandLine

def succeeds (action : IO Unit) : IO Bool := do
  try
    action
    return true
  catch _ => return false

def attempts : Nat := 16

def freshDirectory? (parent start : String) : Nat → IO (Option String)
  | 0 => return none
  | n + 1 => do
    let path := Path.join parent (start ++ toString (← IO.rand 0 999999))
    if ← succeeds (IO.FS.createDir path) then return some path
    else freshDirectory? parent start n

instance : FileStore IO where
  isPresent path := succeeds (discard (IO.FS.Handle.mk path .read))
  readText? path := do
    try
      return some (← IO.FS.readFile path)
    catch _ => return none
  makeDirectories path := if path = "" then return true else succeeds (IO.FS.createDirAll path)
  makeFreshDirectory? parent start := freshDirectory? parent start attempts
  writeText path text := succeeds (IO.FS.writeFile path text)
  move source target := succeeds (IO.FS.rename source target)
  removeTree path := discard (succeeds (IO.FS.removeDirAll path))

def usage : String :=
  "Usage: pipegen [OPTIONS] <INPUT>\n\n" ++
  "Arguments:\n" ++
  "  <INPUT>  The specification to read (.ron or .json)\n\n" ++
  "Options:\n" ++
  "  -o, --output <OUTPUT>        Directory the artifacts are written to\n" ++
  "      --backend <BACKEND>      The targeted graphics API: opengl, d3d12\n" ++
  "      --windowing <WINDOWING>  The windowing shim: sdl, glfw\n" ++
  "      --config <CONFIG>        Configuration file to use instead of pipegen.toml\n" ++
  "      --check                  Validate the specification without writing anything\n" ++
  "      --window <WINDOW>        Initial window size, e.g. 1920x1080\n" ++
  "  -v, --verbose...             Increase log verbosity\n" ++
  "  -h, --help                   Print help\n" ++
  "  -V, --version                Print version"

def usageMessage : UsageError → String
  | .missingInput => "the input is missing"
  | .unknownArgument => "unexpected argument"
  | .invalidValue => "a value is missing or not allowed"
  | .malformedValue => "a value is malformed"
  | .repeated => "an argument cannot be used more than once"
  | .unwantedValue => "a flag takes no value"
  | .helpRequested | .versionRequested => ""

def causeMessage : ForeignCause → String
  | .files => "the file system refused"
  | .ron => "not a specification in RON"
  | .json => "not a specification in JSON"
  | .toml => "not a configuration in TOML"

/-- The lines that report a failure: the message, then its causes. -/
def report (f : Failure) : List String :=
  match f.messages ++ f.cause?.toList.map causeMessage with
  | [] => []
  | first :: causes => s!"error: {first}" :: causes.map fun c => s!"  caused by: {c}"

def run (args : List String) : IO UInt32 := do
  match Arguments.parse args with
  | .error .helpRequested =>
    IO.println usage
    return 0
  | .error .versionRequested =>
    IO.println Artifacts.generatorName
    return 0
  | .error e =>
    IO.eprintln s!"error: {usageMessage e}\n\n{usage}"
    return 2
  | .ok a =>
    match ← a.run.run with
    | .ok _ => return 0
    | .error f =>
      for line in report f do IO.eprintln line
      return 1

end RenderPlan.CommandLine

def main (args : List String) : IO UInt32 := RenderPlan.CommandLine.run args
