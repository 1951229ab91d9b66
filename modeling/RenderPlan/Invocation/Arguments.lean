import RenderPlan.Configuration.Basic

/-! The arguments of an invocation: one input, settings that take a value, and flags. A value that
stands apart from its setting is only looked at when the next argument calls for it, so that of two
mistakes the later one can be the one reported. -/
namespace RenderPlan
open Text

structure Arguments where
  input : String
  output : Option String := none
  backend : Option Backend := none
  windowing : Option Windowing := none
  /-- The configuration file to read in place of the usual one. -/
  config : Option String := none
  /-- Whether nothing is to be written. -/
  check : Bool := false
  window : Option WindowSize := none
  /-- How often more messages were asked for. -/
  verbose : Nat := 0
  deriving DecidableEq, Repr

inductive UsageError
  | missingInput
  | unknownArgument
  | invalidValue
  | malformedValue
  | repeated
  | unwantedValue
  | helpRequested
  | versionRequested
  deriving DecidableEq, Repr

/-- The arguments that have a value. -/
inductive Slot
  | input
  | output
  | backend
  | windowing
  | config
  | window
  deriving DecidableEq

inductive Flag
  | check
  | verbose
  | help
  | version
  deriving DecidableEq

structure Draft where
  input : Option String := none
  output : Option String := none
  backend : Option Backend := none
  windowing : Option Windowing := none
  config : Option String := none
  check : Bool := false
  window : Option WindowSize := none
  verbose : Nat := 0
  /-- The slot that was named last, with its value if that has come. -/
  pending : Option (Slot × Option String) := none

namespace Draft

def maxVerbose : Nat := 255

def isFilled (d : Draft) : Slot → Bool
  | .input => d.input.isSome
  | .output => d.output.isSome
  | .backend => d.backend.isSome
  | .windowing => d.windowing.isSome
  | .config => d.config.isSome
  | .window => d.window.isSome

def path (value : String) : Except UsageError String :=
  if value = "" then .error .invalidValue else .ok value

def label {α : Type} [Labelled α] (value : String) : Except UsageError α :=
  match Labelled.ofLabel? value with
  | some a => .ok a
  | none => .error .invalidValue

/-- Gives a slot its value. A slot takes one value only. -/
def fill (d : Draft) (slot : Slot) (value : String) : Except UsageError Draft :=
  if d.isFilled slot then .error .repeated
  else
    match slot with
    | .input => (path value).map fun v => { d with input := some v }
    | .output => (path value).map fun v => { d with output := some v }
    | .backend => (label value).map fun v => { d with backend := some v }
    | .windowing => (label value).map fun v => { d with windowing := some v }
    | .config => (path value).map fun v => { d with config := some v }
    | .window =>
      match WindowSize.parse value with
      | .ok v => .ok { d with window := some v }
      | .error _ => .error .malformedValue

def settle (d : Draft) : Except UsageError Draft :=
  match d.pending with
  | none => .ok d
  | some (_, none) => .error .invalidValue
  | some (slot, some value) => { d with pending := none }.fill slot value

def raise (d : Draft) (flag : Flag) : Except UsageError Draft := do
  let d ← d.settle
  match flag with
  | .check => if d.check then .error .repeated else .ok { d with check := true }
  | .verbose => .ok { d with verbose := min maxVerbose (d.verbose + 1) }
  | .help => .error .helpRequested
  | .version => .error .versionRequested

/-- A setting that was named, with the value that was attached to it or still has to come. -/
def setting (d : Draft) (slot : Slot) (value : Option String) : Except UsageError Draft := do
  let d ← d.settle
  match value with
  | some value => d.fill slot value
  | none => .ok { d with pending := some (slot, none) }

def longSlot : String → Option Slot
  | "output" => some .output
  | "backend" => some .backend
  | "windowing" => some .windowing
  | "config" => some .config
  | "window" => some .window
  | _ => none

def longFlag : String → Option Flag
  | "check" => some .check
  | "verbose" => some .verbose
  | "help" => some .help
  | "version" => some .version
  | _ => none

def shortFlag : Char → Option Flag
  | 'v' => some .verbose
  | 'h' => some .help
  | 'V' => some .version
  | _ => none

/-- An argument after two hyphens. A value may be attached to the name by an equals sign. -/
def long (d : Draft) (cs : List Char) : Except UsageError Draft :=
  let name := String.ofList (cs.takeWhile (· ≠ '='))
  let value := match cs.dropWhile (· ≠ '=') with
    | _ :: v => some (String.ofList v)
    | [] => none
  match longSlot name, longFlag name, value with
  | some slot, _, value => d.setting slot value
  | none, some flag, none => d.raise flag
  | none, some _, some _ => .error .unwantedValue
  | none, none, _ => .error .unknownArgument

/-- Letters after one hyphen. What follows the letter of a setting is its value. -/
def short (d : Draft) : List Char → Except UsageError Draft
  | [] => .ok d
  | 'o' :: [] => d.setting .output none
  | 'o' :: '=' :: value => d.setting .output (some (String.ofList value))
  | 'o' :: value => d.setting .output (some (String.ofList value))
  | c :: cs =>
    match shortFlag c with
    | some flag => do short (← d.raise flag) cs
    | none => .error .unknownArgument

/-- An argument that is neither a setting nor a flag. There is room for one. -/
def positional (d : Draft) (arg : String) : Except UsageError Draft :=
  if d.input.isSome ∨ d.pending.any (·.1 = .input) then .error .unknownArgument
  else d.settle.map fun d => { d with pending := some (.input, some arg) }

/-- One argument before the end of the settings. -/
def argument (d : Draft) (arg : String) : Except UsageError Draft :=
  match arg.toList, d.pending with
  | '-' :: '-' :: cs, _ => d.long cs
  | '-' :: c :: cs, _ => d.short (c :: cs)
  | _, some (slot, none) => .ok { d with pending := some (slot, some arg) }
  | _, _ => d.positional arg

/-- Reads arguments. After two hyphens that stand alone there are no more settings. -/
def read : Draft → List String → Except UsageError Draft
  | d, [] => d.settle
  | d, arg :: args =>
    if arg = "--" then do
      (← args.foldlM positional d).settle
    else do read (← d.argument arg) args

end Draft

namespace Arguments

def parse (args : List String) : Except UsageError Arguments := do
  let d ← ({} : Draft).read args
  match d.input with
  | some input =>
    return {
      input
      output := d.output
      backend := d.backend
      windowing := d.windowing
      config := d.config
      check := d.check
      window := d.window
      verbose := d.verbose }
  | none => .error .missingInput

def override (a : Arguments) (c : Configuration) : Configuration where
  backend := a.backend.getD c.backend
  windowing := a.windowing.getD c.windowing
  outputDir := a.output.getD c.outputDir
  window := a.window.getD c.window

end Arguments

end RenderPlan
