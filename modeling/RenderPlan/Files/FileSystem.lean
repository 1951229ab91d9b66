import RenderPlan.Files.Path

/-! Files and directories as a value, and the operations on them. An operation either happens or
fails without effect; only the making of several directories can stop half-way. -/
namespace RenderPlan

/-- The names that lead from the root to a place. -/
abbrev Location := List String

inductive Entry
  | file (content : ByteArray)
  | directory

def Entry.isDirectory : Entry → Bool
  | file _ => false
  | directory => true

structure FileSystem where
  /-- What there is, the root apart. -/
  entries : List (Location × Entry) := []
  /-- The directory in which paths start that are not absolute. -/
  here : Location := []

inductive PathError
  | missing
  | notUsable
  deriving DecidableEq

namespace FileSystem

def entry? (fs : FileSystem) : Location → Option Entry
  | [] => some .directory
  | location => fs.entries.lookup location

def nameLimit : Nat := 255

def isUsableName (name : String) : Bool :=
  name.utf8ByteSize ≤ nameLimit && !name.toList.contains '\x00'

/-- Follows segments from a place. Every place but the last has to be a directory. -/
def follow (fs : FileSystem) : List String → Location → Except PathError Location
  | [], location => .ok location
  | segment :: rest, location =>
    match fs.entry? location with
    | none => .error .missing
    | some (.file _) => .error .notUsable
    | some .directory =>
      if Path.isVoid segment then fs.follow rest location
      else if segment = ".." then fs.follow rest location.dropLast
      else if isUsableName segment then fs.follow rest (location ++ [segment])
      else .error .notUsable

def start (fs : FileSystem) (path : String) : Location :=
  if Path.isAbsolute path then [] else fs.here

/-- The place a path leads to, whether or not there is anything. -/
def locate (fs : FileSystem) (path : String) : Except PathError Location :=
  if path = "" then .error .missing else fs.follow (Path.segments path) (fs.start path)

def find? (fs : FileSystem) (path : String) : Option Entry :=
  (fs.locate path).toOption.bind fs.entry?

def isDirectory (fs : FileSystem) (path : String) : Bool := (fs.find? path).any Entry.isDirectory

def read? (fs : FileSystem) (path : String) : Option ByteArray :=
  match fs.find? path with
  | some (.file content) => some content
  | _ => none

def readText? (fs : FileSystem) (path : String) : Option String :=
  (fs.read? path).bind String.fromUTF8?

def remove (fs : FileSystem) (location : Location) : FileSystem :=
  { fs with entries := fs.entries.filter fun e => e.1 ≠ location }

def put (fs : FileSystem) (location : Location) (entry : Entry) : FileSystem :=
  { fs with entries := (location, entry) :: (fs.remove location).entries }

def write (fs : FileSystem) (path : String) (content : ByteArray) : Option FileSystem :=
  match fs.locate path with
  | .ok location =>
    if (fs.entry? location).any Entry.isDirectory then none
    else some (fs.put location (.file content))
  | .error _ => none

/-- Makes a directory where there was nothing. A path of slashes only is the root, which is
there. -/
def makeDirectory (fs : FileSystem) (path : String) : Except PathError FileSystem :=
  let segments := (Path.segments path).reverse.dropWhile (· = "") |>.reverse
  match segments.getLast? with
  | none => .error .notUsable
  | some name => do
    let above ← fs.follow segments.dropLast (fs.start path)
    match fs.entry? above with
    | none => .error .missing
    | some (.file _) => .error .notUsable
    | some .directory =>
      if name = "." ∨ name = ".." ∨ !isUsableName name then .error .notUsable
      else if (fs.entry? (above ++ [name])).isSome then .error .notUsable
      else .ok (fs.put (above ++ [name]) .directory)

/-- Makes a directory that may have been there before, together with those on the way to it. The
bound is on the number of segments. -/
def makeDirectoriesWithin : (bound : Nat) → FileSystem → String → Bool × FileSystem
  | bound, fs, path =>
    if path = "" then (true, fs)
    else
      match fs.makeDirectory path, bound with
      | .ok fs, _ => (true, fs)
      | .error .notUsable, _ => (fs.isDirectory path, fs)
      | .error .missing, 0 => (false, fs)
      | .error .missing, bound + 1 =>
        match Path.parent? path with
        | none => (false, fs)
        | some parent =>
          match makeDirectoriesWithin bound fs parent with
          | (false, fs) => (false, fs)
          | (true, fs) =>
            match fs.makeDirectory path with
            | .ok fs => (true, fs)
            | .error _ => (fs.isDirectory path, fs)

def makeDirectories (fs : FileSystem) (path : String) : Bool × FileSystem :=
  makeDirectoriesWithin (Path.segments path).length fs path

/-- Moves a file, in place of another one if there is one. -/
def move (fs : FileSystem) (source target : String) : Option FileSystem :=
  match fs.locate source, fs.locate target with
  | .ok origin, .ok goal =>
    match fs.entry? origin with
    | some (.file content) =>
      if (fs.entry? goal).any Entry.isDirectory then none
      else some ((fs.remove origin).put goal (.file content))
    | _ => none
  | _, _ => none

def removeTree (fs : FileSystem) (path : String) : FileSystem :=
  match fs.locate path with
  | .ok location => { fs with entries := fs.entries.filter fun e => !location.isPrefixOf e.1 }
  | .error _ => fs

/-- The paths of all there is below the place where paths start, in order. A directory ends in a
slash. -/
def listing (fs : FileSystem) : List String :=
  let below := fs.entries.filter fun e => fs.here.isPrefixOf e.1 && e.1 ≠ fs.here
  let paths := below.map fun (location, entry) =>
    let path := Path.ofSegments (location.drop fs.here.length)
    if entry.isDirectory then path ++ "/" else path
  paths.mergeSort fun a b => a ≤ b

end FileSystem

end RenderPlan
