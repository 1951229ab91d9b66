import RenderPlan.Files.FileSystem

/-! What an invocation asks of the place where its files are, and the answer of a file system that
is held as a value. -/
namespace RenderPlan

/-- A place for files. Every operation tells whether it worked. -/
class FileStore (m : Type → Type) where
  isPresent : (path : String) → m Bool
  readText? : (path : String) → m (Option String)
  /-- Makes a directory and those on the way to it, unless they are there. -/
  makeDirectories : (path : String) → m Bool
  /-- Makes a directory of a new name, which starts in the given way, inside another one. The answer
  is its path. -/
  makeFreshDirectory? : (parent start : String) → m (Option String)
  writeText : (path text : String) → m Bool
  move : (source target : String) → m Bool
  removeTree : (path : String) → m Unit

namespace FileSystem

def attempt (new : Option FileSystem) : StateM FileSystem Bool := do
  match new with
  | some fs => set fs; return true
  | none => return false

/-- The first numbered path that leads to nothing. -/
def freshPath (fs : FileSystem) (parent start : String) : String :=
  let candidate := fun k => Path.join parent (start ++ toString k)
  candidate (((List.range (fs.entries.length + 1)).find? fun k =>
    (fs.find? (candidate k)).isNone).getD 0)

instance : FileStore (StateM FileSystem) where
  isPresent path := do return ((← get).find? path).isSome
  readText? path := do return (← get).readText? path
  makeDirectories path := do
    let (made, fs) := (← get).makeDirectories path
    set fs
    return made
  makeFreshDirectory? parent start := do
    let fs ← get
    let path := fs.freshPath parent start
    let made ← attempt (fs.makeDirectory path).toOption
    return if made then some path else none
  writeText path text := do attempt ((← get).write path text.toUTF8)
  move source target := do attempt ((← get).move source target)
  removeTree path := modify fun fs => fs.removeTree path

end FileSystem

end RenderPlan
