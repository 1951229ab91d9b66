/-! Paths as texts with slashes between their segments. Empty segments and single points say
nothing, except for a point that comes first. -/
namespace RenderPlan.Path

/-- Cuts a text at its slashes: what comes before the first one, and what follows each of them. -/
def cut : List Char → List Char × List (List Char)
  | [] => ([], [])
  | c :: cs =>
    let (first, rest) := cut cs
    if c = '/' then ([], first :: rest) else (c :: first, rest)

def glue (first : List Char) (rest : List (List Char)) : List Char :=
  first ++ rest.flatMap fun s => '/' :: s

/-- The segments of a path, of which there is always one. -/
def segments (path : String) : List String :=
  String.ofList (cut path.toList).1 :: (cut path.toList).2.map String.ofList

def ofSegments : List String → String
  | [] => ""
  | first :: rest => String.ofList (glue first.toList (rest.map String.toList))

def isAbsolute (path : String) : Bool := path.toList.head? = some '/'

def isVoid (segment : String) : Bool := segment = "" || segment = "."

/-- Drops segments at the end that say nothing, but never the first one. -/
def dropVoid : List String → List String
  | [] => []
  | first :: rest => first :: (rest.reverse.dropWhile isVoid).reverse

/-- The path to the directory of what a path leads to. The root and the empty path have none. -/
def parent? (path : String) : Option String :=
  let segs := dropVoid (segments path)
  if segs = [""] then none
  else
    let above := dropVoid segs.dropLast
    some (if above = [""] then "/" else ofSegments above)

/-- The last segment, if it is a name. -/
def fileName? (path : String) : Option String :=
  match (dropVoid (segments path)).getLast? with
  | some name => if isVoid name || name = ".." then none else some name
  | none => none

/-- What follows the last point of the name. The name must not start with that point. -/
def extension? (path : String) : Option String :=
  match fileName? path with
  | some name =>
    let reversed := name.toList.reverse
    let tail := reversed.takeWhile (· ≠ '.')
    match reversed.dropWhile (· ≠ '.') with
    | _ :: _ :: _ => some (String.ofList tail.reverse)
    | _ => none
  | none => none

def join (directory name : String) : String :=
  if directory = "" || directory.toList.getLast? = some '/' then directory ++ name
  else directory ++ "/" ++ name

end RenderPlan.Path
