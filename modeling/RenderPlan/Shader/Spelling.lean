import RenderPlan.Text.Blank
import RenderPlan.Text.Numeral
import RenderPlan.Text.Identifier
import RenderPlan.Shader.Type

/-! How types are spelled and read. Array lengths follow the base name, outermost first, so that
`float[2][3]` is an array of two arrays of three floats. -/
namespace RenderPlan.ShaderType
open Text

def baseSpelling : ShaderType → String
  | scalar kind => kind.word
  | vector kind arity => kind.vectorWord ++ String.singleton arity.digit
  | matrix columns rows =>
    if columns = rows then "mat" ++ String.singleton columns.digit
    else "mat" ++ String.singleton columns.digit ++ "x" ++ String.singleton rows.digit
  | array element _ => element.baseSpelling
  | struct name => name

/-- The array lengths in brackets, outermost first. -/
def lengthSpelling : ShaderType → String
  | array element length => "[" ++ decimal length.count ++ "]" ++ element.lengthSpelling
  | _ => ""

def spelling (t : ShaderType) : String := t.baseSpelling ++ t.lengthSpelling

def readScalar (cs : List Char) : Option Scalar :=
  Scalar.all.find? fun kind => kind.word.toList == cs

def readDimension : List Char → Option Arity
  | [c] => Arity.ofDigit? c
  | _ => none

def readVector (cs : List Char) : Option ShaderType :=
  Scalar.all.findSome? fun kind =>
    (after? kind.vectorWord.toList cs).bind fun digits =>
      (readDimension digits).map (vector kind)

/-- The dimensions after `mat`: one for a square matrix, or columns and rows around an `x`. -/
def readShape (shape : List Char) : Option (Arity × Arity) :=
  match shape.dropWhile (· != 'x') with
  | [] => (readDimension shape).map fun n => (n, n)
  | _ :: rows =>
    match readDimension (shape.takeWhile (· != 'x')), readDimension rows with
    | some c, some r => some (c, r)
    | _, _ => none

def readMatrix (cs : List Char) : Option ShaderType :=
  (after? "mat".toList cs).bind fun shape =>
    (readShape shape).map fun (columns, rows) => matrix columns rows

/-- A vector or matrix word followed by nothing but digits and `x`: never the name of a struct,
even where the dimensions are not legal. -/
def isBuiltinShaped (cs : List Char) : Bool :=
  (Scalar.all.map Scalar.vectorWord ++ ["mat"]).any fun word =>
    match after? word.toList cs with
    | some rest => rest ≠ [] && rest.all fun c => c.isDigit || c == 'x'
    | none => false

def readStruct (cs : List Char) : Option ShaderType :=
  if !isBuiltinShaped cs && isIdentifierChars cs then some (.struct (String.ofList cs)) else none

/-- A base name: a builtin type if it spells one, otherwise a struct. -/
def readBase (cs : List Char) : Option ShaderType :=
  ((readScalar cs).map scalar).or ((readVector cs).or ((readMatrix cs).or (readStruct cs)))

theorem length_lt_of_dropWhile_eq {p : Char → Bool} {cs rest : List Char} {c : Char}
    (h : cs.dropWhile p = c :: rest) : rest.length < cs.length := by
  have hl := (List.dropWhile_sublist p (l := cs)).length_le
  rw [h, List.length_cons] at hl
  omega

/-- The bracketed lengths after a base name, in the order of the text. -/
def readLengths (cs : List Char) : Option (List UInt64) :=
  match cs with
  | [] => some []
  | '[' :: inner =>
    match _h : inner.dropWhile (· != ']') with
    | [] => none
    | _ :: rest =>
      match readWord64 (trim (inner.takeWhile (· != ']'))), readLengths (trimStart rest) with
      | some n, some ns => some (n :: ns)
      | _, _ => none
  | _ => none
termination_by cs.length
decreasing_by
  have h₁ := length_lt_of_dropWhile_eq _h
  have h₂ := length_trimStart_le rest
  simp only [List.length_cons]
  omega

/-- Wraps a type in array levels, the first length outermost. -/
def wrap (t : ShaderType) : List UInt64 → Except TypeError ShaderType
  | [] => .ok t
  | n :: ns => do arrayOf (← t.wrap ns) n

/-- Reads a type. Blanks are allowed around the whole, before a bracket and within brackets. -/
def parse (text : String) : Except TypeError ShaderType :=
  let trimmed := trim text.toList
  let name := trimmed.takeWhile (· != '[')
  let suffix := trimmed.dropWhile (· != '[')
  match readLengths suffix, readBase (trimEnd name) with
  | some lengths, some t => t.wrap lengths
  | _, _ => .error (.unparseable (String.ofList trimmed))

/-- Names that spell a scalar, vector or matrix. -/
def isBuiltinName (name : String) : Bool :=
  match readBase name.toList with
  | some t => t.isBuiltin
  | none => false

end RenderPlan.ShaderType
