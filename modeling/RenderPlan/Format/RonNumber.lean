import RenderPlan.Format.RonLexis
import RenderPlan.Number.SignedDecimal

/-! The numbers of a RON text. A text is cut into numerals without regard to their type, and a
numeral is read once it is known what kind of number is wanted. -/
namespace RenderPlan.Format
open Number RonLexis Text

/-- A number as it stands in a text: spelled out, or as a byte in quotes. -/
inductive RonNumeral
  | spelled (spelling : List Char)
  | byte

namespace RonNumber

/-! Integers -/

def isIntegerPart (c : Char) : Bool := (hexValue c).isSome || c == '_'

/-- The base that the first characters of an integer tell, and its digits. -/
def based : List Char → Nat × List Char
  | '0' :: 'b' :: cs => (2, cs)
  | '0' :: 'o' :: cs => (8, cs)
  | '0' :: 'x' :: cs => (16, cs)
  | cs => (10, cs)

/-- The sign and the value of an integer that may end in the name of its type. Underscores may stand
after its first digit. -/
def readTyped (type : String) (spelling : List Char) : Option (Bool × Nat) :=
  let (negative, body) := SignedDecimal.signed spelling
  let (base, cs) := based body
  let digits := cs.takeWhile isIntegerPart
  let tail := cs.dropWhile isIntegerPart
  if digits.head? = some '_' ∨ ¬(tail = [] ∨ tail = type.toList) then none
  else (readInBase base (digits.filter (· ≠ '_'))).map fun n => (negative, n)

/-- An integer from zero up to a bound. A minus sign is taken in front of zero only. -/
def readNat (type : String) (bound : Nat) (spelling : List Char) : Option Nat :=
  match readTyped type spelling with
  | some (negative, n) => if n < bound ∧ (negative → n = 0) then some n else none
  | none => none

/-! Floats -/

def isFloatPart (c : Char) : Bool := c.isDigit || "eE.+-_".toList.contains c

/-- Drops the underscores of a numeral. Each has to follow a digit or the mark of an exponent, with
nothing but signs between. -/
def joined : (allowed : Bool) → List Char → Option (List Char)
  | _, [] => some []
  | allowed, '_' :: cs => if allowed then joined true cs else none
  | allowed, c :: cs =>
    (joined (c.isDigit || c == 'e' || c == 'E' || (c != '.' && allowed)) cs).map (c :: ·)

def special : String → Option Binary32
  | "inf" | "+inf" => some (Binary32.infinity false)
  | "-inf" => some (Binary32.infinity true)
  | "NaN" | "+NaN" | "-NaN" => some Binary32.nan
  | _ => none

def readFloat (type : String) (spelling : List Char) : Option Binary32 :=
  let stripped := (after? type.toList.reverse spelling.reverse).map List.reverse
  match special (String.ofList spelling), stripped.bind fun cs => special (String.ofList cs) with
  | some x, _ | none, some x => some x
  | none, none =>
    let run := spelling.takeWhile isFloatPart
    let tail := spelling.dropWhile isFloatPart
    if tail = [] ∨ tail = type.toList then
      ((joined false run).bind SignedDecimal.read).map SignedDecimal.toBinary32
    else none

/-! Numerals -/

/-- The types an integer can name, with the number of values from zero up, and whether there are
negative ones. -/
def integerTypes : List (String × Nat × Bool) :=
  [("i8", 0x80, true), ("i16", 0x8000, true), ("i32", 0x80000000, true),
   ("i64", 0x8000000000000000, true), ("u8", UInt8.size, false), ("u16", UInt16.size, false),
   ("u32", UInt32.size, false), ("u64", UInt64.size, false)]

def isNumber (spelling : List Char) : Bool :=
  (readFloat "f32" spelling).isSome || (readFloat "f64" spelling).isSome ||
    integerTypes.any fun (type, bound, signed) =>
      match readTyped type spelling with
      | some (negative, n) => if negative then signed && n ≤ bound || n == 0 else n < bound
      | none => false

/-- The characters of a number, which end before the two points of a range. -/
def spelling : List Char → List Char × List Char
  | '.' :: '.' :: cs => ([], '.' :: '.' :: cs)
  | c :: cs =>
    if isRawPart c then
      let (run, rest) := spelling cs
      (c :: run, rest)
    else ([], c :: cs)
  | [] => ([], [])

def isNumberWord (w : String) : Bool :=
  w ∈ ["inf", "NaN", "inff32", "inff64", "NaNf32", "NaNf64"]

def numeral : List Char → Option (RonNumeral × List Char)
  | 'b' :: '\'' :: cs => (byte? cs).map fun cs => (.byte, cs)
  | cs =>
    if cs.head?.any fun c => c.isDigit || c == '+' || c == '-' || c == '.' then
      match spelling cs with
      | ([], _) => none
      | (run, rest) => some (.spelled run, rest)
    else
      let run := cs.takeWhile isWordPart
      if isNumberWord (String.ofList run) then some (.spelled run, cs.dropWhile isWordPart)
      else none

/-- Whether a numeral is a number of any type. -/
def isProper : RonNumeral → Bool
  | .spelled spelling => isNumber spelling
  | .byte => true

end RonNumber

end RenderPlan.Format
