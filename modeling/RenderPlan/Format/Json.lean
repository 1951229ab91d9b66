import RenderPlan.Number.Scaling
import RenderPlan.Text.Numeral

/-! JSON values and their texts. A number written without point or exponent is an integer if it
fits a 64-bit word; any other is a word and a power of ten. -/
namespace RenderPlan.Format
open Number Text

inductive JsonNumber
  | integer (n : Int)
  | real (negative : Bool) (significand : Nat) (exponent : Int)
  deriving DecidableEq

inductive Json
  | null
  | bool (b : Bool)
  | number (n : JsonNumber)
  | string (s : String)
  /-- A string whose escapes hold half of a surrogate pair, so that it denotes no text, or an object
  with such a key. -/
  | unpaired
  | array (items : List Json)
  /-- The members in the order of the text, repeated keys included. -/
  | object (members : List (String × Json))

namespace Json

def nat (n : Nat) : Json := .number (.integer n)

def isSpace (c : Char) : Bool := c == ' ' || c == '\n' || c == '\t' || c == '\r'

def skipSpaces (cs : List Char) : List Char := cs.dropWhile isSpace

def hexUnit : List Char → Option (Nat × List Char)
  | a :: b :: c :: d :: rest => do
    let unit := (((← hexValue a) * 16 + (← hexValue b)) * 16 + (← hexValue c)) * 16 + (← hexValue d)
    return (unit, rest)
  | _ => none

def isHighSurrogate (n : Nat) : Bool := 0xD800 ≤ n && n ≤ 0xDBFF

def isLowSurrogate (n : Nat) : Bool := 0xDC00 ≤ n && n ≤ 0xDFFF

def simpleEscape : Char → Option Char
  | '"' => some '"'
  | '\\' => some '\\'
  | '/' => some '/'
  | 'b' => some '\x08'
  | 'f' => some '\x0c'
  | 'n' => some '\n'
  | 'r' => some '\r'
  | 't' => some '\t'
  | _ => none

/-- The pieces of a string after its opening quote: a character, or an unpaired surrogate. -/
def stringPiece : List Char → Option (Option Char × List Char)
  | '\\' :: 'u' :: rest => do
    let (unit, rest) ← hexUnit rest
    if isHighSurrogate unit then
      match rest with
      | '\\' :: 'u' :: more =>
        match hexUnit more with
        | some (low, more) =>
          if isLowSurrogate low then
            return (some (Char.ofNat (0x10000 + (unit - 0xD800) * 0x400 + (low - 0xDC00))), more)
          else return (none, rest)
        | none => none
      | _ => return (none, rest)
    else if isLowSurrogate unit then return (none, rest)
    else return (some (Char.ofNat unit), rest)
  | '\\' :: c :: rest => (simpleEscape c).map fun e => (some e, rest)
  | c :: rest => if c.toNat < 0x20 ∨ c = '"' ∨ c = '\\' then none else some (some c, rest)
  | [] => none

/-- A string after its opening quote, with the characters read so far in reverse. -/
def stringBody : (fuel : Nat) → List Char → Option (List Char) → Option (Json × List Char)
  | 0, _, _ => none
  | _ + 1, '"' :: rest, some acc => some (.string (String.ofList acc.reverse), rest)
  | _ + 1, '"' :: rest, none => some (.unpaired, rest)
  | fuel + 1, cs, acc =>
    match stringPiece cs with
    | some (some c, rest) => stringBody fuel rest (acc.map (c :: ·))
    | some (none, rest) => stringBody fuel rest none
    | none => none

def maxWord : Nat := UInt64.size - 1

/-- Takes digits into a word as long as it holds them; the rest of the run is counted. -/
def digitRun : List Char → (significand : Nat) → (full : Bool) → (taken dropped : Nat) →
    Nat × Nat × Nat × List Char
  | c :: rest, significand, full, taken, dropped =>
    if c.isDigit then
      let next := significand * 10 + (c.toNat - '0'.toNat)
      if full || maxWord < next then digitRun rest significand true taken (dropped + 1)
      else digitRun rest next false (taken + 1) dropped
    else (significand, taken, dropped, c :: rest)
  | [], significand, _, taken, dropped => (significand, taken, dropped, [])

def exponentPart (cs : List Char) : Option (Int × List Char) :=
  let (negative, digits) := match cs with
    | '+' :: rest => (false, rest)
    | '-' :: rest => (true, rest)
    | _ => (false, cs)
  let run := digits.takeWhile Char.isDigit
  let rest := digits.dropWhile Char.isDigit
  if run = [] then none
  else
    let n := Nat.ofDigitChars 10 run 0
    some (if negative then -n else n, rest)

/-- A number with the exponent that may follow its digits. -/
def withExponent (negative : Bool) (significand : Nat) (exponent : Int) :
    List Char → Option (JsonNumber × List Char)
  | 'e' :: rest | 'E' :: rest =>
    (exponentPart rest).map fun (e, rest) => (.real negative significand (exponent + e), rest)
  | cs => some (.real negative significand exponent, cs)

/-- A number without point and exponent. A minus sign in front of zero needs a real number. -/
def wholeNumber (negative : Bool) (significand dropped : Nat) : JsonNumber :=
  if 0 < dropped then .real negative significand dropped
  else if !negative then .integer significand
  else if 0 < significand ∧ significand ≤ 0x8000000000000000 then .integer (-significand)
  else .real true significand 0

/-- A number after its sign. Of several digits before the point the first is not zero, and a point
stands between digits. -/
def unsignedNumber (negative : Bool) (cs : List Char) : Option (JsonNumber × List Char) :=
  let (significand, taken, dropped, rest) := digitRun cs 0 false 0 0
  if taken = 0 ∨ (cs.head? = some '0' ∧ 1 < taken) then none
  else
    match rest with
    | '.' :: fraction =>
      let (significand, taken, more, rest) := digitRun fraction significand false 0 0
      if taken + more = 0 then none
      else withExponent negative significand (dropped - taken) rest
    | 'e' :: _ | 'E' :: _ => withExponent negative significand dropped rest
    | _ => some (wholeNumber negative significand dropped, rest)

def withMember (members : Option (List (String × Json))) (key value : Json) :
    Option (List (String × Json)) :=
  match members, key with
  | some ms, .string k => some ((k, value) :: ms)
  | _, _ => none

def objectOf : Option (List (String × Json)) → Json
  | some ms => .object ms.reverse
  | none => .unpaired

mutual

def value : (fuel : Nat) → List Char → Option (Json × List Char)
  | 0, _ => none
  | fuel + 1, cs =>
    match skipSpaces cs with
    | 'n' :: 'u' :: 'l' :: 'l' :: rest => some (.null, rest)
    | 't' :: 'r' :: 'u' :: 'e' :: rest => some (.bool true, rest)
    | 'f' :: 'a' :: 'l' :: 's' :: 'e' :: rest => some (.bool false, rest)
    | '"' :: rest => stringBody (rest.length + 1) rest (some [])
    | '[' :: rest =>
      match skipSpaces rest with
      | ']' :: rest => some (.array [], rest)
      | rest => (items fuel rest []).map fun (vs, rest) => (.array vs, rest)
    | '\x7b' :: rest =>
      match skipSpaces rest with
      | '\x7d' :: rest => some (.object [], rest)
      | rest => members fuel rest (some [])
    | '-' :: rest => (unsignedNumber true rest).map fun (n, rest) => (.number n, rest)
    | rest => (unsignedNumber false rest).map fun (n, rest) => (.number n, rest)

/-- The items of an array up to its end, with those read so far in reverse. -/
def items : (fuel : Nat) → List Char → List Json → Option (List Json × List Char)
  | 0, _, _ => none
  | fuel + 1, cs, acc => do
    let (v, rest) ← value fuel cs
    match skipSpaces rest with
    | ',' :: rest => items fuel rest (v :: acc)
    | ']' :: rest => some ((v :: acc).reverse, rest)
    | _ => none

/-- An object from a member on, with the members read so far in reverse unless a key denotes no
text. -/
def members : (fuel : Nat) → List Char → Option (List (String × Json)) →
    Option (Json × List Char)
  | 0, _, _ => none
  | fuel + 1, cs, acc => do
    let '"' :: rest := skipSpaces cs | none
    let (key, rest) ← stringBody (rest.length + 1) rest (some [])
    let ':' :: rest := skipSpaces rest | none
    let (v, rest) ← value fuel rest
    let acc := withMember acc key v
    match skipSpaces rest with
    | ',' :: rest => members fuel rest acc
    | '\x7d' :: rest => some (objectOf acc, rest)
    | _ => none

end

/-- Reads a text that holds one value. Every level of nesting takes at least one character, so the
length bounds the work. -/
def parse (text : String) : Option Json := do
  let cs := text.toList
  let (v, rest) ← value (2 * cs.length + 2) cs
  if skipSpaces rest = [] then some v else none

end Json

end RenderPlan.Format
