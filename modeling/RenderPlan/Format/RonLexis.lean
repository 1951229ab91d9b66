import RenderPlan.Text.Identifier
import RenderPlan.Text.Numeral
import RenderPlan.Text.Word

/-! The smallest parts of a RON text: blanks and comments, words, quoted texts and bytes. -/
namespace RenderPlan.Format.RonLexis
open Text

/-! Blanks -/

/-- Where a run of blanks and comments stands. Block comments nest. -/
inductive Blank
  | space
  | line
  | block (outer : Nat)

/-- The characters of Unicode's Pattern_White_Space. -/
def isSpace (c : Char) : Bool :=
  let n := c.toNat
  (9 ≤ n && n ≤ 13) || n == 0x20 || n == 0x85 || n == 0x200E || n == 0x200F || n == 0x2028 ||
    n == 0x2029

/-- Drops blanks and comments. A slash has to open a comment, and a block comment has to end. -/
def skipFrom : Blank → List Char → Option (List Char)
  | .space, '/' :: '/' :: cs => skipFrom .line cs
  | .space, '/' :: '*' :: cs => skipFrom (.block 0) cs
  | .space, '/' :: _ => none
  | .space, c :: cs => if isSpace c then skipFrom .space cs else some (c :: cs)
  | .line, c :: cs => skipFrom (if c = '\n' then .space else .line) cs
  | .block outer, '/' :: '*' :: cs => skipFrom (.block (outer + 1)) cs
  | .block 0, '*' :: '/' :: cs => skipFrom .space cs
  | .block (outer + 1), '*' :: '/' :: cs => skipFrom (.block outer) cs
  | .block outer, _ :: cs => skipFrom (.block outer) cs
  | .block _, [] => none
  | _, [] => some []

def skip (cs : List Char) : Option (List Char) := skipFrom .space cs

/-! Words -/

/-- Characters of a word that is marked by `r#`. -/
def isRawPart (c : Char) : Bool := isWordPart c || c == '.' || c == '+' || c == '-'

/-- A word at the front of a text, its mark included. An unmarked word must not run into a
character that only a marked one may have. -/
def word : List Char → Option (String × List Char)
  | 'r' :: '#' :: cs =>
    let run := cs.takeWhile isRawPart
    if run = [] then none else some (String.ofList ('r' :: '#' :: run), cs.dropWhile isRawPart)
  | c :: cs =>
    let rest := cs.dropWhile isWordPart
    if isWordStart c && !(rest.head?.any isRawPart) then
      some (String.ofList (c :: cs.takeWhile isWordPart), rest)
    else none
  | [] => none

def plain (w : String) : String :=
  match w.toList with
  | 'r' :: '#' :: cs => String.ofList cs
  | _ => w

/-! Texts -/

def hexByte : List Char → Option (Nat × List Char)
  | a :: b :: cs => do return ((← hexValue a) * 16 + (← hexValue b), cs)
  | _ => none

/-- The character that a sequence of bytes encodes. -/
def charOfBytes (bytes : List Nat) : Option Char :=
  match (String.fromUTF8? ⟨(bytes.map UInt8.ofNat).toArray⟩).map String.toList with
  | some [c] => some c
  | _ => none

/-- The rest of a character whose first bytes are given by escapes. -/
def moreBytes : (left : Nat) → (read : List Nat) → List Char → Option (Char × List Char)
  | left, read, cs =>
    match charOfBytes read, left, cs with
    | some c, _, cs => some (c, cs)
    | none, left + 1, '\\' :: 'x' :: cs =>
      match hexByte cs with
      | some (b, cs) => moreBytes left (read ++ [b]) cs
      | none => none
    | none, _, _ => none

/-- A code point of one to six hexadecimal digits before a closing brace. -/
def codePoint (cs : List Char) : Option (Char × List Char) :=
  let run := cs.takeWhile (· ≠ '\x7d')
  match readInBase 16 run, cs.dropWhile (· ≠ '\x7d') with
  | some n, _ :: rest =>
    if run.length ≤ 6 ∧ n.isValidChar then some (Char.ofNat n, rest) else none
  | _, _ => none

def simpleEscape : Char → Option Char
  | '\'' => some '\''
  | '"' => some '"'
  | '\\' => some '\\'
  | 'n' => some '\n'
  | 'r' => some '\r'
  | 't' => some '\t'
  | '0' => some '\x00'
  | _ => none

/-- What an escape stands for, after its backslash. Up to `extra` further byte escapes may belong
to the same character. -/
def escape (extra : Nat) : List Char → Option (Char × List Char)
  | 'x' :: cs => (hexByte cs).bind fun (b, cs) => moreBytes extra [b] cs
  | 'u' :: '\x7b' :: cs => codePoint cs
  | c :: cs => (simpleEscape c).map fun c => (c, cs)
  | [] => none

/-- The blanks that a backslash at the end of a line drops with the line break. -/
def isMargin (c : Char) : Bool := c == ' ' || c == '\t' || c == '\n' || c == '\r'

/-- The next line of a text after a backslash that ends its line. -/
def nextLine? : List Char → Option (List Char)
  | '\n' :: cs | '\r' :: '\n' :: cs => some (cs.dropWhile isMargin)
  | _ => none

/-- A quoted text after its opening quote, with what was read so far in reverse. -/
def quoted : (fuel : Nat) → List Char → List Char → Option (String × List Char)
  | 0, _, _ => none
  | _ + 1, '"' :: cs, acc => some (String.ofList acc.reverse, cs)
  | fuel + 1, '\\' :: cs, acc =>
    match nextLine? cs with
    | some cs => quoted fuel cs acc
    | none => (escape 3 cs).bind fun (c, cs) => quoted fuel cs (c :: acc)
  | fuel + 1, c :: cs, acc => quoted fuel cs (c :: acc)
  | _ + 1, [], _ => none

/-- Everything up to `close`, with what was read so far in reverse. -/
def untilClose (close : List Char) : List Char → List Char → Option (String × List Char)
  | cs, acc =>
    match after? close cs with
    | some rest => some (String.ofList acc.reverse, rest)
    | none =>
      match cs with
      | c :: cs => untilClose close cs (c :: acc)
      | [] => none

/-- A text without escapes, after the letter that marks it: it ends at a quote with as many signs
behind it as stood in front of it. -/
def verbatim (cs : List Char) : Option (String × List Char) :=
  let marks := cs.takeWhile (· == '#')
  match cs.dropWhile (· == '#') with
  | '"' :: rest => untilClose ('"' :: marks) rest []
  | _ => none

def character? : List Char → Option (Char × List Char)
  | '\\' :: cs =>
    match escape 0 cs with
    | some (c, '\'' :: cs) => some (c, cs)
    | _ => none
  | c :: '\'' :: cs => some (c, cs)
  | _ => none

def text? : List Char → Option (String × List Char)
  | '"' :: cs => quoted (cs.length + 1) cs []
  | 'r' :: cs => verbatim cs
  | _ => none

/-! Bytes -/

/-- The end of an escape in a byte string, where a byte need not be part of a character. -/
def byteEscape : List Char → Option (List Char)
  | 'x' :: cs => (hexByte cs).map (·.2)
  | cs => (escape 0 cs).map (·.2)

def byteString : (fuel : Nat) → List Char → Option (List Char)
  | 0, _ => none
  | _ + 1, '"' :: cs => some cs
  | fuel + 1, '\\' :: cs =>
    match nextLine? cs with
    | some cs => byteString fuel cs
    | none => (byteEscape cs).bind (byteString fuel)
  | fuel + 1, _ :: cs => byteString fuel cs
  | _ + 1, [] => none

/-- A byte string with or without escapes, after the letter that marks it. -/
def bytes? : List Char → Option (List Char)
  | '"' :: cs => byteString (cs.length + 1) cs
  | 'r' :: cs => (verbatim cs).map (·.2)
  | _ => none

/-- The end of a byte in single quotes, after the opening one: two hexadecimal digits, an escape of
one letter, or a character of ASCII. -/
def byte? : List Char → Option (List Char)
  | '\\' :: 'x' :: cs =>
    match hexByte cs with
    | some (_, '\'' :: cs) => some cs
    | _ => none
  | '\\' :: c :: '\'' :: cs => if (simpleEscape c).isSome then some cs else none
  | c :: '\'' :: cs => if c.toNat < 0x80 then some cs else none
  | _ => none

end RenderPlan.Format.RonLexis
