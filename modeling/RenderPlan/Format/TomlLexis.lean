import RenderPlan.Text.Identifier
import RenderPlan.Text.Numeral

/-! The smallest parts of a TOML text: blanks and comments, quoted texts, keys, and the words that
stand for numbers, truth values and times. -/
namespace RenderPlan.Format.TomlLexis
open Text

/-! Blanks -/

def isBlank (c : Char) : Bool := c == ' ' || c == '\t'

def skipBlanks (cs : List Char) : List Char := cs.dropWhile isBlank

/-- No control characters but the tab. -/
def isAllowed (c : Char) : Bool := c == '\t' || (0x20 ≤ c.toNat && c.toNat != 0x7F)

/-- Drops blanks, line ends and comments. -/
def skipLines : (comment : Bool) → List Char → Option (List Char)
  | _, [] => some []
  | _, '\n' :: cs => skipLines false cs
  | _, '\r' :: '\n' :: cs => skipLines false cs
  | true, c :: cs => if isAllowed c then skipLines true cs else none
  | false, '#' :: cs => skipLines true cs
  | false, c :: cs => if isBlank c then skipLines false cs else some (c :: cs)

/-- What follows the end of a line. Only blanks and a comment may stand before it. -/
def endOfLine (cs : List Char) : Option (List Char) :=
  let rest := match skipBlanks cs with
    | '#' :: comment => comment.dropWhile isAllowed
    | rest => rest
  match rest with
  | [] => some []
  | '\n' :: rest | '\r' :: '\n' :: rest => some rest
  | _ => none

/-! Texts -/

/-- The character of a code point given by a number of hexadecimal digits. -/
def codePoint (width : Nat) (cs : List Char) : Option (Char × List Char) :=
  match readInBase 16 (cs.take width) with
  | some n =>
    if width ≤ cs.length ∧ n.isValidChar then some (Char.ofNat n, cs.drop width) else none
  | none => none

def escape : List Char → Option (Char × List Char)
  | '"' :: cs => some ('"', cs)
  | '\\' :: cs => some ('\\', cs)
  | 'b' :: cs => some ('\x08', cs)
  | 't' :: cs => some ('\t', cs)
  | 'n' :: cs => some ('\n', cs)
  | 'f' :: cs => some ('\x0c', cs)
  | 'r' :: cs => some ('\r', cs)
  | 'e' :: cs => some ('\x1b', cs)
  | 'x' :: cs => codePoint 2 cs
  | 'u' :: cs => codePoint 4 cs
  | 'U' :: cs => codePoint 8 cs
  | _ => none

/-- A text with escapes on one line, after its opening quote. -/
def quoted : (fuel : Nat) → List Char → (read : List Char) → Option (String × List Char)
  | 0, _, _ => none
  | _ + 1, '"' :: cs, read => some (String.ofList read.reverse, cs)
  | fuel + 1, '\\' :: cs, read => (escape cs).bind fun (c, cs) => quoted fuel cs (c :: read)
  | fuel + 1, c :: cs, read => if isAllowed c then quoted fuel cs (c :: read) else none
  | _ + 1, [], _ => none

/-- A text without escapes on one line, after its opening quote. -/
def verbatim : List Char → (read : List Char) → Option (String × List Char)
  | '\'' :: cs, read => some (String.ofList read.reverse, cs)
  | c :: cs, read => if isAllowed c then verbatim cs (c :: read) else none
  | [], _ => none

/-- The end of a text of several lines: three quotes, of which up to two more in front belong to
the text. -/
def closing (quote : Char) (cs read : List Char) : Option (String × List Char) :=
  let run := (cs.takeWhile (· == quote)).length
  if run < 3 then none
  else
    let extra := min (run - 3) 2
    some (String.ofList (List.replicate extra quote ++ read).reverse, cs.drop (extra + 3))

/-- Drops the line end that may follow the opening quotes of a text of several lines. -/
def dropFirstLineEnd : List Char → List Char
  | '\n' :: cs => cs
  | '\r' :: '\n' :: cs => cs
  | cs => cs

/-- What follows an escaped line end: the blanks after it do not belong to the text. -/
def afterEscapedLineEnd (cs : List Char) : Option (List Char) :=
  match skipBlanks cs with
  | '\n' :: rest | '\r' :: '\n' :: rest =>
    some (rest.dropWhile fun c => isBlank c || c == '\n' || c == '\r')
  | _ => none

/-- A text of several lines with escapes, after its opening quotes. -/
def quotedLines : (fuel : Nat) → List Char → (read : List Char) → Option (String × List Char)
  | 0, _, _ => none
  | fuel + 1, cs, read =>
    match closing '"' cs read with
    | some result => some result
    | none =>
      match cs with
      | '\\' :: cs =>
        match afterEscapedLineEnd cs with
        | some cs => quotedLines fuel cs read
        | none => (escape cs).bind fun (c, cs) => quotedLines fuel cs (c :: read)
      | '\r' :: '\n' :: cs | '\n' :: cs => quotedLines fuel cs ('\n' :: read)
      | c :: cs => if isAllowed c then quotedLines fuel cs (c :: read) else none
      | [] => none

/-- A text of several lines without escapes, after its opening quotes. -/
def verbatimLines : (fuel : Nat) → List Char → (read : List Char) → Option (String × List Char)
  | 0, _, _ => none
  | fuel + 1, cs, read =>
    match closing '\'' cs read with
    | some result => some result
    | none =>
      match cs with
      | '\r' :: '\n' :: cs | '\n' :: cs => verbatimLines fuel cs ('\n' :: read)
      | c :: cs => if isAllowed c then verbatimLines fuel cs (c :: read) else none
      | [] => none

def text : List Char → Option (String × List Char)
  | '"' :: '"' :: '"' :: cs => quotedLines (cs.length + 1) (dropFirstLineEnd cs) []
  | '\'' :: '\'' :: '\'' :: cs => verbatimLines (cs.length + 1) (dropFirstLineEnd cs) []
  | '"' :: cs => quoted (cs.length + 1) cs []
  | '\'' :: cs => verbatim cs []
  | _ => none

/-! Keys -/

def isKeyPart (c : Char) : Bool := c.isAlphanum || c == '_' || c == '-'

/-- One key: a bare word, or a text on one line. -/
def simpleKey : List Char → Option (String × List Char)
  | '"' :: cs => quoted (cs.length + 1) cs []
  | '\'' :: cs => verbatim cs []
  | cs =>
    let run := cs.takeWhile isKeyPart
    if run = [] then none else some (String.ofList run, cs.dropWhile isKeyPart)

def dottedKey : (fuel : Nat) → List Char → Option (List String × List Char)
  | 0, _ => none
  | fuel + 1, cs => do
    let (key, rest) ← simpleKey (skipBlanks cs)
    match skipBlanks rest with
    | '.' :: rest =>
      let (keys, rest) ← dottedKey fuel rest
      return (key :: keys, rest)
    | rest => return ([key], rest)

/-! Words -/

def isWordPart (c : Char) : Bool := c.isAlphanum || "_+-.:".toList.contains c

/-- Drops underscores that stand between two characters of a class. Nothing else may be there. -/
def digitsOf (isDigit : Char → Bool) : List Char → Option (List Char)
  | [c] => if isDigit c then some [c] else none
  | c :: '_' :: cs => if isDigit c then (digitsOf isDigit cs).map (c :: ·) else none
  | c :: cs => if isDigit c then (digitsOf isDigit cs).map (c :: ·) else none
  | [] => none

/-- Decimal digits without a leading zero. -/
def wholeDigits (cs : List Char) : Option (List Char) :=
  match digitsOf Char.isDigit cs with
  | some ('0' :: _ :: _) => none
  | digits => digits

def isHexDigit (c : Char) : Bool := (hexValue c).isSome

def integer : List Char → Option Int
  | '0' :: 'x' :: cs => ((digitsOf isHexDigit cs).bind (readInBase 16)).map Int.ofNat
  | '0' :: 'o' :: cs => ((digitsOf isHexDigit cs).bind (readInBase 8)).map Int.ofNat
  | '0' :: 'b' :: cs => ((digitsOf isHexDigit cs).bind (readInBase 2)).map Int.ofNat
  | '-' :: cs => ((wholeDigits cs).bind readDigits).map fun n => -(n : Int)
  | '+' :: cs => ((wholeDigits cs).bind readDigits).map Int.ofNat
  | cs => ((wholeDigits cs).bind readDigits).map Int.ofNat

def withoutSign : List Char → List Char
  | '+' :: cs | '-' :: cs => cs
  | cs => cs

/-- Whether a word is a number with a fraction or an exponent, or not a finite one. -/
def isFloat (cs : List Char) : Bool :=
  let body := withoutSign cs
  let isPlain := fun c => c.isDigit || c == '_'
  let whole := body.takeWhile isPlain
  let rest := body.dropWhile isPlain
  let tail := match rest with
    | '.' :: more => more.dropWhile isPlain
    | _ => rest
  let fraction := match rest with
    | '.' :: more => (digitsOf Char.isDigit (more.takeWhile isPlain)).isSome
    | _ => true
  let exponent := match tail with
    | [] => true
    | mark :: cs => (mark == 'e' || mark == 'E') && (digitsOf Char.isDigit (withoutSign cs)).isSome
  String.ofList body ∈ ["inf", "nan"] ||
    ((wholeDigits whole).isSome && rest != [] && fraction && exponent)

def twoDigits (low high : Nat) : List Char → Option (Nat × List Char)
  | a :: b :: cs =>
    match readDigits [a, b] with
    | some n => if low ≤ n ∧ n ≤ high then some (n, cs) else none
    | none => none
  | _ => none

def daysOfMonth (year month : Nat) : Nat :=
  if month = 2 then (if year % 4 = 0 ∧ (year % 100 ≠ 0 ∨ year % 400 = 0) then 29 else 28)
  else if month = 4 ∨ month = 6 ∨ month = 9 ∨ month = 11 then 30
  else 31

def date (cs : List Char) : Option (List Char) := do
  let year ← readDigits (cs.take 4)
  let '-' :: rest := cs.drop 4 | none
  let (month, rest) ← twoDigits 1 12 rest
  let '-' :: rest := rest | none
  let (_, rest) ← twoDigits 1 (daysOfMonth year month) rest
  return rest

/-- A time of the day. The seconds and their fraction may be left out. -/
def time (cs : List Char) : Option (List Char) := do
  let (_, rest) ← twoDigits 0 23 cs
  let ':' :: rest := rest | none
  let (_, rest) ← twoDigits 0 59 rest
  match rest with
  | ':' :: rest =>
    let (_, rest) ← twoDigits 0 60 rest
    match rest with
    | '.' :: fraction =>
      if fraction.head?.any Char.isDigit then some (fraction.dropWhile Char.isDigit) else none
    | rest => some rest
  | rest => some rest

def offset : List Char → Option (List Char)
  | ['Z'] | ['z'] => some []
  | sign :: cs => do
    if sign = '+' ∨ sign = '-' then
      let (_, rest) ← twoDigits 0 23 cs
      let ':' :: rest := rest | none
      let (_, rest) ← twoDigits 0 59 rest
      return rest
    else none
  | [] => some []

/-- Whether a word is a date, a time, or both with an optional offset. -/
def isMoment (cs : List Char) : Bool :=
  match date cs with
  | some [] => true
  | some (mark :: rest) => (mark == 'T' || mark == 't') && (time rest).bind offset == some []
  | none => time cs == some []

/-- A word, in which one blank may take the place of the mark between a date and a time. -/
def word (cs : List Char) : List Char × List Char :=
  let run := cs.takeWhile isWordPart
  match cs.dropWhile isWordPart with
  | ' ' :: c :: rest =>
    if date run == some [] && c.isDigit then
      (run ++ 'T' :: (c :: rest).takeWhile isWordPart, (c :: rest).dropWhile isWordPart)
    else (run, ' ' :: c :: rest)
  | rest => (run, rest)

example : integer "1_000".toList = some 1000 := by decide +kernel
example : integer "0x10".toList = some 16 := by decide +kernel
example : integer "01".toList = none := by decide +kernel
example : isFloat "6.5e-3".toList = true := by decide +kernel
example : isFloat "1.".toList = false := by decide +kernel
example : isMoment "1979-05-27T07:32:00Z".toList = true := by decide +kernel

end RenderPlan.Format.TomlLexis
