import RenderPlan.Format.Data
import RenderPlan.Number.Shortest
import RenderPlan.Text.Printable

/-! Data written as RON: four blanks for each level, every field and list item on a line of its own
with a comma behind it, tuples on one line. -/
namespace RenderPlan.Format
open Number Text

namespace RonWriter

def codePoint (c : Char) : List Char := "\\u\x7b".toList ++ Nat.toDigits 16 c.toNat ++ ['\x7d']

def escape (c : Char) : List Char :=
  if c = '\x00' then ['\\', '0']
  else if c = '\t' then ['\\', 't']
  else if c = '\r' then ['\\', 'r']
  else if c = '\n' then ['\\', 'n']
  else if c = '\'' ∨ c = '"' ∨ c = '\\' then ['\\', c]
  else if isPrintable c then [c]
  else codePoint c

def quote (s : String) : String := String.ofList ('"' :: s.toList.flatMap escape ++ ['"'])

def newline (level : Nat) : String := String.ofList ('\n' :: List.replicate (4 * level) ' ')

/-- Texts on lines of their own, each with a comma behind it. -/
def lines (level : Nat) (texts : List String) : String :=
  String.join (texts.map fun t => newline level ++ t ++ ",")

example : escape '"' = "\\\"".toList := by decide +kernel
example : escape '\x7f' = "\\u\x7b7f\x7d".toList := by decide +kernel
example : escape 'é' = ['é'] := by decide +kernel
example : newline 1 = "\n    " := by decide +kernel

end RonWriter

namespace Data
open RonWriter

mutual

def ron (level : Nat) : Data → String
  | bool b => if b then "true" else "false"
  | nat n => decimal n
  | float x => x.literal
  | text s => quote s
  | list [] => "[]"
  | list items => "[" ++ lines (level + 1) (ronItems (level + 1) items) ++ newline level ++ "]"
  | tuple items => "(" ++ ", ".intercalate (ronItems level items) ++ ")"
  | absent => "None"
  | present value => "Some(" ++ value.ron level ++ ")"
  | record fields => ronRecord level fields
  | wrapped value => "(" ++ value.ron level ++ ")"
  | unitCase label => label
  | valueCase label value => label ++ "(" ++ value.ron level ++ ")"
  | recordCase label fields => label ++ ronRecord level fields

def ronRecord (level : Nat) : List (String × Data) → String
  | [] => "()"
  | fields => "(" ++ lines (level + 1) (ronFields (level + 1) fields) ++ newline level ++ ")"

def ronFields (level : Nat) : List (String × Data) → List String
  | [] => []
  | (name, value) :: fields => (name ++ ": " ++ value.ron level) :: ronFields level fields

def ronItems (level : Nat) : List Data → List String
  | [] => []
  | value :: items => value.ron level :: ronItems level items

end

def ronFile (d : Data) : String := d.ron 0 ++ "\n"

end Data

end RenderPlan.Format
