import RenderPlan.Text.Blank
import RenderPlan.Text.Numeral

/-! Window sizes in pixels, written as a width and a height with a cross between them. -/
namespace RenderPlan
open Text

structure WindowSize where
  width : UInt32
  height : UInt32
  deriving DecidableEq, Repr

inductive WindowSizeError
  | notASize (text : String)
  | notPositive (part : String)
  deriving DecidableEq

def WindowSizeError.message : WindowSizeError → String
  | notASize text => s!"expected WIDTHxHEIGHT, got '{text}'"
  | notPositive part => s!"'{part}' is not a positive pixel count"

namespace WindowSize

def isCross (c : Char) : Bool := c == 'x' || c == 'X'

/-- A number of pixels above zero, with blanks around it. -/
def readPixels (cs : List Char) : Except WindowSizeError UInt32 :=
  match readWord32 (trim cs) with
  | some n => if n = 0 then .error (.notPositive (String.ofList cs)) else .ok n
  | none => .error (.notPositive (String.ofList cs))

/-- Reads a size. The first cross divides the text. -/
def parse (text : String) : Except WindowSizeError WindowSize :=
  match text.toList.dropWhile fun c => !isCross c with
  | [] => .error (.notASize text)
  | _ :: height => do
    let width ← readPixels (text.toList.takeWhile fun c => !isCross c)
    let height ← readPixels height
    return { width, height }

def text (w : WindowSize) : String := decimal w.width.toNat ++ "x" ++ decimal w.height.toNat

end WindowSize

end RenderPlan
