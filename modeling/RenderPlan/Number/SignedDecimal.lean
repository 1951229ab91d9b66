import RenderPlan.Number.Binary32

/-! Decimal fractions with an optional exponent: `12`, `-3.5`, `.5`, `1.`, `6e-2`. -/
namespace RenderPlan.Number

/-- The number `digits * 10 ^ exponent` with a sign. -/
structure SignedDecimal where
  negative : Bool
  digits : Nat
  exponent : Int
  deriving DecidableEq, Repr

namespace SignedDecimal

def signed : List Char → Bool × List Char
  | '-' :: cs => (true, cs)
  | '+' :: cs => (false, cs)
  | cs => (false, cs)

/-- The exponent that ends a numeral. It is zero if nothing is left. -/
def readExponent : List Char → Option Int
  | [] => some 0
  | mark :: cs =>
    let (negative, run) := signed cs
    if (mark = 'e' ∨ mark = 'E') ∧ run ≠ [] ∧ run.all Char.isDigit then
      let n := Nat.ofDigitChars 10 run 0
      some (if negative then -n else n)
    else none

/-- Reads a numeral: digits with at most one point among or around them, then an exponent. -/
def read (cs : List Char) : Option SignedDecimal :=
  let (negative, body) := signed cs
  let whole := body.takeWhile Char.isDigit
  let rest := body.dropWhile Char.isDigit
  let fraction := match rest with
    | '.' :: more => more.takeWhile Char.isDigit
    | _ => []
  let tail := match rest with
    | '.' :: more => more.dropWhile Char.isDigit
    | _ => rest
  if whole = [] ∧ fraction = [] then none
  else (readExponent tail).map fun e =>
    ⟨negative, Nat.ofDigitChars 10 (whole ++ fraction) 0, e - fraction.length⟩

def toBinary32 (d : SignedDecimal) : Binary32 := Binary32.ofDecimal d.negative d.digits d.exponent

example : read "-12.50e3".toList = some ⟨true, 1250, 1⟩ := by decide +kernel
example : read ".5".toList = some ⟨false, 5, -1⟩ := by decide +kernel
example : read "1.".toList = some ⟨false, 1, 0⟩ := by decide +kernel
example : read ".".toList = none := by decide +kernel
example : read "1e".toList = none := by decide +kernel

end SignedDecimal

end RenderPlan.Number
