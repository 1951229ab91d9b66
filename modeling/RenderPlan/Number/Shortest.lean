import RenderPlan.Number.Binary32

/-! Decimal texts of 32-bit numbers: the fewest digits that read back as the number, and of those
the nearest, an exact tie going up. Two layouts use them. The plain one never has an exponent; the
literal one always shows a point or an exponent. -/
namespace RenderPlan.Number

/-- The number `digits * 10 ^ exponent`. -/
structure Decimal where
  digits : Nat
  exponent : Int
  deriving DecidableEq, Repr

/-- Moves trailing zeros of the digits into the exponent, at most `limit` of them. -/
def Decimal.trimZeros : (limit : Nat) → Decimal → Decimal
  | 0, d => d
  | limit + 1, d =>
    if d.digits % 10 = 0 then trimZeros limit ⟨d.digits / 10, d.exponent + 1⟩ else d

/-- The exponent of the greatest power of ten that is at most `num / den`, for quotients between
`10 ^ -64` and `10 ^ 64`. -/
def floorLog10 (num den : Nat) : Int :=
  if den ≤ num then (Nat.toDigits 10 (num / den)).length - 1
  else -(((List.range 64).find? fun j => den ≤ num * Nat.pow 10 j).getD 64 : Nat)

/-- Quotients between two bounds, the bounds themselves included or not. All quotients have the
denominator `den`. -/
structure Interval where
  low : Nat
  value : Nat
  high : Nat
  den : Nat
  closed : Bool

namespace Interval

def contains (i : Interval) (n : Nat) (exponent : Int) : Bool :=
  let scaled := n * Nat.pow 10 exponent.toNat * i.den
  let unit := Nat.pow 10 (-exponent).toNat
  if i.closed then i.low * unit ≤ scaled && scaled ≤ i.high * unit
  else i.low * unit < scaled && scaled < i.high * unit

/-- The nearest multiple of `10 ^ exponent` within, an exact tie going up. -/
def nearest? (i : Interval) (exponent : Int) : Option Decimal :=
  let num := i.value * Nat.pow 10 (-exponent).toNat
  let den := i.den * Nat.pow 10 exponent.toNat
  let below := num / den
  let upFirst := den ≤ 2 * (num % den)
  let candidates := if upFirst then [below + 1, below] else [below, below + 1]
  (candidates.find? fun n => i.contains n exponent).map fun n => ⟨n, exponent⟩

/-- The decimal of fewest digits within, searched from one digit upwards. -/
def shortest (i : Interval) : Decimal :=
  let top := floorLog10 i.value i.den
  let found := (List.range 12).findSome? fun n : Nat => i.nearest? (top - n)
  (found.getD ⟨0, 0⟩).trimZeros 12

end Interval

namespace Binary32

/-- The reals that round to a finite number other than zero: half a unit to each side, or a quarter
below a power of two. -/
def interval (x : Binary32) : Interval :=
  let m := x.magnitude
  let low := if m.mantissa = hiddenBit then 4 * m.mantissa - 1 else 4 * m.mantissa - 2
  let (scale, den) := (Magnitude.mk 1 (m.exponent - 2)).ratio
  ⟨low * scale, 4 * m.mantissa * scale, (4 * m.mantissa + 2) * scale, den, m.mantissa % 2 = 0⟩

/-- The shortest decimal of the absolute value of a finite number. -/
def shortest (x : Binary32) : Decimal := if x.isZero then ⟨0, 0⟩ else x.interval.shortest

/-- Digits around a point that stands after the first `point` of them. -/
def positional (digits : List Char) (point : Int) (whole : List Char) : List Char :=
  let n : Int := digits.length
  if point ≤ 0 then '0' :: '.' :: (List.replicate (-point).toNat '0' ++ digits)
  else if point < n then digits.take point.toNat ++ '.' :: digits.drop point.toNat
  else digits ++ List.replicate (point - n).toNat '0' ++ whole

/-- One digit, the rest after a point, and a power of ten. -/
def scientific (digits : List Char) (point : Int) : List Char :=
  let lead := match digits with
    | [] => []
    | [d] => [d]
    | d :: rest => d :: '.' :: rest
  lead ++ 'e' :: (toString (point - 1)).toList

def withMinus (x : Binary32) (text : List Char) : String :=
  String.ofList (if x.isNegative then '-' :: text else text)

/-- The plain layout: no exponent, and no point after a whole number. -/
def plain (x : Binary32) : String :=
  if x.isNaN then "NaN"
  else if x.isInfinite then x.withMinus "inf".toList
  else
    let d := x.shortest
    let digits := Nat.toDigits 10 d.digits
    x.withMinus (positional digits (digits.length + d.exponent) [])

/-- The literal layout: an exponent from `1e16` on and below `1e-4`, otherwise at least one digit
after the point. -/
def literal (x : Binary32) : String :=
  if x.isNaN then "NaN"
  else if x.isInfinite then x.withMinus "inf".toList
  else
    let d := x.shortest
    let digits := Nat.toDigits 10 d.digits
    let point := digits.length + d.exponent
    if x.isZero || (-4 < point && point ≤ 16) then x.withMinus (positional digits point ".0".toList)
    else x.withMinus (scientific digits point)

end Binary32

end RenderPlan.Number
