/-! Exact rounding to binary formats. A magnitude is a natural multiple of a power of two; every
rounding here goes to the nearest magnitude, and a tie goes to the even one. -/
namespace RenderPlan.Number

/-- The number `mantissa * 2 ^ exponent`. -/
structure Magnitude where
  mantissa : Nat
  exponent : Int
  deriving DecidableEq, Repr

/-- The magnitude as a quotient of naturals. -/
def Magnitude.ratio (x : Magnitude) : Nat × Nat :=
  (x.mantissa * Nat.pow 2 x.exponent.toNat, Nat.pow 2 (-x.exponent).toNat)

/-- `num / den` to the nearest natural, a tie to the even one. -/
def nearestEven (num den : Nat) : Nat :=
  let q := num / den
  let r := num % den
  if 2 * r < den then q
  else if den < 2 * r then q + 1
  else if q % 2 = 0 then q else q + 1

/-- `num / den` to the nearest natural, a tie to the larger one. -/
def nearestUp (num den : Nat) : Nat := (2 * num + den) / (2 * den)

/-- At most `bits` significant bits of a magnitude, with no bound on the exponent. -/
def Magnitude.toPrecision (bits : Nat) (x : Magnitude) : Magnitude :=
  if x.mantissa < Nat.pow 2 bits then x
  else
    let excess := x.mantissa.log2 + 1 - bits
    ⟨nearestEven x.mantissa (Nat.pow 2 excess), x.exponent + excess⟩

/-- The finite values of a format are `m * 2 ^ e` for `m < 2 ^ precision` and
`minExponent ≤ e ≤ maxExponent`. -/
structure BinaryFormat where
  precision : Nat
  minExponent : Int
  maxExponent : Int

def binary32 : BinaryFormat := ⟨24, -149, 104⟩

def binary64 : BinaryFormat := ⟨53, -1074, 971⟩

/-- The exponent of the greatest power of two that is at most `num / den`. -/
def floorLog (num den : Nat) : Int :=
  let guess := (num.log2 : Int) - den.log2
  if den * Nat.pow 2 guess.toNat ≤ num * Nat.pow 2 (-guess).toNat then guess else guess - 1

namespace BinaryFormat

/-- The value nearest to `num / den`, or nothing when that exceeds every finite value. A result
other than zero has its full precision or the least exponent. -/
def round (f : BinaryFormat) (num den : Nat) : Option Magnitude :=
  if num = 0 then some ⟨0, f.minExponent⟩
  else
    let e := max f.minExponent (floorLog num den - (f.precision - 1 : Nat))
    let m := nearestEven (num * Nat.pow 2 (-e).toNat) (den * Nat.pow 2 e.toNat)
    let x : Magnitude := if m = Nat.pow 2 f.precision then ⟨Nat.pow 2 (f.precision - 1), e + 1⟩ else ⟨m, e⟩
    if x.exponent ≤ f.maxExponent then some x else none

def roundMagnitude (f : BinaryFormat) (x : Magnitude) : Option Magnitude :=
  f.round x.ratio.1 x.ratio.2

/-- The value nearest to `digits * 10 ^ exponent`. A power of ten far outside the range of the
format is settled by its size alone. -/
def ofDecimal (f : BinaryFormat) (digits : Nat) (exponent : Int) : Option Magnitude :=
  let places : Int := (Nat.toDigits 10 digits).length
  if digits = 0 ∨ exponent + places < -400 then some ⟨0, f.minExponent⟩
  else if 400 < exponent + places then none
  else f.round (digits * Nat.pow 10 exponent.toNat) (Nat.pow 10 (-exponent).toNat)

end BinaryFormat

end RenderPlan.Number
