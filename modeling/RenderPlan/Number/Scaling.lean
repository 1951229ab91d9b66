import RenderPlan.Number.Binary32

/-! A number given as a word and a power of ten, brought to binary by one multiplication or
division with a rounded power of ten. Each step is rounded to 64-bit binary. -/
namespace RenderPlan.Number

/-- The greatest power of ten in 64-bit binary is `10 ^ 308`. -/
def maxTenPower : Nat := 308

def tenPower (k : Nat) : Magnitude := (binary64.round (Nat.pow 10 k) 1).getD ⟨0, 0⟩

def Magnitude.mul64 (x y : Magnitude) : Option Magnitude :=
  binary64.roundMagnitude ⟨x.mantissa * y.mantissa, x.exponent + y.exponent⟩

def Magnitude.div64 (x y : Magnitude) : Option Magnitude :=
  let e := x.exponent - y.exponent
  binary64.round (x.mantissa * Nat.pow 2 e.toNat) (y.mantissa * Nat.pow 2 (-e).toNat)

/-- Divides by `10 ^ k`, in steps of at most the greatest power. After three such steps any word
has become zero. -/
def Magnitude.divTenPower : (steps : Nat) → Magnitude → (k : Nat) → Option Magnitude
  | 0, x, _ => some ⟨0, x.exponent⟩
  | steps + 1, x, k =>
    if k ≤ maxTenPower then x.div64 (tenPower k)
    else if x.mantissa = 0 then some x
    else (x.div64 (tenPower maxTenPower)).bind fun y => y.divTenPower steps (k - maxTenPower)

/-- The 64-bit binary number for `significand * 10 ^ exponent`, or nothing beyond its range. -/
def scaleWord (significand : Nat) (exponent : Int) : Option Magnitude :=
  if significand = 0 then some ⟨0, binary64.minExponent⟩
  else
    (binary64.round significand 1).bind fun x =>
      if 0 ≤ exponent then
        if exponent.toNat ≤ maxTenPower then x.mul64 (tenPower exponent.toNat) else none
      else x.divTenPower 4 (-exponent).toNat

end RenderPlan.Number
