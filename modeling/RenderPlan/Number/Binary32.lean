import RenderPlan.Number.Rounding

/-! Binary floating-point numbers of 32 bits, held as their bit patterns. -/
namespace RenderPlan.Number

/-- One sign bit, eight exponent bits and 23 fraction bits. -/
structure Binary32 where
  bits : UInt32
  deriving DecidableEq, Repr

namespace Binary32

def signBit : Nat := 0x80000000

/-- The mantissa bit above the fraction, which the pattern leaves out. -/
def hiddenBit : Nat := 0x800000

def infinityBits : Nat := 0x7F800000

/-- The pattern without the sign bit. It grows with the absolute value. -/
def unsigned (x : Binary32) : Nat := x.bits.toNat % signBit

def isNegative (x : Binary32) : Bool := signBit ≤ x.bits.toNat

def isNaN (x : Binary32) : Bool := infinityBits < x.unsigned

def isInfinite (x : Binary32) : Bool := x.unsigned == infinityBits

def isFinite (x : Binary32) : Bool := x.unsigned < infinityBits

def isZero (x : Binary32) : Bool := x.unsigned == 0

def isPositive (x : Binary32) : Bool := x.isFinite && !x.isZero && !x.isNegative

def magnitude (x : Binary32) : Magnitude :=
  let field : Nat := x.unsigned / hiddenBit
  let fraction := x.unsigned % hiddenBit
  if field = 0 then ⟨fraction, -149⟩ else ⟨hiddenBit + fraction, (field : Int) - 150⟩

def withSign (negative : Bool) (pattern : Nat) : Binary32 :=
  ⟨UInt32.ofNat (if negative then signBit + pattern else pattern)⟩

def infinity (negative : Bool) : Binary32 := withSign negative infinityBits

/-- The quiet pattern used for a value that is not a number. -/
def nan : Binary32 := ⟨0x7FC00000⟩

/-- Packs a rounded magnitude; an exceeded range is infinite. -/
def pack (negative : Bool) : Option Magnitude → Binary32
  | none => infinity negative
  | some x =>
    if x.mantissa < hiddenBit then withSign negative x.mantissa
    else withSign negative ((x.exponent + 150).toNat * hiddenBit + (x.mantissa - hiddenBit))

/-- The number nearest to `digits * 10 ^ exponent`. -/
def ofDecimal (negative : Bool) (digits : Nat) (exponent : Int) : Binary32 :=
  pack negative (binary32.ofDecimal digits exponent)

def ofMagnitude (negative : Bool) (x : Magnitude) : Binary32 :=
  pack negative (binary32.roundMagnitude x)

def ofInt (n : Int) : Binary32 :=
  pack (n < 0) (binary32.round n.natAbs 1)

example : ofInt 16777217 = ⟨0x4B800000⟩ := by decide +kernel
example : ofDecimal false 1 (-1) = ⟨0x3DCCCCCD⟩ := by decide +kernel
example : ofDecimal true 34028236 31 = infinity true := by decide +kernel

end Binary32

end RenderPlan.Number
