import RenderPlan.Number.Binary32

/-! Sizes of textures and framebuffers. A size is either fixed or a multiple of the window's, and
then follows the window. -/
namespace RenderPlan
open Number

inductive SizePolicy
  | fixed (width height : UInt32)
  | windowRelative (scaleX scaleY : Binary32)
  deriving DecidableEq

namespace SizePolicy

def isWindowRelative : SizePolicy → Bool
  | fixed _ _ => false
  | windowRelative _ _ => true

def maxExtent : Nat := 4294967295

/-- The product of an extent and a finite scale above zero, as a binary number of 53 significant
bits, then rounded to the nearest whole extent with a tie going up. -/
def scaledExtent (extent : Nat) (scale : Magnitude) : Nat :=
  let product := (Magnitude.mk (extent * scale.mantissa) scale.exponent).toPrecision 53
  nearestUp product.ratio.1 product.ratio.2

/-- One dimension of a window-relative size, between one and the greatest extent. A product that
is not a number gives zero. -/
def scaleExtent (extent : UInt32) (scale : Binary32) : UInt32 :=
  if scale.isNaN then 0
  else if scale.isInfinite then
    if extent = 0 then 0 else if scale.isNegative then 1 else UInt32.ofNat maxExtent
  else if scale.isNegative then 1
  else UInt32.ofNat (max 1 (min maxExtent (scaledExtent extent.toNat scale.magnitude)))

def resolve : SizePolicy → (width height : UInt32) → UInt32 × UInt32
  | fixed w h, _, _ => (w, h)
  | windowRelative x y, width, height => (scaleExtent width x, scaleExtent height y)

end SizePolicy

end RenderPlan
