import RenderPlan.Proofs.Number.Nearest
import RenderPlan.Proofs.Resource.Acceptance

/-! Sizes that follow the window. A dimension is the window's extent times a scale, rounded twice and
clamped. Both roundings keep the order of the products. The first one changes nothing as long as
extent and scale have no more than 53 bits together. -/
namespace RenderPlan
open Number

namespace Number.Binary32
variable {x : Binary32}

/-- A finite number above zero. -/
def IsScale (x : Binary32) : Prop := x.isFinite = true ∧ 0 < x.value

lemma IsScale.isNegative (h : x.IsScale) : x.isNegative = false := by
  have hpositive := x.isPositive_iff.2 h
  simp only [isPositive, Bool.and_eq_true, Bool.not_eq_true'] at hpositive
  exact hpositive.2

lemma IsScale.value_eq (h : x.IsScale) : x.value = x.magnitude.value := by
  rw [value, h.isNegative]
  rfl

end Number.Binary32

namespace ResourceGraph
variable {x y : Binary32}

/-- Some graph that can be built has a texture with these scales. -/
def AdmitsScales (x y : Binary32) : Prop :=
  ∃ decls g d t, build decls = .ok g ∧ d ∈ g.decls ∧ d.kind = .texture t ∧
    t.size = some (.windowRelative x y)

lemma exists_build_texture {t : Texture} (h : t.WellFormed) :
    ∃ g, build [⟨"canvas", .texture t⟩] = .ok g := by
  simp only [exists_build_iff, List.mem_singleton, forall_eq, List.map_singleton,
    List.nodup_singleton, ResourceDecl.check, t.defect?_eq_none_iff.2 h, and_true]
  decide

lemma admitsScales_iff : AdmitsScales x y ↔ x.IsScale ∧ y.IsScale := by
  constructor
  · rintro ⟨decls, g, d, t, hbuild, hd, hk, hsize⟩
    have hchecked := (build_eq_ok_iff.1 hbuild).2.1.checked d hd
    exact ((ResourceDecl.check_eq_ok_iff_wellFormed.1 hchecked).texture t hk).scaled x y hsize
  · intro hscales
    let t : Texture := { format := .rgba8Unorm, size := some (.windowRelative x y) }
    have hwell : t.WellFormed := by
      refine ⟨UInt32.le_refl 1, by simp [t], by simp [t], by simp [t], ?_⟩
      rintro _ _ ⟨⟩
      exact hscales
    obtain ⟨g, hg⟩ := exists_build_texture hwell
    refine ⟨_, g, ⟨"canvas", .texture t⟩, t, hg, ?_, rfl, rfl⟩
    rw [(build_eq_ok_iff.1 hg).1]
    exact List.mem_singleton_self _

end ResourceGraph

namespace SizePolicy
variable {extent extent' : UInt32} {x x' : Binary32} {n : ℕ}

/-- The whole number nearest to `q`, a half going up, in the range of extents. -/
def nearestExtent (q : ℚ) : ℕ := max 1 (min 4294967295 ⌊q + 1 / 2⌋₊)

lemma nearestExtent_mono : Monotone nearestExtent := by
  intro p q h
  have hfloor : ⌊p + 1 / 2⌋₊ ≤ ⌊q + 1 / 2⌋₊ := Nat.floor_mono (add_le_add_left h _)
  exact max_le_max_left _ (min_le_min_left _ hfloor)

lemma nearestExtent_le (q : ℚ) : nearestExtent q ≤ 4294967295 :=
  max_le (by decide) (min_le_left _ _)

/-- How a scale takes an extent of the window to the size that way. The product is rounded to 53 bits and
then to a whole number; for a short extent the first rounding can be left out. -/
structure Scales (x : Binary32) (extent size : UInt32) : Prop where
  one_le : 1 ≤ size.toNat
  le_max : size.toNat ≤ 4294967295
  rounded : ∃ product, RoundsTo 53 (extent.toNat * x.value) product ∧
    size.toNat = nearestExtent product
  exact : extent.toNat < 2 ^ 29 → size.toNat = nearestExtent (extent.toNat * x.value)

lemma scaledExtent_eq_floor (n : ℕ) (m : Magnitude) : scaledExtent n m =
    ⌊((⟨n * m.mantissa, m.exponent⟩ : Magnitude).toPrecision 53).value + 1 / 2⌋₊ :=
  Magnitude.nearestUp_ratio _

lemma value_product (hx : x.IsScale) (n : ℕ) :
    (⟨n * x.magnitude.mantissa, x.magnitude.exponent⟩ : Magnitude).value = n * x.value := by
  rw [hx.value_eq, Magnitude.value, Magnitude.value, Nat.cast_mul, mul_assoc]

lemma toNat_scaleExtent (hx : x.IsScale) : (scaleExtent extent x).toNat =
    max 1 (min 4294967295 (scaledExtent extent.toNat x.magnitude)) := by
  have hfinite : x.unsigned < Binary32.infinityBits := of_decide_eq_true hx.1
  have hnan : x.isNaN = false := decide_eq_false hfinite.not_gt
  have hinfinite : x.isInfinite = false := beq_false_of_ne hfinite.ne
  rw [scaleExtent, hnan, hinfinite, hx.isNegative]
  simp only [Bool.false_eq_true, ↓reduceIte]
  exact UInt32.toNat_ofNat_of_lt' (Nat.lt_succ_of_le (max_le (by decide) (min_le_left _ _)))

/-- The product is rounded to 53 bits, and the rounded product to a whole number. -/
lemma exists_product (hx : x.IsScale) (extent : UInt32) :
    ∃ product, RoundsTo 53 (extent.toNat * x.value) product ∧
      (scaleExtent extent x).toNat = nearestExtent product := by
  refine ⟨_, value_product hx extent.toNat ▸ roundsTo_toPrecision (by decide) _, ?_⟩
  rw [toNat_scaleExtent hx, scaledExtent_eq_floor]
  rfl

/-- Scales have 24 bits. -/
lemma representable_product (hx : x.IsScale) (hn : n < 2 ^ 29) : Representable 53 (n * x.value) := by
  refine ⟨_, value_product hx n, ?_⟩
  calc n * x.magnitude.mantissa < 2 ^ 29 * 2 ^ 24 :=
        Nat.mul_lt_mul'' hn x.mantissa_magnitude_lt
    _ = 2 ^ 53 := (pow_add 2 29 24).symm

lemma scales_scaleExtent (hx : x.IsScale) (extent : UInt32) :
    Scales x extent (scaleExtent extent x) := by
  obtain ⟨product, hproduct, hsize⟩ := exists_product hx extent
  refine ⟨hsize ▸ le_max_left _ _, hsize ▸ nearestExtent_le _, ⟨product, hproduct, hsize⟩, ?_⟩
  intro hextent
  have hexact := RoundsTo.refl (representable_product hx hextent)
  rw [hsize, hproduct.unique (by decide) hexact]

-- Beyond that bound a product of 54 bits that is just below a half can be rounded up to the half.
example : (scaleExtent 536887169 ⟨0x407FFF7F⟩).toNat = 2147532164 ∧
    nearestExtent (536887169 * (⟨0x407FFF7F⟩ : Binary32).value) = 2147532163 := by
  decide +kernel

lemma scaleExtent_le (hx : x.IsScale) (hx' : x'.IsScale) (hextent : extent ≤ extent')
    (hvalue : x.value ≤ x'.value) : scaleExtent extent x ≤ scaleExtent extent' x' := by
  obtain ⟨product, hproduct, hsize⟩ := exists_product hx extent
  obtain ⟨product', hproduct', hsize'⟩ := exists_product hx' extent'
  have hle : (extent.toNat * x.value : ℚ) ≤ extent'.toNat * x'.value :=
    mul_le_mul (Nat.cast_le.2 hextent) hvalue hx.2.le (Nat.cast_nonneg _)
  rw [UInt32.le_iff_toNat_le, hsize, hsize']
  exact nearestExtent_mono (hproduct.mono (by decide) hproduct' hle)

/-- The scales of textures are the finite numbers above zero. With them each dimension of a size is
one of the extents from one on, does not shrink when the window or the scale grows, and is the exact
product rounded once if the window has less than `2 ^ 29` pixels that way. -/
theorem resolve_windowRelative_rounds :
    (∀ x y, ResourceGraph.AdmitsScales x y ↔ x.IsScale ∧ y.IsScale) ∧
    ∀ x y : Binary32, x.IsScale → y.IsScale → ∀ width height : UInt32,
      let size := (windowRelative x y).resolve width height
      (Scales x width size.1 ∧ Scales y height size.2) ∧
      ∀ x' y' : Binary32, x'.IsScale → y'.IsScale → ∀ width' height' : UInt32,
        let size' := (windowRelative x' y').resolve width' height'
        (width ≤ width' → x.value ≤ x'.value → size.1 ≤ size'.1) ∧
          (height ≤ height' → y.value ≤ y'.value → size.2 ≤ size'.2) := by
  refine ⟨fun x y => ResourceGraph.admitsScales_iff, ?_⟩
  intro x y hx hy width height
  refine ⟨⟨scales_scaleExtent hx width, scales_scaleExtent hy height⟩, ?_⟩
  intro x' y' hx' hy' width' height'
  exact ⟨scaleExtent_le hx hx', scaleExtent_le hy hy'⟩

/-- A product of 53 bits, and the least scale of all, which keeps one pixel. -/
theorem resolve_windowRelative_rounds_longest :
    ResourceGraph.AdmitsScales ⟨0x3F7FFFFF⟩ ⟨1⟩ ∧
    (windowRelative ⟨0x3F7FFFFF⟩ ⟨1⟩).resolve 536870911 4294967295 = (536870879, 1) ∧
    nearestExtent (536870911 * (⟨0x3F7FFFFF⟩ : Binary32).value) = 536870879 ∧
    536870879 ≤ ((windowRelative ⟨0x3F800000⟩ ⟨1⟩).resolve 536870911 4294967295).1 := by
  have hx : (⟨0x3F7FFFFF⟩ : Binary32).IsScale := (Binary32.isPositive_iff _).1 (by decide)
  have hx' : (⟨0x3F800000⟩ : Binary32).IsScale := (Binary32.isPositive_iff _).1 (by decide)
  have hy : (⟨1⟩ : Binary32).IsScale := (Binary32.isPositive_iff _).1 (by decide)
  have hsize : (windowRelative ⟨0x3F7FFFFF⟩ ⟨1⟩).resolve 536870911 4294967295 = (536870879, 1) := by
    decide +kernel
  obtain ⟨⟨hwidth, -⟩, hmono⟩ := resolve_windowRelative_rounds.2 _ _ hx hy 536870911 4294967295
  rw [hsize] at hwidth hmono
  exact ⟨(resolve_windowRelative_rounds.1 _ _).2 ⟨hx, hy⟩, hsize, (hwidth.exact (by decide)).symm,
    (hmono _ _ hx' hy _ _).1 (by decide) (by decide +kernel)⟩

end SizePolicy

end RenderPlan
