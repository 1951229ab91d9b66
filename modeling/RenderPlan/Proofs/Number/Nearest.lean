import Mathlib.Algebra.Order.Floor.Semifield
import Mathlib.Algebra.Ring.Parity
import Mathlib.Data.Rat.Floor
import Mathlib.Tactic.FieldSimp
import Mathlib.Tactic.Linarith
import Mathlib.Tactic.Ring
import RenderPlan.Proofs.Number.Value

/-! Rounding to a number of significant bits, as a relation between rationals. The relation alone
determines the rounded number and keeps the order of the numbers, whatever mantissas and exponents
they were computed from. -/
namespace RenderPlan.Number

variable {bits num den : ℕ} {p p' q q' : ℚ} {x y : Magnitude} {e : ℤ}

/-- A number of at most `bits` significant bits. The exponent has no bounds. -/
def Representable (bits : ℕ) (q : ℚ) : Prop :=
  ∃ x : Magnitude, x.value = q ∧ x.mantissa < 2 ^ bits

/-- No number of at most `bits` significant bits is nearer to `p` than `q` is, and if another one is
as near, then `q` has the even mantissa. A mantissa that leaves a bit free counts as even, since it can
be doubled. -/
structure RoundsTo (bits : ℕ) (p q : ℚ) : Prop where
  representable : Representable bits q
  nearest : ∀ r, Representable bits r → |p - q| ≤ |p - r|
  even : ∀ r, Representable bits r → r ≠ q → |p - q| = |p - r| →
    ∃ x : Magnitude, x.value = q ∧ x.mantissa < 2 ^ bits ∧ Even x.mantissa

namespace Magnitude

/-- A number with a greater exponent lies on the grid of a smaller one. -/
lemma value_eq_of_le (x : Magnitude) (h : e ≤ x.exponent) :
    x.value = (⟨x.mantissa * 2 ^ (x.exponent - e).toNat, e⟩ : Magnitude).value := by
  have hsum : x.exponent = ((x.exponent - e).toNat : ℤ) + e := by omega
  have hpower : (2 : ℚ) ^ x.exponent = 2 ^ (x.exponent - e).toNat * 2 ^ e := by
    conv_lhs => rw [hsum]
    rw [zpow_add₀ two_ne_zero, zpow_natCast]
  rw [value, value, hpower, Nat.cast_mul, Nat.cast_pow, Nat.cast_two, mul_assoc]

lemma value_mk_add (e : ℤ) (m k : ℕ) :
    (⟨m, e + k⟩ : Magnitude).value = (⟨m * 2 ^ k, e⟩ : Magnitude).value := by
  rw [value_eq_of_le _ (Int.le_add_of_nonneg_right k.cast_nonneg), add_sub_cancel_left,
    Int.toNat_natCast]

@[simp]
lemma value_lt_iff {m n : ℕ} : (⟨m, e⟩ : Magnitude).value < (⟨n, e⟩ : Magnitude).value ↔ m < n := by
  have hpower : (0 : ℚ) < 2 ^ e := by positivity
  rw [value, value, mul_lt_mul_iff_left₀ hpower, Nat.cast_lt]

/-- A mantissa that has just grown out of its bits is halved. -/
lemma exists_carried (x : Magnitude) (hbits : 1 < bits) (h : x.mantissa ≤ 2 ^ bits) :
    ∃ y : Magnitude, y.value = x.value ∧ y.mantissa < 2 ^ bits ∧
      (Even x.mantissa → Even y.mantissa) := by
  rcases h.lt_or_eq with hlt | hfull
  · exact ⟨x, rfl, hlt, id⟩
  · obtain ⟨b, rfl⟩ := Nat.exists_eq_add_of_lt hbits
    refine ⟨⟨2 ^ (1 + b), x.exponent + (1 : ℕ)⟩, ?_, ?_, fun _ => ?_⟩
    · rw [value_mk_add, ← pow_add, ← hfull]
    · exact Nat.pow_lt_pow_right one_lt_two (Nat.lt_succ_self _)
    · exact (Nat.even_pow' (by omega)).2 even_two

end Magnitude

section Determined

/-- Which of two numbers is nearer depends on the side of their middle. -/
lemma nearer_iff (h : q < q') :
    (|p - q| ≤ |p - q'| ↔ 2 * p ≤ q + q') ∧ (|p - q'| ≤ |p - q| ↔ q + q' ≤ 2 * p) := by
  have hpos : 0 < q' - q := sub_pos.2 h
  have hbelow : (p - q') ^ 2 - (p - q) ^ 2 = (q' - q) * (q + q' - 2 * p) := by ring
  have habove : (p - q) ^ 2 - (p - q') ^ 2 = (q' - q) * (2 * p - (q + q')) := by ring
  constructor
  · rw [← sq_le_sq, ← sub_nonneg, hbelow, mul_nonneg_iff_of_pos_left hpos, sub_nonneg]
  · rw [← sq_le_sq, ← sub_nonneg, habove, mul_nonneg_iff_of_pos_left hpos, sub_nonneg]

/-- Two numbers with even mantissas are not neighbours. -/
lemma exists_representable_between (hbits : 0 < bits)
    (hx : x.mantissa < 2 ^ bits) (hx' : Even x.mantissa)
    (hy : y.mantissa < 2 ^ bits) (hy' : Even y.mantissa) (h : x.value < y.value) :
    ∃ r, Representable bits r ∧ x.value < r ∧ r < y.value := by
  have htop : Even (2 ^ bits) := (Nat.even_pow' hbits.ne').2 even_two
  -- On the finer of the two grids both numbers have even mantissas, so there is an odd one between.
  rcases le_total x.exponent y.exponent with hle | hle
  · obtain ⟨m, e⟩ := x
    rw [y.value_eq_of_le hle] at h ⊢
    have hn := hy'.mul_right (2 ^ (y.exponent - e).toNat)
    have hlt := Magnitude.value_lt_iff.1 h
    simp only at hx hx'
    refine ⟨_, ⟨⟨m + 1, e⟩, rfl, ?_⟩, Magnitude.value_lt_iff.2 ?_, Magnitude.value_lt_iff.2 ?_⟩
    all_goals grind
  · obtain ⟨n, e⟩ := y
    rw [x.value_eq_of_le hle] at h ⊢
    have hm := hx'.mul_right (2 ^ (x.exponent - e).toNat)
    have hlt := Magnitude.value_lt_iff.1 h
    simp only at hy hy'
    refine ⟨_, ⟨⟨n - 1, e⟩, rfl, ?_⟩, Magnitude.value_lt_iff.2 ?_, Magnitude.value_lt_iff.2 ?_⟩
    all_goals grind

namespace RoundsTo

lemma refl (h : Representable bits q) : RoundsTo bits q q where
  representable := h
  nearest r _ := by simp
  even r _ hne hr := by
    rw [sub_self, abs_zero, eq_comm, abs_eq_zero, sub_eq_zero] at hr
    exact absurd hr.symm hne

lemma not_lt_of_same (hbits : 0 < bits) (h : RoundsTo bits p q) (h' : RoundsTo bits p q') :
    ¬ q < q' := by
  intro hlt
  have hnear := h.nearest q' h'.representable
  have hnear' := h'.nearest q h.representable
  obtain ⟨x, rfl, hx, hx'⟩ := h.even q' h'.representable hlt.ne' (le_antisymm hnear hnear')
  obtain ⟨y, rfl, hy, hy'⟩ := h'.even _ h.representable hlt.ne (le_antisymm hnear' hnear)
  obtain ⟨r, hr, hxr, hry⟩ := exists_representable_between hbits hx hx' hy hy' hlt
  have hleft := (nearer_iff hxr).1.1 (h.nearest r hr)
  have hright := (nearer_iff hlt).2.1 hnear'
  linarith

lemma unique (hbits : 0 < bits) (h : RoundsTo bits p q) (h' : RoundsTo bits p q') : q = q' :=
  le_antisymm (not_lt.1 (not_lt_of_same hbits h' h)) (not_lt.1 (not_lt_of_same hbits h h'))

lemma mono (hbits : 0 < bits) (h : RoundsTo bits p q) (h' : RoundsTo bits p' q') (hp : p ≤ p') :
    q ≤ q' := by
  rcases hp.eq_or_lt with rfl | hlt
  · exact (unique hbits h h').le
  · by_contra hq
    have habove := (nearer_iff (not_le.1 hq)).2.1 (h.nearest q' h'.representable)
    have hbelow := (nearer_iff (not_le.1 hq)).1.1 (h'.nearest q h.representable)
    linarith

end RoundsTo
end Determined

section Nearest

lemma nearestEven_cases (num den : ℕ) :
    (nearestEven num den = num / den ∧ 2 * (num % den) ≤ den ∨
      nearestEven num den = num / den + 1 ∧ den ≤ 2 * (num % den)) ∧
    (2 * (num % den) = den → Even (nearestEven num den)) := by
  unfold nearestEven
  simp only
  grind

lemma nearestEven_le {bound : ℕ} (h : num < bound * den) : nearestEven num den ≤ bound := by
  have hquotient : num / den < bound := Nat.div_lt_of_lt_mul (by rwa [mul_comm])
  rcases (nearestEven_cases num den).1 with ⟨hn, -⟩ | ⟨hn, -⟩ <;> omega

/-- The error is at most half a unit, and half a unit only for an even result. -/
lemma nearestEven_error (num : ℕ) (hden : 0 < den) :
    2 * |(num : ℚ) - nearestEven num den * den| ≤ den ∧
      (2 * |(num : ℚ) - nearestEven num den * den| = den → Even (nearestEven num den)) := by
  have hsplit : (num : ℚ) = (num / den : ℕ) * den + (num % den : ℕ) := by
    exact_mod_cast (Nat.div_add_mod' num den).symm
  have hrest : ((num % den : ℕ) : ℚ) ≤ den := by exact_mod_cast (Nat.mod_lt num hden).le
  obtain ⟨⟨hn, hhalf⟩ | ⟨hn, hhalf⟩, htie⟩ := nearestEven_cases num den
  · have herror : |(num : ℚ) - nearestEven num den * den| = (num % den : ℕ) := by
      rw [hn, hsplit, add_sub_cancel_left, abs_of_nonneg (Nat.cast_nonneg _)]
    rw [herror]
    exact ⟨by exact_mod_cast hhalf, fun heq => htie (by exact_mod_cast heq)⟩
  · have herror : |(num : ℚ) - nearestEven num den * den| = den - (num % den : ℕ) := by
      rw [hn, hsplit, abs_sub_comm, abs_of_nonneg]
      · push_cast
        ring
      · push_cast
        linarith
    have hhalf' : (den : ℚ) ≤ 2 * (num % den : ℕ) := by exact_mod_cast hhalf
    rw [herror]
    refine ⟨by linarith, fun heq => htie ?_⟩
    have heq' : (2 * (num % den : ℕ) : ℚ) = den := by linarith
    exact_mod_cast heq'

/-- Every other multiple is off by half a unit or more. -/
lemma le_error_of_ne {k : ℕ} (hden : 0 < den) (hk : k ≠ nearestEven num den) :
    (den : ℚ) ≤ 2 * |(num : ℚ) - k * den| := by
  have hunit : (1 : ℚ) ≤ |(nearestEven num den : ℚ) - k| := by
    have hne : (nearestEven num den : ℤ) - k ≠ 0 := sub_ne_zero.2 (by exact_mod_cast hk.symm)
    exact_mod_cast Int.one_le_abs hne
  have hapart : (den : ℚ) ≤ |(num : ℚ) - k * den| + |(num : ℚ) - nearestEven num den * den| :=
    calc (den : ℚ) ≤ |(nearestEven num den : ℚ) - k| * den :=
          le_mul_of_one_le_left (Nat.cast_nonneg _) hunit
      _ = |((nearestEven num den : ℚ) - k) * den| := by rw [abs_mul, Nat.abs_cast]
      _ = |(num - k * den : ℚ) - (num - nearestEven num den * den)| := by congr 1; ring
      _ ≤ _ := abs_sub _ _
  have herror := (nearestEven_error num hden).1
  linarith

end Nearest

section Precision
variable {k j : ℕ}

namespace Magnitude

/-- The magnitude in units of `2 ^ k` times its own. -/
def coarsen (x : Magnitude) (k : ℕ) : Magnitude :=
  ⟨nearestEven x.mantissa (2 ^ k), x.exponent + k⟩

lemma abs_value_sub (x : Magnitude) (k j : ℕ) :
    |x.value - (⟨j, x.exponent + k⟩ : Magnitude).value| =
      |(x.mantissa : ℚ) - j * (2 ^ k : ℕ)| * 2 ^ x.exponent := by
  have hpower : (0 : ℚ) < 2 ^ x.exponent := by positivity
  rw [value_mk_add, value, value, ← sub_mul, abs_mul, abs_of_pos hpower, Nat.cast_mul]

lemma coarsen_nearest (x : Magnitude) (k j : ℕ) :
    |x.value - (x.coarsen k).value| ≤ |x.value - (⟨j, x.exponent + k⟩ : Magnitude).value| := by
  have hpower : (0 : ℚ) < 2 ^ x.exponent := by positivity
  rw [coarsen, abs_value_sub, abs_value_sub, mul_le_mul_iff_left₀ hpower]
  by_cases hj : j = nearestEven x.mantissa (2 ^ k)
  · rw [hj]
  · have herror := (nearestEven_error x.mantissa (Nat.two_pow_pos k)).1
    have hother := le_error_of_ne (Nat.two_pow_pos k) hj
    linarith

lemma coarsen_even (hj : j ≠ (x.coarsen k).mantissa) (h : |x.value - (x.coarsen k).value| =
    |x.value - (⟨j, x.exponent + k⟩ : Magnitude).value|) : Even (x.coarsen k).mantissa := by
  have hpower : (2 : ℚ) ^ x.exponent ≠ 0 := by positivity
  rw [coarsen, abs_value_sub, abs_value_sub, mul_left_inj' hpower] at h
  have herror := nearestEven_error x.mantissa (Nat.two_pow_pos k)
  have hother := le_error_of_ne (Nat.two_pow_pos k) hj
  exact herror.2 (le_antisymm herror.1 (h ▸ hother))

/-- The numbers of smaller exponents end below the least mantissa of full length. -/
lemma value_lt_of_lt (hbits : 0 < bits) (hy : y.mantissa < 2 ^ bits) (he : y.exponent < e) :
    y.value < (⟨2 ^ (bits - 1), e⟩ : Magnitude).value := by
  obtain ⟨m, f⟩ := y
  obtain ⟨b, rfl⟩ := Nat.exists_eq_succ_of_ne_zero hbits.ne'
  obtain ⟨d, hd⟩ : ∃ d, (e - f).toNat = d + 1 := ⟨(e - f).toNat - 1, by simp only at he; omega⟩
  rw [value_eq_of_le ⟨_, e⟩ he.le]
  refine value_lt_iff.2 ?_
  calc m < 2 ^ b * 2 := hy
    _ ≤ 2 ^ b * 2 * 2 ^ d := Nat.le_mul_of_pos_right _ (Nat.two_pow_pos d)
    _ = 2 ^ b * 2 ^ (e - f).toNat := by rw [hd, pow_succ']; ring

/-- A number of a smaller exponent lies below a point of the grid that is still below `x`. -/
lemma coarsen_nearer (hbits : 0 < bits) (hlow : 2 ^ (bits - 1) * 2 ^ k ≤ x.mantissa)
    (hy : y.mantissa < 2 ^ bits) (he : y.exponent < x.exponent + k) :
    |x.value - (x.coarsen k).value| < |x.value - y.value| := by
  have hpoint : (⟨2 ^ (bits - 1), x.exponent + k⟩ : Magnitude).value ≤ x.value := by
    rw [value_mk_add]
    exact not_lt.1 (mt value_lt_iff.1 hlow.not_gt)
  have hbelow := value_lt_of_lt hbits hy he
  calc |x.value - (x.coarsen k).value|
      ≤ |x.value - (⟨2 ^ (bits - 1), x.exponent + k⟩ : Magnitude).value| := x.coarsen_nearest k _
    _ = x.value - (⟨2 ^ (bits - 1), x.exponent + k⟩ : Magnitude).value :=
        abs_of_nonneg (sub_nonneg.2 hpoint)
    _ < x.value - y.value := sub_lt_sub_left hbelow _
    _ ≤ |x.value - y.value| := le_abs_self _

end Magnitude

/-- A mantissa that is `k` bits too long loses these bits. -/
lemma roundsTo_coarsen (hbits : 1 < bits) (hlow : 2 ^ (bits - 1) * 2 ^ k ≤ x.mantissa)
    (hhigh : x.mantissa < 2 ^ bits * 2 ^ k) : RoundsTo bits x.value (x.coarsen k).value := by
  obtain ⟨z, hz, hzbits, hzeven⟩ := (x.coarsen k).exists_carried hbits (nearestEven_le hhigh)
  have hbits' : 0 < bits := zero_lt_one.trans hbits
  -- A competitor is finer than the grid of the result, and then too small, or lies on that grid.
  refine ⟨⟨z, hz, hzbits⟩, ?_, ?_⟩
  · rintro _ ⟨y, rfl, hy⟩
    rcases lt_or_ge y.exponent (x.exponent + k) with he | he
    · exact (Magnitude.coarsen_nearer hbits' hlow hy he).le
    · rw [y.value_eq_of_le he]
      exact x.coarsen_nearest k _
  · rintro _ ⟨y, rfl, hy⟩ hne htie
    rcases lt_or_ge y.exponent (x.exponent + k) with he | he
    · exact absurd htie (Magnitude.coarsen_nearer hbits' hlow hy he).ne
    · rw [y.value_eq_of_le he] at hne htie
      refine ⟨z, hz, hzbits, hzeven (Magnitude.coarsen_even (fun hj => hne ?_) htie)⟩
      rw [hj]
      rfl

/-- Keeping so many significant bits is rounding to the nearest number that has them. -/
lemma roundsTo_toPrecision (hbits : 1 < bits) (x : Magnitude) :
    RoundsTo bits x.value (x.toPrecision bits).value := by
  rw [Magnitude.toPrecision]
  split
  · next hshort => exact RoundsTo.refl ⟨x, rfl, hshort⟩
  · next hlong =>
    have hlong : 2 ^ bits ≤ x.mantissa := not_lt.1 hlong
    have hpos : x.mantissa ≠ 0 := ((Nat.two_pow_pos bits).trans_le hlong).ne'
    have hlength : bits ≤ x.mantissa.log2 := (Nat.le_log2 hpos).2 hlong
    refine roundsTo_coarsen hbits ?_ ?_
    · rw [← pow_add, show bits - 1 + (x.mantissa.log2 + 1 - bits) = x.mantissa.log2 by omega]
      exact Nat.log2_self_le hpos
    · rw [← pow_add, show bits + (x.mantissa.log2 + 1 - bits) = x.mantissa.log2 + 1 by omega]
      exact Nat.lt_log2_self

end Precision

section Floor

lemma Magnitude.value_eq_ratio (x : Magnitude) : x.value = (x.ratio.1 : ℚ) / x.ratio.2 := by
  have hsplit : x.exponent = (x.exponent.toNat : ℤ) - (-x.exponent).toNat := by omega
  have hpower : (2 : ℚ) ^ x.exponent = (2 ^ x.exponent.toNat : ℚ) / 2 ^ (-x.exponent).toNat := by
    conv_lhs => rw [hsplit]
    rw [zpow_sub₀ two_ne_zero, zpow_natCast, zpow_natCast]
  simp only [value, hpower, ratio, Nat.pow_eq, Nat.cast_mul, Nat.cast_pow, Nat.cast_two, mul_div_assoc]

/-- A half goes up. -/
lemma nearestUp_eq_floor (num : ℕ) (hden : 0 < den) :
    nearestUp num den = ⌊(num / den : ℚ) + 1 / 2⌋₊ := by
  have hden' : (den : ℚ) ≠ 0 := by exact_mod_cast hden.ne'
  have hsum : (num / den : ℚ) + 1 / 2 = ((2 * num + den : ℕ) : ℚ) / (2 * den : ℕ) := by
    push_cast
    field_simp
  rw [nearestUp, hsum, Nat.floor_div_eq_div]

lemma Magnitude.nearestUp_ratio (x : Magnitude) :
    nearestUp x.ratio.1 x.ratio.2 = ⌊x.value + 1 / 2⌋₊ := by
  rw [x.value_eq_ratio]
  exact nearestUp_eq_floor _ (Nat.two_pow_pos _)

end Floor

end RenderPlan.Number
