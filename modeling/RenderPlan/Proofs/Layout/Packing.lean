import Mathlib.Data.Nat.Find
import Mathlib.Order.Bounds.Basic
import RenderPlan.Layout.Packing

/-! The packing rules in exact numbers. `ShaderType.measure` says what std140 asks for, without a
limit and without words that run over; the placement of a type is this measure as long as every
array in the type stays within a block. -/
namespace RenderPlan

section RoundUp
variable {n a b : ℕ}

/-- Rounding up gives the least multiple that is large enough. -/
lemma isLeast_roundUp (n : ℕ) (ha : 0 < a) : IsLeast {k | a ∣ k ∧ n ≤ k} (roundUp n a) := by
  have hdiv := Nat.div_add_mod' n a
  have hmod := Nat.mod_lt n ha
  rw [roundUp_eq]
  refine ⟨⟨Nat.dvd_mul_left a _, ?_⟩, ?_⟩
  · split
    · omega
    · rw [Nat.add_one_mul]
      omega
  · rintro k ⟨⟨c, rfl⟩, hn⟩
    rw [Nat.mul_comm a c] at hn ⊢
    apply Nat.mul_le_mul_right
    split
    · exact Nat.div_le_of_le_mul (hn.trans_eq (Nat.mul_comm c a))
    · -- A quotient as large as `c` would leave nothing over.
      by_contra hlt
      have hle := Nat.mul_le_mul_right a (Nat.le_of_lt_succ (Nat.lt_of_not_le hlt))
      omega

/-- Rounding to a finer unit first makes no difference. -/
lemma roundUp_roundUp (n : ℕ) (ha : 0 < a) (hb : 0 < b) (h : a ∣ b) :
    roundUp (roundUp n a) b = roundUp n b := by
  have hn := isLeast_roundUp n ha
  apply (isLeast_roundUp (roundUp n a) hb).unique
  obtain ⟨⟨hd, hle⟩, hmin⟩ := isLeast_roundUp n hb
  refine ⟨⟨hd, hn.2 ⟨Nat.dvd_trans h hd, hle⟩⟩, ?_⟩
  rintro k ⟨hk, hle'⟩
  exact hmin ⟨hk, hn.1.2.trans hle'⟩

lemma exists_slot (n : ℕ) : ∃ k, 16 ∣ k ∧ n ≤ k := ⟨16 * n, Nat.dvd_mul_right 16 n, by omega⟩

/-- The least multiple of 16 that is at least `n`. -/
def slot (n : ℕ) : ℕ := Nat.find (exists_slot n)

lemma isLeast_slot (n : ℕ) : IsLeast {k | 16 ∣ k ∧ n ≤ k} (slot n) :=
  ⟨Nat.find_spec (exists_slot n), fun _ hk => Nat.find_min' (exists_slot n) hk⟩

@[simp] lemma roundUp_blockAlignment (n : ℕ) : roundUp n blockAlignment = slot n :=
  (isLeast_roundUp n (by decide)).unique (isLeast_slot n)

lemma dvd_slot (n : ℕ) : 16 ∣ slot n := (isLeast_slot n).1.1

lemma le_slot (n : ℕ) : n ≤ slot n := (isLeast_slot n).1.2

lemma slot_le {k : ℕ} (hk : 16 ∣ k) (h : n ≤ k) : slot n ≤ k := (isLeast_slot n).2 ⟨hk, h⟩

end RoundUp

section Words
variable (owner : String) (a b : ℕ)

/-- A product that runs over a word is above the limit anyway. -/
@[simp] lemma blockSize_mulWord? : blockSize owner (mulWord? a b) =
    if a * b ≤ blockLimit then .ok (a * b) else .error (.layoutOverflow owner) := by
  by_cases h : a * b < UInt64.size
  · simp [mulWord?, h, blockSize]
  · have hl : ¬ a * b ≤ blockLimit := by
      have : blockLimit < UInt64.size := by decide
      omega
    simp [mulWord?, h, hl, blockSize]

@[simp] lemma blockSize_addWord? : blockSize owner (addWord? a b) =
    if a + b ≤ blockLimit then .ok (a + b) else .error (.layoutOverflow owner) := by
  by_cases h : a + b < UInt64.size
  · simp [addWord?, h, blockSize]
  · have hl : ¬ a + b ≤ blockLimit := by
      have : blockLimit < UInt64.size := by decide
      omega
    simp [addWord?, h, hl, blockSize]

end Words

namespace ShaderType
variable {owner name : String} {total total' : String → ℕ}
  {footprint footprint' : String → Except Fault Footprint}

/-- What std140 asks for a value of a type, if a value of the struct `m` takes `total m` bytes. -/
@[simp] def measure (total : String → ℕ) : ShaderType → Placement
  | scalar _ => ⟨4, 4, none⟩
  | vector _ .two => ⟨8, 8, none⟩
  | vector _ .three => ⟨12, 16, none⟩
  | vector _ .four => ⟨16, 16, none⟩
  | matrix columns rows =>
    let stride := slot (4 * rows.count)
    ⟨columns.count * stride, 16, some stride⟩
  | array element length =>
    let stride := slot (element.measure total).size
    ⟨length.count * stride, 16, some stride⟩
  | struct name => ⟨total name, 16, none⟩

/-- The array types a type is made of, one for each level. -/
@[simp] def arrays : ShaderType → List ShaderType
  | array element length => array element length :: element.arrays
  | _ => []

lemma referenced_of_mem_arrays {ty a : ShaderType} (ha : a ∈ ty.arrays) :
    a.referenced = ty.referenced := by
  induction ty with
  | array element length ih =>
    rcases List.mem_cons.1 ha with rfl | ha
    · rfl
    · exact ih ha
  | _ => cases ha

lemma alignment_measure (total : String → ℕ) (ty : ShaderType) :
    (ty.measure total).alignment = 4 ∨ (ty.measure total).alignment = 8 ∨
      (ty.measure total).alignment = 16 := by
  cases ty with
  | vector kind arity => cases arity <;> simp
  | _ => simp

lemma measure_congr {ty : ShaderType} (h : ∀ m, ty.referenced = some m → total m = total' m) :
    ty.measure total = ty.measure total' := by
  induction ty with
  | vector kind arity => cases arity <;> rfl
  | array element length ih => simp only [measure, ih h]
  | struct name => simp only [measure, h name rfl]
  | _ => rfl

@[simp] lemma columnStride_eq (rows : Arity) : columnStride rows = slot (4 * rows.count) := by
  have h : vectorAlignment rows ∣ blockAlignment := by cases rows <;> decide
  rw [columnStride_def, roundUp_roundUp _ (by cases rows <;> decide) (by decide) h,
    roundUp_blockAlignment, scalarSize]

/-- The distance between array elements whose alignment divides 16. -/
lemma elementStride_eq (ty : ShaderType) :
    roundUp (roundUp (ty.measure total).size (ty.measure total).alignment) blockAlignment =
      slot (ty.measure total).size := by
  have h : 0 < (ty.measure total).alignment ∧ (ty.measure total).alignment ∣ blockAlignment := by
    rcases alignment_measure total ty with h | h | h <;> rw [h] <;> decide
  rw [roundUp_roundUp _ h.1 (by decide) h.2, roundUp_blockAlignment]

/-- An array has an element, so its stride is no larger than the array. -/
lemma stride_measure_le {ty : ShaderType} {stride : ℕ}
    (ha : ∀ a ∈ ty.arrays, (a.measure total).size ≤ 65536)
    (h : (ty.measure total).stride = some stride) : stride ≤ 65536 := by
  cases ty with
  | scalar kind => cases h
  | vector kind arity => cases arity <;> cases h
  | matrix columns rows =>
    cases h
    rw [← columnStride_eq]
    cases rows <;> decide
  | array element length =>
    cases h
    exact (Nat.le_mul_of_pos_left _ length.count_pos).trans (ha _ List.mem_cons_self)
  | struct name => cases h

/-- Once the struct a type refers to is measured, the placement fails only for an array that is too
large. -/
lemma placement_eq {ty : ShaderType}
    (h : ∀ m, ty.referenced = some m → footprint m = .ok ⟨total m, 16⟩) :
    ty.placement owner footprint =
      if ∀ a ∈ ty.arrays, (a.measure total).size ≤ blockLimit then .ok (ty.measure total)
      else .error (.layoutOverflow owner) := by
  induction ty with
  | scalar kind => rfl
  | vector kind arity => cases arity <;> rfl
  | matrix columns rows => simp [blockAlignment]
  | struct name =>
    have halign : roundUp 16 blockAlignment = 16 := by decide
    rw [placement_struct, h name rfl, if_pos (by simp)]
    change Except.ok (⟨total name, roundUp 16 blockAlignment, none⟩ : Placement) = _
    rw [halign, measure]
  | array element length ih =>
    rw [placement_array, ih h]
    simp only [arrays, List.forall_mem_cons, measure]
    by_cases hin : ∀ a ∈ element.arrays, (a.measure total).size ≤ blockLimit
    · rw [if_pos hin]
      simp only [bind, Except.bind, elementStride_eq, blockSize_mulWord?]
      by_cases hout : length.count * slot (element.measure total).size ≤ blockLimit
      · rw [if_pos hout, if_pos ⟨hout, hin⟩]
        rfl
      · rw [if_neg hout, if_neg (fun hh => hout hh.1)]
    · rw [if_neg hin, if_neg (fun hh => hin hh.2)]
      rfl

lemma placement_eq_ok {ty : ShaderType} (owner : String)
    (h : ∀ m, ty.referenced = some m → footprint m = .ok ⟨total m, 16⟩)
    (ha : ∀ a ∈ ty.arrays, (a.measure total).size ≤ 65536) :
    ty.placement owner footprint = .ok (ty.measure total) :=
  (placement_eq h).trans (if_pos ha)

lemma placement_congr {ty : ShaderType}
    (h : ∀ m, ty.referenced = some m → footprint m = footprint' m) :
    ty.placement owner footprint = ty.placement owner footprint' := by
  induction ty with
  | array element length ih => simp only [placement_array, ih h]
  | struct name => simp only [placement_struct, h name rfl]
  | _ => rfl

/-- A struct that cannot be measured stops the placement with its own fault. -/
lemma placement_error {ty : ShaderType} {fault : Fault} (hr : ty.referenced = some name)
    (h : footprint name = .error fault) : ty.placement owner footprint = .error fault := by
  induction ty with
  | array element length ih => simp [placement_array, ih hr, bind, Except.bind]
  | struct m =>
    cases hr
    simp [placement_struct, h, bind, Except.bind]
  | _ => cases hr

end ShaderType
end RenderPlan
