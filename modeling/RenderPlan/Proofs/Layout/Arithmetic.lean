import RenderPlan.Proofs.Layout.Requests
import RenderPlan.Proofs.Outcome

/-! Layouts in machine numbers. Every sum and product that a layout takes without a check is left to
an arithmetic, which may wrap around or give up when a number gets too large. One that is right up to
the limit of a block lays out all structs as exact numbers do: the checked numbers keep the others
within the limit. -/
namespace RenderPlan
open Layouts StructTable

namespace Arithmetic

/-- Words of 64 bits. -/
def wrapping : Arithmetic Id where
  add a b := (UInt64.ofNat a + UInt64.ofNat b).toNat
  mul a b := (UInt64.ofNat a * UInt64.ofNat b).toNat

/-- Numbers up to a limit, with no result above it. -/
def bounded (limit : ℕ) : Arithmetic Option where
  add a b := if a + b ≤ limit then some (a + b) else none
  mul a b := if a * b ≤ limit then some (a * b) else none

/-- Sums and products are right if they fit in a block. -/
structure Faithful {m : Type → Type} [Monad m] (A : Arithmetic m) : Prop where
  add {a b : ℕ} (h : a + b ≤ 65536) : A.add a b = pure (a + b)
  mul {a b : ℕ} (h : a * b ≤ 65536) : A.mul a b = pure (a * b)

lemma faithful_wrapping : wrapping.Faithful where
  add {a b} h := by
    change (UInt64.ofNat a + UInt64.ofNat b).toNat = a + b
    rw [← UInt64.ofNat_add, UInt64.toNat_ofNat_of_lt' (Nat.lt_of_le_of_lt h (by decide))]
  mul {a b} h := by
    change (UInt64.ofNat a * UInt64.ofNat b).toNat = a * b
    rw [← UInt64.ofNat_mul, UInt64.toNat_ofNat_of_lt' (Nat.lt_of_le_of_lt h (by decide))]

lemma faithful_bounded {limit : ℕ} (h : 65536 ≤ limit) : (bounded limit).Faithful where
  add hab := if_pos (hab.trans h)
  mul hab := if_pos (hab.trans h)

end Arithmetic

/-- The numbers of a placement stay within a block. -/
structure Placement.InBlock (p : Placement) : Prop where
  size : p.size ≤ 65536
  alignment : 0 < p.alignment ∧ p.alignment ∣ 16
  stride : ∀ stride, p.stride = some stride → stride ≤ 65536

structure Frame.InBlock (frame : Frame) : Prop where
  cursor : frame.cursor ≤ 65536
  alignment : frame.alignment = 16

structure Footprint.InBlock (p : Footprint) : Prop where
  totalSize : p.totalSize ≤ 65536
  alignment : p.alignment = 16

section Limits
variable {owner name : String} {footprint : String → Except Fault Footprint} {t : StructTable}
  {done : Layouts} {l : StructLayout}

/-- The limit is a multiple of every alignment, so rounding up does not pass it. -/
lemma roundUp_le_limit {n a : ℕ} (ha : 0 < a ∧ a ∣ 16) (hn : n ≤ 65536) : roundUp n a ≤ 65536 :=
  (isLeast_roundUp n ha.1).2 ⟨Nat.dvd_trans ha.2 (by decide), hn⟩

lemma blockAlignment_pos_dvd : 0 < blockAlignment ∧ blockAlignment ∣ 16 := by decide

lemma Layouts.Sound.footprint_inBlock (hs : Sound t done) (hl : done.get? name = some l)
    (owner : String) : ∃ p, done.footprint owner name = .ok p ∧ p.InBlock := by
  have hlayout := hs.hasLayout hl
  refine ⟨l.footprint, by rw [footprint, hl], hlayout.totalSize_le, ?_⟩
  rw [hlayout.isStd140.footprint_eq]

/-- By induction over the type. Only the product with the length of an array can be large, and that
one is checked. -/
lemma ShaderType.placement_inBlock {ty : ShaderType} {p : Placement}
    (hf : ∀ m, ty.referenced = some m → ∃ p, footprint m = .ok p ∧ p.InBlock)
    (h : ty.placement owner footprint = .ok p) : p.InBlock := by
  induction ty generalizing p with
  | scalar kind =>
    cases h
    exact ⟨by decide, by decide, by simp⟩
  | vector kind arity =>
    cases h
    exact ⟨by cases arity <;> decide, by cases arity <;> decide, by simp⟩
  | matrix columns rows =>
    rw [placement_matrix] at h
    cases h
    have hstride : columnStride rows ≤ 65536 := by cases rows <;> decide
    refine ⟨?_, blockAlignment_pos_dvd, by simpa using hstride⟩
    cases columns <;> cases rows <;> decide
  | struct name =>
    obtain ⟨⟨total, alignment⟩, hnested, hsize, halign⟩ := hf name rfl
    dsimp only at hsize halign
    subst halign
    rw [placement_struct, hnested] at h
    cases h
    refine ⟨hsize, ?_, by simp⟩
    dsimp only
    decide
  | array element length ih =>
    rw [placement_array] at h
    obtain ⟨inner, hinner, h⟩ := bind_eq_ok_iff.1 h
    obtain ⟨size, hsize, h⟩ := bind_eq_ok_iff.1 h
    cases h
    have hin := ih hf hinner
    have hstride := roundUp_le_limit blockAlignment_pos_dvd (roundUp_le_limit hin.alignment hin.size)
    rw [blockSize_mulWord?] at hsize
    split at hsize
    · next hle =>
      cases hsize
      exact ⟨hle, blockAlignment_pos_dvd, by simpa using hstride⟩
    · cases hsize

lemma Frame.place_inBlock {frame frame' : Frame} {field : FieldDecl} (hframe : frame.InBlock)
    (hf : ∀ m, field.type.referenced = some m → ∃ p, footprint m = .ok p ∧ p.InBlock)
    (h : frame.place owner footprint field = .ok frame') : frame'.InBlock := by
  rw [place_def] at h
  obtain ⟨p, hp, h⟩ := bind_eq_ok_iff.1 h
  obtain ⟨cursor, hcursor, h⟩ := bind_eq_ok_iff.1 h
  cases h
  have hin := ShaderType.placement_inBlock hf hp
  rw [blockSize_addWord?] at hcursor
  split at hcursor
  · next hle =>
    cases hcursor
    refine ⟨hle, ?_⟩
    dsimp only
    rw [hframe.alignment]
    exact Nat.max_eq_left (Nat.le_of_dvd (by decide) hin.alignment.2)
  · cases hcursor

/-- A product that no word holds is a fault of the layout, and so is such a sum. -/
lemma ShaderType.placement_array_overflow {element : ShaderType} {length : ArrayLength}
    {p : Placement} (hp : element.placement owner footprint = .ok p)
    (h : UInt64.size ≤ length.count * roundUp (roundUp p.size p.alignment) blockAlignment) :
    (array element length).placement owner footprint = .error (.layoutOverflow owner) := by
  have hword := Nat.not_lt_of_le h
  rw [placement_array, hp]
  simp only [bind, Except.bind, mulWord?, hword, if_false, blockSize]

lemma Frame.place_overflow {frame : Frame} {field : FieldDecl} {p : Placement}
    (hp : field.type.placement owner footprint = .ok p)
    (h : UInt64.size ≤ roundUp frame.cursor p.alignment + p.size) :
    frame.place owner footprint field = .error (.layoutOverflow owner) := by
  have hword := Nat.not_lt_of_le h
  rw [place_def, hp]
  simp only [bind, Except.bind, addWord?, hword, if_false, blockSize]

end Limits

namespace Arithmetic.Faithful
variable {m : Type → Type} [Monad m] {A : Arithmetic m}
  {footprint : String → Except Fault Footprint} {t : StructTable} {stack : List String}
  {referrer name : String} {done : Layouts} {c : LayoutCache} {fields : List FieldDecl}
  {expected : String → Except Fault StructLayout} {visit : String → Resolution Unit}
  {visitIn : String → Layouts → m (EStateM.Result Fault Layouts Unit)}

lemma visitReferenced {type : ShaderType}
    (hv : ∀ n, type.referenced = some n → visitIn n done = pure (visit n done)) :
    Arithmetic.visitReferenced visitIn type done =
      pure (Resolution.visitReferenced visit type done) := by
  rw [Resolution.visitReferenced_def, Arithmetic.visitReferenced]
  cases hr : type.referenced with
  | none => rfl
  | some n => exact hv n hr

variable [LawfulMonad m]

lemma roundUp (hA : A.Faithful) {n a : ℕ} (ha : 0 < a ∧ a ∣ 16) (hn : n ≤ 65536) :
    A.roundUp n a = pure (RenderPlan.roundUp n a) := by
  have hle := roundUp_le_limit ha hn
  rw [roundUp_eq] at hle ⊢
  unfold Arithmetic.roundUp
  split at hle
  · next h => simp only [h, if_true, pure_bind, hA.mul hle]
  · next h =>
    have hquotient : n / a + 1 ≤ 65536 := (Nat.le_mul_of_pos_right _ ha.1).trans hle
    simp only [h, if_false, hA.add hquotient, pure_bind, hA.mul hle]

lemma columnStride (hA : A.Faithful) (rows : Arity) :
    A.columnStride rows = pure (RenderPlan.columnStride rows) := by
  have hcolumn : scalarSize * rows.count ≤ 65536 := by cases rows <;> decide
  have halign : 0 < vectorAlignment rows ∧ vectorAlignment rows ∣ 16 := by cases rows <;> decide
  rw [Arithmetic.columnStride, hA.mul hcolumn, pure_bind, hA.roundUp halign hcolumn, pure_bind,
    hA.roundUp blockAlignment_pos_dvd (roundUp_le_limit halign hcolumn)]
  rfl

/-- A type whose struct is finished is placed as in exact numbers. -/
lemma placement (hA : A.Faithful) (owner : String) {ty : ShaderType}
    (hf : ∀ m, ty.referenced = some m → ∃ p, footprint m = .ok p ∧ p.InBlock) :
    A.placement owner footprint ty = pure (ty.placement owner footprint) := by
  induction ty with
  | scalar kind => rfl
  | vector kind arity =>
    rw [Arithmetic.placement, hA.mul (by cases arity <;> decide), pure_bind]
    rfl
  | matrix columns rows =>
    have hsize : columns.count * RenderPlan.columnStride rows ≤ 65536 := by
      cases columns <;> cases rows <;> decide
    rw [Arithmetic.placement, hA.columnStride, pure_bind, hA.mul hsize, pure_bind]
    rfl
  | struct name =>
    obtain ⟨nested, hnested, hin⟩ := hf name rfl
    have halign : nested.alignment ≤ 65536 := by
      rw [hin.alignment]
      decide
    rw [Arithmetic.placement, ShaderType.placement_struct, hnested]
    dsimp only
    rw [hA.roundUp blockAlignment_pos_dvd halign, pure_bind]
    rfl
  | array element length ih =>
    have hinner : ∀ m, element.referenced = some m → ∃ p, footprint m = .ok p ∧ p.InBlock := hf
    rw [Arithmetic.placement, ShaderType.placement_array, ih hinner, pure_bind]
    cases hp : element.placement owner footprint with
    | error fault => rfl
    | ok inner =>
      have hin := ShaderType.placement_inBlock hinner hp
      dsimp only
      rw [hA.roundUp hin.alignment hin.size, pure_bind,
        hA.roundUp blockAlignment_pos_dvd (roundUp_le_limit hin.alignment hin.size), pure_bind]
      simp only [bind, Except.bind]
      cases blockSize owner (mulWord? length.count _) <;> rfl

lemma place (hA : A.Faithful) (owner : String) {frame : Frame} {field : FieldDecl}
    (hframe : frame.InBlock)
    (hf : ∀ m, field.type.referenced = some m → ∃ p, footprint m = .ok p ∧ p.InBlock) :
    A.place owner footprint frame field = pure (frame.place owner footprint field) := by
  rw [Arithmetic.place, Frame.place_def, hA.placement owner hf, pure_bind]
  cases hp : field.type.placement owner footprint with
  | error fault => rfl
  | ok p =>
    have hin := ShaderType.placement_inBlock hf hp
    dsimp only
    rw [hA.roundUp hin.alignment hframe.cursor, pure_bind]
    simp only [bind, Except.bind]
    cases blockSize owner (addWord? _ p.size) <;> rfl

lemma finish (hA : A.Faithful) (owner : String) {frame : Frame} (hframe : frame.InBlock) :
    A.finish owner frame = pure (frame.finish owner) := by
  have halign : 0 < frame.alignment ∧ frame.alignment ∣ 16 := by
    rw [hframe.alignment]
    decide
  rw [Arithmetic.finish, hA.roundUp halign hframe.cursor, pure_bind]
  rfl

/-- Fields are placed alike if the structs they refer to are finished alike. -/
lemma placeFields (hA : A.Faithful) (owner : String) {frame : Frame} (hframe : frame.InBlock)
    (hsettles : ∀ n ∈ references fields, Resolution.Settles t n (expected n) (visit n))
    (hvisit : ∀ n ∈ references fields, ∀ done, Sound t done → visitIn n done = pure (visit n done))
    (hs : Sound t done) :
    A.placeFields owner visitIn fields frame done =
        pure (Resolution.placeFields owner visit fields frame done) ∧
      ∀ frame' done', Resolution.placeFields owner visit fields frame done = .ok frame' done' →
        frame'.InBlock := by
  induction fields generalizing frame done with
  | nil =>
    refine ⟨rfl, ?_⟩
    rintro _ _ ⟨⟩
    exact hframe
  | cons f fs ih =>
    obtain ⟨hsettles', hsettles⟩ := forall_references_cons.1 hsettles
    obtain ⟨hvisit', hvisit⟩ := forall_references_cons.1 hvisit
    have hfirst := Resolution.visitReferenced_settles hsettles' hs
    rw [Arithmetic.placeFields, Resolution.placeFields_cons,
      visitReferenced fun n hn => hvisit' n hn done hs, pure_bind]
    cases hd : Resolution.visitReferenced visit f.type done with
    | error fault done' =>
      refine ⟨rfl, ?_⟩
      rintro _ _ ⟨⟩
    | ok _ done' =>
      rw [hd] at hfirst
      obtain ⟨hfinished, hs', -⟩ := hfirst
      have hfootprint : ∀ n, f.type.referenced = some n →
          ∃ p, done'.footprint owner n = .ok p ∧ p.InBlock := by
        intro n hn
        obtain ⟨l, -, hl⟩ := hfinished n hn
        exact hs'.footprint_inBlock hl owner
      dsimp only
      rw [hA.place owner hframe hfootprint, pure_bind]
      cases hp : frame.place owner (done'.footprint owner) f with
      | error fault =>
        refine ⟨rfl, ?_⟩
        rintro _ _ ⟨⟩
      | ok frame' => exact ih (Frame.place_inBlock hframe hfootprint hp) hsettles hvisit hs'

/-- By induction over the structs that are not under way. -/
lemma resolve (hA : A.Faithful) (ht : t.Trail stack name) (hs : Sound t done) :
    A.resolve t stack referrer name done = pure (t.resolve stack referrer name done) := by
  generalize hk : (t.idle stack).length = k
  induction k using Nat.strong_induction_on generalizing stack referrer name done with
  | _ k ih =>
    rw [Arithmetic.resolve, resolve_apply]
    by_cases hg : (done.get? name).isSome
    · rw [if_pos hg, if_pos hg]
    rw [if_neg hg, if_neg hg]
    by_cases hn : name ∈ stack
    · rw [dif_pos hn, if_pos hn]
    rw [dif_neg hn, if_neg hn]
    cases hd : t.get? name with
    | none => rfl
    | some d =>
      have htrail : ∀ n ∈ references d.fields, t.Trail (stack ++ [name]) n := fun n hn' =>
        ht.snoc ((refers_iff hd).2 hn')
      have hvisit : ∀ n ∈ references d.fields, ∀ done, Sound t done →
          A.resolve t (stack ++ [name]) name n done =
            pure (t.resolve (stack ++ [name]) name n done) := fun n hn' done hs' =>
        ih _ (hk ▸ length_idle_lt hd hn) (htrail n hn') hs' rfl
      have hempty : ({} : Frame).InBlock := ⟨by decide, rfl⟩
      obtain ⟨heq, hin⟩ := hA.placeFields name hempty
        (fun n hn' => resolve_settles name (htrail n hn')) hvisit hs
      dsimp only
      rw [heq, pure_bind]
      cases hp : Resolution.placeFields name (t.resolve (stack ++ [name]) name) d.fields {} done with
      | error fault done' => rfl
      | ok frame done' =>
        dsimp only
        rw [hA.finish name (hin frame done' hp), pure_bind]

lemma layoutFor (hA : A.Faithful) (h : LayoutCache.SoundFor t c) (referrer name : String) :
    A.layoutFor c referrer name = pure (c.layoutFor referrer name) := by
  obtain ⟨rfl, hs⟩ := h
  rw [Arithmetic.layoutFor, LayoutCache.layoutFor_def, hA.resolve (trail_nil name) hs, pure_bind]
  cases c.table.resolve [] referrer name c.done with
  | error fault done => rfl
  | ok _ done =>
    dsimp only
    cases done.get? name <;> rfl

lemma computeEach (hA : A.Faithful) (h : LayoutCache.SoundFor t c) (names : List String) :
    A.computeEach c names = pure (c.computeEach names) := by
  induction names generalizing c with
  | nil => rfl
  | cons name names ih =>
    have hnext := (h.layoutFor LayoutCache.anonymous name).2
    rw [Arithmetic.computeEach, LayoutCache.computeEach_cons, LayoutCache.layoutOf, hA.layoutFor h,
      pure_bind]
    rcases hl : c.layoutFor LayoutCache.anonymous name with ⟨fault | l, c'⟩
    · rfl
    · rw [hl] at hnext
      exact ih hnext

lemma computeAll (hA : A.Faithful) (h : LayoutCache.SoundFor t c) :
    A.computeAll c = pure c.computeAll := hA.computeEach h c.table.names

lemma serve (hA : A.Faithful) (h : LayoutCache.SoundFor t c) (request : LayoutRequest) :
    A.serve c request = pure (c.serve request) := by
  cases request with
  | layoutOf name => rw [Arithmetic.serve, hA.layoutFor h, pure_bind]; rfl
  | layoutFor referrer name => rw [Arithmetic.serve, hA.layoutFor h, pure_bind]; rfl
  | computeAll => rw [Arithmetic.serve, hA.computeAll h, pure_bind]; rfl

lemma serveAll (hA : A.Faithful) (h : LayoutCache.SoundFor t c) (requests : List LayoutRequest) :
    A.serveAll c requests = pure (c.serveAll requests) := by
  induction requests generalizing c with
  | nil => rfl
  | cons request requests ih =>
    have hrest := ih (h.serve request)
    unfold Arithmetic.serveAll at hrest ⊢
    rw [List.foldlM_cons, hA.serve h, pure_bind, hrest]
    rfl

end Arithmetic.Faithful
end RenderPlan
