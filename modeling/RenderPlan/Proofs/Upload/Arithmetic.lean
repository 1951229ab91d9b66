import RenderPlan.Proofs.Layout.Arithmetic
import RenderPlan.Proofs.Upload.Leaves

/-! Plans in machine numbers. A value that lies in a block has all its parts there, so the addresses
that a plan sums up stay within the limit as well, however many parts there are. -/
namespace RenderPlan
open Layouts StructTable

namespace Arithmetic
namespace Faithful
variable {m : Type → Type} [Monad m] [LawfulMonad m] {A : Arithmetic m} {t : StructTable}
  {done : Layouts} {owner name : String} {l : StructLayout} {total : String → ℕ}
  {visit : String → ℕ → ValuePath → Except Fault (List ScalarWrite)}
  {visitIn : String → ℕ → ValuePath → m (Except Fault (List ScalarWrite))}

/-- A part of a value that lies in a block has its address in the block, and its end as well. -/
lemma address (hA : A.Faithful) {base i n stride size : ℕ} (hi : i < n) (hsize : size ≤ stride)
    (hbase : base + n * stride ≤ 65536) :
    A.address base i stride = pure (base + i * stride) ∧ base + i * stride + size ≤ 65536 := by
  have hle : (i + 1) * stride ≤ n * stride := Nat.mul_le_mul_right stride hi
  rw [Nat.add_one_mul] at hle
  rw [Arithmetic.address, hA.mul (by omega), pure_bind, hA.add (by omega)]
  exact ⟨rfl, by omega⟩

lemma vectorWrites (hA : A.Faithful) (kind : Scalar) (arity : Arity) {base : ℕ} (path : ValuePath)
    (hbase : base + arity.count * scalarSize ≤ 65536) :
    A.vectorWrites kind arity base path = pure (RenderPlan.vectorWrites kind arity base path) := by
  rw [Arithmetic.vectorWrites, vectorWrites_def]
  refine mapM_eq_pure fun c hc => ?_
  rw [(hA.address (List.mem_range.1 hc) (Nat.le_refl _) hbase).1, pure_bind]

/-- By induction over the type: what is written inside a block is written as in exact numbers. -/
lemma writes (hA : A.Faithful) {ty : ShaderType}
    (hf : ∀ n, ty.referenced = some n → done.footprint owner n = .ok ⟨total n, 16⟩ ∧ total n ≤ 65536)
    (ha : ∀ a ∈ ty.arrays, (a.measure total).size ≤ 65536)
    (hv : ∀ n, ty.referenced = some n → ∀ base path, base + total n ≤ 65536 →
      visitIn n base path = pure (visit n base path))
    {base : ℕ} (hbase : base + (ty.measure total).size ≤ 65536) (path : ValuePath) :
    A.writes done owner visitIn ty base path = pure (ty.writes done owner visit base path) := by
  induction ty generalizing base path with
  | scalar kind => rfl
  | vector kind arity =>
    have hsize : base + arity.count * scalarSize ≤ 65536 := by cases arity <;> exact hbase
    rw [Arithmetic.writes, hA.vectorWrites kind arity path hsize, pure_bind]
    rfl
  | matrix columns rows =>
    have hstride : rows.count * scalarSize ≤ RenderPlan.columnStride rows := by
      cases rows <;> decide
    have hsize : base + columns.count * RenderPlan.columnStride rows ≤ 65536 := by
      rw [ShaderType.columnStride_eq]
      exact hbase
    have hcolumn : ∀ c ∈ List.range columns.count, (do
        A.vectorWrites .float rows (← A.address base c (RenderPlan.columnStride rows))
          (path.index c)) = (pure (RenderPlan.vectorWrites .float rows
            (base + c * RenderPlan.columnStride rows) (path.index c)) : m _) := by
      intro c hc
      obtain ⟨heq, hend⟩ := hA.address (List.mem_range.1 hc) hstride hsize
      rw [heq, pure_bind, hA.vectorWrites .float rows _ hend]
    rw [Arithmetic.writes, hA.columnStride, pure_bind, mapM_eq_pure hcolumn, pure_bind,
      ShaderType.writes_matrix, List.flatMap_def]
  | struct n => exact hv n rfl base path hbase
  | array element length ih =>
    have hplaced := ShaderType.placement_eq_ok owner (fun n hn => (hf n hn).1) ha
    have hinBlock : ∀ n, (ShaderType.array element length).referenced = some n →
        ∃ p, done.footprint owner n = .ok p ∧ p.InBlock := fun n hn =>
      ⟨_, (hf n hn).1, (hf n hn).2, rfl⟩
    have hpart : ∀ i ∈ List.range length.count, (do
        A.writes done owner visitIn element
          (← A.address base i (slot (element.measure total).size)) (path.index i)) =
        pure (element.writes done owner visit (base + i * slot (element.measure total).size)
          (path.index i)) := by
      intro i hi
      obtain ⟨heq, hend⟩ := hA.address (List.mem_range.1 hi) (le_slot _) hbase
      rw [heq, pure_bind]
      exact ih hf (fun a h => ha a (List.mem_cons_of_mem _ h)) hv hend _
    rw [Arithmetic.writes, hA.placement owner hinBlock, pure_bind, ShaderType.writes_array, hplaced]
    exact gather_eq_pure hpart

/-- By induction over the finished layouts, since nested structs stand behind. -/
lemma structWrites (hA : A.Faithful) (hs : Sound t done) (hn : t.HasLayout name l)
    (hr : ∀ n, t.Refers name n → (done.get? n).isSome) {base : ℕ}
    (hbase : base + l.totalSize ≤ 65536) (path : ValuePath) :
    A.structWrites done l base path = pure (Layouts.structWrites done l base path) := by
  generalize hk : done.length = k
  induction k using Nat.strong_induction_on generalizing done name l base path with
  | _ k ih =>
    have hstored : ∀ n, t.Refers name n → ∃ ln, done.get? n = some ln ∧ t.HasLayout n ln := by
      intro n hn'
      obtain ⟨ln, hl⟩ := Option.isSome_iff_exists.1 (hr n hn')
      exact ⟨ln, hl, hs.hasLayout hl⟩
    obtain ⟨d, hd, hb, hw⟩ := hn.block_of_stored hstored
    have hrefers : ∀ f ∈ l.fields, ∀ n, f.type.referenced = some n → t.Refers name n :=
      fun f hf n hn' => (refers_iff hd).2 (hb.referenced_mem hf hn')
    have hnested : ∀ n, t.Refers name n → ∀ base path, base + storedSize done.get? n ≤ 65536 →
        A.nestedWrites done l.name n base path =
          pure (Layouts.nestedWrites done l.name n base path) := by
      intro n hn' base path hbase
      obtain ⟨ln, older, hfind⟩ := find?_of_isSome (hr n hn')
      obtain ⟨hso, -, hro⟩ := hs.of_find? hfind
      have hget := get?_of_find? hfind
      rw [storedSize, hget] at hbase
      rw [nestedWrites, Layouts.nestedWrites_eq, hfind]
      exact ih _ (hk ▸ length_lt_of_find? hfind) hso (hs.hasLayout hget) hro hbase path rfl
    rw [structWrites_eq, Layouts.structWrites_eq]
    refine gather_eq_pure fun f hf => ?_
    have hend := hb.offset_add_size_le hf
    rw [hA.add (by omega), pure_bind]
    refine hA.writes (fun n hn' => ?_) (hw f hf).2 (fun n hn' => hnested n (hrefers f hf n hn')) ?_ _
    · obtain ⟨ln, hl, hlayout⟩ := hstored n (hrefers f hf n hn')
      rw [footprint, hl, storedSize, hl]
      exact ⟨congrArg Except.ok hlayout.isStd140.footprint_eq, hlayout.totalSize_le⟩
    · rw [hb.measure_of_mem hf]
      dsimp only
      omega

lemma plan {c : LayoutCache} (hA : A.Faithful) (h : LayoutCache.SoundFor t c)
    (hl : c.get? name = some l) : A.plan c.done l = pure (c.done.plan l) := by
  have hlayout := h.done.hasLayout hl
  have hbase : 0 + l.totalSize ≤ 65536 := by
    rw [Nat.zero_add]
    exact hlayout.totalSize_le
  rw [Arithmetic.plan, hA.structWrites h.done hlayout (fun n => h.done.isSome_of_refers hl) hbase,
    pure_bind, Layouts.plan_def]
  cases c.done.structWrites l 0 .root <;> rfl

end Faithful

/-- From a fresh cache the arithmetic computes what exact numbers give: the finished layouts, the
answers to further requests, and the plans of finished structs. -/
structure Agrees {m : Type → Type} [Monad m] (A : Arithmetic m) (t : StructTable)
    (requests : List LayoutRequest) : Prop where
  served : A.serveAll (.fresh t) requests = pure ((LayoutCache.fresh t).serveAll requests)
  layoutFor (referrer name : String) :
    A.layoutFor ((LayoutCache.fresh t).serveAll requests) referrer name =
      pure (((LayoutCache.fresh t).serveAll requests).layoutFor referrer name)
  computeAll : A.computeAll ((LayoutCache.fresh t).serveAll requests) =
    pure ((LayoutCache.fresh t).serveAll requests).computeAll
  plan {name : String} {l : StructLayout}
    (h : ((LayoutCache.fresh t).serveAll requests).get? name = some l) :
    A.plan ((LayoutCache.fresh t).serveAll requests).done l =
      pure (((LayoutCache.fresh t).serveAll requests).done.plan l)

lemma Faithful.agrees {m : Type → Type} [Monad m] [LawfulMonad m] {A : Arithmetic m}
    (hA : A.Faithful) (t : StructTable) (requests : List LayoutRequest) : A.Agrees t requests := by
  have hsound := (LayoutCache.SoundFor.fresh t).serveAll requests
  exact ⟨hA.serveAll (.fresh t) requests, hA.layoutFor hsound, hA.computeAll hsound, hA.plan hsound⟩

end Arithmetic

namespace LayoutCache
variable {t : StructTable} {c : LayoutCache} {name : String} {l : StructLayout}

lemma SoundFor.within_limit (h : SoundFor t c) (hl : c.get? name = some l) :
    l.totalSize ≤ 65536 ∧ ∀ f ∈ l.fields, f.offset + f.size ≤ 65536 ∧
      ∀ stride, f.stride = some stride → stride ≤ 65536 := by
  refine ⟨(h.done.hasLayout hl).totalSize_le, fun f hf => ?_⟩
  obtain ⟨d, -, hb, hw⟩ := h.block hl
  refine ⟨(hw f hf).1, fun stride hstride => ?_⟩
  apply ShaderType.stride_measure_le (hw f hf).2
  rw [hb.measure_of_mem hf]
  exact hstride

/-- Neither layouts nor plans ever leave the 64-bit words. Words that wrap around compute what exact
numbers give, no sum or product that is taken without a check passes 65536, and the two that are
checked are refused where they leave the words. -/
theorem words_never_overflow (t : StructTable) (requests : List LayoutRequest) :
    Arithmetic.wrapping.Agrees t requests ∧
    (∀ limit, 65536 ≤ limit → (Arithmetic.bounded limit).Agrees t requests) ∧
    (∀ name l, ((fresh t).serveAll requests).get? name = some l → l.totalSize ≤ 65536 ∧
      ∀ f ∈ l.fields, f.offset + f.size ≤ 65536 ∧
        ∀ stride, f.stride = some stride → stride ≤ 65536) ∧
    (∀ owner footprint element length p, ShaderType.placement owner footprint element = .ok p →
      UInt64.size ≤ length.count * roundUp (roundUp p.size p.alignment) blockAlignment →
      ShaderType.placement owner footprint (.array element length) =
        .error (.layoutOverflow owner)) ∧
    ∀ owner footprint frame field p, ShaderType.placement owner footprint field.type = .ok p →
      UInt64.size ≤ roundUp frame.cursor p.alignment + p.size →
      Frame.place owner footprint frame field = .error (.layoutOverflow owner) := by
  have hsound := (SoundFor.fresh t).serveAll requests
  refine ⟨Arithmetic.faithful_wrapping.agrees t requests, fun limit hlimit => ?_,
    fun name l hl => hsound.within_limit hl, ?_, ?_⟩
  · exact (Arithmetic.faithful_bounded hlimit).agrees t requests
  · intro owner footprint element length p hp h
    exact ShaderType.placement_array_overflow hp h
  · intro owner footprint frame field p hp h
    exact Frame.place_overflow hp h

/-- Arrays of arrays with as many elements as a word can count, one that fills a block, and one
whose elements are empty. -/
def hugeTable : StructTable where
  decls :=
    [⟨"Huge", [⟨"all", .array (.array (.scalar .float) ⟨-1, by decide⟩) ⟨-1, by decide⟩⟩]⟩,
      ⟨"Full", [⟨"rows", .array (.array (.vector .float .four) ⟨64, by decide⟩) ⟨64, by decide⟩⟩]⟩,
      ⟨"Empty", []⟩,
      ⟨"Hollow", [⟨"none", .array (.struct "Empty") ⟨-1, by decide⟩⟩]⟩,
      ⟨"Over", [⟨"one", .scalar .float⟩, ⟨"full", .struct "Full"⟩]⟩]
  distinct := by decide

/-- The inner product of `Huge` leaves the words; `Full` takes the last byte of its block. -/
theorem words_never_overflow_huge :
    let requests : List LayoutRequest := [.computeAll, .layoutOf "Full", .layoutFor "Over" "Hollow"]
    let c := (fresh hugeTable).serveAll requests
    Arithmetic.wrapping.Agrees hugeTable requests ∧
    (Arithmetic.bounded 65536).Agrees hugeTable requests ∧
    (c.get? "Full").map StructLayout.totalSize = some 65536 ∧
    (c.get? "Hollow").map StructLayout.totalSize = some 0 ∧
    ShaderType.placement "Huge" (c.done.footprint "Huge") (.array (.scalar .float) ⟨-1, by decide⟩) =
      .error (.layoutOverflow "Huge") ∧
    (c.layoutOf "Huge").1 = .error (.layoutOverflow "Huge") ∧
    (c.layoutOf "Over").1 = .error (.layoutOverflow "Over") := by
  intro requests c
  obtain ⟨hwrapping, hbounded, -, hproduct, -⟩ := words_never_overflow hugeTable requests
  refine ⟨hwrapping, hbounded 65536 (Nat.le_refl _), by decide +kernel, by decide +kernel, ?_,
    by decide +kernel, by decide +kernel⟩
  exact hproduct "Huge" _ (.scalar .float) ⟨-1, by decide⟩ ⟨4, 4, none⟩ rfl (by decide)

end LayoutCache
end RenderPlan
