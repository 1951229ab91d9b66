import RenderPlan.Proofs.Layout.Requests
import RenderPlan.Proofs.Outcome
import RenderPlan.Upload.Plan

/-! The scalar leaves of a struct and the plan that writes them. Leaves are listed from the
declarations, depth first, with addresses summed up from the stored offsets and the strides of
arrays and matrices; a plan holds one write for each leaf, in this order. -/
namespace RenderPlan

/-- A scalar inside a value: the way to it, its kind, and its distance from the start. -/
structure Leaf where
  segments : List PathSegment
  scalar : Scalar
  address : ℕ

namespace Leaf

/-- The leaf as part of a larger value, `shift` bytes further on. -/
def under (segment : PathSegment) (shift : ℕ) (x : Leaf) : Leaf :=
  ⟨segment :: x.segments, x.scalar, shift + x.address⟩

def write (x : Leaf) : ScalarWrite :=
  ⟨⟨x.segments⟩, x.address, 4, x.scalar, if x.scalar = .bool then .boolToInt32 else .identity⟩

/-- The write of the leaf when its value stands at `path` and `base`. -/
def writeAt (path : ValuePath) (base : ℕ) (x : Leaf) : ScalarWrite :=
  write ⟨path.segments ++ x.segments, x.scalar, base + x.address⟩

@[simp] lemma writeAt_under (path : ValuePath) (base shift : ℕ) (segment : PathSegment) (x : Leaf) :
    (x.under segment shift).writeAt path base = x.writeAt (path.extend segment) (base + shift) := by
  simp [writeAt, under, ValuePath.extend, Nat.add_assoc]

@[simp] lemma map_writeAt_under (path : ValuePath) (base shift : ℕ) (segment : PathSegment)
    (xs : List Leaf) : (xs.map (under segment shift)).map (writeAt path base) =
      xs.map (writeAt (path.extend segment) (base + shift)) := by
  rw [List.map_map]
  exact List.map_congr_left fun x _ => writeAt_under path base shift segment x

@[simp] lemma writeAt_root : writeAt .root 0 = write := by
  funext x
  simp [writeAt, ValuePath.root]

lemma of_eq_write (path : ValuePath) (offset : ℕ) (kind : Scalar) :
    ScalarWrite.of path offset kind = write ⟨path.segments, kind, offset⟩ := by
  cases kind <;> rfl

end Leaf

/-- The components of a vector. -/
def componentLeaves (kind : Scalar) (arity : Arity) : List Leaf :=
  (List.range arity.count).map fun c => ⟨[.component c], kind, 4 * c⟩

/-- The leaves of a value of a type, if the struct `m` takes `total m` bytes and has the leaves
`inside m`. -/
@[simp]
def ShaderType.leaves (total : String → ℕ) (inside : String → List Leaf) : ShaderType → List Leaf
  | scalar kind => [⟨[], kind, 0⟩]
  | vector kind arity => componentLeaves kind arity
  | matrix columns rows =>
    (List.range columns.count).flatMap fun i =>
      (componentLeaves .float rows).map (.under (.index i) (i * slot (4 * rows.count)))
  | array element length =>
    (List.range length.count).flatMap fun i =>
      (element.leaves total inside).map (.under (.index i) (i * slot (element.measure total).size))
  | struct name => inside name

/-- The leaves of the fields in order, each field at its offset. -/
def StructLayout.leaves (total : String → ℕ) (inside : String → List Leaf) (l : StructLayout) :
    List Leaf :=
  l.fields.flatMap fun f => (f.type.leaves total inside).map (.under (.field f.name) f.offset)

lemma ShaderType.leaves_congr {total : String → ℕ} {inside inside' : String → List Leaf}
    {ty : ShaderType} (h : ∀ m, ty.referenced = some m → inside m = inside' m) :
    ty.leaves total inside = ty.leaves total inside' := by
  induction ty with
  | array element length ih => rw [leaves, leaves, ih h]
  | struct name => exact h name rfl
  | _ => rfl

/-- `xs` are the leaves of the declared struct, placed as the stored layouts say. -/
def StructTable.HasLeaves (t : StructTable) (stored : String → Option StructLayout) :
    String → List Leaf → Prop :=
  t.Derives fun inside d xs => ∃ l, stored d.name = some l ∧
    l.fields.map FieldLayout.decl = d.fields ∧ xs = l.leaves (storedSize stored) inside

/-- The declarations and the stored layouts leave no choice of leaves. -/
lemma StructTable.HasLeaves.unique {t : StructTable} {stored : String → Option StructLayout}
    {name : String} {xs ys : List Leaf} (hx : t.HasLeaves stored name xs)
    (hy : t.HasLeaves stored name ys) : xs = ys := by
  refine Derives.unique ?_ hx hy
  rintro inside inside' d _ _ hin ⟨l, hl, hd, rfl⟩ ⟨l', hl', -, rfl⟩
  rw [hl] at hl'
  cases hl'
  refine List.flatMap_congr fun f hf => ?_
  rw [ShaderType.leaves_congr fun m hm => hin m (hd ▸ mem_references_map_decl hf hm)]

/-- Parts that can all be listed are listed one after the other. -/
lemma flatten_mapM_eq_ok {α β : Type} {f : α → Except Fault (List β)} {g : α → List β} {xs : List α}
    (h : ∀ x ∈ xs, f x = .ok (g x)) : (xs.mapM f).map List.flatten = .ok (xs.flatMap g) := by
  have hm : xs.mapM f = .ok (xs.map g) := mapM_eq_pure h
  rw [hm, List.flatMap_def]
  rfl

section Writes
variable {t : StructTable} {done : Layouts} {owner name : String} {l : StructLayout}
  {total : String → ℕ} {inside : String → List Leaf}
  {visit : String → ℕ → ValuePath → Except Fault (List ScalarWrite)}

@[simp] lemma vectorWrites_eq (kind : Scalar) (arity : Arity) (base : ℕ) (path : ValuePath) :
    vectorWrites kind arity base path =
      (componentLeaves kind arity).map (Leaf.writeAt path base) := by
  rw [vectorWrites_def, componentLeaves, List.map_map]
  refine List.map_congr_left fun c _ => ?_
  rw [Leaf.of_eq_write, scalarSize, Nat.mul_comm]
  rfl

/-- A type whose struct is finished, with arrays within the limit, is written leaf by leaf. -/
lemma ShaderType.writes_eq {ty : ShaderType}
    (hf : ∀ m, ty.referenced = some m → done.footprint owner m = .ok ⟨total m, 16⟩)
    (ha : ∀ a ∈ ty.arrays, (a.measure total).size ≤ 65536)
    (hv : ∀ m, ty.referenced = some m → ∀ base path,
      visit m base path = .ok ((inside m).map (Leaf.writeAt path base)))
    (base : ℕ) (path : ValuePath) :
    ty.writes done owner visit base path =
      .ok ((ty.leaves total inside).map (Leaf.writeAt path base)) := by
  induction ty generalizing base path with
  | scalar kind => simp [Leaf.of_eq_write, Leaf.writeAt]
  | vector kind arity => simp
  | matrix columns rows =>
    rw [writes_matrix, leaves, List.map_flatMap]
    congr 2
    funext i
    rw [Leaf.map_writeAt_under, vectorWrites_eq, columnStride_eq]
    rfl
  | struct name => exact hv name rfl base path
  | array element length ih =>
    have hi := fun i => ih hf (fun a h => ha a (List.mem_cons_of_mem _ h)) hv
      (base + i * slot (element.measure total).size) (path.index i)
    rw [writes_array, placement_eq_ok owner hf ha]
    change ((List.range length.count).mapM fun i => element.writes done owner visit
      (base + i * slot (element.measure total).size) (path.index i)).map List.flatten = _
    rw [flatten_mapM_eq_ok fun i _ => hi i, leaves, List.map_flatMap]
    simp only [Leaf.map_writeAt_under]
    rfl

end Writes

namespace Arithmetic
variable {m : Type → Type} [Monad m]

/-- The writes of a finished struct that `owner` refers to. -/
def nestedWrites (A : Arithmetic m) (done : Layouts) (owner name : String) (base : ℕ)
    (path : ValuePath) : m (Except Fault (List ScalarWrite)) :=
  match Layouts.find? name done with
  | some (nested, older) => A.structWrites older nested base path
  | none => return .error (.unknownStruct owner name)

lemma structWrites_eq (A : Arithmetic m) (done : Layouts) (l : StructLayout) (base : ℕ)
    (path : ValuePath) :
    A.structWrites done l base path = gather (fun f : FieldLayout => do
      A.writes done l.name (A.nestedWrites done l.name) f.type (← A.add base f.offset)
        (path.field f.name)) l.fields := by
  have hv (visit : String → ℕ → ValuePath → m (Except Fault (List ScalarWrite)))
      (h : visit = A.nestedWrites done l.name) :
      gather (fun f : FieldLayout => do
        A.writes done l.name visit f.type (← A.add base f.offset) (path.field f.name)) l.fields =
      gather (fun f : FieldLayout => do
        A.writes done l.name (A.nestedWrites done l.name) f.type (← A.add base f.offset)
          (path.field f.name)) l.fields := by
    rw [h]
  rw [structWrites]
  apply hv
  funext name base path
  rw [nestedWrites]
  split
  · next h => rw [h]
  · next h => rw [h]

end Arithmetic

namespace Layouts
variable {t : StructTable} {done older : Layouts} {owner name : String} {l : StructLayout}
  {stored : String → Option StructLayout}

lemma find?_of_isSome (h : (done.get? name).isSome) : ∃ l older, find? name done = some (l, older) := by
  induction done with
  | nil => cases h
  | cons d ds ih =>
    rw [get?_cons] at h
    by_cases hd : d.name = name
    · exact ⟨d, ds, if_pos hd⟩
    · rw [if_neg hd] at h
      obtain ⟨l, older, hl⟩ := ih h
      exact ⟨l, older, (if_neg hd).trans hl⟩

lemma get?_of_find? (h : find? name done = some (l, older)) : done.get? name = some l := by
  induction done with
  | nil => cases h
  | cons d ds ih =>
    rw [get?_cons]
    rw [find?] at h
    split at h
    · next hd =>
      cases h
      rw [if_pos hd]
    · next hd =>
      rw [if_neg hd]
      exact ih h

/-- Behind a sound layout stand sound layouts, among them all it refers to. -/
lemma Sound.of_find? (hs : Sound t done) (h : find? name done = some (l, older)) :
    Sound t older ∧ older ⊆ done ∧ ∀ m, t.Refers name m → (older.get? m).isSome := by
  induction hs with
  | nil => cases h
  | @cons d ds right below rest ih =>
    rw [find?] at h
    split at h
    · next hd =>
      cases h
      exact ⟨rest, List.subset_cons_self _ _, hd ▸ below⟩
    · obtain ⟨hs', hsub, hb⟩ := ih h
      exact ⟨hs', List.Subset.trans hsub (List.subset_cons_self _ _), hb⟩

/-- Older layouts are still the ones that are found. -/
lemma Sound.get?_of_subset (hs : Sound t done) (ho : Sound t older) (hsub : older ⊆ done)
    (h : older.get? name = some l) : done.get? name = some l := by
  have hsome := isSome_get?_mono hsub (Option.isSome_of_eq_some h)
  obtain ⟨l', hl'⟩ := Option.isSome_iff_exists.1 hsome
  rw [hl', (hs.hasLayout hl').unique (ho.hasLayout h)]

def nestedWrites (done : Layouts) (owner name : String) (base : ℕ) (path : ValuePath) :
    Except Fault (List ScalarWrite) := (Arithmetic.exact.nestedWrites done owner name base path).run

lemma nestedWrites_eq (done : Layouts) (owner name : String) (base : ℕ) (path : ValuePath) :
    nestedWrites done owner name base path = match find? name done with
      | some (nested, older) => structWrites older nested base path
      | none => .error (.unknownStruct owner name) := by
  unfold nestedWrites Arithmetic.nestedWrites
  cases find? name done <;> rfl

lemma structWrites_eq (done : Layouts) (l : StructLayout) (base : ℕ) (path : ValuePath) :
    structWrites done l base path =
      (l.fields.mapM fun f : FieldLayout => f.type.writes done l.name (nestedWrites done l.name)
        (base + f.offset) (path.field f.name)).map List.flatten := by
  rw [structWrites, Arithmetic.structWrites_eq]
  exact Arithmetic.gather_eq_mapM _ l.fields

/-- The writes of a finished struct are its leaves, wherever the struct stands. -/
lemma exists_structWrites (hs : Sound t done)
    (hst : ∀ m l, done.get? m = some l → stored m = some l) (hl : stored name = some l)
    (hn : t.HasLayout name l) (hr : ∀ m, t.Refers name m → (done.get? m).isSome) :
    ∃ xs, t.HasLeaves stored name xs ∧
      ∀ base path, structWrites done l base path = .ok (xs.map (Leaf.writeAt path base)) := by
  generalize hk : done.length = k
  induction k using Nat.strong_induction_on generalizing done name l with
  | _ k ih =>
    obtain ⟨d, hd, hb, hw⟩ := hn.block_of_stored fun m hm => by
      obtain ⟨lm, hg⟩ := Option.isSome_iff_exists.1 (hr m hm)
      exact ⟨lm, hst m lm hg, hs.hasLayout hg⟩
    have hr' : ∀ m ∈ references d.fields, (done.get? m).isSome := fun m hm =>
      hr m ((StructTable.refers_iff hd).2 hm)
    -- Each struct below is found with older layouts behind it, where its own writes are known.
    have hbelow : ∀ m ∈ references d.fields, ∃ xs, t.HasLeaves stored m xs ∧ ∀ base path,
        nestedWrites done l.name m base path = .ok (xs.map (Leaf.writeAt path base)) := by
      intro m hm
      obtain ⟨lm, older, hf⟩ := find?_of_isSome (hr' m hm)
      obtain ⟨hso, hsub, hro⟩ := hs.of_find? hf
      have hg := get?_of_find? hf
      have hsto : ∀ n l, older.get? n = some l → stored n = some l := fun n l h =>
        hst n l (hs.get?_of_subset hso hsub h)
      simp only [nestedWrites_eq, hf]
      exact ih _ (hk ▸ length_lt_of_find? hf) hso hsto (hst m lm hg) (hs.hasLayout hg) hro rfl
    choose! inside hin using hbelow
    refine ⟨l.leaves (storedSize stored) inside,
      .intro hd (fun m hm => (hin m hm).1) ⟨l, ?_, hb.map_decl, rfl⟩, fun base path => ?_⟩
    · rw [StructTable.name_of_get? hd, hl]
    · rw [structWrites_eq, StructLayout.leaves, List.map_flatMap]
      apply flatten_mapM_eq_ok
      intro f hf
      rw [Leaf.map_writeAt_under]
      refine ShaderType.writes_eq (fun m hm => ?_) (hw f hf).2
        (fun m hm => (hin m (hb.referenced_mem hf hm)).2) _ _
      obtain ⟨lm, hg⟩ := Option.isSome_iff_exists.1 (hr' m (hb.referenced_mem hf hm))
      rw [footprint, hg, storedSize, hst m lm hg]
      exact congrArg Except.ok (hs.hasLayout hg).isStd140.footprint_eq

end Layouts

namespace LayoutCache
variable {t : StructTable} {c : LayoutCache} {name : String} {l : StructLayout}

/-- A sound cache plans every struct it holds, one write for each leaf. -/
lemma SoundFor.exists_plan (h : SoundFor t c) (hl : c.get? name = some l) :
    ∃ xs, t.HasLeaves c.get? name xs ∧
      c.done.plan l = .ok ⟨name, l.totalSize, xs.map Leaf.write⟩ := by
  have hn := h.done.hasLayout hl
  have hr : ∀ m, t.Refers name m → (c.done.get? m).isSome := fun m hm => h.done.isSome_of_refers hl hm
  obtain ⟨xs, hxs, hw⟩ := Layouts.exists_structWrites h.done (fun _ _ hm => hm) hl hn hr
  refine ⟨xs, hxs, ?_⟩
  rw [Layouts.plan_def, hw 0 .root, hn.isStd140.name_eq, Leaf.writeAt_root]
  rfl

/-- After any requests, each finished struct has a plan. Its writes are the leaves of the struct in
order, and the stride kept with a field is the one its addresses are counted with. -/
theorem plan_eq_leaves (t : StructTable) (requests : List LayoutRequest) (name : String)
    (l : StructLayout) (h : ((fresh t).serveAll requests).get? name = some l) :
    (∃ xs, (∀ ys, t.HasLeaves ((fresh t).serveAll requests).get? name ys ↔ ys = xs) ∧
      ((fresh t).serveAll requests).done.plan l = .ok ⟨name, l.totalSize, xs.map Leaf.write⟩) ∧
    ∀ f ∈ l.fields, f.stride =
      (f.type.measure (storedSize ((fresh t).serveAll requests).get?)).stride := by
  have hs := (SoundFor.fresh t).serveAll requests
  obtain ⟨xs, hx, hp⟩ := hs.exists_plan h
  refine ⟨⟨xs, fun ys => ⟨fun hy => hy.unique hx, ?_⟩, hp⟩, fun f hf => ?_⟩
  · rintro rfl
    exact hx
  · obtain ⟨d, -, hb, -⟩ := hs.block h
    rw [hb.measure_of_mem hf]

/-- Lights in an array of arrays and a matrix, next to a struct that cannot be laid out. -/
def sceneTable : StructTable where
  decls :=
    [⟨"Loop", [⟨"next", .struct "Loop"⟩]⟩,
      ⟨"Light", [⟨"on", .scalar .bool⟩, ⟨"color", .vector .float .three⟩]⟩,
      ⟨"Scene", [⟨"lights", .array (.array (.struct "Light") ⟨2, by decide⟩) ⟨3, by decide⟩⟩,
        ⟨"view", .matrix .three .two⟩]⟩]
  distinct := by decide

def sceneLayout : StructLayout where
  name := "Scene"
  fields :=
    [⟨"lights", .array (.array (.struct "Light") ⟨2, by decide⟩) ⟨3, by decide⟩, 0, 192, 16, some 64⟩,
      ⟨"view", .matrix .three .two, 192, 48, 16, some 16⟩]
  totalSize := 240
  alignment := 16

/-- The failed requests before it do not keep the scene from its plan. -/
theorem plan_eq_leaves_scene :
    let c := (fresh sceneTable).serveAll [.computeAll, .layoutFor "Light" "Loop", .layoutOf "Scene"]
    c.get? "Scene" = some sceneLayout ∧
    (∃ xs, (∀ ys, sceneTable.HasLeaves c.get? "Scene" ys ↔ ys = xs) ∧
      c.done.plan sceneLayout = .ok ⟨"Scene", 240, xs.map Leaf.write⟩) ∧
    ∀ f ∈ sceneLayout.fields, f.stride = (f.type.measure (storedSize c.get?)).stride := by
  intro c
  have h : c.get? "Scene" = some sceneLayout := by decide +kernel
  exact ⟨h, plan_eq_leaves sceneTable _ "Scene" sceneLayout h⟩

end LayoutCache
end RenderPlan
