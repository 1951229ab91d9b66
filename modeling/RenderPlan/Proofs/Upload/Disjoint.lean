import RenderPlan.Proofs.Upload.Leaves

/-! Leaves do not overlap. The leaves of a value lie on whole words inside the space of the value,
one behind the other; this passes from vectors to matrices, arrays, fields and structs, and from
there to the writes of a plan. -/
namespace RenderPlan

/-- Leaves on whole words between `start` and `stop`, each behind the one before it. -/
structure PackedIn (start stop : ℕ) (xs : List Leaf) : Prop where
  apart : xs.Pairwise fun a b => a.address + 4 ≤ b.address
  words : ∀ x ∈ xs, 4 ∣ x.address
  between : ∀ x ∈ xs, start ≤ x.address ∧ x.address + 4 ≤ stop

namespace PackedIn
variable {a b c shift : ℕ} {xs ys : List Leaf}

lemma nil (a b : ℕ) : PackedIn a b [] := ⟨.nil, by simp, by simp⟩

lemma mono {a' b' : ℕ} (h : PackedIn a b xs) (ha : a' ≤ a) (hb : b ≤ b') : PackedIn a' b' xs := by
  refine ⟨h.apart, h.words, fun x hx => ?_⟩
  have hx' := h.between x hx
  omega

lemma under (h : PackedIn a b xs) (segment : PathSegment) (hs : 4 ∣ shift) :
    PackedIn (shift + a) (shift + b) (xs.map (.under segment shift)) := by
  refine ⟨?_, ?_, ?_⟩
  · rw [List.pairwise_map]
    refine h.apart.imp fun {x y} hxy => ?_
    simp only [Leaf.under]
    omega
  · intro x hx
    obtain ⟨y, hy, rfl⟩ := List.mem_map.1 hx
    exact Nat.dvd_add hs (h.words y hy)
  · intro x hx
    obtain ⟨y, hy, rfl⟩ := List.mem_map.1 hx
    have hy' := h.between y hy
    simp only [Leaf.under]
    omega

lemma append (h : PackedIn a b xs) (h' : PackedIn b c ys) (hab : a ≤ b) (hbc : b ≤ c) :
    PackedIn a c (xs ++ ys) := by
  refine ⟨List.pairwise_append.2 ⟨h.apart, h'.apart, fun x hx y hy => ?_⟩, ?_, ?_⟩
  · have hx' := (h.between x hx).2
    have hy' := (h'.between y hy).1
    omega
  · intro x hx
    rcases List.mem_append.1 hx with hx | hx
    · exact h.words x hx
    · exact h'.words x hx
  · intro x hx
    rcases List.mem_append.1 hx with hx | hx
    · have hx' := h.between x hx
      omega
    · have hx' := h'.between x hx
      omega

/-- Copies at a distance that holds one of them do not overlap. -/
lemma repeated {size stride : ℕ} (h : PackedIn 0 size xs) (hs : 4 ∣ stride) (hle : size ≤ stride)
    (n : ℕ) : PackedIn 0 (n * stride)
      ((List.range n).flatMap fun i => xs.map (.under (.index i) (i * stride))) := by
  induction n with
  | zero => exact nil 0 _
  | succ n ih =>
    rw [List.range_succ, List.flatMap_append, List.flatMap_singleton, Nat.succ_mul]
    refine ih.append ?_ (Nat.zero_le _) (Nat.le_add_right _ _)
    have hn := h.under (.index n) (Nat.dvd_trans hs (Nat.dvd_mul_left stride n))
    exact hn.mono (Nat.le_refl _) (Nat.add_le_add_left hle _)

end PackedIn

section Leaves
variable {total : String → ℕ} {inside : String → List Leaf}

lemma packedIn_componentLeaves (kind : Scalar) (arity : Arity) :
    PackedIn 0 (4 * arity.count) (componentLeaves kind arity) := by
  refine ⟨?_, ?_, ?_⟩
  · rw [componentLeaves, List.pairwise_map]
    refine List.pairwise_lt_range.imp fun {i j} hij => ?_
    dsimp only
    omega
  · intro x hx
    obtain ⟨c, -, rfl⟩ := List.mem_map.1 hx
    exact Nat.dvd_mul_right 4 c
  · intro x hx
    obtain ⟨c, hc, rfl⟩ := List.mem_map.1 hx
    have := List.mem_range.1 hc
    dsimp only
    omega

lemma four_dvd_slot (n : ℕ) : 4 ∣ slot n := Nat.dvd_trans (by decide) (dvd_slot n)

/-- The leaves of a type fill no more than its size. -/
lemma ShaderType.packedIn_leaves {ty : ShaderType}
    (h : ∀ m, ty.referenced = some m → PackedIn 0 (total m) (inside m)) :
    PackedIn 0 (ty.measure total).size (ty.leaves total inside) := by
  induction ty with
  | scalar kind => exact ⟨List.pairwise_singleton _ _, by simp, by simp⟩
  | vector kind arity =>
    have hsize : ((vector kind arity).measure total).size = 4 * arity.count := by
      cases arity <;> rfl
    rw [hsize]
    exact packedIn_componentLeaves kind arity
  | matrix columns rows =>
    exact (packedIn_componentLeaves .float rows).repeated (four_dvd_slot _) (le_slot _) _
  | array element length ih => exact (ih h).repeated (four_dvd_slot _) (le_slot _) _
  | struct name => exact h name rfl

/-- Fields in their places leave room for each other's leaves. -/
lemma Places.packedIn_leaves {cursor stop : ℕ} {fs : List FieldDecl} {ls : List FieldLayout}
    (h : Places total cursor fs ls stop)
    (hin : ∀ m ∈ references fs, PackedIn 0 (total m) (inside m)) :
    cursor ≤ stop ∧ PackedIn cursor stop
      (ls.flatMap fun f => (f.type.leaves total inside).map (.under (.field f.name) f.offset)) := by
  induction h with
  | nil => exact ⟨Nat.le_refl _, .nil _ _⟩
  | @cons cursor offset stop f fs ls first rest ih =>
    obtain ⟨hf, hfs⟩ := forall_references_cons.1 hin
    obtain ⟨hle, hrest⟩ := ih hfs
    have hword : 4 ∣ offset := by
      refine Nat.dvd_trans ?_ first.1.1
      rcases f.type.alignment_measure total with h | h | h <;> rw [h] <;> decide
    have hcur : cursor ≤ offset := first.1.2
    have hfirst := (ShaderType.packedIn_leaves hf).under (.field f.name) hword
    refine ⟨by omega, ?_⟩
    rw [List.flatMap_cons]
    exact (hfirst.mono hcur (Nat.le_refl _)).append hrest (by omega) hle

lemma IsBlock.packedIn_leaves {d : StructDecl} {l : StructLayout} (h : IsBlock total d l)
    (hin : ∀ m ∈ references d.fields, PackedIn 0 (total m) (inside m)) :
    PackedIn 0 l.totalSize (l.leaves total inside) := by
  obtain ⟨stop, hp, hs⟩ := h.placed
  rw [hs]
  exact (hp.packedIn_leaves hin).2.mono (Nat.le_refl 0) (le_slot stop)

end Leaves

/-- The write touches the byte. -/
def ScalarWrite.Covers (w : ScalarWrite) (byte : ℕ) : Prop :=
  w.offset ≤ byte ∧ byte < w.offset + w.width

namespace LayoutCache
variable {t : StructTable} {c : LayoutCache} {name : String} {l : StructLayout} {xs : List Leaf}

/-- In a sound cache the leaves of a struct lie inside its layout. The induction follows the
structs down the references, where the stored sizes are those of the layouts already treated. -/
lemma SoundFor.packedIn_leaves (h : SoundFor t c) (hx : t.HasLeaves c.get? name xs) :
    PackedIn 0 (storedSize c.get? name) xs := by
  induction hx with
  | @intro name d inside xs declared below allowed ih =>
    obtain ⟨l, hl, -, rfl⟩ := allowed
    rw [StructTable.name_of_get? declared] at hl
    obtain ⟨d', hd', hb, -⟩ := h.block hl
    rw [declared] at hd'
    cases hd'
    have hsize : storedSize c.get? name = l.totalSize := by rw [storedSize, hl]; rfl
    rw [hsize]
    exact hb.packedIn_leaves ih

/-- After any requests, the writes of a finished struct stand on whole words in ascending order,
at least a word apart and inside the struct, so that no byte is written twice. -/
theorem plan_writes_disjoint (t : StructTable) (requests : List LayoutRequest) (name : String)
    (l : StructLayout) (h : ((fresh t).serveAll requests).get? name = some l) :
    ∃ p, ((fresh t).serveAll requests).done.plan l = .ok p ∧ p.totalSize = l.totalSize ∧
      (∀ w ∈ p.writes, 4 ∣ w.offset) ∧
      p.writes.Pairwise (fun a b => a.offset < b.offset ∧ a.offset + 4 ≤ b.offset) ∧
      (∀ w ∈ p.writes, w.offset + w.width ≤ p.totalSize) ∧
      p.writes.Pairwise (fun a b => ∀ byte, a.Covers byte → ¬ b.Covers byte) ∧
      ∀ w ∈ p.writes, ∀ byte, w.Covers byte → byte < p.totalSize := by
  have hs := (SoundFor.fresh t).serveAll requests
  obtain ⟨xs, hx, hp⟩ := hs.exists_plan h
  have hsize : storedSize ((fresh t).serveAll requests).get? name = l.totalSize := by
    rw [storedSize, h]
    rfl
  have hpack := hsize ▸ hs.packedIn_leaves hx
  have hend : ∀ w ∈ xs.map Leaf.write, w.offset + w.width ≤ l.totalSize := by
    intro w hw
    obtain ⟨x, hx, rfl⟩ := List.mem_map.1 hw
    exact (hpack.between x hx).2
  refine ⟨_, hp, rfl, ?_, ?_, hend, ?_, ?_⟩
  · intro w hw
    obtain ⟨x, hx, rfl⟩ := List.mem_map.1 hw
    exact hpack.words x hx
  · rw [List.pairwise_map]
    refine hpack.apart.imp fun {x y} hxy => ?_
    simp only [Leaf.write]
    omega
  · rw [List.pairwise_map]
    refine hpack.apart.imp fun {x y} hxy => ?_
    intro byte hx' hy'
    simp only [Leaf.write, ScalarWrite.Covers] at hx' hy'
    omega
  · intro w hw byte hb
    exact Nat.lt_of_lt_of_le hb.2 (hend w hw)

theorem plan_writes_disjoint_scene :
    let c := (fresh sceneTable).serveAll [.computeAll, .layoutOf "Scene"]
    c.get? "Scene" = some sceneLayout ∧
    ∃ p, c.done.plan sceneLayout = .ok p ∧ p.totalSize = 240 ∧
      (∀ w ∈ p.writes, 4 ∣ w.offset) ∧
      p.writes.Pairwise (fun a b => a.offset < b.offset ∧ a.offset + 4 ≤ b.offset) ∧
      (∀ w ∈ p.writes, w.offset + w.width ≤ p.totalSize) ∧
      p.writes.Pairwise (fun a b => ∀ byte, a.Covers byte → ¬ b.Covers byte) ∧
      ∀ w ∈ p.writes, ∀ byte, w.Covers byte → byte < p.totalSize := by
  intro c
  have h : c.get? "Scene" = some sceneLayout := by decide +kernel
  exact ⟨h, plan_writes_disjoint sceneTable _ "Scene" sceneLayout h⟩

end LayoutCache
end RenderPlan
