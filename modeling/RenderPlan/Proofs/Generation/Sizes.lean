import RenderPlan.Proofs.Generation.Closure
import RenderPlan.Proofs.Upload.Replay

/-! The sizes in the artifacts. Layouts and plans stand in the order of the declared structs, and a
buffer is created with the size of the struct it holds, so an upload never runs out of space. No size
is zero, since a checked struct has a field and all types take space. -/
namespace RenderPlan
open LayoutCache StructTable

section Positive
variable {total : String → ℕ}

lemma ShaderType.size_measure_pos {ty : ShaderType}
    (h : ∀ m, ty.referenced = some m → 0 < total m) : 0 < (ty.measure total).size := by
  induction ty with
  | scalar kind => exact Nat.zero_lt_succ 3
  | vector kind arity => cases arity <;> exact Nat.zero_lt_succ _
  | matrix columns rows =>
    have hrows : 0 < 4 * rows.count := by cases rows <;> decide
    have hcolumns : 0 < columns.count := by cases columns <;> decide
    exact Nat.mul_pos hcolumns (Nat.lt_of_lt_of_le hrows (le_slot _))
  | array element length ih =>
    exact Nat.mul_pos length.count_pos (Nat.lt_of_lt_of_le (ih h) (le_slot _))
  | struct name => exact h name rfl

lemma Places.lt_stop {cursor stop : ℕ} {fs : List FieldDecl} {ls : List FieldLayout}
    (h : Places total cursor fs ls stop) (hfs : fs ≠ []) (ht : ∀ m ∈ references fs, 0 < total m) :
    cursor < stop := by
  cases h with
  | nil => exact absurd rfl hfs
  | cons first rest =>
    have hpos := ShaderType.size_measure_pos (forall_references_cons.1 ht).1
    have hlt := Nat.lt_of_le_of_lt first.1.2 (Nat.lt_add_of_pos_right hpos)
    exact Nat.lt_of_lt_of_le hlt rest.cursor_le

lemma IsBlock.totalSize_pos {d : StructDecl} {l : StructLayout} (h : IsBlock total d l)
    (hd : d.fields ≠ []) (ht : ∀ m ∈ references d.fields, 0 < total m) : 0 < l.totalSize := by
  obtain ⟨stop, hp, hs⟩ := h.placed
  rw [hs]
  exact Nat.lt_of_lt_of_le (hp.lt_stop hd ht) (le_slot stop)

end Positive

namespace StructTable
variable {t : StructTable} {name : String} {l : StructLayout}

/-- Where no struct is empty, none takes no space. -/
lemma HasLayout.totalSize_pos (h : t.HasLayout name l) (hd : ∀ d ∈ t.decls, d.fields ≠ []) :
    0 < l.totalSize := by
  induction h with
  | intro declared _ allowed ih => exact allowed.1.totalSize_pos (hd _ (mem_of_get? declared)) ih

lemma HasLayout.dvd_totalSize (h : t.HasLayout name l) : 16 ∣ l.totalSize := by
  cases h with
  | intro _ _ allowed =>
    obtain ⟨stop, -, hs⟩ := allowed.1.placed
    rw [hs]
    exact dvd_slot stop

end StructTable

/-- A list of results has a result for each item at the position of the item. -/
lemma exists_getElem?_of_forall₂ {α β : Type} {r : α → β → Prop} {xs : List α} {ys : List β}
    (h : List.Forall₂ r xs ys) {i : ℕ} {x : α} (hx : xs[i]? = some x) :
    ∃ y, ys[i]? = some y ∧ r x y := by
  induction h generalizing i with
  | nil => simp at hx
  | cons hr _ ih =>
    cases i with
    | zero =>
      cases hx
      exact ⟨_, rfl, hr⟩
    | succ i => exact ih hx

namespace LayoutCache.Complete
variable {t : StructTable} {c : LayoutCache}

/-- One layout for each declared struct, in the order of declaration. -/
lemma forall₂_layouts (h : Complete t c) :
    List.Forall₂ (fun (d : StructDecl) l => c.get? d.name = some l) t.decls c.layouts := by
  have hall : ∀ d ∈ t.decls, (c.get? d.name).isSome := fun d hd =>
    h.finished d.name (List.mem_map_of_mem hd)
  rw [layouts, h.table, names, List.filterMap_map]
  generalize t.decls = decls at hall
  induction decls with
  | nil => exact .nil
  | cons d decls ih =>
    obtain ⟨hd, hdecls⟩ := List.forall_mem_cons.1 hall
    obtain ⟨l, hl⟩ := Option.isSome_iff_exists.1 hd
    rw [List.filterMap_cons_some (f := c.get? ∘ StructDecl.name) hl]
    exact .cons hl (ih hdecls)

end LayoutCache.Complete

/-- The size of a struct: a whole number of slots, at least one, within the limit. -/
def IsStructSize (size : ℕ) : Prop := 0 < size ∧ 16 ∣ size ∧ size ≤ 65536

namespace Specification.Completed
variable {spec : Specification} {t : StructTable} {c : LayoutCache} {g : ResourceGraph}
  {v : Validation} {a : Artifacts} {name : String}

lemma isStructSize (h : spec.Completed t c g v a) {l : StructLayout} (hl : c.get? name = some l) :
    IsStructSize l.totalSize := by
  have hlayout := h.complete.get?_eq_some_iff.1 hl
  obtain ⟨hdecls, hcheck⟩ := typeCheck_eq_ok_iff.1 h.table
  refine ⟨hlayout.totalSize_pos fun d hd => ?_, hlayout.dvd_totalSize, hlayout.totalSize_le⟩
  exact (checkDecl_eq_ok_iff.1 (hcheck d (hdecls ▸ hd))).2.2.1

/-- The plan that is found for a struct, with the size of its layout. -/
lemma exists_plan_fits (h : spec.Completed t c g v a) {l : StructLayout} (hl : c.get? name = some l) :
    ∃ p, a.plan? name = some p ∧ p.totalSize = l.totalSize ∧ p.FitsInto l.totalSize := by
  obtain ⟨p, hp, -, hsize, hfits⟩ := h.complete.toSoundFor.exists_plan_fits hl
  refine ⟨p, ?_, hsize, hfits⟩
  rw [h.plan?_eq, hl, Option.bind_some, hp]
  rfl

lemma byteSize_eq (h : spec.Completed t c g v a) {step : SetupStep} (hs : step ∈ a.setup) :
    (∀ structName, step.kind = .buffer structName →
      step.byteSize = (c.get? structName).map StructLayout.totalSize) ∧
    ((∀ structName, step.kind ≠ .buffer structName) → step.byteSize = none) := by
  rw [h.setup_eq] at hs
  obtain ⟨d, -, rfl⟩ := List.mem_map.1 hs
  simp only [setupStep]
  cases d.kind <;> simp

/-- A created buffer is one of the declared ones, since shadows are textures. -/
lemma isSome_get?_of_buffer (h : spec.Completed t c g v a) {step : SetupStep} (hs : step ∈ a.setup)
    {structName : String} (hk : step.kind = .buffer structName) : (c.get? structName).isSome := by
  have hmem := h.setup_perm.mem_iff.1 (List.mem_map_of_mem hs)
  rcases List.mem_append.1 hmem with hmem | hmem
  · exact (complete_of_computeLayouts h.cache).2 _ (mem_bufferStructs.2 ⟨_, hmem, hk⟩)
  · obtain ⟨s, hs, hcopy⟩ := List.mem_filterMap.1 hmem
    obtain ⟨d, tex, hd, htex⟩ := h.texture_of_shadow hs
    rw [hd, Option.map_some, Option.some.injEq] at hcopy
    have hkind : step.decl.kind = .texture tex := hcopy ▸ htex
    rw [show step.decl.kind = step.kind from rfl, hk] at hkind
    cases hkind

/-- A created buffer is as large as the plan of its struct says, which is large enough for it. -/
lemma exists_plan_of_buffer (h : spec.Completed t c g v a) {step : SetupStep} (hs : step ∈ a.setup)
    {structName : String} (hk : step.kind = .buffer structName) :
    ∃ p, a.plan? structName = some p ∧ step.byteSize = some p.totalSize ∧
      p.FitsInto p.totalSize := by
  obtain ⟨l, hl⟩ := Option.isSome_iff_exists.1 (h.isSome_get?_of_buffer hs hk)
  obtain ⟨p, hp, hsize, hfits⟩ := h.exists_plan_fits hl
  refine ⟨p, hp, ?_, hsize ▸ hfits⟩
  rw [(h.byteSize_eq hs).1 structName hk, hl, hsize]
  rfl

end Specification.Completed

/-- The artifacts of a run agree on all sizes: layouts and plans with the declared structs one by
one, buffers with the plans of their structs, and uploads with the buffers they go to. -/
theorem Generator.run_sizes_agree (gen : Generator) (spec : Specification) (a : Artifacts)
    (h : (gen.run spec).1 = .ok a) :
    a.structs.decls = spec.structs ∧
    a.layouts.length = a.structs.decls.length ∧ a.plans.length = a.structs.decls.length ∧
    (∀ (i : ℕ) (d : StructDecl), a.structs.decls[i]? = some d →
      ∃ l p, a.layouts[i]? = some l ∧ a.plans[i]? = some p ∧ l.name = d.name ∧
        p.structName = d.name ∧ p.totalSize = l.totalSize ∧ IsStructSize l.totalSize) ∧
    (∀ step ∈ a.setup, ∀ structName, step.kind = .buffer structName →
      ∃ p, a.plan? structName = some p ∧ step.byteSize = some p.totalSize) ∧
    (∀ step ∈ a.setup, (∀ structName, step.kind ≠ .buffer structName) → step.byteSize = none) ∧
    ∀ e ∈ a.pipelines, ∀ pass ∈ e.passes, ∀ buffer structName,
      .buffer buffer structName ∈ pass.uploads →
      ∃ step ∈ a.setup, step.name = buffer ∧ step.kind = .buffer structName ∧
        ∃ p size, a.plan? structName = some p ∧ step.byteSize = some size ∧ p.FitsInto size := by
  obtain ⟨t, c, g, v, hc⟩ := completed_of_run h
  have hlayouts := hc.layouts_eq ▸ hc.complete.forall₂_layouts
  have hplans := hc.layouts_eq ▸ mapM_eq_ok_iff.1 hc.plans
  have hdecls : a.structs.decls = t.decls := by rw [hc.structs_eq, hc.complete.table]
  refine ⟨hc.structs_decls, ?_, ?_, fun i d hd => ?_, fun step hs structName hk => ?_,
    fun step hs => (hc.byteSize_eq hs).2, fun e he pass hpass buffer structName hu => ?_⟩
  · rw [hdecls, hlayouts.length_eq]
  · rw [hdecls, hlayouts.length_eq, hplans.length_eq]
  · obtain ⟨l, hi, hl⟩ := exists_getElem?_of_forall₂ hlayouts (hdecls ▸ hd)
    obtain ⟨p, hi', hp⟩ := exists_getElem?_of_forall₂ hplans hi
    obtain ⟨p', hp', hname, hsize, -⟩ := hc.complete.toSoundFor.exists_plan_fits hl
    cases hp.symm.trans hp'
    have hln := (hc.complete.get?_eq_some_iff.1 hl).isStd140.name_eq
    exact ⟨l, p, hi, hi', hln, hname, hsize, hc.isStructSize hl⟩
  · obtain ⟨p, hp, hsize, -⟩ := hc.exists_plan_of_buffer hs hk
    exact ⟨p, hp, hsize⟩
  · obtain ⟨⟨step, hs, hname, hk, -⟩, -⟩ := (hc.closed_pass he hpass).uploadedBuffers _ _ hu
    obtain ⟨p, hp, hsize, hfits⟩ := hc.exists_plan_of_buffer hs hk
    exact ⟨step, hs, hname, hk, p, p.totalSize, hp, hsize, hfits⟩

/-- The settings of the trail are uploaded to a buffer that is large enough for them. -/
theorem Generator.run_sizes_agree_trail :
    ∃ a, (({} : Generator).run trailSpec).1 = .ok a ∧
      a.layouts.map StructLayout.totalSize = [32, 16] ∧
      (∃ e ∈ a.pipelines, ∃ pass ∈ e.passes, .buffer "Settings" "Fade" ∈ pass.uploads) ∧
      ∃ step ∈ a.setup, step.name = "Settings" ∧ step.kind = .buffer "Fade" ∧
        ∃ p size, a.plan? "Fade" = some p ∧ step.byteSize = some size ∧ p.FitsInto size := by
  have heval : (({} : Generator).run trailSpec).1.toOption.map (fun a =>
      decide (a.layouts.map StructLayout.totalSize = [32, 16] ∧
        ∃ e ∈ a.pipelines, ∃ pass ∈ e.passes, .buffer "Settings" "Fade" ∈ pass.uploads)) =
      some true := by
    decide +kernel
  obtain ⟨a, h, ha⟩ := exists_ok_of_toOption_map heval
  obtain ⟨hsizes, e, he, pass, hpass, hu⟩ := of_decide_eq_true ha
  obtain ⟨-, -, -, -, -, -, hfits⟩ := run_sizes_agree {} trailSpec a h
  exact ⟨a, h, hsizes, ⟨e, he, pass, hpass, hu⟩, hfits e he pass hpass _ _ hu⟩

end RenderPlan
