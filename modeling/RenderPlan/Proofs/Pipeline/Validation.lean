import Mathlib.Data.List.Perm.Basic
import RenderPlan.Proofs.Pipeline.Copies
import RenderPlan.Proofs.Pipeline.Resolution
import RenderPlan.Proofs.Pipeline.Shadows
import RenderPlan.Proofs.Resource.Reordering

/-! Validation as a whole. It succeeds where each pipeline can be expanded and each of its passes
resolved, and it then gives each pipeline its own resolution. The order of the declarations shows in
the positions alone. -/
namespace RenderPlan
open Text
variable {c c' : PassContext} {pipelines pipelines' : List Pipeline} {g g' : ResourceGraph}
  {layouts layouts' : Layouts} {v : Validation}

@[simp] lemma Pipeline.isSome_position?_iff {name : String} :
    (position? pipelines name).isSome ↔ name ∈ pipelines.map Pipeline.name := by
  rw [position?, Option.isSome_map, List.find?_isSome, List.mem_map]
  constructor
  · rintro ⟨x, hx, hname⟩
    have hmem := List.mem_zipIdx_iff_getElem?.1 (List.mem_reverse.1 hx)
    exact ⟨x.1, List.mem_of_getElem? hmem, by simpa using hname⟩
  · rintro ⟨p, hp, rfl⟩
    obtain ⟨i, hi⟩ := List.mem_iff_getElem?.1 hp
    exact ⟨(p, i), List.mem_reverse.2 (List.mem_zipIdx_iff_getElem?.2 hi), by simp⟩

/-- A pipeline with the passes it runs and what each of them is resolved to. -/
structure ResolvedPipeline where
  pipeline : Pipeline
  source : List RenderPass
  resolved : List (PassEmission × List Diagnostic)

namespace ResolvedPipeline
variable {r r' : ResolvedPipeline} {rs : List ResolvedPipeline}

def passes (r : ResolvedPipeline) : List PassEmission := r.resolved.map Prod.fst

def reports (r : ResolvedPipeline) : List Diagnostic := r.resolved.flatMap Prod.snd

/-- The pipeline at a position among the others. -/
def emission (pipelines : List Pipeline) (r : ResolvedPipeline) (id : ℕ) : PipelineEmission :=
  ⟨id, r.pipeline.name, r.pipeline.next.bind (Pipeline.position? pipelines), r.passes⟩

/-- Each pass is resolved, and the next pipeline is declared. -/
structure Checked (c : PassContext) (pipelines : List Pipeline) (r : ResolvedPipeline) : Prop where
  next : ∀ name, r.pipeline.next = some name → name ∈ pipelines.map Pipeline.name
  resolves : r.source.mapM (c.resolvePass r.pipeline.name) = .ok r.resolved

/-- The passes are moreover the ones that the copies lead to. -/
structure Valid (c : PassContext) (pipelines : List Pipeline) (r : ResolvedPipeline) : Prop
    extends Checked c pipelines r where
  expands : Pipeline.Expands pipelines r.pipeline r.source

/-- Validity depends on what is found in the context and on which pipelines are declared. -/
lemma Valid.transfer (h : r.Valid c pipelines) (hc : c.Alike c') (hp : pipelines ⊆ pipelines') :
    r.Valid c' pipelines' where
  next name hn := List.map_subset _ hp (h.next name hn)
  resolves := hc.resolvePass ▸ h.resolves
  expands := h.expands.mono hp

end ResolvedPipeline

open ResolvedPipeline

lemma PassContext.resolvePipeline_eq_ok_iff {id : ℕ} {p : Pipeline} {passes : List RenderPass}
    {x : PipelineEmission × List Diagnostic} :
    c.resolvePipeline pipelines id p passes = .ok x ↔
      ∃ resolved, Checked c pipelines ⟨p, passes, resolved⟩ ∧
        x = (emission pipelines ⟨p, passes, resolved⟩ id, reports ⟨p, passes, resolved⟩) := by
  have hrest (next : Option ℕ) : (do
      let resolved ← passes.mapM (c.resolvePass p.name)
      return ((⟨id, p.name, next, resolved.map Prod.fst⟩ : PipelineEmission),
        resolved.flatMap Prod.snd)) = Except.ok x ↔
      ∃ resolved, passes.mapM (c.resolvePass p.name) = .ok resolved ∧
        (⟨id, p.name, next, resolved.map Prod.fst⟩, resolved.flatMap Prod.snd) = x := by
    simp only [bind_eq_ok_iff, pure_eq_ok_iff]
  rw [resolvePipeline]
  cases hn : p.next with
  | none =>
    refine (hrest none).trans (exists_congr fun resolved => ?_)
    constructor
    · rintro ⟨hres, rfl⟩
      exact ⟨⟨by simp [hn], hres⟩, by simp [emission, hn, ResolvedPipeline.passes, reports]⟩
    · rintro ⟨hch, rfl⟩
      exact ⟨hch.resolves, by simp [emission, hn, ResolvedPipeline.passes, reports]⟩
  | some name =>
    cases hpos : Pipeline.position? pipelines name with
    | none =>
      have hmem : name ∉ pipelines.map Pipeline.name := by
        rw [← Pipeline.isSome_position?_iff, hpos]
        simp
      simp only [bind, Except.bind, throw, throwThe, MonadExceptOf.throw, hpos]
      constructor
      · intro h
        cases h
      · rintro ⟨resolved, hch, -⟩
        exact (hmem (hch.next name hn)).elim
    | some i =>
      have hmem : name ∈ pipelines.map Pipeline.name := by
        rw [← Pipeline.isSome_position?_iff, hpos]
        rfl
      simp only [hpos]
      refine (hrest (some i)).trans (exists_congr fun resolved => ?_)
      constructor
      · rintro ⟨hres, rfl⟩
        refine ⟨⟨fun m hm => ?_, hres⟩, by simp [emission, hn, hpos, ResolvedPipeline.passes, reports]⟩
        cases hn.symm.trans hm
        exact hmem
      · rintro ⟨hch, rfl⟩
        exact ⟨hch.resolves, by simp [emission, hn, hpos, ResolvedPipeline.passes, reports]⟩

lemma mapM_resolvePipeline_eq_ok_iff {sources : List (Pipeline × List RenderPass)} {k : ℕ}
    {xs : List (PipelineEmission × List Diagnostic)} :
    (sources.zipIdx k).mapM (fun x => c.resolvePipeline pipelines x.2 x.1.1 x.1.2) = .ok xs ↔
      ∃ rs : List ResolvedPipeline, rs.map (fun r => (r.pipeline, r.source)) = sources ∧
        (∀ r ∈ rs, r.Checked c pipelines) ∧
        xs = (rs.zipIdx k).map fun x => (x.1.emission pipelines x.2, x.1.reports) := by
  induction sources generalizing k xs with
  | nil =>
    constructor
    · intro h
      cases pure_eq_ok_iff.1 h
      exact ⟨[], rfl, by simp, rfl⟩
    · rintro ⟨rs, hsources, -, rfl⟩
      cases List.map_eq_nil_iff.1 hsources
      rfl
  | cons source sources ih =>
    rw [List.zipIdx_cons, List.mapM_cons]
    simp only [bind_eq_ok_iff, pure_eq_ok_iff, PassContext.resolvePipeline_eq_ok_iff, ih]
    constructor
    · rintro ⟨_, ⟨resolved, hr, rfl⟩, _, ⟨rs, rfl, hrs, rfl⟩, rfl⟩
      exact ⟨⟨source.1, source.2, resolved⟩ :: rs, rfl, List.forall_mem_cons.2 ⟨hr, hrs⟩, rfl⟩
    · rintro ⟨rs, hsources, hrs, rfl⟩
      obtain ⟨r, rs, rfl, rfl, rfl⟩ := List.map_eq_cons_iff.1 hsources
      obtain ⟨hr, hrs⟩ := List.forall_mem_cons.1 hrs
      exact ⟨_, ⟨r.resolved, hr, rfl⟩, _, ⟨rs, rfl, hrs, rfl⟩, rfl⟩

/-- The resolutions behind a validation, one for each pipeline in order. -/
structure Validation.ResolvedBy (v : Validation) (pipelines : List Pipeline) (g : ResourceGraph)
    (layouts : Layouts) (rs : List ResolvedPipeline) : Prop where
  pipelines_eq : rs.map pipeline = pipelines
  shadows_eq : v.shadows = ShadowTarget.ofPasses g (rs.flatMap source)
  valid : ∀ r ∈ rs, r.Valid ⟨g, layouts, v.shadows⟩ pipelines
  emissions_eq : v.emissions = rs.zipIdx.map fun x => x.1.emission pipelines x.2
  diagnostics_eq : v.diagnostics = rs.flatMap reports

namespace Validation.ResolvedBy
variable {rs : List ResolvedPipeline}

lemma map_sources (h : v.ResolvedBy pipelines g layouts rs) :
    rs.map (fun r => (r.pipeline, r.source)) = pipelines.zip (rs.map source) := by
  rw [← h.pipelines_eq, List.zip_map']

lemma expands (h : v.ResolvedBy pipelines g layouts rs) :
    List.Forall₂ (Pipeline.Expands pipelines) pipelines (rs.map source) := by
  rw [List.forall₂_iff_zip, ← h.map_sources]
  refine ⟨by rw [← h.pipelines_eq, List.length_map, List.length_map], fun {p passes} hmem => ?_⟩
  obtain ⟨r, hr, hpair⟩ := List.mem_map.1 hmem
  cases hpair
  exact (h.valid r hr).expands

end Validation.ResolvedBy

@[simp] lemma flatMap_zipIdx_reports (rs : List ResolvedPipeline) :
    rs.zipIdx.flatMap (fun x => x.1.reports) = rs.flatMap reports := by
  conv_rhs => rw [← List.zipIdx_map_fst 0 rs, List.flatMap_map]

/-- Validation succeeds if and only if each pipeline can be expanded and resolved. -/
lemma validate_eq_ok_iff : validate pipelines g layouts = .ok v ↔
    (∀ n ∈ pipelines.map Pipeline.name, isIdentifier n) ∧ (pipelines.map Pipeline.name).Nodup ∧
      ∃ rs, v.ResolvedBy pipelines g layouts rs := by
  rw [validate]
  simp only [bind_eq_ok_iff]
  constructor
  · rintro ⟨_, hnames, expanded, hexp, xs, hxs, hv⟩
    obtain ⟨hident, hn, -⟩ := checkNames_eq_ok_iff.1 hnames
    rw [Pipeline.expandAll_eq_ok_iff hn] at hexp
    obtain ⟨rs, hsources, hrs, rfl⟩ := mapM_resolvePipeline_eq_ok_iff.1 hxs
    have hpipelines : rs.map pipeline = pipelines := by
      have := congrArg (List.map Prod.fst) hsources
      rwa [List.map_map, List.map_fst_zip hexp.length_eq.le] at this
    have hexpanded : rs.map source = expanded := by
      have := congrArg (List.map Prod.snd) hsources
      rwa [List.map_map, List.map_snd_zip hexp.length_eq.ge] at this
    cases pure_eq_ok_iff.1 hv
    refine ⟨hident, hn, rs, hpipelines, ?_, fun r hr => ⟨hrs r hr, ?_⟩, ?_, ?_⟩
    · change ShadowTarget.ofPasses g expanded.flatten = _
      rw [← hexpanded, List.flatMap_def]
    · apply (List.forall₂_iff_zip.1 hexp).2
      rw [← hsources]
      exact List.mem_map.2 ⟨r, hr, rfl⟩
    · simp
    · simp [List.flatMap_map]
  · rintro ⟨hident, hn, rs, h⟩
    have hshadows : ShadowTarget.ofPasses g (rs.map source).flatten = v.shadows := by
      rw [h.shadows_eq, List.flatMap_def]
    have hxs := (mapM_resolvePipeline_eq_ok_iff (k := 0)).2
      ⟨rs, h.map_sources, fun r hr => (h.valid r hr).toChecked, rfl⟩
    rw [← hshadows] at hxs
    refine ⟨(), checkNames_eq_ok_iff.2 ⟨hident, hn, by simp⟩, _,
      (Pipeline.expandAll_eq_ok_iff hn).2 h.expands, _, hxs, ?_⟩
    rw [hshadows, pure_eq_ok_iff, List.map_map, List.flatMap_map, flatMap_zipIdx_reports,
      ← h.diagnostics_eq]
    change Validation.mk (rs.zipIdx.map fun x => x.1.emission pipelines x.2) _ _ = v
    rw [← h.emissions_eq]

/-- The name of the pipeline that follows, which is kept by its position. -/
def PipelineEmission.nextName (emissions : List PipelineEmission) (e : PipelineEmission) :
    Option String :=
  e.next.bind fun i => emissions[i]?.map PipelineEmission.name

namespace Validation.ResolvedBy
variable {v' : Validation} {rs rs' : List ResolvedPipeline} {i : ℕ}

lemma getElem?_emissions (h : v.ResolvedBy pipelines g layouts rs) (i : ℕ) :
    v.emissions[i]? = rs[i]?.map fun r => r.emission pipelines i := by
  rw [h.emissions_eq, List.getElem?_map, List.getElem?_zipIdx, Option.map_map, Nat.zero_add]
  rfl

lemma getElem?_pipelines (h : v.ResolvedBy pipelines g layouts rs) (i : ℕ) :
    pipelines[i]? = rs[i]?.map pipeline := by
  rw [← h.pipelines_eq, List.getElem?_map]

lemma names_eq (h : v.ResolvedBy pipelines g layouts rs) (i : ℕ) :
    v.emissions[i]?.map PipelineEmission.name = pipelines[i]?.map Pipeline.name := by
  rw [h.getElem?_emissions, h.getElem?_pipelines, Option.map_map, Option.map_map]
  rfl

/-- The next pipeline is there if and only if one is declared, and it has the declared name. -/
lemma nextName_emission (h : v.ResolvedBy pipelines g layouts rs)
    (hn : (pipelines.map Pipeline.name).Nodup) {r : ResolvedPipeline} (hr : r ∈ rs) (i : ℕ) :
    (r.emission pipelines i).nextName v.emissions = r.pipeline.next := by
  rw [PipelineEmission.nextName]
  change (r.pipeline.next.bind (Pipeline.position? pipelines)).bind _ = _
  cases hnext : r.pipeline.next with
  | none => rfl
  | some name =>
    have hmem := (h.valid r hr).next name hnext
    obtain ⟨j, hj⟩ := Option.isSome_iff_exists.1 (Pipeline.isSome_position?_iff.2 hmem)
    obtain ⟨p, hp, hname⟩ := (Pipeline.position?_eq_some_iff hn).1 hj
    rw [Option.bind_some, hj, Option.bind_some, h.names_eq, hp, Option.map_some, hname]

/-- What is emitted for each pipeline, positions apart. -/
lemma map_emissions (h : v.ResolvedBy pipelines g layouts rs)
    (hn : (pipelines.map Pipeline.name).Nodup) :
    (v.emissions.map fun e => (e.name, e.nextName v.emissions, e.passes)) =
      rs.map fun r => (r.pipeline.name, r.pipeline.next, r.passes) := by
  apply List.ext_getElem?
  intro i
  rw [List.getElem?_map, List.getElem?_map, h.getElem?_emissions, Option.map_map]
  cases hr : rs[i]? with
  | none => rfl
  | some r =>
    have hnext := h.nextName_emission hn (List.mem_of_getElem? hr) i
    rw [Option.map_some, Option.map_some, Function.comp_apply, hnext]
    rfl

lemma map_passes (h : v.ResolvedBy pipelines g layouts rs) :
    v.emissions.map (·.passes) = rs.map ResolvedPipeline.passes := by
  rw [h.emissions_eq, List.map_map]
  conv_rhs => rw [← List.zipIdx_map_fst 0 rs, List.map_map]
  rfl

/-- Each emitted pass is the resolution of a pass. -/
lemma exists_resolvePass (h : v.ResolvedBy pipelines g layouts rs) {e : PipelineEmission}
    (he : e ∈ v.emissions) {p : PassEmission} (hp : p ∈ e.passes) :
    ∃ pass reports, (⟨g, layouts, v.shadows⟩ : PassContext).resolvePass e.name pass =
      .ok (p, reports) := by
  obtain ⟨i, hi⟩ := List.mem_iff_getElem?.1 he
  rw [h.getElem?_emissions, Option.map_eq_some_iff] at hi
  obtain ⟨r, hr, rfl⟩ := hi
  obtain ⟨⟨_, reports⟩, hmem, rfl⟩ := List.mem_map.1 hp
  have hresolves := (h.valid r (List.mem_of_getElem? hr)).resolves
  obtain ⟨pass, -, hpass⟩ := exists_of_mem_mapM hresolves hmem
  exact ⟨pass, reports, hpass⟩

lemma covers (h : v.ResolvedBy pipelines g layouts rs) :
    ShadowTarget.Covers g ((rs.flatMap source).flatMap (·.feedback g)) v.shadows := by
  rw [h.shadows_eq]
  exact ShadowTarget.covers_ofPasses g _

/-- The resolutions move along with their pipelines. -/
lemma exists_reordered (h : v.ResolvedBy pipelines g layouts rs) (hp : pipelines.Perm pipelines') :
    ∃ rs' : List ResolvedPipeline, rs'.map pipeline = pipelines' ∧ rs'.Perm rs := by
  have hmap : pipelines'.Perm (rs.map pipeline) := h.pipelines_eq ▸ hp.symm
  obtain ⟨rs', hrs', hperm⟩ := (congrFun₂ (List.eq_map_comp_perm pipeline) pipelines' rs).mpr hmap
  exact ⟨rs', hrs'.symm, hperm⟩

end Validation.ResolvedBy

/-- Pipelines and resources in another order are validated alike. -/
lemma validate_reordered (h : validate pipelines g layouts = .ok v)
    (hp : pipelines.Perm pipelines') (hg : g.Coherent) (hg' : g'.Coherent)
    (hd : g.decls.Perm g'.decls)
    (hl : ∀ name, (layouts.get? name).isSome = (layouts'.get? name).isSome) :
    ∃ (v' : Validation) (rs rs' : List ResolvedPipeline),
      validate pipelines' g' layouts' = .ok v' ∧ rs.Perm rs' ∧
      v.ResolvedBy pipelines g layouts rs ∧ v'.ResolvedBy pipelines' g' layouts' rs' ∧
      v.shadows.Perm v'.shadows := by
  obtain ⟨hident, hn, rs, hv⟩ := validate_eq_ok_iff.1 h
  have hget := hg.get?_eq_of_perm hg'.toIndexed hd
  have hnames (n : String) : n ∈ g.names ↔ n ∈ g'.names := (hd.map ResourceDecl.name).mem_iff
  obtain ⟨rs', hrs', hperm⟩ := hv.exists_reordered hp
  have htextures (t : String) : t ∈ (rs.flatMap source).flatMap (·.feedback g) ↔
      t ∈ (rs'.flatMap source).flatMap (·.feedback g') := by
    simp only [List.mem_flatMap, RenderPass.feedback_congr hget, hperm.mem_iff]
  have hcov := hv.covers
  have hcov' := ShadowTarget.covers_ofPasses g' (rs'.flatMap source)
  have halike : PassContext.Alike ⟨g, layouts, v.shadows⟩
      ⟨g', layouts', ShadowTarget.ofPasses g' (rs'.flatMap source)⟩ :=
    ⟨hget, hl, hcov.of?_congr hcov' hnames htextures⟩
  have hv' : Validation.ResolvedBy ⟨rs'.zipIdx.map fun x => x.1.emission pipelines' x.2,
      ShadowTarget.ofPasses g' (rs'.flatMap source), rs'.flatMap reports⟩
      pipelines' g' layouts' rs' :=
    ⟨hrs', rfl, fun r hr => (hv.valid r (hperm.mem_iff.1 hr)).transfer halike hp.subset, rfl, rfl⟩
  have hpn := hp.map Pipeline.name
  refine ⟨_, rs, rs', validate_eq_ok_iff.2 ⟨fun n hm => hident n (hpn.mem_iff.2 hm),
    hpn.nodup hn, rs', hv'⟩, hperm.symm, hv, hv', hcov.perm hcov' hnames htextures⟩

end RenderPlan
