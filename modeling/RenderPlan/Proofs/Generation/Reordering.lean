import RenderPlan.Proofs.Generation.Closure

/-! The order of declarations. Structs, resources and pipelines that are declared in another order are
accepted alike, and what is generated from them differs in order and positions alone. -/
namespace RenderPlan
open LayoutCache ResourceGraph
variable {spec spec' : Specification} {t t' : StructTable} {c c' : LayoutCache}
  {g g' : ResourceGraph} {v v' : Validation} {a a' : Artifacts}

namespace Specification

/-- The same declarations, each list of them in any order. -/
structure Reorders (spec spec' : Specification) : Prop where
  structs : spec.structs.Perm spec'.structs
  resources : spec.resources.Perm spec'.resources
  pipelines : spec.pipelines.Perm spec'.pipelines

lemma Reorders.symm (h : spec.Reorders spec') : spec'.Reorders spec :=
  ⟨h.structs.symm, h.resources.symm, h.pipelines.symm⟩

lemma Reorders.exists_typeCheck (h : spec.Reorders spec') (ht : spec.typeCheck = .ok t) :
    ∃ t', spec'.typeCheck = .ok t' ∧ t.decls.Perm t'.decls := by
  obtain ⟨hdecls, hcheck⟩ := typeCheck_eq_ok_iff.1 ht
  have hperm : t.decls.Perm spec'.structs := hdecls ▸ h.structs
  refine ⟨⟨spec'.structs, (hperm.map _).nodup_iff.1 t.distinct⟩, ?_, hperm⟩
  exact typeCheck_eq_ok_iff.2 ⟨rfl, fun d hd => hcheck d (h.structs.mem_iff.2 hd)⟩

lemma Reorders.exists_computeLayouts (h : spec.Reorders spec') (hd : t.decls.Perm t'.decls)
    (hc : spec.computeLayouts t = .ok c) : ∃ c', spec'.computeLayouts t' = .ok c' := by
  have hget := StructTable.get?_eq_of_perm hd
  have htransfer {n : String} : (∃ l, t.HasLayout n l) → ∃ l, t'.HasLayout n l :=
    fun ⟨l, hl⟩ => ⟨l, hl.transfer fun m _ => congrFun hget m⟩
  obtain ⟨hnames, hbuffers⟩ := exists_computeLayouts_iff.1 ⟨c, hc⟩
  refine exists_computeLayouts_iff.2 ⟨fun n hn => ?_, fun s hs => ?_⟩
  · exact htransfer (hnames n ((hd.map StructDecl.name).mem_iff.2 hn))
  · obtain ⟨d, hd, hk⟩ := mem_bufferStructs.1 hs
    exact htransfer (hbuffers s (mem_bufferStructs.2 ⟨d, h.resources.mem_iff.2 hd, hk⟩))

namespace Completed

lemma structs_perm (h : spec.Completed t c g v a) (h' : spec'.Completed t' c' g' v' a')
    (hr : spec.Reorders spec') : t.decls.Perm t'.decls := by
  rw [(typeCheck_eq_ok_iff.1 h.table).1, (typeCheck_eq_ok_iff.1 h'.table).1]
  exact hr.structs

lemma get?_eq (h : spec.Completed t c g v a) (h' : spec'.Completed t' c' g' v' a')
    (hr : spec.Reorders spec') : c.get? = c'.get? :=
  h.complete.get?_eq_of_perm h'.complete (h.structs_perm h' hr)

lemma declared_perm (h : spec.Completed t c g v a) (h' : spec'.Completed t' c' g' v' a')
    (hr : spec.Reorders spec') : g.decls.Perm g'.decls := by
  rw [h.decls_eq, h'.decls_eq]
  exact hr.resources

/-- The stages that can meet a fault meet none in the other order either. -/
lemma exists_run_reordered (h : spec.Completed t c g v a) (hr : spec.Reorders spec')
    (gen : Generator) : ∃ a', (gen.run spec').1 = .ok a' := by
  obtain ⟨t', ht', hd⟩ := hr.exists_typeCheck h.table
  obtain ⟨c', hc'⟩ := hr.exists_computeLayouts hd h.cache
  obtain ⟨g', hg', hdecls⟩ := build_reordered h.graph hr.resources
  have hget : c.get? = c'.get? :=
    h.complete.get?_eq_of_perm (complete_of_computeLayouts hc').1 hd
  obtain ⟨v', -, -, hv', -⟩ := validate_reordered h.validation hr.pipelines h.coherent
    (build_eq_ok_iff.1 hg').2.1 hdecls fun name => congrArg Option.isSome (congrFun hget name)
  exact gen.exists_run_ok ht' hc' hg' hv'

/-- The pipelines of both generations are resolved alike. -/
lemma exists_resolvedBy (h : spec.Completed t c g v a) (h' : spec'.Completed t' c' g' v' a')
    (hr : spec.Reorders spec') : ∃ rs rs' : List ResolvedPipeline, rs.Perm rs' ∧
      v.ResolvedBy spec.pipelines g c.done rs ∧ v'.ResolvedBy spec'.pipelines g' c'.done rs' ∧
      v.shadows.Perm v'.shadows := by
  obtain ⟨v'', rs, rs', hv'', hperm, hrs, hrs', hshadows⟩ :=
    validate_reordered h.validation hr.pipelines h.coherent h'.coherent (h.declared_perm h' hr)
      fun name => congrArg Option.isSome (congrFun (h.get?_eq h' hr) name)
  cases h'.validation.symm.trans hv''
  exact ⟨rs, rs', hperm, hrs, hrs', hshadows⟩

lemma graph_perm (h : spec.Completed t c g v a) (h' : spec'.Completed t' c' g' v' a')
    (hr : spec.Reorders spec') : a.graph.decls.Perm a'.graph.decls := by
  obtain ⟨-, -, -, -, -, hshadows⟩ := h.exists_resolvedBy h' hr
  have hget := h.coherent.get?_eq_of_perm h'.coherent.toIndexed (h.declared_perm h' hr)
  rw [h.coherent_grown.2, h'.coherent_grown.2]
  exact hr.resources.append (copies_perm hget hshadows)

lemma setup_reordered (h : spec.Completed t c g v a) (h' : spec'.Completed t' c' g' v' a')
    (hr : spec.Reorders spec') : a.setup.Perm a'.setup := by
  have hstep : setupStep c = setupStep c' := by
    funext d
    simp only [setupStep, h.get?_eq h' hr]
  have horder : a.graph.creationOrder.Perm a'.graph.creationOrder :=
    (creationOrder_perm _).trans ((h.graph_perm h' hr).trans (creationOrder_perm _).symm)
  rw [h.setup_eq, h'.setup_eq, hstep]
  exact horder.map _

lemma plan?_reordered (h : spec.Completed t c g v a) (h' : spec'.Completed t' c' g' v' a')
    (hr : spec.Reorders spec') (name : String) : a.plan? name = a'.plan? name := by
  rw [h.plan?_eq, h'.plan?_eq, ← h.get?_eq h' hr]
  cases hl : c.get? name with
  | none => rfl
  | some l =>
    have hplan := h.complete.plan_eq_of_perm h'.complete (h.structs_perm h' hr) hl
    rw [Option.bind_some, Option.bind_some, hplan]

lemma pipelines_reordered (h : spec.Completed t c g v a) (h' : spec'.Completed t' c' g' v' a')
    (hr : spec.Reorders spec') :
    (a.pipelines.map fun e => (e.name, e.nextName a.pipelines, e.passes)).Perm
      (a'.pipelines.map fun e => (e.name, e.nextName a'.pipelines, e.passes)) := by
  obtain ⟨rs, rs', hperm, hrs, hrs', -⟩ := h.exists_resolvedBy h' hr
  obtain ⟨-, hn, -⟩ := validate_eq_ok_iff.1 h.validation
  obtain ⟨-, hn', -⟩ := validate_eq_ok_iff.1 h'.validation
  rw [h.pipelines_eq, h'.pipelines_eq, hrs.map_emissions hn, hrs'.map_emissions hn']
  exact hperm.map _

lemma diagnostics_reordered (h : spec.Completed t c g v a) (h' : spec'.Completed t' c' g' v' a')
    (hr : spec.Reorders spec') : a.diagnostics.Perm a'.diagnostics := by
  obtain ⟨rs, rs', hperm, hrs, hrs', -⟩ := h.exists_resolvedBy h' hr
  rw [h.diagnostics_eq, h'.diagnostics_eq, hrs.diagnostics_eq, hrs'.diagnostics_eq]
  exact hperm.flatMap_right _

/-- Emitted pipelines have the declared names, which are distinct. -/
lemma nodup_pipeline_names (h : spec.Completed t c g v a) :
    (a.pipelines.map PipelineEmission.name).Nodup := by
  obtain ⟨-, hn, rs, hrs⟩ := validate_eq_ok_iff.1 h.validation
  have hnames : a.pipelines.map PipelineEmission.name = spec.pipelines.map Pipeline.name := by
    apply List.ext_getElem?
    intro i
    rw [List.getElem?_map, List.getElem?_map, h.pipelines_eq, hrs.names_eq]
  rwa [hnames]

end Completed
end Specification

/-- The same artifacts, apart from the order of their parts and the positions that follow from it.
Pipelines have distinct names, so each name has its passes and its next pipeline. -/
structure Artifacts.SameContent (a a' : Artifacts) : Prop where
  layout : ∀ name, a.layout? name = a'.layout? name
  plan : ∀ name, a.plan? name = a'.plan? name
  setup : a.setup.Perm a'.setup
  recreated : ∀ width height,
    (a.resizePlan width height).textures.Perm (a'.resizePlan width height).textures
  rebound : ∀ width height,
    (a.resizePlan width height).framebuffers.Perm (a'.resizePlan width height).framebuffers
  pipeline_names : (a.pipelines.map PipelineEmission.name).Nodup
  pipelines : (a.pipelines.map fun e => (e.name, e.nextName a.pipelines, e.passes)).Perm
    (a'.pipelines.map fun e => (e.name, e.nextName a'.pipelines, e.passes))
  diagnostics : a.diagnostics.Perm a'.diagnostics

/-- Declarations in another order are accepted alike, and the same is generated from them. -/
theorem Generator.run_reordered (gen gen' : Generator) (spec spec' : Specification)
    (hs : spec.structs.Perm spec'.structs) (hr : spec.resources.Perm spec'.resources)
    (hp : spec.pipelines.Perm spec'.pipelines) :
    ((∃ a, (gen.run spec).1 = .ok a) ↔ ∃ a', (gen'.run spec').1 = .ok a') ∧
    ∀ a a', (gen.run spec).1 = .ok a → (gen'.run spec').1 = .ok a' → a.SameContent a' := by
  have horder : spec.Reorders spec' := ⟨hs, hr, hp⟩
  refine ⟨⟨?_, ?_⟩, fun a a' ha ha' => ?_⟩
  · rintro ⟨a, ha⟩
    obtain ⟨t, c, g, v, h⟩ := completed_of_run ha
    exact h.exists_run_reordered horder gen'
  · rintro ⟨a', ha'⟩
    obtain ⟨t, c, g, v, h⟩ := completed_of_run ha'
    exact h.exists_run_reordered horder.symm gen
  · obtain ⟨t, c, g, v, h⟩ := completed_of_run ha
    obtain ⟨t', c', g', v', h'⟩ := completed_of_run ha'
    have hgraph := h.graph_perm h' horder
    refine ⟨fun name => ?_, h.plan?_reordered h' horder, h.setup_reordered h' horder,
      planResize_textures_perm hgraph, planResize_framebuffers_perm hgraph,
      h.nodup_pipeline_names, h.pipelines_reordered h' horder, h.diagnostics_reordered h' horder⟩
    rw [h.layout?_eq, h'.layout?_eq, h.get?_eq h' horder]

/-- The trail, with each list of declarations reversed. -/
def trailSpecReversed : Specification where
  structs := trailSpec.structs.reverse
  resources := trailSpec.resources.reverse
  pipelines := trailSpec.pipelines.reverse

/-- The setups differ in their order, and the reversed trail is generated all the same. -/
theorem Generator.run_reordered_trail :
    ∃ a a', (({} : Generator).run trailSpec).1 = .ok a ∧
      (({} : Generator).run trailSpecReversed).1 = .ok a' ∧
      a.setup.map SetupStep.name ≠ a'.setup.map SetupStep.name ∧ a.SameContent a' := by
  obtain ⟨hiff, hsame⟩ := run_reordered {} {} trailSpec trailSpecReversed
    (List.reverse_perm _).symm (List.reverse_perm _).symm (List.reverse_perm _).symm
  have hok : (({} : Generator).run trailSpec).1.isOk := by decide +kernel
  have hne : (({} : Generator).run trailSpec).1.toOption.map (·.setup.map SetupStep.name) ≠
      (({} : Generator).run trailSpecReversed).1.toOption.map (·.setup.map SetupStep.name) := by
    decide +kernel
  cases h : (({} : Generator).run trailSpec).1 with
  | error e =>
    rw [h] at hok
    cases hok
  | ok a =>
    obtain ⟨a', h'⟩ := hiff.1 ⟨a, h⟩
    rw [h, h'] at hne
    exact ⟨a, a', rfl, h', fun he => hne (congrArg some he), hsame a a' h h'⟩

end RenderPlan
