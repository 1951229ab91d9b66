import RenderPlan.Proofs.Pipeline.Acceptance
import RenderPlan.Proofs.Resource.Acceptance

/-! Double buffering. A texture has a shadow if and only if some pass of some pipeline samples it and
renders into it. Every pass that renders into such a texture regenerates its framebuffer, whether or
not it is the pass that calls for the shadow, and the textures that it samples as well are swapped
with their shadows. -/
namespace RenderPlan

/-- The textures that are attached where a pass renders. The window attaches none. -/
inductive PassOutput.Attaches (has : String → ResourceKind → Prop) : PassOutput → List String → Prop
  | window : Attaches has .window []
  | framebuffer {name : String} {f : Framebuffer} (declared : has name (.framebuffer f)) :
      Attaches has (.framebuffer name) f.attachments

def RenderPass.sampled (pass : RenderPass) : List String := pass.textures.map TextureBinding.texture

/-- The emission of a pass that renders where `attached` is attached makes use of the shadows. -/
structure PassEmission.DoubleBuffered (shadows : List ShadowTarget) (attached : List String)
    (pass : RenderPass) (e : PassEmission) : Prop where
  regenerates : e.regenerateFramebuffer = true ↔
    ∃ t ∈ attached, t ∈ shadows.map ShadowTarget.texture
  swapped : e.swaps.map TextureSwap.texture = attached.filter (· ∈ pass.sampled)
  distinct : (e.swaps.map TextureSwap.texture).Nodup
  paired : ∀ s ∈ e.swaps, ⟨s.texture, s.shadow⟩ ∈ shadows

section Feedback
variable {g : ResourceGraph} {pass : RenderPass} {attached textures : List String} {t : String}
  {shadows : List ShadowTarget}

lemma RenderPass.feedback_eq (h : pass.output.Attaches g.Holds attached) :
    pass.feedback g = attached.filter (· ∈ pass.sampled) := by
  have hsampled (t : String) : pass.textures.any (·.texture = t) = decide (t ∈ pass.sampled) := by
    rw [Bool.eq_iff_iff]
    simp [sampled]
  simp only [feedback, hsampled]
  cases ho : pass.output with
  | window =>
    rw [ho] at h
    cases h
    simp [target?, ho]
  | framebuffer name =>
    rw [ho] at h
    cases h with
    | framebuffer declared =>
      obtain ⟨d, hd, hk⟩ := declared
      rw [target?_eq_some_iff.2 ⟨name, d, ho, hd, hk⟩]

/-- A texture is fed back if and only if the pass samples it and renders into it. -/
lemma RenderPass.mem_feedback_iff : t ∈ pass.feedback g ↔
    t ∈ pass.sampled ∧ ∃ attached, pass.output.Attaches g.Holds attached ∧ t ∈ attached := by
  constructor
  · intro ht
    obtain ⟨f, hf, hattached, hsampled⟩ := mem_feedback.1 ht
    obtain ⟨name, d, ho, hd, hk⟩ := target?_eq_some_iff.1 hf
    refine ⟨List.mem_map.2 hsampled, f.attachments, ?_, hattached⟩
    rw [ho]
    exact .framebuffer ⟨d, hd, hk⟩
  · rintro ⟨hsampled, attached, hattaches, hattached⟩
    rw [feedback_eq hattaches, List.mem_filter, decide_eq_true_eq]
    exact ⟨hattached, hsampled⟩

/-- No texture is attached twice. -/
lemma PassOutput.Attaches.nodup {o : PassOutput} (h : o.Attaches g.Holds attached) (hg : g.Coherent) :
    attached.Nodup := by
  cases h with
  | window => exact List.nodup_nil
  | framebuffer declared =>
    obtain ⟨d, hd, hk⟩ := declared
    have hcheck := hg.checked d (hg.get?_eq_some_iff.1 hd).1
    exact ((ResourceDecl.check_eq_ok_iff_wellFormed.1 hcheck).framebuffer _ hk).distinct

lemma ShadowTarget.Covers.isSome_of?_iff (h : Covers g textures shadows) :
    (of? shadows t).isSome = true ↔ t ∈ shadows.map texture := by
  rw [h.of?_eq, h.mem_iff]
  split <;> simp [*]

end Feedback

namespace PassContext
variable {c : PassContext} {pipeline : String} {pass : RenderPass} {p : ShaderProgram}
  {target : Option (String × Framebuffer)} {e : PassEmission} {reports : List Diagnostic}
  {textures : List String}

/-- Where each fed back texture has a shadow, all of them are swapped. -/
lemma map_texture_swaps (hc : ShadowTarget.Covers c.graph textures c.shadows)
    (h : pass.feedback c.graph ⊆ textures) :
    (c.swaps pass).map TextureSwap.texture = pass.feedback c.graph := by
  have hof : ∀ t ∈ pass.feedback c.graph,
      (ShadowTarget.of? c.shadows t).map (fun s => (⟨s.texture, s.name⟩ : TextureSwap)) =
        some ⟨t, (ShadowTarget.named t c.graph.names).name⟩ := by
    intro t ht
    rw [hc.of?_eq, if_pos (h ht)]
    rfl
  rw [swaps, List.filterMap_congr hof, List.filterMap_eq_map', List.map_map]
  exact List.map_id _

namespace Resolves

lemma attaches (h : c.Resolves pipeline pass p target e reports) :
    pass.output.Attaches c.graph.Holds (target.elim [] fun x => x.2.attachments) := by
  rcases output_eq_ok_iff.1 h.output with ⟨hw, rfl⟩ | ⟨name, f, hname, hold, rfl⟩
  · rw [hw]
    exact .window
  · rw [hname]
    exact .framebuffer hold

/-- A resolved pass makes use of the shadows if those of its own feedback are among them. -/
lemma doubleBuffered (h : c.Resolves pipeline pass p target e reports) (hg : c.graph.Coherent)
    (hc : ShadowTarget.Covers c.graph textures c.shadows) (hp : pass.feedback c.graph ⊆ textures) :
    e.DoubleBuffered c.shadows (target.elim [] fun x => x.2.attachments) pass := by
  have hfeedback := RenderPass.feedback_eq h.attaches
  have hswaps : e.swaps = c.swaps pass := congrArg PassEmission.swaps h.rest
  have hmap := map_texture_swaps hc hp
  constructor
  case regenerates =>
    rw [h.rest]
    simp only [List.any_eq_true, hc.isSome_of?_iff]
  case swapped => rw [hswaps, hmap, hfeedback]
  case distinct =>
    rw [hswaps, hmap, hfeedback]
    exact (h.attaches.nodup hg).filter _
  case paired =>
    intro s hs
    rw [hswaps] at hs
    obtain ⟨shadow, hshadow, -, rfl⟩ := mem_swaps hs
    exact hshadow

end Resolves
end PassContext

section Validation
variable {pipelines : List Pipeline} {g : ResourceGraph} {layouts : Layouts} {v : Validation}
  {rs : List ResolvedPipeline}

namespace Validation.ResolvedBy

lemma mem_shadows_iff (h : v.ResolvedBy pipelines g layouts rs) (t : String) :
    t ∈ v.shadows.map ShadowTarget.texture ↔
      ∃ passes ∈ rs.map ResolvedPipeline.source, ∃ pass ∈ passes, t ∈ pass.sampled ∧
        ∃ attached, pass.output.Attaches g.Holds attached ∧ t ∈ attached := by
  rw [h.covers.mem_iff, List.mem_flatMap]
  simp only [List.mem_flatMap, RenderPass.mem_feedback_iff]
  constructor
  · rintro ⟨pass, ⟨r, hr, hpass⟩, ht⟩
    exact ⟨r.source, List.mem_map_of_mem hr, pass, hpass, ht⟩
  · rintro ⟨passes, hpasses, pass, hpass, ht⟩
    obtain ⟨r, hr, rfl⟩ := List.mem_map.1 hpasses
    exact ⟨pass, ⟨r, hr, hpass⟩, ht⟩

/-- Each pass makes use of the shadows that all passes together call for. -/
lemma forall₂_doubleBuffered (h : v.ResolvedBy pipelines g layouts rs) (hg : g.Coherent)
    {r : ResolvedPipeline} (hr : r ∈ rs) :
    List.Forall₂ (fun pass e => e.output = pass.output ∧ ∃ attached,
      pass.output.Attaches g.Holds attached ∧ e.DoubleBuffered v.shadows attached pass)
      r.source r.passes := by
  -- what this pass feeds back is among what all passes feed back
  have hfeedback : ∀ pass ∈ r.source,
      pass.feedback g ⊆ (rs.flatMap ResolvedPipeline.source).flatMap (·.feedback g) :=
    fun pass hpass t ht => List.mem_flatMap.2 ⟨pass, List.mem_flatMap.2 ⟨r, hr, hpass⟩, ht⟩
  have hresolved := mapM_eq_ok_iff.1 (h.valid r hr).resolves
  rw [ResolvedPipeline.passes, List.forall₂_map_right_iff]
  refine ((List.forall₂_and_left _ _).2 ⟨hfeedback, hresolved⟩).imp fun pass x hx => ?_
  obtain ⟨p, target, hres⟩ := PassContext.resolvePass_eq_ok_iff.1 hx.2
  exact ⟨hres.runs.output, _, hres.attaches, hres.doubleBuffered hg h.covers hx.1⟩

end Validation.ResolvedBy

/-- There is one shadow for each texture that some pass samples and renders into, and its name is new.
Every emitted pass regenerates its framebuffer if and only if a texture with a shadow is attached, and
swaps the attachments that it samples, in their order. -/
theorem validate_double_buffers_feedback (decls : List ResourceDecl) (g : ResourceGraph)
    (hg : ResourceGraph.build decls = .ok g) (layouts : Layouts) (pipelines : List Pipeline)
    (v : Validation) (hv : validate pipelines g layouts = .ok v) :
    ∃ expanded, Pipeline.expandAll pipelines = .ok expanded ∧
      (∀ t, t ∈ v.shadows.map ShadowTarget.texture ↔
        ∃ passes ∈ expanded, ∃ pass ∈ passes, t ∈ pass.sampled ∧ ∃ attached,
          pass.output.Attaches (fun name kind => ⟨name, kind⟩ ∈ decls) attached ∧ t ∈ attached) ∧
      (v.shadows.map ShadowTarget.texture).Nodup ∧
      (v.shadows.map ShadowTarget.name).Nodup ∧
      (∀ s ∈ v.shadows, s.name ∉ decls.map ResourceDecl.name) ∧
      List.Forall₂ (List.Forall₂ fun pass e => e.output = pass.output ∧ ∃ attached,
          pass.output.Attaches (fun name kind => ⟨name, kind⟩ ∈ decls) attached ∧
            e.DoubleBuffered v.shadows attached pass)
        expanded (v.emissions.map (·.passes)) := by
  obtain ⟨rfl, hc, -⟩ := ResourceGraph.build_eq_ok_iff.1 hg
  rw [← hc.holds_eq]
  obtain ⟨-, hn, rs, h⟩ := validate_eq_ok_iff.1 hv
  refine ⟨rs.map ResolvedPipeline.source, (Pipeline.expandAll_eq_ok_iff hn).2 h.expands,
    h.mem_shadows_iff, h.covers.distinct, h.covers.distinct_names, fun s hs => h.covers.new_name hs, ?_⟩
  rw [h.map_passes, List.forall₂_map_left_iff, List.forall₂_map_right_iff, List.forall₂_same]
  exact fun r hr => h.forall₂_doubleBuffered hc hr

/-- Two framebuffers share a texture, and the first name for its shadow is taken. -/
def sketchResources : List ResourceDecl :=
  [.program "Stroke" ["Corners", "Shade"] [] 1, .stage "Corners" .vertex "",
    .stage "Shade" .fragment "", .framebuffer "Draft" ["Ink"] none,
    .framebuffer "Canvas" ["Paper", "Ink"] none, .texture "Paper" .rgba8Unorm (.fixed 64 64),
    .texture "Ink" .rgba8Unorm (.fixed 64 64), .texture "InkTarget" .rgba8Unorm (.fixed 8 8),
    ⟨"Smooth", .sampler {}⟩]

def sketchPipelines : List Pipeline :=
  [{ name := "Outline"
     passes := [{ RenderPass.draw "Lines" "Stroke" 6 with output := .framebuffer "Draft" }] },
    { name := "Finish"
      passes := [
        { RenderPass.draw "Blur" "Stroke" 3 with
          textures := [⟨"Ink", "Smooth"⟩], output := .framebuffer "Canvas" },
        { RenderPass.draw "Show" "Stroke" 3 with textures := [⟨"Ink", "Smooth"⟩] }] }]

/-- The outline is drawn into a texture that only the next pipeline samples and renders into, and its
framebuffer is regenerated all the same. -/
theorem validate_double_buffers_feedback_sketch :
    ∃ g v, ResourceGraph.build sketchResources = .ok g ∧ validate sketchPipelines g [] = .ok v ∧
      v.shadows = [⟨"Ink", "InkTarget1"⟩] ∧
      v.emissions.map (·.passes.map fun e => (e.regenerateFramebuffer, e.swaps)) =
        [[(true, [])], [(true, [⟨"Ink", "InkTarget1"⟩]), (false, [])]] ∧
      ∃ expanded, Pipeline.expandAll sketchPipelines = .ok expanded ∧
        (∃ passes ∈ expanded, ∃ pass ∈ passes, "Ink" ∈ pass.sampled ∧ ∃ attached,
          pass.output.Attaches (fun name kind => ⟨name, kind⟩ ∈ sketchResources) attached ∧
            "Ink" ∈ attached) ∧
        List.Forall₂ (List.Forall₂ fun pass e => e.output = pass.output ∧ ∃ attached,
            pass.output.Attaches (fun name kind => ⟨name, kind⟩ ∈ sketchResources) attached ∧
              e.DoubleBuffered v.shadows attached pass)
          expanded (v.emissions.map (·.passes)) := by
  obtain ⟨g, hg, hrun⟩ := exists_ok_of_toOption_map
    (show (ResourceGraph.build sketchResources).toOption.map (fun g => decide
      ((validate sketchPipelines g []).toOption.map (fun v => (v.shadows,
          v.emissions.map (·.passes.map fun e => (e.regenerateFramebuffer, e.swaps)))) =
        some ([⟨"Ink", "InkTarget1"⟩],
          [[(true, [])], [(true, [⟨"Ink", "InkTarget1"⟩]), (false, [])]]))) = some true by
      decide +kernel)
  have hrun := of_decide_eq_true hrun
  cases hv : validate sketchPipelines g [] with
  | error e =>
    rw [hv] at hrun
    cases hrun
  | ok v =>
    rw [hv] at hrun
    obtain ⟨hshadows, hpasses⟩ := Prod.ext_iff.1 (Option.some.inj hrun)
    obtain ⟨expanded, hexp, hmem, -, -, -, hbuffered⟩ :=
      validate_double_buffers_feedback sketchResources g hg [] sketchPipelines v hv
    refine ⟨g, v, hg, hv, hshadows, hpasses, expanded, hexp, (hmem "Ink").1 ?_, hbuffered⟩
    rw [show v.shadows = _ from hshadows]
    exact List.mem_singleton_self _

end Validation
end RenderPlan
