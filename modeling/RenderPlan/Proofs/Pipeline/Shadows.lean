import RenderPlan.Pipeline.Validation
import RenderPlan.Proofs.Resource.Growth
import RenderPlan.Proofs.Resource.ShadowName

/-! The shadows that passes call for: one for each texture that some pass samples and renders into.
Since textures do not compete for names, each shadow has the name that the declared resources leave
to it, whatever the order of the passes, and a graph grants all of them. -/
namespace RenderPlan
variable {g : ResourceGraph} {pass : RenderPass} {t : String}

@[simp] lemma RenderPass.target?_eq_some_iff {f : Framebuffer} : pass.target? g = some f ↔
    ∃ name d, pass.output = .framebuffer name ∧ g.get? name = some d ∧ d.kind = .framebuffer f := by
  rw [RenderPass.target?]
  cases pass.output with
  | window => simp
  | framebuffer name =>
    cases hd : g.get? name with
    | none => simp [hd]
    | some d => cases hk : d.kind <;> simp [hd, hk]

lemma RenderPass.mem_feedback : t ∈ pass.feedback g ↔
    ∃ f, pass.target? g = some f ∧ t ∈ f.attachments ∧ ∃ b ∈ pass.textures, b.texture = t := by
  rw [RenderPass.feedback]
  cases pass.target? g with
  | none => simp
  | some f => simp

/-- The feedback of a pass depends on what is found under each name. -/
lemma RenderPass.feedback_congr {g' : ResourceGraph} (h : g.get? = g'.get?) (pass : RenderPass) :
    pass.feedback g = pass.feedback g' := by
  simp only [RenderPass.feedback, RenderPass.target?, h]

lemma ResourceGraph.Coherent.texture_of_mem_feedback (h : g.Coherent) (ht : t ∈ pass.feedback g) :
    ∃ d, g.get? t = some d ∧ d.resourceClass = .texture := by
  obtain ⟨f, hf, hatt, -⟩ := RenderPass.mem_feedback.1 ht
  obtain ⟨name, d, -, hd, hk⟩ := RenderPass.target?_eq_some_iff.1 hf
  have hmem := (h.get?_eq_some_iff.1 hd).1
  obtain ⟨e, tex, he, htex⟩ := ResourceDecl.exists_attachment (h.checked d hmem) hk hatt
  exact ⟨e, he, by rw [ResourceDecl.resourceClass, htex]; rfl⟩

namespace ShadowTarget
variable {g' : ResourceGraph} {textures textures' : List String}
  {shadows shadows' : List ShadowTarget}

/-- One shadow for each of the textures, under the name that the resources leave to it. -/
structure Covers (g : ResourceGraph) (textures : List String) (shadows : List ShadowTarget) :
    Prop where
  eq_named : ∀ s ∈ shadows, s = named s.texture g.names
  distinct : (shadows.map texture).Nodup
  mem_iff : ∀ t, t ∈ shadows.map texture ↔ t ∈ textures

namespace Covers

lemma nil (g : ResourceGraph) : Covers g [] [] := ⟨by simp, by simp, by simp⟩

/-- The shadows so far block no candidate of another texture. -/
lemma named_eq (h : Covers g textures shadows) (ht : t ∉ textures) :
    named t (g.names ++ shadows.map name) = named t g.names := by
  apply named_congr
  intro i
  rw [List.mem_append, or_iff_left]
  intro hi
  obtain ⟨s, hs, hname⟩ := List.mem_map.1 hi
  have hcand : candidate s.texture (rejected s.texture g.names) = candidate t i := by
    rw [← hname, h.eq_named s hs]
    rfl
  obtain ⟨rfl, -⟩ := candidate_inj hcand
  exact ht ((h.mem_iff _).1 (List.mem_map_of_mem hs))

lemma addFor (h : Covers g textures shadows) (t : String) :
    Covers g (textures ++ [t]) (ShadowTarget.addFor g shadows t) := by
  have hany : (shadows.any (·.texture = t)) = true ↔ t ∈ textures := by
    rw [← h.mem_iff]
    simp [List.any_eq_true]
  rw [ShadowTarget.addFor]
  by_cases ht : t ∈ textures
  · rw [if_pos (hany.2 ht)]
    refine ⟨h.eq_named, h.distinct, fun u => ?_⟩
    rw [h.mem_iff, List.mem_append, List.mem_singleton, or_iff_left_of_imp]
    rintro rfl
    exact ht
  · rw [if_neg fun ha => ht (hany.1 ha), h.named_eq ht]
    refine ⟨?_, ?_, fun u => ?_⟩
    · intro s hs
      rcases List.mem_append.1 hs with hs | hs
      · exact h.eq_named s hs
      · rw [List.mem_singleton.1 hs]
        rfl
    · rw [List.map_append, List.map_singleton, ← List.concat_eq_append]
      exact h.distinct.concat fun hm => ht ((h.mem_iff _).1 hm)
    · rw [List.map_append, List.mem_append, List.mem_append, h.mem_iff]
      rfl

lemma foldl_addFor (h : Covers g textures shadows) (more : List String) :
    Covers g (textures ++ more) (more.foldl (ShadowTarget.addFor g) shadows) := by
  induction more generalizing textures shadows with
  | nil => simpa using h
  | cons t more ih => simpa using ih (h.addFor t)

lemma of?_eq (h : Covers g textures shadows) (t : String) :
    of? shadows t = if t ∈ textures then some (named t g.names) else none := by
  by_cases ht : t ∈ textures
  · rw [if_pos ht]
    obtain ⟨s, hs, rfl⟩ := List.mem_map.1 ((h.mem_iff t).2 ht)
    cases hf : of? shadows s.texture with
    | none =>
      rw [of?, List.find?_eq_none] at hf
      exact (hf s hs (by simp)).elim
    | some s' =>
      have htex : s'.texture = s.texture := by simpa using List.find?_some hf
      rw [h.eq_named s' (List.mem_of_find?_eq_some hf), htex]
  · rw [if_neg ht, of?, List.find?_eq_none]
    intro s hs hst
    rw [decide_eq_true_eq] at hst
    exact ht ((h.mem_iff t).1 (List.mem_map.2 ⟨s, hs, hst⟩))

lemma mem_shadows_iff (h : Covers g textures shadows) {s : ShadowTarget} :
    s ∈ shadows ↔ s.texture ∈ textures ∧ s = named s.texture g.names := by
  constructor
  · intro hs
    exact ⟨(h.mem_iff _).1 (List.mem_map_of_mem hs), h.eq_named s hs⟩
  · rintro ⟨ht, hs⟩
    obtain ⟨s', hs', htex⟩ := List.mem_map.1 ((h.mem_iff _).2 ht)
    rw [hs, ← htex, ← h.eq_named s' hs']
    exact hs'

/-- Neither the order of the textures nor that of the resources matters. -/
lemma perm (h : Covers g textures shadows) (h' : Covers g' textures' shadows')
    (hn : ∀ n, n ∈ g.names ↔ n ∈ g'.names) (ht : ∀ t, t ∈ textures ↔ t ∈ textures') :
    shadows.Perm shadows' := by
  rw [List.perm_ext_iff_of_nodup h.distinct.of_map h'.distinct.of_map]
  intro s
  rw [h.mem_shadows_iff, h'.mem_shadows_iff, ht, named_congr fun i => hn _]

lemma of?_congr (h : Covers g textures shadows) (h' : Covers g' textures' shadows')
    (hn : ∀ n, n ∈ g.names ↔ n ∈ g'.names) (ht : ∀ t, t ∈ textures ↔ t ∈ textures') (t : String) :
    of? shadows t = of? shadows' t := by
  rw [h.of?_eq, h'.of?_eq, named_congr fun i => hn _]
  simp only [ht]

lemma new_name (h : Covers g textures shadows) {s : ShadowTarget} (hs : s ∈ shadows) :
    s.name ∉ g.names := by
  rw [h.eq_named s hs]
  exact name_named_not_mem _ _

lemma distinct_names (h : Covers g textures shadows) : (shadows.map name).Nodup := by
  have hpair := List.pairwise_map.1 h.distinct
  rw [List.Nodup, List.pairwise_map]
  refine hpair.imp_of_mem fun {s s'} hs hs' hne hname => hne ?_
  rw [h.eq_named s hs, h.eq_named s' hs'] at hname
  exact (candidate_inj hname).1

end Covers

lemma covers_ofPasses (g : ResourceGraph) (passes : List RenderPass) :
    Covers g (passes.flatMap (·.feedback g)) (ofPasses g passes) :=
  (Covers.nil g).foldl_addFor _

/-- The shadows that passes call for are all granted. -/
lemma exists_addShadows_ofPasses (h : g.Coherent) (passes : List RenderPass) :
    ∃ g', (ofPasses g passes).forM ResourceGraph.addShadow g = .ok () g' ∧ g'.Coherent ∧
      g'.decls = g.decls ++ g.copies (ofPasses g passes) := by
  have hc := covers_ofPasses g passes
  refine h.exists_addShadows hc.distinct_names (fun s hs => hc.new_name hs) fun s hs => ?_
  obtain ⟨pass, -, ht⟩ := List.mem_flatMap.1 ((hc.mem_iff _).1 (List.mem_map_of_mem hs))
  exact h.texture_of_mem_feedback ht

end ShadowTarget
end RenderPlan
