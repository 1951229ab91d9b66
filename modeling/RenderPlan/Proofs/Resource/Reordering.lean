import RenderPlan.Proofs.Resource.Growth

/-! The same resources declared in another order. They are accepted alike, the same is found under
each name, and a change of the window's size calls for the same work. -/
namespace RenderPlan.ResourceGraph
variable {g g' : ResourceGraph} {decls decls' : List ResourceDecl} {shadows shadows' : List ShadowTarget}

lemma Indexed.get?_eq_of_perm (h : g.Indexed) (h' : g'.Indexed) (hd : g.decls.Perm g'.decls) :
    g.get? = g'.get? := by
  funext name
  ext d
  rw [h.get?_eq_some_iff, h'.get?_eq_some_iff, hd.mem_iff]

lemma Coherent.exists_reordered (h : g.Coherent) (hd : g.decls.Perm decls') :
    ∃ g' : ResourceGraph, g'.decls = decls' ∧ g'.Coherent := by
  have hi : (indexed decls').Indexed := ⟨(hd.map ResourceDecl.name).nodup h.distinct, rfl⟩
  have hget : g.get? = (indexed decls').get? := h.get?_eq_of_perm hi hd
  refine ⟨{ indexed decls' with
    windowRelative := decls'.map (ResourceDecl.isWindowRelative (indexed decls').get?) }, rfl,
    ⟨hi.distinct, hi.index_eq⟩, rfl, fun d hmem => ?_⟩
  change d.check (indexed decls').get? = .ok ()
  rw [← hget]
  exact h.checked d (hd.mem_iff.2 hmem)

lemma build_reordered (h : build decls = .ok g) (hd : decls.Perm decls') :
    ∃ g', build decls' = .ok g' ∧ g.decls.Perm g'.decls := by
  obtain ⟨rfl, hg, hident⟩ := build_eq_ok_iff.1 h
  obtain ⟨g', rfl, hg'⟩ := hg.exists_reordered hd
  refine ⟨g', build_eq_ok_iff.2 ⟨rfl, hg', fun n hn => hident n ?_⟩, hd⟩
  exact (hd.map ResourceDecl.name).mem_iff.2 hn

lemma copies_perm (hget : g.get? = g'.get?) (hs : shadows.Perm shadows') :
    (g.copies shadows).Perm (g'.copies shadows') := by
  rw [copies, copies, hget]
  exact hs.filterMap _

/-- A framebuffer is bound again because of which textures are recreated, not in which order. -/
lemma rebind?_congr {recreated recreated' : List String} (h : ∀ n, n ∈ recreated ↔ n ∈ recreated')
    (d : ResourceDecl) : rebind? recreated d = rebind? recreated' d := by
  cases hk : d.kind <;> simp [rebind?, hk, h]

lemma planResize_textures_perm (hd : g.decls.Perm g'.decls) (width height : UInt32) :
    (g.planResize width height).textures.Perm (g'.planResize width height).textures :=
  hd.filterMap _

lemma planResize_framebuffers_perm (hd : g.decls.Perm g'.decls) (width height : UInt32) :
    (g.planResize width height).framebuffers.Perm (g'.planResize width height).framebuffers := by
  have hnames := (hd.filterMap (recreate? width height)).map TextureRecreate.name
  have hrebind := funext (rebind?_congr fun n => hnames.mem_iff (a := n))
  change (g.decls.filterMap (rebind? _)).Perm (g'.decls.filterMap (rebind? _))
  rw [hrebind]
  exact hd.filterMap _

end RenderPlan.ResourceGraph
