import RenderPlan.Proofs.Resource.Growth

/-! What a change of the window's size calls for. The flags kept with a graph and the plan for a new
size are made by separate code. They agree because the attachments of a checked framebuffer follow
the window together or not at all. -/
namespace RenderPlan

section Attachments
variable {find : ResourceLookup} {f : Framebuffer} {d : ResourceDecl} {texture other : String}

/-- One attachment that follows the window takes all others with it. -/
lemma ResourceDecl.relative_together (h : d.check find = .ok ()) (hk : d.kind = .framebuffer f)
    (ht : texture ∈ f.attachments) (hr : isRelativeTexture find texture = true)
    (ho : other ∈ f.attachments) : isRelativeTexture find other = true := by
  simp only [check, hk, Framebuffer.check_eq_ok_iff] at h
  obtain ⟨-, attached, ha, hc⟩ := h
  cases Framebuffer.attached_eq ha
  obtain ⟨isDepth, hslot⟩ := Framebuffer.exists_slot_of_mem ht
  obtain ⟨isDepth', hslot'⟩ := Framebuffer.exists_slot_of_mem ho
  rcases (Framebuffer.conflict?_eq_none_iff.1 hc).1 with hall | hnone
  · exact hall _ (List.mem_map_of_mem hslot')
  · cases hr.symm.trans (hnone _ (List.mem_map_of_mem hslot))

end Attachments

namespace ResizePlan
variable {p : ResizePlan} {i : ℕ}

@[simp] lemma getElem?_steps_recreate {t : TextureRecreate} :
    p.steps[i]? = some (.recreate t) ↔ p.textures[i]? = some t := by
  rw [steps, List.getElem?_append, List.length_map]
  split
  · simp
  · next h => simp [List.getElem?_eq_none (Nat.le_of_not_lt h)]

@[simp] lemma getElem?_steps_rebind {f : FramebufferRebind} : p.steps[i]? = some (.rebind f) ↔
    p.textures.length ≤ i ∧ p.framebuffers[i - p.textures.length]? = some f := by
  rw [steps, List.getElem?_append, List.length_map]
  split
  · next h => simp [Nat.not_le_of_lt h]
  · next h => simp [Nat.le_of_not_lt h]

@[simp]
lemma mem_steps_recreate {t : TextureRecreate} : .recreate t ∈ p.steps ↔ t ∈ p.textures := by
  simp [steps]

@[simp]
lemma mem_steps_rebind {f : FramebufferRebind} : .rebind f ∈ p.steps ↔ f ∈ p.framebuffers := by
  simp [steps]

@[simp] lemma map_name_steps (p : ResizePlan) : p.steps.map ResizeStep.name =
    p.textures.map TextureRecreate.name ++ p.framebuffers.map FramebufferRebind.name := by
  rw [steps, List.map_append, List.map_map, List.map_map]
  rfl

end ResizePlan

namespace Framebuffer
variable (f : Framebuffer)

@[simp] lemma map_texture_rebinds : f.rebinds.map AttachmentRebind.texture = f.attachments := by
  rw [rebinds, attachments, List.map_append, List.map_map, List.mapIdx_eq_zipIdx_map, List.map_map]
  congr 1
  · exact List.zipIdx_map_fst 0 f.color
  · exact List.map_id _

/-- The slots of the colour attachments are counted from zero, the depth slot comes last. -/
@[simp] lemma map_slot_rebinds : f.rebinds.map AttachmentRebind.slot =
    (List.range f.color.length).map .color ++ f.depth.toList.map fun _ => .depth := by
  rw [rebinds, List.map_append, List.map_map, List.mapIdx_eq_zipIdx_map, List.map_map,
    List.range_eq_range', ← List.zipIdx_map_snd 0 f.color, List.map_map]
  rfl

end Framebuffer

namespace ResourceGraph
variable {g : ResourceGraph} {d : ResourceDecl} {name : String} {width height : UInt32}
  {recreated : List String}

lemma recreate?_eq_some_iff {r : TextureRecreate} : recreate? width height d = some r ↔
    ∃ t x y, d.kind = .texture t ∧ t.size = some (.windowRelative x y) ∧
      r = ⟨d.name, t.format, t.mipLevels, t.clear,
        ((SizePolicy.windowRelative x y).resolve width height).1,
        ((SizePolicy.windowRelative x y).resolve width height).2⟩ := by
  rw [recreate?]
  cases hk : d.kind with
  | texture t =>
    obtain ⟨format, mipLevels, size, source, clear⟩ := t
    rcases size with _ | ⟨w, h⟩ | ⟨x, y⟩ <;> simp [eq_comm]
  | _ => simp

@[simp] lemma rebind?_eq_some_iff {r : FramebufferRebind} : rebind? recreated d = some r ↔
    ∃ f, d.kind = .framebuffer f ∧ (∃ t ∈ f.attachments, t ∈ recreated) ∧ r = ⟨d.name, f.rebinds⟩ := by
  rw [rebind?]
  cases hk : d.kind with
  | framebuffer f =>
    simp only [List.any_eq_true, decide_eq_true_eq, Option.ite_none_right_eq_some,
      Option.some.injEq, ResourceKind.framebuffer.injEq, exists_eq_left']
    exact and_congr_right fun _ => eq_comm
  | _ => simp

/-- Declarations that are picked and keep their names stay in order. -/
lemma sublist_names {α : Type} {pick : ResourceDecl → Option α} {key : α → String}
    (h : ∀ d r, pick d = some r → key r = d.name) (g : ResourceGraph) :
    ((g.decls.filterMap pick).map key).Sublist g.names := by
  rw [names, List.map_filterMap]
  have hpick : g.decls.filterMap (fun d => (pick d).map key) =
      (g.decls.filter fun d => (pick d).isSome).map ResourceDecl.name := by
    rw [← List.filterMap_eq_map, List.filterMap_filter]
    apply List.filterMap_congr
    intro d _
    cases hd : pick d with
    | none => rfl
    | some r => simp [h d r hd]
  rw [hpick]
  exact List.filter_sublist.map _

/-- A texture is recreated if the graph knows it as one that follows the window. -/
lemma Indexed.mem_recreated_iff (h : g.Indexed) :
    name ∈ (g.planResize width height).textures.map TextureRecreate.name ↔
      ResourceDecl.isRelativeTexture g.get? name = true := by
  rw [h.isRelativeTexture_iff]
  simp only [planResize, List.mem_map, List.mem_filterMap, recreate?_eq_some_iff]
  constructor
  · rintro ⟨r, ⟨d, hd, t, x, y, hk, hs, rfl⟩, rfl⟩
    exact ⟨d, hd, rfl, t, hk, x, y, hs⟩
  · rintro ⟨d, hd, rfl, t, hk, x, y, hs⟩
    exact ⟨_, ⟨d, hd, t, x, y, hk, hs, rfl⟩, rfl⟩

/-- A framebuffer is bound again if it attaches a texture that follows the window. -/
lemma Indexed.mem_framebuffers_iff (h : g.Indexed) {r : FramebufferRebind} :
    r ∈ (g.planResize width height).framebuffers ↔
      ∃ d ∈ g.decls, ∃ f, d.kind = .framebuffer f ∧ d.isWindowRelative g.get? = true ∧
        r = ⟨d.name, f.rebinds⟩ := by
  change r ∈ g.decls.filterMap
    (rebind? ((g.planResize width height).textures.map TextureRecreate.name)) ↔ _
  rw [List.mem_filterMap]
  refine exists_congr fun d => and_congr_right fun _ => ?_
  rw [rebind?_eq_some_iff]
  refine exists_congr fun f => and_congr_right fun hk => and_congr_left fun _ => ?_
  simp only [ResourceDecl.isWindowRelative, hk, List.any_eq_true, h.mem_recreated_iff]

/-- The steps of a plan are for the resources that follow the window. -/
lemma Indexed.mem_steps_iff (h : g.Indexed) :
    name ∈ (g.planResize width height).steps.map ResizeStep.name ↔
      ∃ d ∈ g.decls, d.name = name ∧ d.isWindowRelative g.get? = true := by
  rw [ResizePlan.map_name_steps, List.mem_append, h.mem_recreated_iff, h.isRelativeTexture_iff,
    List.mem_map]
  constructor
  · rintro (⟨d, hd, rfl, t, hk, ht⟩ | ⟨r, hr, rfl⟩)
    · exact ⟨d, hd, rfl, (h.isWindowRelative_iff d).2 (.inl ⟨t, hk, ht⟩)⟩
    · obtain ⟨d, hd, f, -, hw, rfl⟩ := h.mem_framebuffers_iff.1 hr
      exact ⟨d, hd, rfl, hw⟩
  · rintro ⟨d, hd, rfl, hw⟩
    rcases (h.isWindowRelative_iff d).1 hw with ⟨t, hk, ht⟩ | ⟨f, hk, -⟩
    · exact .inl ⟨d, hd, rfl, t, hk, ht⟩
    · exact .inr ⟨_, h.mem_framebuffers_iff.2 ⟨d, hd, f, hk, hw, rfl⟩, rfl⟩

lemma Coherent.mem_affected_iff (h : g.Coherent) :
    name ∈ g.affected ↔ ∃ d ∈ g.decls, d.name = name ∧ d.isWindowRelative g.get? = true := by
  rw [affected, List.mem_mergeSort, h.flags_eq, ← List.map_prod_left_eq_zip]
  simp only [List.mem_map, List.mem_filter]
  constructor
  · rintro ⟨_, ⟨⟨d, hd, rfl⟩, hw⟩, rfl⟩
    exact ⟨d, hd, rfl, hw⟩
  · rintro ⟨d, hd, rfl, hw⟩
    exact ⟨_, ⟨⟨d, hd, rfl⟩, hw⟩, rfl⟩

lemma Coherent.isWindowRelative_eq_true_iff (h : g.Coherent) : g.isWindowRelative name = true ↔
    ∃ d ∈ g.decls, d.name = name ∧ d.isWindowRelative g.get? = true := by
  rw [isWindowRelative, h.flags_eq]
  cases hp : g.position? name with
  | none =>
    simp only [Bool.false_eq_true, false_iff]
    rintro ⟨d, hd, rfl, -⟩
    have hsome := h.isSome_position?_iff.2 (List.mem_map_of_mem hd)
    rw [hp] at hsome
    cases hsome
  | some i =>
    obtain ⟨d, hd, hn⟩ : ∃ d, g.decls[i]? = some d ∧ d.name = name := by
      simpa [names] using h.position?_eq_some_iff.1 hp
    have hmem := List.mem_of_getElem? hd
    simp only [List.getElem?_map, hd, Option.map_some, Option.getD_some]
    constructor
    · intro hw
      exact ⟨d, hmem, hn, hw⟩
    · rintro ⟨e, he, hen, hw⟩
      rwa [← List.inj_on_of_nodup_map h.distinct he hmem (hen.trans hn.symm)]

lemma sublist_textures (g : ResourceGraph) (width height : UInt32) :
    ((g.planResize width height).textures.map TextureRecreate.name).Sublist g.names := by
  refine sublist_names (fun d r hr => ?_) g
  obtain ⟨t, x, y, -, -, rfl⟩ := recreate?_eq_some_iff.1 hr
  rfl

lemma sublist_framebuffers (g : ResourceGraph) (width height : UInt32) :
    ((g.planResize width height).framebuffers.map FramebufferRebind.name).Sublist g.names := by
  refine sublist_names (fun d r hr => ?_) g
  obtain ⟨f, -, -, rfl⟩ := rebind?_eq_some_iff.1 hr
  rfl

/-- A name stands for one resource, so no step repeats another one. -/
lemma Indexed.nodup_steps (h : g.Indexed) (width height : UInt32) :
    ((g.planResize width height).steps.map ResizeStep.name).Nodup := by
  rw [ResizePlan.map_name_steps]
  refine List.Nodup.append ((sublist_textures g width height).nodup h.distinct)
    ((sublist_framebuffers g width height).nodup h.distinct) fun name ht hf => ?_
  obtain ⟨d, hd, hn, t, hk, -⟩ := (h.isRelativeTexture_iff name).1 (h.mem_recreated_iff.1 ht)
  obtain ⟨r, hr, rfl⟩ := List.mem_map.1 hf
  obtain ⟨e, he, f, hk', -, rfl⟩ := h.mem_framebuffers_iff.1 hr
  cases List.inj_on_of_nodup_map h.distinct hd he hn
  rw [hk] at hk'
  cases hk'

/-- The textures of a framebuffer that is bound again are all recreated. -/
lemma Coherent.recreated_of_rebound (h : g.Coherent) {r : FramebufferRebind}
    (hr : r ∈ (g.planResize width height).framebuffers) {a : AttachmentRebind}
    (ha : a ∈ r.attachments) :
    a.texture ∈ (g.planResize width height).textures.map TextureRecreate.name := by
  obtain ⟨d, hd, f, hk, hw, rfl⟩ := h.mem_framebuffers_iff.1 hr
  simp only [ResourceDecl.isWindowRelative, hk, List.any_eq_true] at hw
  obtain ⟨texture, ht, hrel⟩ := hw
  have hattached : a.texture ∈ f.attachments := by
    rw [← f.map_texture_rebinds]
    exact List.mem_map_of_mem ha
  exact h.mem_recreated_iff.2
    (ResourceDecl.relative_together (h.checked d hd) hk ht hrel hattached)

end ResourceGraph

/-- The plan makes everything that follows the window fit its new size. -/
structure ResizePlan.Refits (g : ResourceGraph) (width height : UInt32) (p : ResizePlan) : Prop where
  once : (p.steps.map ResizeStep.name).Nodup
  affected : ∀ name, name ∈ p.steps.map ResizeStep.name ↔ name ∈ g.affected
  flagged : ∀ name, name ∈ g.affected ↔ g.isWindowRelative name = true
  recreated_first : ∀ (i j : ℕ) (t : TextureRecreate) (f : FramebufferRebind),
    p.steps[i]? = some (.recreate t) → p.steps[j]? = some (.rebind f) → i < j
  textures_ordered : (p.textures.map TextureRecreate.name).Sublist g.names
  framebuffers_ordered : (p.framebuffers.map FramebufferRebind.name).Sublist g.names
  recreates : ∀ r, .recreate r ∈ p.steps → ∃ d ∈ g.decls, ∃ t policy, d.name = r.name ∧
    d.kind = .texture t ∧ t.size = some policy ∧ policy.isWindowRelative = true ∧
    r.format = t.format ∧ r.mipLevels = t.mipLevels ∧ r.clear = t.clear ∧
    (r.width, r.height) = policy.resolve width height
  rebinds : ∀ r, .rebind r ∈ p.steps → ∃ d ∈ g.decls, ∃ f, d.name = r.name ∧
    d.kind = .framebuffer f ∧ r.attachments.map AttachmentRebind.texture = f.attachments ∧
    r.attachments.map AttachmentRebind.slot =
      (List.range f.color.length).map .color ++ f.depth.toList.map fun _ => .depth
  recreated : ∀ (j : ℕ) (r : FramebufferRebind), p.steps[j]? = some (.rebind r) →
    ∀ a ∈ r.attachments, ∃ i t, i < j ∧ p.steps[i]? = some (.recreate t) ∧ t.name = a.texture

namespace ResourceGraph

/-- However many shadows a graph has taken in, its plan for any window touches what the flags say,
once each and in the right order, and leaves no framebuffer with an old texture. -/
theorem planResize_refits (decls : List ResourceDecl) (start : ResourceGraph)
    (h : build decls = .ok start) (shadows : List ShadowTarget) (width height : UInt32) :
    ((start.afterShadows shadows).planResize width height).Refits (start.afterShadows shadows) width
      height := by
  have hg : (start.afterShadows shadows).Coherent := ((build_eq_ok_iff.1 h).2.1).afterShadows shadows
  refine ⟨hg.nodup_steps width height, fun name => ?_, fun name => ?_, fun i j t f hi hj => ?_,
    sublist_textures _ width height, sublist_framebuffers _ width height, fun r hr => ?_,
    fun r hr => ?_, fun j r hr a ha => ?_⟩
  · rw [hg.mem_steps_iff, hg.mem_affected_iff]
  · rw [hg.mem_affected_iff, hg.isWindowRelative_eq_true_iff]
  · have hlt := (List.getElem?_eq_some_iff.1 (ResizePlan.getElem?_steps_recreate.1 hi)).1
    exact Nat.lt_of_lt_of_le hlt (ResizePlan.getElem?_steps_rebind.1 hj).1
  · obtain ⟨d, hd, hr⟩ := List.mem_filterMap.1 (ResizePlan.mem_steps_recreate.1 hr)
    obtain ⟨t, x, y, hk, hs, rfl⟩ := recreate?_eq_some_iff.1 hr
    exact ⟨d, hd, t, .windowRelative x y, rfl, hk, hs, rfl, rfl, rfl, rfl, rfl⟩
  · obtain ⟨d, hd, f, hk, -, rfl⟩ := hg.mem_framebuffers_iff.1 (ResizePlan.mem_steps_rebind.1 hr)
    exact ⟨d, hd, f, rfl, hk, f.map_texture_rebinds, f.map_slot_rebinds⟩
  · have hmem := ResizePlan.mem_steps_rebind.1 (List.mem_of_getElem? hr)
    obtain ⟨t, ht, hname⟩ := List.mem_map.1 (hg.recreated_of_rebound hmem ha)
    obtain ⟨i, hi⟩ := List.mem_iff_getElem?.1 ht
    refine ⟨i, t, ?_, ResizePlan.getElem?_steps_recreate.2 hi, hname⟩
    exact Nat.lt_of_lt_of_le (List.getElem?_eq_some_iff.1 hi).1
      (ResizePlan.getElem?_steps_rebind.1 hr).1

/-- The mirror and its shadow are made anew before the frame, which is declared first. -/
theorem planResize_refits_mirror :
    build mirrorDecls = .ok mirrorGraph ∧
    let g := mirrorGraph.afterShadows [⟨"Mirror", "MirrorTarget"⟩]
    (g.planResize 800 600).steps.map ResizeStep.name = ["Mirror", "MirrorTarget", "Frame"] ∧
      (g.planResize 800 600).Refits g 800 600 := by
  have hb : build mirrorDecls = .ok mirrorGraph := by decide +kernel
  exact ⟨hb, by decide +kernel, planResize_refits mirrorDecls mirrorGraph hb _ 800 600⟩

end ResourceGraph
end RenderPlan
