import RenderPlan.Proofs.Number.Value
import RenderPlan.Proofs.Resource.Growth
import RenderPlan.Proofs.Text.Scanning

/-! Which declarations can be built. The rules are stated over the list of declarations alone, without
the order in which they are checked: what has to hold of each texture, of the textures that a
framebuffer attaches and of the stages that a program links. -/
namespace RenderPlan
open Text

/-- A texture is sized either by a policy or by an image. Its extents are not empty. -/
@[mk_iff] structure Texture.WellFormed (t : Texture) : Prop where
  mipLevels : 1 ≤ t.mipLevels
  sizeOrSource : t.size ≠ none ↔ t.source = none
  image : t.source ≠ none → t.format = .rgba8Unorm
  fixed : ∀ w h, t.size = some (.fixed w h) → w ≠ 0 ∧ h ≠ 0
  scaled : ∀ x y, t.size = some (.windowRelative x y) →
    (x.isFinite = true ∧ 0 < x.value) ∧ (y.isFinite = true ∧ 0 < y.value)

/-- Distinct textures in slots for their formats, which follow the window together or not at all and as
the declared size says. -/
structure Framebuffer.WellFormed (has : String → ResourceKind → Prop) (f : Framebuffer) : Prop where
  attached : f.attachments ≠ []
  distinct : f.attachments.Nodup
  color : ∀ name ∈ f.color, ∃ t, has name (.texture t) ∧ t.format.isDepth = false
  depth : ∀ name ∈ f.depth, ∃ t, has name (.texture t) ∧ t.format.isDepth = true
  together : (∀ name ∈ f.attachments, ResourceDecl.RelativeTexture has name) ∨
    ∀ name ∈ f.attachments, ¬ ResourceDecl.RelativeTexture has name
  fixed : ∀ w h, f.size = some (.fixed w h) →
    ∀ name ∈ f.attachments, ¬ ResourceDecl.RelativeTexture has name
  relative : ∀ x y, f.size = some (.windowRelative x y) →
    ∃ name ∈ f.attachments, ResourceDecl.RelativeTexture has name

/-- The name stands for a shader stage of the given kind. -/
def ResourceDecl.StageOfKind (has : String → ResourceKind → Prop) (name : String) (kind : StageKind) :
    Prop :=
  ∃ s, has name (.shaderStage s) ∧ s.stage = kind

/-- A single compute stage, or stages of the other kinds with one for the vertices among them. -/
structure ShaderProgram.WellFormed (has : String → ResourceKind → Prop) (p : ShaderProgram) :
    Prop where
  linked : p.stages ≠ []
  declared : ∀ name ∈ p.stages, ∃ s, has name (.shaderStage s)
  kinds : (∃ name, p.stages = [name] ∧ ResourceDecl.StageOfKind has name .compute) ∨
    (∀ name ∈ p.stages, ¬ ResourceDecl.StageOfKind has name .compute) ∧
      ∃ name ∈ p.stages, ResourceDecl.StageOfKind has name .vertex

/-- The rules on one declaration among the others. -/
@[mk_iff] structure ResourceDecl.WellFormed (has : String → ResourceKind → Prop) (d : ResourceDecl) :
    Prop where
  texture : ∀ t, d.kind = .texture t → t.WellFormed
  framebuffer : ∀ f, d.kind = .framebuffer f → f.WellFormed has
  program : ∀ p, d.kind = .shaderProgram p → p.WellFormed has

@[simp] lemma Texture.defect?_eq_none_iff (t : Texture) : t.defect? = none ↔ t.WellFormed := by
  have hmip : 1 ≤ t.mipLevels ↔ ¬ t.mipLevels = 0 := by
    rw [UInt32.le_iff_toNat_le, ← UInt32.toNat_inj]
    exact Nat.one_le_iff_ne_zero
  rw [wellFormed_iff, defect?, hmip]
  by_cases hm : t.mipLevels = 0
  · simp [hm]
  · rw [if_neg hm]
    rcases t.size with _ | ⟨w, h⟩ | ⟨x, y⟩ <;> cases t.source <;>
      simp [hm, and_assoc]

variable {g : ResourceGraph} {name : String} {seen : List String} {slots : List (String × Bool)}
  {f : Framebuffer} {p : ShaderProgram} {kinds : List StageKind}

namespace Framebuffer

@[simp] lemma map_fst_slots (f : Framebuffer) : f.slots.map Prod.fst = f.attachments := by
  rw [slots, attachments, List.map_append, List.map_map, List.map_map]
  exact congrArg₂ _ (List.map_id _) (List.map_id _)

/-- The slots hold distinct textures of the right formats, none of which was seen before. -/
lemma exists_checkSlots_iff : (∃ attached, checkSlots g.get? name seen slots = .ok attached) ↔
    (∀ slot ∈ slots, slot.1 ∉ seen) ∧ (slots.map Prod.fst).Nodup ∧
      ∀ slot ∈ slots, ∃ t, g.Holds slot.1 (.texture t) ∧ t.format.isDepth = slot.2 := by
  induction slots generalizing seen with
  | nil => exact iff_of_true ⟨[], rfl⟩ ⟨by simp, by simp, by simp⟩
  | cons slot slots ih =>
    obtain ⟨texture, isDepthSlot⟩ := slot
    simp only [List.forall_mem_cons, List.map_cons, List.nodup_cons, checkSlots_cons_eq_ok_iff]
    constructor
    · rintro ⟨attached, hseen, d, t, hd, hk, hdepth, rest, hrest, -⟩
      obtain ⟨hnew, hdistinct, htextures⟩ := ih.1 ⟨rest, hrest⟩
      refine ⟨⟨hseen, fun slot hslot => ?_⟩, ⟨fun hmem => ?_, hdistinct⟩, ⟨t, ⟨d, hd, hk⟩, hdepth⟩,
        htextures⟩
      · exact fun hold => hnew slot hslot (List.mem_cons_of_mem _ hold)
      · obtain ⟨slot, hslot, rfl⟩ := List.mem_map.1 hmem
        exact hnew slot hslot List.mem_cons_self
    · rintro ⟨⟨hseen, hnew⟩, ⟨hrepeat, hdistinct⟩, ⟨t, ⟨d, hd, hk⟩, hdepth⟩, htextures⟩
      have hnew' : ∀ slot ∈ slots, slot.1 ∉ texture :: seen := by
        intro slot hslot hmem
        rcases List.mem_cons.1 hmem with hsame | hmem
        · exact hrepeat (List.mem_map.2 ⟨slot, hslot, hsame⟩)
        · exact hnew slot hslot hmem
      obtain ⟨rest, hrest⟩ := ih.2 ⟨hnew', hdistinct, htextures⟩
      exact ⟨_, hseen, d, t, hd, hk, hdepth, rest, hrest, rfl⟩

lemma forall_slots_iff {has : String → ResourceKind → Prop} :
    (∀ slot ∈ f.slots, ∃ t, has slot.1 (.texture t) ∧ t.format.isDepth = slot.2) ↔
      (∀ name ∈ f.color, ∃ t, has name (.texture t) ∧ t.format.isDepth = false) ∧
        ∀ name ∈ f.depth, ∃ t, has name (.texture t) ∧ t.format.isDepth = true := by
  simp only [slots, List.forall_mem_append, List.forall_mem_map, Option.mem_toList, Option.mem_def]

/-- Whether the attachments conflict depends on which of them follow the window. -/
lemma conflict?_attachments_eq_none_iff :
    f.conflict? (f.slots.map fun slot => (slot.1, ResourceDecl.isRelativeTexture g.get? slot.1)) = none ↔
      ((∀ name ∈ f.attachments, ResourceDecl.RelativeTexture g.Holds name) ∨
        ∀ name ∈ f.attachments, ¬ ResourceDecl.RelativeTexture g.Holds name) ∧
      (∀ w h, f.size = some (.fixed w h) →
        ∀ name ∈ f.attachments, ¬ ResourceDecl.RelativeTexture g.Holds name) ∧
      ∀ x y, f.size = some (.windowRelative x y) →
        ∃ name ∈ f.attachments, ResourceDecl.RelativeTexture g.Holds name := by
  have hexists : (∃ a ∈ f.attachments.map fun name => (name, ResourceDecl.isRelativeTexture g.get? name),
      a.2 = true) ↔ ∃ name ∈ f.attachments, ResourceDecl.RelativeTexture g.Holds name := by
    simp
  have hmap : (f.slots.map fun slot => (slot.1, ResourceDecl.isRelativeTexture g.get? slot.1)) =
      f.attachments.map fun name => (name, ResourceDecl.isRelativeTexture g.get? name) := by
    rw [← map_fst_slots, List.map_map]
    rfl
  rw [hmap, conflict?_eq_none_iff, hexists]
  simp only [List.forall_mem_map, ← Bool.not_eq_true, g.isRelativeTexture_iff]

@[simp] lemma check_eq_ok_iff_wellFormed : f.check g.get? name = .ok () ↔ f.WellFormed g.Holds := by
  have hslots : f.slots ≠ [] ↔ f.attachments ≠ [] := by
    rw [← map_fst_slots, ne_eq, ne_eq, List.map_eq_nil_iff]
  rw [check_eq_ok_iff, hslots]
  constructor
  · rintro ⟨hne, attached, hattached, hconflict⟩
    obtain ⟨-, hdistinct, htextures⟩ := exists_checkSlots_iff.1 ⟨attached, hattached⟩
    obtain ⟨hcolor, hdepth⟩ := forall_slots_iff.1 htextures
    rw [attached_eq hattached, conflict?_attachments_eq_none_iff] at hconflict
    obtain ⟨htogether, hfixed, hrelative⟩ := hconflict
    exact ⟨hne, map_fst_slots f ▸ hdistinct, hcolor, hdepth, htogether, hfixed, hrelative⟩
  · intro h
    obtain ⟨attached, hattached⟩ := exists_checkSlots_iff.2 ⟨fun _ _ => List.not_mem_nil,
      (map_fst_slots f).symm ▸ h.distinct, forall_slots_iff.2 ⟨h.color, h.depth⟩⟩
    refine ⟨h.attached, attached, hattached, ?_⟩
    rw [attached_eq hattached, conflict?_attachments_eq_none_iff]
    exact ⟨h.together, h.fixed, h.relative⟩

end Framebuffer

namespace ShaderProgram

/-- The kinds of the linked stages, one for each. -/
@[simp] lemma stageKinds_eq_ok_iff : p.stageKinds g.get? name = .ok kinds ↔
    List.Forall₂ (ResourceDecl.StageOfKind g.Holds) p.stages kinds := by
  simp only [stageKinds, mapM_eq_ok_iff, bind_eq_ok_iff, pure_eq_ok_iff,
    ResourceDecl.require_eq_ok_iff]
  generalize p.stages = stages
  constructor
  · rintro ⟨parts, hparts, rfl⟩
    induction hparts with
    | nil => exact .nil
    | cons hpart _ ih =>
      obtain ⟨d, ⟨hd, hc⟩, hpart⟩ := hpart
      obtain ⟨s, hs⟩ := ResourceDecl.kind_isOf hc
      simp only [hs, pure_eq_ok_iff] at hpart
      cases hpart
      exact .cons ⟨s, ⟨d, hd, hs⟩, rfl⟩ ih
  · intro h
    induction h with
    | nil => exact ⟨[], .nil, rfl⟩
    | cons hkind _ ih =>
      obtain ⟨s, ⟨d, hd, hs⟩, rfl⟩ := hkind
      obtain ⟨parts, hparts, rfl⟩ := ih
      refine ⟨[s.stage] :: parts, .cons ⟨d, ⟨hd, ?_⟩, ?_⟩ hparts, rfl⟩
      · rw [ResourceDecl.resourceClass, hs]
        rfl
      · simp only [hs]
        rfl

lemma mem_kinds_iff {stages : List String} {kind : StageKind}
    (h : List.Forall₂ (ResourceDecl.StageOfKind g.Holds) stages kinds) :
    kind ∈ kinds ↔ ∃ name ∈ stages, ResourceDecl.StageOfKind g.Holds name kind := by
  induction h with
  | nil => simp
  | cons hfirst _ ih =>
    obtain ⟨s, hs, rfl⟩ := hfirst
    rw [List.mem_cons, ih, List.exists_mem_cons_iff]
    refine or_congr_left ⟨?_, ?_⟩
    · rintro rfl
      exact ⟨s, hs, rfl⟩
    · rintro ⟨s', hs', rfl⟩
      cases hs.unique hs'
      rfl

@[simp] lemma check_eq_ok_iff_wellFormed : p.check g.get? name = .ok () ↔ p.WellFormed g.Holds := by
  rw [check_eq_ok_iff]
  constructor
  · rintro ⟨hne, kinds, hkinds, hmixed, hvertex⟩
    rw [stageKinds_eq_ok_iff] at hkinds
    refine ⟨hne, fun name hname => ?_, ?_⟩
    · obtain ⟨kind, s, hs, -⟩ := exists_forall₂_iff.1 ⟨kinds, hkinds⟩ name hname
      exact ⟨s, hs⟩
    · rw [mem_kinds_iff hkinds, ← hkinds.length_eq] at hmixed
      rw [mem_kinds_iff hkinds, mem_kinds_iff hkinds] at hvertex
      by_cases hcompute : ∃ name ∈ p.stages, ResourceDecl.StageOfKind g.Holds name .compute
      · have hone : p.stages.length = 1 := by
          have hpos := List.length_pos_of_ne_nil hne
          have hle := not_and.1 hmixed hcompute
          omega
        obtain ⟨only, honly⟩ := List.length_eq_one_iff.1 hone
        obtain ⟨name, hname, hstage⟩ := hcompute
        rw [honly, List.mem_singleton] at hname
        exact .inl ⟨only, honly, hname ▸ hstage⟩
      · refine .inr ⟨fun name hname hstage => hcompute ⟨name, hname, hstage⟩, ?_⟩
        exact not_not.1 fun hnone => hvertex ⟨hcompute, hnone⟩
  · intro h
    have hkinds : ∀ name ∈ p.stages, ∃ kind, ResourceDecl.StageOfKind g.Holds name kind := by
      intro name hname
      obtain ⟨s, hs⟩ := h.declared name hname
      exact ⟨s.stage, s, hs, rfl⟩
    obtain ⟨kinds, hkinds⟩ := exists_forall₂_iff.2 hkinds
    refine ⟨h.linked, kinds, stageKinds_eq_ok_iff.2 hkinds, ?_⟩
    rw [mem_kinds_iff hkinds, mem_kinds_iff hkinds, ← hkinds.length_eq]
    rcases h.kinds with ⟨only, honly, hstage⟩ | ⟨hcompute, hvertex⟩
    · refine ⟨fun hmixed => ?_, fun hnone => ?_⟩
      · simp [honly] at hmixed
      · exact hnone.1 ⟨only, by simp [honly], hstage⟩
    · refine ⟨fun hmixed => ?_, fun hnone => hnone.2 hvertex⟩
      obtain ⟨⟨name, hname, hstage⟩, -⟩ := hmixed
      exact hcompute name hname hstage

end ShaderProgram

@[simp] lemma ResourceDecl.check_eq_ok_iff_wellFormed {d : ResourceDecl} :
    d.check g.get? = .ok () ↔ d.WellFormed g.Holds := by
  rw [wellFormed_iff, check]
  cases hk : d.kind with
  | texture t =>
    cases hd : t.defect? <;> simp [← Texture.defect?_eq_none_iff, hd]
  | _ => simp

/-- Building succeeds where the names and then the declarations pass their checks. -/
lemma ResourceGraph.exists_build_iff {decls : List ResourceDecl} : (∃ g, build decls = .ok g) ↔
    (∀ d ∈ decls, isIdentifier d.name) ∧ (decls.map ResourceDecl.name).Nodup ∧
      ∀ d ∈ decls, d.check (indexed decls).get? = .ok () := by
  simp only [build, bind_eq_ok_iff]
  constructor
  · rintro ⟨g, ⟨⟩, hnames, ⟨⟩, hcheck, -⟩
    obtain ⟨hident, hdistinct, -⟩ := checkNames_eq_ok_iff.1 hnames
    exact ⟨List.forall_mem_map.1 hident, hdistinct, forM_eq_ok_iff.1 hcheck⟩
  · rintro ⟨hident, hdistinct, hcheck⟩
    have hnames : checkNames .resource [] (decls.map ResourceDecl.name) = .ok () :=
      checkNames_eq_ok_iff.2
        ⟨List.forall_mem_map.2 hident, hdistinct, fun _ _ => List.not_mem_nil⟩
    exact ⟨_, (), hnames, (), forM_eq_ok_iff.2 hcheck, rfl⟩

/-- Declarations can be built if and only if their names are distinct identifiers and each of them keeps
the rules for its kind. -/
theorem ResourceGraph.build_accepts_wellFormed (decls : List ResourceDecl) :
    (∃ g, build decls = .ok g) ↔
      (∀ d ∈ decls, IsIdentifier d.name.toList) ∧ (decls.map ResourceDecl.name).Nodup ∧
        ∀ d ∈ decls, d.WellFormed fun name kind => ⟨name, kind⟩ ∈ decls := by
  rw [exists_build_iff]
  refine and_congr (forall₂_congr fun d _ => isIdentifierChars_iff) (and_congr_right fun hdistinct => ?_)
  have hindexed : (indexed decls).Indexed := ⟨hdistinct, rfl⟩
  refine forall₂_congr fun d _ => ?_
  rw [ResourceDecl.check_eq_ok_iff_wellFormed, hindexed.holds_eq]
  rfl

end RenderPlan
