import RenderPlan.Proofs.Resource.Check
import RenderPlan.Proofs.Resource.Index

/-! Graphs that grow by shadows. What a graph keeps beside its declarations is kept up to date step
by step, and is the same as if the longer list of declarations had been built at once. -/
namespace RenderPlan
open Text

def Texture.FollowsWindow (t : Texture) : Prop := ∃ x y, t.size = some (.windowRelative x y)

/-- The name stands for a texture that follows the window. -/
def ResourceDecl.RelativeTexture (has : String → ResourceKind → Prop) (name : String) : Prop :=
  ∃ t, has name (.texture t) ∧ t.FollowsWindow

/-- A texture sized by the window, or a framebuffer that attaches one of the declared ones. -/
def ResourceDecl.FollowsWindow (decls : List ResourceDecl) (d : ResourceDecl) : Prop :=
  (∃ t, d.kind = .texture t ∧ t.FollowsWindow) ∨
    ∃ f, d.kind = .framebuffer f ∧
      ∃ e ∈ decls, e.name ∈ f.attachments ∧ ∃ t, e.kind = .texture t ∧ t.FollowsWindow

@[simp]
lemma Texture.isWindowRelative_iff (t : Texture) : t.isWindowRelative = true ↔ t.FollowsWindow := by
  rw [Texture.isWindowRelative, FollowsWindow]
  cases t.size with
  | none => simp
  | some policy => cases policy <;> simp [SizePolicy.isWindowRelative]

namespace ResourceGraph
variable {g g' : ResourceGraph} {decls : List ResourceDecl} {d : ResourceDecl}
  {shadow : ShadowTarget} {fault : Fault}

@[simp] lemma isRelativeTexture_iff (g : ResourceGraph) (name : String) :
    ResourceDecl.isRelativeTexture g.get? name = true ↔ ResourceDecl.RelativeTexture g.Holds name := by
  rw [ResourceDecl.isRelativeTexture, ResourceDecl.RelativeTexture]
  cases hd : g.get? name with
  | none => simp [Holds, hd]
  | some d => cases hk : d.kind <;> simp [Holds, hd, hk]

@[simp] lemma Indexed.isRelativeTexture_iff (h : g.Indexed) (name : String) :
    ResourceDecl.isRelativeTexture g.get? name = true ↔
      ∃ e ∈ g.decls, e.name = name ∧ ∃ t, e.kind = .texture t ∧ t.FollowsWindow := by
  simp only [g.isRelativeTexture_iff, ResourceDecl.RelativeTexture, h.holds_iff]
  constructor
  · rintro ⟨t, hmem, ht⟩
    exact ⟨_, hmem, rfl, t, rfl, ht⟩
  · rintro ⟨⟨_, _⟩, hmem, rfl, t, rfl, ht⟩
    exact ⟨t, hmem, ht⟩

@[simp] lemma Indexed.isWindowRelative_iff (h : g.Indexed) (d : ResourceDecl) :
    d.isWindowRelative g.get? = true ↔ d.FollowsWindow g.decls := by
  rw [ResourceDecl.isWindowRelative, ResourceDecl.FollowsWindow]
  cases hk : d.kind with
  | texture t => simp
  | framebuffer f =>
    simp only [List.any_eq_true, h.isRelativeTexture_iff]
    constructor
    · rintro ⟨name, hname, e, he, rfl, ht⟩
      exact .inr ⟨f, rfl, e, he, hname, ht⟩
    · rintro (⟨t, ht, -⟩ | ⟨f', hf, e, he, hname, ht⟩)
      · cases ht
      · cases hf
        exact ⟨e.name, hname, e, he, rfl, ht⟩
  | _ => simp

/-- The index and the flags are those of the declarations, and each declaration passes its check. -/
structure Coherent (g : ResourceGraph) : Prop extends Indexed g where
  flags_eq : g.windowRelative = g.decls.map (ResourceDecl.isWindowRelative g.get?)
  checked : ∀ d ∈ g.decls, d.check g.get? = .ok ()

/-- Building succeeds exactly on declarations with identifiers for names that a coherent graph can
hold, and gives that graph. -/
lemma build_eq_ok_iff : build decls = .ok g ↔
    g.decls = decls ∧ g.Coherent ∧ ∀ n ∈ g.names, isIdentifier n := by
  simp only [build, bind_eq_ok_iff, pure_eq_ok_iff]
  constructor
  · rintro ⟨⟨⟩, hnames, ⟨⟩, hcheck, rfl⟩
    obtain ⟨hident, hnodup, -⟩ := checkNames_eq_ok_iff.1 hnames
    exact ⟨rfl, ⟨⟨hnodup, rfl⟩, rfl, forM_eq_ok_iff.1 hcheck⟩, hident⟩
  · rintro ⟨rfl, h, hident⟩
    have hnames : checkNames .resource [] g.names = .ok () :=
      checkNames_eq_ok_iff.2 ⟨hident, h.distinct, by simp⟩
    have hget : (indexed g.decls).get? = g.get? := by
      funext name
      rw [get?, get?, position?, position?, h.index_eq]
      rfl
    refine ⟨(), hnames, (), forM_eq_ok_iff.2 ?_, ?_⟩
    · rw [hget]
      exact h.checked
    · rw [hget, ← h.flags_eq]
      change (⟨g.decls, g.names.zipIdx.reverse, g.windowRelative⟩ : ResourceGraph) = g
      rw [← h.index_eq]

lemma Indexed.get?_push (h : g.Indexed) (hd : d.name ∉ g.names) {name : String} {e : ResourceDecl}
    (he : g.get? name = some e) : (g.push d).get? name = some e := by
  obtain ⟨hmem, hn⟩ := h.get?_eq_some_iff.1 he
  exact (h.push hd).get?_eq_some_iff.2 ⟨List.mem_append_left _ hmem, hn⟩

/-- A checked declaration under a new name leaves all older ones as they are. -/
lemma Coherent.extend (h : g.Coherent) (hd : d.name ∉ g.names)
    (hc : d.check (g.push d).get? = .ok ()) : (g.push d).Coherent := by
  have hle : ∀ n e, g.get? n = some e → (g.push d).get? n = some e := fun n e =>
    h.get?_push hd
  refine ⟨h.toIndexed.push hd, ?_, ?_⟩
  · change g.windowRelative ++ [d.isWindowRelative (g.push d).get?] =
      (g.decls ++ [d]).map (ResourceDecl.isWindowRelative (g.push d).get?)
    rw [List.map_append, List.map_singleton, h.flags_eq]
    congr 1
    apply List.map_congr_left
    intro e he
    exact (ResourceDecl.isWindowRelative_mono hle (h.checked e he)).symm
  · intro e he
    rcases List.mem_append.1 he with he | he
    · exact ResourceDecl.check_mono hle (h.checked e he)
    · rw [List.mem_singleton.1 he]
      exact hc

/-- The outcome of adding a shadow is decided before the graph is touched. -/
lemma addShadow_cases (shadow : ShadowTarget) (g : ResourceGraph) :
    (∃ fault, addShadow shadow g = .error fault g ∧
      (g.require shadow.name shadow.texture .texture = .error fault ∨
        (g.position? shadow.name).isSome)) ∨
    ∃ d, addShadow shadow g = .ok () (g.push ⟨shadow.name, d.kind⟩) ∧
      g.require shadow.name shadow.texture .texture = .ok d ∧
      (g.position? shadow.name).isSome = false := by
  rw [addShadow]
  change (∃ fault, EStateM.bind EStateM.get _ g = _ ∧ _) ∨ ∃ d, EStateM.bind EStateM.get _ g = _ ∧ _
  rw [EStateM.bind]
  delta EStateM.get
  dsimp only
  cases g.require shadow.name shadow.texture .texture with
  | error fault => exact .inl ⟨fault, rfl, .inl rfl⟩
  | ok d =>
    dsimp only
    cases (g.position? shadow.name).isSome with
    | true => exact .inl ⟨_, rfl, .inr rfl⟩
    | false => exact .inr ⟨d, rfl, rfl, rfl⟩

lemma Indexed.addShadow_eq_ok_iff (h : g.Indexed) : addShadow shadow g = .ok () g' ↔
    ∃ d, g.get? shadow.texture = some d ∧ d.resourceClass = .texture ∧ shadow.name ∉ g.names ∧
      g' = g.push ⟨shadow.name, d.kind⟩ := by
  rw [← h.isSome_position?_iff]
  obtain ⟨fault, hs, hr⟩ | ⟨d, hs, hr, hp⟩ := addShadow_cases shadow g <;> rw [hs]
  · constructor
    · intro hok
      cases hok
    rintro ⟨d, hd, hc, hn, -⟩
    rcases hr with hr | hr
    · rw [require, ResourceDecl.require_eq_ok_iff.2 ⟨hd, hc⟩] at hr
      cases hr
    · exact (hn hr).elim
  · obtain ⟨hd, hc⟩ := ResourceDecl.require_eq_ok_iff.1 hr
    constructor
    · intro hok
      cases hok
      exact ⟨d, hd, hc, by simp [hp], rfl⟩
    · rintro ⟨e, he, -, -, rfl⟩
      rw [hd] at he
      cases he
      rfl

/-- The copy of a checked texture passes the same check under any name. -/
lemma Coherent.of_addShadow (h : g.Coherent) (hs : addShadow shadow g = .ok () g') : g'.Coherent := by
  obtain ⟨d, hd, hc, hn, rfl⟩ := h.addShadow_eq_ok_iff.1 hs
  obtain ⟨t, ht⟩ := ResourceDecl.kind_isOf hc
  apply h.extend hn
  have hcheck := h.checked d (h.get?_eq_some_iff.1 hd).1
  simp only [ResourceDecl.check, ht] at hcheck ⊢
  cases hdef : t.defect? with
  | none => rfl
  | some defect => simp [hdef] at hcheck

/-- The declarations that shadows bring with them. -/
def copies (g : ResourceGraph) (shadows : List ShadowTarget) : List ResourceDecl :=
  shadows.filterMap fun s => (g.get? s.texture).map fun d => ⟨s.name, d.kind⟩

/-- Shadows of declared textures under new and distinct names are all granted. -/
lemma Coherent.exists_addShadows (h : g.Coherent) {shadows : List ShadowTarget}
    (hdistinct : (shadows.map ShadowTarget.name).Nodup) (hnew : ∀ s ∈ shadows, s.name ∉ g.names)
    (htexture : ∀ s ∈ shadows, ∃ d, g.get? s.texture = some d ∧ d.resourceClass = .texture) :
    ∃ g', shadows.forM addShadow g = .ok () g' ∧ g'.Coherent ∧
      g'.decls = g.decls ++ g.copies shadows := by
  induction shadows generalizing g with
  | nil => exact ⟨g, rfl, h, by simp [copies]⟩
  | cons s shadows ih =>
    obtain ⟨hs, hrest⟩ := List.nodup_cons.1 hdistinct
    obtain ⟨hsnew, hnew⟩ := List.forall_mem_cons.1 hnew
    obtain ⟨⟨d, hd, hc⟩, htexture⟩ := List.forall_mem_cons.1 htexture
    have hok := h.addShadow_eq_ok_iff.2 ⟨d, hd, hc, hsnew, rfl⟩
    have hle : ∀ n e, g.get? n = some e → (g.push ⟨s.name, d.kind⟩).get? n = some e := fun n e =>
      h.get?_push hsnew
    have hnew' : ∀ t ∈ shadows, t.name ∉ (g.push ⟨s.name, d.kind⟩).names := by
      intro t ht
      simp only [names_push, List.mem_append, List.mem_singleton, not_or]
      refine ⟨hnew t ht, fun he => hs ?_⟩
      rw [← he]
      exact List.mem_map_of_mem ht
    have htexture' : ∀ t ∈ shadows, ∃ e, (g.push ⟨s.name, d.kind⟩).get? t.texture = some e ∧
        e.resourceClass = .texture := by
      intro t ht
      obtain ⟨e, he, hec⟩ := htexture t ht
      exact ⟨e, hle _ e he, hec⟩
    have hcopies : (g.push ⟨s.name, d.kind⟩).copies shadows = g.copies shadows := by
      apply List.filterMap_congr
      intro t ht
      obtain ⟨e, he, -⟩ := htexture t ht
      rw [he, hle _ e he]
    obtain ⟨g', hrun, hg', hdecls⟩ := ih (h.of_addShadow hok) hrest hnew' htexture'
    refine ⟨g', ?_, hg', ?_⟩
    · change EStateM.bind (addShadow s) (fun _ => shadows.forM addShadow) g = _
      rw [EStateM.bind, hok]
      exact hrun
    · rw [hdecls, hcopies]
      simp [copies, hd]

/-- The graph after a request for a shadow, granted or not. -/
def afterShadow (g : ResourceGraph) (shadow : ShadowTarget) : ResourceGraph :=
  match addShadow shadow g with
  | .ok _ g' => g'
  | .error _ g' => g'

def afterShadows (g : ResourceGraph) (shadows : List ShadowTarget) : ResourceGraph :=
  shadows.foldl afterShadow g

lemma Coherent.afterShadow (h : g.Coherent) (shadow : ShadowTarget) :
    (g.afterShadow shadow).Coherent := by
  rw [ResourceGraph.afterShadow]
  obtain ⟨fault, hs, -⟩ | ⟨d, hs, -, -⟩ := addShadow_cases shadow g
  · rw [hs]
    exact h
  · have h' := h.of_addShadow hs
    rw [hs]
    exact h'

lemma Coherent.afterShadows (h : g.Coherent) (shadows : List ShadowTarget) :
    (g.afterShadows shadows).Coherent := by
  induction shadows generalizing g with
  | nil => exact h
  | cons shadow shadows ih => exact ih (h.afterShadow shadow)

/-- However many shadows are asked for, the index leads from each name to its own position and the
flags say what follows the window. A refused shadow changes nothing; a granted one gives the graph
that is built from the longer list, provided that all names in it are identifiers. -/
theorem afterShadows_eq_build (decls : List ResourceDecl) (start : ResourceGraph)
    (h : build decls = .ok start) (shadows : List ShadowTarget) :
    let g := start.afterShadows shadows
    (∀ name i, g.position? name = some i ↔ g.names[i]? = some name) ∧
    g.names.Nodup ∧
    g.windowRelative.length = g.decls.length ∧
    (∀ (i : ℕ) (d : ResourceDecl), g.decls[i]? = some d →
      (g.windowRelative[i]? = some true ↔ d.FollowsWindow g.decls)) ∧
    ∀ shadow,
      (∀ fault g', addShadow shadow g = .error fault g' → g' = g) ∧
      ∀ g', addShadow shadow g = .ok () g' →
        (∃ d ∈ g.decls, d.name = shadow.texture ∧ d.resourceClass = .texture ∧
          g'.decls = g.decls ++ [⟨shadow.name, d.kind⟩]) ∧
        (build g'.decls = .ok g' ↔ ∀ n ∈ g'.names, isIdentifier n) := by
  intro g
  have hg : g.Coherent := ((build_eq_ok_iff.1 h).2.1).afterShadows shadows
  refine ⟨fun name i => hg.position?_eq_some_iff, hg.distinct, ?_, fun i d hd => ?_,
    fun shadow => ⟨fun fault g' he => ?_, fun g' hs => ⟨?_, ?_⟩⟩⟩
  · rw [hg.flags_eq, List.length_map]
  · rw [hg.flags_eq, List.getElem?_map, hd, ← hg.isWindowRelative_iff]
    simp
  · obtain ⟨fault', hs, -⟩ | ⟨d, hs, -, -⟩ := addShadow_cases shadow g <;> rw [hs] at he <;> cases he
    rfl
  · obtain ⟨d, hd, hc, -, rfl⟩ := hg.addShadow_eq_ok_iff.1 hs
    obtain ⟨hmem, hn⟩ := hg.get?_eq_some_iff.1 hd
    exact ⟨d, hmem, hn, hc, rfl⟩
  · rw [build_eq_ok_iff]
    exact ⟨fun hb => hb.2.2, fun hi => ⟨rfl, hg.of_addShadow hs, hi⟩⟩

/-- A framebuffer, and the texture it attaches, which is half as large as the window. -/
def mirrorDecls : List ResourceDecl :=
  [.framebuffer "Frame" ["Mirror"] none,
    .texture "Mirror" .rgba8Unorm (.windowRelative ⟨0x3F000000⟩ ⟨0x3F000000⟩)]

def mirrorGraph : ResourceGraph where
  decls := mirrorDecls
  index := [("Mirror", 1), ("Frame", 0)]
  windowRelative := [true, true]

/-- The shadow of a shadow, after a refused request for the shadow of a framebuffer. -/
theorem afterShadows_eq_build_mirror :
    build mirrorDecls = .ok mirrorGraph ∧
    ∃ g', addShadow ⟨"MirrorTarget", "Second"⟩
        (mirrorGraph.afterShadows [⟨"Frame", "FrameTarget"⟩, ⟨"Mirror", "MirrorTarget"⟩]) = .ok () g' ∧
      g'.names = ["Frame", "Mirror", "MirrorTarget", "Second"] ∧ build g'.decls = .ok g' := by
  have hb : build mirrorDecls = .ok mirrorGraph := by decide +kernel
  obtain ⟨-, -, -, -, hs⟩ := afterShadows_eq_build mirrorDecls mirrorGraph hb
    [⟨"Frame", "FrameTarget"⟩, ⟨"Mirror", "MirrorTarget"⟩]
  obtain ⟨-, hbuild⟩ := (hs ⟨"MirrorTarget", "Second"⟩).2 _ rfl
  exact ⟨hb, _, rfl, by decide +kernel, hbuild.2 (by decide +kernel)⟩

/-- A shadow under an identifier, after one under a name that no declaration may have. -/
theorem build_after_unnamable_shadow :
    build mirrorDecls = .ok mirrorGraph ∧ isIdentifier "Second" ∧
    ∃ g', addShadow ⟨"Mirror", "Second"⟩ (mirrorGraph.afterShadows [⟨"Mirror", "1st"⟩]) = .ok () g' ∧
      g'.names = ["Frame", "Mirror", "1st", "Second"] ∧
      build g'.decls = .error (.invalidIdentifier "1st") := by
  refine ⟨by decide +kernel, by decide +kernel, _, rfl, ?_, ?_⟩
  · decide +kernel
  · decide +kernel

end ResourceGraph
end RenderPlan
