import RenderPlan.Proofs.Graph.Listing
import RenderPlan.Proofs.Resource.Growth

/-! The order of creation. Only textures and stages are depended on and they depend on nothing, so
sorting never gets stuck: every resource is created once and after what it needs. -/
namespace RenderPlan
open RenderPlan.Graph Relation
variable {g : ResourceGraph} {d e : ResourceDecl} {name : String} {i j : ℕ}

namespace ResourceGraph

@[simp] lemma mem_dependencyEdges : (i, j) ∈ g.dependencyEdges ↔
    ∃ d, g.decls[j]? = some d ∧ ∃ name ∈ d.kind.dependencies, g.position? name = some i :=
  mem_edges_iff (fun d : ResourceDecl => d.kind.dependencies) g.position?

lemma Indexed.exists_of_position? (h : g.Indexed) (hp : g.position? name = some i) :
    ∃ e, g.decls[i]? = some e ∧ g.get? name = some e := by
  have hn := h.position?_eq_some_iff.1 hp
  rw [names, List.getElem?_map, Option.map_eq_some_iff] at hn
  obtain ⟨e, he, -⟩ := hn
  refine ⟨e, he, ?_⟩
  rw [get?, hp]
  exact he

/-- What a declared resource depends on is declared and depends on nothing. -/
lemma Coherent.exists_dependency (h : g.Coherent) (hd : d ∈ g.decls)
    (hn : name ∈ d.kind.dependencies) :
    ∃ e, g.get? name = some e ∧ e.kind.dependencies = [] := by
  cases hk : d.kind with
  | framebuffer f =>
    rw [hk] at hn
    obtain ⟨e, t, he, ht⟩ := ResourceDecl.exists_attachment (h.checked d hd) hk hn
    exact ⟨e, he, by rw [ht]; rfl⟩
  | shaderProgram p =>
    rw [hk] at hn
    obtain ⟨e, s, he, hs⟩ := ResourceDecl.exists_stage (h.checked d hd) hk hn
    exact ⟨e, he, by rw [hs]; rfl⟩
  | _ =>
    rw [hk] at hn
    cases hn

lemma Coherent.exists_topologicalOrder (h : g.Coherent) :
    ∃ order, topologicalOrder g.decls.length g.dependencyEdges = .ok order := by
  rw [exists_topologicalOrder_iff]
  intro v hcycle
  -- On a cycle a node has a parent with a parent of its own, but a dependency has no parents.
  obtain ⟨p, hpath, he⟩ := TransGen.tail'_iff.1 hcycle
  obtain ⟨q, -, he'⟩ := TransGen.tail'_iff.1 (TransGen.head' he hpath)
  obtain ⟨d, hd, name, hn, hpos⟩ := mem_dependencyEdges.1 (List.mem_filter.1 he).1
  obtain ⟨d', hd', name', hn', -⟩ := mem_dependencyEdges.1 (List.mem_filter.1 he').1
  obtain ⟨e, hget, hnil⟩ := h.exists_dependency (List.mem_of_getElem? hd) hn
  obtain ⟨e', hdecl, hget'⟩ := h.exists_of_position? hpos
  rw [hdecl] at hd'
  rw [hget] at hget'
  cases hd'
  cases hget'
  rw [hnil] at hn'
  cases hn'

/-- Every resource is created exactly once. -/
lemma creationOrder_perm (g : ResourceGraph) : g.creationOrder.Perm g.decls := by
  rw [creationOrder]
  cases ho : topologicalOrder g.decls.length g.dependencyEdges with
  | error left => exact .refl _
  | ok order => exact perm_of_topologicalOrder ho

/-- What a resource depends on is created before it. -/
lemma Coherent.sublist_creationOrder (h : g.Coherent) (hd : d ∈ g.decls)
    (hn : name ∈ d.kind.dependencies) (he : g.get? name = some e) :
    [e, d].Sublist g.creationOrder := by
  obtain ⟨order, ho⟩ := h.exists_topologicalOrder
  rw [creationOrder, ho]
  obtain ⟨j, hj⟩ := List.mem_iff_getElem?.1 hd
  obtain ⟨i, hi, hget⟩ := Option.bind_eq_some_iff.1 he
  exact sublist_of_topologicalOrder ho (mem_dependencyEdges.2 ⟨d, hj, name, hn, hi⟩) hget hj

end ResourceGraph

/-- A framebuffer that attaches the texture, or a program that links the stage. -/
def ResourceDecl.RefersTo (d : ResourceDecl) (name : String) : Prop :=
  (∃ f, d.kind = .framebuffer f ∧ name ∈ f.attachments) ∨
    ∃ p, d.kind = .shaderProgram p ∧ name ∈ p.stages

/-- Neither a framebuffer nor a program. -/
def ResourceDecl.isSelfContained (d : ResourceDecl) : Bool :=
  d.resourceClass ≠ .framebuffer && d.resourceClass ≠ .shaderProgram

lemma ResourceDecl.refersTo_iff : d.RefersTo name ↔ name ∈ d.kind.dependencies := by
  rw [RefersTo]
  cases d.kind <;> simp [ResourceKind.dependencies]

lemma ResourceDecl.not_isSelfContained (hn : name ∈ d.kind.dependencies) :
    d.isSelfContained = false := by
  rw [isSelfContained, resourceClass]
  cases hk : d.kind with
  | framebuffer f => rfl
  | shaderProgram p => rfl
  | _ =>
    rw [hk] at hn
    cases hn

namespace ResourceGraph

/-- Resources that depend on nothing are created in the order in which they are declared. -/
lemma Coherent.filter_creationOrder (h : g.Coherent) :
    g.creationOrder.filter ResourceDecl.isSelfContained =
      g.decls.filter ResourceDecl.isSelfContained := by
  obtain ⟨order, ho⟩ := h.exists_topologicalOrder
  rw [creationOrder, ho]
  refine filter_of_topologicalOrder ho fun i j d he hd => ?_
  obtain ⟨e, hj, name, hn, -⟩ := mem_dependencyEdges.1 he
  cases hd.symm.trans hj
  exact ResourceDecl.not_isSelfContained hn

lemma Coherent.creationOrder_eq_decls (h : g.Coherent)
    (hup : ∀ (i j : ℕ) (e d : ResourceDecl), g.decls[i]? = some e → g.decls[j]? = some d →
      d.RefersTo e.name → i < j) : g.creationOrder = g.decls := by
  obtain ⟨order, ho⟩ := h.exists_topologicalOrder
  rw [creationOrder, ho]
  refine eq_of_topologicalOrder ho fun i j hij => ?_
  obtain ⟨d, hj, name, hn, hpos⟩ := mem_dependencyEdges.1 hij
  obtain ⟨e, hi, hget⟩ := h.exists_of_position? hpos
  refine hup i j e d hi hj (ResourceDecl.refersTo_iff.2 ?_)
  rwa [(h.get?_eq_some_iff.1 hget).2]

/-- Whatever shadows a built graph has been asked for, sorting its resources never meets a cycle. Each
of them is created once, behind all that it refers to. The others than framebuffers and programs keep
the order of their declarations, and all do where nothing is declared too early. -/
theorem creationOrder_afterShadows (decls : List ResourceDecl) (start : ResourceGraph)
    (h : build decls = .ok start) (shadows : List ShadowTarget) :
    let g := start.afterShadows shadows
    (∃ order, topologicalOrder g.decls.length g.dependencyEdges = .ok order ∧
      g.creationOrder = order.filterMap (g.decls[·]?)) ∧
    g.creationOrder.Perm g.decls ∧
    (g.creationOrder.map ResourceDecl.name).Nodup ∧
    (∀ d ∈ g.decls, ∀ name, d.RefersTo name →
      ∃ e, e.name = name ∧ [e, d].Sublist g.creationOrder) ∧
    g.creationOrder.filter ResourceDecl.isSelfContained =
      g.decls.filter ResourceDecl.isSelfContained ∧
    ((∀ (i j : ℕ) (e d : ResourceDecl), g.decls[i]? = some e → g.decls[j]? = some d →
      d.RefersTo e.name → i < j) → g.creationOrder = g.decls) := by
  intro g
  have hg : g.Coherent := ((build_eq_ok_iff.1 h).2.1).afterShadows shadows
  have hperm := creationOrder_perm g
  refine ⟨?_, hperm, ?_, fun d hd name hn => ?_, hg.filter_creationOrder, hg.creationOrder_eq_decls⟩
  · obtain ⟨order, ho⟩ := hg.exists_topologicalOrder
    exact ⟨order, ho, by rw [creationOrder, ho]⟩
  · exact (hperm.map _).nodup_iff.2 hg.distinct
  · have hn' := ResourceDecl.refersTo_iff.1 hn
    obtain ⟨e, he, -⟩ := hg.exists_dependency hd hn'
    exact ⟨e, (hg.get?_eq_some_iff.1 he).2, hg.sublist_creationOrder hd hn' he⟩

/-- A canvas and a program, each behind what it needs. -/
def canvasDecls : List ResourceDecl :=
  [.stage "Mix" .fragment "", .texture "Trail" .rgba8Unorm (.fixed 64 64),
    .framebuffer "Canvas" ["Trail"] none, .stage "Corners" .vertex "",
    .program "Blend" ["Corners", "Mix"] [] 1]

/-- With a shadow for the trail, and none for the canvas, nothing is moved. Declared the other way
around, the canvas and the program are put off. -/
theorem creationOrder_afterShadows_canvas :
    let shadows : List ShadowTarget := [⟨"Canvas", "CanvasTarget"⟩, ⟨"Trail", "TrailTarget"⟩]
    ∃ g g', build canvasDecls = .ok g ∧ build canvasDecls.reverse = .ok g' ∧
      (g.afterShadows shadows).creationOrder = (g.afterShadows shadows).decls ∧
      (g'.afterShadows shadows).creationOrder.map ResourceDecl.name =
        ["Corners", "Trail", "Canvas", "Mix", "Blend", "TrailTarget"] ∧
      ∃ e, e.name = "Trail" ∧
        [e, .framebuffer "Canvas" ["Trail"] none].Sublist (g'.afterShadows shadows).creationOrder := by
  intro shadows
  have heval : (build canvasDecls).toOption.map (fun g =>
      decide (∀ x ∈ (g.afterShadows shadows).decls.zipIdx, ∀ y ∈ (g.afterShadows shadows).decls.zipIdx,
        x.1.name ∈ y.1.kind.dependencies → x.2 < y.2)) = some true := by
    decide +kernel
  have heval' : (build canvasDecls.reverse).toOption.map (fun g' =>
      decide ((g'.afterShadows shadows).creationOrder.map ResourceDecl.name =
          ["Corners", "Trail", "Canvas", "Mix", "Blend", "TrailTarget"] ∧
        ResourceDecl.framebuffer "Canvas" ["Trail"] none ∈ (g'.afterShadows shadows).decls)) =
      some true := by
    decide +kernel
  obtain ⟨g, h, hup⟩ := exists_ok_of_toOption_map heval
  obtain ⟨g', h', heval'⟩ := exists_ok_of_toOption_map heval'
  obtain ⟨hnames, hcanvas⟩ := of_decide_eq_true heval'
  obtain ⟨-, -, -, -, -, hkept⟩ := creationOrder_afterShadows canvasDecls g h shadows
  obtain ⟨-, -, -, hbehind, -⟩ := creationOrder_afterShadows canvasDecls.reverse g' h' shadows
  refine ⟨g, g', h, h', hkept fun i j e d hi hj href => ?_, hnames, ?_⟩
  · exact of_decide_eq_true hup (e, i) (List.mem_zipIdx_iff_getElem?.2 hi) (d, j)
      (List.mem_zipIdx_iff_getElem?.2 hj) (ResourceDecl.refersTo_iff.1 href)
  · exact hbehind _ hcanvas "Trail" (.inl ⟨_, rfl, List.mem_cons_self⟩)

end ResourceGraph
end RenderPlan
