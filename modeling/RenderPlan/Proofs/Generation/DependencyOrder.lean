import RenderPlan.Proofs.Generation.ShaderLines

/-! Structs are declared before they are used. Layouts follow the references depth first and the order
of the declarations comes from sorting them, but both fail on the same tables: a struct that can be laid
out leads into no cycle. So sorting never fails where all structs have a layout, and in the shader text
each type of a member is builtin or declared on an earlier line. -/
namespace RenderPlan
open RenderPlan.Graph Relation Text ShaderType

namespace StructTable
variable {t : StructTable} {d e : StructDecl} {name : String} {i j : ℕ}

@[simp] lemma position?_eq_some_iff (t : StructTable) :
    t.position? name = some i ↔ ∃ d, t.decls[i]? = some d ∧ d.name = name := by
  rw [position?, List.findIdx?_eq_some_iff_getElem]
  constructor
  · rintro ⟨hi, hname, -⟩
    exact ⟨t.decls[i], List.getElem?_eq_getElem hi, of_decide_eq_true hname⟩
  · rintro ⟨d, hd, rfl⟩
    obtain ⟨hi, rfl⟩ := List.getElem?_eq_some_iff.1 hd
    refine ⟨hi, by simp, fun k hki hk => ?_⟩
    have hname : (t.decls.map StructDecl.name)[k]? = (t.decls.map StructDecl.name)[i]? := by
      simpa [List.getElem?_map, hi, Nat.lt_trans hki hi] using hk
    have hlen : k < (t.decls.map StructDecl.name).length := by simpa using Nat.lt_trans hki hi
    exact Nat.ne_of_lt hki ((List.getElem?_inj hlen t.distinct).1 hname)

@[simp] lemma mem_referenceEdges : (i, j) ∈ t.referenceEdges ↔
    ∃ d, t.decls[j]? = some d ∧ ∃ name ∈ references d.fields, t.position? name = some i :=
  mem_edges_iff (fun d : StructDecl => references d.fields) t.position?

/-- A cycle of positions would be a cycle of references, but from every struct these come to an end. -/
lemma exists_topologicalOrder (h : ∀ name ∈ t.names, t.Founded name) :
    ∃ order, topologicalOrder t.decls.length t.referenceEdges = .ok order := by
  rw [exists_topologicalOrder_iff]
  intro v hcycle
  let nameAt (i : ℕ) : String := (t.names[i]?).getD ""
  have hnames {i : ℕ} {d : StructDecl} (hi : t.decls[i]? = some d) : nameAt i = d.name := by
    simp [nameAt, names, hi]
  have hrefers : ∀ i j, Parent (inRange t.decls.length t.referenceEdges) i j →
      t.Refers (nameAt j) (nameAt i) := by
    intro i j hij
    obtain ⟨d, hj, name, hn, hpos⟩ := mem_referenceEdges.1 (List.mem_filter.1 hij).1
    obtain ⟨e, hi, rfl⟩ := t.position?_eq_some_iff.1 hpos
    rw [hnames hi, hnames hj]
    exact ⟨d, t.get?_eq_some_iff.2 ⟨List.mem_of_getElem? hj, rfl⟩, hn⟩
  have hback : TransGen t.Refers (nameAt v) (nameAt v) := by
    rw [← transGen_swap]
    exact TransGen.lift nameAt (fun i j hij => hrefers i j hij) v v hcycle
  have hlt : v < t.names.length := by simpa [names] using hcycle.behindCycle.lt
  have hmem : nameAt v ∈ t.names := by
    simp [nameAt, hlt]
  exact (h _ hmem).not_cyclic hback

lemma sublist_dependencyOrder (h : ∀ name ∈ t.names, t.Founded name) (hd : d ∈ t.decls)
    (he : e ∈ t.decls) (hn : e.name ∈ references d.fields) : [e, d].Sublist t.dependencyOrder := by
  obtain ⟨order, ho⟩ := exists_topologicalOrder h
  rw [dependencyOrder, ho]
  obtain ⟨i, hi⟩ := List.mem_iff_getElem?.1 he
  obtain ⟨j, hj⟩ := List.mem_iff_getElem?.1 hd
  have hpos : t.position? e.name = some i := t.position?_eq_some_iff.2 ⟨e, hi, rfl⟩
  exact sublist_of_topologicalOrder ho (mem_referenceEdges.2 ⟨d, hj, e.name, hn, hpos⟩) hi hj

end StructTable

/-- The type of a member is builtin or declared on one of the lines before. -/
def TypeDeclared (before : List String) (line : String) : Prop :=
  ∀ member, line = "    " ++ member →
    isBuiltinName (firstWord member) = true ∨ firstWord member ∈ behind "struct " before

section Lines
variable {before heads : List String} {fields : List FieldDecl} {scope line : String}

lemma typeDeclared_append (before more : List String) (line : String) (h : TypeDeclared before line) :
    TypeDeclared (before ++ more) line := by
  intro member hline
  rw [behind_append]
  exact (h member hline).imp_right (List.mem_append_left _)

/-- Only members stand behind blanks. -/
lemma typeDeclared_of_head (h : line.toList.head? ≠ some ' ') : TypeDeclared before line := by
  rintro member rfl
  simp at h

lemma typeDeclared_memberLine {f : FieldDecl} (hf : f.Spelled)
    (hknown : ∀ name, f.type.referenced = some name → name ∈ behind "struct " before) :
    TypeDeclared before ("    " ++ memberDeclaration f.name f.type) := by
  intro member hline
  have hmember : memberDeclaration f.name f.type = member := by
    have hlist := congrArg String.toList hline
    rw [String.toList_append, String.toList_append] at hlist
    exact String.toList_injective (List.append_cancel_left hlist)
  have hbase : ∀ c ∈ f.type.baseSpelling.toList, c ≠ ' ' := by
    rintro c hc rfl
    cases hf.base _ hc
  rw [← hmember, memberDeclaration_eq hf.base, String.append_assoc, String.append_assoc,
    firstWord_append hbase]
  cases hr : f.type.referenced with
  | none => exact .inl (isBuiltinName_iff.2 ⟨_, baseName_baseSpelling hr, isBuiltin_base hr⟩)
  | some name =>
    rw [baseSpelling_of_referenced hr]
    exact .inr (hknown name hr)

lemma eachAfter_framed (hheads : ∀ line ∈ heads, line.toList.head? ≠ some ' ')
    (hfields : ∀ f ∈ fields, f.Spelled)
    (hknown : ∀ name ∈ references fields, name ∈ behind "struct " before) :
    EachAfter TypeDeclared before (framed heads fields scope) := by
  apply eachAfter_of_forall typeDeclared_append
  intro line hline
  simp only [framed, List.mem_append, List.mem_cons, List.not_mem_nil, or_false] at hline
  rcases hline with ((hline | rfl) | hline) | rfl | rfl
  · exact typeDeclared_of_head (hheads line hline)
  · exact typeDeclared_of_head (by decide)
  · obtain ⟨f, hf, rfl⟩ := List.mem_map.1 hline
    exact typeDeclared_memberLine (hfields f hf) fun name hr =>
      hknown name (mem_references.2 ⟨f, hf, hr⟩)
  · exact typeDeclared_of_head (by simp)
  · exact typeDeclared_of_head (by decide)

end Lines

namespace Artifacts

/-- Structs come behind those they refer to, and blocks come behind all structs. -/
lemma eachAfter_shaderLines (a : Artifacts) (hw : a.structs.WellFormed)
    (hf : ∀ name ∈ a.structs.names, a.structs.Founded name) :
    EachAfter TypeDeclared [] a.shaderLines := by
  have hdecls {d : StructDecl} (hd : d ∈ a.structs.dependencyOrder) : d ∈ a.structs.decls :=
    a.structs.dependencyOrder_perm.mem_iff.1 hd
  have hheads (ds : List StructDecl) : behind "struct " (ds.flatMap StructDecl.lines) =
      ds.map StructDecl.name := by
    rw [behind_flatMap, List.map_eq_flatMap]
    simp only [StructDecl.behind_struct_lines]
  rw [shaderLines, eachAfter_append, List.nil_append]
  constructor
  · refine eachAfter_flatMap fun front d back hsplit => ?_
    have hd : d ∈ a.structs.decls := hdecls (by simp [hsplit])
    refine eachAfter_framed (by simp) (fun f => hw.spelled hd) fun name hn => ?_
    obtain ⟨e, he, rfl⟩ := List.mem_map.1 (hw.declared d hd name hn)
    have hsub := StructTable.sublist_dependencyOrder hf hd he hn
    have hback : d ∉ back := by
      have hdistinct := a.structs.nodup_dependencyOrder.of_map
      rw [hsplit] at hdistinct
      exact (List.nodup_cons.1 hdistinct.of_append_right).1
    rw [hsplit] at hsub
    rw [List.nil_append, hheads]
    exact List.mem_map_of_mem (mem_of_pair_sublist hsub hback)
  · refine eachAfter_flatMap fun front b back hsplit => ?_
    have hb : b ∈ a.uniformBlocks := by simp [hsplit]
    have hd := decl_mem_structs hb
    refine eachAfter_framed (by simp) (fun f => hw.spelled hd) fun name hn => ?_
    rw [behind_append, hheads]
    refine List.mem_append_left _ ?_
    exact (a.structs.dependencyOrder_perm.map _).mem_iff.2 (hw.declared _ hd name hn)

end Artifacts

namespace LayoutCache
variable {t : StructTable} {c c' : LayoutCache}

lemma SoundFor.complete_computeAll (h : SoundFor t c) (hok : c.computeAll = (.ok (), c')) :
    Complete t c' := by
  have hall := h.finishes_computeEach hok
  rw [h.table] at hall
  exact ⟨hall.sound, hall.finished⟩

/-- A layout is derived along the references, so these come to an end. -/
lemma Complete.founded (h : Complete t c) : ∀ name ∈ t.names, t.Founded name := by
  intro name hn
  obtain ⟨l, hl⟩ := Option.isSome_iff_exists.1 (h.finished name hn)
  exact (h.get?_eq_some_iff.1 hl).founded

end LayoutCache

/-- Each of the structs is declared once and before it is used, in the list of structs and in the lines
of the shader text. -/
structure Artifacts.DeclaresBeforeUse (a : Artifacts) (structs : List StructDecl) : Prop where
  sorted : ∃ order, topologicalOrder a.structs.decls.length a.structs.referenceEdges = .ok order ∧
    a.structs.dependencyOrder = order.filterMap (a.structs.decls[·]?)
  perm : a.structs.dependencyOrder.Perm structs
  before : ∀ d ∈ structs, ∀ f ∈ d.fields, ∀ name, f.type.referenced = some name →
    ∃ e, e.name = name ∧ [e, d].Sublist a.structs.dependencyOrder
  heads : behind "struct " (lines a.shaderText) = a.structs.dependencyOrder.map StructDecl.name
  once : (behind "struct " (lines a.shaderText)).Nodup
  declarations : ∀ d ∈ structs, d.lines <:+: lines a.shaderText
  members : ∀ above member below, lines a.shaderText = above ++ ("    " ++ member) :: below →
    isBuiltinName (firstWord member) = true ∨ firstWord member ∈ behind "struct " above

/-- Where all structs of a table can be laid out, whatever was asked for before, sorting them meets no
cycle. So in the artifacts of every run each struct is declared once, and before any member has its
type. -/
theorem Generator.run_declares_before_use :
    (∀ (t : StructTable) (requests : List LayoutRequest) (c : LayoutCache),
      ((LayoutCache.fresh t).serveAll requests).computeAll = (.ok (), c) →
        ∃ order, topologicalOrder t.decls.length t.referenceEdges = .ok order) ∧
    ∀ (gen : Generator) (spec : Specification) (a : Artifacts), (gen.run spec).1 = .ok a →
      a.DeclaresBeforeUse spec.structs := by
  constructor
  · intro t requests c hok
    have hsound := (LayoutCache.SoundFor.fresh t).serveAll requests
    exact StructTable.exists_topologicalOrder (hsound.complete_computeAll hok).founded
  · intro gen spec a h
    obtain ⟨t, c, g, v, hc⟩ := completed_of_run h
    have hw := hc.wellFormed_structs
    have hf : ∀ name ∈ a.structs.names, a.structs.Founded name := by
      rw [hc.structs_eq, hc.complete.table]
      exact hc.complete.founded
    have hdecls : a.structs.decls = spec.structs := hc.structs_decls
    have hheads : behind "struct " (lines a.shaderText) =
        a.structs.dependencyOrder.map StructDecl.name := by
      rw [hc.lines_shaderText, behind_append, a.behind_struct_shaderLines]
      exact List.append_nil _
    refine ⟨?_, hdecls ▸ a.structs.dependencyOrder_perm, ?_, hheads, ?_, ?_, ?_⟩
    · obtain ⟨order, ho⟩ := StructTable.exists_topologicalOrder hf
      exact ⟨order, ho, by rw [StructTable.dependencyOrder, ho]⟩
    · intro d hd f hfield name hr
      rw [← hdecls] at hd
      have hn : name ∈ references d.fields := mem_references.2 ⟨f, hfield, hr⟩
      obtain ⟨e, he, rfl⟩ := List.mem_map.1 (hw.declared d hd name hn)
      exact ⟨e, rfl, StructTable.sublist_dependencyOrder hf hd he hn⟩
    · rw [hheads]
      exact a.structs.nodup_dependencyOrder
    · intro d hd
      rw [← hdecls, ← a.structs.dependencyOrder_perm.mem_iff] at hd
      obtain ⟨front, back, hsplit⟩ := List.append_of_mem hd
      rw [hc.lines_shaderText, Artifacts.shaderLines, hsplit]
      exact ⟨front.flatMap StructDecl.lines, back.flatMap StructDecl.lines ++
        (a.uniformBlocks.flatMap UniformBlock.lines ++ [""]), by simp⟩
    · intro above member below hsplit
      have heach : EachAfter TypeDeclared [] (lines a.shaderText) := by
        rw [hc.lines_shaderText, eachAfter_append]
        exact ⟨a.eachAfter_shaderLines hw hf, typeDeclared_of_head (by decide), trivial⟩
      rw [hsplit] at heach
      exact heach.of_split member rfl

def sceneDecl : StructDecl where
  name := "Scene"
  fields :=
    [⟨"lamps", .array (.array (.struct "Lamp") ⟨5, by decide⟩) ⟨4, by decide⟩⟩, ⟨"fog", .scalar .float⟩]

/-- A scene that is declared in front of its lamps. -/
def lampTable : StructTable where
  decls := [sceneDecl, ⟨"Lamp", [⟨"color", .vector .float .three⟩]⟩]
  distinct := by decide

def lampSpec : Specification where
  structs := lampTable.decls
  resources := [.stage "Corners" .vertex "", .program "Show" ["Corners"] ["Scene"] 1]
  pipelines := []

/-- The lamps are declared first, and above the line on which the scene lists them. -/
theorem Generator.run_declares_before_use_lamps :
    (∃ c order, ((LayoutCache.fresh lampTable).serveAll [.layoutOf "Lamp"]).computeAll = (.ok (), c) ∧
      topologicalOrder 2 lampTable.referenceEdges = .ok order) ∧
    ∃ a, (({} : Generator).run lampSpec).1 = .ok a ∧
      behind "struct " (lines a.shaderText) = ["Lamp", "Scene"] ∧
      ∃ above below, lines a.shaderText = above ++ "    Lamp lamps[4][5];" :: below ∧
        "Lamp" ∈ behind "struct " above := by
  constructor
  · have hok : ((LayoutCache.fresh lampTable).serveAll [.layoutOf "Lamp"]).computeAll.1 = .ok () := by
      decide +kernel
    obtain ⟨order, ho⟩ := run_declares_before_use.1 lampTable [.layoutOf "Lamp"] _ (Prod.ext hok rfl)
    exact ⟨_, order, Prod.ext hok rfl, ho⟩
  · have heval : (({} : Generator).run lampSpec).1.toOption.map (fun a =>
        decide (a.structs.dependencyOrder.map StructDecl.name = ["Lamp", "Scene"])) = some true := by
      decide +kernel
    have hscene : sceneDecl.lines = ["struct Scene", "\x7b"] ++ "    Lamp lamps[4][5];" ::
        ["    float fog;", "\x7d;", ""] := by
      decide +kernel
    obtain ⟨a, h, ha⟩ := exists_ok_of_toOption_map heval
    have hfirst := run_declares_before_use.2 {} lampSpec a h
    obtain ⟨front, back, hlines⟩ := hfirst.declarations sceneDecl List.mem_cons_self
    rw [hscene, List.append_assoc, List.append_assoc, ← List.append_assoc] at hlines
    refine ⟨a, h, hfirst.heads.trans (of_decide_eq_true ha), _, _, hlines.symm, ?_⟩
    have hword : firstWord "Lamp lamps[4][5];" = "Lamp" := by decide
    have hmember := hfirst.members _ "Lamp lamps[4][5];" _ hlines.symm
    rw [hword] at hmember
    exact hmember.resolve_left (by decide)

end RenderPlan
