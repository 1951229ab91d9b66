import RenderPlan.Proofs.Generation.Stages
import RenderPlan.Proofs.Resource.CreationOrder

/-! Artifacts are closed. What a resolved pass refers to is created by a step of the setup, after
all that the step depends on, and has a layout and a plan if it is a struct. -/
namespace RenderPlan
open LayoutCache ResourceGraph
variable {spec : Specification} {t : StructTable} {c : LayoutCache} {g : ResourceGraph}
  {v : Validation} {a : Artifacts} {name : String} {kind : ResourceKind} {d : ResourceDecl}

/-- The resource that a step creates. -/
def SetupStep.decl (s : SetupStep) : ResourceDecl := ⟨s.name, s.kind⟩

namespace Artifacts

/-- A step of the setup creates a resource of that name and kind, and is of its class. -/
def Creates (a : Artifacts) (name : String) (kind : ResourceKind) : Prop :=
  ∃ s ∈ a.setup, s.name = name ∧ s.kind = kind ∧ s.resourceClass = kind.resourceClass

/-- A struct has a layout and a plan for its upload. -/
def Describes (a : Artifacts) (structName : String) : Prop :=
  (a.layout? structName).isSome ∧ (a.plan? structName).isSome

/-- A step creates a resource of that name and kind earlier than the given step. -/
def CreatesBefore (a : Artifacts) (step : SetupStep) (name : String) (kind : ResourceKind) : Prop :=
  ∃ s, [s, step].Sublist a.setup ∧ s.name = name ∧ s.kind = kind ∧
    s.resourceClass = kind.resourceClass

/-- The emission of the pipeline at position `i`, which leads to the declared next pipeline. -/
structure Emits (a : Artifacts) (pipelines : List Pipeline) (i : ℕ) (p : Pipeline)
    (e : PipelineEmission) : Prop where
  emitted : a.pipelines[i]? = some e
  id_eq : e.id = i
  name_eq : e.name = p.name
  isSome_next : e.next.isSome = p.next.isSome
  next : ∀ j, e.next = some j → ∃ q, pipelines[j]? = some q ∧ p.next = some q.name

end Artifacts

namespace Specification.Completed

lemma complete (h : spec.Completed t c g v a) : Complete t c :=
  (complete_of_computeLayouts h.cache).1

lemma structs_decls (h : spec.Completed t c g v a) : a.structs.decls = spec.structs := by
  rw [h.structs_eq, h.complete.table]
  exact (typeCheck_eq_ok_iff.1 h.table).1

lemma decls_eq (h : spec.Completed t c g v a) : g.decls = spec.resources :=
  (build_eq_ok_iff.1 h.graph).1

lemma coherent (h : spec.Completed t c g v a) : g.Coherent := (build_eq_ok_iff.1 h.graph).2.1

lemma coherent_grown (h : spec.Completed t c g v a) :
    a.graph.Coherent ∧ a.graph.decls = spec.resources ++ g.copies v.shadows := by
  obtain ⟨g', hs, hg', hdecls⟩ := exists_addShadows_validate h.coherent h.validation
  cases h.grown.symm.trans hs
  exact ⟨hg', h.decls_eq ▸ hdecls⟩

lemma map_decl_setup (h : spec.Completed t c g v a) :
    a.setup.map SetupStep.decl = a.graph.creationOrder := by
  rw [h.setup_eq, List.map_map]
  exact List.map_id _

lemma setup_perm (h : spec.Completed t c g v a) :
    (a.setup.map SetupStep.decl).Perm (spec.resources ++ g.copies v.shadows) := by
  rw [h.map_decl_setup, ← h.coherent_grown.2]
  exact creationOrder_perm _

/-- A shadow belongs to a declared texture. -/
lemma texture_of_shadow (h : spec.Completed t c g v a) {s : ShadowTarget} (hs : s ∈ v.shadows) :
    ∃ d tex, g.get? s.texture = some d ∧ d.kind = .texture tex := by
  obtain ⟨-, -, rs, hrs⟩ := validate_eq_ok_iff.1 h.validation
  have hmem := (hrs.covers.mem_iff _).1 (List.mem_map_of_mem hs)
  obtain ⟨pass, -, ht⟩ := List.mem_flatMap.1 hmem
  obtain ⟨d, hd, hc⟩ := h.coherent.texture_of_mem_feedback ht
  obtain ⟨tex, htex⟩ := ResourceDecl.kind_isOf hc
  exact ⟨d, tex, hd, htex⟩

/-- Each shadow brings its copy, so no name is lost. -/
lemma map_name_copies (h : spec.Completed t c g v a) :
    (g.copies v.shadows).map ResourceDecl.name = v.shadows.map ShadowTarget.name := by
  rw [copies, List.map_filterMap, ← List.filterMap_eq_map]
  apply List.filterMap_congr
  intro s hs
  obtain ⟨d, tex, hd, -⟩ := h.texture_of_shadow hs
  rw [hd]
  rfl

lemma setup_names_perm (h : spec.Completed t c g v a) :
    (a.setup.map SetupStep.name).Perm
      (spec.resources.map ResourceDecl.name ++ v.shadows.map ShadowTarget.name) := by
  have hperm := h.setup_perm.map ResourceDecl.name
  rwa [List.map_map, List.map_append, h.map_name_copies] at hperm

lemma nodup_setup_names (h : spec.Completed t c g v a) : (a.setup.map SetupStep.name).Nodup := by
  have hdistinct : (a.graph.creationOrder.map ResourceDecl.name).Nodup :=
    ((creationOrder_perm a.graph).map _).nodup_iff.2 h.coherent_grown.1.distinct
  rwa [← h.map_decl_setup, List.map_map] at hdistinct

lemma creates_of_mem (h : spec.Completed t c g v a) (hd : d ∈ a.graph.decls) :
    a.Creates d.name d.kind := by
  refine ⟨setupStep c d, ?_, rfl, rfl, rfl⟩
  rw [h.setup_eq]
  exact List.mem_map_of_mem ((creationOrder_perm _).mem_iff.2 hd)

lemma creates_of_holds (h : spec.Completed t c g v a) (hh : g.Holds name kind) :
    a.Creates name kind := by
  obtain ⟨d, hd, rfl⟩ := hh
  obtain ⟨hmem, rfl⟩ := h.coherent.get?_eq_some_iff.1 hd
  apply h.creates_of_mem
  rw [h.coherent_grown.2, ← h.decls_eq]
  exact List.mem_append_left _ hmem

/-- A shadow is created as a copy of its texture. -/
lemma creates_shadow (h : spec.Completed t c g v a) {s : ShadowTarget} (hs : s ∈ v.shadows) :
    ∃ tex, a.Creates s.texture (.texture tex) ∧ a.Creates s.name (.texture tex) := by
  obtain ⟨d, tex, hd, htex⟩ := h.texture_of_shadow hs
  refine ⟨tex, h.creates_of_holds ⟨d, hd, htex⟩, ?_⟩
  have hcopy : (⟨s.name, .texture tex⟩ : ResourceDecl) ∈ g.copies v.shadows :=
    List.mem_filterMap.2 ⟨s, hs, by rw [hd, Option.map_some, htex]⟩
  exact h.creates_of_mem (h.coherent_grown.2 ▸ List.mem_append_right _ hcopy)

lemma layout?_eq (h : spec.Completed t c g v a) (name : String) : a.layout? name = c.get? name := by
  rw [Artifacts.layout?, h.layouts_eq]
  exact h.complete.find?_layouts name

lemma plan?_eq (h : spec.Completed t c g v a) (name : String) :
    a.plan? name = (c.get? name).bind fun l => (c.done.plan l).toOption :=
  h.complete.find?_plans h.plans name

lemma describes (h : spec.Completed t c g v a) (hl : (c.get? name).isSome) : a.Describes name := by
  obtain ⟨l, hl⟩ := Option.isSome_iff_exists.1 hl
  obtain ⟨xs, -, hp⟩ := h.complete.exists_plan hl
  rw [Artifacts.Describes, h.layout?_eq, h.plan?_eq, hl, Option.bind_some, hp]
  exact ⟨rfl, rfl⟩

/-- What a step depends on is created before it. -/
lemma createsBefore (h : spec.Completed t c g v a) {step : SetupStep} (hs : step ∈ a.setup)
    (hn : name ∈ step.kind.dependencies) (hd : a.graph.get? name = some d) :
    a.CreatesBefore step name d.kind := by
  rw [h.setup_eq] at hs
  obtain ⟨e, he, rfl⟩ := List.mem_map.1 hs
  have hsub := h.coherent_grown.1.sublist_creationOrder ((creationOrder_perm _).mem_iff.1 he) hn hd
  refine ⟨setupStep c d, ?_, (h.coherent_grown.1.get?_eq_some_iff.1 hd).2, rfl, rfl⟩
  rw [h.setup_eq]
  exact hsub.map _

/-- The declaration behind a step has passed its check. -/
lemma checked (h : spec.Completed t c g v a) {step : SetupStep} (hs : step ∈ a.setup) :
    step.decl.check a.graph.get? = .ok () := by
  apply h.coherent_grown.1.checked
  rw [← (creationOrder_perm _).mem_iff, ← h.map_decl_setup]
  exact List.mem_map_of_mem hs

/-- Each pass among the artifacts is the resolution of a pass of the specification. -/
lemma exists_resolvePass (h : spec.Completed t c g v a) {e : PipelineEmission}
    (he : e ∈ a.pipelines) {p : PassEmission} (hp : p ∈ e.passes) :
    ∃ pass reports, (⟨g, c.done, v.shadows⟩ : PassContext).resolvePass e.name pass =
      .ok (p, reports) := by
  obtain ⟨-, -, rs, hrs⟩ := validate_eq_ok_iff.1 h.validation
  exact hrs.exists_resolvePass (h.pipelines_eq ▸ he) hp

lemma closed_pass (h : spec.Completed t c g v a) {e : PipelineEmission} (he : e ∈ a.pipelines)
    {p : PassEmission} (hp : p ∈ e.passes) : p.Closed a.Creates a.Describes := by
  obtain ⟨pass, reports, hpass⟩ := h.exists_resolvePass he hp
  refine PassContext.resolvePass_closed hpass (fun _ _ => h.creates_of_holds)
    (fun _ => h.describes) fun swap hswap => ?_
  obtain ⟨s, hs, -, rfl⟩ := PassContext.mem_swaps hswap
  obtain ⟨tex, htexture, hshadow⟩ := h.creates_shadow hs
  exact ⟨⟨tex, htexture⟩, tex, hshadow⟩

lemma exists_emits (h : spec.Completed t c g v a) {i : ℕ} {p : Pipeline}
    (hp : spec.pipelines[i]? = some p) : ∃ e, a.Emits spec.pipelines i p e := by
  obtain ⟨-, hn, rs, hrs⟩ := validate_eq_ok_iff.1 h.validation
  rw [hrs.getElem?_pipelines, Option.map_eq_some_iff] at hp
  obtain ⟨r, hr, rfl⟩ := hp
  have hvalid := hrs.valid r (List.mem_of_getElem? hr)
  refine ⟨r.emission spec.pipelines i, ?_, rfl, rfl, ?_, fun j hj => ?_⟩
  · rw [h.pipelines_eq, hrs.getElem?_emissions, hr]
    rfl
  · change (r.pipeline.next.bind (Pipeline.position? spec.pipelines)).isSome = _
    cases hnext : r.pipeline.next with
    | none => rfl
    | some name => exact Pipeline.isSome_position?_iff.2 (hvalid.next name hnext)
  · obtain ⟨name, hnext, hpos⟩ := Option.bind_eq_some_iff.1 hj
    obtain ⟨q, hq, rfl⟩ := (Pipeline.position?_eq_some_iff hn).1 hpos
    exact ⟨q, hq, hnext⟩

lemma length_pipelines (h : spec.Completed t c g v a) :
    a.pipelines.length = spec.pipelines.length := by
  obtain ⟨-, -, rs, hrs⟩ := validate_eq_ok_iff.1 h.validation
  rw [h.pipelines_eq, hrs.emissions_eq, ← hrs.pipelines_eq, List.length_map, List.length_map,
    List.length_zipIdx]

end Specification.Completed

/-- Nothing that the artifacts refer to is missing, of another class, or created too late. -/
structure Artifacts.Closed (spec : Specification) (shadows : List ShadowTarget) (a : Artifacts) :
    Prop where
  setup_names : (a.setup.map SetupStep.name).Perm
    (spec.resources.map ResourceDecl.name ++ shadows.map ShadowTarget.name)
  once : (a.setup.map SetupStep.name).Nodup
  resources : ∀ d ∈ spec.resources, a.Creates d.name d.kind
  shadows : ∀ s ∈ shadows, ∃ tex, a.Creates s.texture (.texture tex) ∧ a.Creates s.name (.texture tex)
  attachments : ∀ step ∈ a.setup, ∀ f, step.kind = .framebuffer f →
    ∀ name ∈ f.attachments, ∃ tex, a.CreatesBefore step name (.texture tex)
  stages : ∀ step ∈ a.setup, ∀ p, step.kind = .shaderProgram p →
    ∀ name ∈ p.stages, ∃ stage, a.CreatesBefore step name (.shaderStage stage)
  passes : ∀ e ∈ a.pipelines, ∀ p ∈ e.passes, p.Closed a.Creates a.Describes
  length_pipelines : a.pipelines.length = spec.pipelines.length
  pipelines : ∀ (i : ℕ) (p : Pipeline), spec.pipelines[i]? = some p →
    ∃ e, a.Emits spec.pipelines i p e

/-- The artifacts of every run without a fault are closed, with the shadows of its validation. -/
theorem Generator.run_closed (gen : Generator) (spec : Specification) (a : Artifacts)
    (h : (gen.run spec).1 = .ok a) :
    ∃ t c g v, spec.typeCheck = .ok t ∧ spec.computeLayouts t = .ok c ∧
      build spec.resources = .ok g ∧ validate spec.pipelines g c.done = .ok v ∧
      a.Closed spec v.shadows := by
  obtain ⟨t, c, g, v, hc⟩ := completed_of_run h
  refine ⟨t, c, g, v, hc.table, hc.cache, hc.graph, hc.validation, hc.setup_names_perm,
    hc.nodup_setup_names, fun d hd => ?_, fun s hs => hc.creates_shadow hs, ?_, ?_,
    fun e he p hp => hc.closed_pass he hp, hc.length_pipelines, fun i p hp => hc.exists_emits hp⟩
  · apply hc.creates_of_mem
    rw [hc.coherent_grown.2]
    exact List.mem_append_left _ hd
  · intro step hs f hk name hn
    obtain ⟨e, tex, he, htex⟩ := ResourceDecl.exists_attachment (hc.checked hs) hk hn
    have hbefore := hc.createsBefore hs (hk ▸ hn) he
    exact ⟨tex, htex ▸ hbefore⟩
  · intro step hs p hk name hn
    obtain ⟨e, stage, he, hstage⟩ := ResourceDecl.exists_stage (hc.checked hs) hk hn
    have hbefore := hc.createsBefore hs (hk ▸ hn) he
    exact ⟨stage, hstage ▸ hbefore⟩

/-- A trail that fades: each frame samples the texture that it renders into. -/
def trailSpec : Specification where
  structs :=
    [⟨"Fade", [⟨"amount", .scalar .float⟩, ⟨"tint", .struct "Tint"⟩]⟩,
      ⟨"Tint", [⟨"color", .vector .float .three⟩]⟩]
  resources :=
    [.program "Blend" ["Corners", "Mix"] ["Fade"] 1, .framebuffer "Canvas" ["Trail"] none,
      .buffer "Settings" "Fade", ⟨"Smooth", .sampler {}⟩, .stage "Corners" .vertex "",
      .stage "Mix" .fragment "", .texture "Trail" .rgba8Unorm (.fixed 64 64)]
  pipelines :=
    [{ name := "Main", copies := ["Fading"], passes := [.draw "Show" "Blend" 3], next := "Fading" },
      { name := "Fading"
        passes := [{
          name := "Mix", program := "Blend", kind := .draw 3, updates := ["Settings", "Trail"]
          textures := [⟨"Trail", "Smooth"⟩], images := ["Trail"], buffers := ["Settings"]
          output := .framebuffer "Canvas" }] }]

/-- The trail gets a shadow, and everything is created in order. -/
theorem Generator.run_closed_trail :
    ∃ a, (({} : Generator).run trailSpec).1 = .ok a ∧
      a.setup.map SetupStep.name =
        ["Settings", "Smooth", "Corners", "Mix", "Blend", "Trail", "Canvas", "TrailTarget"] ∧
      ∃ t c g v, trailSpec.typeCheck = .ok t ∧ trailSpec.computeLayouts t = .ok c ∧
        build trailSpec.resources = .ok g ∧ validate trailSpec.pipelines g c.done = .ok v ∧
        a.Closed trailSpec v.shadows := by
  have hsetup : (({} : Generator).run trailSpec).1.toOption.map (·.setup.map SetupStep.name) =
      some ["Settings", "Smooth", "Corners", "Mix", "Blend", "Trail", "Canvas", "TrailTarget"] := by
    decide +kernel
  cases h : (({} : Generator).run trailSpec).1 with
  | error e =>
    rw [h] at hsetup
    cases hsetup
  | ok a =>
    rw [h] at hsetup
    exact ⟨a, rfl, Option.some.inj hsetup, run_closed {} trailSpec a h⟩

end RenderPlan
