import RenderPlan.Proofs.Generation.Layouts
import RenderPlan.Proofs.Pipeline.Validation

/-! How a generation ends. Four of its stages can meet a fault. The others cannot: the shadows that
validated pipelines call for are all granted, and computed layouts can all be planned. -/
namespace RenderPlan
open LayoutCache ResourceGraph Text
variable {spec : Specification} {t : StructTable} {c : LayoutCache} {g : ResourceGraph}
  {v : Validation} {a : Artifacts} {fault : Fault}

/-- The shadows of a validation are granted, whatever the pipelines. -/
lemma exists_addShadows_validate {pipelines : List Pipeline} {layouts : Layouts} (hg : g.Coherent)
    (hv : validate pipelines g layouts = .ok v) :
    ∃ g', v.shadows.forM addShadow g = .ok () g' ∧ g'.Coherent ∧
      g'.decls = g.decls ++ g.copies v.shadows := by
  obtain ⟨-, -, rs, hrs⟩ := validate_eq_ok_iff.1 hv
  rw [hrs.shadows_eq]
  exact ShadowTarget.exists_addShadows_ofPasses hg _

namespace Specification

/-- All stages of a generation without a fault, and the artifacts they lead to. -/
structure Completed (spec : Specification) (t : StructTable) (c : LayoutCache) (g : ResourceGraph)
    (v : Validation) (a : Artifacts) : Prop where
  table : spec.typeCheck = .ok t
  cache : spec.computeLayouts t = .ok c
  graph : build spec.resources = .ok g
  validation : validate spec.pipelines g c.done = .ok v
  grown : v.shadows.forM addShadow g = .ok () a.graph
  plans : c.layouts.mapM c.done.plan = .ok a.plans
  structs_eq : a.structs = c.table
  layouts_eq : a.layouts = c.layouts
  setup_eq : a.setup = a.graph.creationOrder.map (setupStep c)
  pipelines_eq : a.pipelines = v.emissions
  diagnostics_eq : a.diagnostics = v.diagnostics

/-- The ways in which a generation can end, with the stage that it has reached. -/
inductive Ends (spec : Specification) : EStateM.Result GenerationError (Option Stage) Artifacts → Prop
  | unchecked {fault : Fault} (h : spec.typeCheck = .error fault) :
    Ends spec (.error ⟨.typeChecked, fault⟩ (some .loaded))
  | notLaidOut {t : StructTable} {fault : Fault} (ht : spec.typeCheck = .ok t)
    (h : spec.computeLayouts t = .error fault) :
    Ends spec (.error ⟨.layoutComputed, fault⟩ (some .typeChecked))
  | notBuilt {t : StructTable} {c : LayoutCache} {fault : Fault} (ht : spec.typeCheck = .ok t)
    (hc : spec.computeLayouts t = .ok c) (h : build spec.resources = .error fault) :
    Ends spec (.error ⟨.graphBuilt, fault⟩ (some .layoutComputed))
  | invalid {t : StructTable} {c : LayoutCache} {g : ResourceGraph} {fault : Fault}
    (ht : spec.typeCheck = .ok t) (hc : spec.computeLayouts t = .ok c)
    (hg : build spec.resources = .ok g) (h : validate spec.pipelines g c.done = .error fault) :
    Ends spec (.error ⟨.validated, fault⟩ (some .graphBuilt))
  | emitted {t : StructTable} {c : LayoutCache} {g : ResourceGraph} {v : Validation}
    {a : Artifacts} (h : spec.Completed t c g v a) : Ends spec (.ok a (some .emitted))

lemma resolvePipelines_of_error (h : validate spec.pipelines g c.done = .error fault) :
    spec.resolvePipelines g c = .error fault := by
  rw [resolvePipelines, h]
  rfl

lemma resolvePipelines_of_ok {g' : ResourceGraph} (h : validate spec.pipelines g c.done = .ok v)
    (hs : v.shadows.forM addShadow g = .ok () g') : spec.resolvePipelines g c = .ok (v, g') := by
  rw [resolvePipelines, h]
  simp only [bind, Except.bind, hs]
  rfl

/-- Faultless stages up to the validation leave nothing that could go wrong. -/
lemma exists_completed (ht : spec.typeCheck = .ok t) (hc : spec.computeLayouts t = .ok c)
    (hg : build spec.resources = .ok g) (hv : validate spec.pipelines g c.done = .ok v) :
    ∃ a, spec.Completed t c g v a ∧ spec.resolvePipelines g c = .ok (v, a.graph) ∧
      emit c a.graph v = .ok a := by
  obtain ⟨-, hcoh, -⟩ := build_eq_ok_iff.1 hg
  obtain ⟨g', hs, -, -⟩ := exists_addShadows_validate hcoh hv
  obtain ⟨plans, hp⟩ := (complete_of_computeLayouts hc).1.exists_plans
  refine ⟨⟨c.table, c.layouts, plans, g'.creationOrder.map (setupStep c), g', v.emissions,
    v.diagnostics⟩, ⟨ht, hc, hg, hv, hs, hp, rfl, rfl, rfl, rfl, rfl⟩,
    resolvePipelines_of_ok hv hs, ?_⟩
  rw [emit, hp]
  rfl

end Specification

open Specification

/-- Every generation ends in one of these ways, wherever it starts from. -/
lemma Generator.stages_ends (spec : Specification) (reached : Option Stage) :
    spec.Ends (Generator.stages spec reached) := by
  change spec.Ends (EStateM.bind (Generating.enter .typeChecked spec.typeCheck) _ (some .loaded))
  cases ht : spec.typeCheck with
  | error fault => exact .unchecked ht
  | ok t =>
    change spec.Ends (EStateM.bind (Generating.enter .layoutComputed (spec.computeLayouts t)) _
      (some .typeChecked))
    cases hc : spec.computeLayouts t with
    | error fault => exact .notLaidOut ht hc
    | ok c =>
      change spec.Ends (EStateM.bind (Generating.enter .graphBuilt (build spec.resources)) _
        (some .layoutComputed))
      cases hg : build spec.resources with
      | error fault => exact .notBuilt ht hc hg
      | ok g =>
        change spec.Ends (EStateM.bind (Generating.enter .validated (spec.resolvePipelines g c)) _
          (some .graphBuilt))
        cases hv : validate spec.pipelines g c.done with
        | error fault =>
          rw [resolvePipelines_of_error hv]
          exact .invalid ht hc hg hv
        | ok v =>
          obtain ⟨a, ha, hres, hemit⟩ := exists_completed ht hc hg hv
          rw [hres]
          change spec.Ends (Generating.enter .emitted (emit c a.graph v) (some .validated))
          rw [hemit]
          exact .emitted ha

namespace Generator
variable {gen : Generator}

/-- A run stops at a fault or goes through all stages. -/
lemma run_cases (gen : Generator) (spec : Specification) :
    (∃ e reached, gen.run spec = (.error e, ⟨reached⟩) ∧ spec.Ends (.error e reached)) ∨
      ∃ t c g v a, gen.run spec = (.ok a, ⟨some .emitted⟩) ∧ spec.Completed t c g v a := by
  have hends := stages_ends spec gen.reached
  rw [run]
  cases hr : stages spec gen.reached with
  | error e reached =>
    rw [hr] at hends
    exact .inl ⟨e, reached, rfl, hends⟩
  | ok a reached =>
    rw [hr] at hends
    cases hends with
    | emitted hc => exact .inr ⟨_, _, _, _, a, rfl, hc⟩

lemma completed_of_run (h : (gen.run spec).1 = .ok a) : ∃ t c g v, spec.Completed t c g v a := by
  rcases run_cases gen spec with ⟨e, reached, hrun, -⟩ | ⟨t, c, g, v, a', hrun, hc⟩ <;>
    rw [hrun] at h <;> cases h
  exact ⟨t, c, g, v, hc⟩

/-- A run whose stages meet no fault up to the validation has artifacts. -/
lemma exists_run_ok (gen : Generator) (ht : spec.typeCheck = .ok t)
    (hc : spec.computeLayouts t = .ok c) (hg : build spec.resources = .ok g)
    (hv : validate spec.pipelines g c.done = .ok v) : ∃ a, (gen.run spec).1 = .ok a := by
  rcases run_cases gen spec with ⟨e, reached, -, hends⟩ | ⟨_, _, _, _, a, hrun, -⟩
  · cases hends with
    | unchecked h =>
      rw [ht] at h
      cases h
    | notLaidOut ht' h =>
      cases ht.symm.trans ht'
      rw [hc] at h
      cases h
    | notBuilt _ _ h =>
      rw [hg] at h
      cases h
    | invalid ht' hc' hg' h =>
      cases ht.symm.trans ht'
      cases hc.symm.trans hc'
      cases hg.symm.trans hg'
      rw [hv] at h
      cases h
  · exact ⟨a, by rw [hrun]⟩

/-- A run does not depend on earlier ones. A fault stops it at one of four stages, when the stage
right before has been reached, and at the last of them it is a fault of the validation itself: the
shadows of a validation are granted and computed layouts can be planned. Without a fault the run
reaches the end. -/
theorem run_stops_before_faulty_stage (gen : Generator) (spec : Specification) :
    gen.run spec = ({} : Generator).run spec ∧
    (∀ e, (gen.run spec).1 = .error e →
      e.stage ∈ [Stage.typeChecked, .layoutComputed, .graphBuilt, .validated] ∧
      (∃ before, (gen.run spec).2.reached = some before ∧
        [before, e.stage] <:+: Labelled.all) ∧
      (e.stage = .validated → ∃ t c g, spec.typeCheck = .ok t ∧ spec.computeLayouts t = .ok c ∧
        build spec.resources = .ok g ∧ validate spec.pipelines g c.done = .error e.fault)) ∧
    (∀ a, (gen.run spec).1 = .ok a → (gen.run spec).2.reached = some .emitted) ∧
    (∀ g pipelines layouts v, build spec.resources = .ok g → validate pipelines g layouts = .ok v →
      ∃ g', v.shadows.forM addShadow g = .ok () g') ∧
    ∀ t c, spec.typeCheck = .ok t → spec.computeLayouts t = .ok c →
      ∃ plans, c.layouts.mapM c.done.plan = .ok plans := by
  refine ⟨rfl, fun e he => ?_, fun a ha => ?_, fun g pipelines layouts v hg hv => ?_,
    fun t c _ hc => (complete_of_computeLayouts hc).1.exists_plans⟩
  · rcases run_cases gen spec with ⟨e', reached, hrun, hends⟩ | ⟨_, _, _, _, a, hrun, -⟩ <;>
      rw [hrun] at he <;> cases he
    rw [hrun]
    cases hends with
    | unchecked h => exact ⟨by simp, ⟨_, rfl, [], _, rfl⟩, by simp⟩
    | notLaidOut ht h => exact ⟨by simp, ⟨_, rfl, [.loaded], _, rfl⟩, by simp⟩
    | notBuilt ht hc h => exact ⟨by simp, ⟨_, rfl, [.loaded, .typeChecked], _, rfl⟩, by simp⟩
    | invalid ht hc hg h =>
      exact ⟨by simp, ⟨_, rfl, [.loaded, .typeChecked, .layoutComputed], _, rfl⟩,
        fun _ => ⟨_, _, _, ht, hc, hg, h⟩⟩
  · rcases run_cases gen spec with ⟨e, reached, hrun, -⟩ | ⟨_, _, _, _, a', hrun, -⟩
    · rw [hrun] at ha
      cases ha
    · rw [hrun]
  · obtain ⟨-, hcoh, -⟩ := build_eq_ok_iff.1 hg
    obtain ⟨g', hs, -, -⟩ := exists_addShadows_validate hcoh hv
    exact ⟨g', hs⟩

/-- A generator that has finished before stops at a pipeline that leads nowhere. -/
theorem run_stops_before_faulty_stage_dangling :
    let gen : Generator := ⟨some .emitted⟩
    let spec : Specification := { pipelines := [{ name := "Main", passes := [], next := "End" }] }
    let e : GenerationError := ⟨.validated, .danglingReference "Main" "End"⟩
    (gen.run spec).1 = .error e ∧
    (∃ before, (gen.run spec).2.reached = some before ∧ [before, e.stage] <:+: Labelled.all) ∧
    ∃ t c g, spec.typeCheck = .ok t ∧ spec.computeLayouts t = .ok c ∧
      build spec.resources = .ok g ∧ validate spec.pipelines g c.done = .error e.fault := by
  intro gen spec e
  have he : (gen.run spec).1 = .error e := by with_unfolding_all rfl
  obtain ⟨-, hbefore, hvalidate⟩ := (run_stops_before_faulty_stage gen spec).2.1 e he
  exact ⟨he, hbefore, hvalidate rfl⟩

end Generator
end RenderPlan
