import RenderPlan.Generation.Artifacts
import RenderPlan.Layout.Resolution
import RenderPlan.Pipeline.Validation
import RenderPlan.Specification.Basic

/-! A generation passes through its stages in a fixed order. The first fault stops it, together
with the stage that was about to be reached. -/
namespace RenderPlan
open Text

inductive Stage
  | loaded
  | typeChecked
  | layoutComputed
  | graphBuilt
  | validated
  | emitted
  deriving DecidableEq

instance : Labelled Stage where
  all := [.loaded, .typeChecked, .layoutComputed, .graphBuilt, .validated, .emitted]
  label
    | .loaded => "Loaded"
    | .typeChecked => "TypeChecked"
    | .layoutComputed => "LayoutComputed"
    | .graphBuilt => "GraphBuilt"
    | .validated => "Validated"
    | .emitted => "Emitted"

/-- A fault and the stage that it kept from being reached. -/
structure GenerationError where
  stage : Stage
  fault : Fault
  deriving DecidableEq

def GenerationError.message (e : GenerationError) : String :=
  s!"generation failed while entering stage {Labelled.label e.stage}"

namespace Specification

/-- The struct table, with every struct well formed by itself. -/
def typeCheck (spec : Specification) : Except Fault StructTable := do
  let table ← StructTable.ofList spec.structs
  table.check
  return table

/-- The layouts of all structs. Buffers have to hold declared structs. -/
def computeLayouts (spec : Specification) (table : StructTable) : Except Fault LayoutCache :=
  match LayoutCache.computeAll { table } with
  | (.error fault, _) => .error fault
  | (.ok (), cache) => layOutBuffers spec.resources cache
where
  layOutBuffers : List ResourceDecl → LayoutCache → Except Fault LayoutCache
    | [], cache => .ok cache
    | d :: ds, cache =>
      match d.kind with
      | .buffer structName =>
        match cache.layoutFor d.name structName with
        | (.ok _, cache) => layOutBuffers ds cache
        | (.error fault, _) => .error fault
      | _ => layOutBuffers ds cache

/-- The resolved pipelines, and the graph with the shadows they call for. -/
def resolvePipelines (spec : Specification) (graph : ResourceGraph) (cache : LayoutCache) :
    Except Fault (Validation × ResourceGraph) := do
  let validation ← validate spec.pipelines graph cache.done
  match (validation.shadows.forM ResourceGraph.addShadow) graph with
  | .ok _ graph => return (validation, graph)
  | .error fault _ => throw fault

def setupStep (cache : LayoutCache) (d : ResourceDecl) : SetupStep where
  name := d.name
  resourceClass := d.resourceClass
  kind := d.kind
  byteSize := match d.kind with
    | .buffer structName => (cache.get? structName).map StructLayout.totalSize
    | _ => none

def emit (cache : LayoutCache) (graph : ResourceGraph) (validation : Validation) :
    Except Fault Artifacts := do
  let plans ← cache.layouts.mapM cache.done.plan
  return {
    structs := cache.table
    layouts := cache.layouts
    plans
    setup := graph.creationOrder.map (setupStep cache)
    graph
    pipelines := validation.emissions
    diagnostics := validation.diagnostics }

end Specification

/-- Steps of a generation, with the last stage that was reached. -/
abbrev Generating := EStateM GenerationError (Option Stage)

/-- Does the work of a stage, which is reached if there is no fault. -/
def Generating.enter {α : Type} (stage : Stage) : Except Fault α → Generating α
  | .ok a => do
    set (some stage)
    return a
  | .error fault => throw ⟨stage, fault⟩

/-- A generator remembers the last stage that its latest run reached. -/
structure Generator where
  reached : Option Stage := none
  deriving DecidableEq

namespace Generator

/-- All stages over a specification. What an earlier run reached is forgotten first. -/
def stages (spec : Specification) : Generating Artifacts := do
  set (none : Option Stage)
  Generating.enter .loaded (.ok ())
  let table ← Generating.enter .typeChecked spec.typeCheck
  let cache ← Generating.enter .layoutComputed (spec.computeLayouts table)
  let graph ← Generating.enter .graphBuilt (ResourceGraph.build spec.resources)
  let (validation, graph) ← Generating.enter .validated (spec.resolvePipelines graph cache)
  Generating.enter .emitted (Specification.emit cache graph validation)

def run (g : Generator) (spec : Specification) : Except GenerationError Artifacts × Generator :=
  match stages spec g.reached with
  | .ok artifacts reached => (.ok artifacts, ⟨reached⟩)
  | .error e reached => (.error e, ⟨reached⟩)

end Generator

def Specification.generate (spec : Specification) : Except GenerationError Artifacts :=
  (({} : Generator).run spec).1

end RenderPlan
