import RenderPlan.Pipeline.Emission
import RenderPlan.Resource.Graph
import RenderPlan.Shader.Declaration
import RenderPlan.Upload.Plan

/-! What a generation produces: layouts and upload plans of the structs, the resources in creation
order, the resolved pipelines, and the declarations for the shaders. -/
namespace RenderPlan

/-- A resource to create. Buffers have a size in bytes. -/
structure SetupStep where
  name : String
  resourceClass : ResourceClass
  kind : ResourceKind
  byteSize : Option Nat
  deriving DecidableEq

structure Artifacts where
  structs : StructTable
  layouts : List StructLayout
  plans : List UploadPlan
  setup : List SetupStep
  graph : ResourceGraph
  pipelines : List PipelineEmission
  diagnostics : List Diagnostic

namespace StructTable

def position? (t : StructTable) (name : String) : Option Nat := t.decls.findIdx? (·.name = name)

/-- An edge from every struct to the structs with a field that refers to it, by position. -/
def referenceEdges (t : StructTable) : List (Nat × Nat) :=
  t.decls.zipIdx.flatMap fun (d, child) =>
    ((d.fields.filterMap (·.type.referenced)).filterMap t.position?).map (·, child)

/-- The structs in an order in which each follows the ones it refers to. -/
def dependencyOrder (t : StructTable) : List StructDecl :=
  match Graph.topologicalOrder t.decls.length t.referenceEdges with
  | .ok order => order.filterMap (t.decls[·]?)
  | .error _ => t.decls

end StructTable

/-- A struct at a binding point, with the programs that use it there. -/
structure BlockUse where
  structName : String
  binding : UInt32
  programs : List String
  deriving DecidableEq

namespace BlockUse

/-- Notes a use, with the earlier ones of the same struct at the same point. -/
def add (structName : String) (binding : UInt32) (program : String) :
    List BlockUse → List BlockUse
  | [] => [⟨structName, binding, [program]⟩]
  | u :: us =>
    if u.structName = structName ∧ u.binding = binding then
      { u with programs := u.programs ++ [program] } :: us
    else u :: add structName binding program us

/-- Notes the uniform blocks of a program, each at its position. -/
def addProgram (program : String) (blocks : List String) (uses : List BlockUse) : List BlockUse :=
  blocks.zipIdx.foldl (fun uses (name, i) => add name (UInt32.ofNat i) program uses) uses

def addStep (uses : List BlockUse) (step : SetupStep) : List BlockUse :=
  match step.kind with
  | .shaderProgram p => addProgram step.name p.uniformBlocks uses
  | _ => uses

/-- The uses of all programs, in the order of first use. -/
def ofSetup (setup : List SetupStep) : List BlockUse :=
  setup.foldl addStep []

/-- The name of a block and of its instance. The first block of a struct has no instance; further
ones are told apart by their binding point. -/
def blockNames (u : BlockUse) (isFirst : Bool) : String × String :=
  if isFirst then (u.structName ++ "Block", "")
  else
    let binding := Text.decimal u.binding.toNat
    (u.structName ++ "Block" ++ binding, u.structName ++ "At" ++ binding)

/-- The declaration of a block, under a line that lists its programs. -/
def declaration (u : BlockUse) (d : StructDecl) (isFirst : Bool) : String :=
  let (block, inst) := u.blockNames isFirst
  "// Used by: " ++ ", ".intercalate u.programs ++ "\n" ++
    d.uniformBlock u.binding block inst ++ "\n"

/-- The declarations of all blocks of declared structs, with the structs seen before. -/
def declarations (t : StructTable) (seen : List String) : List BlockUse → List String
  | [] => []
  | u :: us =>
    let rest := declarations t (u.structName :: seen) us
    match t.get? u.structName with
    | some d => u.declaration d (u.structName ∉ seen) :: rest
    | none => rest

end BlockUse

namespace Artifacts

def layout? (a : Artifacts) (name : String) : Option StructLayout :=
  a.layouts.find? (·.name = name)

def plan? (a : Artifacts) (name : String) : Option UploadPlan :=
  a.plans.find? (·.structName = name)

def resizePlan (a : Artifacts) (width height : UInt32) : ResizePlan :=
  a.graph.planResize width height

/-- The declarations for the shaders: every struct after the ones it refers to, then one uniform
block for every struct and binding point in use. -/
def shaderText (a : Artifacts) : String :=
  String.join (a.structs.dependencyOrder.map fun d => d.declaration ++ "\n") ++
    String.join (BlockUse.declarations a.structs [] (BlockUse.ofSetup a.setup))

end Artifacts

end RenderPlan
