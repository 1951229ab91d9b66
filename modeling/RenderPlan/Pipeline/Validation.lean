import RenderPlan.Layout.StructLayout
import RenderPlan.Pipeline.Copies
import RenderPlan.Pipeline.Emission
import RenderPlan.Resource.Graph

/-! Passes checked against the resources and resolved. -/
namespace RenderPlan

/-- The framebuffer a pass renders into, if it is declared. -/
def RenderPass.target? (g : ResourceGraph) (pass : RenderPass) : Option Framebuffer :=
  match pass.output with
  | .window => none
  | .framebuffer name =>
    match (g.get? name).map ResourceDecl.kind with
    | some (.framebuffer f) => some f
    | _ => none

/-- The attachments that a pass renders into and samples as well, in attachment order. -/
def RenderPass.feedback (g : ResourceGraph) (pass : RenderPass) : List String :=
  match pass.target? g with
  | some f => f.attachments.filter fun t => pass.textures.any (·.texture = t)
  | none => []

namespace ShadowTarget

/-- Adds a shadow for a texture that has none yet. -/
def addFor (g : ResourceGraph) (shadows : List ShadowTarget) (texture : String) :
    List ShadowTarget :=
  if shadows.any (·.texture = texture) then shadows
  else shadows ++ [named texture (g.names ++ shadows.map name)]

/-- The shadows that some passes call for, in order of first use. -/
def ofPasses (g : ResourceGraph) (passes : List RenderPass) : List ShadowTarget :=
  (passes.flatMap (·.feedback g)).foldl (addFor g) []

def of? (shadows : List ShadowTarget) (texture : String) : Option ShadowTarget :=
  shadows.find? (·.texture = texture)

end ShadowTarget

structure PassContext where
  graph : ResourceGraph
  layouts : Layouts
  shadows : List ShadowTarget

namespace PassContext
variable (c : PassContext)

/-- The struct of a buffer, which has to be laid out. -/
def bufferStruct (referrer buffer : String) : Except Fault String := do
  match (← c.graph.require referrer buffer .buffer).kind with
  | .buffer structName =>
    if (c.layouts.get? structName).isSome then return structName
    else throw (.unknownStruct buffer structName)
  | k => throw (.wrongResourceKind referrer buffer .buffer k.resourceClass)

/-- The program of a pass, with the structs of its uniform blocks laid out. -/
def program (referrer name : String) : Except Fault ShaderProgram := do
  match (← c.graph.require referrer name .shaderProgram).kind with
  | .shaderProgram p =>
    match p.uniformBlocks.find? fun block => (c.layouts.get? block).isNone with
    | some block => throw (.unknownStruct name block)
    | none => return p
  | k => throw (.wrongResourceKind referrer name .shaderProgram k.resourceClass)

def isCompute (p : ShaderProgram) : Bool :=
  p.stages.any fun stage =>
    match (c.graph.get? stage).map ResourceDecl.kind with
    | some (.shaderStage s) => s.stage = .compute
    | _ => false

/-- Only buffers and textures take host data. -/
def upload (pipeline : String) (pass : RenderPass) (name : String) : Except Fault Upload := do
  let referrer := s!"{pipeline}.{pass.name}"
  match c.graph.get? name with
  | none => throw (.danglingReference referrer name)
  | some d =>
    match d.kind with
    | .buffer _ => return .buffer name (← c.bufferStruct referrer name)
    | .texture _ => return .texture name
    | k => throw (.invalidPass pipeline pass.name (.badUpdate k.resourceClass name))

def textureUnit (referrer : String) (unit : Nat) (b : TextureBinding) :
    Except Fault TextureUnit := do
  let _ ← c.graph.require referrer b.texture .texture
  let _ ← c.graph.require referrer b.sampler .sampler
  return ⟨UInt32.ofNat unit, b.texture, b.sampler⟩

/-- Images at consecutive units, each texture once. -/
def imageUnits (pipeline : String) (pass : RenderPass) (bound : List ImageUnit) :
    List String → Except Fault (List ImageUnit)
  | [] => .ok bound
  | texture :: rest => do
    let _ ← c.graph.require s!"{pipeline}.{pass.name}" texture .texture
    if bound.any (·.texture = texture) then
      throw (.invalidPass pipeline pass.name (.repeatedImage texture))
    imageUnits pipeline pass (bound ++ [⟨UInt32.ofNat bound.length, texture⟩]) rest

/-- A buffer is bound where the program first lists its struct. -/
def bufferBinding (pipeline : String) (pass : RenderPass) (p : ShaderProgram) (buffer : String) :
    Except Fault BufferBinding := do
  let structName ← c.bufferStruct s!"{pipeline}.{pass.name}" buffer
  match p.uniformBlocks.findIdx? (· = structName) with
  | some i => return ⟨UInt32.ofNat i, buffer, structName⟩
  | none =>
    throw (.invalidPass pipeline pass.name (.notUniformBlock buffer structName pass.program))

/-- The framebuffer a pass renders into, or none for the window. -/
def output (referrer : String) : PassOutput → Except Fault (Option (String × Framebuffer))
  | .window => .ok none
  | .framebuffer name => do
    match (← c.graph.require referrer name .framebuffer).kind with
    | .framebuffer f => return some (name, f)
    | k => throw (.wrongResourceKind referrer name .framebuffer k.resourceClass)

/-- A dispatch needs a compute program and no framebuffer, a draw a program without a compute
stage. -/
def kindDefect? (pass : RenderPass) (compute toFramebuffer : Bool) : Option PassDefect :=
  match pass.kind with
  | .dispatch _ _ _ =>
    if !compute then some (.noComputeStage pass.program)
    else if toFramebuffer then some .dispatchIntoFramebuffer
    else none
  | .draw _ => if compute then some (.drawsCompute pass.program) else none

/-- The swaps after a pass: each texture it samples and renders into, with its shadow. -/
def swaps (pass : RenderPass) : List TextureSwap :=
  (pass.feedback c.graph).filterMap fun t =>
    (ShadowTarget.of? c.shadows t).map fun s => ⟨s.texture, s.name⟩

/-- Reports a framebuffer with another number of colour attachments than the program has outputs. -/
def diagnostics (pipeline : String) (pass : RenderPass) (p : ShaderProgram) :
    Option (String × Framebuffer) → List Diagnostic
  | some (name, f) =>
    if f.color.length = p.fragmentOutputs.toNat then []
    else [.attachmentCountMismatch pipeline pass.name name f.color.length pass.program
      p.fragmentOutputs]
  | none => []

def resolvePass (pipeline : String) (pass : RenderPass) :
    Except Fault (PassEmission × List Diagnostic) := do
  let referrer := s!"{pipeline}.{pass.name}"
  let p ← c.program referrer pass.program
  let uploads ← pass.updates.mapM (c.upload pipeline pass)
  let textures ← pass.textures.zipIdx.mapM fun (b, unit) => c.textureUnit referrer unit b
  let images ← c.imageUnits pipeline pass [] pass.images
  let buffers ← pass.buffers.mapM (c.bufferBinding pipeline pass p)
  let target ← c.output referrer pass.output
  match kindDefect? pass (c.isCompute p) target.isSome with
  | some defect => throw (.invalidPass pipeline pass.name defect)
  | none => pure ()
  let attached := match target with
    | some (_, f) => f.attachments
    | none => []
  let emission : PassEmission := {
    name := pass.name
    program := pass.program
    kind := pass.kind
    uploads, textures, images, buffers
    output := pass.output
    explicitBind := target.isSome
    regenerateFramebuffer := attached.any fun t => (ShadowTarget.of? c.shadows t).isSome
    swaps := c.swaps pass
    flags := pass.flags }
  return (emission, diagnostics pipeline pass p target)

def resolvePipeline (pipelines : List Pipeline) (id : Nat) (p : Pipeline)
    (passes : List RenderPass) : Except Fault (PipelineEmission × List Diagnostic) := do
  let next ← match p.next with
    | none => pure none
    | some name =>
      match Pipeline.position? pipelines name with
      | some i => pure (some i)
      | none => throw (.danglingReference p.name name)
  let resolved ← passes.mapM (c.resolvePass p.name)
  return (⟨id, p.name, next, resolved.map Prod.fst⟩, resolved.flatMap Prod.snd)

end PassContext

def validate (pipelines : List Pipeline) (graph : ResourceGraph) (layouts : Layouts) :
    Except Fault Validation := do
  checkNames .pipeline [] (pipelines.map Pipeline.name)
  let expanded ← Pipeline.expandAll pipelines
  let shadows := ShadowTarget.ofPasses graph expanded.flatten
  let context : PassContext := { graph, layouts, shadows }
  let resolved ← (pipelines.zip expanded).zipIdx.mapM fun ((p, passes), id) =>
    context.resolvePipeline pipelines id p passes
  return ⟨resolved.map Prod.fst, shadows, resolved.flatMap Prod.snd⟩

end RenderPlan
