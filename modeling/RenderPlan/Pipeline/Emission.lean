import RenderPlan.Pipeline.Pass
import RenderPlan.Resource.Shadow

/-! Resolved passes: every binding has its unit or binding point. -/
namespace RenderPlan

inductive Diagnostic
  | attachmentCountMismatch (pipeline pass framebuffer : String) (attachments : Nat)
      (program : String) (outputs : UInt32)
  deriving DecidableEq

def Diagnostic.message : Diagnostic → String
  | attachmentCountMismatch pipeline pass framebuffer attachments program outputs =>
    s!"pass '{pass}' of pipeline '{pipeline}': framebuffer '{framebuffer}' has {attachments} " ++
      s!"color attachment(s) but program '{program}' writes {outputs} output(s)"

inductive Upload
  /-- A buffer, written by the upload plan of its struct. -/
  | buffer (buffer structName : String)
  | texture (texture : String)
  deriving DecidableEq

structure TextureUnit where
  unit : UInt32
  texture : String
  sampler : String
  deriving DecidableEq

structure ImageUnit where
  unit : UInt32
  texture : String
  deriving DecidableEq

/-- A buffer at the index of its struct among the uniform blocks of the program. -/
structure BufferBinding where
  binding : UInt32
  buffer : String
  structName : String
  deriving DecidableEq

/-- The exchange of a texture and its shadow after a pass. -/
structure TextureSwap where
  texture : String
  shadow : String
  deriving DecidableEq

structure PassEmission where
  name : String
  program : String
  kind : PassKind
  uploads : List Upload
  textures : List TextureUnit
  images : List ImageUnit
  buffers : List BufferBinding
  output : PassOutput
  /-- The window needs no explicit bind. -/
  explicitBind : Bool
  /-- The framebuffer attaches a texture with a shadow. -/
  regenerateFramebuffer : Bool
  swaps : List TextureSwap
  flags : List PassFlag
  deriving DecidableEq

/-- Pipelines are identified by their position. -/
structure PipelineEmission where
  id : Nat
  name : String
  next : Option Nat
  passes : List PassEmission
  deriving DecidableEq

structure Validation where
  emissions : List PipelineEmission
  shadows : List ShadowTarget
  diagnostics : List Diagnostic
  deriving DecidableEq

end RenderPlan
