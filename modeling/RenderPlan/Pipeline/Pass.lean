import RenderPlan.Text.Labelled

/-! Render passes and the pipelines that run them in order. -/
namespace RenderPlan
open Text

inductive PassKind
  | draw (vertices : UInt32)
  /-- Work groups along three axes. -/
  | dispatch (x y z : UInt32)
  deriving DecidableEq

inductive PassOutput
  | window
  | framebuffer (name : String)
  deriving DecidableEq

/-- Fixed-function state that a pass can switch. -/
inductive Capability
  | depthTest
  | stencilTest
  | blend
  | cullFace
  | scissorTest
  | framebufferSrgb
  | multisample
  deriving DecidableEq

instance : Labelled Capability where
  all := [.depthTest, .stencilTest, .blend, .cullFace, .scissorTest, .framebufferSrgb, .multisample]
  label
    | .depthTest => "DepthTest"
    | .stencilTest => "StencilTest"
    | .blend => "Blend"
    | .cullFace => "CullFace"
    | .scissorTest => "ScissorTest"
    | .framebufferSrgb => "FramebufferSrgb"
    | .multisample => "Multisample"

inductive PassFlag
  | enable (capability : Capability)
  | disable (capability : Capability)
  deriving DecidableEq

/-- A sampled texture and the sampler it is read through. -/
structure TextureBinding where
  texture : String
  sampler : String
  deriving DecidableEq

structure RenderPass where
  name : String
  program : String
  kind : PassKind
  /-- Buffers and textures that take host data before the pass. -/
  updates : List String := []
  textures : List TextureBinding := []
  /-- Textures for image access, in binding order. -/
  images : List String := []
  buffers : List String := []
  output : PassOutput := .window
  flags : List PassFlag := []
  deriving DecidableEq

def RenderPass.draw (name program : String) (vertices : UInt32) : RenderPass :=
  { name, program, kind := .draw vertices }

structure Pipeline where
  name : String
  /-- Pipelines whose passes run first. -/
  copies : List String := []
  passes : List RenderPass
  /-- The pipeline that follows this one. -/
  next : Option String := none
  deriving DecidableEq

end RenderPlan
