import RenderPlan.Text.Labelled
import RenderPlan.Resource.Size

/-! The resources of a rendering specification: buffers, textures, samplers, framebuffers, shader
stages and shader programs. Resources refer to each other by name. -/
namespace RenderPlan
open Number Text

inductive TextureFormat
  | rgba8Unorm
  | rgba8UnormSrgb
  | rgba16Float
  | rgba32Float
  | rg16Float
  | rg32Float
  | r32Float
  | r32Uint
  | r8Unorm
  | rgb10A2Unorm
  | rg11B10Float
  | depth16Unorm
  | depth32Float
  | depth24Stencil8
  deriving DecidableEq

namespace TextureFormat

instance : Labelled TextureFormat where
  all := [rgba8Unorm, rgba8UnormSrgb, rgba16Float, rgba32Float, rg16Float, rg32Float, r32Float,
    r32Uint, r8Unorm, rgb10A2Unorm, rg11B10Float, depth16Unorm, depth32Float, depth24Stencil8]
  label
    | rgba8Unorm => "Rgba8Unorm"
    | rgba8UnormSrgb => "Rgba8UnormSrgb"
    | rgba16Float => "Rgba16Float"
    | rgba32Float => "Rgba32Float"
    | rg16Float => "Rg16Float"
    | rg32Float => "Rg32Float"
    | r32Float => "R32Float"
    | r32Uint => "R32Uint"
    | r8Unorm => "R8Unorm"
    | rgb10A2Unorm => "Rgb10A2Unorm"
    | rg11B10Float => "Rg11B10Float"
    | depth16Unorm => "Depth16Unorm"
    | depth32Float => "Depth32Float"
    | depth24Stencil8 => "Depth24Stencil8"

/-- Depth formats, with or without a stencil part. -/
def isDepth : TextureFormat → Bool
  | depth16Unorm | depth32Float | depth24Stencil8 => true
  | _ => false

end TextureFormat

inductive FilterMode
  | nearest
  | linear
  deriving DecidableEq

instance : Labelled FilterMode where
  all := [.nearest, .linear]
  label
    | .nearest => "Nearest"
    | .linear => "Linear"

inductive AddressMode
  | repeats
  | clampToEdge
  | mirroredRepeat
  deriving DecidableEq

instance : Labelled AddressMode where
  all := [.repeats, .clampToEdge, .mirroredRepeat]
  label
    | .repeats => "Repeat"
    | .clampToEdge => "ClampToEdge"
    | .mirroredRepeat => "MirroredRepeat"

inductive StageKind
  | vertex
  | fragment
  | compute
  deriving DecidableEq

instance : Labelled StageKind where
  all := [.vertex, .fragment, .compute]
  label
    | .vertex => "Vertex"
    | .fragment => "Fragment"
    | .compute => "Compute"

/-- Where the text of a shader comes from. The text is never looked into. -/
inductive ShaderSource
  | inline (text : String)
  | path (path : String)
  deriving DecidableEq

structure Colour where
  red : Binary32
  green : Binary32
  blue : Binary32
  alpha : Binary32
  deriving DecidableEq

/-- A texture is sized by a policy or by the image it is loaded from. -/
structure Texture where
  format : TextureFormat
  mipLevels : UInt32 := 1
  size : Option SizePolicy := none
  source : Option String := none
  clear : Option Colour := none
  deriving DecidableEq

def Texture.isWindowRelative (t : Texture) : Bool :=
  match t.size with
  | some policy => policy.isWindowRelative
  | none => false

structure Sampler where
  min : FilterMode := .linear
  mag : FilterMode := .linear
  wrap : AddressMode := .repeats
  deriving DecidableEq

/-- Texture attachments, the colour ones by slot. A declared size is checked against them. -/
structure Framebuffer where
  color : List String := []
  depth : Option String := none
  size : Option SizePolicy := none
  deriving DecidableEq

/-- The attached textures, colour slots first. -/
def Framebuffer.attachments (f : Framebuffer) : List String := f.color ++ f.depth.toList

structure ShaderStage where
  stage : StageKind
  source : ShaderSource
  deriving DecidableEq

/-- Linked stages. The structs of the uniform blocks are listed in binding order. -/
structure ShaderProgram where
  stages : List String
  uniformBlocks : List String := []
  fragmentOutputs : UInt32 := 0
  deriving DecidableEq

inductive ResourceKind
  | buffer (structName : String)
  | texture (texture : Texture)
  | sampler (sampler : Sampler)
  | framebuffer (framebuffer : Framebuffer)
  | shaderStage (stage : ShaderStage)
  | shaderProgram (program : ShaderProgram)
  deriving DecidableEq

inductive ResourceClass
  | buffer
  | texture
  | sampler
  | framebuffer
  | shaderStage
  | shaderProgram
  deriving DecidableEq

instance : Labelled ResourceClass where
  all := [.buffer, .texture, .sampler, .framebuffer, .shaderStage, .shaderProgram]
  label
    | .buffer => "Buffer"
    | .texture => "Texture"
    | .sampler => "Sampler"
    | .framebuffer => "Framebuffer"
    | .shaderStage => "ShaderStage"
    | .shaderProgram => "ShaderProgram"

def ResourceClass.words : ResourceClass → String
  | buffer => "buffer"
  | texture => "texture"
  | sampler => "sampler"
  | framebuffer => "framebuffer"
  | shaderStage => "shader stage"
  | shaderProgram => "shader program"

def ResourceKind.resourceClass : ResourceKind → ResourceClass
  | buffer _ => .buffer
  | texture _ => .texture
  | sampler _ => .sampler
  | framebuffer _ => .framebuffer
  | shaderStage _ => .shaderStage
  | shaderProgram _ => .shaderProgram

/-- The resources that must exist before one of this kind: attachments and linked stages. -/
def ResourceKind.dependencies : ResourceKind → List String
  | framebuffer f => f.attachments
  | shaderProgram p => p.stages
  | _ => []

structure ResourceDecl where
  name : String
  kind : ResourceKind
  deriving DecidableEq

namespace ResourceDecl

def resourceClass (d : ResourceDecl) : ResourceClass := d.kind.resourceClass

def buffer (name structName : String) : ResourceDecl := ⟨name, .buffer structName⟩

/-- A texture with one mip level and a size policy. -/
def texture (name : String) (format : TextureFormat) (size : SizePolicy) : ResourceDecl :=
  ⟨name, .texture { format, size := some size }⟩

/-- A framebuffer whose size follows its attachments. -/
def framebuffer (name : String) (color : List String) (depth : Option String) : ResourceDecl :=
  ⟨name, .framebuffer { color, depth }⟩

def stage (name : String) (stage : StageKind) (text : String) : ResourceDecl :=
  ⟨name, .shaderStage { stage, source := .inline text }⟩

def program (name : String) (stages uniformBlocks : List String) (fragmentOutputs : UInt32) :
    ResourceDecl :=
  ⟨name, .shaderProgram { stages, uniformBlocks, fragmentOutputs }⟩

end ResourceDecl

end RenderPlan
