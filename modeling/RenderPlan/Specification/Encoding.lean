import RenderPlan.Format.Data
import RenderPlan.Specification.Basic

/-! Specifications written out as data, with every field present. -/
namespace RenderPlan
open Format

def ShaderType.toData (t : ShaderType) : Data := .text t.spelling

def FieldDecl.toData (f : FieldDecl) : Data :=
  .record [("name", .text f.name), ("type", f.type.toData)]

def StructDecl.toData (d : StructDecl) : Data :=
  .record [("name", .text d.name), ("fields", .listOf FieldDecl.toData d.fields)]

def SizePolicy.toData : SizePolicy → Data
  | fixed width height => .recordCase "Fixed" [("width", .word32 width), ("height", .word32 height)]
  | windowRelative x y =>
    .recordCase "WindowRelative" [("scale_x", .float x), ("scale_y", .float y)]

def Colour.toData (c : Colour) : Data :=
  .tuple [.float c.red, .float c.green, .float c.blue, .float c.alpha]

def ShaderSource.toData : ShaderSource → Data
  | inline text => .valueCase "Inline" (.text text)
  | path file => .valueCase "Path" (.text file)

def ResourceKind.toData : ResourceKind → Data
  | buffer structName => .recordCase "Buffer" [("struct_name", .text structName)]
  | texture t =>
    .recordCase "Texture" [
      ("format", .label t.format),
      ("mip_levels", .word32 t.mipLevels),
      ("size", .optional SizePolicy.toData t.size),
      ("source", .optional .text t.source),
      ("clear", .optional Colour.toData t.clear)]
  | sampler s =>
    .recordCase "Sampler" [("min", .label s.min), ("mag", .label s.mag), ("wrap", .label s.wrap)]
  | framebuffer f =>
    .recordCase "Framebuffer" [
      ("color", .texts f.color),
      ("depth", .optional .text f.depth),
      ("size", .optional SizePolicy.toData f.size)]
  | shaderStage s =>
    .recordCase "ShaderStage" [("stage", .label s.stage), ("source", s.source.toData)]
  | shaderProgram p =>
    .recordCase "ShaderProgram" [
      ("stages", .texts p.stages),
      ("uniform_blocks", .texts p.uniformBlocks),
      ("fragment_outputs", .word32 p.fragmentOutputs)]

def ResourceDecl.toData (d : ResourceDecl) : Data :=
  .record [("name", .text d.name), ("kind", d.kind.toData)]

def PassKind.toData : PassKind → Data
  | draw vertices => .recordCase "Draw" [("vertices", .word32 vertices)]
  | dispatch x y z => .recordCase "Dispatch" [("x", .word32 x), ("y", .word32 y), ("z", .word32 z)]

def PassOutput.toData : PassOutput → Data
  | window => .unitCase "Window"
  | framebuffer name => .valueCase "Framebuffer" (.text name)

def PassFlag.toData : PassFlag → Data
  | enable capability => .valueCase "Enable" (.label capability)
  | disable capability => .valueCase "Disable" (.label capability)

def TextureBinding.toData (b : TextureBinding) : Data :=
  .record [("texture", .text b.texture), ("sampler", .text b.sampler)]

def RenderPass.toData (p : RenderPass) : Data :=
  .record [
    ("name", .text p.name),
    ("program", .text p.program),
    ("kind", p.kind.toData),
    ("updates", .texts p.updates),
    ("textures", .listOf TextureBinding.toData p.textures),
    ("images", .texts p.images),
    ("buffers", .texts p.buffers),
    ("output", p.output.toData),
    ("flags", .listOf PassFlag.toData p.flags)]

def Pipeline.toData (p : Pipeline) : Data :=
  .record [
    ("name", .text p.name),
    ("copies", .texts p.copies),
    ("passes", .listOf RenderPass.toData p.passes),
    ("next", .optional .text p.next)]

def Specification.toData (s : Specification) : Data :=
  .record [
    ("structs", .listOf StructDecl.toData s.structs),
    ("resources", .listOf ResourceDecl.toData s.resources),
    ("pipelines", .listOf Pipeline.toData s.pipelines)]

end RenderPlan
