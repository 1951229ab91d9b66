import RenderPlan.Generation.Artifacts
import RenderPlan.Specification.Encoding

/-! Artifacts written out as data. -/
namespace RenderPlan
open Format

/-- The stride is left out where there is none. -/
def FieldLayout.toData (f : FieldLayout) : Data :=
  .record ([
    ("name", .text f.name),
    ("type", f.type.toData),
    ("offset", .nat f.offset),
    ("size", .nat f.size),
    ("alignment", .nat f.alignment)] ++ f.stride.toList.map fun s => ("stride", .present (.nat s)))

def StructLayout.toData (l : StructLayout) : Data :=
  .record [
    ("name", .text l.name),
    ("fields", .listOf FieldLayout.toData l.fields),
    ("total_size", .nat l.totalSize),
    ("alignment", .nat l.alignment)]

def ScalarWrite.toData (w : ScalarWrite) : Data :=
  .record [
    ("host_path", .text w.path.text),
    ("dest_offset", .nat w.offset),
    ("scalar_width", .nat w.width),
    ("scalar", .unitCase w.scalar.label),
    ("coercion", .unitCase w.coercion.label)]

def UploadPlan.toData (p : UploadPlan) : Data :=
  .record [
    ("struct_name", .text p.structName),
    ("total_size", .nat p.totalSize),
    ("ops", .listOf ScalarWrite.toData p.writes)]

def SetupStep.toData (s : SetupStep) : Data :=
  .record [
    ("name", .text s.name),
    ("class", .label s.resourceClass),
    ("kind", s.kind.toData),
    ("byte_size", .optional .nat s.byteSize)]

def TextureRecreate.toData (t : TextureRecreate) : Data :=
  .record [
    ("name", .text t.name),
    ("format", .label t.format),
    ("mip_levels", .word32 t.mipLevels),
    ("clear", .optional Colour.toData t.clear),
    ("width", .word32 t.width),
    ("height", .word32 t.height)]

def AttachmentSlot.toData : AttachmentSlot → Data
  | color index => .valueCase "Color" (.nat index)
  | depth => .unitCase "Depth"

def AttachmentRebind.toData (a : AttachmentRebind) : Data :=
  .record [("slot", a.slot.toData), ("texture", .text a.texture)]

def FramebufferRebind.toData (f : FramebufferRebind) : Data :=
  .record [("name", .text f.name), ("attachments", .listOf AttachmentRebind.toData f.attachments)]

def ResizePlan.toData (p : ResizePlan) : Data :=
  .record [
    ("width", .word32 p.width),
    ("height", .word32 p.height),
    ("textures", .listOf TextureRecreate.toData p.textures),
    ("framebuffers", .listOf FramebufferRebind.toData p.framebuffers)]

def Upload.toData : Upload → Data
  | buffer b structName =>
    .recordCase "Buffer" [("buffer", .text b), ("struct_name", .text structName)]
  | texture t => .recordCase "Texture" [("texture", .text t)]

def TextureUnit.toData (u : TextureUnit) : Data :=
  .record [("unit", .word32 u.unit), ("texture", .text u.texture), ("sampler", .text u.sampler)]

def ImageUnit.toData (u : ImageUnit) : Data :=
  .record [("unit", .word32 u.unit), ("texture", .text u.texture)]

def BufferBinding.toData (b : BufferBinding) : Data :=
  .record [
    ("binding", .word32 b.binding),
    ("buffer", .text b.buffer),
    ("struct_name", .text b.structName)]

def TextureSwap.toData (s : TextureSwap) : Data :=
  .record [("texture", .text s.texture), ("shadow", .text s.shadow)]

def PassEmission.toData (p : PassEmission) : Data :=
  .record [
    ("name", .text p.name),
    ("program", .text p.program),
    ("kind", p.kind.toData),
    ("uploads", .listOf Upload.toData p.uploads),
    ("textures", .listOf TextureUnit.toData p.textures),
    ("images", .listOf ImageUnit.toData p.images),
    ("buffers", .listOf BufferBinding.toData p.buffers),
    ("output", p.output.toData),
    ("explicit_bind", .bool p.explicitBind),
    ("regenerate_framebuffer", .bool p.regenerateFramebuffer),
    ("swaps", .listOf TextureSwap.toData p.swaps),
    ("flags", .listOf PassFlag.toData p.flags)]

/-- A pipeline is referred to by its position. -/
def pipelineId (id : Nat) : Data := .wrapped (.nat id)

def PipelineEmission.toData (p : PipelineEmission) : Data :=
  .record [
    ("id", pipelineId p.id),
    ("name", .text p.name),
    ("next", .optional pipelineId p.next),
    ("passes", .listOf PassEmission.toData p.passes)]

def Diagnostic.toData : Diagnostic → Data
  | attachmentCountMismatch pipeline pass framebuffer attachments program outputs =>
    .recordCase "AttachmentCountMismatch" [
      ("pipeline", .text pipeline),
      ("pass", .text pass),
      ("framebuffer", .text framebuffer),
      ("attachments", .nat attachments),
      ("program", .text program),
      ("outputs", .word32 outputs)]

def ShadowTarget.toData (s : ShadowTarget) : Data :=
  .record [("texture", .text s.texture), ("name", .text s.name)]

def Validation.toData (v : Validation) : Data :=
  .record [
    ("emissions", .listOf PipelineEmission.toData v.emissions),
    ("shadows", .listOf ShadowTarget.toData v.shadows),
    ("diagnostics", .listOf Diagnostic.toData v.diagnostics)]

end RenderPlan
