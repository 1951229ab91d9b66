import RenderPlan.Resource.Kind

/-! What has to be done when the window changes its size: textures are made anew, and after all of
them the framebuffers that attach them are bound again. -/
namespace RenderPlan

structure TextureRecreate where
  name : String
  format : TextureFormat
  mipLevels : UInt32
  clear : Option Colour
  width : UInt32
  height : UInt32
  deriving DecidableEq

inductive AttachmentSlot
  | color (index : Nat)
  | depth
  deriving DecidableEq

structure AttachmentRebind where
  slot : AttachmentSlot
  texture : String
  deriving DecidableEq

structure FramebufferRebind where
  name : String
  attachments : List AttachmentRebind
  deriving DecidableEq

structure ResizePlan where
  width : UInt32
  height : UInt32
  textures : List TextureRecreate
  framebuffers : List FramebufferRebind
  deriving DecidableEq

inductive ResizeStep
  | recreate (texture : TextureRecreate)
  | rebind (framebuffer : FramebufferRebind)
  deriving DecidableEq

def ResizeStep.name : ResizeStep → String
  | recreate t => t.name
  | rebind f => f.name

namespace ResizePlan

def steps (p : ResizePlan) : List ResizeStep :=
  p.textures.map .recreate ++ p.framebuffers.map .rebind

def isEmpty (p : ResizePlan) : Bool := p.textures.isEmpty && p.framebuffers.isEmpty

end ResizePlan

/-- The attachments by slot, colour slots first. -/
def Framebuffer.rebinds (f : Framebuffer) : List AttachmentRebind :=
  f.color.mapIdx (fun slot texture => ⟨.color slot, texture⟩) ++
    f.depth.toList.map fun texture => ⟨.depth, texture⟩

end RenderPlan
