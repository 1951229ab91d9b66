import RenderPlan.Fault
import RenderPlan.Text.Identifier

/-! The rules that a list of resource declarations has to keep. References may point forwards and
backwards in the list. -/
namespace RenderPlan
open Text

/-- Every name is an identifier that does not occur before, nor in `seen`. -/
def checkNames (kind : NameKind) (seen : List String) : List String → Except Fault Unit
  | [] => .ok ()
  | name :: names =>
    if !isIdentifier name then .error (.invalidIdentifier name)
    else if name ∈ seen then .error (.duplicateName kind name)
    else checkNames kind (name :: seen) names

abbrev ResourceLookup := String → Option ResourceDecl

namespace ResourceDecl

/-- The resource that `referrer` names, which has to be of the given class. -/
def require (find : ResourceLookup) (referrer name : String) (expected : ResourceClass) :
    Except Fault ResourceDecl :=
  match find name with
  | none => .error (.danglingReference referrer name)
  | some d =>
    if d.resourceClass = expected then .ok d
    else .error (.wrongResourceKind referrer name expected d.resourceClass)

def isRelativeTexture (find : ResourceLookup) (name : String) : Bool :=
  match (find name).map ResourceDecl.kind with
  | some (.texture t) => t.isWindowRelative
  | _ => false

/-- Textures with a window-relative policy, and framebuffers that attach such a texture. -/
def isWindowRelative (find : ResourceLookup) (d : ResourceDecl) : Bool :=
  match d.kind with
  | .texture t => t.isWindowRelative
  | .framebuffer f => f.attachments.any (isRelativeTexture find)
  | _ => false

end ResourceDecl

def Texture.defect? (t : Texture) : Option ResourceDefect :=
  if t.mipLevels = 0 then some .noMipLevels
  else
    match t.size, t.source with
    | some _, some _ => some .sizeAndSource
    | none, none => some .noSizeOrSource
    | none, some _ => if t.format = .rgba8Unorm then none else some (.imageFormat t.format)
    | some (.fixed w h), none => if w = 0 ∨ h = 0 then some (.emptySize w h) else none
    | some (.windowRelative x y), none =>
      if x.isPositive && y.isPositive then none else some (.badScale x y)

namespace ShaderProgram

/-- The kinds of the linked stages, which all have to be declared. -/
def stageKinds (find : ResourceLookup) (referrer : String) (p : ShaderProgram) :
    Except Fault (List StageKind) := do
  let kinds ← p.stages.mapM fun stage => do
    match (← ResourceDecl.require find referrer stage .shaderStage).kind with
    | .shaderStage s => return [s.stage]
    | _ => return []
  return kinds.flatten

/-- A program is a single compute stage, or has a vertex stage and no compute stage. -/
def check (find : ResourceLookup) (name : String) (p : ShaderProgram) : Except Fault Unit := do
  if p.stages = [] then throw (.invalidResource name .noStages)
  let kinds ← p.stageKinds find name
  if .compute ∈ kinds ∧ 1 < kinds.length then throw (.invalidResource name .mixedStages)
  if .compute ∉ kinds ∧ .vertex ∉ kinds then throw (.invalidResource name .noVertexStage)

end ShaderProgram

namespace Framebuffer

/-- The attachment slots: a texture and whether it stands in the depth slot. -/
def slots (f : Framebuffer) : List (String × Bool) :=
  f.color.map (·, false) ++ f.depth.toList.map (·, true)

/-- The textures attached, each with whether it follows the window. A texture is attached once, and
depth formats go into the depth slot only. -/
def checkSlots (find : ResourceLookup) (name : String) (seen : List String) :
    List (String × Bool) → Except Fault (List (String × Bool))
  | [] => .ok []
  | (texture, isDepthSlot) :: rest => do
    if texture ∈ seen then throw (.invalidResource name (.repeatedAttachment texture))
    let d ← ResourceDecl.require find name texture .texture
    match d.kind with
    | .texture t =>
      if t.format.isDepth ≠ isDepthSlot then
        throw (.attachmentFormat name texture
          (if isDepthSlot then .colorInDepthSlot t.format else .depthInColorSlot t.format))
      return (texture, t.isWindowRelative) :: (← checkSlots find name (texture :: seen) rest)
    | _ => checkSlots find name (texture :: seen) rest

/-- The attachments follow the window together or not at all, and as the framebuffer says if it
declares a size. -/
def conflict? (f : Framebuffer) (attached : List (String × Bool)) : Option SizeConflict :=
  let relative := (attached.find? fun a => a.2).map Prod.fst
  let constant := (attached.find? fun a => !a.2).map Prod.fst
  match f.size, relative, constant with
  | some (.fixed _ _), some texture, _ => some (.fixedAttachesRelative texture)
  | some (.windowRelative _ _), none, _ => some .relativeWithoutRelative
  | _, some r, some c => some (.mixed r c)
  | _, _, _ => none

def check (find : ResourceLookup) (name : String) (f : Framebuffer) : Except Fault Unit := do
  if f.slots = [] then throw (.invalidResource name .noAttachments)
  match f.conflict? (← checkSlots find name [] f.slots) with
  | some conflict => throw (.sizePolicyConflict name conflict)
  | none => return ()

end Framebuffer

def ResourceDecl.check (find : ResourceLookup) (d : ResourceDecl) : Except Fault Unit :=
  match d.kind with
  | .texture t =>
    match t.defect? with
    | some defect => .error (.invalidResource d.name defect)
    | none => .ok ()
  | .framebuffer f => f.check find d.name
  | .shaderProgram p => p.check find d.name
  | _ => .ok ()

end RenderPlan
