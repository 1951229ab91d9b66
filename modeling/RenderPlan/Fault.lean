import RenderPlan.Number.Shortest
import RenderPlan.Resource.Kind

/-! The faults that make a specification unusable, each with its cause, and their messages. -/
namespace RenderPlan
open Text

/-- What shares a name with an earlier declaration. -/
inductive NameKind
  | struct
  | resource
  | pipeline
  | pass
  deriving DecidableEq

def NameKind.word : NameKind → String
  | struct => "struct"
  | resource => "resource"
  | pipeline => "pipeline"
  | pass => "pass"

inductive ResourceDefect
  | noMipLevels
  | sizeAndSource
  | noSizeOrSource
  | imageFormat (format : TextureFormat)
  | emptySize (width height : UInt32)
  | badScale (scaleX scaleY : Number.Binary32)
  | noStages
  | mixedStages
  | noVertexStage
  | noAttachments
  | repeatedAttachment (texture : String)
  deriving DecidableEq

def ResourceDefect.message : ResourceDefect → String
  | noMipLevels => "mip level count must be at least 1"
  | sizeAndSource => "declares both a size and an image source"
  | noSizeOrSource => "declares neither a size nor an image source"
  | imageFormat format =>
    s!"image-backed textures must be Rgba8Unorm, not {Labelled.label format}"
  | emptySize width height => s!"fixed size {width}x{height} is empty"
  | badScale x y => s!"window scale {x.plain}x{y.plain} must be positive"
  | noStages => "links no shader stages"
  | mixedStages => "mixes compute and raster stages"
  | noVertexStage => "has no vertex stage"
  | noAttachments => "has no attachments"
  | repeatedAttachment texture => s!"attaches '{texture}' more than once"

/-- How a framebuffer's size policy disagrees with its attachments. -/
inductive SizeConflict
  | fixedAttachesRelative (texture : String)
  | relativeWithoutRelative
  | mixed (relative constant : String)
  deriving DecidableEq

def SizeConflict.message : SizeConflict → String
  | fixedAttachesRelative texture =>
    s!"fixed-size framebuffer attaches window-relative texture '{texture}'"
  | relativeWithoutRelative => "window-relative framebuffer has no window-relative attachment"
  | mixed relative constant =>
    s!"mixes window-relative texture '{relative}' with fixed-size texture '{constant}'"

/-- A texture format in an attachment slot of the other sort. -/
inductive SlotMismatch
  | colorInDepthSlot (format : TextureFormat)
  | depthInColorSlot (format : TextureFormat)
  deriving DecidableEq

def SlotMismatch.message : SlotMismatch → String
  | colorInDepthSlot format => s!"color format {Labelled.label format} in the depth slot"
  | depthInColorSlot format => s!"depth format {Labelled.label format} in a color slot"

inductive PassDefect
  | badUpdate (found : ResourceClass) (name : String)
  | repeatedImage (texture : String)
  | notUniformBlock (buffer structName program : String)
  | noComputeStage (program : String)
  | dispatchIntoFramebuffer
  | drawsCompute (program : String)
  deriving DecidableEq

def PassDefect.message : PassDefect → String
  | badUpdate found name =>
    s!"updates {found.words} '{name}'; only buffers and textures take host data"
  | repeatedImage texture => s!"binds image '{texture}' more than once"
  | notUniformBlock buffer structName program =>
    s!"buffer '{buffer}' holds '{structName}', which is not a uniform block of program '{program}'"
  | noComputeStage program => s!"dispatches program '{program}', which has no compute stage"
  | dispatchIntoFramebuffer => "a dispatch cannot render into a framebuffer; bind images instead"
  | drawsCompute program => s!"draws with compute program '{program}'"

/-- The largest uniform block, in bytes. -/
def blockLimit : Nat := 65536

inductive Fault
  /-- A struct reaches itself; the path leads from the requested struct back to it. -/
  | cyclicStruct (name : String) (path : List String)
  | unknownStruct (referrer name : String)
  | layoutOverflow (name : String)
  /-- A pipeline reaches itself through the pipelines it copies. -/
  | cyclicCopy (pipeline : String) (path : List String)
  | danglingReference (referrer missing : String)
  | sizePolicyConflict (framebuffer : String) (conflict : SizeConflict)
  | duplicateName (kind : NameKind) (name : String)
  | duplicateField (structName field : String)
  | reservedName (name : String)
  | invalidIdentifier (name : String)
  | emptyStruct (name : String)
  | wrongResourceKind (referrer name : String) (expected found : ResourceClass)
  | attachmentFormat (framebuffer attachment : String) (mismatch : SlotMismatch)
  | invalidResource (name : String) (defect : ResourceDefect)
  | invalidPass (pipeline pass : String) (defect : PassDefect)
  deriving DecidableEq

def arrows (path : List String) : String := " -> ".intercalate path

def Fault.message : Fault → String
  | cyclicStruct name path => s!"struct '{name}' is cyclic: {arrows path}"
  | unknownStruct referrer name => s!"unknown struct '{name}' referenced by '{referrer}'"
  | layoutOverflow name => s!"struct '{name}' exceeds the {blockLimit}-byte block limit"
  | cyclicCopy pipeline path => s!"pipeline '{pipeline}' copies itself: {arrows path}"
  | danglingReference referrer missing =>
    s!"'{referrer}' references undeclared resource '{missing}'"
  | sizePolicyConflict framebuffer conflict =>
    s!"size policy conflict on framebuffer '{framebuffer}': {conflict.message}"
  | duplicateName kind name => s!"duplicate {kind.word} name '{name}'"
  | duplicateField structName field =>
    s!"struct '{structName}' contains more than one field named '{field}'"
  | reservedName name => s!"struct cannot be named after builtin type '{name}'"
  | invalidIdentifier name => s!"'{name}' is not a valid identifier"
  | emptyStruct name => s!"struct '{name}' has no fields"
  | wrongResourceKind referrer name expected found =>
    s!"'{referrer}' expects '{name}' to be a {expected.words}, but it is a {found.words}"
  | attachmentFormat framebuffer attachment mismatch =>
    s!"framebuffer '{framebuffer}' cannot attach '{attachment}': {mismatch.message}"
  | invalidResource name defect => s!"invalid resource '{name}': {defect.message}"
  | invalidPass pipeline pass defect =>
    s!"invalid pass '{pass}' in pipeline '{pipeline}': {defect.message}"

end RenderPlan
