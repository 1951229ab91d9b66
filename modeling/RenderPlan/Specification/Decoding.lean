import RenderPlan.Format.Document
import RenderPlan.Layout.StructLayout
import RenderPlan.Specification.Basic

/-! Specifications read from a document. Fields that are left out take the defaults of the types;
fields without a default have to be there. -/
namespace RenderPlan
open Format Format.Document Number

section
variable {τ : Type} [Document τ]

def ShaderType.decode (d : τ) : Option ShaderType :=
  (text? d).bind fun s => (parse s).toOption

def FieldDecl.decode (d : τ) : Option FieldDecl := do
  let [name, type] ← record? "FieldDef" ["name", "type"] d | none
  return { name := ← required text? name, type := ← required ShaderType.decode type }

def StructDecl.decode (d : τ) : Option StructDecl := do
  let [name, fields] ← record? "StructDef" ["name", "fields"] d | none
  return {
    name := ← required text? name
    fields := ← required (listOf? FieldDecl.decode) fields }

def SizePolicy.decode (d : τ) : Option SizePolicy := do
  match ← recordCase? d with
  | "Fixed" =>
    let [width, height] ← parameters? ["width", "height"] d | none
    return .fixed (← required word32? width) (← required word32? height)
  | "WindowRelative" =>
    let [x, y] ← parameters? ["scale_x", "scale_y"] d | none
    return .windowRelative (← required float? x) (← required float? y)
  | _ => none

def Colour.decode (d : τ) : Option Colour := do
  let [red, green, blue, alpha] ← tuple? 4 d | none
  return {
    red := ← float? red
    green := ← float? green
    blue := ← float? blue
    alpha := ← float? alpha }

def ShaderSource.decode (d : τ) : Option ShaderSource := do
  match ← valueCase? d with
  | ("Inline", text) => return .inline (← text? text)
  | ("Path", file) => return .path (← text? file)
  | _ => none

def Texture.decode (d : τ) : Option Texture := do
  let [format, mipLevels, size, source, clear] ←
    parameters? ["format", "mip_levels", "size", "source", "clear"] d | none
  return {
    format := ← required label? format
    mipLevels := ← withDefault 1 word32? mipLevels
    size := ← withDefault none (optionalOf? SizePolicy.decode) size
    source := ← withDefault none (optionalOf? text?) source
    clear := ← withDefault none (optionalOf? Colour.decode) clear }

def Sampler.decode (d : τ) : Option Sampler := do
  let [min, mag, wrap] ← parameters? ["min", "mag", "wrap"] d | none
  return {
    min := ← withDefault .linear label? min
    mag := ← withDefault .linear label? mag
    wrap := ← withDefault .repeats label? wrap }

def Framebuffer.decode (d : τ) : Option Framebuffer := do
  let [color, depth, size] ← parameters? ["color", "depth", "size"] d | none
  return {
    color := ← withDefault [] (listOf? text?) color
    depth := ← withDefault none (optionalOf? text?) depth
    size := ← withDefault none (optionalOf? SizePolicy.decode) size }

def ShaderStage.decode (d : τ) : Option ShaderStage := do
  let [stage, source] ← parameters? ["stage", "source"] d | none
  return { stage := ← required label? stage, source := ← required ShaderSource.decode source }

def ShaderProgram.decode (d : τ) : Option ShaderProgram := do
  let [stages, uniformBlocks, fragmentOutputs] ←
    parameters? ["stages", "uniform_blocks", "fragment_outputs"] d | none
  return {
    stages := ← required (listOf? text?) stages
    uniformBlocks := ← withDefault [] (listOf? text?) uniformBlocks
    fragmentOutputs := ← withDefault 0 word32? fragmentOutputs }

def ResourceKind.decode (d : τ) : Option ResourceKind := do
  match ← recordCase? d with
  | "Buffer" =>
    let [structName] ← parameters? ["struct_name"] d | none
    return .buffer (← required text? structName)
  | "Texture" => return .texture (← Texture.decode d)
  | "Sampler" => return .sampler (← Sampler.decode d)
  | "Framebuffer" => return .framebuffer (← Framebuffer.decode d)
  | "ShaderStage" => return .shaderStage (← ShaderStage.decode d)
  | "ShaderProgram" => return .shaderProgram (← ShaderProgram.decode d)
  | _ => none

def ResourceDecl.decode (d : τ) : Option ResourceDecl := do
  let [name, kind] ← record? "ResourceDecl" ["name", "kind"] d | none
  return { name := ← required text? name, kind := ← required ResourceKind.decode kind }

def PassKind.decode (d : τ) : Option PassKind := do
  match ← recordCase? d with
  | "Draw" =>
    let [vertices] ← parameters? ["vertices"] d | none
    return .draw (← required word32? vertices)
  | "Dispatch" =>
    let [x, y, z] ← parameters? ["x", "y", "z"] d | none
    return .dispatch (← required word32? x) (← required word32? y) (← required word32? z)
  | _ => none

def PassOutput.decode (d : τ) : Option PassOutput :=
  match unitCase? d with
  | some "Window" => some .window
  | some _ => none
  | none => do
    match ← valueCase? d with
    | ("Framebuffer", name) => return .framebuffer (← text? name)
    | _ => none

def PassFlag.decode (d : τ) : Option PassFlag := do
  match ← valueCase? d with
  | ("Enable", capability) => return .enable (← label? capability)
  | ("Disable", capability) => return .disable (← label? capability)
  | _ => none

def TextureBinding.decode (d : τ) : Option TextureBinding := do
  let [texture, sampler] ← record? "TextureBinding" ["texture", "sampler"] d | none
  return { texture := ← required text? texture, sampler := ← required text? sampler }

def RenderPass.decode (d : τ) : Option RenderPass := do
  let [name, program, kind, updates, textures, images, buffers, output, flags] ←
    record? "RenderPass" ["name", "program", "kind", "updates", "textures", "images", "buffers",
      "output", "flags"] d | none
  return {
    name := ← required text? name
    program := ← required text? program
    kind := ← required PassKind.decode kind
    updates := ← withDefault [] (listOf? text?) updates
    textures := ← withDefault [] (listOf? TextureBinding.decode) textures
    images := ← withDefault [] (listOf? text?) images
    buffers := ← withDefault [] (listOf? text?) buffers
    output := ← withDefault .window PassOutput.decode output
    flags := ← withDefault [] (listOf? PassFlag.decode) flags }

def Pipeline.decode (d : τ) : Option Pipeline := do
  let [name, copies, passes, next] ←
    record? "Pipeline" ["name", "copies", "passes", "next"] d | none
  return {
    name := ← required text? name
    copies := ← withDefault [] (listOf? text?) copies
    passes := ← required (listOf? RenderPass.decode) passes
    next := ← withDefault none (optionalOf? text?) next }

def Specification.decode (d : τ) : Option Specification := do
  let [structs, resources, pipelines] ←
    record? "Specification" ["structs", "resources", "pipelines"] d | none
  return {
    structs := ← withDefault [] (listOf? StructDecl.decode) structs
    resources := ← withDefault [] (listOf? ResourceDecl.decode) resources
    pipelines := ← withDefault [] (listOf? Pipeline.decode) pipelines }

/-- A size or an offset, which is a 64-bit word. -/
def decodeSize (d : τ) : Option Nat := natBelow? UInt64.size d

def FieldLayout.decode (d : τ) : Option FieldLayout := do
  let [name, type, offset, size, alignment, stride] ←
    record? "FieldLayout" ["name", "type", "offset", "size", "alignment", "stride"] d | none
  return {
    name := ← required text? name
    type := ← required ShaderType.decode type
    offset := ← required decodeSize offset
    size := ← required decodeSize size
    alignment := ← required decodeSize alignment
    stride := ← withDefault none (optionalOf? decodeSize) stride }

def StructLayout.decode (d : τ) : Option StructLayout := do
  let [name, fields, totalSize, alignment] ←
    record? "StructLayout" ["name", "fields", "total_size", "alignment"] d | none
  return {
    name := ← required text? name
    fields := ← required (listOf? FieldLayout.decode) fields
    totalSize := ← required decodeSize totalSize
    alignment := ← required decodeSize alignment }

end

end RenderPlan
