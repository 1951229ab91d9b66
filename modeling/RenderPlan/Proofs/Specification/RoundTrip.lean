import RenderPlan.Proofs.Format.Abridgement
import RenderPlan.Proofs.Shader.RoundTrip
import RenderPlan.Specification.Encoding
import RenderPlan.Specification.FileFormat

/-! Specifications in JSON. A specification without floats is read back from its JSON form, also when
fields at their defaults are left out of it. Each type has one lemma, which says that all abridgements
of its written form are read as the value; the lemma of a record asks each field for its own and for
the default of its key. -/
namespace RenderPlan
open Format Format.Document Format.Json Number Text

/-- The values of the fields that can be left out, by key. A key has the same default in all the
records that let it be left out. -/
def declaredDefault : String → Option Json
  | "structs" | "resources" | "pipelines" => some (.array [])
  | "mip_levels" => some (.nat 1)
  | "size" | "source" | "clear" | "depth" | "next" => some .null
  | "min" | "mag" => some (.string "Linear")
  | "wrap" => some (.string "Repeat")
  | "color" | "uniform_blocks" => some (.array [])
  | "fragment_outputs" => some (.nat 0)
  | "copies" | "updates" | "textures" | "images" | "buffers" | "flags" => some (.array [])
  | "output" => some (.string "Window")
  | _ => none

/-- The size policy of a texture or a framebuffer. -/
def ResourceKind.size? : ResourceKind → Option SizePolicy
  | texture t => t.size
  | framebuffer f => f.size
  | _ => none

def ResourceKind.clear? : ResourceKind → Option Colour
  | texture t => t.clear
  | _ => none

/-- No size follows the window and nothing is cleared to a colour. -/
structure ResourceKind.FloatFree (k : ResourceKind) : Prop where
  size : ∀ policy ∈ k.size?, policy.isWindowRelative = false
  clear : k.clear? = none

instance (k : ResourceKind) : Decidable k.FloatFree :=
  decidable_of_iff ((∀ policy ∈ k.size?, policy.isWindowRelative = false) ∧ k.clear? = none)
    ⟨fun h => ⟨h.1, h.2⟩, fun h => ⟨h.size, h.clear⟩⟩

instance : LawfulLabelled TextureFormat := ⟨fun format => by cases format <;> rfl⟩

instance : LawfulLabelled FilterMode := ⟨fun mode => by cases mode <;> rfl⟩

instance : LawfulLabelled AddressMode := ⟨fun mode => by cases mode <;> rfl⟩

instance : LawfulLabelled StageKind := ⟨fun kind => by cases kind <;> rfl⟩

instance : LawfulLabelled Capability := ⟨fun capability => by cases capability <;> rfl⟩

variable {float : Binary32 → Json}

lemma reads_texts (items : List String) :
    Reads declaredDefault (listOf? text?) ((Data.texts items).toJson float) items :=
  reads_listOf fun s _ => reads_text s

lemma reads_optional_text (value : Option String) :
    Reads declaredDefault (optionalOf? text?) ((Data.optional .text value).toJson float) value :=
  reads_optional fun s _ => ⟨reads_text s, nofun⟩

/-! Structs -/

lemma ShaderType.reads {t : ShaderType} (ht : ∃ text, parse text = .ok t) :
    Reads declaredDefault decode (t.toData.toJson float) t := by
  intro short h
  obtain ⟨text, ht⟩ := ht
  rw [decode, reads_text t.spelling short h, Option.bind_some, parse_spelling_of_parse ht]
  rfl

lemma FieldDecl.reads {f : FieldDecl} (hf : ∃ text, ShaderType.parse text = .ok f.type) :
    Reads declaredDefault decode (f.toData.toJson float) f := by
  intro short h
  obtain ⟨found, hrecord, hname, htype⟩ := h.record ["name", "type"] rfl (by decide)
  replace hname := hname.required (reads_text f.name) rfl
  replace htype := htype.required (ShaderType.reads hf) rfl
  simp [decode, hrecord, hname, htype]

lemma StructDecl.reads {d : StructDecl}
    (hd : ∀ f ∈ d.fields, ∃ text, ShaderType.parse text = .ok f.type) :
    Reads declaredDefault decode (d.toData.toJson float) d := by
  intro short h
  obtain ⟨found, hrecord, hname, hfields⟩ := h.record ["name", "fields"] rfl (by decide)
  replace hname := hname.required (reads_text d.name) rfl
  replace hfields := hfields.required (reads_listOf fun f hf => FieldDecl.reads (hd f hf)) rfl
  simp [decode, hrecord, hname, hfields]

/-! Resources -/

lemma SizePolicy.reads {policy : SizePolicy} (hp : policy.isWindowRelative = false) :
    Reads declaredDefault decode (policy.toData.toJson float) policy := by
  intro short h
  cases policy with
  | windowRelative x y => contradiction
  | fixed width height =>
    obtain ⟨found, hparams, hwidth, hheight⟩ := h.parameters rfl ["width", "height"] rfl (by decide)
    replace hwidth := hwidth.required (reads_word32 width) rfl
    replace hheight := hheight.required (reads_word32 height) rfl
    simp [decode, h.recordCase rfl, hparams, hwidth, hheight]

lemma SizePolicy.reads_optional {size : Option SizePolicy}
    (h : ∀ policy ∈ size, policy.isWindowRelative = false) :
    Reads declaredDefault (optionalOf? decode) ((Data.optional toData size).toJson float) size := by
  refine Json.reads_optional fun policy hp => ⟨SizePolicy.reads (h policy hp), ?_⟩
  cases policy <;> nofun

lemma ShaderSource.reads (source : ShaderSource) :
    Reads declaredDefault decode (source.toData.toJson float) source := by
  intro short h
  cases source with
  | inline text =>
    obtain ⟨v, hcase, hv⟩ := h.valueCase rfl
    simp [decode, hcase, reads_text text v hv]
  | path file =>
    obtain ⟨v, hcase, hv⟩ := h.valueCase rfl
    simp [decode, hcase, reads_text file v hv]

lemma Colour.reads_absent {clear : Option Colour} (h : clear = none) :
    Reads declaredDefault (optionalOf? decode) ((Data.optional toData clear).toJson float) clear := by
  subst h
  exact Json.reads_optional nofun

lemma Texture.reads {t : Texture} (ht : (ResourceKind.texture t).FloatFree) :
    Reads declaredDefault decode ((ResourceKind.texture t).toData.toJson float) t := by
  intro short h
  obtain ⟨found, hparams, hformat, hmipLevels, hsize, hsource, hclear⟩ :=
    h.parameters rfl ["format", "mip_levels", "size", "source", "clear"] rfl (by decide)
  replace hformat := hformat.required (reads_label t.format) rfl
  replace hmipLevels := hmipLevels.withDefault 1 (reads_word32 t.mipLevels) rfl
  replace hsize := hsize.withDefault none (SizePolicy.reads_optional ht.size) rfl
  replace hsource := hsource.withDefault none (reads_optional_text t.source) rfl
  replace hclear := hclear.withDefault none (Colour.reads_absent ht.clear) rfl
  simp [decode, hparams, hformat, hmipLevels, hsize, hsource, hclear]

lemma Sampler.reads (s : Sampler) :
    Reads declaredDefault decode ((ResourceKind.sampler s).toData.toJson float) s := by
  intro short h
  obtain ⟨found, hparams, hmin, hmag, hwrap⟩ :=
    h.parameters rfl ["min", "mag", "wrap"] rfl (by decide)
  replace hmin := hmin.withDefault .linear (reads_label s.min) rfl
  replace hmag := hmag.withDefault .linear (reads_label s.mag) rfl
  replace hwrap := hwrap.withDefault .repeats (reads_label s.wrap) rfl
  simp [decode, hparams, hmin, hmag, hwrap]

lemma Framebuffer.reads {f : Framebuffer} (hf : (ResourceKind.framebuffer f).FloatFree) :
    Reads declaredDefault decode ((ResourceKind.framebuffer f).toData.toJson float) f := by
  intro short h
  obtain ⟨found, hparams, hcolor, hdepth, hsize⟩ :=
    h.parameters rfl ["color", "depth", "size"] rfl (by decide)
  replace hcolor := hcolor.withDefault [] (reads_texts f.color) rfl
  replace hdepth := hdepth.withDefault none (reads_optional_text f.depth) rfl
  replace hsize := hsize.withDefault none (SizePolicy.reads_optional hf.size) rfl
  simp [decode, hparams, hcolor, hdepth, hsize]

/-- The source of a stage has the key of a field that textures can leave out, but null is no
source. -/
lemma ShaderStage.reads (s : ShaderStage) :
    Reads declaredDefault decode ((ResourceKind.shaderStage s).toData.toJson float) s := by
  intro short h
  obtain ⟨found, hparams, hstage, hsource⟩ := h.parameters rfl ["stage", "source"] rfl (by decide)
  replace hstage := hstage.required (reads_label s.stage) rfl
  replace hsource := hsource.required (ShaderSource.reads s.source) rfl
  simp [decode, hparams, hstage, hsource]

lemma ShaderProgram.reads (p : ShaderProgram) :
    Reads declaredDefault decode ((ResourceKind.shaderProgram p).toData.toJson float) p := by
  intro short h
  obtain ⟨found, hparams, hstages, hblocks, houtputs⟩ :=
    h.parameters rfl ["stages", "uniform_blocks", "fragment_outputs"] rfl (by decide)
  replace hstages := hstages.required (reads_texts p.stages) rfl
  replace hblocks := hblocks.withDefault [] (reads_texts p.uniformBlocks) rfl
  replace houtputs := houtputs.withDefault 0 (reads_word32 p.fragmentOutputs) rfl
  simp [decode, hparams, hstages, hblocks, houtputs]

lemma ResourceKind.reads {k : ResourceKind} (hk : k.FloatFree) :
    Reads declaredDefault decode (k.toData.toJson float) k := by
  intro short h
  cases k with
  | buffer structName =>
    obtain ⟨found, hparams, hname⟩ := h.parameters rfl ["struct_name"] rfl (by decide)
    replace hname := hname.required (reads_text structName) rfl
    simp [decode, h.recordCase rfl, hparams, hname]
  | texture t => simp [decode, h.recordCase rfl, Texture.reads hk short h]
  | sampler s => simp [decode, h.recordCase rfl, Sampler.reads s short h]
  | framebuffer f => simp [decode, h.recordCase rfl, Framebuffer.reads hk short h]
  | shaderStage s => simp [decode, h.recordCase rfl, ShaderStage.reads s short h]
  | shaderProgram p => simp [decode, h.recordCase rfl, ShaderProgram.reads p short h]

lemma ResourceDecl.reads {d : ResourceDecl} (hd : d.kind.FloatFree) :
    Reads declaredDefault decode (d.toData.toJson float) d := by
  intro short h
  obtain ⟨found, hrecord, hname, hkind⟩ := h.record ["name", "kind"] rfl (by decide)
  replace hname := hname.required (reads_text d.name) rfl
  replace hkind := hkind.required (ResourceKind.reads hd) rfl
  simp [decode, hrecord, hname, hkind]

/-! Pipelines -/

lemma PassKind.reads (k : PassKind) : Reads declaredDefault decode (k.toData.toJson float) k := by
  intro short h
  cases k with
  | draw vertices =>
    obtain ⟨found, hparams, hvertices⟩ := h.parameters rfl ["vertices"] rfl (by decide)
    replace hvertices := hvertices.required (reads_word32 vertices) rfl
    simp [decode, h.recordCase rfl, hparams, hvertices]
  | dispatch x y z =>
    obtain ⟨found, hparams, hx, hy, hz⟩ := h.parameters rfl ["x", "y", "z"] rfl (by decide)
    replace hx := hx.required (reads_word32 x) rfl
    replace hy := hy.required (reads_word32 y) rfl
    replace hz := hz.required (reads_word32 z) rfl
    simp [decode, h.recordCase rfl, hparams, hx, hy, hz]

lemma PassOutput.reads (output : PassOutput) :
    Reads declaredDefault decode (output.toData.toJson float) output := by
  intro short h
  cases output with
  | window =>
    cases h
    rfl
  | framebuffer name =>
    obtain ⟨v, rfl, hv⟩ := h.only_member rfl
    cases hv
    rfl

lemma PassFlag.reads (flag : PassFlag) :
    Reads declaredDefault decode (flag.toData.toJson float) flag := by
  intro short h
  cases flag with
  | enable capability =>
    obtain ⟨v, hcase, hv⟩ := h.valueCase rfl
    simp [decode, hcase, reads_label capability v hv]
  | disable capability =>
    obtain ⟨v, hcase, hv⟩ := h.valueCase rfl
    simp [decode, hcase, reads_label capability v hv]

lemma TextureBinding.reads (b : TextureBinding) :
    Reads declaredDefault decode (b.toData.toJson float) b := by
  intro short h
  obtain ⟨found, hrecord, htexture, hsampler⟩ := h.record ["texture", "sampler"] rfl (by decide)
  replace htexture := htexture.required (reads_text b.texture) rfl
  replace hsampler := hsampler.required (reads_text b.sampler) rfl
  simp [decode, hrecord, htexture, hsampler]

lemma RenderPass.reads (p : RenderPass) :
    Reads declaredDefault decode (p.toData.toJson float) p := by
  intro short h
  obtain ⟨found, hrecord, hname, hprogram, hkind, hupdates, htextures, himages, hbuffers, houtput,
    hflags⟩ := h.record ["name", "program", "kind", "updates", "textures", "images", "buffers",
      "output", "flags"] rfl (by decide)
  replace hname := hname.required (reads_text p.name) rfl
  replace hprogram := hprogram.required (reads_text p.program) rfl
  replace hkind := hkind.required (PassKind.reads p.kind) rfl
  replace hupdates := hupdates.withDefault [] (reads_texts p.updates) rfl
  replace htextures := htextures.withDefault [] (reads_listOf fun b _ => TextureBinding.reads b) rfl
  replace himages := himages.withDefault [] (reads_texts p.images) rfl
  replace hbuffers := hbuffers.withDefault [] (reads_texts p.buffers) rfl
  replace houtput := houtput.withDefault .window (PassOutput.reads p.output) rfl
  replace hflags := hflags.withDefault [] (reads_listOf fun flag _ => PassFlag.reads flag) rfl
  simp only [decode, hrecord, List.map_cons, List.map_nil, Option.bind_eq_bind, Option.bind_some,
    Option.pure_def, hname, hprogram, hkind, hupdates, htextures, himages, hbuffers, houtput, hflags]

lemma Pipeline.reads (p : Pipeline) : Reads declaredDefault decode (p.toData.toJson float) p := by
  intro short h
  obtain ⟨found, hrecord, hname, hcopies, hpasses, hnext⟩ :=
    h.record ["name", "copies", "passes", "next"] rfl (by decide)
  replace hname := hname.required (reads_text p.name) rfl
  replace hcopies := hcopies.withDefault [] (reads_texts p.copies) rfl
  replace hpasses := hpasses.required (reads_listOf fun pass _ => RenderPass.reads pass) rfl
  replace hnext := hnext.withDefault none (reads_optional_text p.next) rfl
  simp [decode, hrecord, hname, hcopies, hpasses, hnext]

namespace Specification

lemma reads {s : Specification}
    (htypes : ∀ d ∈ s.structs, ∀ f ∈ d.fields, ∃ text, ShaderType.parse text = .ok f.type)
    (hfloats : ∀ d ∈ s.resources, d.kind.FloatFree) :
    Reads declaredDefault decode (s.toData.toJson float) s := by
  intro short h
  obtain ⟨found, hrecord, hstructs, hresources, hpipelines⟩ :=
    h.record ["structs", "resources", "pipelines"] rfl (by decide)
  replace hstructs := hstructs.withDefault []
    (reads_listOf fun d hd => StructDecl.reads (htypes d hd)) rfl
  replace hresources := hresources.withDefault []
    (reads_listOf fun d hd => ResourceDecl.reads (hfloats d hd)) rfl
  replace hpipelines := hpipelines.withDefault [] (reads_listOf fun p _ => Pipeline.reads p) rfl
  simp [decode, hrecord, hstructs, hresources, hpipelines]

/-- A specification of types that were read, without floats, is read back from its JSON form and from
every abridgement of it, and so it is from the texts of these. -/
theorem decode_abridged (s : Specification)
    (htypes : ∀ d ∈ s.structs, ∀ f ∈ d.fields, ∃ text, ShaderType.parse text = .ok f.type)
    (hfloats : ∀ d ∈ s.resources, d.kind.FloatFree) (float : Binary32 → Json) :
    decode (s.toData.toJson float) = some s ∧
    ∀ short, Abridges declaredDefault (s.toData.toJson float) short →
      decode short = some s ∧
      ∀ text, Json.parse text = some short → Specification.parse text .json = some s := by
  have hreads : Reads declaredDefault decode (s.toData.toJson float) s := reads htypes hfloats
  refine ⟨hreads.read_full, fun short h => ⟨hreads short h, fun text htext => ?_⟩⟩
  rw [Specification.parse, htext, Option.bind_some, hreads short h]

/-- A texture drawn with one sampler, with few fields away from their defaults. -/
def glow : Specification where
  structs := [⟨"Tint", [⟨"hue", .vector .float .four⟩]⟩]
  resources := [
    ⟨"Glow", .texture { format := .rgba16Float, mipLevels := 2, size := some (.fixed 320 200) }⟩,
    ⟨"Halo", .texture { format := .r8Unorm, source := some "halo.png" }⟩,
    ⟨"Smooth", .sampler { mag := .nearest }⟩,
    ⟨"Canvas", .framebuffer { color := ["Glow"] }⟩,
    ⟨"GlowStage", .shaderStage { stage := .fragment, source := .path "glow.frag" }⟩,
    ⟨"GlowProgram", .shaderProgram { stages := ["GlowStage"] }⟩]
  pipelines := [{ name := "Main", passes := [.draw "Fill" "GlowProgram" 6] }]

/-- Its JSON form without all the fields at their defaults. -/
def briefGlow : Json :=
  .object [
    ("structs", .array [.object [("name", .string "Tint"), ("fields", .array [
      .object [("name", .string "hue"), ("type", .string "vec4")]])]]),
    ("resources", .array [
      .object [("name", .string "Glow"), ("kind", .object [("Texture", .object [
        ("format", .string "Rgba16Float"), ("mip_levels", .nat 2), ("size", .object [
          ("Fixed", .object [("width", .nat 320), ("height", .nat 200)])])])])],
      .object [("name", .string "Halo"), ("kind", .object [("Texture", .object [
        ("format", .string "R8Unorm"), ("source", .string "halo.png")])])],
      .object [("name", .string "Smooth"), ("kind", .object [("Sampler", .object [
        ("mag", .string "Nearest")])])],
      .object [("name", .string "Canvas"), ("kind", .object [("Framebuffer", .object [
        ("color", .array [.string "Glow"])])])],
      .object [("name", .string "GlowStage"), ("kind", .object [("ShaderStage", .object [
        ("stage", .string "Fragment"), ("source", .object [("Path", .string "glow.frag")])])])],
      .object [("name", .string "GlowProgram"), ("kind", .object [("ShaderProgram", .object [
        ("stages", .array [.string "GlowStage"])])])]]),
    ("pipelines", .array [.object [("name", .string "Main"), ("passes", .array [
      .object [("name", .string "Fill"), ("program", .string "GlowProgram"),
        ("kind", .object [("Draw", .object [("vertices", .nat 6)])])]])]])]

theorem decode_abridged_glow :
    Abridges declaredDefault (glow.toData.toJson fun _ => .null) briefGlow ∧
    decode (glow.toData.toJson fun _ => .null) = some glow ∧ decode briefGlow = some glow := by
  have htypes : ∀ d ∈ glow.structs, ∀ f ∈ d.fields,
      ShaderType.parse f.type.spelling = .ok f.type := by decide +kernel
  have hfloats : ∀ d ∈ glow.resources, d.kind.FloatFree := by decide
  have habridges : Abridges declaredDefault (glow.toData.toJson fun _ => .null) briefGlow := by
    repeat' constructor
  obtain ⟨hfull, hshort⟩ := decode_abridged glow (fun d hd f hf => ⟨_, htypes d hd f hf⟩) hfloats
    fun _ => .null
  exact ⟨habridges, hfull, (hshort briefGlow habridges).1⟩

end Specification

end RenderPlan
