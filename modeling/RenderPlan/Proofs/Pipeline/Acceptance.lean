import RenderPlan.Proofs.Pipeline.Validation

/-! What validation accepts. The conditions on a pass are stated over the declarations alone: which
names stand for which kinds of resource, and which structs are laid out. Validation succeeds if and
only if every pass that the copies lead to meets them, and it then emits these passes and reports
those whose framebuffer does not fit the outputs of their program. -/
namespace RenderPlan
open Text

/-- Some stage of the program is a compute stage. -/
def ShaderProgram.HasComputeStage (has : String → ResourceKind → Prop) (p : ShaderProgram) : Prop :=
  ∃ name ∈ p.stages, ∃ s, has name (.shaderStage s) ∧ s.stage = .compute

/-- The resources that a pass with the program `p` asks for. -/
structure RenderPass.SupportedBy (has : String → ResourceKind → Prop) (laid : String → Prop)
    (p : ShaderProgram) (pass : RenderPass) : Prop where
  program : has pass.program (.shaderProgram p)
  blocks : ∀ block ∈ p.uniformBlocks, laid block
  updates : ∀ name ∈ pass.updates,
    (∃ t, has name (.texture t)) ∨ ∃ structName, has name (.buffer structName) ∧ laid structName
  textures : ∀ b ∈ pass.textures,
    (∃ t, has b.texture (.texture t)) ∧ ∃ s, has b.sampler (.sampler s)
  images : ∀ name ∈ pass.images, ∃ t, has name (.texture t)
  distinctImages : pass.images.Nodup
  buffers : ∀ name ∈ pass.buffers,
    ∃ structName ∈ p.uniformBlocks, has name (.buffer structName) ∧ laid structName
  output : ∀ name, pass.output = .framebuffer name → ∃ f, has name (.framebuffer f)
  dispatched : ∀ x y z, pass.kind = .dispatch x y z →
    p.HasComputeStage has ∧ pass.output = .window
  drawn : ∀ vertices, pass.kind = .draw vertices → ¬ p.HasComputeStage has

def ResourceDecl.kindOf? (decls : List ResourceDecl) (name : String) : Option ResourceKind :=
  (decls.find? (·.name = name)).map kind

/-- The report on a pass that renders into another number of colour attachments than its program has
outputs. -/
def RenderPass.mismatch? (decls : List ResourceDecl) (pipeline : String) (pass : RenderPass) :
    Option Diagnostic :=
  match ResourceDecl.kindOf? decls pass.program, pass.output with
  | some (.shaderProgram p), .framebuffer name =>
    match ResourceDecl.kindOf? decls name with
    | some (.framebuffer f) =>
      if f.color.length = p.fragmentOutputs.toNat then none
      else some (.attachmentCountMismatch pipeline pass.name name f.color.length pass.program
        p.fragmentOutputs)
    | _ => none
  | _, _ => none

def Upload.target : Upload → String
  | buffer name _ => name
  | texture name => name

/-- The emission runs the pass: the same work on the same resources, in the order of the pass. -/
structure PassEmission.Runs (pass : RenderPass) (e : PassEmission) : Prop where
  name : e.name = pass.name
  program : e.program = pass.program
  kind : e.kind = pass.kind
  output : e.output = pass.output
  flags : e.flags = pass.flags
  uploads : e.uploads.map Upload.target = pass.updates
  textures : e.textures =
    pass.textures.zipIdx.map fun x => ⟨UInt32.ofNat x.2, x.1.texture, x.1.sampler⟩
  images : e.images = pass.images.zipIdx.map fun x => ⟨UInt32.ofNat x.2, x.1⟩
  buffers : e.buffers.map BufferBinding.buffer = pass.buffers

namespace ResourceGraph
variable {g : ResourceGraph} {name : String} {kind : ResourceKind}

lemma Indexed.kindOf?_eq (h : g.Indexed) (hold : g.Holds name kind) :
    ResourceDecl.kindOf? g.decls name = some kind := by
  obtain ⟨d, hd, rfl⟩ := hold
  rw [ResourceDecl.kindOf?, h.find?_decls, hd, Option.map_some]

end ResourceGraph

namespace PassContext
variable {c : PassContext} {pipeline : String} {pass : RenderPass} {p : ShaderProgram}

@[simp] lemma isCompute_iff : c.isCompute p = true ↔ p.HasComputeStage c.graph.Holds := by
  rw [isCompute, List.any_eq_true]
  refine exists_congr fun name => and_congr_right fun _ => ?_
  cases hd : c.graph.get? name with
  | none => simp [ResourceGraph.Holds, hd]
  | some d => cases hk : d.kind <;> simp [ResourceGraph.Holds, hd, hk]

lemma kindDefect?_eq_none_iff {compute toFramebuffer : Bool} :
    kindDefect? pass compute toFramebuffer = none ↔
      (∀ x y z, pass.kind = .dispatch x y z → compute = true ∧ toFramebuffer = false) ∧
        ∀ vertices, pass.kind = .draw vertices → compute = false := by
  rw [kindDefect?]
  cases pass.kind <;> cases compute <;> cases toFramebuffer <;> simp

lemma exists_uploads_iff : (∃ us, pass.updates.mapM (c.upload pipeline pass) = .ok us) ↔
    ∀ name ∈ pass.updates, (∃ t, c.graph.Holds name (.texture t)) ∨
      ∃ structName, c.graph.Holds name (.buffer structName) ∧
        (c.layouts.get? structName).isSome := by
  simp only [exists_mapM_eq_ok_iff, upload_eq_ok_iff]
  refine forall₂_congr fun name _ => ?_
  constructor
  · rintro ⟨u, ⟨structName, -, hs⟩ | ⟨-, ht⟩⟩
    · exact .inr ⟨structName, hs⟩
    · exact .inl ht
  · rintro (ht | ⟨structName, hs⟩)
    · exact ⟨_, .inr ⟨rfl, ht⟩⟩
    · exact ⟨_, .inl ⟨structName, rfl, hs⟩⟩

lemma exists_textures_iff {referrer : String} :
    (∃ us, pass.textures.zipIdx.mapM (fun x => c.textureUnit referrer x.2 x.1) = .ok us) ↔
      ∀ b ∈ pass.textures, (∃ t, c.graph.Holds b.texture (.texture t)) ∧
        ∃ s, c.graph.Holds b.sampler (.sampler s) := by
  simp only [exists_mapM_eq_ok_iff, textureUnit_eq_ok_iff, exists_and_left, exists_eq, and_true]
  conv_rhs => rw [← List.zipIdx_map_fst 0 pass.textures, List.forall_mem_map]

lemma exists_images_iff : (∃ us, c.imageUnits pipeline pass [] pass.images = .ok us) ↔
    (∀ name ∈ pass.images, ∃ t, c.graph.Holds name (.texture t)) ∧ pass.images.Nodup := by
  simp only [imageUnits_eq_ok_iff, exists_and_left, exists_eq, and_true]

lemma exists_buffers_iff : (∃ bs, pass.buffers.mapM (c.bufferBinding pipeline pass p) = .ok bs) ↔
    ∀ name ∈ pass.buffers, ∃ structName ∈ p.uniformBlocks,
      c.graph.Holds name (.buffer structName) ∧ (c.layouts.get? structName).isSome := by
  have hindex (structName : String) :
      (∃ i, p.uniformBlocks.findIdx? (· = structName) = some i) ↔ structName ∈ p.uniformBlocks := by
    rw [← Option.isSome_iff_exists, List.findIdx?_isSome]
    simp
  simp only [exists_mapM_eq_ok_iff, bufferBinding_eq_ok_iff]
  refine forall₂_congr fun name _ => ?_
  constructor
  · rintro ⟨b, -, hold, hl, i, hi, -⟩
    exact ⟨b.structName, (hindex _).1 ⟨i, hi⟩, hold, hl⟩
  · rintro ⟨structName, hmem, hold, hl⟩
    obtain ⟨i, hi⟩ := (hindex structName).2 hmem
    exact ⟨⟨UInt32.ofNat i, name, structName⟩, rfl, hold, hl, i, hi, rfl⟩

lemma exists_output {o : PassOutput} (referrer : String)
    (h : ∀ name, o = .framebuffer name → ∃ f, c.graph.Holds name (.framebuffer f)) :
    ∃ target, c.output referrer o = .ok target ∧ (o = .window → target.isSome = false) := by
  cases o with
  | window => exact ⟨none, output_eq_ok_iff.2 (.inl ⟨rfl, rfl⟩), fun _ => rfl⟩
  | framebuffer name =>
    obtain ⟨f, hf⟩ := h name rfl
    refine ⟨some (name, f), output_eq_ok_iff.2 (.inr ⟨name, f, rfl, hf, rfl⟩), fun hw => ?_⟩
    cases hw

/-- A pass is resolved if and only if the context supports it. -/
lemma exists_resolvePass_iff : (∃ x, c.resolvePass pipeline pass = .ok x) ↔
    ∃ p, pass.SupportedBy c.graph.Holds (fun name => (c.layouts.get? name).isSome) p := by
  constructor
  · rintro ⟨⟨e, reports⟩, h⟩
    obtain ⟨p, target, h⟩ := resolvePass_eq_ok_iff.1 h
    obtain ⟨hprogram, hblocks⟩ := program_eq_ok_iff.1 h.program
    obtain ⟨himages, hdistinct⟩ := exists_images_iff.1 ⟨_, h.images⟩
    obtain ⟨hdispatch, hdraw⟩ := kindDefect?_eq_none_iff.1 h.kind
    have hout := output_eq_ok_iff.1 h.output
    refine ⟨p, hprogram, hblocks, exists_uploads_iff.1 ⟨_, h.uploads⟩,
      exists_textures_iff.1 ⟨_, h.textures⟩, himages, hdistinct,
      exists_buffers_iff.1 ⟨_, h.buffers⟩, ?_, ?_, ?_⟩
    · intro name hname
      rcases hout with ⟨hw, -⟩ | ⟨_, f, hf, hold, -⟩
      · cases hw.symm.trans hname
      · cases hf.symm.trans hname
        exact ⟨f, hold⟩
    · intro x y z hk
      obtain ⟨hcompute, hnone⟩ := hdispatch x y z hk
      refine ⟨isCompute_iff.1 hcompute, ?_⟩
      rcases hout with ⟨hw, -⟩ | ⟨_, f, -, -, rfl⟩
      · exact hw
      · cases hnone
    · intro vertices hk hcompute
      rw [isCompute_iff.2 hcompute] at hdraw
      cases hdraw vertices hk
  · rintro ⟨p, h⟩
    obtain ⟨uploads, hup⟩ := exists_uploads_iff.2 h.updates
    obtain ⟨textures, htex⟩ := exists_textures_iff.2 h.textures
    obtain ⟨images, himg⟩ := exists_images_iff.2 ⟨h.images, h.distinctImages⟩
    obtain ⟨buffers, hbuf⟩ := exists_buffers_iff.2 h.buffers
    obtain ⟨target, htgt, hwindow⟩ := exists_output s!"{pipeline}.{pass.name}" h.output
    have hkind : kindDefect? pass (c.isCompute p) target.isSome = none := by
      rw [kindDefect?_eq_none_iff]
      refine ⟨fun x y z hk => ?_, fun vertices hk => ?_⟩
      · obtain ⟨hcompute, hw⟩ := h.dispatched x y z hk
        exact ⟨isCompute_iff.2 hcompute, hwindow hw⟩
      · rw [Bool.eq_false_iff]
        exact fun hcompute => h.drawn vertices hk (isCompute_iff.1 hcompute)
    refine ⟨(⟨_, _, _, uploads, textures, images, buffers, _, _, _, _, _⟩, _),
      resolvePass_eq_ok_iff.2 ⟨p, target, ?_, hup, htex, himg, hbuf, htgt, hkind, rfl, rfl⟩⟩
    exact program_eq_ok_iff.2 ⟨h.program, h.blocks⟩

namespace Resolves
variable {target : Option (String × Framebuffer)} {e : PassEmission} {reports : List Diagnostic}

lemma runs (h : c.Resolves pipeline pass p target e reports) : e.Runs pass := by
  constructor
  case uploads =>
    rw [← List.forall₂_eq_eq_eq, List.forall₂_map_left_iff]
    refine (mapM_eq_ok_iff.1 h.uploads).flip.imp fun u name hu => ?_
    rcases upload_eq_ok_iff.1 hu with ⟨structName, rfl, -⟩ | ⟨rfl, -⟩ <;> rfl
  case textures =>
    rw [← List.forall₂_eq_eq_eq, List.forall₂_map_right_iff]
    refine (mapM_eq_ok_iff.1 h.textures).flip.imp fun u x hu => ?_
    exact (textureUnit_eq_ok_iff.1 hu).2.2
  case images => exact (imageUnits_eq_ok_iff.1 h.images).2.2
  case buffers =>
    rw [← List.forall₂_eq_eq_eq, List.forall₂_map_left_iff]
    refine (mapM_eq_ok_iff.1 h.buffers).flip.imp fun b name hb => ?_
    exact (bufferBinding_eq_ok_iff.1 hb).1
  -- the other fields need no check
  all_goals rw [h.rest]

lemma reports_eq (h : c.Resolves pipeline pass p target e reports) (hc : c.graph.Indexed) :
    reports = (pass.mismatch? c.graph.decls pipeline).toList := by
  have hprogram := hc.kindOf?_eq (program_eq_ok_iff.1 h.program).1
  rw [h.reported]
  rcases output_eq_ok_iff.1 h.output with ⟨hw, rfl⟩ | ⟨name, f, hname, hold, rfl⟩
  · simp only [RenderPass.mismatch?, hprogram, hw]
    rfl
  · simp only [RenderPass.mismatch?, hprogram, hname, hc.kindOf?_eq hold, diagnostics]
    split <;> rfl

end Resolves

lemma exists_resolvePipeline_iff {pipelines : List Pipeline} {id : ℕ} {p : Pipeline}
    {passes : List RenderPass} :
    (∃ x, c.resolvePipeline pipelines id p passes = .ok x) ↔
      (∀ name, p.next = some name → name ∈ pipelines.map Pipeline.name) ∧
        ∀ pass ∈ passes, ∃ x, c.resolvePass p.name pass = .ok x := by
  simp only [resolvePipeline_eq_ok_iff, ← exists_mapM_eq_ok_iff]
  constructor
  · rintro ⟨_, resolved, h, rfl⟩
    exact ⟨h.next, resolved, h.resolves⟩
  · rintro ⟨hnext, resolved, h⟩
    exact ⟨_, resolved, ⟨hnext, h⟩, rfl⟩

/-- The pipelines are resolved if and only if each of them and each of their passes is fine. -/
lemma exists_mapM_resolvePipeline_iff {pipelines : List Pipeline}
    {expanded : List (List RenderPass)} (hl : pipelines.length = expanded.length) :
    (∃ xs, (pipelines.zip expanded).zipIdx.mapM
        (fun x => c.resolvePipeline pipelines x.2 x.1.1 x.1.2) = .ok xs) ↔
      (∀ p ∈ pipelines, ∀ name, p.next = some name → name ∈ pipelines.map Pipeline.name) ∧
        ∀ passes ∈ expanded, ∀ pass ∈ passes,
          ∃ p, pass.SupportedBy c.graph.Holds (fun name => (c.layouts.get? name).isSome) p := by
  have hfst : (pipelines.zip expanded).zipIdx.map (Prod.fst ∘ Prod.fst) = pipelines := by
    rw [← List.map_map, List.zipIdx_map_fst, List.map_fst_zip hl.le]
  have hsnd : (pipelines.zip expanded).zipIdx.map (Prod.snd ∘ Prod.fst) = expanded := by
    rw [← List.map_map, List.zipIdx_map_fst, List.map_snd_zip hl.ge]
  simp only [exists_mapM_eq_ok_iff, exists_resolvePipeline_iff, exists_resolvePass_iff]
  constructor
  · intro hall
    refine ⟨fun p hp => ?_, fun passes hpasses => ?_⟩
    · rw [← hfst] at hp
      obtain ⟨x, hx, rfl⟩ := List.mem_map.1 hp
      exact (hall x hx).1
    · rw [← hsnd] at hpasses
      obtain ⟨x, hx, rfl⟩ := List.mem_map.1 hpasses
      exact (hall x hx).2
  · rintro ⟨hnext, hpasses⟩ x hx
    obtain ⟨hp, hs⟩ := List.of_mem_zip (List.fst_mem_of_mem_zipIdx hx)
    exact ⟨hnext _ hp, hpasses _ hs⟩

end PassContext

section Validation
variable {pipelines : List Pipeline} {g : ResourceGraph} {layouts : Layouts} {v : Validation}

lemma exists_validate_iff : (∃ v, validate pipelines g layouts = .ok v) ↔
    (∀ name ∈ pipelines.map Pipeline.name, isIdentifier name) ∧
      (pipelines.map Pipeline.name).Nodup ∧
      (∀ p ∈ pipelines, ∀ name, p.next = some name → name ∈ pipelines.map Pipeline.name) ∧
      ∃ expanded, Pipeline.expandAll pipelines = .ok expanded ∧
        ∀ passes ∈ expanded, ∀ pass ∈ passes,
          ∃ p, pass.SupportedBy g.Holds (fun name => (layouts.get? name).isSome) p := by
  simp only [validate, bind_eq_ok_iff, pure_eq_ok_iff]
  constructor
  · rintro ⟨v, ⟨⟩, hnames, expanded, hexp, xs, hxs, -⟩
    obtain ⟨hident, hn, -⟩ := checkNames_eq_ok_iff.1 hnames
    have hlength := ((Pipeline.expandAll_eq_ok_iff hn).1 hexp).length_eq
    obtain ⟨hnext, hpasses⟩ := (PassContext.exists_mapM_resolvePipeline_iff hlength).1 ⟨xs, hxs⟩
    exact ⟨hident, hn, hnext, expanded, hexp, hpasses⟩
  · rintro ⟨hident, hn, hnext, expanded, hexp, hpasses⟩
    have hlength := ((Pipeline.expandAll_eq_ok_iff hn).1 hexp).length_eq
    have hnames : checkNames .pipeline [] (pipelines.map Pipeline.name) = .ok () :=
      checkNames_eq_ok_iff.2 ⟨hident, hn, fun _ _ => List.not_mem_nil⟩
    obtain ⟨xs, hxs⟩ := (PassContext.exists_mapM_resolvePipeline_iff
      (c := ⟨g, layouts, ShadowTarget.ofPasses g expanded.flatten⟩) hlength).2 ⟨hnext, hpasses⟩
    exact ⟨_, (), hnames, expanded, hexp, xs, hxs, rfl⟩

namespace ResolvedPipeline
variable {c : PassContext} {r : ResolvedPipeline}

lemma Checked.forall₂_runs (h : r.Checked c pipelines) :
    List.Forall₂ PassEmission.Runs r.source r.passes := by
  rw [passes, List.forall₂_map_right_iff]
  refine (mapM_eq_ok_iff.1 h.resolves).imp fun pass x hx => ?_
  obtain ⟨p, target, hres⟩ := PassContext.resolvePass_eq_ok_iff.1 hx
  exact hres.runs

lemma Checked.reports_eq (h : r.Checked c pipelines) (hc : c.graph.Indexed) :
    r.reports = r.source.filterMap (RenderPass.mismatch? c.graph.decls r.pipeline.name) := by
  have hmap : r.resolved.map Prod.snd =
      r.source.map fun pass => (pass.mismatch? c.graph.decls r.pipeline.name).toList := by
    rw [← List.forall₂_eq_eq_eq, List.forall₂_map_left_iff, List.forall₂_map_right_iff]
    refine (mapM_eq_ok_iff.1 h.resolves).flip.imp fun x pass hx => ?_
    obtain ⟨p, target, hres⟩ := PassContext.resolvePass_eq_ok_iff.1 hx
    exact hres.reports_eq hc
  rw [reports, List.flatMap_def, hmap, ← List.flatMap_def, List.filterMap_eq_flatMap_toList]

end ResolvedPipeline

/-- Validation accepts the pipelines whose names, next pipelines, copies and passes are in order. It then
emits the expanded passes, pipeline by pipeline, and its reports are the mismatches among them. -/
theorem validate_accepts_supported (decls : List ResourceDecl) (g : ResourceGraph)
    (hg : ResourceGraph.build decls = .ok g) (layouts : Layouts) (pipelines : List Pipeline) :
    ((∃ v, validate pipelines g layouts = .ok v) ↔
      (∀ name ∈ pipelines.map Pipeline.name, isIdentifier name) ∧
        (pipelines.map Pipeline.name).Nodup ∧
        (∀ p ∈ pipelines, ∀ name, p.next = some name → name ∈ pipelines.map Pipeline.name) ∧
        ∃ expanded, Pipeline.expandAll pipelines = .ok expanded ∧
          ∀ passes ∈ expanded, ∀ pass ∈ passes, ∃ p, pass.SupportedBy
            (fun name kind => ⟨name, kind⟩ ∈ decls) (fun name => (layouts.get? name).isSome) p) ∧
    ∀ v, validate pipelines g layouts = .ok v →
      ∃ expanded, Pipeline.expandAll pipelines = .ok expanded ∧
        v.emissions.map PipelineEmission.name = pipelines.map Pipeline.name ∧
        List.Forall₂ (List.Forall₂ PassEmission.Runs) expanded (v.emissions.map (·.passes)) ∧
        v.diagnostics = (pipelines.zip expanded).flatMap fun x =>
          x.2.filterMap (RenderPass.mismatch? decls x.1.name) := by
  obtain ⟨rfl, hc, -⟩ := ResourceGraph.build_eq_ok_iff.1 hg
  have hholds : g.Holds = fun name kind => ⟨name, kind⟩ ∈ g.decls := by
    funext name kind
    exact propext hc.holds_iff
  refine ⟨hholds ▸ exists_validate_iff, fun v hv => ?_⟩
  obtain ⟨-, hn, rs, h⟩ := validate_eq_ok_iff.1 hv
  have hemissions := h.map_emissions hn
  have hnames := congrArg (List.map Prod.fst) hemissions
  have hpasses := congrArg (List.map fun x => x.2.2) hemissions
  rw [List.map_map, List.map_map] at hnames hpasses
  refine ⟨rs.map ResolvedPipeline.source, (Pipeline.expandAll_eq_ok_iff hn).2 h.expands, ?_, ?_, ?_⟩
  · rw [← h.pipelines_eq, List.map_map]
    exact hnames
  · refine hpasses ▸ ?_
    rw [List.forall₂_map_left_iff, List.forall₂_map_right_iff, List.forall₂_same]
    exact fun r hr => (h.valid r hr).forall₂_runs
  · rw [← h.map_sources, h.diagnostics_eq, List.flatMap_map]
    exact List.flatMap_congr fun r hr => (h.valid r hr).reports_eq hc.toIndexed

/-- Deferred shading: the scene goes into two textures, and a dispatch sorts the lights. -/
def deferredResources : List ResourceDecl :=
  [.program "Surface" ["Corners", "Shade"] ["View"] 1, .program "Sorting" ["Sort"] [] 0,
    .stage "Corners" .vertex "", .stage "Shade" .fragment "", .stage "Sort" .compute "",
    .framebuffer "Scene" ["Color", "Normal"] none, .texture "Color" .rgba8Unorm (.fixed 64 64),
    .texture "Normal" .rgba8Unorm (.fixed 64 64), .texture "Lights" .r32Uint (.fixed 8 8),
    ⟨"Smooth", .sampler {}⟩, .buffer "Camera" "View"]

def deferredPipelines : List Pipeline :=
  [{ name := "Frame", copies := ["Opaque"], next := "Opaque"
     passes := [{
      name := "Light", program := "Surface", kind := .draw 3, updates := ["Lights"]
      textures := [⟨"Color", "Smooth"⟩, ⟨"Normal", "Smooth"⟩] }] },
    { name := "Opaque"
      passes := [
        { name := "Sort", program := "Sorting", kind := .dispatch 8 8 1, images := ["Lights"] },
        { name := "Geometry", program := "Surface", kind := .draw 36, updates := ["Camera"]
          buffers := ["Camera"], output := .framebuffer "Scene" }] }]

def viewLayout : StructLayout where
  name := "View"
  fields := [⟨"position", .vector .float .three, 0, 12, 16, none⟩]
  totalSize := 16
  alignment := 16

/-- The program of the geometry has one output for two attachments, which is reported for each pipeline
that runs it. -/
theorem validate_accepts_supported_deferred :
    ∃ g v, ResourceGraph.build deferredResources = .ok g ∧
      validate deferredPipelines g [viewLayout] = .ok v ∧
      v.diagnostics = ["Frame", "Opaque"].map
        (.attachmentCountMismatch · "Geometry" "Scene" 2 "Surface" 1) ∧
      ∃ expanded, Pipeline.expandAll deferredPipelines = .ok expanded ∧
        expanded.map (·.map RenderPass.name) = [["Sort", "Geometry", "Light"], ["Sort", "Geometry"]] ∧
        (∀ passes ∈ expanded, ∀ pass ∈ passes, ∃ p, pass.SupportedBy
          (fun name kind => ⟨name, kind⟩ ∈ deferredResources)
          (fun name => (Layouts.get? [viewLayout] name).isSome) p) ∧
        List.Forall₂ (List.Forall₂ PassEmission.Runs) expanded (v.emissions.map (·.passes)) := by
  obtain ⟨g, hg, hrun⟩ := exists_ok_of_toOption_map
    (show (ResourceGraph.build deferredResources).toOption.map (fun g => decide
      ((validate deferredPipelines g [viewLayout]).toOption.map Validation.diagnostics =
        some (["Frame", "Opaque"].map (.attachmentCountMismatch · "Geometry" "Scene" 2 "Surface" 1)))) =
      some true by decide +kernel)
  have hdiagnostics := of_decide_eq_true hrun
  have hnames : (Pipeline.expandAll deferredPipelines).toOption.map (·.map (·.map RenderPass.name)) =
      some [["Sort", "Geometry", "Light"], ["Sort", "Geometry"]] := by
    decide +kernel
  obtain ⟨haccept, hemit⟩ :=
    validate_accepts_supported deferredResources g hg [viewLayout] deferredPipelines
  cases hv : validate deferredPipelines g [viewLayout] with
  | error e =>
    rw [hv] at hdiagnostics
    cases hdiagnostics
  | ok v =>
    rw [hv] at hdiagnostics
    obtain ⟨-, -, -, expanded, hexp, hsupported⟩ := haccept.1 ⟨v, hv⟩
    obtain ⟨expanded', hexp', -, hruns, -⟩ := hemit v hv
    cases hexp.symm.trans hexp'
    rw [hexp] at hnames
    exact ⟨g, v, hg, hv, Option.some.inj hdiagnostics, expanded, hexp, Option.some.inj hnames,
      hsupported, hruns⟩

end Validation
end RenderPlan
