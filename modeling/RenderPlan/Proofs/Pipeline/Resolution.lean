import RenderPlan.Proofs.Pipeline.Shadows

/-! Resolved passes. Each check of a pass succeeds if and only if what it looks up exists and is of the
right class. So a pass that is resolved refers only to such resources, and its resolution depends on
the resources only through what is found by name. -/
namespace RenderPlan

@[simp] lemma ResourceGraph.require_eq_ok_iff {g : ResourceGraph} {referrer name : String}
    {expected : ResourceClass} {d : ResourceDecl} :
    g.require referrer name expected = .ok d ↔ g.get? name = some d ∧ d.kind.IsOf expected :=
  ResourceDecl.require_eq_ok_iff.trans (and_congr_right fun _ => ResourceKind.resourceClass_eq_iff)

/-- All that a resolved pass refers to is there: resources by name and kind, structs laid out. -/
structure PassEmission.Closed (has : String → ResourceKind → Prop) (laid : String → Prop)
    (e : PassEmission) : Prop where
  program : ∃ p, has e.program (.shaderProgram p)
  uploadedBuffers : ∀ buffer structName, .buffer buffer structName ∈ e.uploads →
    has buffer (.buffer structName) ∧ laid structName
  uploadedTextures : ∀ texture, .texture texture ∈ e.uploads → ∃ t, has texture (.texture t)
  textures : ∀ u ∈ e.textures, (∃ t, has u.texture (.texture t)) ∧ ∃ s, has u.sampler (.sampler s)
  images : ∀ u ∈ e.images, ∃ t, has u.texture (.texture t)
  buffers : ∀ b ∈ e.buffers, has b.buffer (.buffer b.structName) ∧ laid b.structName
  output : ∀ name, e.output = .framebuffer name → ∃ f, has name (.framebuffer f)
  swaps : ∀ s ∈ e.swaps, (∃ t, has s.texture (.texture t)) ∧ ∃ t, has s.shadow (.texture t)

namespace PassContext
variable {c c' : PassContext} {referrer name pipeline : String} {pass : RenderPass}

@[simp] lemma bufferStruct_eq_ok_iff {structName : String} :
    c.bufferStruct referrer name = .ok structName ↔
      c.graph.Holds name (.buffer structName) ∧ (c.layouts.get? structName).isSome := by
  rw [bufferStruct, bind_eq_ok_iff]
  simp only [ResourceGraph.require_eq_ok_iff]
  constructor
  · rintro ⟨d, ⟨hd, s, hk⟩, h⟩
    simp only [hk] at h
    split at h
    · next hl =>
      cases pure_eq_ok_iff.1 h
      exact ⟨⟨d, hd, hk⟩, hl⟩
    · cases h
  · rintro ⟨⟨d, hd, hk⟩, hl⟩
    refine ⟨d, ⟨hd, structName, hk⟩, ?_⟩
    simp only [hk, hl, if_true]
    rfl

@[simp] lemma program_eq_ok_iff {p : ShaderProgram} : c.program referrer name = .ok p ↔
    c.graph.Holds name (.shaderProgram p) ∧
      ∀ block ∈ p.uniformBlocks, (c.layouts.get? block).isSome := by
  have hnone (q : ShaderProgram) :
      q.uniformBlocks.find? (fun block => (c.layouts.get? block).isNone) = none ↔
        ∀ block ∈ q.uniformBlocks, (c.layouts.get? block).isSome := by
    simp [Option.isSome_iff_ne_none]
  rw [program, bind_eq_ok_iff]
  simp only [ResourceGraph.require_eq_ok_iff]
  constructor
  · rintro ⟨d, ⟨hd, q, hk⟩, h⟩
    simp only [hk] at h
    split at h
    · cases h
    · next hfind =>
      cases pure_eq_ok_iff.1 h
      exact ⟨⟨d, hd, hk⟩, (hnone p).1 hfind⟩
  · rintro ⟨⟨d, hd, hk⟩, hl⟩
    refine ⟨d, ⟨hd, p, hk⟩, ?_⟩
    simp only [hk, (hnone p).2 hl]
    rfl

lemma upload_eq_ok_iff {u : Upload} : c.upload pipeline pass name = .ok u ↔
    (∃ structName, u = .buffer name structName ∧ c.graph.Holds name (.buffer structName) ∧
      (c.layouts.get? structName).isSome) ∨
    (u = .texture name ∧ ∃ t, c.graph.Holds name (.texture t)) := by
  rw [upload]
  cases hd : c.graph.get? name with
  | none => simp [ResourceGraph.Holds, hd, throw, throwThe, MonadExceptOf.throw]
  | some d =>
    have hold : c.graph.Holds name d.kind := ⟨d, hd, rfl⟩
    cases hk : d.kind with
    | buffer s =>
      simp only [hk, bind_eq_ok_iff, pure_eq_ok_iff, bufferStruct_eq_ok_iff]
      constructor
      · rintro ⟨structName, hs, rfl⟩
        exact .inl ⟨structName, rfl, hs⟩
      · rintro (⟨structName, rfl, hs⟩ | ⟨-, t, ht⟩)
        · exact ⟨structName, hs, rfl⟩
        · cases hk.symm.trans (hold.unique ht)
    | texture t =>
      simp only [hk, pure_eq_ok_iff]
      constructor
      · rintro rfl
        exact .inr ⟨rfl, t, hk ▸ hold⟩
      · rintro (⟨structName, -, hs, -⟩ | ⟨rfl, -⟩)
        · cases hk.symm.trans (hold.unique hs)
        · rfl
    | _ =>
      simp only [hk, throw, throwThe, MonadExceptOf.throw, reduceCtorEq, false_iff]
      rintro (⟨structName, -, hs, -⟩ | ⟨-, t, ht⟩)
      · cases hk.symm.trans (hold.unique hs)
      · cases hk.symm.trans (hold.unique ht)

lemma textureUnit_eq_ok_iff {unit : ℕ} {b : TextureBinding} {u : TextureUnit} :
    c.textureUnit referrer unit b = .ok u ↔
      (∃ t, c.graph.Holds b.texture (.texture t)) ∧ (∃ s, c.graph.Holds b.sampler (.sampler s)) ∧
        u = ⟨UInt32.ofNat unit, b.texture, b.sampler⟩ := by
  simp only [textureUnit, bind_eq_ok_iff, pure_eq_ok_iff, ResourceGraph.require_eq_ok_iff]
  constructor
  · rintro ⟨d, ⟨hd, t, ht⟩, d', ⟨hd', s, hs⟩, rfl⟩
    exact ⟨⟨t, d, hd, ht⟩, ⟨s, d', hd', hs⟩, rfl⟩
  · rintro ⟨⟨t, d, hd, ht⟩, ⟨s, d', hd', hs⟩, rfl⟩
    exact ⟨d, ⟨hd, t, ht⟩, d', ⟨hd', s, hs⟩, rfl⟩

/-- The images follow those that are bound already, and none of them is among those. -/
lemma imageUnits_bound_eq_ok_iff {bound units : List ImageUnit} {images : List String}
    (hb : (bound.map ImageUnit.texture).Nodup) :
    c.imageUnits pipeline pass bound images = .ok units ↔
      (∀ name ∈ images, ∃ t, c.graph.Holds name (.texture t)) ∧
      (bound.map ImageUnit.texture ++ images).Nodup ∧
      units = bound ++ (images.zipIdx bound.length).map fun x => ⟨UInt32.ofNat x.2, x.1⟩ := by
  induction images generalizing bound with
  | nil => simp [imageUnits, hb, eq_comm]
  | cons texture images ih =>
    have hany : bound.any (·.texture = texture) = true ↔ texture ∈ bound.map ImageUnit.texture := by
      simp
    -- the units so far hold no texture twice, and the guard is what keeps it so
    have hnodup : ((bound ++ [(⟨UInt32.ofNat bound.length, texture⟩ : ImageUnit)]).map
        ImageUnit.texture).Nodup ↔ texture ∉ bound.map ImageUnit.texture := by
      rw [List.map_append, List.map_singleton, ← List.concat_eq_append, List.nodup_concat]
      exact and_iff_left hb
    rw [imageUnits, bind_eq_ok_iff, List.forall_mem_cons]
    simp only [guard_eq_ok_iff, hany, ResourceGraph.require_eq_ok_iff]
    constructor
    · rintro ⟨d, ⟨hd, t, ht⟩, hnew, h⟩
      obtain ⟨hall, hdistinct, rfl⟩ := (ih (hnodup.2 hnew)).1 h
      exact ⟨⟨⟨t, d, hd, ht⟩, hall⟩, by simpa using hdistinct, by simp⟩
    · rintro ⟨⟨⟨t, d, hd, ht⟩, hall⟩, hdistinct, rfl⟩
      have hnew : texture ∉ bound.map ImageUnit.texture := fun hmem =>
        (List.nodup_append.1 hdistinct).2.2 _ hmem _ List.mem_cons_self rfl
      refine ⟨d, ⟨hd, t, ht⟩, hnew, (ih (hnodup.2 hnew)).2 ⟨hall, by simpa using hdistinct, by simp⟩⟩

lemma imageUnits_eq_ok_iff {units : List ImageUnit} {images : List String} :
    c.imageUnits pipeline pass [] images = .ok units ↔
      (∀ name ∈ images, ∃ t, c.graph.Holds name (.texture t)) ∧ images.Nodup ∧
      units = images.zipIdx.map fun x => ⟨UInt32.ofNat x.2, x.1⟩ :=
  imageUnits_bound_eq_ok_iff List.nodup_nil

/-- The binding point of a buffer is the first position of its struct among the blocks of the
program. -/
lemma bufferBinding_eq_ok_iff {p : ShaderProgram} {b : BufferBinding} :
    c.bufferBinding pipeline pass p name = .ok b ↔
      b.buffer = name ∧ c.graph.Holds name (.buffer b.structName) ∧
      (c.layouts.get? b.structName).isSome ∧
      ∃ i, p.uniformBlocks.findIdx? (· = b.structName) = some i ∧ b.binding = UInt32.ofNat i := by
  rw [bufferBinding, bind_eq_ok_iff]
  simp only [bufferStruct_eq_ok_iff]
  constructor
  · rintro ⟨structName, ⟨hold, hl⟩, h⟩
    split at h
    · next i hi =>
      cases pure_eq_ok_iff.1 h
      exact ⟨rfl, hold, hl, i, hi, rfl⟩
    · cases h
  · rintro ⟨rfl, hold, hl, i, hi, hb⟩
    refine ⟨b.structName, ⟨hold, hl⟩, ?_⟩
    simp only [hi, ← hb]
    rfl

lemma output_eq_ok_iff {o : PassOutput} {target : Option (String × Framebuffer)} :
    c.output referrer o = .ok target ↔ (o = .window ∧ target = none) ∨
      ∃ name f, o = .framebuffer name ∧ c.graph.Holds name (.framebuffer f) ∧
        target = some (name, f) := by
  cases o with
  | window => simp [output, eq_comm]
  | framebuffer name =>
    rw [output, bind_eq_ok_iff]
    simp only [ResourceGraph.require_eq_ok_iff, reduceCtorEq, false_and, false_or,
      PassOutput.framebuffer.injEq]
    constructor
    · rintro ⟨d, ⟨hd, f, hk⟩, h⟩
      simp only [hk, pure_eq_ok_iff] at h
      exact ⟨name, f, rfl, ⟨d, hd, hk⟩, h.symm⟩
    · rintro ⟨_, f, rfl, ⟨d, hd, hk⟩, rfl⟩
      exact ⟨d, ⟨hd, f, hk⟩, by simp only [hk]; rfl⟩

lemma mem_swaps {swap : TextureSwap} (h : swap ∈ c.swaps pass) :
    ∃ s ∈ c.shadows, s.texture ∈ pass.feedback c.graph ∧ swap = ⟨s.texture, s.name⟩ := by
  obtain ⟨t, ht, hs⟩ := List.mem_filterMap.1 h
  obtain ⟨s, hof, rfl⟩ := Option.map_eq_some_iff.1 hs
  have hst : s.texture = t := by simpa using List.find?_some hof
  exact ⟨s, List.mem_of_find?_eq_some hof, hst ▸ ht, rfl⟩

/-- What a pass is resolved to: the outcome of each of its checks, and the rest of the emission, which
needs none. -/
structure Resolves (c : PassContext) (pipeline : String) (pass : RenderPass) (p : ShaderProgram)
    (target : Option (String × Framebuffer)) (e : PassEmission) (reports : List Diagnostic) :
    Prop where
  program : c.program s!"{pipeline}.{pass.name}" pass.program = .ok p
  uploads : pass.updates.mapM (c.upload pipeline pass) = .ok e.uploads
  textures : pass.textures.zipIdx.mapM
    (fun x => c.textureUnit s!"{pipeline}.{pass.name}" x.2 x.1) = .ok e.textures
  images : c.imageUnits pipeline pass [] pass.images = .ok e.images
  buffers : pass.buffers.mapM (c.bufferBinding pipeline pass p) = .ok e.buffers
  output : c.output s!"{pipeline}.{pass.name}" pass.output = .ok target
  kind : kindDefect? pass (c.isCompute p) target.isSome = none
  rest : e = { e with
    name := pass.name
    program := pass.program
    kind := pass.kind
    output := pass.output
    explicitBind := target.isSome
    regenerateFramebuffer := (target.elim [] fun x => x.2.attachments).any fun t =>
      (ShadowTarget.of? c.shadows t).isSome
    swaps := c.swaps pass
    flags := pass.flags }
  reported : reports = diagnostics pipeline pass p target

lemma resolvePass_eq_ok_iff {e : PassEmission} {reports : List Diagnostic} :
    c.resolvePass pipeline pass = .ok (e, reports) ↔
      ∃ p target, c.Resolves pipeline pass p target e reports := by
  simp only [resolvePass, bind_eq_ok_iff]
  constructor
  · rintro ⟨p, hp, uploads, hup, textures, htex, images, himg, buffers, hbuf, target, htgt, h⟩
    split at h
    · cases h
    · next hk =>
      cases pure_eq_ok_iff.1 h
      refine ⟨p, target, hp, hup, htex, himg, hbuf, htgt, hk, ?_, rfl⟩
      cases target <;> rfl
  · rintro ⟨p, target, h⟩
    refine ⟨p, h.program, _, h.uploads, _, h.textures, _, h.images, _, h.buffers, target, h.output, ?_⟩
    rw [h.kind, h.reported]
    refine congrArg (fun e => Except.ok (e, _)) (Eq.trans ?_ h.rest.symm)
    cases target <;> rfl

/-- A resolved pass refers to resources of its context and to the shadows of what it renders into. -/
lemma resolvePass_closed {has : String → ResourceKind → Prop} {laid : String → Prop}
    {e : PassEmission} {reports : List Diagnostic}
    (h : c.resolvePass pipeline pass = .ok (e, reports))
    (hhas : ∀ name kind, c.graph.Holds name kind → has name kind)
    (hlaid : ∀ structName, (c.layouts.get? structName).isSome → laid structName)
    (hswaps : ∀ s ∈ c.swaps pass,
      (∃ t, has s.texture (.texture t)) ∧ ∃ t, has s.shadow (.texture t)) :
    e.Closed has laid := by
  obtain ⟨p, target, h⟩ := resolvePass_eq_ok_iff.1 h
  constructor
  case program =>
    rw [h.rest]
    exact ⟨p, hhas _ _ (program_eq_ok_iff.1 h.program).1⟩
  case uploadedBuffers =>
    intro buffer structName hu
    obtain ⟨name, -, hname⟩ := exists_of_mem_mapM h.uploads hu
    rcases upload_eq_ok_iff.1 hname with ⟨s, hs, hold, hl⟩ | ⟨hs, -⟩
    · cases hs
      exact ⟨hhas _ _ hold, hlaid _ hl⟩
    · cases hs
  case uploadedTextures =>
    intro texture hu
    obtain ⟨name, -, hname⟩ := exists_of_mem_mapM h.uploads hu
    rcases upload_eq_ok_iff.1 hname with ⟨s, hs, -⟩ | ⟨hs, t, hold⟩
    · cases hs
    · cases hs
      exact ⟨t, hhas _ _ hold⟩
  case textures =>
    intro u hu
    obtain ⟨b, -, hb⟩ := exists_of_mem_mapM h.textures hu
    obtain ⟨⟨t, ht⟩, ⟨s, hs⟩, rfl⟩ := textureUnit_eq_ok_iff.1 hb
    exact ⟨⟨t, hhas _ _ ht⟩, s, hhas _ _ hs⟩
  case images =>
    obtain ⟨hall, -, heq⟩ := imageUnits_eq_ok_iff.1 h.images
    intro u hu
    rw [heq] at hu
    obtain ⟨x, hx, rfl⟩ := List.mem_map.1 hu
    obtain ⟨t, ht⟩ := hall x.1 (List.fst_mem_of_mem_zipIdx hx)
    exact ⟨t, hhas _ _ ht⟩
  case buffers =>
    intro b hb
    obtain ⟨name, -, hname⟩ := exists_of_mem_mapM h.buffers hb
    obtain ⟨rfl, hold, hl, -⟩ := bufferBinding_eq_ok_iff.1 hname
    exact ⟨hhas _ _ hold, hlaid _ hl⟩
  case output =>
    intro name hout
    rw [h.rest] at hout
    rcases output_eq_ok_iff.1 h.output with ⟨hw, -⟩ | ⟨_, f, hf, hold, -⟩
    · cases hw.symm.trans hout
    · cases hf.symm.trans hout
      exact ⟨f, hhas _ _ hold⟩
  case swaps =>
    rw [h.rest]
    exact hswaps

/-- A resolved pass binds each buffer at the first block of its program that has the buffer's struct. -/
lemma resolvePass_bindings {e : PassEmission} {reports : List Diagnostic}
    (h : c.resolvePass pipeline pass = .ok (e, reports)) :
    ∃ p, c.graph.Holds e.program (.shaderProgram p) ∧
      ∀ b ∈ e.buffers, c.graph.Holds b.buffer (.buffer b.structName) ∧
        b.structName ∈ p.uniformBlocks ∧
        b.binding = UInt32.ofNat (p.uniformBlocks.idxOf b.structName) := by
  obtain ⟨p, target, h⟩ := resolvePass_eq_ok_iff.1 h
  refine ⟨p, ?_, fun b hb => ?_⟩
  · rw [h.rest]
    exact (program_eq_ok_iff.1 h.program).1
  · obtain ⟨name, -, hname⟩ := exists_of_mem_mapM h.buffers hb
    obtain ⟨rfl, hold, -, i, hi, hbinding⟩ := bufferBinding_eq_ok_iff.1 hname
    obtain ⟨hlt, rfl⟩ := List.findIdx?_eq_some_iff_findIdx_eq.1 hi
    exact ⟨hold, List.idxOf_lt_length_iff.1 hlt, hbinding⟩

/-- Contexts in which the same is found. -/
structure Alike (c c' : PassContext) : Prop where
  found : c.graph.get? = c'.graph.get?
  laid : ∀ name, (c.layouts.get? name).isSome = (c'.layouts.get? name).isSome
  shadow : ∀ t, ShadowTarget.of? c.shadows t = ShadowTarget.of? c'.shadows t

namespace Alike

lemma require (h : Alike c c') : c.graph.require = c'.graph.require := by
  funext referrer name expected
  rw [ResourceGraph.require, ResourceGraph.require, h.found]

lemma bufferStruct (h : Alike c c') : c.bufferStruct = c'.bufferStruct := by
  funext referrer name
  simp only [PassContext.bufferStruct, h.require, h.laid]

lemma program (h : Alike c c') : c.program = c'.program := by
  have hnone (name : String) : (c.layouts.get? name).isNone = (c'.layouts.get? name).isNone := by
    rw [← Option.not_isSome, ← Option.not_isSome, h.laid]
  funext referrer name
  simp only [PassContext.program, h.require, hnone]

lemma isCompute (h : Alike c c') : c.isCompute = c'.isCompute := by
  funext p
  simp only [PassContext.isCompute, h.found]

lemma upload (h : Alike c c') : c.upload = c'.upload := by
  funext pipeline pass name
  simp only [PassContext.upload, h.found, h.bufferStruct]

lemma textureUnit (h : Alike c c') : c.textureUnit = c'.textureUnit := by
  funext referrer unit b
  simp only [PassContext.textureUnit, h.require]

lemma imageUnits (h : Alike c c') : c.imageUnits = c'.imageUnits := by
  funext pipeline pass bound images
  induction images generalizing bound with
  | nil => rfl
  | cons texture images ih => simp only [PassContext.imageUnits, h.require, ih]

lemma bufferBinding (h : Alike c c') : c.bufferBinding = c'.bufferBinding := by
  funext pipeline pass p buffer
  simp only [PassContext.bufferBinding, h.bufferStruct]

lemma output (h : Alike c c') : c.output = c'.output := by
  funext referrer o
  cases o with
  | window => rfl
  | framebuffer name => simp only [PassContext.output, h.require]

lemma swaps (h : Alike c c') : c.swaps = c'.swaps := by
  funext pass
  simp only [PassContext.swaps, RenderPass.feedback_congr h.found, h.shadow]

/-- Alike contexts resolve a pass alike, faults included. -/
lemma resolvePass (h : Alike c c') : c.resolvePass = c'.resolvePass := by
  funext pipeline pass
  simp only [PassContext.resolvePass, h.program, h.upload, h.textureUnit, h.imageUnits,
    h.bufferBinding, h.output, h.isCompute, h.swaps, h.shadow]

end Alike
end PassContext
end RenderPlan
