import RenderPlan.Proofs.Graph.Search
import RenderPlan.Proofs.Pipeline.Validation
import RenderPlan.Proofs.Resource.Faults

/-! Faults about references in passes and pipelines. A pass is blamed under the pipeline it runs in,
also where it was copied from another one, and a cycle of copies is reported with the way that leads
into it. -/
namespace RenderPlan
open RenderPlan.Graph

/-- The names of resources a pass uses, each with the class it has to be of. What takes host data may
be of two classes. -/
inductive RenderPass.Uses (pass : RenderPass) : String → Option ResourceClass → Prop
  | program : Uses pass pass.program (some .shaderProgram)
  | update {name : String} (listed : name ∈ pass.updates) : Uses pass name none
  | texture {b : TextureBinding} (bound : b ∈ pass.textures) : Uses pass b.texture (some .texture)
  | sampler {b : TextureBinding} (bound : b ∈ pass.textures) : Uses pass b.sampler (some .sampler)
  | image {name : String} (bound : name ∈ pass.images) : Uses pass name (some .texture)
  | buffer {name : String} (bound : name ∈ pass.buffers) : Uses pass name (some .buffer)
  | output {name : String} (target : pass.output = .framebuffer name) :
    Uses pass name (some .framebuffer)

namespace PassContext
variable {c : PassContext} {decls : List ResourceDecl} {pipeline referrer name : String}
  {pass : RenderPass} {uses : String → String → Option ResourceClass → Prop}

/-- A buffer fails only for want of a layout. -/
lemma bufferStruct_of_buffer {structName : String}
    (h : c.graph.Holds name (.buffer structName)) (referrer : String) :
    c.bufferStruct referrer name = if (c.layouts.get? structName).isSome then .ok structName
      else .error (.unknownStruct name structName) := by
  obtain ⟨⟨_, _⟩, hd, rfl⟩ := h
  have hr : c.graph.require referrer name .buffer = .ok ⟨_, .buffer structName⟩ :=
    ResourceGraph.require_eq_ok_iff.2 ⟨hd, structName, rfl⟩
  rw [bufferStruct, hr]
  rfl

lemma bufferStruct_of_buffer_fails {structName : String}
    (h : c.graph.Holds name (.buffer structName)) (referrer : String) :
    FailsWithin (Fault.ConfirmedBy decls uses) (c.bufferStruct referrer name) := by
  rw [bufferStruct_of_buffer h]
  split
  · exact .ok _
  · exact .error trivial

lemma bufferStruct_fails (h : ResourceLookup.Finds c.graph.get? decls)
    (hu : uses referrer name (some .buffer)) :
    FailsWithin (Fault.ConfirmedBy decls uses) (c.bufferStruct referrer name) := by
  cases hr : c.graph.require referrer name .buffer with
  | error fault =>
    have hfault := ResourceDecl.require_fails h hu fault hr
    rw [bufferStruct, hr]
    exact .error hfault
  | ok d =>
    obtain ⟨hd, structName, hk⟩ := ResourceGraph.require_eq_ok_iff.1 hr
    exact bufferStruct_of_buffer_fails ⟨d, hd, hk⟩ referrer

lemma program_fails (h : ResourceLookup.Finds c.graph.get? decls)
    (hu : uses referrer name (some .shaderProgram)) :
    FailsWithin (Fault.ConfirmedBy decls uses) (c.program referrer name) := by
  rw [program]
  refine .bind (ResourceDecl.require_fails h hu) fun d hd => ?_
  obtain ⟨-, p, hk⟩ := ResourceGraph.require_eq_ok_iff.1 hd
  simp only [hk]
  split
  · exact .error trivial
  · exact .ok _

lemma upload_fails (h : ResourceLookup.Finds c.graph.get? decls)
    (hu : uses s!"{pipeline}.{pass.name}" name none) :
    FailsWithin (Fault.ConfirmedBy decls uses) (c.upload pipeline pass name) := by
  rw [upload]
  cases hd : c.graph.get? name with
  | none => exact .error ⟨h.ne_of_none hd, none, hu⟩
  | some d =>
    cases hk : d.kind with
    | buffer structName =>
      simp only [hk]
      exact .bind (bufferStruct_of_buffer_fails ⟨d, hd, hk⟩ _) fun _ _ => .ok _
    | texture t =>
      simp only [hk]
      exact .ok _
    | _ =>
      simp only [hk]
      exact .error trivial

lemma textureUnit_fails (h : ResourceLookup.Finds c.graph.get? decls) {b : TextureBinding}
    (ht : uses referrer b.texture (some .texture)) (hs : uses referrer b.sampler (some .sampler))
    (unit : ℕ) : FailsWithin (Fault.ConfirmedBy decls uses) (c.textureUnit referrer unit b) := by
  rw [textureUnit]
  refine .bind (ResourceDecl.require_fails h ht) fun _ _ => ?_
  exact .bind (ResourceDecl.require_fails h hs) fun _ _ => .ok _

lemma imageUnits_fails (h : ResourceLookup.Finds c.graph.get? decls) {images : List String}
    (hu : ∀ texture ∈ images, uses s!"{pipeline}.{pass.name}" texture (some .texture))
    (bound : List ImageUnit) :
    FailsWithin (Fault.ConfirmedBy decls uses) (c.imageUnits pipeline pass bound images) := by
  induction images generalizing bound with
  | nil => exact .ok bound
  | cons texture images ih =>
    obtain ⟨ht, hrest⟩ := List.forall_mem_cons.1 hu
    rw [imageUnits]
    exact .bind (ResourceDecl.require_fails h ht) fun _ _ => .guard trivial (ih hrest _)

lemma bufferBinding_fails (h : ResourceLookup.Finds c.graph.get? decls)
    (hu : uses s!"{pipeline}.{pass.name}" name (some .buffer)) (p : ShaderProgram) :
    FailsWithin (Fault.ConfirmedBy decls uses) (c.bufferBinding pipeline pass p name) := by
  rw [bufferBinding]
  refine .bind (bufferStruct_fails h hu) fun structName _ => ?_
  split
  · exact .ok _
  · exact .error trivial

lemma output_fails (h : ResourceLookup.Finds c.graph.get? decls) {o : PassOutput}
    (hu : ∀ name, o = .framebuffer name → uses referrer name (some .framebuffer)) :
    FailsWithin (Fault.ConfirmedBy decls uses) (c.output referrer o) := by
  cases o with
  | window => exact .ok none
  | framebuffer name =>
    rw [output]
    refine .bind (ResourceDecl.require_fails h (hu name rfl)) fun d hd => ?_
    obtain ⟨-, f, hk⟩ := ResourceGraph.require_eq_ok_iff.1 hd
    simp only [hk]
    exact .ok _

/-- A pass fails over a reference only if it uses a name that is not there or is of another class. -/
lemma resolvePass_fails (h : ResourceLookup.Finds c.graph.get? decls)
    (hu : ∀ name k, pass.Uses name k → uses s!"{pipeline}.{pass.name}" name k) :
    FailsWithin (Fault.ConfirmedBy decls uses) (c.resolvePass pipeline pass) := by
  rw [resolvePass]
  refine .bind (program_fails h (hu _ _ .program)) fun p _ => ?_
  refine .bind (.mapM fun name hn => upload_fails h (hu name _ (.update hn))) fun uploads _ => ?_
  refine .bind (.mapM fun x hx => ?_) fun textures _ => ?_
  · have hb := List.fst_mem_of_mem_zipIdx hx
    exact textureUnit_fails h (hu _ _ (.texture hb)) (hu _ _ (.sampler hb)) x.2
  refine .bind (imageUnits_fails h (fun t ht => hu t _ (.image ht)) []) fun images _ => ?_
  refine .bind (.mapM fun name hn => bufferBinding_fails h (hu name _ (.buffer hn)) p) fun buffers _ => ?_
  refine .bind (output_fails h fun name ho => hu name _ (.output ho)) fun target _ => ?_
  dsimp only
  split
  · exact .error trivial
  · exact .ok _

end PassContext

namespace Pipeline
variable {pipelines : List Pipeline} {p : Pipeline} {root i : ℕ} {stack : List ℕ}

/-- The pipeline of the first name lists the second one among its copies. -/
def CopiesNamed (pipelines : List Pipeline) (name copied : String) : Prop :=
  ∃ p ∈ pipelines, p.name = name ∧ copied ∈ p.copies

/-- What the fault says about a reference to a pipeline is so: there is none of that name, or copies
lead back to it. Faults of other sorts say nothing about pipelines. -/
def Confirms (pipelines : List Pipeline) : Fault → Prop
  | .danglingReference referrer missing => (∀ p ∈ pipelines, p.name ≠ missing) ∧
    ∃ p ∈ pipelines, p.name = referrer ∧ (missing ∈ p.copies ∨ p.next = some missing)
  | .cyclicCopy name path => ClosesAt (CopiesNamed pipelines) name path
  | .wrongResourceKind _ _ _ _ => False
  | _ => True

/-- The pipeline at the first position copies the one at the second. -/
def CopiesAt (pipelines : List Pipeline) (i j : ℕ) : Prop :=
  ∃ p q, pipelines[i]? = some p ∧ pipelines[j]? = some q ∧ q.name ∈ p.copies

/-- The name of the pipeline at a position. -/
def nameAt (pipelines : List Pipeline) (i : ℕ) : String := (pipelines[i]?.map Pipeline.name).getD ""

lemma nameAt_of_getElem? (hp : pipelines[i]? = some p) : nameAt pipelines i = p.name := by
  simp [nameAt, hp]

lemma CopiesAt.named {j : ℕ} (h : CopiesAt pipelines i j) :
    CopiesNamed pipelines (nameAt pipelines i) (nameAt pipelines j) := by
  obtain ⟨p, q, hp, hq, hc⟩ := h
  rw [nameAt_of_getElem? hp, nameAt_of_getElem? hq]
  exact ⟨p, List.mem_of_getElem? hp, rfl, hc⟩

lemma eq_of_nameAt_eq (hn : (pipelines.map Pipeline.name).Nodup) {j : ℕ} (hi : i < pipelines.length)
    (hj : j < pipelines.length) (h : nameAt pipelines i = nameAt pipelines j) : i = j := by
  apply (List.getElem?_inj (by rwa [List.length_map]) hn).1
  rw [nameAt_of_getElem? (List.getElem?_eq_getElem hi),
    nameAt_of_getElem? (List.getElem?_eq_getElem hj)] at h
  rw [List.getElem?_map, List.getElem?_map, List.getElem?_eq_getElem hi,
    List.getElem?_eq_getElem hj, Option.map_some, Option.map_some, h]

lemma filterMap_name (hs : ∀ s ∈ stack, s < pipelines.length) :
    stack.filterMap (fun s => pipelines[s]?.map Pipeline.name) = stack.map (nameAt pipelines) := by
  rw [← List.filterMap_eq_map]
  apply List.filterMap_congr
  intro s hmem
  rw [Function.comp_apply, nameAt, List.getElem?_eq_getElem (hs s hmem), Option.map_some,
    Option.getD_some]

/-- The positions on a stack become the names of the way that leads into a cycle. -/
lemma closesAt_names (hn : (pipelines.map Pipeline.name).Nodup)
    (hu : Underway (CopiesAt pipelines) root stack i) (hs : ∀ s ∈ stack, s < pipelines.length)
    (hp : pipelines[i]? = some p) (hi : i ∈ stack) :
    ClosesAt (CopiesNamed pipelines) p.name
      (stack.filterMap (fun s => pipelines[s]?.map Pipeline.name) ++ [p.name]) := by
  have hvalid : ∀ s ∈ stack ++ [i], s < pipelines.length :=
    List.forall_mem_append.2 ⟨hs, List.forall_mem_singleton.2 (hs i hi)⟩
  have h := (hu.closesAt hi).map (fun _ _ hc => CopiesAt.named hc)
    fun s hsmem t htmem => eq_of_nameAt_eq hn (hvalid s hsmem) (hvalid t htmem)
  rwa [List.map_append, List.map_singleton, nameAt_of_getElem? hp, ← filterMap_name hs] at h

lemma ne_of_position?_eq_none {name : String} (h : position? pipelines name = none) :
    ∀ p ∈ pipelines, p.name ≠ name := by
  intro p hp hname
  have hsome := isSome_position?_iff.2 (List.mem_map.2 ⟨p, hp, hname⟩)
  rw [h] at hsome
  cases hsome

lemma copiedPasses_fails {visit : ℕ → Expanding (List RenderPass)} {targets : List String}
    (hp : p ∈ pipelines) (hc : ∀ target ∈ targets, target ∈ p.copies)
    (hv : ∀ target ∈ targets, ∀ j, position? pipelines target = some j →
      ∀ done, FailsWithin (Confirms pipelines) (visit j done))
    (passes : List RenderPass) (done : Expansions) :
    FailsWithin (Confirms pipelines) (copiedPasses pipelines p.name visit targets passes done) := by
  induction targets generalizing passes done with
  | nil => exact .ok (passes, done)
  | cons target targets ih =>
    obtain ⟨htarget, htargets⟩ := List.forall_mem_cons.1 hc
    obtain ⟨hvisit, hvisits⟩ := List.forall_mem_cons.1 hv
    rw [copiedPasses]
    cases hj : position? pipelines target with
    | none => exact .error ⟨ne_of_position?_eq_none hj, p, hp, rfl, .inl htarget⟩
    | some j =>
      change FailsWithin _ (visit j done >>= fun r => copiedPasses pipelines p.name visit targets
        (r.1.foldl mergePass passes) r.2)
      exact .bind (hvisit j hj done) fun _ _ => ih htargets hvisits _ _

lemma keepOwnPasses_fails (i : ℕ) (p : Pipeline) (copied : List RenderPass) (done : Expansions) :
    FailsWithin (Confirms pipelines) (keepOwnPasses i p copied done) := by
  have hown : FailsWithin (Confirms pipelines) (p.withOwnPasses copied) := by
    rw [withOwnPasses]
    split
    · exact .error trivial
    · exact .ok _
  rw [keepOwnPasses]
  cases hp : p.withOwnPasses copied with
  | error fault => exact .error (hown fault hp)
  | ok passes => exact .ok (passes, (i, passes) :: done)

/-- Along a search, the expansion of a pipeline fails only at a cycle or at an unknown copy. -/
lemma expandAt_fails (hn : (pipelines.map Pipeline.name).Nodup)
    (hu : Underway (CopiesAt pipelines) root stack i) (hs : ∀ s ∈ stack, s < pipelines.length)
    (hp : pipelines[i]? = some p) (done : Expansions) :
    FailsWithin (Confirms pipelines) (expandAt pipelines stack i done) := by
  generalize hk : (idle pipelines stack).length = k
  induction k using Nat.strong_induction_on generalizing stack i p done with
  | _ k ih =>
    rw [expandAt, get_bind_apply]
    cases hl : done.lookup i with
    | some found => exact .ok (found, done)
    | none =>
      have hclose := closesAt_names hn hu hs hp
      have hlength : i < pipelines.length := (List.getElem?_eq_some_iff.1 hp).1
      have hbelow (hi : i ∉ stack) : ∀ target ∈ p.copies, ∀ j,
          position? pipelines target = some j → ∀ done,
            FailsWithin (Confirms pipelines) (expandAt pipelines (stack ++ [i]) j done) := by
        intro target ht j hj done
        obtain ⟨q, hq, rfl⟩ := (position?_eq_some_iff hn).1 hj
        have hs' : ∀ s ∈ stack ++ [i], s < pipelines.length :=
          List.forall_mem_append.2 ⟨hs, List.forall_mem_singleton.2 hlength⟩
        exact ih _ (hk ▸ length_idle_lt hp hi) (hu.step hi ⟨p, q, hp, hq, ht⟩) hs' hq done rfl
      have hmem := List.mem_of_getElem? hp
      revert hp
      cases pipelines[i]? with
      | none => simp
      | some found =>
        intro hp
        cases hp
        by_cases hi : i ∈ stack
        · simp only [hi, dite_true]
          exact .error (hclose hi)
        · simp only [hi, dite_false]
          change FailsWithin _ (copiedPasses pipelines p.name (expandAt pipelines (stack ++ [i]))
            p.copies [] done >>= fun r => keepOwnPasses i p r.1 r.2)
          refine .bind (copiedPasses_fails hmem (fun _ h => h) (hbelow hi) [] done) fun r _ => ?_
          exact keepOwnPasses_fails i p r.1 r.2

lemma expandAll_fails (hn : (pipelines.map Pipeline.name).Nodup) :
    FailsWithin (Confirms pipelines) (expandAll pipelines) := by
  have hrun : ∀ (positions : List ℕ), (∀ i ∈ positions, i < pipelines.length) → ∀ done,
      FailsWithin (Confirms pipelines) (positions.mapM (expandAt pipelines []) done) := by
    intro positions hin
    induction positions with
    | nil =>
      intro done
      exact .ok ([], done)
    | cons i positions ih =>
      obtain ⟨hi, hrest⟩ := List.forall_mem_cons.1 hin
      intro done
      rw [List.mapM_cons]
      change FailsWithin _ (expandAt pipelines [] i done >>= fun r =>
        (positions.mapM (expandAt pipelines []) r.2 >>= fun rs => Except.ok (r.1 :: rs.1, rs.2)))
      refine .bind (expandAt_fails hn (.start _ i) (by simp) (List.getElem?_eq_getElem hi) done) ?_
      exact fun r _ => .bind (ih hrest r.2) fun _ _ => .ok _
  change FailsWithin _ ((List.range pipelines.length).mapM (expandAt pipelines []) [] >>= fun r =>
    Except.ok r.1)
  exact .bind (hrun _ (fun i => List.mem_range.1) []) fun _ _ => .ok _

end Pipeline

/-- A pass that a pipeline runs, its own or a copied one, uses `name`. -/
def Pipeline.PassUse (pipelines : List Pipeline) (referrer name : String)
    (k : Option ResourceClass) : Prop :=
  ∃ p ∈ pipelines, ∃ passes, Pipeline.Expands pipelines p passes ∧
    ∃ pass ∈ passes, referrer = s!"{p.name}.{pass.name}" ∧ pass.Uses name k

/-- What the fault says about a reference to a resource or to a pipeline is so. -/
def Pipeline.ConfirmsOver (decls : List ResourceDecl) (pipelines : List Pipeline) (fault : Fault) :
    Prop :=
  fault.ConfirmedBy decls (Pipeline.PassUse pipelines) ∨ Pipeline.Confirms pipelines fault

section Validate
variable {c : PassContext} {pipelines : List Pipeline} {decls : List ResourceDecl} {g : ResourceGraph}

lemma PassContext.resolvePipeline_fails (h : ResourceLookup.Finds c.graph.get? decls) {p : Pipeline}
    (hp : p ∈ pipelines) {passes : List RenderPass} (he : Pipeline.Expands pipelines p passes)
    (id : ℕ) : FailsWithin (Pipeline.ConfirmsOver decls pipelines)
      (c.resolvePipeline pipelines id p passes) := by
  have hpasses : FailsWithin (Pipeline.ConfirmsOver decls pipelines)
      (passes.mapM (c.resolvePass p.name)) := by
    refine .mapM fun pass hpass => (resolvePass_fails h fun name k hu => ?_).mono fun _ => .inl
    exact ⟨p, hp, passes, he, pass, hpass, rfl, hu⟩
  rw [resolvePipeline]
  split
  · exact .bind (.ok none) fun _ _ => .bind hpasses fun _ _ => .ok _
  · next name hnext =>
    cases hpos : Pipeline.position? pipelines name with
    | some i => exact .bind (.ok (some i)) fun _ _ => .bind hpasses fun _ _ => .ok _
    | none => exact .error (.inr ⟨Pipeline.ne_of_position?_eq_none hpos, p, hp, rfl, .inr hnext⟩)

lemma validate_fails (h : ResourceLookup.Finds g.get? decls) (layouts : Layouts) :
    FailsWithin (Pipeline.ConfirmsOver decls pipelines) (validate pipelines g layouts) := by
  rw [validate]
  refine .bind (checkNames_fails (fun _ => .inl trivial) (fun _ => .inl trivial) _ _) fun _ hnames => ?_
  obtain ⟨-, hn, -⟩ := checkNames_eq_ok_iff.1 hnames
  refine .bind ((Pipeline.expandAll_fails hn).mono fun _ => .inr) fun expanded hexpanded => ?_
  have hexpands := (Pipeline.expandAll_eq_ok_iff hn).1 hexpanded
  refine .bind (.mapM fun x hx => ?_) fun _ _ => .ok _
  have hzip : x.1 ∈ pipelines.zip expanded := List.fst_mem_of_mem_zipIdx hx
  exact PassContext.resolvePipeline_fails h (List.of_mem_zip hzip).1
    ((List.forall₂_iff_zip.1 hexpands).2 hzip) x.2

/-- The faults about references that resources and pipelines are refused with tell what is so. -/
theorem reference_faults_confirmed (decls : List ResourceDecl) (fault : Fault) :
    (ResourceGraph.build decls = .error fault →
      fault.ConfirmedBy decls (ResourceDecl.DeclaredUse decls)) ∧
    ∀ graph pipelines layouts, ResourceGraph.build decls = .ok graph →
      validate pipelines graph layouts = .error fault →
      fault.ConfirmedBy decls (Pipeline.PassUse pipelines) ∨ Pipeline.Confirms pipelines fault := by
  constructor
  · exact ResourceGraph.build_fails decls fault
  · intro graph pipelines layouts hbuild hvalidate
    obtain ⟨rfl, hcoherent, -⟩ := ResourceGraph.build_eq_ok_iff.1 hbuild
    exact validate_fails hcoherent.finds layouts fault hvalidate

/-- A framebuffer that attaches a buffer. -/
def spriteResources : List ResourceDecl :=
  [.framebuffer "Sheet" ["Sprites"] none, .buffer "Sprites" "Sprite"]

def replayResources : List ResourceDecl :=
  [.program "Blur" ["Corners"] [] 1, .stage "Corners" .vertex ""]

/-- The first pipeline runs a copied pass that samples an unknown texture. -/
def replayPipelines : List Pipeline :=
  [{ name := "Replay", copies := ["Live"], passes := [] },
    { name := "Live"
      passes := [{ name := "Soften", program := "Blur", kind := .draw 3, textures := [⟨"Noise", "Grain"⟩] }] }]

/-- Two pipelines that copy each other, behind a third one. -/
def circularPipelines : List Pipeline :=
  [{ name := "Start", copies := ["Even"], passes := [] },
    { name := "Odd", copies := ["Even"], passes := [] },
    { name := "Even", copies := ["Odd"], passes := [] }]

/-- A copied pass is blamed under the pipeline it runs in, and a cycle is reported with the way to
it. -/
theorem reference_faults_confirmed_replay :
    (ResourceGraph.build spriteResources =
        .error (.wrongResourceKind "Sheet" "Sprites" .texture .buffer) ∧
      (Fault.wrongResourceKind "Sheet" "Sprites" .texture .buffer).ConfirmedBy spriteResources
        (ResourceDecl.DeclaredUse spriteResources)) ∧
    ∃ graph, ResourceGraph.build replayResources = .ok graph ∧
      (validate replayPipelines graph [] = .error (.danglingReference "Replay.Soften" "Noise") ∧
        ((Fault.danglingReference "Replay.Soften" "Noise").ConfirmedBy replayResources
            (Pipeline.PassUse replayPipelines) ∨
          Pipeline.Confirms replayPipelines (.danglingReference "Replay.Soften" "Noise"))) ∧
      (validate circularPipelines graph [] =
          .error (.cyclicCopy "Even" ["Start", "Even", "Odd", "Even"]) ∧
        ((Fault.cyclicCopy "Even" ["Start", "Even", "Odd", "Even"]).ConfirmedBy replayResources
            (Pipeline.PassUse circularPipelines) ∨
          Pipeline.Confirms circularPipelines
            (.cyclicCopy "Even" ["Start", "Even", "Odd", "Even"]))) := by
  have hsprites : ResourceGraph.build spriteResources =
      .error (.wrongResourceKind "Sheet" "Sprites" .texture .buffer) := by decide +kernel
  obtain ⟨graph, hbuild, hruns⟩ := exists_ok_of_toOption_map
    (show (ResourceGraph.build replayResources).toOption.map (fun graph => decide
      (validate replayPipelines graph [] = .error (.danglingReference "Replay.Soften" "Noise") ∧
        validate circularPipelines graph [] =
          .error (.cyclicCopy "Even" ["Start", "Even", "Odd", "Even"]))) = some true by decide +kernel)
  obtain ⟨hreplay, hcircular⟩ := of_decide_eq_true hruns
  refine ⟨⟨hsprites, (reference_faults_confirmed _ _).1 hsprites⟩, graph, hbuild, ⟨hreplay, ?_⟩,
    hcircular, ?_⟩
  · exact (reference_faults_confirmed _ _).2 _ _ _ hbuild hreplay
  · exact (reference_faults_confirmed _ _).2 _ _ _ hbuild hcircular

end Validate
end RenderPlan
