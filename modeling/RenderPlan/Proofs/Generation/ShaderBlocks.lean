import RenderPlan.Proofs.Generation.Closure

/-! Uniform blocks in the shader text. The blocks of all programs are collected step by step, and each
program is noted for the structs it lists, at their positions. A buffer that a pass binds is one of the
uses that are noted in this way. -/
namespace RenderPlan
open LayoutCache StructTable

/-- The uniform blocks of a program, in the order of their binding points; other resources have none. -/
def ResourceKind.uniformBlocks : ResourceKind → List String
  | .shaderProgram p => p.uniformBlocks
  | _ => []

/-- What the steps of a fold append, one after the other. -/
lemma foldl_eq_append {α β γ : Type} {f : β → α → β} {g : β → List γ} {q : α → List γ}
    (h : ∀ b a, g (f b a) = g b ++ q a) (xs : List α) (b : β) :
    g (xs.foldl f b) = g b ++ xs.flatMap q := by
  induction xs generalizing b with
  | nil => simp
  | cons x xs ih => rw [List.foldl_cons, ih, h, List.flatMap_cons, List.append_assoc]

namespace BlockUse
variable {uses : List BlockUse} {u : BlockUse} {structName name : String} {binding point : UInt32}
  {program user : String}

/-- What tells one use from another. -/
def key (u : BlockUse) : String × UInt32 := (u.structName, u.binding)

/-- No struct is noted twice at one binding point, and none without a program. -/
structure Grouped (uses : List BlockUse) : Prop where
  distinct : (uses.map key).Nodup
  used : ∀ u ∈ uses, u.programs ≠ []

/-- The programs noted for the struct at the binding point. -/
def programsAt (uses : List BlockUse) (structName : String) (binding : UInt32) : List String :=
  ((uses.find? fun u => u.key = (structName, binding)).map programs).getD []

@[simp]
lemma programsAt_cons (u : BlockUse) (us : List BlockUse) : programsAt (u :: us) name point =
    if u.key = (name, point) then u.programs else programsAt us name point := by
  by_cases hk : u.key = (name, point) <;> simp [programsAt, hk]

lemma Grouped.programsAt_eq (h : Grouped uses) (hu : u ∈ uses) :
    programsAt uses u.structName u.binding = u.programs := by
  have hdistinct := h.distinct
  clear h
  induction uses with
  | nil => cases hu
  | cons v us ih =>
    obtain ⟨hv, hus⟩ := List.nodup_cons.1 hdistinct
    rw [programsAt_cons]
    rcases List.mem_cons.1 hu with rfl | hu
    · exact if_pos rfl
    · have hne : v.key ≠ (u.structName, u.binding) := fun hk => hv (hk ▸ List.mem_map_of_mem hu)
      rw [if_neg hne, ih hu hus]

lemma exists_of_mem_programsAt (h : program ∈ programsAt uses name point) :
    ∃ u ∈ uses, u.key = (name, point) ∧ program ∈ u.programs := by
  induction uses with
  | nil => cases h
  | cons v us ih =>
    rw [programsAt_cons] at h
    split at h
    · next hk => exact ⟨v, List.mem_cons_self, hk, h⟩
    · obtain ⟨u, hu, hkey, hprogram⟩ := ih h
      exact ⟨u, List.mem_cons_of_mem v hu, hkey, hprogram⟩

@[simp]
lemma key_eq_iff : u.key = (structName, binding) ↔ u.structName = structName ∧ u.binding = binding :=
  Prod.mk.injEq _ _ _ _ ▸ Iff.rfl

lemma add_cons (u : BlockUse) (us : List BlockUse) : add structName binding program (u :: us) =
    if u.key = (structName, binding) then { u with programs := u.programs ++ [program] } :: us
    else u :: add structName binding program us := by
  simp only [add, key_eq_iff]

/-- A program is noted behind those that use the same struct at the same point. -/
@[simp] lemma programsAt_add : programsAt (add structName binding program uses) name point =
    programsAt uses name point ++ if (structName, binding) = (name, point) then [program] else [] := by
  induction uses with
  | nil =>
    change programsAt [⟨structName, binding, [program]⟩] name point = _
    rw [programsAt_cons]
    rfl
  | cons u us ih =>
    rw [add_cons, programsAt_cons]
    by_cases hu : u.key = (structName, binding)
    · have hkey : key { u with programs := u.programs ++ [program] } = u.key := rfl
      rw [if_pos hu, programsAt_cons, hkey, ← hu]
      by_cases hk : u.key = (name, point)
      · simp only [hk, if_true]
      · simp only [hk, if_false, List.append_nil]
    · rw [if_neg hu, programsAt_cons, ih]
      by_cases hk : u.key = (name, point)
      · have hne : (structName, binding) ≠ (name, point) := fun he => hu (hk.trans he.symm)
        simp only [hk, hne, if_true, if_false, List.append_nil]
      · simp only [hk, if_false]

/-- A program is noted once for each of its blocks with that struct at that point. -/
lemma programsAt_addProgram (program : String) (blocks : List String) (uses : List BlockUse) :
    programsAt (addProgram program blocks uses) name point = programsAt uses name point ++
      blocks.zipIdx.flatMap fun x => if (x.1, UInt32.ofNat x.2) = (name, point) then [program] else [] :=
  foldl_eq_append (g := fun us => programsAt us name point)
    (f := fun us (x : String × ℕ) => add x.1 (UInt32.ofNat x.2) program us)
    (fun _ _ => programsAt_add) blocks.zipIdx uses

@[simp] lemma addStep_eq (uses : List BlockUse) (step : SetupStep) :
    addStep uses step = addProgram step.name step.kind.uniformBlocks uses := by
  rw [addStep]
  cases step.kind <;> rfl

/-- Programs are noted in the order of the setup. -/
lemma programsAt_ofSetup (setup : List SetupStep) (name : String) (point : UInt32) :
    programsAt (ofSetup setup) name point = setup.flatMap fun step =>
      step.kind.uniformBlocks.zipIdx.flatMap fun x =>
        if (x.1, UInt32.ofNat x.2) = (name, point) then [step.name] else [] := by
  have hfold := foldl_eq_append (g := fun us => programsAt us name point) (f := addStep)
    (fun us step => by rw [addStep_eq, programsAt_addProgram]) setup []
  exact hfold

@[simp]
lemma mem_keys_add {k : String × UInt32} : k ∈ (add structName binding program uses).map key ↔
    k ∈ uses.map key ∨ k = (structName, binding) := by
  induction uses with
  | nil => simp [add, key]
  | cons u us ih =>
    rw [add_cons]
    split
    · next hu =>
      have hkey : key { u with programs := u.programs ++ [program] } = u.key := rfl
      simp only [List.map_cons, List.mem_cons, hkey, ← hu]
      tauto
    · simp only [List.map_cons, List.mem_cons, ih, or_assoc]

lemma Grouped.add (h : Grouped uses) : Grouped (add structName binding program uses) := by
  induction uses with
  | nil => exact ⟨by simp [BlockUse.add], by simp [BlockUse.add]⟩
  | cons u us ih =>
    obtain ⟨hu, hus⟩ := List.nodup_cons.1 h.distinct
    obtain ⟨hprograms, hused⟩ := List.forall_mem_cons.1 h.used
    rw [add_cons]
    split
    · exact ⟨h.distinct, List.forall_mem_cons.2 ⟨by simp, hused⟩⟩
    · next hne =>
      have hrest := ih ⟨hus, hused⟩
      refine ⟨List.nodup_cons.2 ⟨fun hmem => ?_, hrest.distinct⟩,
        List.forall_mem_cons.2 ⟨hprograms, hrest.used⟩⟩
      exact (mem_keys_add.1 hmem).elim hu hne

lemma grouped_ofSetup (setup : List SetupStep) : Grouped (ofSetup setup) := by
  refine List.foldlRecOn (motive := Grouped) setup addStep ⟨List.nodup_nil, by simp⟩
    fun uses h step _ => ?_
  rw [addStep_eq]
  exact List.foldlRecOn (motive := Grouped) step.kind.uniformBlocks.zipIdx _ h fun us hus _ _ => hus.add

/-- A program is noted for exactly the structs it declares, at their positions. -/
@[simp]
lemma mem_programsAt_ofSetup {setup : List SetupStep} : user ∈ programsAt (ofSetup setup) name point ↔
    ∃ step ∈ setup, user = step.name ∧
      ∃ i, step.kind.uniformBlocks[i]? = some name ∧ point = UInt32.ofNat i := by
  simp only [programsAt_ofSetup, List.mem_flatMap]
  refine exists_congr fun step => and_congr_right fun _ => ?_
  constructor
  · rintro ⟨⟨block, i⟩, hx, huser⟩
    split at huser
    · next hk =>
      cases hk
      exact ⟨List.mem_singleton.1 huser, i, List.mem_zipIdx_iff_getElem?.1 hx, rfl⟩
    · cases huser
  · rintro ⟨rfl, i, hi, rfl⟩
    exact ⟨(name, i), List.mem_zipIdx_iff_getElem?.2 hi, by simp⟩

end BlockUse

/-- A uniform block as it is declared in the shader text. -/
structure UniformBlock where
  use : BlockUse
  /-- The first block of its struct, which has no instance name. -/
  isFirst : Bool
  members : List FieldDecl

namespace UniformBlock

def structName (b : UniformBlock) : String := b.use.structName

def binding (b : UniformBlock) : UInt32 := b.use.binding

/-- The programs in the line above the block. -/
def programs (b : UniformBlock) : List String := b.use.programs

def text (b : UniformBlock) : String := b.use.declaration ⟨b.structName, b.members⟩ b.isFirst

/-- The blocks for some uses, with the structs seen before. -/
def ofUses (t : StructTable) : (seen : List String) → List BlockUse → List UniformBlock
  | _, [] => []
  | seen, u :: us =>
    ((t.get? u.structName).map fun d => ⟨u, u.structName ∉ seen, d.fields⟩).toList ++
      ofUses t (u.structName :: seen) us

variable {t : StructTable} {seen : List String} {uses : List BlockUse}

@[simp]
lemma map_text_ofUses : (ofUses t seen uses).map text = BlockUse.declarations t seen uses := by
  induction uses generalizing seen with
  | nil => rfl
  | cons u us ih =>
    rw [ofUses, BlockUse.declarations, List.map_append, ih]
    cases t.get? u.structName <;> rfl

/-- Only uses of undeclared structs are left out. -/
lemma sublist_ofUses (t : StructTable) (seen : List String) (uses : List BlockUse) :
    ((ofUses t seen uses).map use).Sublist uses := by
  induction uses generalizing seen with
  | nil => exact .slnil
  | cons u us ih =>
    rw [ofUses, List.map_append]
    cases t.get? u.structName with
    | none => exact (ih _).cons u
    | some d => exact (ih _).cons_cons u

lemma exists_mem_ofUses {u : BlockUse} {d : StructDecl} (hu : u ∈ uses)
    (hd : t.get? u.structName = some d) (seen : List String) :
    ∃ b ∈ ofUses t seen uses, b.use = u ∧ b.members = d.fields := by
  induction uses generalizing seen with
  | nil => cases hu
  | cons v us ih =>
    rcases List.mem_cons.1 hu with rfl | hu
    · exact ⟨_, List.mem_append_left _ (Option.mem_toList.2 (Option.map_eq_some_iff.2 ⟨d, hd, rfl⟩)),
        rfl, rfl⟩
    · obtain ⟨b, hb, huse⟩ := ih hu (v.structName :: seen)
      exact ⟨b, List.mem_append_right _ hb, huse⟩

end UniformBlock

namespace Artifacts

/-- The uniform blocks in the shader text, in order. -/
def uniformBlocks (a : Artifacts) : List UniformBlock :=
  UniformBlock.ofUses a.structs [] (BlockUse.ofSetup a.setup)

lemma shaderText_eq (a : Artifacts) : a.shaderText =
    String.join (a.structs.dependencyOrder.map fun d => d.declaration ++ "\n") ++
      String.join (a.uniformBlocks.map UniformBlock.text) := by
  rw [shaderText, uniformBlocks, UniformBlock.map_text_ofUses]

lemma nodup_uniformBlocks (a : Artifacts) :
    (a.uniformBlocks.map fun b => b.use.key).Nodup := by
  have hsub := (UniformBlock.sublist_ofUses a.structs [] (BlockUse.ofSetup a.setup)).map
    BlockUse.key
  rw [List.map_map] at hsub
  exact hsub.nodup (BlockUse.grouped_ofSetup a.setup).distinct

end Artifacts

/-- Where keys are distinct, an item is the only one with its key. -/
lemma filter_eq_singleton {α β : Type} [DecidableEq β] {f : α → β} {xs : List α} {x : α}
    (h : (xs.map f).Nodup) (hx : x ∈ xs) : xs.filter (fun y => f y = f x) = [x] := by
  obtain ⟨before, after, rfl⟩ := List.append_of_mem hx
  rw [List.map_append, List.map_cons, List.nodup_middle, List.nodup_cons, List.mem_append,
    not_or] at h
  have hbefore : before.filter (fun y => f y = f x) = [] := by
    refine List.filter_eq_nil_iff.2 fun y hy he => h.1.1 ?_
    exact of_decide_eq_true he ▸ List.mem_map_of_mem hy
  have hafter : after.filter (fun y => f y = f x) = [] := by
    refine List.filter_eq_nil_iff.2 fun y hy he => h.1.2 ?_
    exact of_decide_eq_true he ▸ List.mem_map_of_mem hy
  rw [List.filter_append, List.filter_cons, hbefore, hafter]
  simp

namespace Specification.Completed
variable {spec : Specification} {t : StructTable} {c : LayoutCache} {g : ResourceGraph}
  {v : Validation} {a : Artifacts} {name : String}

/-- A layout has the fields of the declared struct. -/
lemma exists_decl_of_layout? (h : spec.Completed t c g v a) {l : StructLayout}
    (hl : a.layout? name = some l) :
    ∃ d, a.structs.get? name = some d ∧ d.fields = l.fields.map FieldLayout.decl := by
  rw [h.layout?_eq] at hl
  rw [h.structs_eq, h.complete.table]
  have hlayout := h.complete.get?_eq_some_iff.1 hl
  cases hlayout with
  | @intro _ d _ _ declared _ allowed => exact ⟨d, declared, allowed.1.map_decl.symm⟩

/-- A bound buffer is a use that the shader text knows of. -/
lemma lists_of_binding (h : spec.Completed t c g v a) {e : PipelineEmission} (he : e ∈ a.pipelines)
    {pass : PassEmission} (hpass : pass ∈ e.passes) {b : BufferBinding} (hb : b ∈ pass.buffers) :
    ∃ u ∈ BlockUse.ofSetup a.setup, u.key = (b.structName, b.binding) ∧ pass.program ∈ u.programs := by
  obtain ⟨source, reports, hresolve⟩ := h.exists_resolvePass he hpass
  obtain ⟨p, hholds, hindex⟩ := PassContext.resolvePass_bindings hresolve
  obtain ⟨step, hs, hname, hk, -⟩ := h.creates_of_holds hholds
  obtain ⟨-, hlisted, hbinding⟩ := hindex b hb
  apply BlockUse.exists_of_mem_programsAt
  refine BlockUse.mem_programsAt_ofSetup.2 ⟨step, hs, hname.symm, p.uniformBlocks.idxOf b.structName, ?_,
    hbinding⟩
  rw [hk]
  exact List.getElem?_idxOf hlisted

end Specification.Completed

lemma StructDecl.uniformBlock_eq (d : StructDecl) (binding : UInt32) (block inst : String) :
    d.uniformBlock binding block inst =
      "layout(std140, binding = " ++ Text.decimal binding.toNat ++ ")\nuniform " ++ block ++
        "\n\x7b\n" ++ d.members ++ "\x7d" ++ (if inst = "" then "" else " " ++ inst) ++ ";\n" := rfl

lemma UniformBlock.text_eq (block : UniformBlock) : block.text =
    "// Used by: " ++ ", ".intercalate block.programs ++ "\n" ++
      StructDecl.uniformBlock ⟨block.structName, block.members⟩ block.binding
        (block.use.blockNames block.isFirst).1 (block.use.blockNames block.isFirst).2 ++ "\n" := rfl

/-- Two programs that have a struct at different binding points, one of them twice. -/
def glowSpec : Specification where
  structs :=
    [⟨"Fade", [⟨"amount", .scalar .float⟩]⟩, ⟨"Tint", [⟨"color", .vector .float .three⟩]⟩]
  resources :=
    [.program "Glow" ["Corners"] ["Tint", "Fade", "Fade"] 1, .program "Blend" ["Corners"] ["Fade"] 1,
      .stage "Corners" .vertex "", .buffer "Settings" "Fade"]
  pipelines :=
    [{ name := "Main"
       passes := [{ name := "Mix", program := "Glow", kind := .draw 3, buffers := ["Settings"] }] }]

end RenderPlan
