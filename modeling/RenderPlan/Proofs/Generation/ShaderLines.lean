import RenderPlan.Proofs.Generation.ShaderBlocks
import RenderPlan.Proofs.Text.Lines

/-! The shader text line by line. Each struct and each uniform block takes some lines of its own, which
are the lines of the text, since no declared name holds a line break. Structs and blocks are introduced
by a word of their own at the front of a line. -/
namespace RenderPlan
open Text ShaderType StructTable

namespace ShaderType
variable {t : ShaderType} {name : String}

lemma base_of_referenced (h : t.referenced = some name) : t.base = .struct name := by
  induction t with
  | struct n => exact congrArg ShaderType.struct (Option.some.inj h)
  | array element length ih => exact ih h
  | _ => cases h

lemma isBuiltin_base (h : t.referenced = none) : t.base.isBuiltin = true := by
  induction t with
  | struct n => cases h
  | array element length ih => exact ih h
  | _ => rfl

lemma baseSpelling_of_referenced (h : t.referenced = some name) : t.baseSpelling = name := by
  rw [← baseSpelling_base, base_of_referenced h]
  rfl

lemma baseName_baseSpelling (h : t.referenced = none) : BaseName t.baseSpelling.toList t.base := by
  obtain ⟨cs, hname⟩ := exists_baseName_iff.2 (.inl (isBuiltin_base h))
  rw [← baseSpelling_base]
  exact hname.baseSpelling

/-- Behind the name come the lengths and the semicolon, and no character of a name opens them. -/
lemma head?_lengthSpelling (t : ShaderType) :
    ∀ c ∈ (t.lengthSpelling.toList ++ [';']).head?, isIdentifierPart c = false := by
  intro c hc
  have hhead := (brackets_lengthSpelling t).head
  cases hl : t.lengthSpelling.toList with
  | nil =>
    rw [hl] at hc
    cases hc
    decide
  | cons c' rest =>
    rw [hl] at hc hhead
    cases hc
    rw [hhead c rfl]
    decide

end ShaderType

/-- The base of the type comes first, whatever stands behind the name. -/
lemma memberDeclaration_eq {type : ShaderType} (h : Plain type.baseSpelling) (name : String) :
    memberDeclaration name type = type.baseSpelling ++ " " ++ name ++ type.lengthSpelling ++ ";" := by
  have hmark : ∀ c ∈ type.baseSpelling.toList, c ≠ '[' := fun c hc => h.ne hc (by decide)
  have hhead := (brackets_lengthSpelling type).head
  rw [memberDeclaration, spelling, String.toList_append, takeWhile_append_mark hmark hhead,
    dropWhile_append_mark hmark hhead, String.ofList_toList, String.ofList_toList]

/-- The name is an identifier, and so far as its characters go the base of the type is one. -/
structure FieldDecl.Spelled (f : FieldDecl) : Prop where
  name : IsIdentifier f.name.toList
  base : Plain f.type.baseSpelling

/-- The lines of the members of a struct or block. -/
def memberLines (fields : List FieldDecl) : List String :=
  fields.map fun f => "    " ++ memberDeclaration f.name f.type

lemma StructDecl.members_eq (d : StructDecl) : d.members = unlines (memberLines d.fields) := by
  rw [members, unlines, memberLines, List.map_map]
  rfl

/-- Members in braces under some head lines, and an empty line. -/
def framed (heads : List String) (fields : List FieldDecl) (scope : String) : List String :=
  heads ++ ["\x7b"] ++ memberLines fields ++ ["\x7d" ++ scope ++ ";", ""]

section Framed
variable {heads : List String} {fields : List FieldDecl} {scope word line : String} {c : Char}

lemma head?_of_mem_memberLines (h : line ∈ memberLines fields) : line.toList.head? = some ' ' := by
  obtain ⟨f, -, rfl⟩ := List.mem_map.1 h
  simp

lemma unbroken_memberLine {f : FieldDecl} (h : f.Spelled) :
    Unbroken ("    " ++ memberDeclaration f.name f.type) := by
  have hlengths : Unbroken f.type.lengthSpelling := fun hbreak => by
    cases isBlank_of_mem_lengthSpelling hbreak
  rw [memberDeclaration_eq h.base]
  simp only [unbroken_append, h.name.plain.unbroken, h.base.unbroken, hlengths]
  decide

lemma unbroken_of_mem_framed (hheads : ∀ line ∈ heads, Unbroken line)
    (hfields : ∀ f ∈ fields, f.Spelled) (hscope : Unbroken scope) (h : line ∈ framed heads fields scope) :
    Unbroken line := by
  simp only [framed, List.mem_append, List.mem_cons, List.not_mem_nil, or_false] at h
  rcases h with ((h | rfl) | h) | rfl | rfl
  · exact hheads line h
  · decide
  · obtain ⟨f, hf, rfl⟩ := List.mem_map.1 h
    exact unbroken_memberLine (hfields f hf)
  · simp only [unbroken_append, hscope]
    decide
  · decide

/-- Only the head lines can open with a word. -/
lemma behind_framed (hword : word.toList.head? = some c) (hc : c ∉ ['\x7b', ' ', '\x7d']) :
    behind word (framed heads fields scope) = behind word heads := by
  have hne : word ≠ "" := by
    rintro rfl
    cases hword
  have hrest : behind word (["\x7b"] ++ memberLines fields ++ ["\x7d" ++ scope ++ ";", ""]) = [] := by
    apply behind_eq_nil_of_head hne
    intro line hline
    rw [hword]
    simp only [List.mem_append, List.mem_cons, List.not_mem_nil, or_false, not_or] at hline hc
    obtain ⟨hopen, hblank, hclose⟩ := hc
    rcases hline with (rfl | hline) | rfl | rfl
    · simpa [eq_comm] using hopen
    · simpa [head?_of_mem_memberLines hline, eq_comm] using hblank
    · simpa [eq_comm] using hclose
    · simp
  rw [framed, List.append_assoc, List.append_assoc, behind_append, ← List.append_assoc, hrest,
    List.append_nil]

end Framed

namespace StructDecl

def lines (d : StructDecl) : List String := framed ["struct " ++ d.name] d.fields ""

@[simp] lemma unlines_lines (d : StructDecl) : unlines d.lines = d.declaration ++ "\n" := by
  rw [lines, framed, declaration, members_eq]
  apply String.toList_injective
  simp

@[simp] lemma behind_struct_lines (d : StructDecl) : behind "struct " d.lines = [d.name] := by
  rw [lines, behind_framed (c := 's') (by decide) (by decide), behind_cons_opened]
  rfl

@[simp] lemma behind_uniform_lines (d : StructDecl) : behind "uniform " d.lines = [] := by
  rw [lines, behind_framed (c := 'u') (by decide) (by decide)]
  exact behind_eq_nil_of_head (by decide) (by simp)

end StructDecl

namespace UniformBlock
variable {t : StructTable} {seen : List String} {uses : List BlockUse} {b : UniformBlock}

/-- A block stands for a use of a declared struct and has its fields. -/
lemma declared_of_mem_ofUses (h : b ∈ ofUses t seen uses) :
    b.use ∈ uses ∧ t.get? b.structName = some ⟨b.structName, b.members⟩ := by
  induction uses generalizing seen with
  | nil => cases h
  | cons u us ih =>
    rw [ofUses, List.mem_append, Option.mem_toList, Option.map_eq_some_iff] at h
    rcases h with ⟨d, hd, rfl⟩ | h
    · refine ⟨List.mem_cons_self, ?_⟩
      rw [structName, hd, ← name_of_get? hd]
    · exact (ih h).imp_left (List.mem_cons_of_mem u)

def name (b : UniformBlock) : String := (b.use.blockNames b.isFirst).1

/-- The name behind the members, empty where these are visible by themselves. -/
def instanceName (b : UniformBlock) : String := (b.use.blockNames b.isFirst).2

def lines (b : UniformBlock) : List String :=
  framed ["// Used by: " ++ ", ".intercalate b.programs,
    "layout(std140, binding = " ++ decimal b.binding.toNat ++ ")", "uniform " ++ b.name]
    b.members (if b.instanceName = "" then "" else " " ++ b.instanceName)

@[simp] lemma unlines_lines (b : UniformBlock) : unlines b.lines = b.text := by
  change _ = "// Used by: " ++ ", ".intercalate b.programs ++ "\n" ++
    StructDecl.uniformBlock ⟨b.structName, b.members⟩ b.binding b.name b.instanceName ++ "\n"
  rw [StructDecl.uniformBlock_eq, lines, framed, StructDecl.members_eq]
  apply String.toList_injective
  simp

lemma plain_names (h : Plain b.structName) : Plain b.name ∧ Plain b.instanceName := by
  have hstruct : Plain b.use.structName := h
  rw [name, instanceName, BlockUse.blockNames]
  split
  · simp only [plain_append, hstruct]
    decide
  · simp only [plain_append, hstruct, plain_decimal]
    decide

@[simp] lemma behind_struct_lines (b : UniformBlock) : behind "struct " b.lines = [] := by
  rw [lines, behind_framed (c := 's') (by decide) (by decide)]
  exact behind_eq_nil_of_head (by decide) (by simp)

@[simp] lemma behind_uniform_lines (b : UniformBlock) : behind "uniform " b.lines = [b.name] := by
  rw [lines, behind_framed (c := 'u') (by decide) (by decide), behind_cons_of_head (by decide) (by simp),
    behind_cons_of_head (by decide) (by simp), behind_cons_opened]
  rfl

end UniformBlock

/-- Every struct passes its check and refers to declared structs. -/
structure StructTable.WellFormed (t : StructTable) : Prop where
  checked : ∀ d ∈ t.decls, checkDecl d = .ok ()
  declared : ∀ d ∈ t.decls, ∀ name ∈ references d.fields, name ∈ t.names

namespace StructTable.WellFormed
variable {t : StructTable} {d : StructDecl} {f : FieldDecl}

lemma name (h : t.WellFormed) (hd : d ∈ t.decls) : IsIdentifier d.name.toList :=
  (checkDecl_eq_ok_iff.1 (h.checked d hd)).1

lemma name_of_mem_names (h : t.WellFormed) {name : String} (hn : name ∈ t.names) :
    IsIdentifier name.toList := by
  obtain ⟨d, hd, rfl⟩ := List.mem_map.1 hn
  exact h.name hd

lemma spelled (h : t.WellFormed) (hd : d ∈ t.decls) (hf : f ∈ d.fields) : f.Spelled := by
  obtain ⟨-, -, -, hfields⟩ := checkDecl_eq_ok_iff.1 (h.checked d hd)
  refine ⟨((checkFields_eq_ok_iff.1 hfields).1 f hf).1, ?_⟩
  cases hr : f.type.referenced with
  | none =>
    exact (baseName_baseSpelling hr).isIdentifierPart
  | some name =>
    rw [baseSpelling_of_referenced hr]
    have hn := h.name_of_mem_names (h.declared d hd name (mem_references.2 ⟨f, hf, hr⟩))
    exact hn.plain

lemma nodup_fields (h : t.WellFormed) (hd : d ∈ t.decls) : (d.fields.map FieldDecl.name).Nodup := by
  obtain ⟨-, -, -, hfields⟩ := checkDecl_eq_ok_iff.1 (h.checked d hd)
  exact (checkFields_eq_ok_iff.1 hfields).2.1

lemma unbroken_of_mem_lines (h : t.WellFormed) (hd : d ∈ t.decls) {line : String}
    (hline : line ∈ d.lines) : Unbroken line := by
  refine unbroken_of_mem_framed (fun line hl => ?_) (fun f hf => h.spelled hd hf) (by decide) hline
  rw [List.mem_singleton.1 hl, unbroken_append]
  exact ⟨by decide, (h.name hd).plain.unbroken⟩

end StructTable.WellFormed

/-- Structs are listed in any case, in some order. -/
lemma StructTable.dependencyOrder_perm (t : StructTable) : t.dependencyOrder.Perm t.decls := by
  rw [dependencyOrder]
  cases ho : Graph.topologicalOrder t.decls.length t.referenceEdges with
  | error left => exact .refl _
  | ok order => exact Graph.perm_of_topologicalOrder ho

lemma StructTable.nodup_dependencyOrder (t : StructTable) :
    (t.dependencyOrder.map StructDecl.name).Nodup :=
  (t.dependencyOrder_perm.map _).nodup_iff.2 t.distinct

namespace Artifacts

lemma decl_mem_structs {a : Artifacts} {b : UniformBlock} (hb : b ∈ a.uniformBlocks) :
    ⟨b.structName, b.members⟩ ∈ a.structs.decls :=
  mem_of_get? (UniformBlock.declared_of_mem_ofUses hb).2

def shaderLines (a : Artifacts) : List String :=
  a.structs.dependencyOrder.flatMap StructDecl.lines ++ a.uniformBlocks.flatMap UniformBlock.lines

@[simp] lemma unlines_shaderLines (a : Artifacts) : unlines a.shaderLines = a.shaderText := by
  rw [shaderLines, unlines_append, unlines_flatMap, unlines_flatMap, shaderText_eq]
  simp only [StructDecl.unlines_lines, UniformBlock.unlines_lines]

/-- The structs that the text declares, in order. -/
@[simp] lemma behind_struct_shaderLines (a : Artifacts) :
    behind "struct " a.shaderLines = a.structs.dependencyOrder.map StructDecl.name := by
  simp only [shaderLines, behind_append, behind_flatMap, StructDecl.behind_struct_lines,
    UniformBlock.behind_struct_lines]
  simp [List.map_eq_flatMap]

@[simp] lemma behind_uniform_shaderLines (a : Artifacts) :
    behind "uniform " a.shaderLines = a.uniformBlocks.map UniformBlock.name := by
  simp only [shaderLines, behind_append, behind_flatMap, StructDecl.behind_uniform_lines,
    UniformBlock.behind_uniform_lines]
  simp [List.map_eq_flatMap]

end Artifacts

namespace Specification.Completed
variable {spec : Specification} {t : StructTable} {c : LayoutCache} {g : ResourceGraph}
  {v : Validation} {a : Artifacts}

lemma wellFormed_structs (h : spec.Completed t c g v a) : a.structs.WellFormed := by
  rw [h.structs_eq, h.complete.table]
  obtain ⟨hdecls, hcheck⟩ := typeCheck_eq_ok_iff.1 h.table
  refine ⟨hdecls ▸ hcheck, fun d hd name hn => ?_⟩
  obtain ⟨l, hl⟩ := Option.isSome_iff_exists.1 (h.complete.finished d.name (List.mem_map_of_mem hd))
  have hlayout := h.complete.get?_eq_some_iff.1 hl
  cases hlayout with
  | @intro _ e _ _ declared below _ =>
    rw [t.get?_eq_some_iff.2 ⟨hd, rfl⟩] at declared
    cases declared
    exact HasLayout.mem_names (below name hn)

/-- Shadows are textures, so what has uniform blocks is declared by the specification. -/
lemma decl_mem_resources (h : spec.Completed t c g v a) {step : SetupStep} (hs : step ∈ a.setup)
    {name : String} (hn : name ∈ step.kind.uniformBlocks) : step.decl ∈ spec.resources := by
  have hmem := h.setup_perm.mem_iff.1 (List.mem_map_of_mem hs)
  refine (List.mem_append.1 hmem).resolve_right fun hcopy => ?_
  obtain ⟨s, hshadow, hcopy⟩ := List.mem_filterMap.1 hcopy
  obtain ⟨d, tex, hd, htex⟩ := h.texture_of_shadow hshadow
  rw [hd, Option.map_some, Option.some.injEq, htex] at hcopy
  have hk : ResourceKind.texture tex = step.kind := congrArg ResourceDecl.kind hcopy
  rw [← hk] at hn
  cases hn

lemma isIdentifier_of_mem_programs (h : spec.Completed t c g v a) {b : UniformBlock}
    (hb : b.use ∈ BlockUse.ofSetup a.setup) {program : String} (hp : program ∈ b.programs) :
    IsIdentifier program.toList := by
  rw [UniformBlock.programs, ← (BlockUse.grouped_ofSetup a.setup).programsAt_eq hb,
    BlockUse.mem_programsAt_ofSetup] at hp
  obtain ⟨step, hs, rfl, i, hi, -⟩ := hp
  obtain ⟨hdecls, -, hnames⟩ := ResourceGraph.build_eq_ok_iff.1 h.graph
  have hmem := h.decl_mem_resources hs (List.mem_of_getElem? hi)
  rw [← hdecls] at hmem
  exact isIdentifier_iff.1 (hnames _ (List.mem_map_of_mem hmem))

lemma unbroken_of_mem_uniformBlocks (h : spec.Completed t c g v a) {b : UniformBlock}
    (hb : b ∈ a.uniformBlocks) {line : String} (hline : line ∈ b.lines) : Unbroken line := by
  obtain ⟨huse, -⟩ := UniformBlock.declared_of_mem_ofUses hb
  have hmem := Artifacts.decl_mem_structs hb
  obtain ⟨hname, hinst⟩ := UniformBlock.plain_names (h.wellFormed_structs.name hmem).plain
  refine unbroken_of_mem_framed (fun line hl => ?_)
    (fun f hf => h.wellFormed_structs.spelled hmem hf) ?_ hline
  · simp only [List.mem_cons, List.not_mem_nil, or_false] at hl
    rcases hl with rfl | rfl | rfl
    · refine unbroken_append.2 ⟨by decide, unbroken_intercalate (by decide) fun program hp => ?_⟩
      exact (h.isIdentifier_of_mem_programs huse hp).plain.unbroken
    · simp only [unbroken_append, (plain_decimal _).unbroken]
      decide
    · exact unbroken_append.2 ⟨by decide, hname.unbroken⟩
  · split
    · decide
    · exact unbroken_append.2 ⟨by decide, hinst.unbroken⟩

lemma lines_shaderText (h : spec.Completed t c g v a) : lines a.shaderText = a.shaderLines ++ [""] := by
  rw [← a.unlines_shaderLines, lines_unlines]
  intro line hline
  rcases List.mem_append.1 hline with hline | hline
  · obtain ⟨d, hd, hline⟩ := List.mem_flatMap.1 hline
    exact h.wellFormed_structs.unbroken_of_mem_lines (a.structs.dependencyOrder_perm.mem_iff.1 hd) hline
  · obtain ⟨b, hb, hline⟩ := List.mem_flatMap.1 hline
    exact h.unbroken_of_mem_uniformBlocks hb hline

end Specification.Completed
end RenderPlan
