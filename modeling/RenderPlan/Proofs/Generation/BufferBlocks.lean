import RenderPlan.Proofs.Generation.ShaderLines

/-! Bound buffers and the shader text. Binding points are counted twice, once where a pass binds its
buffers and once where the blocks of all programs are collected. The two agree: each bound buffer has
one block at its binding point. The text of the block lists the program, and has one line for each
field of the buffer's layout, in their order. -/
namespace RenderPlan
open LayoutCache StructTable Text ShaderType

/-- A word for a type that is no array. A builtin type goes by its names, a struct by its own, unless a
builtin type has that name. -/
def ShaderType.Word (base : ShaderType) (word : String) : Prop :=
  (base.isBuiltin = true ∧ BaseName word.toList base) ∨
    (base = .struct word ∧ ¬ BuiltinName word.toList)

/-- A line for a field: the word for its type without array levels, its name, and the length of each
level in brackets, outermost first. -/
def FieldDecl.Line (f : FieldDecl) (line : String) : Prop :=
  ∃ (base : ShaderType) (word : String) (lengths : List ArrayLength), base.Word word ∧
    f.type = base.nest lengths ∧
    line = "    " ++ word ++ " " ++ f.name ++
      String.join (lengths.map fun n => "[" ++ decimal n.count ++ "]") ++ ";"

/-- The text of a uniform block with a line for each of the fields, without an instance or with the one
that its binding point gives. -/
def BlockText (programs : List String) (structName : String) (binding : UInt32)
    (fields : List FieldDecl) (text : String) : Prop :=
  ∃ name scope lines,
    (name, scope) ∈ [(structName ++ "Block", ""),
      (structName ++ "Block" ++ decimal binding.toNat,
        " " ++ structName ++ "At" ++ decimal binding.toNat)] ∧
    List.Forall₂ FieldDecl.Line fields lines ∧
    text = "// Used by: " ++ ", ".intercalate programs ++ "\n" ++
      "layout(std140, binding = " ++ decimal binding.toNat ++ ")\nuniform " ++ name ++ "\n\x7b\n" ++
      String.join (lines.map (· ++ "\n")) ++ "\x7d" ++ scope ++ ";\n" ++ "\n"

lemma ShaderType.lengthSpelling_eq_join (t : ShaderType) : t.lengthSpelling =
    String.join (t.lengths.map fun n => "[" ++ decimal n.count ++ "]") := by
  induction t with
  | array element length ih => rw [lengthSpelling, ih, lengths, List.map_cons, String.join_cons]
  | _ => rfl

namespace StructTable.WellFormed
variable {t : StructTable} {d : StructDecl} {f : FieldDecl}

/-- The struct of a field is declared, so its name has passed the check. -/
lemma word_baseSpelling (h : t.WellFormed) (hd : d ∈ t.decls) (hf : f ∈ d.fields) :
    f.type.base.Word f.type.baseSpelling := by
  cases hr : f.type.referenced with
  | none => exact .inl ⟨isBuiltin_base hr, baseName_baseSpelling hr⟩
  | some name =>
    have hn := h.declared d hd name (mem_references.2 ⟨f, hf, hr⟩)
    obtain ⟨e, he, rfl⟩ := List.mem_map.1 hn
    rw [base_of_referenced hr, baseSpelling_of_referenced hr]
    exact .inr ⟨rfl, (checkDecl_eq_ok_iff.1 (h.checked e he)).2.1⟩

lemma line_memberDeclaration (h : t.WellFormed) (hd : d ∈ t.decls) (hf : f ∈ d.fields) :
    f.Line ("    " ++ memberDeclaration f.name f.type) := by
  refine ⟨f.type.base, f.type.baseSpelling, f.type.lengths, h.word_baseSpelling hd hf,
    (nest_lengths f.type).symm, ?_⟩
  rw [memberDeclaration_eq (h.spelled hd hf).base, lengthSpelling_eq_join]
  simp only [String.append_assoc]

lemma forall₂_line_memberLines (h : t.WellFormed) (hd : d ∈ t.decls) :
    List.Forall₂ FieldDecl.Line d.fields (memberLines d.fields) := by
  rw [memberLines, List.forall₂_map_right_iff, List.forall₂_same]
  exact fun f hf => h.line_memberDeclaration hd hf

/-- The text of a block is that of its record. -/
lemma blockText {block : UniformBlock} (h : t.WellFormed)
    (hd : ⟨block.structName, block.members⟩ ∈ t.decls) :
    BlockText block.programs block.structName block.binding block.members block.text := by
  refine ⟨block.name, if block.instanceName = "" then "" else " " ++ block.instanceName,
    memberLines block.members, ?_, h.forall₂_line_memberLines hd, ?_⟩
  · rw [UniformBlock.name, UniformBlock.instanceName, BlockUse.blockNames]
    cases block.isFirst <;>
      simp [UniformBlock.structName, UniformBlock.binding, String.append_assoc]
  · rw [block.text_eq, StructDecl.uniformBlock_eq, StructDecl.members_eq, unlines,
      ← UniformBlock.name, ← UniformBlock.instanceName]
    simp only [String.append_assoc]

end StructTable.WellFormed

/-- The block declares a buffer at a binding point for a program, with the fields of a layout. -/
structure UniformBlock.Declares (b : BufferBinding) (program : String) (l : StructLayout)
    (block : UniformBlock) : Prop where
  program : program ∈ block.programs
  members : block.members = l.fields.map FieldLayout.decl
  text : BlockText block.programs b.structName b.binding (l.fields.map FieldLayout.decl) block.text

/-- The shader text consists of the structs and of the uniform blocks, each of them written out with
its programs, its binding point and its members. For every buffer that a pass binds, exactly one of
these blocks is of its struct and at its binding point, and declares the buffer for the program of the
pass with the layout by which the buffer is filled. -/
theorem Generator.run_blocks_match_bindings (gen : Generator) (spec : Specification) (a : Artifacts)
    (h : (gen.run spec).1 = .ok a) :
    a.shaderText =
      String.join (a.structs.dependencyOrder.map fun d => d.declaration ++ "\n") ++
        String.join (a.uniformBlocks.map UniformBlock.text) ∧
    (∀ block ∈ a.uniformBlocks,
      BlockText block.programs block.structName block.binding block.members block.text) ∧
    ∀ e ∈ a.pipelines, ∀ pass ∈ e.passes, ∀ b ∈ pass.buffers,
      ∃ block l, a.uniformBlocks.filter
          (fun u => u.structName = b.structName ∧ u.binding = b.binding) = [block] ∧
        a.layout? b.structName = some l ∧ block.Declares b pass.program l := by
  obtain ⟨t, c, g, v, hc⟩ := completed_of_run h
  have htext : ∀ block ∈ a.uniformBlocks,
      BlockText block.programs block.structName block.binding block.members block.text :=
    fun block hblock => hc.wellFormed_structs.blockText (Artifacts.decl_mem_structs hblock)
  refine ⟨a.shaderText_eq, htext, fun e he pass hpass b hb => ?_⟩
  obtain ⟨u, hu, hkey, hprogram⟩ := hc.lists_of_binding he hpass hb
  obtain ⟨-, hlaid, -⟩ := (hc.closed_pass he hpass).buffers b hb
  obtain ⟨l, hl⟩ := Option.isSome_iff_exists.1 hlaid
  obtain ⟨d, hd, hfields⟩ := hc.exists_decl_of_layout? hl
  have hname : u.structName = b.structName := congrArg Prod.fst hkey
  have hbinding : u.binding = b.binding := congrArg Prod.snd hkey
  obtain ⟨block, hmem, rfl, hmembers⟩ := UniformBlock.exists_mem_ofUses hu (hname.symm ▸ hd) []
  have hdeclared := htext block hmem
  rw [UniformBlock.structName, UniformBlock.binding, hname, hbinding, hmembers, hfields] at hdeclared
  refine ⟨block, l, ?_, hl, hprogram, hmembers.trans hfields, hdeclared⟩
  rw [← filter_eq_singleton a.nodup_uniformBlocks hmem, hkey]
  refine List.filter_congr fun x _ => ?_
  rw [decide_eq_decide]
  exact (Prod.ext_iff (x := x.use.key) (y := (b.structName, b.binding))).symm

/-- The settings go to the first of the two blocks that the glowing program has for them. -/
theorem Generator.run_blocks_match_bindings_glow :
    let b : BufferBinding := ⟨1, "Settings", "Fade"⟩
    ∃ a, (({} : Generator).run glowSpec).1 = .ok a ∧
      a.uniformBlocks.map UniformBlock.use =
        [⟨"Tint", 0, ["Glow"]⟩, ⟨"Fade", 1, ["Glow"]⟩, ⟨"Fade", 2, ["Glow"]⟩, ⟨"Fade", 0, ["Blend"]⟩] ∧
      (∃ e ∈ a.pipelines, ∃ pass ∈ e.passes, pass.program = "Glow" ∧ b ∈ pass.buffers) ∧
      ∃ block l, a.uniformBlocks.filter
          (fun u => u.structName = "Fade" ∧ u.binding = 1) = [block] ∧
        a.layout? "Fade" = some l ∧ block.Declares b "Glow" l := by
  intro b
  have heval : (({} : Generator).run glowSpec).1.toOption.map (fun a =>
      decide (a.uniformBlocks.map UniformBlock.use =
          [⟨"Tint", 0, ["Glow"]⟩, ⟨"Fade", 1, ["Glow"]⟩, ⟨"Fade", 2, ["Glow"]⟩,
            ⟨"Fade", 0, ["Blend"]⟩] ∧
        ∃ e ∈ a.pipelines, ∃ pass ∈ e.passes, pass.program = "Glow" ∧ b ∈ pass.buffers)) =
      some true := by
    decide +kernel
  obtain ⟨a, h, ha⟩ := exists_ok_of_toOption_map heval
  obtain ⟨huses, e, he, pass, hpass, hprogram, hb⟩ := of_decide_eq_true ha
  have hblock := (run_blocks_match_bindings {} glowSpec a h).2.2 e he pass hpass b hb
  exact ⟨a, h, huses, ⟨e, he, pass, hpass, hprogram, hb⟩, hprogram ▸ hblock⟩

end RenderPlan
