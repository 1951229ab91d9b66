import RenderPlan.Proofs.Generation.BlockNames

/-! Names at global scope of the shader text. They are read from the lines of the text: structs and
blocks by their head lines, and the members of a block unless an instance scopes them. Names that are
made for blocks and instances differ from each other, but not from the names of structs and members,
which are free. -/
namespace RenderPlan
open Text

/-- What a line of the shader text says about names. -/
inductive ShaderLine where
  | struct (name : String)
  | block (name : String)
  | member (name : String)
  /-- The end of a body, with the name of the instance if there is one. -/
  | close (scope : String)
  | other
  deriving DecidableEq

namespace ShaderLine

/-- The identifier at the front of a text. -/
def leadingName (cs : List Char) : String := String.ofList (cs.takeWhile isIdentifierPart)

def ofLine (line : String) : ShaderLine :=
  let behind? (word : String) := after? word.toList line.toList
  (((behind? "struct ").map fun cs => struct (leadingName cs)) <|>
    ((behind? "uniform ").map fun cs => block (leadingName cs)) <|>
    -- The name of a member stands behind its type.
    ((behind? "    ").map fun cs => member (leadingName (cs.dropWhile (· != ' ')).tail)) <|>
    ((behind? "\x7d").map fun cs => close (leadingName cs.tail))).getD other

/-- The names that lines declare at global scope, where `body` holds the members of the block that is
open. The members of a struct are not collected. -/
@[simp] def globalNames : (body : Option (List String)) → List ShaderLine → List String
  | _, [] => []
  | _, struct name :: ls => name :: globalNames none ls
  | _, block name :: ls => name :: globalNames (some []) ls
  | body, member name :: ls => globalNames (body.map (· ++ [name])) ls
  | body, close scope :: ls =>
    (if scope = "" then body.getD [] else [scope]) ++ globalNames none ls
  | body, other :: ls => globalNames body ls

variable {line name scope : String} {body : Option (List String)} {ls : List ShaderLine}
  {fields : List FieldDecl}

lemma leadingName_append {rest : List Char} (h : Plain name)
    (hrest : ∀ c ∈ rest.head?, isIdentifierPart c = false) :
    leadingName (name.toList ++ rest) = name := by
  rw [leadingName, List.takeWhile_append_of_pos h]
  cases rest with
  | nil => simp
  | cons c rest => simp [hrest c rfl]

lemma leadingName_toList (h : Plain name) : leadingName name.toList = name := by
  rw [leadingName, List.takeWhile_eq_self_iff.2 h, String.ofList_toList]

lemma ofLine_struct (h : Plain name) : ofLine ("struct " ++ name) = struct name := by
  simp [ofLine, after?, leadingName_toList h]

lemma ofLine_uniform (h : Plain name) : ofLine ("uniform " ++ name) = block name := by
  simp [ofLine, after?, leadingName_toList h]

lemma ofLine_member {f : FieldDecl} (h : f.Spelled) :
    ofLine ("    " ++ memberDeclaration f.name f.type) = member f.name := by
  have htype : ∀ c ∈ f.type.baseSpelling.toList, c ≠ ' ' := fun c hc => h.base.ne hc (by decide)
  have hdrop : ((memberDeclaration f.name f.type).toList.dropWhile (· != ' ')).tail =
      f.name.toList ++ (f.type.lengthSpelling.toList ++ [';']) := by
    rw [memberDeclaration_eq h.base, String.append_assoc, String.append_assoc, String.append_assoc,
      String.toList_append, dropWhile_append_mark htype (by simp)]
    simp
  have hname := leadingName_append h.name.plain (ShaderType.head?_lengthSpelling f.type)
  rw [← hdrop] at hname
  simp [ofLine, after?, hname]

lemma ofLine_close : ofLine ("\x7d" ++ "" ++ ";") = close "" := by
  simp [ofLine, after?, leadingName]

lemma ofLine_close_scope (h : Plain name) : ofLine ("\x7d" ++ (" " ++ name) ++ ";") = close name := by
  have hmark : ∀ c ∈ [';'].head?, isIdentifierPart c = false := by
    rintro c ⟨⟩
    decide
  simp [ofLine, after?, leadingName_append h hmark]

/-- Other lines than these start differently. -/
lemma ofLine_other (h : line.toList.head? ∉ [some 's', some 'u', some ' ', some '\x7d']) :
    ofLine line = other := by
  rw [ofLine]
  cases hline : line.toList with
  | nil => rfl
  | cons c cs =>
    simp only [hline, List.head?_cons, List.mem_cons, Option.some.injEq, List.not_mem_nil, or_false,
      not_or, eq_comm (a := c)] at h
    simp [after?, h]

lemma map_ofLine_framed {heads : List String} {inst : String} (h : ∀ f ∈ fields, f.Spelled)
    (hclose : ofLine ("\x7d" ++ scope ++ ";") = close inst) :
    (framed heads fields scope).map ofLine = heads.map ofLine ++ other ::
      ((fields.map FieldDecl.name).map member ++ [close inst, other]) := by
  have hmembers : (memberLines fields).map ofLine = (fields.map FieldDecl.name).map member := by
    rw [memberLines, List.map_map, List.map_map]
    refine List.map_congr_left fun f hf => ?_
    rw [Function.comp_apply, Function.comp_apply, ofLine_member (h f hf)]
  have hopen : ofLine "\x7b" = other := ofLine_other (by decide)
  have hempty : ofLine "" = other := ofLine_other (by decide)
  simp only [framed, List.map_append, List.map_cons, List.map_nil, hmembers, hclose, hopen, hempty,
    List.append_assoc, List.cons_append, List.nil_append]

@[simp] lemma globalNames_members (names : List String) :
    globalNames body (names.map member ++ ls) = globalNames (body.map (· ++ names)) ls := by
  induction names generalizing body with
  | nil => simp
  | cons name names ih =>
    rw [List.map_cons, List.cons_append, globalNames, ih, Option.map_map]
    simp [Function.comp_def]

/-- Declarations that follow one another, none of which depends on what is open before it. -/
lemma globalNames_flatMap {α : Type} {f : α → List String} {q : α → List String} {xs : List α}
    (h : ∀ x ∈ xs, ∀ ls, globalNames none ((f x).map ofLine ++ ls) = q x ++ globalNames none ls) :
    globalNames none ((xs.flatMap f).map ofLine ++ ls) = xs.flatMap q ++ globalNames none ls := by
  induction xs with
  | nil => rfl
  | cons x xs ih =>
    obtain ⟨hx, hxs⟩ := List.forall_mem_cons.1 h
    rw [List.flatMap_cons, List.map_append, List.append_assoc, hx, ih hxs, List.flatMap_cons,
      List.append_assoc]

end ShaderLine

/-- The names that the text declares at global scope, in order. -/
def declaredNames (text : String) : List String :=
  ShaderLine.globalNames none ((lines text).map ShaderLine.ofLine)

open ShaderLine

/-- The members of a struct are its own. -/
lemma StructDecl.globalNames_lines {d : StructDecl} (hname : Plain d.name)
    (h : ∀ f ∈ d.fields, f.Spelled) (ls : List ShaderLine) :
    globalNames none (d.lines.map ofLine ++ ls) = [d.name] ++ globalNames none ls := by
  rw [lines, map_ofLine_framed h ofLine_close]
  simp only [List.map_cons, List.map_nil, ofLine_struct hname, List.cons_append, List.nil_append,
    List.append_assoc, globalNames, globalNames_members]
  rfl

namespace UniformBlock
variable {b b' : UniformBlock}

/-- What a block declares besides itself. -/
def scopeNames (b : UniformBlock) : List String :=
  if b.instanceName = "" then b.members.map FieldDecl.name else [b.instanceName]

lemma globalNames_lines (hstruct : Plain b.structName) (h : ∀ f ∈ b.members, f.Spelled)
    (ls : List ShaderLine) :
    globalNames none (b.lines.map ofLine ++ ls) = b.name :: b.scopeNames ++ globalNames none ls := by
  obtain ⟨hname, hinst⟩ := plain_names hstruct
  have hclose : ofLine ("\x7d" ++ (if b.instanceName = "" then "" else " " ++ b.instanceName) ++ ";") =
      close b.instanceName := by
    split
    · next hempty => rw [hempty, ofLine_close]
    · exact ofLine_close_scope hinst
  have hprograms : ofLine ("// Used by: " ++ ", ".intercalate b.programs) = other :=
    ofLine_other (by simp)
  have hlayout : ofLine ("layout(std140, binding = " ++ decimal b.binding.toNat ++ ")") = other :=
    ofLine_other (by simp)
  rw [lines, map_ofLine_framed h hclose]
  simp only [List.map_cons, List.map_nil, hprograms, hlayout, ofLine_uniform hname, List.cons_append,
    List.nil_append, List.append_assoc, globalNames, globalNames_members]
  rfl

@[simp] lemma mem_scopeNames {name : String} : name ∈ b.scopeNames ↔
    b.instanceName = "" ∧ (∃ f ∈ b.members, f.name = name) ∨
      b.instanceName ≠ "" ∧ name = b.instanceName := by
  rw [scopeNames]
  split
  · next h => simp [h]
  · next h => simp [h]

lemma ne_instanceName {name : String} (hne : name ≠ "")
    (h : b.instanceName ≠ "" → name ∉ b.scopeNames) : name ≠ b.instanceName := by
  rintro rfl
  exact h hne (mem_scopeNames.2 (.inr ⟨hne, rfl⟩))

lemma nodup_scopeNames (h : (b.members.map FieldDecl.name).Nodup) : b.scopeNames.Nodup := by
  rw [scopeNames]
  split
  · exact h
  · exact List.nodup_singleton _

lemma name_notMem_scopeNames (h : ∀ f ∈ b'.members, f.name ≠ b.name) : b.name ∉ b'.scopeNames := by
  intro hmem
  obtain ⟨-, f, hf, hname⟩ | ⟨-, hname⟩ := mem_scopeNames.1 hmem
  · exact h f hf hname
  · exact name_ne_instanceName b b' hname

end UniformBlock

/-- The names of structs, blocks, instances and members keep apart. -/
structure Artifacts.ClashFree (a : Artifacts) : Prop where
  structs : ∀ b ∈ a.uniformBlocks, b.name ∉ a.structs.names ∧ b.instanceName ∉ a.structs.names
  members : ∀ b ∈ a.uniformBlocks, ∀ f ∈ b.members, f.name ∉ a.structs.names ∧
    ∀ b' ∈ a.uniformBlocks, f.name ≠ b'.name ∧ f.name ≠ b'.instanceName
  shared : ∀ b ∈ a.uniformBlocks, ∀ b' ∈ a.uniformBlocks, b.structName ≠ b'.structName →
    ∀ f ∈ b.members, ∀ f' ∈ b'.members, f.name ≠ f'.name

instance (a : Artifacts) : Decidable a.ClashFree :=
  decidable_of_iff
    ((∀ b ∈ a.uniformBlocks, b.name ∉ a.structs.names ∧ b.instanceName ∉ a.structs.names) ∧
      (∀ b ∈ a.uniformBlocks, ∀ f ∈ b.members, f.name ∉ a.structs.names ∧
        ∀ b' ∈ a.uniformBlocks, f.name ≠ b'.name ∧ f.name ≠ b'.instanceName) ∧
      ∀ b ∈ a.uniformBlocks, ∀ b' ∈ a.uniformBlocks, b.structName ≠ b'.structName →
        ∀ f ∈ b.members, ∀ f' ∈ b'.members, f.name ≠ f'.name)
    ⟨fun ⟨structs, members, shared⟩ => ⟨structs, members, shared⟩,
      fun ⟨structs, members, shared⟩ => ⟨structs, members, shared⟩⟩

namespace Artifacts.ClashFree
variable {a : Artifacts} {b b' : UniformBlock}

lemma notMem_names (h : a.ClashFree) (hb : b ∈ a.uniformBlocks) {name : String}
    (hn : name ∈ b.name :: b.scopeNames) : name ∉ a.structs.names := by
  rcases List.mem_cons.1 hn with rfl | hn
  · exact (h.structs b hb).1
  · obtain ⟨-, f, hf, rfl⟩ | ⟨-, rfl⟩ := UniformBlock.mem_scopeNames.1 hn
    · exact (h.members b hb f hf).1
    · exact (h.structs b hb).2

lemma name_notMem (h : a.ClashFree) (hb : b ∈ a.uniformBlocks) (hb' : b' ∈ a.uniformBlocks) :
    b.name ∉ b'.scopeNames :=
  UniformBlock.name_notMem_scopeNames fun f hf => ((h.members b' hb' f hf).2 b hb).1

/-- Different blocks declare different names. -/
lemma disjoint (h : a.ClashFree) (hb : b ∈ a.uniformBlocks) (hb' : b' ∈ a.uniformBlocks)
    (hne : b ≠ b') : (b.name :: b.scopeNames).Disjoint (b'.name :: b'.scopeNames) := by
  intro name hn hn'
  rcases List.mem_cons.1 hn with rfl | hn
  · rcases List.mem_cons.1 hn' with hname | hn'
    · exact hne (eq_of_name hb hb' hname)
    · exact h.name_notMem hb hb' hn'
  rcases List.mem_cons.1 hn' with rfl | hn'
  · exact h.name_notMem hb' hb hn
  obtain ⟨hfirst, f, hf, rfl⟩ | ⟨hscoped, rfl⟩ := UniformBlock.mem_scopeNames.1 hn
  · obtain ⟨hfirst', f', hf', hname⟩ | ⟨-, hname⟩ := UniformBlock.mem_scopeNames.1 hn'
    · refine h.shared b hb b' hb' (fun hs => hne ?_) f hf f' hf' hname.symm
      exact eq_of_isFirst hb hb' hs (UniformBlock.instanceName_eq_empty_iff.1 hfirst)
        (UniformBlock.instanceName_eq_empty_iff.1 hfirst')
    · exact ((h.members b hb f hf).2 b' hb').2 hname
  · obtain ⟨-, f', hf', hname⟩ | ⟨-, hname⟩ := UniformBlock.mem_scopeNames.1 hn'
    · exact ((h.members b' hb' f' hf').2 b hb).2 hname
    · exact hne (eq_of_instanceName hb hb' hscoped hname)

end Artifacts.ClashFree

/-- The members of a struct that has a block are at global scope, by the block without an instance. -/
lemma Artifacts.exists_declares_members {a : Artifacts} {b : UniformBlock} (hb : b ∈ a.uniformBlocks) :
    ∃ first ∈ a.uniformBlocks, first.structName = b.structName ∧ first.instanceName = "" ∧
      ∀ f ∈ b.members, f.name ∈ first.scopeNames := by
  obtain ⟨first, honly⟩ := exists_first hb
  obtain ⟨hfirst, hunscoped⟩ := List.mem_filter.1 (honly ▸ List.mem_singleton_self first)
  obtain ⟨hs, hunscoped⟩ := of_decide_eq_true hunscoped
  refine ⟨first, hfirst, hs, hunscoped, fun f hf => ?_⟩
  have hdecl := (UniformBlock.declared_of_mem_ofUses hfirst).2
  rw [hs, (UniformBlock.declared_of_mem_ofUses hb).2] at hdecl
  have hmembers : b.members = first.members := congrArg StructDecl.fields (Option.some.inj hdecl)
  exact UniformBlock.mem_scopeNames.2 (.inl ⟨hunscoped, f, hmembers ▸ hf, rfl⟩)

namespace Specification.Completed
variable {spec : Specification} {t : StructTable} {c : LayoutCache} {g : ResourceGraph}
  {v : Validation} {a : Artifacts}

/-- The names that are read from the text. -/
lemma declaredNames_shaderText (h : spec.Completed t c g v a) : declaredNames a.shaderText =
    a.structs.dependencyOrder.map StructDecl.name ++
      a.uniformBlocks.flatMap fun b => b.name :: b.scopeNames := by
  have hw := h.wellFormed_structs
  have hstructs : ∀ d ∈ a.structs.dependencyOrder, ∀ ls,
      globalNames none (d.lines.map ofLine ++ ls) = [d.name] ++ globalNames none ls := by
    intro d hd
    have hd := a.structs.dependencyOrder_perm.mem_iff.1 hd
    exact StructDecl.globalNames_lines (hw.name hd).plain fun f => hw.spelled hd
  have hblocks : ∀ b ∈ a.uniformBlocks, ∀ ls, globalNames none (b.lines.map ofLine ++ ls) =
      b.name :: b.scopeNames ++ globalNames none ls := by
    intro b hb
    have hd := Artifacts.decl_mem_structs hb
    exact UniformBlock.globalNames_lines (hw.name hd).plain fun f => hw.spelled hd
  have hempty : ofLine "" = other := ofLine_other (by decide)
  rw [declaredNames, h.lines_shaderText, Artifacts.shaderLines, List.map_append, List.map_append,
    List.append_assoc, globalNames_flatMap hstructs, globalNames_flatMap hblocks]
  simp [hempty, List.map_eq_flatMap]

/-- Structs have distinct names, and so have the members of each of them. What remains is to keep the
blocks apart from the structs, from their own members and from each other. -/
lemma nodup_declaredNames_iff (h : spec.Completed t c g v a) : (declaredNames a.shaderText).Nodup ↔
    (∀ b ∈ a.uniformBlocks, ∀ name ∈ b.name :: b.scopeNames, name ∉ a.structs.names) ∧
    (∀ b ∈ a.uniformBlocks, b.name ∉ b.scopeNames) ∧
    ∀ b ∈ a.uniformBlocks, ∀ b' ∈ a.uniformBlocks, b ≠ b' →
      (b.name :: b.scopeNames).Disjoint (b'.name :: b'.scopeNames) := by
  have hnames {name : String} : name ∈ a.structs.dependencyOrder.map StructDecl.name ↔
      name ∈ a.structs.names := (a.structs.dependencyOrder_perm.map _).mem_iff
  rw [h.declaredNames_shaderText, List.nodup_append, List.nodup_flatMap]
  constructor
  · rintro ⟨-, ⟨hown, hpairwise⟩, hstructs⟩
    refine ⟨fun b hb name hn hmem => ?_, fun b hb => (List.nodup_cons.1 (hown b hb)).1, ?_⟩
    · exact hstructs name (hnames.2 hmem) name (List.mem_flatMap.2 ⟨b, hb, hn⟩) rfl
    · intro b hb b' hb'
      have : Std.Symm (List.Disjoint.onFun fun b : UniformBlock => b.name :: b.scopeNames) :=
        ⟨fun _ _ => List.Disjoint.symm⟩
      exact hpairwise.forall hb hb'
  · rintro ⟨hstructs, hown, hblocks⟩
    refine ⟨a.structs.nodup_dependencyOrder, ⟨fun b hb => ?_, ?_⟩, ?_⟩
    · have hfields := h.wellFormed_structs.nodup_fields (Artifacts.decl_mem_structs hb)
      exact List.nodup_cons.2 ⟨hown b hb, UniformBlock.nodup_scopeNames hfields⟩
    · exact a.nodup_blocks.pairwise_of_forall_ne hblocks
    · rintro name hstruct _ hn rfl
      obtain ⟨b, hb, hn⟩ := List.mem_flatMap.1 hn
      exact hstructs b hb name hn (hnames.1 hstruct)

lemma clashFree_of_nodup (h : spec.Completed t c g v a) (hnodup : (declaredNames a.shaderText).Nodup) :
    a.ClashFree := by
  obtain ⟨hstructs, hown, hblocks⟩ := h.nodup_declaredNames_iff.1 hnodup
  have hw := h.wellFormed_structs
  refine ⟨fun b hb => ⟨hstructs b hb _ List.mem_cons_self, ?_⟩, fun b hb f hf => ?_, ?_⟩
  · intro hmem
    refine UniformBlock.ne_instanceName (hw.name_of_mem_names hmem).ne_empty (fun _ hn => ?_) rfl
    exact hstructs b hb _ (List.mem_cons_of_mem _ hn) hmem
  · -- Whichever block it is, the first one of its struct has the member at global scope.
    obtain ⟨first, hfirst, -, hunscoped, hmem⟩ := Artifacts.exists_declares_members hb
    have hscope := hmem f hf
    have hdeclares := List.mem_cons_of_mem first.name hscope
    refine ⟨hstructs first hfirst _ hdeclares, fun b' hb' => ⟨fun hname => ?_, ?_⟩⟩
    · by_cases he : first = b'
      · subst he
        exact hown first hfirst (hname ▸ hscope)
      · exact hblocks first hfirst b' hb' he hdeclares (hname ▸ List.mem_cons_self)
    · have hf := (hw.spelled (Artifacts.decl_mem_structs hb) hf).name
      refine UniformBlock.ne_instanceName hf.ne_empty fun hscoped hn => ?_
      have hne : first ≠ b' := by
        rintro rfl
        exact hscoped hunscoped
      exact hblocks first hfirst b' hb' hne hdeclares (List.mem_cons_of_mem _ hn)
  · intro b hb b' hb' hs f hf f' hf' hname
    obtain ⟨first, hfirst, hstruct, -, hmem⟩ := Artifacts.exists_declares_members hb
    obtain ⟨first', hfirst', hstruct', -, hmem'⟩ := Artifacts.exists_declares_members hb'
    have hne : first ≠ first' := fun he => hs (by rw [← hstruct, ← hstruct', he])
    exact hblocks first hfirst first' hfirst' hne (List.mem_cons_of_mem _ (hmem f hf))
      (List.mem_cons_of_mem _ (hname ▸ hmem' f' hf'))

lemma nodup_of_clashFree (h : spec.Completed t c g v a) (hfree : a.ClashFree) :
    (declaredNames a.shaderText).Nodup :=
  h.nodup_declaredNames_iff.2 ⟨fun _ hb _ => hfree.notMem_names hb, fun _ hb => hfree.name_notMem hb hb,
    fun _ hb _ hb' => hfree.disjoint hb hb'⟩

end Specification.Completed

/-- The text of a run declares no name twice at global scope exactly if no name of a block or instance is
the name of a struct, and no member of a struct that has a block is named like a struct, a block, an
instance or a member of another such struct. Structs, blocks and instances never clash among themselves,
nor do blocks with instances. -/
theorem Generator.run_declaredNames_nodup_iff (gen : Generator) (spec : Specification) (a : Artifacts)
    (h : (gen.run spec).1 = .ok a) : (declaredNames a.shaderText).Nodup ↔ a.ClashFree := by
  obtain ⟨t, c, g, v, hc⟩ := completed_of_run h
  exact ⟨hc.clashFree_of_nodup, hc.nodup_of_clashFree⟩

/-- Two structs with a member of the same name, both used by one program. -/
def viewSpec : Specification where
  structs :=
    [⟨"Camera", [⟨"view", .matrix .four .four⟩]⟩, ⟨"Shadow", [⟨"view", .matrix .four .four⟩]⟩]
  resources := [.stage "Corners" .vertex "", .program "Show" ["Corners"] ["Camera", "Shadow"] 1]
  pipelines := []

/-- The member that the two structs share is declared twice; structs that share no name keep apart. -/
theorem Generator.run_declaredNames_nodup_iff_view :
    (∃ a, (({} : Generator).run viewSpec).1 = .ok a ∧
      declaredNames a.shaderText =
        ["Camera", "Shadow", "CameraBlock", "view", "ShadowBlock", "view"] ∧
      ¬ a.ClashFree ∧ ¬ (declaredNames a.shaderText).Nodup) ∧
    ∃ a, (({} : Generator).run glowSpec).1 = .ok a ∧ a.ClashFree ∧
      (declaredNames a.shaderText).Nodup := by
  constructor
  · have heval : (({} : Generator).run viewSpec).1.toOption.map (fun a =>
        decide (a.structs.dependencyOrder.map StructDecl.name ++
            (a.uniformBlocks.flatMap fun b => b.name :: b.scopeNames) =
              ["Camera", "Shadow", "CameraBlock", "view", "ShadowBlock", "view"] ∧
          ¬ a.ClashFree)) = some true := by
      decide +kernel
    obtain ⟨a, h, ha⟩ := exists_ok_of_toOption_map heval
    obtain ⟨hnames, hclash⟩ := of_decide_eq_true ha
    obtain ⟨t, c, g, v, hc⟩ := completed_of_run h
    exact ⟨a, h, hc.declaredNames_shaderText.trans hnames, hclash,
      (run_declaredNames_nodup_iff {} viewSpec a h).not.2 hclash⟩
  · have heval : (({} : Generator).run glowSpec).1.toOption.map (fun a => decide a.ClashFree) =
        some true := by
      decide +kernel
    obtain ⟨a, h, ha⟩ := exists_ok_of_toOption_map heval
    have hfree := of_decide_eq_true ha
    exact ⟨a, h, hfree, (run_declaredNames_nodup_iff {} glowSpec a h).2 hfree⟩

end RenderPlan
