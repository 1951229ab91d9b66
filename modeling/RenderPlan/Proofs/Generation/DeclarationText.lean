import RenderPlan.Proofs.Generation.ShaderLines

/-! Shader texts that tell what they declare. The lines of a struct or block are found again in its
text, and in the line of a member the base of the type ends at the blank, the name at a bracket or at
the semicolon. So equal texts come from equal structs, and structs with equal texts all the way down
are laid out alike. -/
namespace RenderPlan
open Text ShaderType StructTable

/-- A field as it is read from a specification that passes the check of names. -/
structure FieldDecl.Readable (f : FieldDecl) : Prop where
  name : IsIdentifier f.name.toList
  type : ∃ text, parse text = .ok f.type

structure StructDecl.Readable (d : StructDecl) : Prop where
  name : IsIdentifier d.name.toList
  fields : ∀ f ∈ d.fields, f.Readable

section Members
variable {f g : FieldDecl} {fs gs : List FieldDecl}

lemma FieldDecl.Readable.spelled (h : f.Readable) : f.Spelled := by
  refine ⟨h.name, ?_⟩
  obtain ⟨text, htext⟩ := h.type
  obtain ⟨cs, hcs⟩ := exists_baseName_of_parse htext
  rw [← baseSpelling_base]
  exact hcs.baseSpelling.isIdentifierPart

lemma FieldDecl.Readable.parse_spelling (h : f.Readable) : parse f.type.spelling = .ok f.type := by
  obtain ⟨text, htext⟩ := h.type
  exact parse_spelling_of_parse htext

lemma memberDeclaration_inj (hf : f.Readable) (hg : g.Readable)
    (h : memberDeclaration f.name f.type = memberDeclaration g.name g.type) : f = g := by
  have hblank (rest : List Char) : ∀ c ∈ (' ' :: rest).head?, isIdentifierPart c = false := by
    rintro c ⟨⟩
    decide
  rw [memberDeclaration_eq hf.spelled.base, memberDeclaration_eq hg.spelled.base] at h
  have hlist := congrArg String.toList h
  simp only [String.toList_append, List.append_assoc] at hlist
  obtain ⟨hbase, hrest⟩ := hf.spelled.base.append_inj hg.spelled.base (hblank _) (hblank _) hlist
  obtain ⟨hname, hrest⟩ := hf.name.plain.append_inj hg.name.plain (head?_lengthSpelling f.type)
    (head?_lengthSpelling g.type) (List.cons.inj hrest).2
  have hlengths : f.type.lengthSpelling = g.type.lengthSpelling :=
    String.toList_inj.1 (List.append_cancel_right hrest)
  have htype : parse f.type.spelling = .ok g.type := by
    rw [spelling, hbase, hlengths]
    exact hg.parse_spelling
  rw [hf.parse_spelling] at htype
  cases f
  cases g
  cases htype
  cases hname
  rfl

lemma memberLines_inj (hf : ∀ f ∈ fs, f.Readable) (hg : ∀ g ∈ gs, g.Readable)
    (h : memberLines fs = memberLines gs) : fs = gs := by
  induction fs generalizing gs with
  | nil =>
    cases gs with
    | nil => rfl
    | cons g gs => cases h
  | cons f fs ih =>
    cases gs with
    | nil => cases h
    | cons g gs =>
      obtain ⟨hf, hfs⟩ := List.forall_mem_cons.1 hf
      obtain ⟨hg, hgs⟩ := List.forall_mem_cons.1 hg
      obtain ⟨hline, hlines⟩ := List.cons.inj h
      rw [memberDeclaration_inj hf hg ((String.append_right_inj "    ").1 hline), ih hfs hgs hlines]

/-- As many head lines, and the same lines in all: the parts are the same. -/
lemma framed_inj {heads heads' : List String} {scope scope' : String}
    (h : framed heads fs scope = framed heads' gs scope') (hlength : heads.length = heads'.length)
    (hf : ∀ f ∈ fs, f.Readable) (hg : ∀ g ∈ gs, g.Readable) :
    heads = heads' ∧ fs = gs ∧ scope = scope' := by
  obtain ⟨hfront, hclose⟩ := List.append_inj' h rfl
  obtain ⟨hheads, hmembers⟩ := List.append_inj hfront (by simp [hlength])
  refine ⟨List.append_cancel_right hheads, memberLines_inj hf hg hmembers, ?_⟩
  have hline := (List.cons.inj hclose).1
  rw [String.append_left_inj, String.append_right_inj] at hline
  exact hline

end Members

namespace StructDecl
variable {d e : StructDecl} {binding binding' : UInt32} {block block' inst inst' : String}

lemma declaration_inj (hd : d.Readable) (he : e.Readable) (h : d.declaration = e.declaration) :
    d = e := by
  have hunbroken {d : StructDecl} (hd : d.Readable) : ∀ line ∈ d.lines, Unbroken line := by
    intro line hline
    refine unbroken_of_mem_framed (fun line hl => ?_) (fun f hf => (hd.fields f hf).spelled)
      (by decide) hline
    rw [List.mem_singleton.1 hl, unbroken_append]
    exact ⟨by decide, hd.name.plain.unbroken⟩
  have hlines : d.lines = e.lines := by
    apply unlines_inj (hunbroken hd) (hunbroken he)
    rw [unlines_lines, unlines_lines, h]
  obtain ⟨hheads, hfields, -⟩ := framed_inj hlines rfl hd.fields he.fields
  have hname := (String.append_right_inj "struct ").1 (List.cons.inj hheads).1
  cases d
  cases e
  cases hname
  cases hfields
  rfl

/-- The lines of a uniform block with the fields of the struct. -/
def uniformLines (d : StructDecl) (binding : UInt32) (block inst : String) : List String :=
  framed ["layout(std140, binding = " ++ decimal binding.toNat ++ ")", "uniform " ++ block] d.fields
    (if inst = "" then "" else " " ++ inst)

@[simp] lemma unlines_uniformLines (d : StructDecl) (binding : UInt32) (block inst : String) :
    unlines (d.uniformLines binding block inst) = d.uniformBlock binding block inst ++ "\n" := by
  rw [uniformLines, framed, uniformBlock_eq, members_eq]
  apply String.toList_injective
  simp

/-- A name that is left out differs from every name that stands behind a blank. -/
lemma scope_inj (h : (if inst = "" then "" else " " ++ inst) =
    if inst' = "" then "" else " " ++ inst') : inst = inst' := by
  by_cases hi : inst = "" <;> by_cases hi' : inst' = "" <;> simp_all

lemma uniformBlock_inj (hd : ∀ f ∈ d.fields, f.Readable) (he : ∀ f ∈ e.fields, f.Readable)
    (hblock : IsIdentifier block.toList) (hblock' : IsIdentifier block'.toList)
    (hinst : inst = "" ∨ IsIdentifier inst.toList) (hinst' : inst' = "" ∨ IsIdentifier inst'.toList)
    (h : d.uniformBlock binding block inst = e.uniformBlock binding' block' inst') :
    d.fields = e.fields ∧ binding = binding' ∧ block = block' ∧ inst = inst' := by
  have hunbroken {d : StructDecl} {binding : UInt32} {block inst : String}
      (hd : ∀ f ∈ d.fields, f.Readable) (hblock : IsIdentifier block.toList)
      (hinst : inst = "" ∨ IsIdentifier inst.toList) :
      ∀ line ∈ d.uniformLines binding block inst, Unbroken line := by
    intro line hline
    refine unbroken_of_mem_framed (fun line hl => ?_) (fun f hf => (hd f hf).spelled) ?_ hline
    · simp only [List.mem_cons, List.not_mem_nil, or_false] at hl
      rcases hl with rfl | rfl
      · simp only [unbroken_append, (plain_decimal _).unbroken]
        decide
      · exact unbroken_append.2 ⟨by decide, hblock.plain.unbroken⟩
    · rcases hinst with rfl | hinst
      · decide
      · rw [if_neg hinst.ne_empty, unbroken_append]
        exact ⟨by decide, hinst.plain.unbroken⟩
  have hlines : d.uniformLines binding block inst = e.uniformLines binding' block' inst' := by
    apply unlines_inj (hunbroken hd hblock hinst) (hunbroken he hblock' hinst')
    rw [unlines_uniformLines, unlines_uniformLines, h]
  obtain ⟨hheads, hfields, hscope⟩ := framed_inj hlines rfl hd he
  obtain ⟨hlayout, hheads⟩ := List.cons.inj hheads
  rw [String.append_left_inj, String.append_right_inj] at hlayout
  refine ⟨hfields, UInt32.toNat_inj.1 (decimal_inj hlayout), ?_, scope_inj hscope⟩
  exact (String.append_right_inj "uniform ").1 (List.cons.inj hheads).1

end StructDecl

namespace StructTable
variable {t t' : StructTable} {name m : String} {l : StructLayout}

/-- A checked table with types that were read. -/
structure Readable (t : StructTable) : Prop where
  checked : t.check = .ok ()
  types : ∀ d ∈ t.decls, ∀ f ∈ d.fields, ∃ text, parse text = .ok f.type

lemma Readable.decl (h : t.Readable) {d : StructDecl} (hd : d ∈ t.decls) : d.Readable := by
  obtain ⟨hname, -, -, hfields⟩ := checkDecl_eq_ok_iff.1 (forM_eq_ok_iff.1 h.checked d hd)
  refine ⟨hname, fun f hf => ⟨?_, h.types d hd f hf⟩⟩
  exact ((checkFields_eq_ok_iff.1 hfields).1 f hf).1

/-- Under a name with the same text both tables declare the same. -/
lemma Readable.get?_eq (h : t.Readable) (h' : t'.Readable)
    (htext : (t.get? m).map StructDecl.declaration = (t'.get? m).map StructDecl.declaration) :
    t.get? m = t'.get? m := by
  cases hd : t.get? m with
  | none =>
    rw [hd] at htext
    exact (Option.map_eq_none_iff.1 htext.symm).symm
  | some d =>
    rw [hd] at htext
    obtain ⟨e, he, heq⟩ := Option.map_eq_some_iff.1 htext.symm
    rw [he, StructDecl.declaration_inj (h.decl (mem_of_get? hd)) (h'.decl (mem_of_get? he)) heq.symm]

/-- Where the tables agree on all that is reached in one of them, the same is reached in the other. -/
lemma Reaches.of_agree (hget : ∀ m, t.Reaches name m → t.get? m = t'.get? m)
    (h : t'.Reaches name m) : t.Reaches name m := by
  induction h with
  | refl => exact .refl
  | tail _ hrefers ih =>
    obtain ⟨d, hd, hmem⟩ := hrefers
    exact ih.tail ⟨d, (hget _ ih).trans hd, hmem⟩

lemma hasLayout_iff_of_agree (hget : ∀ m, t.Reaches name m → t.get? m = t'.get? m) :
    t.HasLayout name l ↔ t'.HasLayout name l := by
  constructor
  · exact fun h => h.transfer hget
  · exact fun h => h.transfer fun m hm => (hget m (.of_agree hget hm)).symm

end StructTable

/-- The text of a struct determines the struct, and the text of a uniform block its fields, binding
point and names. If the structs that a struct reaches have the same texts in two tables, the struct has
the same layout in both. -/
theorem StructDecl.text_determines_struct :
    (∀ d e : StructDecl, d.Readable → e.Readable → d.declaration = e.declaration → d = e) ∧
    (∀ (d e : StructDecl) (binding binding' : UInt32) (block block' inst inst' : String),
      (∀ f ∈ d.fields, f.Readable) → (∀ f ∈ e.fields, f.Readable) →
      IsIdentifier block.toList → IsIdentifier block'.toList →
      (inst = "" ∨ IsIdentifier inst.toList) → (inst' = "" ∨ IsIdentifier inst'.toList) →
      d.uniformBlock binding block inst = e.uniformBlock binding' block' inst' →
      d.fields = e.fields ∧ binding = binding' ∧ block = block' ∧ inst = inst') ∧
    ∀ (t t' : StructTable) (d e : StructDecl), t.Readable → t'.Readable →
      d ∈ t.decls → e ∈ t'.decls → d.declaration = e.declaration →
      (∀ m, t.Reaches d.name m →
        (t.get? m).map StructDecl.declaration = (t'.get? m).map StructDecl.declaration) →
      ∀ l, ((LayoutCache.fresh t).layoutOf d.name).1 = .ok l ↔
        ((LayoutCache.fresh t').layoutOf e.name).1 = .ok l := by
  refine ⟨fun d e => declaration_inj, ?_, ?_⟩
  · intro d e binding binding' block block' inst inst' hd he hblock hblock' hinst hinst'
    exact uniformBlock_inj hd he hblock hblock' hinst hinst'
  · intro t t' d e ht ht' hd he htext hreached l
    have hde : d = e := declaration_inj (ht.decl hd) (ht'.decl he) htext
    have hagree : ∀ m, t.Reaches d.name m → t.get? m = t'.get? m := fun m hm =>
      ht.get?_eq ht' (hreached m hm)
    rw [← hde, LayoutCache.layoutOf, LayoutCache.layoutOf, LayoutCache.fresh_layoutFor,
      LayoutCache.fresh_layoutFor, layoutBelow_eq_ok_iff _ (trail_nil _),
      layoutBelow_eq_ok_iff _ (trail_nil _)]
    exact hasLayout_iff_of_agree hagree

def lantern : StructDecl :=
  ⟨"Lantern", [⟨"on", .scalar .bool⟩, ⟨"glow", .array (.vector .float .three) ⟨13, by decide⟩⟩]⟩

/-- Lanterns in rows. -/
def street : StructDecl :=
  ⟨"Street", [⟨"rows", .array (.array (.struct "Lantern") ⟨8, by decide⟩) ⟨6, by decide⟩⟩,
    ⟨"slope", .matrix .three .two⟩]⟩

def streetTable : StructTable := ⟨[lantern, street], by decide⟩

/-- The street before the lantern it needs. -/
def turnedTable : StructTable := ⟨[street, lantern], by decide⟩

/-- The two tables lay the street out alike, and no text stands for both structs, nor for blocks with
the fields of both. -/
theorem StructDecl.text_determines_struct_street :
    streetTable.Readable ∧ turnedTable.Readable ∧ street.declaration ≠ lantern.declaration ∧
    street.uniformBlock 1 "NightBlock" "NightAt1" ≠ lantern.uniformBlock 1 "NightBlock" "NightAt1" ∧
    ∃ l, ((LayoutCache.fresh streetTable).layoutOf "Street").1 = .ok l ∧
      ((LayoutCache.fresh turnedTable).layoutOf "Street").1 = .ok l := by
  have hread : ∀ d ∈ [lantern, street], ∀ f ∈ d.fields, parse f.type.spelling = .ok f.type := by
    decide +kernel
  have hstreet : streetTable.Readable :=
    ⟨by decide +kernel, fun d hd f hf => ⟨_, hread d hd f hf⟩⟩
  have hturned : turnedTable.Readable :=
    ⟨by decide +kernel, fun d hd f hf => ⟨_, hread d (List.mem_reverse.1 hd) f hf⟩⟩
  have hget : streetTable.get? = turnedTable.get? := get?_eq_of_perm (List.Perm.swap _ _ [])
  have hmem : street ∈ streetTable.decls := by decide
  have hmem' : street ∈ turnedTable.decls := by decide
  have hreads := hstreet.decl hmem
  have hreads' : lantern.Readable := hstreet.decl List.mem_cons_self
  have hok : ((LayoutCache.fresh streetTable).layoutOf "Street").1.isOk = true := by decide +kernel
  obtain ⟨hstruct, hblock, hlayout⟩ := text_determines_struct
  refine ⟨hstreet, hturned, fun h => ?_, fun h => ?_, ?_⟩
  · have heq := hstruct street lantern hreads hreads' h
    exact absurd (congrArg StructDecl.name heq) (by decide)
  · have hident : IsIdentifier "NightBlock".toList ∧ IsIdentifier "NightAt1".toList :=
      ⟨isIdentifier_iff.1 (by decide), isIdentifier_iff.1 (by decide)⟩
    have hfields := (hblock street lantern 1 1 _ _ _ _ hreads.fields hreads'.fields hident.1 hident.1
      (.inr hident.2) (.inr hident.2) h).1
    exact absurd (congrArg (List.map FieldDecl.name) hfields) (by decide)
  · cases hl : ((LayoutCache.fresh streetTable).layoutOf "Street").1 with
    | error fault =>
      rw [hl] at hok
      cases hok
    | ok l =>
      refine ⟨l, rfl, ?_⟩
      exact (hlayout streetTable turnedTable street street hstreet hturned hmem hmem' rfl
        (fun m _ => by rw [hget]) l).1 hl

/-- A struct that names another one, whose text is not part of its own. -/
def post : StructDecl := ⟨"Post", [⟨"lamp", .struct "Lamp"⟩]⟩

/-- The post with a lamp whose light is of some type. -/
def postTable (light : ShaderType) : StructTable :=
  ⟨[⟨"Lamp", [⟨"light", light⟩]⟩, post], by simp [post]⟩

/-- The text of a struct alone does not determine its layout, since a struct that it refers to may be
another one in another table. -/
theorem StructDecl.same_text_two_layouts :
    let small := postTable (.scalar .float)
    let large := postTable (.matrix .four .four)
    small.Readable ∧ large.Readable ∧
    (small.get? "Post").map declaration = some post.declaration ∧
    (large.get? "Post").map declaration = some post.declaration ∧
    ((LayoutCache.fresh small).layoutOf "Post").1.toOption.map StructLayout.totalSize = some 16 ∧
    ((LayoutCache.fresh large).layoutOf "Post").1.toOption.map StructLayout.totalSize = some 64 := by
  intro small large
  have hsmall : ∀ d ∈ small.decls, ∀ f ∈ d.fields, parse f.type.spelling = .ok f.type := by
    decide +kernel
  have hlarge : ∀ d ∈ large.decls, ∀ f ∈ d.fields, parse f.type.spelling = .ok f.type := by
    decide +kernel
  exact ⟨⟨by decide +kernel, fun d hd f hf => ⟨_, hsmall d hd f hf⟩⟩,
    ⟨by decide +kernel, fun d hd f hf => ⟨_, hlarge d hd f hf⟩⟩, by decide +kernel, by decide +kernel,
    by decide +kernel, by decide +kernel⟩

end RenderPlan
