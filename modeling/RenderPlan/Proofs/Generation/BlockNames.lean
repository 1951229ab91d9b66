import RenderPlan.Proofs.Generation.ShaderLines

/-! One uniform block for every struct and binding point in use. The blocks are collected program by
program, so each of them lists its programs in the order of the setup. Their names are made of the name
of the struct, a word that ends in a letter and a numeral that the first block of a struct goes without;
read from the end, a name gives back its parts, whatever the structs are called. -/
namespace RenderPlan
open Text

namespace UniformBlock
variable {t : StructTable} {seen : List String} {uses : List BlockUse} {b b' : UniformBlock}
  {name : String}

/-- The numeral at the end of the names, empty for the first block of a struct. -/
def numeral (b : UniformBlock) : List Char :=
  if b.isFirst then [] else Nat.toDigits 10 b.binding.toNat

lemma isDigit_of_mem_numeral {c : Char} (h : c ∈ b.numeral) : c.isDigit = true := by
  rw [numeral] at h
  split at h
  · cases h
  · exact Nat.isDigit_of_mem_toDigits (by decide) (by decide) h

lemma isFirst_of_numeral (h : b.numeral = b'.numeral) (hb : b.isFirst = true) :
    b'.isFirst = true := by
  by_contra hb'
  rw [numeral, numeral, if_pos hb, if_neg hb'] at h
  exact Nat.toDigits_ne_nil h.symm

lemma binding_of_numeral (h : b.numeral = b'.numeral) (hb : b.isFirst = false) :
    b.binding = b'.binding := by
  have hb' : ¬ b'.isFirst = true := fun hb' => by simp [isFirst_of_numeral h.symm hb'] at hb
  rw [numeral, numeral, if_neg (by simp [hb]), if_neg hb'] at h
  apply UInt32.toNat_inj.1
  rw [← Nat.ofDigitChars_ten_toDigits (n := b.binding.toNat), h, Nat.ofDigitChars_ten_toDigits]

@[simp] lemma toList_name (b : UniformBlock) :
    b.name.toList = b.structName.toList ++ "Bloc".toList ++ 'k' :: b.numeral := by
  rw [UniformBlock.name, BlockUse.blockNames, numeral, structName, binding]
  split <;> simp [decimal]

lemma toList_instanceName (h : b.isFirst = false) :
    b.instanceName.toList = b.structName.toList ++ "A".toList ++ 't' :: b.numeral := by
  simp [instanceName, BlockUse.blockNames, numeral, structName, binding, decimal, h]

@[simp] lemma instanceName_eq_empty_iff : b.instanceName = "" ↔ b.isFirst = true := by
  constructor
  · intro h
    by_contra hb
    have hlist := toList_instanceName (Bool.eq_false_of_not_eq_true hb)
    simp [h] at hlist
  · intro h
    rw [instanceName, BlockUse.blockNames, if_pos h]

/-- Behind one word, a struct and a numeral can be told from the whole. -/
lemma parts_eq {stem : List Char} {mark : Char} (hm : mark.isDigit = false)
    (h : b.structName.toList ++ stem ++ mark :: b.numeral =
      b'.structName.toList ++ stem ++ mark :: b'.numeral) :
    b.structName = b'.structName ∧ b.numeral = b'.numeral := by
  obtain ⟨hstem, -, hnumeral⟩ := append_mark_inj hm hm
    (fun _ => isDigit_of_mem_numeral) (fun _ => isDigit_of_mem_numeral) h
  exact ⟨String.toList_injective (List.append_cancel_right hstem), hnumeral⟩

lemma parts_of_name (h : b.name = b'.name) :
    b.structName = b'.structName ∧ b.numeral = b'.numeral :=
  parts_eq (by decide) (toList_name b ▸ toList_name b' ▸ congrArg String.toList h)

lemma parts_of_instanceName (hb : b.isFirst = false) (hb' : b'.isFirst = false)
    (h : b.instanceName = b'.instanceName) :
    b.structName = b'.structName ∧ b.numeral = b'.numeral :=
  parts_eq (by decide)
    (toList_instanceName hb ▸ toList_instanceName hb' ▸ congrArg String.toList h)

/-- The letters in front of the numerals differ. -/
lemma name_ne_instanceName (b b' : UniformBlock) : b.name ≠ b'.instanceName := by
  intro h
  have hlist := congrArg String.toList h
  cases hb' : b'.isFirst with
  | true =>
    rw [toList_name, instanceName_eq_empty_iff.2 hb'] at hlist
    simp at hlist
  | false =>
    rw [toList_name, toList_instanceName hb'] at hlist
    obtain ⟨-, hmark, -⟩ := append_mark_inj (by decide) (by decide)
      (fun _ => isDigit_of_mem_numeral) (fun _ => isDigit_of_mem_numeral) hlist
    cases hmark

lemma not_isFirst_of_seen (hn : b.structName ∈ seen) (hb : b ∈ ofUses t seen uses) :
    b.isFirst = false := by
  induction uses generalizing seen with
  | nil => cases hb
  | cons u us ih =>
    rw [ofUses, List.mem_append, Option.mem_toList, Option.map_eq_some_iff] at hb
    rcases hb with ⟨d, -, rfl⟩ | hb
    · exact decide_eq_false (not_not_intro hn)
    · exact ih (List.mem_cons_of_mem _ hn) hb

/-- Of the blocks of a struct that was not seen before, only the one in front is a first one. -/
lemma filter_isFirst (hn : name ∉ seen) :
    (ofUses t seen uses).filter (fun b => b.structName = name ∧ b.isFirst = true) =
      ((ofUses t seen uses).find? fun b => b.structName = name).toList := by
  induction uses generalizing seen with
  | nil => rfl
  | cons u us ih =>
    rw [ofUses]
    by_cases hu : u.structName = name
    · cases hd : t.get? u.structName with
      | none =>
        -- A struct that is not declared has no block further on either.
        have hne : ∀ b ∈ ofUses t (u.structName :: seen) us, b.structName ≠ name := by
          intro b hb he
          have hdeclared := (declared_of_mem_ofUses hb).2
          rw [he, ← hu, hd] at hdeclared
          cases hdeclared
        have hnone := List.find?_eq_none.2 fun b hb => decide_eq_true_iff.not.2 (hne b hb)
        have hnil := List.filter_eq_nil_iff.2 fun b hb =>
          decide_eq_true_iff.not.2 fun he : b.structName = name ∧ b.isFirst = true => hne b hb he.1
        exact hnil.trans (congrArg Option.toList hnone).symm
      | some d =>
        have hs : ∀ first, structName ⟨u, first, d.fields⟩ = name := fun _ => hu
        have hrest : ∀ b ∈ ofUses t (u.structName :: seen) us, b.structName = name →
            b.isFirst = false :=
          fun b hb hs => not_isFirst_of_seen (by simp [hs, hu]) hb
        simpa [hs, hu, hn] using hu ▸ hrest
    · have hs : ∀ first fields, structName ⟨u, first, fields⟩ ≠ name := fun _ _ => hu
      have hrest := ih (show name ∉ u.structName :: seen by simp [hn, Ne.symm hu])
      cases t.get? u.structName with
      | none => exact hrest
      | some d => simpa [hs] using hrest

end UniformBlock

/-- Among distinct items, one is met at most once. -/
lemma flatMap_ite_eq {α β : Type} [DecidableEq α] {xs : List α} (h : xs.Nodup) (x : α) (y : β) :
    (xs.flatMap fun z => if z = x then [y] else []) = if x ∈ xs then [y] else [] := by
  induction xs with
  | nil => rfl
  | cons z zs ih =>
    obtain ⟨hz, hzs⟩ := List.nodup_cons.1 h
    rw [List.flatMap_cons, ih hzs]
    by_cases hzx : z = x
    · subst hzx
      simp [hz]
    · simp [hzx, Ne.symm hzx]

lemma flatMap_ite_singleton {α β : Type} (p : α → Prop) [DecidablePred p] (f : α → β) (xs : List α) :
    (xs.flatMap fun x => if p x then [f x] else []) = (xs.filter p).map f := by
  induction xs with
  | nil => rfl
  | cons x xs ih => by_cases hx : p x <;> simp [hx, ih]

namespace BlockUse
variable {name program : String} {point : UInt32}

/-- A program with fewer blocks than there are binding points has one block at each. -/
lemma flatMap_zipIdx {blocks : List String} (h : blocks.length < UInt32.size) :
    (blocks.zipIdx.flatMap fun x =>
        if (x.1, UInt32.ofNat x.2) = (name, point) then [program] else []) =
      if blocks[point.toNat]? = some name then [program] else [] := by
  have hnodup : blocks.zipIdx.Nodup := by
    apply List.Nodup.of_map Prod.snd
    rw [List.zipIdx_map_snd]
    exact List.nodup_range'
  have hpoint : ∀ x ∈ blocks.zipIdx,
      ((x.1, UInt32.ofNat x.2) = (name, point) ↔ x = (name, point.toNat)) := by
    rintro ⟨block, i⟩ hx
    have hi : i < UInt32.size := by
      obtain ⟨hlt, -⟩ := List.getElem?_eq_some_iff.1 (List.mem_zipIdx_iff_getElem?.1 hx)
      omega
    rw [Prod.mk.injEq, Prod.mk.injEq, ← UInt32.toNat_inj, UInt32.toNat_ofNat_of_lt' hi]
  have hsame : ∀ x ∈ blocks.zipIdx,
      (if (x.1, UInt32.ofNat x.2) = (name, point) then [program] else []) =
        if x = (name, point.toNat) then [program] else [] :=
    fun x hx => if_congr (hpoint x hx) rfl rfl
  rw [List.flatMap_congr hsame, flatMap_ite_eq hnodup]
  by_cases hat : blocks[point.toNat]? = some name
  · rw [if_pos hat, if_pos (List.mem_zipIdx_iff_getElem?.2 hat)]
  · rw [if_neg hat, if_neg fun hmem => hat (List.mem_zipIdx_iff_getElem?.1 hmem)]

/-- The programs noted for a struct at a binding point, in the order of the setup. -/
lemma programsAt_ofSetup_eq {setup : List SetupStep}
    (h : ∀ step ∈ setup, step.kind.uniformBlocks.length < UInt32.size) :
    programsAt (ofSetup setup) name point =
      (setup.filter fun step => step.kind.uniformBlocks[point.toNat]? = some name).map
        SetupStep.name := by
  rw [programsAt_ofSetup, List.flatMap_congr fun step hs => flatMap_zipIdx (h step hs),
    flatMap_ite_singleton]

end BlockUse

namespace Artifacts
variable {a : Artifacts} {b b' : UniformBlock}

lemma filter_structName_binding (hb : b ∈ a.uniformBlocks) :
    a.uniformBlocks.filter (fun x =>
      x.structName = b.structName ∧ x.binding.toNat = b.binding.toNat) = [b] := by
  rw [← filter_eq_singleton a.nodup_uniformBlocks hb]
  refine List.filter_congr fun x _ => ?_
  rw [decide_eq_decide, BlockUse.key_eq_iff, UInt32.toNat_inj]
  rfl

lemma filter_isFirst (a : Artifacts) (name : String) :
    a.uniformBlocks.filter (fun b => b.structName = name ∧ b.isFirst = true) =
      (a.uniformBlocks.find? fun b => b.structName = name).toList :=
  UniformBlock.filter_isFirst List.not_mem_nil

lemma find?_of_isFirst (hb : b ∈ a.uniformBlocks) (hfirst : b.isFirst = true) :
    a.uniformBlocks.find? (fun x => x.structName = b.structName) = some b := by
  rw [← Option.mem_toList, ← a.filter_isFirst]
  exact List.mem_filter.2 ⟨hb, decide_eq_true ⟨rfl, hfirst⟩⟩

/-- A struct that has blocks has one without an instance. -/
lemma exists_first (hb : b ∈ a.uniformBlocks) :
    ∃ first, a.uniformBlocks.filter
      (fun x => x.structName = b.structName ∧ x.instanceName = "") = [first] := by
  have hsome : (a.uniformBlocks.find? fun x => x.structName = b.structName).isSome = true :=
    List.find?_isSome.2 ⟨b, hb, decide_eq_true rfl⟩
  obtain ⟨first, hfirst⟩ := Option.isSome_iff_exists.1 hsome
  refine ⟨first, ?_⟩
  simp only [UniformBlock.instanceName_eq_empty_iff, a.filter_isFirst, hfirst, Option.toList_some]

lemma eq_of_isFirst (hb : b ∈ a.uniformBlocks) (hb' : b' ∈ a.uniformBlocks)
    (hs : b.structName = b'.structName) (hfirst : b.isFirst = true) (hfirst' : b'.isFirst = true) :
    b = b' := by
  have hfind := find?_of_isFirst hb' hfirst'
  rw [← hs, find?_of_isFirst hb hfirst] at hfind
  exact Option.some.inj hfind

/-- A block is told from the others by its struct and its numeral. -/
lemma eq_of_parts (hb : b ∈ a.uniformBlocks) (hb' : b' ∈ a.uniformBlocks)
    (h : b.structName = b'.structName ∧ b.numeral = b'.numeral) : b = b' := by
  obtain ⟨hs, hn⟩ := h
  -- Without a numeral both are the first block of their struct, with one they have the same key.
  cases hfirst : b.isFirst with
  | true => exact eq_of_isFirst hb hb' hs hfirst (UniformBlock.isFirst_of_numeral hn hfirst)
  | false =>
    have hkey : b.use.key = b'.use.key := Prod.ext hs (UniformBlock.binding_of_numeral hn hfirst)
    exact List.inj_on_of_nodup_map a.nodup_uniformBlocks hb hb' hkey

lemma nodup_blocks (a : Artifacts) : a.uniformBlocks.Nodup := .of_map _ a.nodup_uniformBlocks

lemma eq_of_name (hb : b ∈ a.uniformBlocks) (hb' : b' ∈ a.uniformBlocks) (h : b.name = b'.name) :
    b = b' :=
  eq_of_parts hb hb' (UniformBlock.parts_of_name h)

lemma eq_of_instanceName (hb : b ∈ a.uniformBlocks) (hb' : b' ∈ a.uniformBlocks)
    (hne : b.instanceName ≠ "") (h : b.instanceName = b'.instanceName) : b = b' := by
  have hscoped : ∀ x : UniformBlock, x.instanceName ≠ "" → x.isFirst = false := fun x hx =>
    Bool.eq_false_of_not_eq_true fun hfirst => hx (UniformBlock.instanceName_eq_empty_iff.2 hfirst)
  exact eq_of_parts hb hb' (UniformBlock.parts_of_instanceName (hscoped b hne) (hscoped b' (h ▸ hne)) h)

lemma nodup_names (a : Artifacts) : (a.uniformBlocks.map UniformBlock.name).Nodup :=
  a.nodup_blocks.map_on fun _ hb _ hb' => eq_of_name hb hb'

lemma nodup_instanceNames (a : Artifacts) :
    ((a.uniformBlocks.map UniformBlock.instanceName).filter (· ≠ "")).Nodup := by
  rw [List.filter_map]
  refine (a.nodup_blocks.filter _).map_on fun b hb b' hb' => ?_
  have hne : b.instanceName ≠ "" := of_decide_eq_true (List.mem_filter.1 hb).2
  exact eq_of_instanceName (List.mem_filter.1 hb).1 (List.mem_filter.1 hb').1 hne

end Artifacts

namespace Specification.Completed
variable {spec : Specification} {t : StructTable} {c : LayoutCache} {g : ResourceGraph}
  {v : Validation} {a : Artifacts} {b : UniformBlock} {name : String} {i : ℕ}

lemma length_uniformBlocks_lt (h : spec.Completed t c g v a)
    (hsmall : ∀ d ∈ spec.resources, d.kind.uniformBlocks.length < UInt32.size) {step : SetupStep}
    (hs : step ∈ a.setup) : step.kind.uniformBlocks.length < UInt32.size := by
  cases hk : step.kind.uniformBlocks with
  | nil => decide
  | cons name names =>
    rw [← hk]
    exact hsmall _ (h.decl_mem_resources hs (hk ▸ List.mem_cons_self))

lemma exists_step (h : spec.Completed t c g v a) {d : ResourceDecl} (hd : d ∈ spec.resources) :
    ∃ step ∈ a.setup, step.decl = d :=
  List.mem_map.1 (h.setup_perm.mem_iff.2 (List.mem_append_left _ hd))

lemma programs_eq (h : spec.Completed t c g v a)
    (hsmall : ∀ d ∈ spec.resources, d.kind.uniformBlocks.length < UInt32.size)
    (hb : b ∈ a.uniformBlocks) :
    b.programs = (a.setup.filter fun step =>
      step.kind.uniformBlocks[b.binding.toNat]? = some b.structName).map SetupStep.name := by
  obtain ⟨huse, -⟩ := UniformBlock.declared_of_mem_ofUses hb
  rw [← BlockUse.programsAt_ofSetup_eq fun step => h.length_uniformBlocks_lt hsmall]
  exact ((BlockUse.grouped_ofSetup a.setup).programsAt_eq huse).symm

/-- There are blocks for what the programs of the specification ask for, and for nothing else. -/
lemma exists_block_iff (h : spec.Completed t c g v a)
    (hsmall : ∀ d ∈ spec.resources, d.kind.uniformBlocks.length < UInt32.size) :
    (∃ b ∈ a.uniformBlocks, b.structName = name ∧ b.binding.toNat = i) ↔
      name ∈ spec.structs.map StructDecl.name ∧
        ∃ d ∈ spec.resources, d.kind.uniformBlocks[i]? = some name := by
  rw [← h.structs_decls]
  constructor
  · rintro ⟨b, hb, rfl, rfl⟩
    obtain ⟨huse, -⟩ := UniformBlock.declared_of_mem_ofUses hb
    refine ⟨List.mem_map.2 ⟨_, Artifacts.decl_mem_structs hb, rfl⟩, ?_⟩
    obtain ⟨program, hprogram⟩ :=
      List.exists_mem_of_ne_nil _ ((BlockUse.grouped_ofSetup a.setup).used b.use huse)
    rw [← UniformBlock.programs, h.programs_eq hsmall hb] at hprogram
    obtain ⟨step, hs, -⟩ := List.mem_map.1 hprogram
    obtain ⟨hs, hat⟩ := List.mem_filter.1 hs
    have hat := of_decide_eq_true hat
    exact ⟨step.decl, h.decl_mem_resources hs (List.mem_of_getElem? hat), hat⟩
  · rintro ⟨hn, d, hd, hat⟩
    obtain ⟨s, hs, rfl⟩ := List.mem_map.1 hn
    obtain ⟨step, hstep, rfl⟩ := h.exists_step hd
    have hlisted : step.name ∈ BlockUse.programsAt (BlockUse.ofSetup a.setup) s.name (UInt32.ofNat i) :=
      BlockUse.mem_programsAt_ofSetup.2 ⟨step, hstep, rfl, i, hat, rfl⟩
    obtain ⟨u, hu, hkey, -⟩ := BlockUse.exists_of_mem_programsAt hlisted
    obtain ⟨hname, hpoint⟩ := BlockUse.key_eq_iff.1 hkey
    have hget : a.structs.get? u.structName = some s := a.structs.get?_eq_some_iff.2 ⟨hs, hname.symm⟩
    obtain ⟨b, hb, rfl, -⟩ := UniformBlock.exists_mem_ofUses hu hget []
    refine ⟨b, hb, hname, ?_⟩
    have hi : i < UInt32.size :=
      (List.getElem?_eq_some_iff.1 hat).1.trans (h.length_uniformBlocks_lt hsmall hstep)
    rw [UniformBlock.binding, hpoint, UInt32.toNat_ofNat_of_lt' hi]

end Specification.Completed

/-- The text has one uniform block for each struct of the specification at each binding point where a
program has it, and the blocks tell apart what they declare. -/
structure Artifacts.DeclaresBlocks (a : Artifacts) (spec : Specification) : Prop where
  lines_eq : lines a.shaderText = a.structs.dependencyOrder.flatMap StructDecl.lines ++
    a.uniformBlocks.flatMap UniformBlock.lines ++ [""]
  heads : behind "uniform " (lines a.shaderText) = a.uniformBlocks.map UniformBlock.name
  one : ∀ name i, name ∈ spec.structs.map StructDecl.name →
    (∃ d ∈ spec.resources, d.kind.uniformBlocks[i]? = some name) →
      ∃ b, a.uniformBlocks.filter (fun b => b.structName = name ∧ b.binding.toNat = i) = [b]
  no_other : ∀ b ∈ a.uniformBlocks, b.structName ∈ spec.structs.map StructDecl.name ∧
    ∃ d ∈ spec.resources, d.kind.uniformBlocks[b.binding.toNat]? = some b.structName
  programs : ∀ b ∈ a.uniformBlocks, b.programs.Nodup ∧
    b.programs = (a.setup.filter fun step =>
      step.kind.uniformBlocks[b.binding.toNat]? = some b.structName).map SetupStep.name
  first : ∀ name ∈ a.uniformBlocks.map UniformBlock.structName,
    ∃ b, a.uniformBlocks.filter (fun b => b.structName = name ∧ b.instanceName = "") = [b]
  names : (a.uniformBlocks.map UniformBlock.name).Nodup
  instanceNames : ((a.uniformBlocks.map UniformBlock.instanceName).filter (· ≠ "")).Nodup

/-- A run whose programs have fewer blocks than there are binding points declares one block for each
struct and point in use. It lists its programs in the order of their creation, and of the blocks of a
struct one goes without an instance. No two blocks have the same name or the same instance. -/
theorem Generator.run_declares_blocks (gen : Generator) (spec : Specification) (a : Artifacts)
    (h : (gen.run spec).1 = .ok a)
    (hsmall : ∀ d ∈ spec.resources, d.kind.uniformBlocks.length < UInt32.size) :
    a.DeclaresBlocks spec := by
  obtain ⟨t, c, g, v, hc⟩ := completed_of_run h
  refine ⟨hc.lines_shaderText, ?_, ?_, ?_, ?_, ?_, a.nodup_names, a.nodup_instanceNames⟩
  · rw [hc.lines_shaderText, behind_append, a.behind_uniform_shaderLines]
    exact List.append_nil _
  · intro name i hn hd
    obtain ⟨b, hb, rfl, rfl⟩ := (hc.exists_block_iff hsmall).2 ⟨hn, hd⟩
    exact ⟨b, Artifacts.filter_structName_binding hb⟩
  · intro b hb
    exact (hc.exists_block_iff hsmall).1 ⟨b, hb, rfl, rfl⟩
  · intro b hb
    have hprograms := hc.programs_eq hsmall hb
    refine ⟨?_, hprograms⟩
    rw [hprograms]
    exact (List.filter_sublist.map _).nodup hc.nodup_setup_names
  · intro name hn
    obtain ⟨b, hb, rfl⟩ := List.mem_map.1 hn
    exact Artifacts.exists_first hb

/-- Two programs that share a struct at one point, of which one has it at the next point as well. The
program that is declared first is created last, and one of the structs is named like a block. -/
def haloSpec : Specification where
  structs :=
    [⟨"Fade", [⟨"amount", .scalar .float⟩]⟩, ⟨"FadeBlock1", [⟨"color", .vector .float .three⟩]⟩]
  resources :=
    [.program "Glow" ["Corners"] ["Fade", "Fade"] 1,
      .program "Blend" ["Flat"] ["Fade", "FadeBlock1", "Missing"] 1,
      .stage "Flat" .vertex "", .stage "Corners" .vertex ""]
  pipelines := []

theorem Generator.run_declares_blocks_halo :
    (∀ d ∈ haloSpec.resources, d.kind.uniformBlocks.length < UInt32.size) ∧
    ∃ a, (({} : Generator).run haloSpec).1 = .ok a ∧ a.DeclaresBlocks haloSpec ∧
      a.uniformBlocks.map UniformBlock.programs = [["Blend", "Glow"], ["Blend"], ["Glow"]] ∧
      a.uniformBlocks.map UniformBlock.instanceName = ["", "", "FadeAt1"] ∧
      behind "uniform " (lines a.shaderText) = ["FadeBlock", "FadeBlock1Block", "FadeBlock1"] := by
  have hsmall : ∀ d ∈ haloSpec.resources, d.kind.uniformBlocks.length < UInt32.size := by decide
  have heval : (({} : Generator).run haloSpec).1.toOption.map (fun a =>
      decide (a.uniformBlocks.map UniformBlock.programs = [["Blend", "Glow"], ["Blend"], ["Glow"]] ∧
        a.uniformBlocks.map UniformBlock.instanceName = ["", "", "FadeAt1"] ∧
        a.uniformBlocks.map UniformBlock.name = ["FadeBlock", "FadeBlock1Block", "FadeBlock1"])) =
      some true := by
    decide +kernel
  obtain ⟨a, h, ha⟩ := exists_ok_of_toOption_map heval
  obtain ⟨hprograms, hinstances, hnames⟩ := of_decide_eq_true ha
  have hblocks := run_declares_blocks {} haloSpec a h hsmall
  exact ⟨hsmall, a, h, hblocks, hprograms, hinstances, hblocks.heads.trans hnames⟩

end RenderPlan
