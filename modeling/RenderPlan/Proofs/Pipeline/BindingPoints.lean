import RenderPlan.Proofs.Pipeline.Validation

/-! Binding points. A buffer goes to the first block of the program that has its struct, so the points
of a pass tell structs from each other and not buffers: they are distinct if and only if the bound
buffers hold distinct structs. A block that repeats a struct is out of reach. -/
namespace RenderPlan

/-- The buffer is bound at the first of the blocks that has its struct. -/
structure BufferBinding.AtFirst (blocks : List String) (b : BufferBinding) : Prop where
  listed : b.structName ∈ blocks
  binding : b.binding = UInt32.ofNat (blocks.idxOf b.structName)

namespace BufferBinding
variable {blocks : List String} {b b' : BufferBinding}

lemma AtFirst.toNat_binding (h : b.AtFirst blocks) (hl : blocks.length ≤ UInt32.size) :
    b.binding.toNat = blocks.idxOf b.structName := by
  rw [h.binding]
  exact UInt32.toNat_ofNat_of_lt' ((List.idxOf_lt_length_iff.2 h.listed).trans_le hl)

/-- A binding point stands for a struct. -/
lemma AtFirst.binding_eq_iff (h : b.AtFirst blocks) (h' : b'.AtFirst blocks)
    (hl : blocks.length ≤ UInt32.size) :
    b.binding = b'.binding ↔ b.structName = b'.structName := by
  rw [← UInt32.toNat_inj, h.toNat_binding hl, h'.toNat_binding hl]
  exact List.idxOf_inj h.listed

lemma nodup_binding_iff {bindings : List BufferBinding} (h : ∀ b ∈ bindings, b.AtFirst blocks)
    (hl : blocks.length ≤ UInt32.size) :
    (bindings.map BufferBinding.binding).Nodup ↔ (bindings.map structName).Nodup := by
  rw [List.Nodup, List.Nodup, List.pairwise_map, List.pairwise_map]
  exact List.Pairwise.iff_of_mem fun hb hb' => not_congr ((h _ hb).binding_eq_iff (h _ hb') hl)

/-- No buffer is bound at a block whose struct an earlier block has. -/
lemma AtFirst.binding_ne {i j : ℕ} {name : String} (h : b.AtFirst blocks)
    (hl : blocks.length ≤ UInt32.size) (hij : i < j) (hi : blocks[i]? = some name)
    (hj : blocks[j]? = some name) : b.binding ≠ UInt32.ofNat j := by
  intro hb
  obtain ⟨hlt, -⟩ := List.getElem?_eq_some_iff.1 hj
  have hidx : blocks.idxOf b.structName = j := by
    rw [← h.toNat_binding hl, hb]
    exact UInt32.toNat_ofNat_of_lt' (hlt.trans_le hl)
  have hstruct : b.structName = name := by
    rw [← Option.some_inj, ← hj, ← hidx]
    exact (List.getElem?_idxOf h.listed).symm
  -- the search stops at the earlier block at the latest
  obtain ⟨_, hsame⟩ := List.getElem?_eq_some_iff.1 hi
  have hbefore : i < blocks.findIdx (· == b.structName) := hij.trans_eq hidx.symm
  have hother := List.not_of_lt_findIdx hbefore
  rw [beq_eq_false_iff_ne] at hother
  exact hother (hsame.trans hstruct.symm)

end BufferBinding

/-- Every emitted pass binds its buffers at the first block of its program that has their struct. With no
more blocks than there are points, the points are distinct if and only if the structs are, and blocks
that repeat a struct stay unbound. -/
theorem validate_binds_at_first_block (decls : List ResourceDecl) (g : ResourceGraph)
    (hg : ResourceGraph.build decls = .ok g) (layouts : Layouts) (pipelines : List Pipeline)
    (v : Validation) (hv : validate pipelines g layouts = .ok v) :
    ∀ emission ∈ v.emissions, ∀ e ∈ emission.passes, ∃ p,
      ⟨e.program, .shaderProgram p⟩ ∈ decls ∧
      (∀ b ∈ e.buffers, ⟨b.buffer, .buffer b.structName⟩ ∈ decls ∧ b.AtFirst p.uniformBlocks) ∧
      (p.uniformBlocks.length ≤ UInt32.size →
        ((e.buffers.map BufferBinding.binding).Nodup ↔
          (e.buffers.map BufferBinding.structName).Nodup) ∧
        ∀ i j name, i < j → p.uniformBlocks[i]? = some name → p.uniformBlocks[j]? = some name →
          UInt32.ofNat j ∉ e.buffers.map BufferBinding.binding) := by
  intro emission hemission e he
  obtain ⟨rfl, hc, -⟩ := ResourceGraph.build_eq_ok_iff.1 hg
  obtain ⟨-, -, rs, h⟩ := validate_eq_ok_iff.1 hv
  obtain ⟨pass, reports, hpass⟩ := h.exists_resolvePass hemission he
  obtain ⟨p, hprogram, hbindings⟩ := PassContext.resolvePass_bindings hpass
  have hfirst : ∀ b ∈ e.buffers, b.AtFirst p.uniformBlocks :=
    fun b hb => ⟨(hbindings b hb).2.1, (hbindings b hb).2.2⟩
  refine ⟨p, hc.holds_iff.1 hprogram,
    fun b hb => ⟨hc.holds_iff.1 (hbindings b hb).1, hfirst b hb⟩, fun hl => ?_⟩
  refine ⟨BufferBinding.nodup_binding_iff hfirst hl, fun i j name hij hi hj hmem => ?_⟩
  obtain ⟨b, hb, hpoint⟩ := List.mem_map.1 hmem
  exact (hfirst b hb).binding_ne hl hij hi hj hpoint

/-- A program with two blocks of one struct, and a buffer for each of them. -/
def fogResources : List ResourceDecl :=
  [.program "Mist" ["Corners", "Shade"] ["Layer", "Layer"] 1, .stage "Corners" .vertex "",
    .stage "Shade" .fragment "", .buffer "Near" "Layer", .buffer "Far" "Layer"]

def fogPipelines : List Pipeline :=
  [{ name := "Main"
     passes := [{ RenderPass.draw "Haze" "Mist" 3 with buffers := ["Near", "Far"] }] }]

def layerLayout : StructLayout where
  name := "Layer"
  fields := [⟨"depth", .scalar .float, 0, 4, 4, none⟩]
  totalSize := 16
  alignment := 16

/-- Both buffers go to the first block, and the second is left without one. -/
theorem validate_binds_at_first_block_fog :
    ∃ g v, ResourceGraph.build fogResources = .ok g ∧ validate fogPipelines g [layerLayout] = .ok v ∧
      ∃ emission ∈ v.emissions, ∃ e ∈ emission.passes,
        e.buffers = [⟨0, "Near", "Layer"⟩, ⟨0, "Far", "Layer"⟩] ∧
        ∃ p, ⟨e.program, .shaderProgram p⟩ ∈ fogResources ∧ p.uniformBlocks = ["Layer", "Layer"] ∧
          (∀ b ∈ e.buffers, b.AtFirst p.uniformBlocks) ∧
          ¬ (e.buffers.map BufferBinding.binding).Nodup ∧
          1 ∉ e.buffers.map BufferBinding.binding := by
  obtain ⟨g, hg, hrun⟩ := exists_ok_of_toOption_map
    (show (ResourceGraph.build fogResources).toOption.map (fun g => decide
      ((validate fogPipelines g [layerLayout]).toOption.map (fun v => decide
        (∃ emission ∈ v.emissions, ∃ e ∈ emission.passes, e.program = "Mist" ∧
          e.buffers = [⟨0, "Near", "Layer"⟩, ⟨0, "Far", "Layer"⟩])) = some true)) = some true by
      decide +kernel)
  obtain ⟨v, hv, hrun⟩ := exists_ok_of_toOption_map (of_decide_eq_true hrun)
  obtain ⟨emission, hemission, e, he, hprogram, hbuffers⟩ := of_decide_eq_true hrun
  obtain ⟨p, hp, hfirst, hpoints⟩ := validate_binds_at_first_block fogResources g hg [layerLayout]
    fogPipelines v hv emission hemission e he
  have hblocks : p.uniformBlocks = ["Layer", "Layer"] := by
    have hp' : p = ⟨["Corners", "Shade"], ["Layer", "Layer"], 1⟩ := by
      simpa [hprogram, fogResources, ResourceDecl.program, ResourceDecl.stage, ResourceDecl.buffer]
        using hp
    rw [hp']
  obtain ⟨hdistinct, hunbound⟩ := hpoints (by rw [hblocks]; decide)
  exact ⟨g, v, hg, hv, emission, hemission, e, he, hbuffers, p, hp, hblocks,
    fun b hb => (hfirst b hb).2, hdistinct.not.2 (by rw [hbuffers]; decide),
    hunbound 0 1 "Layer" Nat.zero_lt_one (by rw [hblocks]; rfl) (by rw [hblocks]; rfl)⟩

end RenderPlan
