import RenderPlan.Proofs.Outcome
import RenderPlan.Resource.Check

/-! What a checked declaration can rely on. Framebuffers attach declared textures and programs link
declared stages, so nothing changes for them when further declarations are added. -/
namespace RenderPlan

/-- A kind of the given class, whatever its parameters. -/
def ResourceKind.IsOf (k : ResourceKind) : ResourceClass → Prop
  | .buffer => ∃ s, k = .buffer s
  | .texture => ∃ t, k = .texture t
  | .sampler => ∃ s, k = .sampler s
  | .framebuffer => ∃ f, k = .framebuffer f
  | .shaderStage => ∃ s, k = .shaderStage s
  | .shaderProgram => ∃ p, k = .shaderProgram p

/-- The class of a resource tells its kind, parameters apart. -/
@[simp] lemma ResourceKind.resourceClass_eq_iff {k : ResourceKind} {expected : ResourceClass} :
    k.resourceClass = expected ↔ k.IsOf expected := by
  cases k <;> cases expected <;> simp [resourceClass, IsOf]

namespace ResourceDecl
variable {find : ResourceLookup} {referrer name : String} {expected : ResourceClass}
  {d : ResourceDecl}

@[simp] lemma require_eq_ok_iff : require find referrer name expected = .ok d ↔
    find name = some d ∧ d.resourceClass = expected := by
  rw [require]
  cases hf : find name with
  | none => simp
  | some e =>
    by_cases he : e.resourceClass = expected
    · simp only [he, if_true, Except.ok.injEq, Option.some.injEq]
      constructor
      · rintro rfl
        exact ⟨rfl, he⟩
      · exact And.left
    · simp only [he, if_false, reduceCtorEq, Option.some.injEq, false_iff, not_and]
      rintro rfl
      exact he

lemma kind_isOf (h : d.resourceClass = expected) : d.kind.IsOf expected :=
  ResourceKind.resourceClass_eq_iff.1 h

end ResourceDecl

section Checks
variable {find find' : ResourceLookup} {name texture : String} {seen : List String}
  {isDepthSlot : Bool} {slots attached : List (String × Bool)} {f : Framebuffer} {p : ShaderProgram}
  {d : ResourceDecl} {kinds : List StageKind}

namespace Framebuffer

lemma checkSlots_cons_eq_ok_iff :
    checkSlots find name seen ((texture, isDepthSlot) :: slots) = .ok attached ↔
      texture ∉ seen ∧ ∃ d t, find texture = some d ∧ d.kind = .texture t ∧
        t.format.isDepth = isDepthSlot ∧
        ∃ rest, checkSlots find name (texture :: seen) slots = .ok rest ∧
          attached = (texture, t.isWindowRelative) :: rest := by
  rw [checkSlots, guard_eq_ok_iff]
  simp only [bind_eq_ok_iff, ResourceDecl.require_eq_ok_iff]
  refine and_congr_right fun _ => exists_congr fun d => ?_
  constructor
  · rintro ⟨⟨hf, hc⟩, h⟩
    obtain ⟨t, ht⟩ := ResourceDecl.kind_isOf hc
    simp only [ht, guard_eq_ok_iff, bind_eq_ok_iff, pure_eq_ok_iff, not_not] at h
    obtain ⟨hd, rest, hr, ha⟩ := h
    exact ⟨t, hf, ht, hd, rest, hr, ha.symm⟩
  · rintro ⟨t, hf, ht, hd, rest, hr, rfl⟩
    refine ⟨⟨hf, by rw [ResourceDecl.resourceClass, ht]; rfl⟩, ?_⟩
    simp only [ht, guard_eq_ok_iff, bind_eq_ok_iff, pure_eq_ok_iff, not_not]
    exact ⟨hd, rest, hr, rfl⟩

lemma checkSlots_mono (hle : ∀ n d, find n = some d → find' n = some d)
    (h : checkSlots find name seen slots = .ok attached) :
    checkSlots find' name seen slots = .ok attached := by
  induction slots generalizing seen attached with
  | nil => exact h
  | cons slot slots ih =>
    obtain ⟨hs, d, t, hf, ht, hd, rest, hr, ha⟩ := checkSlots_cons_eq_ok_iff.1 h
    exact checkSlots_cons_eq_ok_iff.2 ⟨hs, d, t, hle _ d hf, ht, hd, rest, ih hr, ha⟩

lemma exists_texture_of_checkSlots (h : checkSlots find name seen slots = .ok attached)
    {slot : String × Bool} (hs : slot ∈ slots) : ∃ d t, find slot.1 = some d ∧ d.kind = .texture t := by
  induction slots generalizing seen attached with
  | nil => cases hs
  | cons first slots ih =>
    obtain ⟨-, d, t, hf, ht, -, rest, hr, -⟩ := checkSlots_cons_eq_ok_iff.1 h
    rcases List.mem_cons.1 hs with rfl | hs
    · exact ⟨d, t, hf, ht⟩
    · exact ih hr hs

/-- Each attached texture is noted with whether it follows the window. -/
lemma attached_eq (h : checkSlots find name seen slots = .ok attached) :
    attached = slots.map fun slot => (slot.1, ResourceDecl.isRelativeTexture find slot.1) := by
  induction slots generalizing seen attached with
  | nil =>
    cases h
    rfl
  | cons slot slots ih =>
    obtain ⟨-, d, t, hf, ht, -, rest, hr, rfl⟩ := checkSlots_cons_eq_ok_iff.1 h
    rw [List.map_cons, ← ih hr, ResourceDecl.isRelativeTexture, hf, Option.map_some, ht]

/-- There is no conflict if the attachments follow the window together or not at all, and as the
declared size says. -/
lemma conflict?_eq_none_iff : f.conflict? attached = none ↔
    ((∀ a ∈ attached, a.2 = true) ∨ ∀ a ∈ attached, a.2 = false) ∧
    (∀ w h, f.size = some (.fixed w h) → ∀ a ∈ attached, a.2 = false) ∧
    ∀ x y, f.size = some (.windowRelative x y) → ∃ a ∈ attached, a.2 = true := by
  have hall : (∀ a ∈ attached, a.2 = true) ↔ attached.find? (fun a => !a.2) = none := by simp
  have hnone : (∀ a ∈ attached, a.2 = false) ↔ attached.find? (fun a => a.2) = none := by simp
  have hsome : (∃ a ∈ attached, a.2 = true) ↔ attached.find? (fun a => a.2) ≠ none := by simp
  rw [hall, hnone, hsome, conflict?]
  cases attached.find? (fun a => a.2) <;> cases attached.find? (fun a => !a.2) <;>
    rcases f.size with _ | ⟨w, h⟩ | ⟨x, y⟩ <;> simp

lemma check_eq_ok_iff : f.check find name = .ok () ↔
    f.slots ≠ [] ∧ ∃ attached, checkSlots find name [] f.slots = .ok attached ∧
      f.conflict? attached = none := by
  rw [check, guard_eq_ok_iff, bind_eq_ok_iff]
  refine and_congr_right fun _ => exists_congr fun attached => and_congr_right fun _ => ?_
  cases f.conflict? attached with
  | none => simp
  | some conflict => simp [throw, throwThe, MonadExceptOf.throw]

lemma exists_slot_of_mem (h : texture ∈ f.attachments) : ∃ isDepth, (texture, isDepth) ∈ f.slots := by
  rcases List.mem_append.1 h with h | h
  · exact ⟨false, List.mem_append_left _ (List.mem_map.2 ⟨texture, h, rfl⟩)⟩
  · exact ⟨true, List.mem_append_right _ (List.mem_map.2 ⟨texture, h, rfl⟩)⟩

end Framebuffer

namespace ShaderProgram

lemma stageKinds_mono (hle : ∀ n d, find n = some d → find' n = some d)
    (h : p.stageKinds find name = .ok kinds) : p.stageKinds find' name = .ok kinds := by
  simp only [stageKinds, bind_eq_ok_iff, pure_eq_ok_iff, mapM_eq_ok_iff,
    ResourceDecl.require_eq_ok_iff] at h ⊢
  obtain ⟨parts, hparts, rfl⟩ := h
  refine ⟨parts, hparts.imp fun stage part => ?_, rfl⟩
  rintro ⟨d, ⟨hf, hc⟩, hk⟩
  exact ⟨d, ⟨hle stage d hf, hc⟩, hk⟩

lemma exists_stage_of_stageKinds (h : p.stageKinds find name = .ok kinds) {stage : String}
    (hs : stage ∈ p.stages) : ∃ d s, find stage = some d ∧ d.kind = .shaderStage s := by
  rw [stageKinds, bind_eq_ok_iff] at h
  obtain ⟨parts, hparts, -⟩ := h
  obtain ⟨part, hpart⟩ := exists_mapM_eq_ok_iff.1 ⟨parts, hparts⟩ stage hs
  obtain ⟨d, hd, -⟩ := bind_eq_ok_iff.1 hpart
  obtain ⟨hf, hc⟩ := ResourceDecl.require_eq_ok_iff.1 hd
  obtain ⟨s, hs⟩ := ResourceDecl.kind_isOf hc
  exact ⟨d, s, hf, hs⟩

lemma check_eq_ok_iff : p.check find name = .ok () ↔
    p.stages ≠ [] ∧ ∃ kinds, p.stageKinds find name = .ok kinds ∧
      ¬ (.compute ∈ kinds ∧ 1 < kinds.length) ∧ ¬ (.compute ∉ kinds ∧ .vertex ∉ kinds) := by
  rw [check, guard_eq_ok_iff, bind_eq_ok_iff]
  refine and_congr_right fun _ => exists_congr fun kinds => and_congr_right fun _ => ?_
  rw [guard_eq_ok_iff]
  refine and_congr_right fun _ => ?_
  split
  · next h => simp [h, throw, throwThe, MonadExceptOf.throw]
  · next h => simp [h]

end ShaderProgram

namespace ResourceDecl

lemma check_mono (hle : ∀ n d, find n = some d → find' n = some d) (h : d.check find = .ok ()) :
    d.check find' = .ok () := by
  rw [check] at h ⊢
  cases hk : d.kind with
  | framebuffer f =>
    simp only [hk, Framebuffer.check_eq_ok_iff] at h ⊢
    obtain ⟨hne, attached, ha, hc⟩ := h
    exact ⟨hne, attached, Framebuffer.checkSlots_mono hle ha, hc⟩
  | shaderProgram p =>
    simp only [hk, ShaderProgram.check_eq_ok_iff] at h ⊢
    obtain ⟨hne, kinds, ha, hc⟩ := h
    exact ⟨hne, kinds, ShaderProgram.stageKinds_mono hle ha, hc⟩
  | texture t => simpa only [hk] using h
  | _ => rfl

lemma exists_attachment (h : d.check find = .ok ()) (hk : d.kind = .framebuffer f)
    (ht : texture ∈ f.attachments) : ∃ e t, find texture = some e ∧ e.kind = .texture t := by
  simp only [check, hk, Framebuffer.check_eq_ok_iff] at h
  obtain ⟨-, attached, ha, -⟩ := h
  obtain ⟨isDepth, hs⟩ := Framebuffer.exists_slot_of_mem ht
  exact Framebuffer.exists_texture_of_checkSlots ha hs

lemma exists_stage (h : d.check find = .ok ()) (hk : d.kind = .shaderProgram p) {stage : String}
    (hs : stage ∈ p.stages) : ∃ e s, find stage = some e ∧ e.kind = .shaderStage s := by
  simp only [check, hk, ShaderProgram.check_eq_ok_iff] at h
  obtain ⟨-, kinds, ha, -⟩ := h
  exact ShaderProgram.exists_stage_of_stageKinds ha hs

/-- Whether a checked resource follows the window is settled by what it refers to. -/
lemma isWindowRelative_mono (hle : ∀ n d, find n = some d → find' n = some d)
    (h : d.check find = .ok ()) : d.isWindowRelative find' = d.isWindowRelative find := by
  rw [isWindowRelative, isWindowRelative]
  cases hk : d.kind with
  | framebuffer f =>
    have hsame : ∀ t ∈ f.attachments, isRelativeTexture find' t = isRelativeTexture find t := by
      intro t ht
      obtain ⟨e, tex, he, -⟩ := exists_attachment h hk ht
      rw [isRelativeTexture, isRelativeTexture, he, hle t e he]
    simp only
    rw [Bool.eq_iff_iff, List.any_eq_true, List.any_eq_true]
    exact exists_congr fun t => and_congr_right fun ht => by rw [hsame t ht]
  | _ => rfl

end ResourceDecl
end Checks
end RenderPlan
