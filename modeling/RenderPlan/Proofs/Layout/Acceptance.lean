import RenderPlan.Proofs.Layout.Requests

/-! Which structs can be laid out, and how. A request is answered exactly when everything in reach
is declared, leads into no cycle and keeps the limit; the answer is the std140 layout. -/
namespace RenderPlan
open Relation

namespace StructTable
variable {t : StructTable} {name : String} {l : StructLayout}

/-- With the structs it refers to laid out by the rules, the struct itself keeps the limit: at the
end of every field and in every array at every level. -/
def Fits (t : StructTable) (name : String) : Prop :=
  ∀ d nested l, t.get? name = some d → (∀ m ∈ references d.fields, t.IsStd140 m (nested m)) →
    IsBlock (sizes nested) d l → l.Within (sizes nested)

lemma HasLayout.fits (h : t.HasLayout name l) : t.Fits name := by
  intro d nested l' hd hn hb
  cases h with
  | @intro _ d' nested' _ declared below allowed =>
    rw [hd] at declared
    cases declared
    -- The rules leave one layout for each struct below, so both families have the same sizes.
    have hsame : ∀ m ∈ references d.fields, sizes nested' m = sizes nested m := fun m hm => by
      rw [sizes, sizes, (HasLayout.isStd140 (below m hm)).unique (hn m hm)]
    have hb' := allowed.1.congr hsame
    rw [← hb'.unique hb]
    exact allowed.1.within_congr hsame allowed.2

/-- A struct from which every path ends is laid out, if all in reach is declared and keeps the
limit. -/
lemma Founded.exists_layout (h : t.Founded name)
    (hdecl : ∀ m, t.Reaches name m → ∃ d, t.get? m = some d)
    (hfits : ∀ m, t.Reaches name m → t.Fits m) : ∃ l, t.HasLayout name l := by
  induction h with
  | intro name _ ih =>
    obtain ⟨d, hd⟩ := hdecl name .refl
    have hbelow : ∀ m ∈ references d.fields, ∃ l, t.HasLayout m l := by
      intro m hm
      have hr : t.Refers name m := (refers_iff hd).2 hm
      exact ih m hr (fun n hn => hdecl n (.head hr hn)) (fun n hn => hfits n (.head hr hn))
    choose! nested hnested using hbelow
    obtain ⟨l, hl⟩ := IsBlock.exists_block (sizes nested) d
    have hw := hfits name .refl d nested l hd (fun m hm => (hnested m hm).isStd140) hl
    exact ⟨l, .intro hd hnested ⟨hl, hw⟩⟩

lemma exists_hasLayout_iff : (∃ l, t.HasLayout name l) ↔
    (∀ m, t.Reaches name m → ∃ d, t.get? m = some d) ∧
    (∀ m, t.Reaches name m → ¬ TransGen t.Refers m m) ∧
    (∀ m, t.Reaches name m → t.Fits m) := by
  constructor
  · rintro ⟨l, hl⟩
    refine ⟨fun m hm => ?_, fun m hm => ?_, fun m hm => ?_⟩ <;>
      obtain ⟨lm, hlm⟩ := hl.of_reaches hm
    · cases hlm with
      | intro declared _ _ => exact ⟨_, declared⟩
    · exact hlm.founded.not_cyclic
    · exact HasLayout.fits hlm
  · rintro ⟨hdecl, hacyclic, hfits⟩
    exact (founded_of_acyclic hacyclic).exists_layout hdecl hfits

end StructTable

namespace LayoutCache

/-- A fresh cache lays a struct out exactly when all structs in reach are declared, none of them
reaches itself, and each keeps the limit. The layout is then the std140 one. -/
theorem layoutOf_fresh_eq_ok_iff (t : StructTable) (name : String) :
    ((∃ l, ((fresh t).layoutOf name).1 = .ok l) ↔
      (∀ m, t.Reaches name m → ∃ d, t.get? m = some d) ∧
      (∀ m, t.Reaches name m → ¬ TransGen t.Refers m m) ∧
      (∀ m, t.Reaches name m → t.Fits m)) ∧
    ∀ l, ((fresh t).layoutOf name).1 = .ok l → t.IsStd140 name l ∧ l.totalSize ≤ 65536 := by
  have h (l : StructLayout) : ((fresh t).layoutOf name).1 = .ok l ↔ t.HasLayout name l := by
    rw [layoutOf, fresh_layoutFor]
    exact StructTable.layoutBelow_eq_ok_iff anonymous (StructTable.trail_nil name)
  simp only [h]
  exact ⟨StructTable.exists_hasLayout_iff, fun l hl => ⟨hl.isStd140, hl.totalSize_le⟩⟩

end LayoutCache
end RenderPlan
