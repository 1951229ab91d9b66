import Mathlib.Tactic.Choose
import RenderPlan.Proofs.Layout.Block

/-! Layouts derived from the declarations alone. `layoutBelow` follows the references depth first as
a resolution does, but keeps nothing, so its result depends on the table, the stack and the request
only. Below a trail it succeeds exactly where the rules give a layout within the limit. -/
namespace RenderPlan

def sizes (nested : String → StructLayout) (name : String) : ℕ := (nested name).totalSize

def storedSize (stored : String → Option StructLayout) (name : String) : ℕ :=
  (stored name).elim 0 StructLayout.totalSize

instance : Nonempty StructLayout := ⟨⟨"", [], 0, 16⟩⟩

namespace StructTable
variable {t : StructTable} {stack : List String} {referrer name : String} {d : StructDecl}
  {l l' : StructLayout}

/-- `l` is the std140 layout of the struct, in exact numbers. -/
def IsStd140 (t : StructTable) : String → StructLayout → Prop :=
  t.Derives fun nested => IsBlock (sizes nested)

/-- `l` is the std140 layout of the struct, and the limit is kept in it and in all it refers to. -/
def HasLayout (t : StructTable) : String → StructLayout → Prop :=
  t.Derives fun nested d l => IsBlock (sizes nested) d l ∧ l.Within (sizes nested)

lemma HasLayout.isStd140 (h : t.HasLayout name l) : t.IsStd140 name l :=
  h.mono fun _ _ _ hb => hb.1

lemma IsStd140.unique (h : t.IsStd140 name l) (h' : t.IsStd140 name l') : l = l' := by
  refine Derives.unique (fun n n' d a b hn ha hb => ?_) h h'
  have ha' : IsBlock (sizes n') d a := ha.congr fun m hm => by rw [sizes, sizes, hn m hm]
  exact ha'.unique hb

lemma HasLayout.unique (h : t.HasLayout name l) (h' : t.HasLayout name l') : l = l' :=
  h.isStd140.unique h'.isStd140

lemma IsStd140.footprint_eq (h : t.IsStd140 name l) : l.footprint = ⟨l.totalSize, 16⟩ := by
  cases h with
  | intro _ _ allowed => rw [StructLayout.footprint, allowed.alignment]

lemma IsStd140.name_eq (h : t.IsStd140 name l) : l.name = name := by
  cases h with
  | intro declared _ allowed => exact allowed.name.trans (name_of_get? declared)

lemma HasLayout.totalSize_le (h : t.HasLayout name l) : l.totalSize ≤ 65536 := by
  cases h with
  | intro _ _ allowed => exact allowed.1.totalSize_le allowed.2

/-- A layout agrees with the layouts that are stored for the structs below it. -/
lemma HasLayout.block_of_stored {stored : String → Option StructLayout} (h : t.HasLayout name l)
    (hs : ∀ m, t.Refers name m → ∃ lm, stored m = some lm ∧ t.HasLayout m lm) :
    ∃ d, t.get? name = some d ∧ IsBlock (storedSize stored) d l ∧ l.Within (storedSize stored) := by
  cases h with
  | @intro _ d nested _ declared below allowed =>
    have hsize : ∀ m ∈ references d.fields, sizes nested m = storedSize stored m := by
      intro m hm
      obtain ⟨lm, hlm, hm'⟩ := hs m ((refers_iff declared).2 hm)
      rw [storedSize, hlm, sizes, HasLayout.unique (below m hm) hm']
      rfl
    exact ⟨d, declared, allowed.1.congr hsize, allowed.1.within_congr hsize allowed.2⟩

/-- The layout of `name` on behalf of `referrer`, below the structs on the stack. -/
def layoutBelow (t : StructTable) (stack : List String) (referrer name : String) :
    Except Fault StructLayout :=
  if _hn : name ∈ stack then .error (.cyclicStruct name (stack ++ [name]))
  else
    match _hd : t.get? name with
    | none => .error (.unknownStruct referrer name)
    | some d => d.layOut fun m => (t.layoutBelow (stack ++ [name]) name m).map StructLayout.footprint
termination_by (t.idle stack).length
decreasing_by exact length_idle_lt _hd _hn

lemma layoutBelow_of_mem (hn : name ∈ stack) :
    t.layoutBelow stack referrer name = .error (.cyclicStruct name (stack ++ [name])) := by
  rw [layoutBelow, dif_pos hn]

lemma layoutBelow_of_undeclared (hn : name ∉ stack) (hd : t.get? name = none) :
    t.layoutBelow stack referrer name = .error (.unknownStruct referrer name) := by
  rw [layoutBelow, dif_neg hn]
  split
  · rfl
  · simp_all

lemma layoutBelow_of_declared (hn : name ∉ stack) (hd : t.get? name = some d) :
    t.layoutBelow stack referrer name =
      d.layOut fun m => (t.layoutBelow (stack ++ [name]) name m).map StructLayout.footprint := by
  rw [layoutBelow, dif_neg hn]
  split
  · simp_all
  · simp_all

/-- A layout that is found is the one the rules give. -/
lemma hasLayout_of_layoutBelow (h : t.layoutBelow stack referrer name = .ok l) :
    t.HasLayout name l := by
  generalize hk : (t.idle stack).length = k
  induction k using Nat.strong_induction_on generalizing stack referrer name l with
  | _ k ih =>
    by_cases hn : name ∈ stack
    · rw [layoutBelow_of_mem hn] at h
      cases h
    cases hd : t.get? name with
    | none =>
      rw [layoutBelow_of_undeclared hn hd] at h
      cases h
    | some d =>
      rw [layoutBelow_of_declared hn hd] at h
      have hv : ∀ m ∈ references d.fields, ∃ a, t.layoutBelow (stack ++ [name]) name m = .ok a := by
        intro m hm
        obtain ⟨p, hp⟩ := StructDecl.footprint_of_layOut h m hm
        cases ha : t.layoutBelow (stack ++ [name]) name m with
        | ok a => exact ⟨a, rfl⟩
        | error fault =>
          rw [ha] at hp
          cases hp
      choose! nested hnested using hv
      have hbelow : ∀ m ∈ references d.fields, t.HasLayout m (nested m) := fun m hm =>
        ih _ (hk ▸ length_idle_lt hd hn) (hnested m hm) rfl
      refine .intro hd hbelow ((StructDecl.layOut_eq_ok_iff fun m hm => ?_).1 h)
      rw [hnested m hm]
      exact congrArg Except.ok (hbelow m hm).isStd140.footprint_eq

/-- A layout the rules give is found below any stack that the struct does not lead back to. -/
lemma layoutBelow_of_hasLayout (h : t.HasLayout name l)
    (hs : ∀ s ∈ stack, ¬ t.Reaches name s) : t.layoutBelow stack referrer name = .ok l := by
  induction h generalizing stack referrer with
  | @intro name d nested l declared below allowed ih =>
    have hn : name ∉ stack := fun hm => hs name hm .refl
    rw [layoutBelow_of_declared hn declared]
    refine (StructDecl.layOut_eq_ok_iff fun m hm => ?_).2 allowed
    have hr : t.Refers name m := (refers_iff declared).2 hm
    have hf : t.Founded name := Derives.founded (.intro declared below allowed)
    rw [ih m hm]
    · exact congrArg Except.ok (HasLayout.isStd140 (below m hm)).footprint_eq
    · intro s hs' hms
      rcases List.mem_append.1 hs' with hs' | hs'
      · exact hs s hs' (.head hr hms)
      · rw [List.mem_singleton.1 hs'] at hms
        exact hf.not_cyclic (.head' hr hms)

lemma layoutBelow_eq_ok_iff (referrer : String) (ht : t.Trail stack name) :
    t.layoutBelow stack referrer name = .ok l ↔ t.HasLayout name l := by
  constructor
  · exact hasLayout_of_layoutBelow
  · intro h
    refine layoutBelow_of_hasLayout h fun s hs hr => ?_
    exact h.founded.not_cyclic (.trans_right hr (ht.transGen hs))

end StructTable
end RenderPlan
