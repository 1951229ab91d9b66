import RenderPlan.Proofs.Layout.Derivation

/-! Resolution with finished layouts at hand agrees with the derivation from the declarations,
results and faults alike. A finished struct leads into no cycle, so finding it before the stack is
looked at hides no fault. -/
namespace RenderPlan
variable {t : StructTable} {done done' : Layouts} {owner referrer name : String}
  {l : StructLayout}

namespace Layouts

/-- Each finished layout is the one the rules give, and what it refers to was finished before. -/
inductive Sound (t : StructTable) : Layouts → Prop
  | nil : Sound t []
  | cons {l : StructLayout} {older : Layouts} (right : t.HasLayout l.name l)
    (below : ∀ m, t.Refers l.name m → (get? older m).isSome) (rest : Sound t older) :
    Sound t (l :: older)

@[simp] lemma get?_cons (l : StructLayout) (older : Layouts) (name : String) :
    get? (l :: older) name = if l.name = name then some l else get? older name := by
  by_cases h : l.name = name <;> simp [get?, h]

@[simp] lemma isSome_get? {m : String} : (done.get? m).isSome ↔ ∃ l ∈ done, l.name = m := by
  simp [get?, List.find?_isSome]

lemma isSome_get?_mono (h : done ⊆ done') {m : String} (hm : (done.get? m).isSome) :
    (done'.get? m).isSome := by
  obtain ⟨l, hl, hn⟩ := isSome_get?.1 hm
  exact isSome_get?.2 ⟨l, h hl, hn⟩

/-- A sound layout can be read off anywhere in the list. -/
lemma Sound.of_mem (h : Sound t done) (hl : l ∈ done) :
    t.HasLayout l.name l ∧ ∀ m, t.Refers l.name m → (done.get? m).isSome := by
  induction h with
  | nil => cases hl
  | @cons l' older right below rest ih =>
    have hsub := List.subset_cons_self l' older
    rcases List.mem_cons.1 hl with rfl | hl
    · exact ⟨right, fun m hm => isSome_get?_mono hsub (below m hm)⟩
    · obtain ⟨hright, hbelow⟩ := ih hl
      exact ⟨hright, fun m hm => isSome_get?_mono hsub (hbelow m hm)⟩

lemma mem_of_get? (h : done.get? name = some l) : l ∈ done ∧ l.name = name :=
  ⟨List.mem_of_find?_eq_some h, by simpa using List.find?_some h⟩

lemma Sound.hasLayout (h : Sound t done) (hl : done.get? name = some l) : t.HasLayout name l := by
  obtain ⟨hmem, rfl⟩ := mem_of_get? hl
  exact (h.of_mem hmem).1

lemma Sound.isSome_of_refers (h : Sound t done) (hl : done.get? name = some l) {m : String}
    (hm : t.Refers name m) : (done.get? m).isSome := by
  obtain ⟨hmem, rfl⟩ := mem_of_get? hl
  exact (h.of_mem hmem).2 m hm

end Layouts

namespace Resolution
open Layouts

/-- From sound layouts the step ends as `expected` does, with the layout of `name` finished if that
is a layout, and with sound layouts in any case. -/
def Settles (t : StructTable) (name : String) (expected : Except Fault StructLayout)
    (step : Resolution Unit) : Prop :=
  ∀ done, Sound t done →
    match step done with
    | .ok _ done' =>
      (∃ l, expected = .ok l ∧ done'.get? name = some l) ∧ Sound t done' ∧ done ⊆ done'
    | .error fault done' => expected = .error fault ∧ Sound t done'

variable {visit : String → Resolution Unit} {expected : String → Except Fault StructLayout}
  {field : FieldDecl} {fields : List FieldDecl} {frame : Frame}

/-- The struct a type refers to is finished, or its fault is passed on. -/
lemma visitReferenced_settles {type : ShaderType}
    (hv : ∀ m, type.referenced = some m → Settles t m (expected m) (visit m)) (hs : Sound t done) :
    match visitReferenced visit type done with
    | .ok _ done' =>
      (∀ m, type.referenced = some m → ∃ l, expected m = .ok l ∧ done'.get? m = some l) ∧
        Sound t done' ∧ done ⊆ done'
    | .error fault done' =>
      (∃ m, type.referenced = some m ∧ expected m = .error fault) ∧ Sound t done' := by
  cases hr : type.referenced with
  | none =>
    simp only [visitReferenced_def, hr]
    exact ⟨fun m hm => (Option.some_ne_none m hm.symm).elim, hs, List.Subset.refl done⟩
  | some m =>
    have h := hv m hr done hs
    simp only [visitReferenced_def, hr]
    cases hm : visit m done with
    | ok _ done' =>
      rw [hm] at h
      refine ⟨fun m' hm' => ?_, h.2⟩
      cases hm'
      exact h.1
    | error fault done' =>
      rw [hm] at h
      exact ⟨⟨m, rfl, h.1⟩, h.2⟩

/-- Placing fields with finished layouts at hand ends as it does with the expected layouts, and all
structs referred to are finished then. -/
lemma placeFields_settles (owner : String) (frame : Frame)
    (hv : ∀ m ∈ references fields, Settles t m (expected m) (visit m)) (hs : Sound t done) :
    match placeFields owner visit fields frame done with
    | .ok frame' done' =>
      Frame.placeAll owner (fun m => (expected m).map StructLayout.footprint) fields frame =
        .ok frame' ∧ Sound t done' ∧ done ⊆ done' ∧ ∀ m ∈ references fields, (done'.get? m).isSome
    | .error fault done' =>
      Frame.placeAll owner (fun m => (expected m).map StructLayout.footprint) fields frame =
        .error fault ∧ Sound t done' := by
  induction fields generalizing frame done with
  | nil => exact ⟨rfl, hs, List.Subset.refl done, fun m hm => (List.not_mem_nil hm).elim⟩
  | cons f fs ih =>
    obtain ⟨hvf, hvs⟩ := forall_references_cons.1 hv
    have hf := visitReferenced_settles hvf hs
    rw [placeFields_cons, Frame.placeAll_cons]
    cases hd : visitReferenced visit f.type done with
    | error fault done' =>
      rw [hd] at hf
      obtain ⟨⟨m, hr, hm⟩, hs'⟩ := hf
      rw [Frame.place_error hr (by rw [hm]; rfl)]
      exact ⟨rfl, hs'⟩
    | ok _ done' =>
      rw [hd] at hf
      obtain ⟨hm, hs', hsub⟩ := hf
      -- Both ways of measuring agree on the one struct this field may refer to.
      have hp : frame.place owner (fun m => (expected m).map StructLayout.footprint) f =
          frame.place owner (done'.footprint owner) f := by
        apply Frame.place_congr
        intro m hr
        obtain ⟨l, he, hl⟩ := hm m hr
        simp only [he, footprint, hl, Except.map]
      rw [hp]
      dsimp only
      cases frame.place owner (done'.footprint owner) f with
      | error fault => exact ⟨rfl, hs'⟩
      | ok frame' =>
        have h := ih frame' hvs hs'
        simp only [Except.bind]
        cases hrest : placeFields owner visit fs frame' done' with
        | error fault done'' =>
          rw [hrest] at h
          exact h
        | ok frame'' done'' =>
          rw [hrest] at h
          obtain ⟨hall, hs'', hsub', hrefs⟩ := h
          refine ⟨hall, hs'', List.Subset.trans hsub hsub', ?_⟩
          refine forall_references_cons.2 ⟨fun m hr => ?_, hrefs⟩
          obtain ⟨l, -, hl⟩ := hm m hr
          exact isSome_get?_mono hsub' (by rw [hl]; rfl)

end Resolution

namespace StructTable
open Layouts
variable {stack : List String}

/-- Along a trail, resolution over sound layouts finds what the declarations give. -/
lemma resolve_settles (referrer : String) (ht : t.Trail stack name) :
    Resolution.Settles t name (t.layoutBelow stack referrer name)
      (t.resolve stack referrer name) := by
  -- The stack grows downwards, so fewer declared structs are left for the structs below.
  generalize hk : (t.idle stack).length = k
  induction k using Nat.strong_induction_on generalizing stack referrer name with
  | _ k ih =>
    intro done hs
    rw [resolve_apply]
    by_cases hg : (done.get? name).isSome
    · -- A finished struct reaches no cycle, so the shortcut past the stack hides no fault.
      rw [if_pos hg]
      obtain ⟨l, hl⟩ := Option.isSome_iff_exists.1 hg
      have hb := (layoutBelow_eq_ok_iff referrer ht).2 (hs.hasLayout hl)
      exact ⟨⟨l, hb, hl⟩, hs, List.Subset.refl done⟩
    rw [if_neg hg]
    by_cases hn : name ∈ stack
    · rw [if_pos hn, layoutBelow_of_mem hn]
      exact ⟨rfl, hs⟩
    rw [if_neg hn]
    cases hd : t.get? name with
    | none =>
      rw [layoutBelow_of_undeclared hn hd]
      exact ⟨rfl, hs⟩
    | some d =>
      have hv : ∀ m ∈ references d.fields,
          Resolution.Settles t m (t.layoutBelow (stack ++ [name]) name m)
            (t.resolve (stack ++ [name]) name m) := fun m hm =>
        ih _ (hk ▸ length_idle_lt hd hn) name (ht.snoc ((refers_iff hd).2 hm)) rfl
      have h := Resolution.placeFields_settles name {} hv hs
      have hb : t.layoutBelow stack referrer name = (Frame.placeAll name (fun m =>
          (t.layoutBelow (stack ++ [name]) name m).map StructLayout.footprint) d.fields {}).map
            (Frame.finish name) := by
        rw [layoutBelow_of_declared hn hd, StructDecl.layOut, name_of_get? hd]
      dsimp only
      cases hp : Resolution.placeFields name (t.resolve (stack ++ [name]) name) d.fields {} done with
      | error fault done' =>
        rw [hp] at h
        rw [h.1] at hb
        exact ⟨hb, h.2⟩
      | ok frame done' =>
        rw [hp] at h
        obtain ⟨hall, hs', hsub, hrefs⟩ := h
        rw [hall] at hb
        have hl : t.HasLayout name (frame.finish name) := hasLayout_of_layoutBelow hb
        refine ⟨⟨_, hb, ?_⟩, .cons hl (fun m hm => ?_) hs', ?_⟩
        · exact (get?_cons _ _ _).trans (if_pos rfl)
        · exact hrefs m ((refers_iff hd).1 hm)
        · exact List.Subset.trans hsub (List.subset_cons_self _ _)

end StructTable
end RenderPlan
