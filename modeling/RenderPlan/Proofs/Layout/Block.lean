import RenderPlan.Proofs.Layout.Packing
import RenderPlan.Proofs.Layout.References

/-! Blocks laid out by the rules. `IsBlock` describes the layout of one struct when the sizes of the
structs in it are known, again in exact numbers. Laying a struct out field by field yields this block
exactly when the block stays within the limit. -/
namespace RenderPlan

/-- A field at an offset, with the measures of its type. -/
def FieldDecl.layoutAt (f : FieldDecl) (offset : ℕ) (p : Placement) : FieldLayout :=
  ⟨f.name, f.type, offset, p.size, p.alignment, p.stride⟩

def FieldLayout.decl (f : FieldLayout) : FieldDecl := ⟨f.name, f.type⟩

lemma mem_references_map_decl {fields : List FieldLayout} {f : FieldLayout} {m : String}
    (hf : f ∈ fields) (hm : f.type.referenced = some m) :
    m ∈ references (fields.map FieldLayout.decl) :=
  mem_references.2 ⟨f.decl, List.mem_map_of_mem hf, hm⟩

/-- Fields one after the other from `cursor` to `stop`, each at the least multiple of its alignment
that is not before the end of the field in front of it. -/
inductive Places (total : String → ℕ) : ℕ → List FieldDecl → List FieldLayout → ℕ → Prop
  | nil {cursor : ℕ} : Places total cursor [] [] cursor
  | cons {cursor offset stop : ℕ} {f : FieldDecl} {fs : List FieldDecl} {ls : List FieldLayout}
    (first : IsLeast {o | (f.type.measure total).alignment ∣ o ∧ cursor ≤ o} offset)
    (rest : Places total (offset + (f.type.measure total).size) fs ls stop) :
    Places total cursor (f :: fs) (f.layoutAt offset (f.type.measure total) :: ls) stop

/-- The std140 layout of a declared struct, if a value of the struct `m` takes `total m` bytes. -/
structure IsBlock (total : String → ℕ) (d : StructDecl) (l : StructLayout) : Prop where
  name : l.name = d.name
  placed : ∃ stop, Places total 0 d.fields l.fields stop ∧ l.totalSize = slot stop
  alignment : l.alignment = 16

/-- The field at the first offset from `cursor` on that suits it. -/
def FieldDecl.layoutFrom (total : String → ℕ) (cursor : ℕ) (f : FieldDecl) : FieldLayout :=
  f.layoutAt (roundUp cursor (f.type.measure total).alignment) (f.type.measure total)

lemma FieldDecl.isLeast_layoutFrom (total : String → ℕ) (cursor : ℕ) (f : FieldDecl) :
    IsLeast {o | (f.type.measure total).alignment ∣ o ∧ cursor ≤ o}
      (f.layoutFrom total cursor).offset := by
  apply isLeast_roundUp
  rcases f.type.alignment_measure total with h | h | h <;> omega

/-- The end of the field and every array in it stay within 64 KiB. -/
def FieldLayout.Within (total : String → ℕ) (f : FieldLayout) : Prop :=
  f.offset + f.size ≤ 65536 ∧ ∀ a ∈ f.type.arrays, (a.measure total).size ≤ 65536

instance (total : String → ℕ) (f : FieldLayout) : Decidable (f.Within total) :=
  inferInstanceAs (Decidable (_ ∧ _))

def StructLayout.Within (total : String → ℕ) (l : StructLayout) : Prop :=
  ∀ f ∈ l.fields, f.Within total

namespace Places
variable {total total' : String → ℕ} {cursor stop stop' : ℕ} {fs : List FieldDecl}
  {ls ls' : List FieldLayout}

/-- The rules leave one place for the first field. -/
lemma cons_iff {f : FieldDecl} : Places total cursor (f :: fs) ls stop ↔
    ∃ rest, ls = f.layoutFrom total cursor :: rest ∧
      Places total ((f.layoutFrom total cursor).offset + (f.layoutFrom total cursor).size) fs rest
        stop := by
  have hl := f.isLeast_layoutFrom total cursor
  constructor
  · intro h
    cases h with
    | cons first rest =>
      cases hl.unique first
      exact ⟨_, rfl, rest⟩
  · rintro ⟨rest, rfl, h⟩
    exact cons hl h

lemma exists_places (total : String → ℕ) (cursor : ℕ) (fs : List FieldDecl) :
    ∃ ls stop, Places total cursor fs ls stop := by
  induction fs generalizing cursor with
  | nil => exact ⟨[], cursor, nil⟩
  | cons f fs ih =>
    obtain ⟨ls, stop, h⟩ := ih ((f.layoutFrom total cursor).offset + (f.layoutFrom total cursor).size)
    exact ⟨_, stop, cons_iff.2 ⟨ls, rfl, h⟩⟩

lemma congr (h : Places total cursor fs ls stop)
    (ht : ∀ m ∈ references fs, total m = total' m) :
    Places total' cursor fs ls stop := by
  induction h with
  | nil => exact nil
  | @cons cursor offset stop f fs ls first rest ih =>
    obtain ⟨htf, htr⟩ := forall_references_cons.1 ht
    have hf : f.type.measure total = f.type.measure total' := ShaderType.measure_congr htf
    have hr := ih htr
    rw [hf] at first hr ⊢
    exact cons first hr

lemma unique (h : Places total cursor fs ls stop) (h' : Places total cursor fs ls' stop') :
    ls = ls' ∧ stop = stop' := by
  induction h generalizing ls' with
  | nil =>
    cases h'
    exact ⟨rfl, rfl⟩
  | cons first rest ih =>
    cases h' with
    | cons first' rest' =>
      cases first.unique first'
      obtain ⟨rfl, rfl⟩ := ih rest'
      exact ⟨rfl, rfl⟩

lemma map_decl (h : Places total cursor fs ls stop) : ls.map FieldLayout.decl = fs := by
  induction h with
  | nil => rfl
  | cons first rest ih =>
    rw [List.map_cons, ih]
    rfl

lemma stop_le {limit : ℕ} (h : Places total cursor fs ls stop) (hc : cursor ≤ limit)
    (hw : ∀ f ∈ ls, f.offset + f.size ≤ limit) : stop ≤ limit := by
  induction h with
  | nil => exact hc
  | cons first rest ih =>
    exact ih (hw _ List.mem_cons_self) fun f hf => hw f (List.mem_cons_of_mem _ hf)

lemma cursor_le (h : Places total cursor fs ls stop) : cursor ≤ stop := by
  induction h with
  | nil => exact Nat.le_refl _
  | cons first rest ih => exact (first.1.2.trans (Nat.le_add_right _ _)).trans ih

lemma offset_add_size_le (h : Places total cursor fs ls stop) {f : FieldLayout} (hf : f ∈ ls) :
    f.offset + f.size ≤ stop := by
  induction h with
  | nil => cases hf
  | cons first rest ih =>
    rcases List.mem_cons.1 hf with rfl | hf
    · exact rest.cursor_le
    · exact ih hf

/-- The measures kept with a field are those of its type. -/
lemma measure_of_mem (h : Places total cursor fs ls stop) {f : FieldLayout} (hf : f ∈ ls) :
    f.type.measure total = ⟨f.size, f.alignment, f.stride⟩ := by
  induction h with
  | nil => cases hf
  | cons first rest ih =>
    rcases List.mem_cons.1 hf with rfl | hf
    · rfl
    · exact ih hf

end Places

namespace IsBlock
variable {total total' : String → ℕ} {d : StructDecl} {l l' : StructLayout}

lemma exists_block (total : String → ℕ) (d : StructDecl) : ∃ l, IsBlock total d l := by
  obtain ⟨ls, stop, h⟩ := Places.exists_places total 0 d.fields
  exact ⟨⟨d.name, ls, slot stop, 16⟩, rfl, ⟨stop, h, rfl⟩, rfl⟩

lemma congr (h : IsBlock total d l) (ht : ∀ m ∈ references d.fields, total m = total' m) :
    IsBlock total' d l := by
  obtain ⟨stop, hp, hs⟩ := h.placed
  exact ⟨h.name, ⟨stop, hp.congr ht, hs⟩, h.alignment⟩

lemma unique (h : IsBlock total d l) (h' : IsBlock total d l') : l = l' := by
  obtain ⟨stop, hp, hs⟩ := h.placed
  obtain ⟨stop', hp', hs'⟩ := h'.placed
  obtain ⟨hf, rfl⟩ := hp.unique hp'
  cases l
  cases l'
  have hn := h.name.trans h'.name.symm
  have ha := h.alignment.trans h'.alignment.symm
  simp_all

lemma map_decl (h : IsBlock total d l) : l.fields.map FieldLayout.decl = d.fields := by
  obtain ⟨stop, hp, -⟩ := h.placed
  exact hp.map_decl

lemma referenced_mem (h : IsBlock total d l) {f : FieldLayout} (hf : f ∈ l.fields) {m : String}
    (hm : f.type.referenced = some m) : m ∈ references d.fields := by
  rw [← h.map_decl]
  exact mem_references_map_decl hf hm

lemma within_congr (h : IsBlock total d l) (ht : ∀ m ∈ references d.fields, total m = total' m)
    (hw : l.Within total) : l.Within total' := by
  intro f hf
  refine ⟨(hw f hf).1, fun a ha => ?_⟩
  have hm : a.measure total = a.measure total' := ShaderType.measure_congr fun m hm =>
    ht m (h.referenced_mem hf ((ShaderType.referenced_of_mem_arrays ha).symm.trans hm))
  rw [← hm]
  exact (hw f hf).2 a ha

lemma measure_of_mem (h : IsBlock total d l) {f : FieldLayout} (hf : f ∈ l.fields) :
    f.type.measure total = ⟨f.size, f.alignment, f.stride⟩ := by
  obtain ⟨stop, hp, -⟩ := h.placed
  exact hp.measure_of_mem hf

lemma offset_add_size_le (h : IsBlock total d l) {f : FieldLayout} (hf : f ∈ l.fields) :
    f.offset + f.size ≤ l.totalSize := by
  obtain ⟨stop, hp, hs⟩ := h.placed
  rw [hs]
  exact (hp.offset_add_size_le hf).trans (le_slot stop)

/-- The limit is a multiple of 16, so padding the end of the last field does not pass it. -/
lemma totalSize_le (h : IsBlock total d l) (hw : l.Within total) : l.totalSize ≤ 65536 := by
  obtain ⟨stop, hp, hs⟩ := h.placed
  rw [hs]
  exact slot_le (by decide) (hp.stop_le (Nat.zero_le _) fun f hf => (hw f hf).1)

end IsBlock

namespace Frame
variable {owner : String} {footprint footprint' : String → Except Fault Footprint}
  {total : String → ℕ} {frame frame' : Frame} {field : FieldDecl} {fields : List FieldDecl}

/-- Places fields one after the other, with the structs in them measured by `footprint`. -/
def placeAll (owner : String) (footprint : String → Except Fault Footprint)
    (fields : List FieldDecl) (frame : Frame) : Except Fault Frame :=
  fields.foldlM (place owner footprint) frame

@[simp] lemma placeAll_nil : placeAll owner footprint [] frame = .ok frame := rfl

lemma placeAll_cons : placeAll owner footprint (field :: fields) frame =
    (frame.place owner footprint field).bind (placeAll owner footprint fields) := rfl

lemma place_congr (h : ∀ m, field.type.referenced = some m → footprint m = footprint' m) :
    frame.place owner footprint field = frame.place owner footprint' field := by
  rw [place_def, place_def, ShaderType.placement_congr h]

lemma place_error {name : String} {fault : Fault} (hr : field.type.referenced = some name)
    (h : footprint name = .error fault) : frame.place owner footprint field = .error fault := by
  rw [place_def, ShaderType.placement_error hr h]
  rfl

/-- A field whose struct is measured goes to the first suitable offset, if it stays within the
limit there. -/
lemma place_eq (owner : String) (ha : frame.alignment = 16)
    (h : ∀ m, field.type.referenced = some m → footprint m = .ok ⟨total m, 16⟩) :
    frame.place owner footprint field =
      let l := field.layoutFrom total frame.cursor
      if l.Within total then .ok ⟨frame.fields ++ [l], l.offset + l.size, 16⟩
      else .error (.layoutOverflow owner) := by
  have hmax : max 16 (field.type.measure total).alignment = 16 := by
    rcases field.type.alignment_measure total with h | h | h <;> rw [h] <;> decide
  rw [place_def, ShaderType.placement_eq h]
  by_cases hin : ∀ a ∈ field.type.arrays, (a.measure total).size ≤ blockLimit
  · rw [if_pos hin]
    simp only [bind, Except.bind, blockSize_addWord?, ha, hmax]
    by_cases hend : roundUp frame.cursor (field.type.measure total).alignment +
        (field.type.measure total).size ≤ blockLimit
    · rw [if_pos hend, if_pos (show FieldLayout.Within _ _ from ⟨hend, hin⟩)]
      rfl
    · rw [if_neg hend, if_neg fun hw => hend hw.1]
  · rw [if_neg hin, if_neg fun hw => hin hw.2]
    rfl

/-- Fields whose structs are measured can be placed exactly when the places the rules give them
stay within the limit. -/
lemma placeAll_eq_ok_iff (owner : String) (frame frame' : Frame) (ha : frame.alignment = 16)
    (h : ∀ m ∈ references fields, footprint m = .ok ⟨total m, 16⟩) :
    placeAll owner footprint fields frame = .ok frame' ↔
      ∃ ls stop, Places total frame.cursor fields ls stop ∧ (∀ l ∈ ls, l.Within total) ∧
        frame' = ⟨frame.fields ++ ls, stop, 16⟩ := by
  induction fields generalizing frame with
  | nil =>
    constructor
    · rintro ⟨⟩
      exact ⟨[], _, .nil, by simp, by simp [← ha]⟩
    · rintro ⟨ls, stop, ⟨⟩, -, rfl⟩
      simp [← ha]
  | cons f fs ih =>
    obtain ⟨hf, hfs⟩ := forall_references_cons.1 h
    rw [placeAll_cons, place_eq owner ha hf]
    by_cases hw : (f.layoutFrom total frame.cursor).Within total
    · simp only [if_pos hw, Except.bind]
      rw [ih _ rfl hfs]
      constructor
      · rintro ⟨ls, stop, hp, hws, rfl⟩
        refine ⟨_ :: ls, stop, Places.cons_iff.2 ⟨ls, rfl, hp⟩, ?_, by simp⟩
        exact List.forall_mem_cons.2 ⟨hw, hws⟩
      · rintro ⟨ls, stop, hp, hws, rfl⟩
        obtain ⟨rest, rfl, hr⟩ := Places.cons_iff.1 hp
        exact ⟨rest, stop, hr, (List.forall_mem_cons.1 hws).2, by simp⟩
    · simp only [if_neg hw, Except.bind]
      constructor
      · rintro ⟨⟩
      · rintro ⟨ls, stop, hp, hws, -⟩
        obtain ⟨rest, rfl, -⟩ := Places.cons_iff.1 hp
        exact absurd (List.forall_mem_cons.1 hws).1 hw

/-- Fields are placed only after every struct they refer to is measured. -/
lemma footprint_of_placeAll (h : placeAll owner footprint fields frame = .ok frame') :
    ∀ m ∈ references fields, ∃ p, footprint m = .ok p := by
  induction fields generalizing frame with
  | nil =>
    intro m hm
    cases hm
  | cons f fs ih =>
    rw [placeAll_cons] at h
    cases hp : frame.place owner footprint f with
    | error fault =>
      rw [hp] at h
      cases h
    | ok g =>
      rw [hp] at h
      refine forall_references_cons.2 ⟨fun m hr => ?_, ih h⟩
      cases hm : footprint m with
      | ok p => exact ⟨p, rfl⟩
      | error fault =>
        rw [place_error hr hm] at hp
        cases hp

end Frame

namespace StructDecl
variable {footprint : String → Except Fault Footprint} {total : String → ℕ}
  {d : StructDecl} {l : StructLayout}

/-- The layout of a struct, with the structs in it measured by `footprint`. -/
def layOut (d : StructDecl) (footprint : String → Except Fault Footprint) :
    Except Fault StructLayout :=
  (Frame.placeAll d.name footprint d.fields {}).map (Frame.finish d.name)

lemma footprint_of_layOut (h : d.layOut footprint = .ok l) :
    ∀ m ∈ references d.fields, ∃ p, footprint m = .ok p := by
  rw [layOut] at h
  cases hp : Frame.placeAll d.name footprint d.fields {} with
  | error fault =>
    rw [hp] at h
    cases h
  | ok frame => exact Frame.footprint_of_placeAll hp

lemma layOut_eq_ok_iff (h : ∀ m ∈ references d.fields, footprint m = .ok ⟨total m, 16⟩) :
    d.layOut footprint = .ok l ↔ IsBlock total d l ∧ l.Within total := by
  have hp := fun frame' => Frame.placeAll_eq_ok_iff d.name {} frame' rfl h
  constructor
  · intro hl
    rw [layOut] at hl
    cases hf : Frame.placeAll d.name footprint d.fields {} with
    | error fault =>
      rw [hf] at hl
      cases hl
    | ok frame =>
      rw [hf] at hl
      cases hl
      obtain ⟨ls, stop, hpl, hw, rfl⟩ := (hp frame).1 hf
      exact ⟨⟨rfl, ⟨stop, hpl, roundUp_blockAlignment stop⟩, rfl⟩, hw⟩
  · rintro ⟨hb, hw⟩
    obtain ⟨stop, hpl, hs⟩ := hb.placed
    have hf := (hp ⟨l.fields, stop, 16⟩).2 ⟨l.fields, stop, hpl, hw, rfl⟩
    rw [layOut, hf]
    cases l
    simp only at hs
    have hn := hb.name
    have ha := hb.alignment
    simp_all [Except.map, ← roundUp_blockAlignment, blockAlignment]

end StructDecl
end RenderPlan
