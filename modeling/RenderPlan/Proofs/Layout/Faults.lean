import RenderPlan.Proofs.Graph.Search
import RenderPlan.Proofs.Layout.Requests
import RenderPlan.Proofs.Outcome

/-! The faults of layout requests tell the truth. A cycle is reported with the way that leads into it,
an unknown struct with a struct that refers to it, and an overflow with a struct that has a field past
the limit. -/
namespace RenderPlan
open RenderPlan.Graph

/-- The field ends past 64 KiB, or one of its arrays is larger. -/
def FieldLayout.Exceeds (total : String → ℕ) (f : FieldLayout) : Prop :=
  65536 < f.offset + f.size ∨ ∃ a ∈ f.type.arrays, 65536 < (a.measure total).size

@[simp] lemma FieldLayout.not_within_iff {total : String → ℕ} {f : FieldLayout} :
    ¬ f.Within total ↔ f.Exceeds total := by
  rw [Within, Exceeds, not_and_or, Nat.not_le]
  refine or_congr_right ?_
  simp only [not_forall, Nat.not_le, exists_prop]

/-- A list of fields has one past the limit, with those before it placed from the start of a block and
the structs up to it of the given sizes. -/
structure OverflowsAt (total : String → ℕ) (fields before : List FieldDecl) (f : FieldDecl) : Prop where
  split : ∃ after, fields = before ++ f :: after
  placed : ∃ ls stop, Places total 0 before ls stop ∧ (f.layoutFrom total stop).Exceeds total

namespace Frame
variable {owner : String} {footprint : String → Except Fault Footprint} {fields : List FieldDecl}
  {frame : Frame} {fault : Fault}

/-- Placing fails at one field, with the ones before it placed. -/
lemma exists_of_placeAll_error (h : placeAll owner footprint fields frame = .error fault) :
    ∃ before f after frame', fields = before ++ f :: after ∧
      placeAll owner footprint before frame = .ok frame' ∧
      frame'.place owner footprint f = .error fault := by
  induction fields generalizing frame with
  | nil => cases h
  | cons f fs ih =>
    rw [placeAll_cons] at h
    cases hp : frame.place owner footprint f with
    | error fault' =>
      rw [hp] at h
      cases h
      exact ⟨[], f, fs, frame, rfl, rfl, hp⟩
    | ok next =>
      rw [hp] at h
      obtain ⟨before, g, after, frame', rfl, hbefore, hg⟩ := ih h
      refine ⟨f :: before, g, after, frame', rfl, ?_, hg⟩
      rw [placeAll_cons, hp]
      exact hbefore

/-- A field passes on the fault of the struct it refers to, or that struct is measured and the field is
past the limit. -/
lemma place_error_cases {field : FieldDecl} {total : String → ℕ} (ha : frame.alignment = 16)
    (hf : ∀ m, field.type.referenced = some m → ∀ p, footprint m = .ok p → p = ⟨total m, 16⟩)
    (h : frame.place owner footprint field = .error fault) :
    (∃ m, field.type.referenced = some m ∧ footprint m = .error fault) ∨
    (fault = .layoutOverflow owner ∧ (field.layoutFrom total frame.cursor).Exceeds total ∧
      ∀ m, field.type.referenced = some m → footprint m = .ok ⟨total m, 16⟩) := by
  by_cases hm : ∃ m, field.type.referenced = some m ∧ ∃ e, footprint m = .error e
  · obtain ⟨m, hr, e, he⟩ := hm
    rw [place_error hr he] at h
    cases h
    exact .inl ⟨m, hr, he⟩
  · have hmeasured : ∀ m, field.type.referenced = some m → footprint m = .ok ⟨total m, 16⟩ := by
      intro m hr
      cases hp : footprint m with
      | error e => exact absurd ⟨m, hr, e, hp⟩ hm
      | ok p => rw [hf m hr p hp]
    rw [place_eq owner ha hmeasured] at h
    by_cases hw : (field.layoutFrom total frame.cursor).Within total
    · simp only [if_pos hw] at h
      cases h
    · simp only [if_neg hw] at h
      cases h
      exact .inr ⟨rfl, FieldLayout.not_within_iff.1 hw, hmeasured⟩

end Frame

namespace StructDecl
variable {d : StructDecl} {footprint : String → Except Fault Footprint} {total : String → ℕ}
  {fault : Fault}

/-- A struct that is not laid out passes on the fault of a struct it refers to, or has a field past the
limit. -/
lemma layOut_error (h : d.layOut footprint = .error fault)
    (hf : ∀ m ∈ references d.fields, ∀ p, footprint m = .ok p → p = ⟨total m, 16⟩) :
    (∃ m ∈ references d.fields, footprint m = .error fault) ∨
    (fault = .layoutOverflow d.name ∧ ∃ before f, OverflowsAt total d.fields before f ∧
      ∀ m ∈ references (before ++ [f]), footprint m = .ok ⟨total m, 16⟩) := by
  obtain ⟨before, f, after, frame, hsplit, hbefore, hplace⟩ :=
    Frame.exists_of_placeAll_error (map_eq_error_iff.1 h)
  have hin : ∀ g ∈ before ++ [f], g ∈ d.fields := by
    intro g hg
    rw [hsplit, ← List.singleton_append, ← List.append_assoc]
    exact List.mem_append_left after hg
  have hf' : f ∈ d.fields := hin f (List.mem_append_right before (List.mem_singleton_self f))
  have hbelow : ∀ m ∈ references before, footprint m = .ok ⟨total m, 16⟩ := by
    intro m hm
    obtain ⟨p, hp⟩ := Frame.footprint_of_placeAll hbefore m hm
    obtain ⟨g, hg, hgm⟩ := mem_references.1 hm
    rw [hp, hf m (mem_references.2 ⟨g, hin g (List.mem_append_left [f] hg), hgm⟩) p hp]
  obtain ⟨ls, stop, hplaces, -, rfl⟩ := (Frame.placeAll_eq_ok_iff d.name {} frame rfl hbelow).1 hbefore
  have hfield := Frame.place_error_cases rfl
    (fun m hr p hp => hf m (mem_references.2 ⟨f, hf', hr⟩) p hp) hplace
  rcases hfield with ⟨m, hr, he⟩ | ⟨rfl, hexceeds, hmeasured⟩
  · exact .inl ⟨m, mem_references.2 ⟨f, hf', hr⟩, he⟩
  · refine .inr ⟨rfl, before, f, ⟨⟨after, hsplit⟩, ls, stop, hplaces, hexceeds⟩, ?_⟩
    intro m hm
    obtain ⟨g, hg, hgm⟩ := mem_references.1 hm
    rcases List.mem_append.1 hg with hg | hg
    · exact hbelow m (mem_references.2 ⟨g, hg, hgm⟩)
    · rw [List.mem_singleton.1 hg] at hgm
      exact hmeasured m hgm

end StructDecl

namespace StructTable
variable {t : StructTable} {stack : List String} {root asker referrer name : String} {fault : Fault}

/-- A field of the struct is past the limit when the structs in it, and in the fields before it, are
laid out by the rules. -/
def Overflows (t : StructTable) (name : String) : Prop :=
  ∃ d before f nested, t.get? name = some d ∧
    (∀ m ∈ references (before ++ [f]), t.HasLayout m (nested m)) ∧
    OverflowsAt (sizes nested) d.fields before f

/-- What a fault says about a request for `name` by `referrer` is so. -/
def Confirms (t : StructTable) (referrer name : String) : Fault → Prop
  | .cyclicStruct n path => path.head? = some name ∧ ClosesAt t.Refers n path
  | .unknownStruct r m => t.get? m = none ∧
    ((m = name ∧ r = referrer) ∨ (t.Reaches name r ∧ t.Refers r m))
  | .layoutOverflow o => t.Reaches name o ∧ t.Overflows o
  | _ => False

/-- Along a search from the requested struct, a fault tells what is so of the request. -/
lemma layoutBelow_error (hu : Underway t.Refers root stack name)
    (hr : (name = root ∧ referrer = asker) ∨ (t.Reaches root referrer ∧ t.Refers referrer name))
    (h : t.layoutBelow stack referrer name = .error fault) : t.Confirms asker root fault := by
  generalize hk : (t.idle stack).length = k
  induction k using Nat.strong_induction_on generalizing stack referrer name fault with
  | _ k ih =>
    by_cases hn : name ∈ stack
    · rw [layoutBelow_of_mem hn] at h
      cases h
      exact ⟨hu.starts, hu.closesAt hn⟩
    cases hd : t.get? name with
    | none =>
      rw [layoutBelow_of_undeclared hn hd] at h
      cases h
      exact ⟨hd, hr⟩
    | some d =>
      have hbelow {m : String} (hm : m ∈ references d.fields) {e : Fault}
          (he : t.layoutBelow (stack ++ [name]) name m = .error e) : t.Confirms asker root e := by
        have hrefers : t.Refers name m := (refers_iff hd).2 hm
        exact ih _ (hk ▸ length_idle_lt hd hn) (hu.step hn hrefers) (.inr ⟨hu.reaches, hrefers⟩) he rfl
      rw [layoutBelow_of_declared hn hd] at h
      let nested (m : String) : StructLayout :=
        (t.layoutBelow (stack ++ [name]) name m).toOption.getD ⟨"", [], 0, 16⟩
      have hlaid {m : String} {p : Footprint}
          (hp : (t.layoutBelow (stack ++ [name]) name m).map StructLayout.footprint = .ok p) :
          t.HasLayout m (nested m) ∧ p = ⟨sizes nested m, 16⟩ := by
        obtain ⟨l, hl, rfl⟩ := map_eq_ok_iff.1 hp
        have hnested : nested m = l := by simp only [nested, hl, Except.toOption, Option.getD_some]
        have hhas := hasLayout_of_layoutBelow hl
        rw [sizes, hnested]
        exact ⟨hhas, hhas.isStd140.footprint_eq⟩
      rcases StructDecl.layOut_error h (fun m _ p hp => (hlaid hp).2) with
        ⟨m, hm, he⟩ | ⟨rfl, before, f, hover, hknown⟩
      · exact hbelow hm (map_eq_error_iff.1 he)
      · rw [name_of_get? hd]
        exact ⟨hu.reaches, d, before, f, nested, hd, fun m hm => (hlaid (hknown m hm)).1, hover⟩

end StructTable

namespace LayoutCache

/-- Whatever was asked before, a request fails only with one of three faults, and what the fault says
of the declared structs is so. -/
theorem layoutFor_fault_confirmed (t : StructTable) (requests : List LayoutRequest)
    (referrer name : String) (fault : Fault)
    (h : (((fresh t).serveAll requests).layoutFor referrer name).1 = .error fault) :
    t.Confirms referrer name fault := by
  have hs := (SoundFor.fresh t).serveAll requests
  rw [(hs.layoutFor referrer name).1] at h
  exact StructTable.layoutBelow_error (.start t.Refers name) (.inl ⟨rfl, rfl⟩) h

/-- A cycle behind an array, a struct that nobody declared, and a heap that is too large. -/
def brokenTable : StructTable where
  decls :=
    [⟨"Tree", [⟨"height", .scalar .float⟩, ⟨"roots", .array (.struct "Twig") ⟨7, by decide⟩⟩]⟩,
      ⟨"Twig", [⟨"tip", .struct "Leaf"⟩]⟩,
      ⟨"Leaf", [⟨"vein", .vector .float .two⟩, ⟨"back", .struct "Twig"⟩]⟩,
      ⟨"House", [⟨"room", .struct "Room"⟩]⟩,
      ⟨"Room", [⟨"lamps", .array (.struct "Lamp") ⟨9, by decide⟩⟩]⟩,
      ⟨"Yard", [⟨"heap", .struct "Heap"⟩, ⟨"room", .struct "Room"⟩]⟩,
      ⟨"Heap", [⟨"floor", .matrix .four .four⟩, ⟨"piles", .array (.scalar .int) ⟨4096, by decide⟩⟩]⟩]
  distinct := by decide

/-- Each fault names the struct it arises at, also after other requests have failed. -/
theorem layoutFor_fault_confirmed_broken :
    let c := (fresh brokenTable).serveAll [.computeAll, .layoutFor "Main" "Yard"]
    ((c.layoutFor "Main" "Tree").1 = .error (.cyclicStruct "Twig" ["Tree", "Twig", "Leaf", "Twig"]) ∧
      brokenTable.Confirms "Main" "Tree" (.cyclicStruct "Twig" ["Tree", "Twig", "Leaf", "Twig"])) ∧
    ((c.layoutFor "Main" "House").1 = .error (.unknownStruct "Room" "Lamp") ∧
      brokenTable.Confirms "Main" "House" (.unknownStruct "Room" "Lamp")) ∧
    ((c.layoutFor "Main" "Yard").1 = .error (.layoutOverflow "Heap") ∧
      brokenTable.Confirms "Main" "Yard" (.layoutOverflow "Heap")) := by
  intro c
  have hcycle : (c.layoutFor "Main" "Tree").1 =
      .error (.cyclicStruct "Twig" ["Tree", "Twig", "Leaf", "Twig"]) := by decide +kernel
  have hunknown : (c.layoutFor "Main" "House").1 = .error (.unknownStruct "Room" "Lamp") := by
    decide +kernel
  have hoverflow : (c.layoutFor "Main" "Yard").1 = .error (.layoutOverflow "Heap") := by
    decide +kernel
  exact ⟨⟨hcycle, layoutFor_fault_confirmed _ _ _ _ _ hcycle⟩,
    ⟨hunknown, layoutFor_fault_confirmed _ _ _ _ _ hunknown⟩,
    ⟨hoverflow, layoutFor_fault_confirmed _ _ _ _ _ hoverflow⟩⟩

end LayoutCache
end RenderPlan
