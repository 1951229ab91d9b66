import Mathlib.Data.List.Forall2
import Mathlib.Data.List.Nodup
import RenderPlan.Format.Data
import RenderPlan.Format.JsonDocument

/-! Abridged JSON. A value is abridged by leaving out members of its objects, at any depth, whose
values are the defaults of their keys. A reader that knows the defaults reads the same from every
abridgement. This is shown here for the readers of documents, from texts and numbers up to records and
cases. -/
namespace RenderPlan.Format.Json
open Document Text Number

mutual

/-- The second value is the first without some of the members that have the default of their key. -/
inductive Abridges (default? : String → Option Json) : Json → Json → Prop
  | null : Abridges default? .null .null
  | bool (b : Bool) : Abridges default? (.bool b) (.bool b)
  | number (n : JsonNumber) : Abridges default? (.number n) (.number n)
  | string (s : String) : Abridges default? (.string s) (.string s)
  | unpaired : Abridges default? .unpaired .unpaired
  | array {items items' : List Json} (h : List.Forall₂ (Abridges default?) items items') :
    Abridges default? (.array items) (.array items')
  | object {members members' : List (String × Json)} (h : AbridgesMembers default? members members') :
    Abridges default? (.object members) (.object members')

inductive AbridgesMembers (default? : String → Option Json) :
    List (String × Json) → List (String × Json) → Prop
  | nil : AbridgesMembers default? [] []
  | keep {key : String} {v v' : Json} {rest rest' : List (String × Json)}
    (h : Abridges default? v v') (hrest : AbridgesMembers default? rest rest') :
    AbridgesMembers default? ((key, v) :: rest) ((key, v') :: rest')
  | leaveOut {key : String} {v : Json} {rest rest' : List (String × Json)}
    (h : default? key = some v) (hrest : AbridgesMembers default? rest rest') :
    AbridgesMembers default? ((key, v) :: rest) rest'

end

/-- What is found under a key of an abridged object: the value, itself abridged, or nothing if it is
the default. -/
inductive Found (default? : String → Option Json) (key : String) (v : Json) : Option Json → Prop
  | kept {v' : Json} (h : Abridges default? v v') : Found default? key v (some v')
  | leftOut (h : default? key = some v) : Found default? key v none

/-- Every abridgement of a value is read as `a`. -/
def Reads {α : Type} (default? : String → Option Json) (read : Json → Option α) (full : Json)
    (a : α) : Prop :=
  ∀ short, Abridges default? full short → read short = some a

variable {default? : String → Option Json} {float : Binary32 → Json} {α : Type}

mutual

/-- Leaving out nothing is an abridgement. -/
theorem Abridges.refl : ∀ j : Json, Abridges default? j j
  | .null => .null
  | .bool b => .bool b
  | .number n => .number n
  | .string s => .string s
  | .unpaired => .unpaired
  | .array items => .array (forall₂_abridges_refl items)
  | .object members => .object (AbridgesMembers.refl members)

theorem forall₂_abridges_refl : ∀ items : List Json, List.Forall₂ (Abridges default?) items items
  | [] => .nil
  | j :: items => .cons (Abridges.refl j) (forall₂_abridges_refl items)

theorem AbridgesMembers.refl : ∀ members : List (String × Json),
    AbridgesMembers default? members members
  | [] => .nil
  | (_, v) :: rest => .keep (Abridges.refl v) (AbridgesMembers.refl rest)

end

lemma Reads.read_full {read : Json → Option α} {full : Json} {a : α}
    (h : Reads default? read full a) : read full = some a :=
  h full (Abridges.refl full)

/-! Members -/

lemma AbridgesMembers.keys_sublist {members members' : List (String × Json)}
    (h : AbridgesMembers default? members members') :
    (members'.map Prod.fst).Sublist (members.map Prod.fst) := by
  induction members generalizing members' with
  | nil =>
    cases h
    exact List.Sublist.refl _
  | cons m rest ih =>
    cases h with
    | keep _ hrest => exact (ih hrest).cons_cons _
    | leaveOut _ hrest => exact (ih hrest).cons _

lemma lookup_eq_none_of_not_mem {key : String} {members : List (String × Json)}
    (h : key ∉ members.map Prod.fst) : members.lookup key = none := by
  rw [List.lookup_eq_none_iff]
  intro m hm
  rw [bne_iff_ne]
  rintro rfl
  exact h (List.mem_map_of_mem hm)

/-- Keys are found where the full object has them, as long as it repeats none. -/
lemma AbridgesMembers.found {members members' : List (String × Json)}
    (h : AbridgesMembers default? members members') (hkeys : (members.map Prod.fst).Nodup) :
    ∀ m ∈ members, Found default? m.1 m.2 (members'.lookup m.1) := by
  induction members generalizing members' with
  | nil => simp
  | cons m rest ih =>
    obtain ⟨hfresh, hrestKeys⟩ := List.nodup_cons.1 hkeys
    cases h with
    | @keep key v v' _ rest' hv hrest =>
      rw [List.forall_mem_cons]
      refine ⟨?_, fun p hp => ?_⟩
      · rw [List.lookup_cons_self]
        exact .kept hv
      · -- the search for the key of another member goes on past the head
        have hne : p.1 ≠ key := by
          rintro rfl
          exact hfresh (List.mem_map.2 ⟨p, hp, rfl⟩)
        rw [List.lookup_cons, beq_eq_false_iff_ne.2 hne]
        exact ih hrest hrestKeys p hp
    | @leaveOut key v _ rest' hv hrest =>
      rw [List.forall_mem_cons]
      refine ⟨?_, ih hrest hrestKeys⟩
      have hnone : key ∉ members'.map Prod.fst := fun hmem =>
        hfresh (hrest.keys_sublist.subset hmem)
      rw [lookup_eq_none_of_not_mem hnone]
      exact .leftOut hv

lemma fieldsOfMembers_of_nodup {members : List (String × Json)}
    (h : (members.map Prod.fst).Nodup) (names : List String) :
    fieldsOfMembers names members = some (names.map fun name => members.lookup name) := by
  have hcount : ∀ name, members.countP (fun m => m.1 == name) ≤ 1 := by
    intro name
    have hle := List.nodup_iff_count_le_one.1 h name
    rwa [List.count, List.countP_map] at hle
  rw [fieldsOfMembers, if_neg]
  simp only [List.any_eq_true, decide_eq_true_eq, not_exists, not_and]
  exact fun name _ => Nat.not_lt.2 (hcount name)

@[simp] lemma fieldsToJson_eq_map (fields : List (String × Data)) :
    Data.fieldsToJson float fields = fields.map fun f => (f.1, f.2.toJson float) := by
  induction fields with
  | nil => rfl
  | cons f rest ih => rw [Data.fieldsToJson, ih, List.map_cons]

@[simp] lemma itemsToJson_eq_map (items : List Data) :
    Data.itemsToJson float items = items.map (Data.toJson float) := by
  induction items with
  | nil => rfl
  | cons d rest ih => rw [Data.itemsToJson, ih, List.map_cons]

section
variable {fields : List (String × Data)} {short : Json}

lemma Abridges.exists_fields (h : Abridges default? (.object (Data.fieldsToJson float fields)) short)
    (names : List String) (hnames : fields.map Prod.fst = names) (hnodup : names.Nodup) :
    ∃ found : String → Option Json, short.fields? names = some (names.map found) ∧
      fields.Forall fun f => Found default? f.1 (f.2.toJson float) (found f.1) := by
  cases h with
  | @object _ members' h =>
    rw [fieldsToJson_eq_map] at h
    have hkeys : (fields.map fun f => (f.1, f.2.toJson float)).map Prod.fst = names := by
      rw [← hnames, List.map_map]
      rfl
    refine ⟨fun name => members'.lookup name, ?_, List.forall_iff_forall_mem.2 fun f hf => ?_⟩
    · exact fieldsOfMembers_of_nodup (h.keys_sublist.nodup (hkeys ▸ hnodup)) names
    · exact h.found (hkeys ▸ hnodup) _ (List.mem_map_of_mem hf)

/-- The fields of an abridged record by their names. -/
lemma Abridges.record (h : Abridges default? ((Data.record fields).toJson float) short)
    (names : List String) (hnames : fields.map Prod.fst = names) (hnodup : names.Nodup) :
    ∃ found : String → Option Json,
      (∀ typeName, record? typeName names short = some (names.map found)) ∧
      fields.Forall fun f => Found default? f.1 (f.2.toJson float) (found f.1) := by
  obtain ⟨found, hfields, hfound⟩ := Abridges.exists_fields h names hnames hnodup
  exact ⟨found, fun _ => hfields, hfound⟩

/-- The parameter of an abridged case. Its label is the only key, and no field has that name. -/
lemma Abridges.only_member {label : String} {v : Json}
    (h : Abridges default? (.object [(label, v)]) short) (hlabel : default? label = none) :
    ∃ v', short = .object [(label, v')] ∧ Abridges default? v v' := by
  cases h with
  | object h =>
    cases h with
    | @keep _ _ v' _ _ hv hrest =>
      cases hrest
      exact ⟨v', rfl, hv⟩
    | leaveOut hv => simp [hlabel] at hv

lemma Abridges.valueCase {label : String} {value : Data}
    (h : Abridges default? ((Data.valueCase label value).toJson float) short)
    (hlabel : default? label = none) :
    ∃ v', valueCase? short = some (label, v') ∧ Abridges default? (value.toJson float) v' := by
  obtain ⟨v', rfl, hv⟩ := Abridges.only_member h hlabel
  exact ⟨v', rfl, hv⟩

lemma Abridges.recordCase {label : String}
    (h : Abridges default? ((Data.recordCase label fields).toJson float) short)
    (hlabel : default? label = none) : recordCase? short = some label := by
  obtain ⟨v', rfl, -⟩ := Abridges.only_member h hlabel
  rfl

/-- The parameters of an abridged case by their names. -/
lemma Abridges.parameters {label : String}
    (h : Abridges default? ((Data.recordCase label fields).toJson float) short)
    (hlabel : default? label = none) (names : List String) (hnames : fields.map Prod.fst = names)
    (hnodup : names.Nodup) :
    ∃ found : String → Option Json, parameters? names short = some (names.map found) ∧
      fields.Forall fun f => Found default? f.1 (f.2.toJson float) (found f.1) := by
  obtain ⟨v', rfl, hv⟩ := Abridges.only_member h hlabel
  exact Abridges.exists_fields hv names hnames hnodup

end

/-! Fields -/

section
variable {key : String} {v : Json} {slot : Option Json} {read : Json → Option α} {a : α}

/-- A field that has to be there is there, because no value that it can have is the default of its
key. -/
lemma Found.required (h : Found default? key v slot) (hread : Reads default? read v a)
    (hnone : (default? key).bind read = none) : required read slot = some a := by
  cases h with
  | kept hv => exact hread _ hv
  | leftOut hv =>
    rw [hv, Option.bind_some, hread.read_full] at hnone
    contradiction

/-- A field that was left out is read as the default, which is what its full value is read as. -/
lemma Found.withDefault (h : Found default? key v slot) (default : α)
    (hread : Reads default? read v a) (hdefault : (default? key).bind read = some default) :
    withDefault default read slot = some a := by
  cases h with
  | kept hv => exact hread _ hv
  | leftOut hv =>
    rw [hv, Option.bind_some] at hdefault
    exact hdefault.symm.trans hread.read_full

end

/-! Values -/

/-- A vocabulary in which every word names the value it is written for. -/
class LawfulLabelled (α : Type) [Labelled α] : Prop where
  ofLabel?_label : ∀ a : α, Labelled.ofLabel? (Labelled.label a) = some a

lemma reads_text (s : String) : Reads default? text? ((Data.text s).toJson float) s := by
  intro short h
  cases h
  rfl

lemma natBelow?_nat {bound n : ℕ} (h : n < bound) : natBelow? bound (nat n) = some n := by
  change (if 0 ≤ (n : Int) ∧ (n : Int) < bound then some (n : Int).toNat else none) = some n
  rw [if_pos ⟨Int.natCast_nonneg n, Int.ofNat_lt.2 h⟩, Int.toNat_natCast]

lemma reads_word32 (n : UInt32) : Reads default? word32? ((Data.word32 n).toJson float) n := by
  intro short h
  cases h
  change (natBelow? UInt32.size (nat n.toNat)).map UInt32.ofNat = some n
  rw [natBelow?_nat n.toNat_lt_size, Option.map_some, UInt32.ofNat_toNat]

lemma reads_label [Labelled α] [LawfulLabelled α] (a : α) :
    Reads default? label? ((Data.label a).toJson float) a := by
  intro short h
  cases h
  exact LawfulLabelled.ofLabel?_label a

lemma reads_listOf {read : Json → Option α} {encode : α → Data} {items : List α}
    (h : ∀ a ∈ items, Reads default? read ((encode a).toJson float) a) :
    Reads default? (listOf? read) ((Data.listOf encode items).toJson float) items := by
  intro short hshort
  rw [Data.listOf, Data.toJson, itemsToJson_eq_map, List.map_map] at hshort
  cases hshort with
  | @array _ shorts hitems =>
    have hread : shorts.mapM read = some items := by
      induction items generalizing shorts with
      | nil =>
        cases hitems
        rfl
      | cons a rest ih =>
        obtain ⟨ha, hrest⟩ := List.forall_mem_cons.1 h
        cases hitems with
        | cons hhead htail =>
          rw [List.mapM_cons, ha _ hhead, ih hrest htail]
          rfl
    exact hread

lemma Abridges.ne_null {full short : Json} (h : Abridges default? full short) (hne : full ≠ .null) :
    short ≠ .null := by
  rintro rfl
  cases h
  exact hne rfl

lemma optional?_of_ne_null {j : Json} (h : j ≠ .null) : optional? j = some (some j) := by
  cases j with
  | null => contradiction
  | _ => rfl

/-- An optional value, whose written form has to differ from that of an absent one. -/
lemma reads_optional {read : Json → Option α} {encode : α → Data} {value : Option α}
    (h : ∀ a ∈ value, Reads default? read ((encode a).toJson float) a ∧
      (encode a).toJson float ≠ .null) :
    Reads default? (optionalOf? read) ((Data.optional encode value).toJson float) value := by
  intro short hshort
  cases value with
  | none =>
    cases hshort
    rfl
  | some a =>
    obtain ⟨hread, hne⟩ := h a rfl
    rw [Data.optional, Data.toJson] at hshort
    have hpresent := optional?_of_ne_null (hshort.ne_null hne)
    simp [optionalOf?, hpresent, hread short hshort]

end RenderPlan.Format.Json
