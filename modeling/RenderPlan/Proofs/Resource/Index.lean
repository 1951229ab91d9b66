import Mathlib.Data.List.Nodup
import Mathlib.Tactic.Tauto
import RenderPlan.Proofs.Outcome
import RenderPlan.Resource.Graph

/-! Names and positions. Checked names are identifiers and distinct, and then the index of a graph
leads from each name to its declaration and from no other name anywhere. -/
namespace RenderPlan
open Text

@[simp] lemma checkNames_eq_ok_iff {kind : NameKind} {seen names : List String} :
    checkNames kind seen names = .ok () ↔
      (∀ n ∈ names, isIdentifier n) ∧ names.Nodup ∧ ∀ n ∈ names, n ∉ seen := by
  induction names generalizing seen with
  | nil => simp [checkNames]
  | cons name names ih =>
    by_cases hi : isIdentifier name
    · by_cases hs : name ∈ seen
      · simp [checkNames, hi, hs]
      · have hstep : checkNames kind seen (name :: names) = checkNames kind (name :: seen) names := by
          simp [checkNames, hi, hs]
        have hseen : (∀ n ∈ names, n ∉ name :: seen) ↔ name ∉ names ∧ ∀ n ∈ names, n ∉ seen := by
          simp only [List.mem_cons, not_or, forall_and]
          exact and_congr_left fun _ => ⟨fun h hn => h name hn rfl, fun h n hn he => h (he ▸ hn)⟩
        rw [hstep, ih, hseen, List.forall_mem_cons, List.forall_mem_cons, List.nodup_cons]
        tauto
    · simp [checkNames, hi]

/-- Where each key stands once, looking up is membership. -/
lemma lookup_eq_some_iff_mem {l : List (String × ℕ)} (h : (l.map Prod.fst).Nodup) {key : String}
    {value : ℕ} : l.lookup key = some value ↔ (key, value) ∈ l := by
  induction l with
  | nil => simp
  | cons p l ih =>
    obtain ⟨hp, hl⟩ := List.nodup_cons.1 h
    rw [List.lookup_cons, List.mem_cons]
    by_cases hk : key = p.1
    · have hmem : (key, value) ∉ l := fun hm => hp (List.mem_map.2 ⟨_, hm, hk⟩)
      simp [hk, hk ▸ hmem, Prod.ext_iff, eq_comm]
    · have hb : (key == p.1) = false := beq_eq_false_iff_ne.2 hk
      simp [hb, hk, ih hl, Prod.ext_iff]

namespace ResourceGraph
variable {g : ResourceGraph} {d e : ResourceDecl} {name : String} {kind kind' : ResourceKind} {i : ℕ}

/-- A resource of that name and kind is found. -/
def Holds (g : ResourceGraph) (name : String) (kind : ResourceKind) : Prop :=
  ∃ d, g.get? name = some d ∧ d.kind = kind

lemma Holds.unique (h : g.Holds name kind) (h' : g.Holds name kind') : kind = kind' := by
  obtain ⟨d, hd, rfl⟩ := h
  obtain ⟨d', hd', rfl⟩ := h'
  cases hd.symm.trans hd'
  rfl

@[simp] lemma decls_push (g : ResourceGraph) (d : ResourceDecl) :
    (g.push d).decls = g.decls ++ [d] := rfl

@[simp] lemma names_push (g : ResourceGraph) (d : ResourceDecl) :
    (g.push d).names = g.names ++ [d.name] := by
  simp [names]

/-- Distinct names, and an index made of them and their positions. -/
structure Indexed (g : ResourceGraph) : Prop where
  distinct : g.names.Nodup
  index_eq : g.index = g.names.zipIdx.reverse

namespace Indexed

lemma position?_eq_some_iff (h : g.Indexed) : g.position? name = some i ↔ g.names[i]? = some name := by
  have hkeys : (g.names.zipIdx.reverse.map Prod.fst).Nodup := by
    simpa [List.zipIdx_map_fst] using h.distinct
  rw [position?, h.index_eq, lookup_eq_some_iff_mem hkeys, List.mem_reverse,
    List.mem_zipIdx_iff_getElem?]

lemma get?_eq_some_iff (h : g.Indexed) : g.get? name = some d ↔ d ∈ g.decls ∧ d.name = name := by
  simp only [get?, Option.bind_eq_some_iff, h.position?_eq_some_iff, names, List.getElem?_map,
    Option.map_eq_some_iff]
  constructor
  · rintro ⟨i, ⟨e, he, hn⟩, hd⟩
    rw [he] at hd
    cases hd
    exact ⟨List.mem_of_getElem? he, hn⟩
  · rintro ⟨hd, hn⟩
    obtain ⟨i, hi⟩ := List.mem_iff_getElem?.1 hd
    exact ⟨i, ⟨d, hi, hn⟩, hi⟩

lemma holds_iff (h : g.Indexed) : g.Holds name kind ↔ ⟨name, kind⟩ ∈ g.decls := by
  simp only [Holds, h.get?_eq_some_iff]
  constructor
  · rintro ⟨d, ⟨hd, rfl⟩, rfl⟩
    exact hd
  · intro hd
    exact ⟨_, ⟨hd, rfl⟩, rfl⟩

lemma holds_eq (h : g.Indexed) : g.Holds = fun name kind => ⟨name, kind⟩ ∈ g.decls := by
  funext name kind
  exact propext h.holds_iff

/-- The index finds what a search through the declarations finds. -/
lemma find?_decls (h : g.Indexed) (name : String) :
    g.decls.find? (·.name = name) = g.get? name := by
  cases hf : g.decls.find? (·.name = name) with
  | none =>
    rw [List.find?_eq_none] at hf
    rw [eq_comm, Option.eq_none_iff_forall_ne_some]
    intro d hd
    obtain ⟨hmem, hname⟩ := h.get?_eq_some_iff.1 hd
    exact hf d hmem (decide_eq_true hname)
  | some d =>
    have hname : d.name = name := by simpa using List.find?_some hf
    exact (h.get?_eq_some_iff.2 ⟨List.mem_of_find?_eq_some hf, hname⟩).symm

lemma isSome_position?_iff (h : g.Indexed) : (g.position? name).isSome ↔ name ∈ g.names := by
  simp only [Option.isSome_iff_exists, h.position?_eq_some_iff, List.mem_iff_getElem?]

/-- A declaration with a new name takes the next position. -/
lemma push (h : g.Indexed) (hd : d.name ∉ g.names) : (g.push d).Indexed := by
  refine ⟨?_, ?_⟩
  · rw [names_push, ← List.concat_eq_append]
    exact h.distinct.concat hd
  · rw [names_push, List.zipIdx_append, List.reverse_append, ← h.index_eq]
    simp [ResourceGraph.push, names]

end Indexed

end ResourceGraph
end RenderPlan
