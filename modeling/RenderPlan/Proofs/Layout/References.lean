import Mathlib.Data.List.Chain
import Mathlib.Logic.Relation
import RenderPlan.Layout.Resolution

/-! The graph of struct references, and values that are derived along it. A value of a struct may
depend on the values of the structs its fields refer to, so it exists only where no path ends at an
undeclared name or runs into a cycle. -/
namespace RenderPlan
open Relation

/-- The structs that fields refer to, looking through arrays. -/
def references (fields : List FieldDecl) : List String := fields.filterMap (·.type.referenced)

@[simp] lemma mem_references {fields : List FieldDecl} {name : String} :
    name ∈ references fields ↔ ∃ f ∈ fields, f.type.referenced = some name := by
  simp [references]

lemma forall_references_cons {f : FieldDecl} {fs : List FieldDecl} {p : String → Prop} :
    (∀ m ∈ references (f :: fs), p m) ↔
      (∀ m, f.type.referenced = some m → p m) ∧ ∀ m ∈ references fs, p m := by
  constructor
  · intro h
    refine ⟨fun m hm => h m (mem_references.2 ⟨f, List.mem_cons_self, hm⟩), fun m hm => ?_⟩
    obtain ⟨g, hg, hr⟩ := mem_references.1 hm
    exact h m (mem_references.2 ⟨g, List.mem_cons_of_mem f hg, hr⟩)
  · rintro ⟨hf, hfs⟩ m hm
    obtain ⟨g, hg, hr⟩ := mem_references.1 hm
    rcases List.mem_cons.1 hg with rfl | hg
    · exact hf m hr
    · exact hfs m (mem_references.2 ⟨g, hg, hr⟩)

namespace StructTable
variable {t : StructTable} {stack : List String} {root owner name : String} {d : StructDecl}

/-- A field of `owner` refers to `name`. -/
def Refers (t : StructTable) (owner name : String) : Prop :=
  ∃ d, t.get? owner = some d ∧ name ∈ references d.fields

def Reaches (t : StructTable) : String → String → Prop := ReflTransGen t.Refers

/-- Following references from `name`, one comes to an end. -/
def Founded (t : StructTable) (name : String) : Prop := Acc (fun a b => t.Refers b a) name

/-- The structs on the stack lead to `name`, each referring to the next. -/
def Trail (t : StructTable) (stack : List String) (name : String) : Prop :=
  (stack ++ [name]).IsChain t.Refers

lemma refers_iff (hd : t.get? owner = some d) : t.Refers owner name ↔ name ∈ references d.fields := by
  constructor
  · rintro ⟨e, he, hn⟩
    rw [hd] at he
    cases he
    exact hn
  · intro hn
    exact ⟨d, hd, hn⟩

@[simp] lemma trail_nil (name : String) : t.Trail [] name := List.IsChain.singleton name

lemma Trail.snoc (h : t.Trail stack owner) (hr : t.Refers owner name) :
    t.Trail (stack ++ [owner]) name := by
  rw [Trail, List.isChain_append]
  refine ⟨h, List.IsChain.singleton name, ?_⟩
  intro x hx y hy
  simp only [List.getLast?_append, List.getLast?_singleton, Option.some_or, Option.mem_def,
    Option.some.injEq, List.head?_singleton] at hx hy
  subst hx hy
  exact hr

lemma Trail.transGen (h : t.Trail stack name) {s : String} (hs : s ∈ stack) :
    TransGen t.Refers s name := by
  have hc : (stack ++ [name]).IsChain (TransGen t.Refers) := h.imp fun _ _ => TransGen.single
  exact (List.pairwise_append.1 hc.pairwise).2.2 s hs name (by simp)

lemma Founded.not_cyclic (h : t.Founded name) : ¬ TransGen t.Refers name name := by
  induction h with
  | intro a _ ih =>
    intro hc
    obtain ⟨b, hab, hba⟩ := TransGen.head'_iff.1 hc
    exact ih b hab (TransGen.tail' hba hab)

/-- Without a cycle in reach every path ends, since a trail holds each declared struct at most
once. -/
lemma founded_of_acyclic (h : ∀ m, t.Reaches root m → ¬ TransGen t.Refers m m) :
    t.Founded root := by
  have main : ∀ k stack m, (t.idle stack).length = k → t.Trail stack m → t.Reaches root m →
      t.Founded m := by
    intro k
    induction k using Nat.strong_induction_on with
    | _ k ih =>
      intro stack m hk ht hm
      refine Acc.intro m fun n hn => ?_
      obtain ⟨d, hd, -⟩ := id hn
      have hmem : m ∉ stack := fun hs => h m hm (ht.transGen hs)
      exact ih _ (hk ▸ length_idle_lt hd hmem) _ n rfl (ht.snoc hn) (hm.tail hn)
  exact main _ [] root rfl (trail_nil root) ReflTransGen.refl

/-- `a` is a value of the struct `name` that `rule` allows, given values of the structs it refers
to. -/
inductive Derives {α : Type} (t : StructTable) (rule : (String → α) → StructDecl → α → Prop) :
    String → α → Prop
  | intro {name : String} {d : StructDecl} {nested : String → α} {a : α}
    (declared : t.get? name = some d)
    (below : ∀ m ∈ references d.fields, Derives t rule m (nested m))
    (allowed : rule nested d a) : Derives t rule name a

namespace Derives
variable {α : Type} {rule rule' : (String → α) → StructDecl → α → Prop} {a b : α}

lemma founded (h : t.Derives rule name a) : t.Founded name := by
  induction h with
  | intro declared _ _ ih =>
    exact Acc.intro _ fun m hm => ih m ((refers_iff declared).1 hm)

lemma of_reaches (h : t.Derives rule root a) (hr : t.Reaches root name) :
    ∃ b, t.Derives rule name b := by
  induction hr with
  | refl => exact ⟨a, h⟩
  | tail _ hs ih =>
    obtain ⟨b, hb⟩ := ih
    cases hb with
    | intro declared below _ => exact ⟨_, below _ ((refers_iff declared).1 hs)⟩

lemma mono (h : t.Derives rule name a) (hr : ∀ n d a, rule n d a → rule' n d a) :
    t.Derives rule' name a := by
  induction h with
  | intro declared _ allowed ih => exact intro declared ih (hr _ _ _ allowed)

/-- A rule that leaves no choice, and asks only for the structs referred to, gives one value. -/
lemma unique (hr : ∀ n n' d a b, (∀ m ∈ references d.fields, n m = n' m) → rule n d a → rule n' d b → a = b)
    (ha : t.Derives rule name a) (hb : t.Derives rule name b) : a = b := by
  induction ha generalizing b with
  | intro declared _ allowed ih =>
    cases hb with
    | intro declared' below' allowed' =>
      rw [declared] at declared'
      cases declared'
      exact hr _ _ _ _ _ (fun m hm => ih m hm (below' m hm)) allowed allowed'

end Derives
end StructTable
end RenderPlan
