import Mathlib.Data.List.Chain
import Mathlib.Data.List.Nodup
import Mathlib.Logic.Relation

/-! Depth-first searches with a stack. The stack of a search holds the way from its root to where it
is, each place once. So a search that meets a place of its stack again has walked into a cycle, and
the stack is the evidence. -/
namespace RenderPlan.Graph
open Relation
variable {α β : Type} {r : α → α → Prop} {root a b : α} {stack path : List α}

/-- A path along `r` with distinct entries up to its last step, which leads back to `a`. -/
structure ClosesAt (r : α → α → Prop) (a : α) (path : List α) : Prop where
  chain : path.IsChain r
  distinct : path.dropLast.Nodup
  last : path.getLast? = some a
  back : a ∈ path.dropLast

/-- The entries may be renamed, as long as distinct ones stay distinct. -/
lemma ClosesAt.map {s : β → β → Prop} {f : α → β} (h : ClosesAt r a path)
    (hr : ∀ x y, r x y → s (f x) (f y)) (hf : ∀ x ∈ path, ∀ y ∈ path, f x = f y → x = y) :
    ClosesAt s (f a) (path.map f) where
  chain := (List.isChain_map f).2 (h.chain.imp hr)
  distinct := by
    rw [← List.map_dropLast]
    apply h.distinct.map_on
    intro x hx y hy
    exact hf x (List.dropLast_subset path hx) y (List.dropLast_subset path hy)
  last := by rw [List.getLast?_map, h.last, Option.map_some]
  back := by
    rw [← List.map_dropLast]
    exact List.mem_map_of_mem h.back

/-- A search from `root` that has come to `a`, with the places on its way there on the stack. -/
structure Underway (r : α → α → Prop) (root : α) (stack : List α) (a : α) : Prop where
  chain : (stack ++ [a]).IsChain r
  distinct : stack.Nodup
  starts : (stack ++ [a]).head? = some root

namespace Underway

lemma start (r : α → α → Prop) (a : α) : Underway r a [] a :=
  ⟨List.IsChain.singleton a, List.nodup_nil, rfl⟩

/-- The search goes on from a place that it meets for the first time. -/
lemma step (h : Underway r root stack a) (ha : a ∉ stack) (hab : r a b) :
    Underway r root (stack ++ [a]) b where
  chain := by
    rw [List.append_assoc]
    exact List.isChain_append_cons_cons.2 ⟨h.chain, hab, List.IsChain.singleton b⟩
  distinct := by
    rw [← List.concat_eq_append]
    exact h.distinct.concat ha
  starts := by rw [List.head?_append, h.starts, Option.some_or]

lemma reaches (h : Underway r root stack a) : ReflTransGen r root a := by
  have hlast : ∀ x ∈ stack ++ [a], ReflTransGen r x a := by
    have hc : (stack ++ [a]).IsChain (ReflTransGen r) := h.chain.imp fun _ _ => .single
    intro x hx
    rcases List.mem_append.1 hx with hx | hx
    · exact (List.pairwise_append.1 hc.pairwise).2.2 x hx a (List.mem_singleton_self a)
    · rw [List.mem_singleton.1 hx]
  exact hlast root (List.mem_of_mem_head? h.starts)

/-- A place of the stack that is met again closes the way. -/
lemma closesAt (h : Underway r root stack a) (ha : a ∈ stack) : ClosesAt r a (stack ++ [a]) where
  chain := h.chain
  distinct := by rw [List.dropLast_concat]; exact h.distinct
  last := List.getLast?_concat
  back := by rw [List.dropLast_concat]; exact ha

end Underway
end RenderPlan.Graph
