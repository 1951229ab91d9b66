import Mathlib.Data.List.Nodup
import Mathlib.Data.List.Perm.Subperm
import Mathlib.Order.Bounds.Basic
import RenderPlan.Proofs.Text.Scanning
import RenderPlan.Resource.Shadow

/-! Names of shadows. A candidate is its texture's name, a word that ends in a letter and a numeral,
so texture and numeral can be told apart again: the candidates of one texture are distinct, and two
textures have none in common. Finitely many taken names leave a free candidate, and the first free
one is chosen. -/
namespace RenderPlan.ShadowTarget
open Text

/-- The numeral at the end of a candidate, empty for the first one. -/
def numeral : ℕ → List Char
  | 0 => []
  | n + 1 => Nat.toDigits 10 (n + 1)

@[simp] lemma toList_candidate (texture : String) (i : ℕ) :
    (candidate texture i).toList = (texture.toList ++ "Targe".toList) ++ 't' :: numeral i := by
  cases i <;> simp [candidate, numeral, decimal]

lemma isDigit_of_mem_numeral {i : ℕ} {c : Char} (h : c ∈ numeral i) : c.isDigit := by
  cases i with
  | zero => cases h
  | succ n => exact Nat.isDigit_of_mem_toDigits (by decide) (by decide) h

@[simp] lemma ofDigitChars_numeral (i : ℕ) : Nat.ofDigitChars 10 (numeral i) 0 = i := by
  cases i with
  | zero => rfl
  | succ n => exact Nat.ofDigitChars_ten_toDigits

/-- Textures never compete for a name. -/
lemma candidate_inj {texture texture' : String} {i j : ℕ}
    (h : candidate texture i = candidate texture' j) : texture = texture' ∧ i = j := by
  have hlist := congrArg String.toList h
  rw [toList_candidate, toList_candidate] at hlist
  obtain ⟨hname, -, hnum⟩ := append_mark_inj (by decide) (by decide) (fun _ => isDigit_of_mem_numeral)
    (fun _ => isDigit_of_mem_numeral) hlist
  refine ⟨String.toList_injective (List.append_cancel_right hname), ?_⟩
  rw [← ofDigitChars_numeral i, hnum, ofDigitChars_numeral]

lemma takenBefore_spec (texture : String) (taken : List String) (limit attempt : ℕ) :
    (∀ i < takenBefore texture taken limit attempt, candidate texture (attempt + i) ∈ taken) ∧
    (takenBefore texture taken limit attempt < limit →
      candidate texture (attempt + takenBefore texture taken limit attempt) ∉ taken) := by
  induction limit generalizing attempt with
  | zero => simp [takenBefore]
  | succ limit ih =>
    obtain ⟨hbefore, hafter⟩ := ih (attempt + 1)
    by_cases hc : candidate texture attempt ∈ taken
    · have hstep : takenBefore texture taken (limit + 1) attempt =
          takenBefore texture taken limit (attempt + 1) + 1 := by simp [takenBefore, hc]
      rw [hstep]
      constructor
      · intro i hi
        cases i with
        | zero => exact hc
        | succ i =>
          have hi' := hbefore i (by omega)
          rwa [Nat.add_right_comm] at hi'
      · intro hlt
        have hfree := hafter (by omega)
        rwa [Nat.add_right_comm] at hfree
    · simp [takenBefore, hc]

/-- The chosen candidate is free, and those before it are taken. -/
lemma isLeast_rejected (texture : String) (taken : List String) :
    IsLeast {i | candidate texture i ∉ taken} (rejected texture taken) := by
  obtain ⟨hbefore, hafter⟩ := takenBefore_spec texture taken taken.length 0
  simp only [Nat.zero_add] at hbefore hafter
  refine ⟨fun hmem => ?_, fun i hi => ?_⟩
  · -- Were it taken too, the list would hold more distinct candidates than it is long.
    have hge : taken.length ≤ rejected texture taken := Nat.le_of_not_lt fun hlt => hafter hlt hmem
    have hall : ∀ i < taken.length + 1, candidate texture i ∈ taken := by
      intro i hi
      rcases Nat.lt_or_ge i (rejected texture taken) with hlt | hle
      · exact hbefore i hlt
      · have hi' : i = rejected texture taken := by omega
        rw [hi']
        exact hmem
    have hsub : (List.range (taken.length + 1)).map (candidate texture) ⊆ taken := by
      intro name hname
      obtain ⟨i, hi, rfl⟩ := List.mem_map.1 hname
      exact hall i (List.mem_range.1 hi)
    have hnodup : ((List.range (taken.length + 1)).map (candidate texture)).Nodup :=
      List.nodup_range.map fun i j hij => (candidate_inj hij).2
    have hlen := (List.subperm_of_subset hnodup hsub).length_le
    rw [List.length_map, List.length_range] at hlen
    omega
  · by_contra hlt
    exact hi (hbefore i (Nat.lt_of_not_le hlt))

lemma candidate_mem_of_lt {texture : String} {taken : List String} {i : ℕ}
    (h : i < rejected texture taken) : candidate texture i ∈ taken := by
  by_contra hfree
  exact Nat.not_le_of_lt h ((isLeast_rejected texture taken).2 hfree)

/-- Only the taken candidates of the texture itself have a say in its shadow's name. -/
lemma named_congr {texture : String} {taken taken' : List String}
    (h : ∀ i, candidate texture i ∈ taken ↔ candidate texture i ∈ taken') :
    named texture taken = named texture taken' := by
  have hset : {i | candidate texture i ∉ taken} = {i | candidate texture i ∉ taken'} := by
    ext i
    simp [h i]
  have hr := isLeast_rejected texture taken
  rw [hset] at hr
  rw [named, named, hr.unique (isLeast_rejected texture taken')]

lemma name_named_not_mem (texture : String) (taken : List String) :
    (named texture taken).name ∉ taken := (isLeast_rejected texture taken).1

end RenderPlan.ShadowTarget
