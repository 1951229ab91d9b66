import Mathlib.Data.Fintype.Card
import Mathlib.Data.Set.Finite.Basic
import RenderPlan.Proofs.Pipeline.Copies

/-! Expansions seen from the whole tree of copies. Passes are merged again and again on the way up
the tree, and the outcome is the one of a single merge of all the passes in it: each name once, where
it first stands, with the pass that stands last. -/
namespace RenderPlan
open Relation

section Merging
variable {pass pass' : RenderPass} {xs ys : List RenderPass}

/-- One pass for each name of `flat`, in the order in which the names first appear. Each is the last
pass of its name. -/
structure KeepsLatest (flat passes : List RenderPass) : Prop where
  names : passes.map RenderPass.name = (flat.map RenderPass.name).eraseDups
  latest : ∀ pass ∈ passes, flat.reverse.find? (·.name = pass.name) = some pass

@[simp] lemma mergePass_cons_of_eq {x : RenderPass} (h : x.name = pass.name) :
    mergePass (x :: xs) pass = pass :: xs :=
  if_pos h

@[simp] lemma mergePass_cons_of_ne {x : RenderPass} (h : x.name ≠ pass.name) :
    mergePass (x :: xs) pass = x :: mergePass xs pass :=
  if_neg h

@[simp] lemma map_name_mergePass (xs : List RenderPass) (pass : RenderPass) :
    (mergePass xs pass).map RenderPass.name =
      if pass.name ∈ xs.map RenderPass.name then xs.map RenderPass.name
      else xs.map RenderPass.name ++ [pass.name] := by
  induction xs with
  | nil => rfl
  | cons x xs ih =>
    by_cases hx : x.name = pass.name
    · simp [hx]
    · rw [mergePass_cons_of_ne hx, List.map_cons, ih]
      by_cases hmem : pass.name ∈ xs.map RenderPass.name
      · simp only [List.map_cons, List.mem_cons, hmem, or_true, if_true]
      · simp only [List.map_cons, List.mem_cons, hmem, Ne.symm hx, or_self, if_false,
          List.cons_append]

lemma nodup_mergePass (h : (xs.map RenderPass.name).Nodup) (pass : RenderPass) :
    ((mergePass xs pass).map RenderPass.name).Nodup := by
  rw [map_name_mergePass]
  split
  · exact h
  · next hmem =>
    rw [← List.concat_eq_append]
    exact h.concat hmem

lemma mem_mergePass (h : (xs.map RenderPass.name).Nodup) (hp : pass' ∈ mergePass xs pass) :
    pass' = pass ∨ pass' ∈ xs ∧ pass'.name ≠ pass.name := by
  induction xs with
  | nil => exact .inl (List.mem_singleton.1 hp)
  | cons x xs ih =>
    obtain ⟨hx, hxs⟩ := List.nodup_cons.1 h
    by_cases hname : x.name = pass.name
    · rw [mergePass_cons_of_eq hname] at hp
      rcases List.mem_cons.1 hp with rfl | hp
      · exact .inl rfl
      · refine .inr ⟨List.mem_cons_of_mem x hp, fun he => hx ?_⟩
        exact List.mem_map.2 ⟨pass', hp, he.trans hname.symm⟩
    · rw [mergePass_cons_of_ne hname] at hp
      rcases List.mem_cons.1 hp with rfl | hp
      · exact .inr ⟨List.mem_cons_self, hname⟩
      · rcases ih hxs hp with rfl | ⟨hp, hne⟩
        · exact .inl rfl
        · exact .inr ⟨List.mem_cons_of_mem x hp, hne⟩

/-- Of two passes of a name the later one counts. -/
lemma mergePass_mergePass_of_eq (h : pass.name = pass'.name) (xs : List RenderPass) :
    mergePass (mergePass xs pass) pass' = mergePass xs pass' := by
  induction xs with
  | nil => simp [mergePass, h]
  | cons x xs ih =>
    by_cases hx : x.name = pass.name
    · simp [hx, h]
    · have hx' : x.name ≠ pass'.name := fun he => hx (he.trans h.symm)
      simp [hx, hx', ih]

/-- A pass that only replaces another can be merged earlier. -/
lemma mergePass_comm (h : pass.name ≠ pass'.name) (hmem : pass'.name ∈ xs.map RenderPass.name) :
    mergePass (mergePass xs pass) pass' = mergePass (mergePass xs pass') pass := by
  induction xs with
  | nil => cases hmem
  | cons x xs ih =>
    by_cases hx' : x.name = pass'.name
    · simp [hx', h.symm]
    · have hmem' : pass'.name ∈ xs.map RenderPass.name :=
        (List.mem_cons.1 hmem).resolve_left (Ne.symm hx')
      by_cases hx : x.name = pass.name
      · simp [hx, h]
      · simp [hx, hx', ih hmem']

lemma mergePass_foldl_comm (h : ∀ y ∈ ys, y.name ≠ pass.name)
    (hmem : pass.name ∈ xs.map RenderPass.name) :
    mergePass (ys.foldl mergePass xs) pass = ys.foldl mergePass (mergePass xs pass) := by
  induction ys generalizing xs with
  | nil => rfl
  | cons y ys ih =>
    obtain ⟨hy, hys⟩ := List.forall_mem_cons.1 h
    have hmem' : pass.name ∈ (mergePass xs y).map RenderPass.name := by
      rw [map_name_mergePass]
      split
      · exact hmem
      · exact List.mem_append_left _ hmem
    rw [List.foldl_cons, List.foldl_cons, ih hys hmem', mergePass_comm hy hmem]

/-- Merging a list in which a pass was merged is merging the pass last. -/
lemma foldl_mergePass (h : (ys.map RenderPass.name).Nodup) (xs : List RenderPass)
    (pass : RenderPass) :
    (mergePass ys pass).foldl mergePass xs = mergePass (ys.foldl mergePass xs) pass := by
  induction ys generalizing xs with
  | nil => rfl
  | cons y ys ih =>
    obtain ⟨hy, hys⟩ := List.nodup_cons.1 h
    by_cases hname : y.name = pass.name
    · have hne : ∀ z ∈ ys, z.name ≠ pass.name := fun z hz he =>
        hy (List.mem_map.2 ⟨z, hz, he.trans hname.symm⟩)
      have hmem : pass.name ∈ (mergePass xs y).map RenderPass.name := by
        rw [map_name_mergePass, hname]
        split
        · assumption
        · simp
      -- what follows `y` has other names, so the pass can as well be merged before it
      rw [mergePass_cons_of_eq hname, List.foldl_cons, List.foldl_cons,
        mergePass_foldl_comm hne hmem, mergePass_mergePass_of_eq hname]
    · rw [mergePass_cons_of_ne hname, List.foldl_cons, List.foldl_cons, ih hys]

lemma nodup_merged (ys : List RenderPass) :
    ((ys.foldl mergePass []).map RenderPass.name).Nodup := by
  induction ys using List.reverseRecOn with
  | nil => exact List.nodup_nil
  | append_singleton ys y ih =>
    rw [List.foldl_concat]
    exact nodup_mergePass ih y

/-- Merged or not, a list adds the same. -/
@[simp] lemma foldl_merged (xs ys : List RenderPass) :
    (ys.foldl mergePass []).foldl mergePass xs = ys.foldl mergePass xs := by
  induction ys using List.reverseRecOn with
  | nil => rfl
  | append_singleton ys y ih =>
    rw [List.foldl_concat, List.foldl_concat, foldl_mergePass (nodup_merged ys), ih]

lemma foldl_flatMap_merged {α : Type} (below : α → List RenderPass) (targets : List α)
    (xs : List RenderPass) :
    (targets.flatMap fun c => (below c).foldl mergePass []).foldl mergePass xs =
      (targets.flatMap below).foldl mergePass xs := by
  induction targets generalizing xs with
  | nil => rfl
  | cons c targets ih =>
    rw [List.flatMap_cons, List.flatMap_cons, List.foldl_append, List.foldl_append, foldl_merged, ih]

lemma eraseDups_concat (l : List String) (a : String) :
    (l ++ [a]).eraseDups = if a ∈ l then l.eraseDups else l.eraseDups ++ [a] := by
  rw [List.eraseDups_append]
  by_cases h : a ∈ l
  · simp [h, List.removeAll]
  · simp [h, List.removeAll, List.eraseDups_cons]

lemma keepsLatest_foldl (flat : List RenderPass) : KeepsLatest flat (flat.foldl mergePass []) := by
  induction flat using List.reverseRecOn with
  | nil => exact ⟨rfl, by simp⟩
  | append_singleton flat pass ih =>
    rw [List.foldl_concat]
    refine ⟨?_, fun pass' hp => ?_⟩
    · rw [map_name_mergePass, ih.names, List.map_append, List.map_singleton, eraseDups_concat]
      simp only [List.mem_eraseDups]
    · rw [List.reverse_concat, List.find?_cons]
      rcases mem_mergePass (nodup_merged flat) hp with rfl | ⟨hp, hne⟩
      · simp
      · simp [hne.symm, ih.latest pass' hp]

end Merging

namespace Pipeline
variable {pipelines : List Pipeline} {p : Pipeline} {passes flat flat' : List RenderPass}
  {name : String}

/-- `flat` are the passes of the pipeline behind those of the pipelines it copies, which in turn
stand behind what they copy. Nothing is merged. -/
inductive Flattens (pipelines : List Pipeline) : String → List RenderPass → Prop
  | intro {p : Pipeline} {below : String → List RenderPass} (declared : p ∈ pipelines)
    (copied : ∀ c ∈ p.copies, Flattens pipelines c (below c)) :
    Flattens pipelines p.name (p.copies.flatMap below ++ p.passes)

lemma Flattens.unique (hn : (pipelines.map Pipeline.name).Nodup) (h : Flattens pipelines name flat)
    (h' : Flattens pipelines name flat') : flat = flat' := by
  induction h generalizing flat' with
  | @intro p below declared copied ih =>
    generalize hname : p.name = n at h'
    cases h' with
    | @intro q below' declared' copied' =>
      cases eq_of_name_eq hn declared declared' hname
      rw [List.flatMap_congr fun c hc => ih c hc (copied' c hc)]

/-- An expanded pipeline runs the merge of all that is copied on the way. -/
lemma Expands.exists_flattens (h : Expands pipelines p passes) (hp : p ∈ pipelines) :
    ∃ flat, Flattens pipelines p.name flat ∧ passes = flat.foldl mergePass [] := by
  induction h with
  | @intro p target copied declared below distinct ih =>
    have hflat : ∀ c ∈ p.copies, ∃ flat, Flattens pipelines c flat ∧
        copied c = flat.foldl mergePass [] := by
      intro c hc
      obtain ⟨hmem, hname⟩ := declared c hc
      obtain ⟨flat, hf, hmerge⟩ := ih c hc hmem
      exact ⟨flat, hname ▸ hf, hmerge⟩
    choose! flat hf hmerge using hflat
    refine ⟨p.copies.flatMap flat ++ p.passes, .intro hp hf, ?_⟩
    rw [List.foldl_append, List.flatMap_congr hmerge, foldl_flatMap_merged]

/-- Without a cycle among finitely many pipelines, every path of copies ends. -/
lemma wellFounded_copies (h : ∀ p ∈ pipelines, ¬ TransGen (Copies pipelines) p p) :
    WellFounded fun q p : {p // p ∈ pipelines} => Copies pipelines p.1 q.1 := by
  have hfinite : Finite {p // p ∈ pipelines} := (List.finite_toSet pipelines).to_subtype
  -- `Copies` itself is not transitive, but the paths are, and none of them leads back
  let below (q p : {p // p ∈ pipelines}) : Prop := TransGen (Copies pipelines) p.1 q.1
  have htrans : IsTrans _ below := ⟨fun _ _ _ hab hbc => hbc.trans hab⟩
  have hirrefl : Std.Irrefl below := ⟨fun p => h p.1 p.2⟩
  exact Subrelation.wf (fun hc => TransGen.single hc) (Finite.wellFounded_of_trans_of_irrefl below)

lemma exists_expands (hdeclared : ∀ p ∈ pipelines, ∀ c ∈ p.copies, ∃ q ∈ pipelines, q.name = c)
    (hacyclic : ∀ p ∈ pipelines, ¬ TransGen (Copies pipelines) p p)
    (hdistinct : ∀ p ∈ pipelines, (p.passes.map RenderPass.name).Nodup) (hp : p ∈ pipelines) :
    ∃ passes, Expands pipelines p passes := by
  have main : ∀ p : {p // p ∈ pipelines}, ∃ passes, Expands pipelines p.1 passes := by
    intro p
    induction p using (wellFounded_copies hacyclic).induction with
    | _ p ih =>
      choose! target hmem hname using hdeclared p.1 p.2
      have hbelow : ∀ c ∈ p.1.copies, ∃ passes, Expands pipelines (target c) passes := by
        intro c hc
        exact ih ⟨target c, hmem c hc⟩ ⟨hmem c hc, (hname c hc).symm ▸ hc⟩
      choose! copied hcopied using hbelow
      exact ⟨_, .intro (fun c hc => ⟨hmem c hc, hname c hc⟩) hcopied (hdistinct p.1 p.2)⟩
  exact main ⟨p, hp⟩

lemma forall_exists_expands_iff (hn : (pipelines.map Pipeline.name).Nodup) :
    (∀ p ∈ pipelines, ∃ passes, Expands pipelines p passes) ↔
      (∀ p ∈ pipelines, ∀ c ∈ p.copies, ∃ q ∈ pipelines, q.name = c) ∧
      (∀ p ∈ pipelines, ¬ TransGen (Copies pipelines) p p) ∧
      ∀ p ∈ pipelines, (p.passes.map RenderPass.name).Nodup := by
  constructor
  · intro h
    refine ⟨fun p hp c hc => ?_, fun p hp => ?_, fun p hp => ?_⟩
    · obtain ⟨_, ⟨declared, -, -⟩⟩ := h p hp
      exact ⟨_, declared c hc⟩
    · obtain ⟨_, hexp⟩ := h p hp
      exact hexp.not_cyclic hn
    · obtain ⟨_, ⟨-, -, distinct⟩⟩ := h p hp
      exact distinct
  · rintro ⟨hdeclared, hacyclic, hdistinct⟩ p hp
    exact exists_expands hdeclared hacyclic hdistinct hp

/-- Pipelines are expanded if and only if all copies are declared, none leads back to where it
started, and the own passes of each pipeline have distinct names. What a pipeline then runs is its
flat list of passes, with each name once. -/
theorem expandAll_keepsLatest (pipelines : List Pipeline)
    (hn : (pipelines.map Pipeline.name).Nodup) :
    ((∃ expanded, expandAll pipelines = .ok expanded) ↔
      (∀ p ∈ pipelines, ∀ c ∈ p.copies, ∃ q ∈ pipelines, q.name = c) ∧
      (∀ p ∈ pipelines, ¬ TransGen (Copies pipelines) p p) ∧
      ∀ p ∈ pipelines, (p.passes.map RenderPass.name).Nodup) ∧
    ∀ expanded, expandAll pipelines = .ok expanded →
      List.Forall₂ (fun p passes => (passes.map RenderPass.name).Nodup ∧
        ∃ flat, (∀ flat', Flattens pipelines p.name flat' ↔ flat' = flat) ∧ KeepsLatest flat passes)
        pipelines expanded := by
  refine ⟨?_, fun expanded h => ?_⟩
  · rw [← forall_exists_expands_iff hn, ← exists_forall₂_iff]
    exact exists_congr fun expanded => expandAll_eq_ok_iff hn
  · have hmem := (List.forall₂_and_left _ _).2 ⟨fun p hp => hp, (expandAll_eq_ok_iff hn).1 h⟩
    refine hmem.imp fun p passes ⟨hp, hexp⟩ => ?_
    obtain ⟨flat, hflat, rfl⟩ := hexp.exists_flattens hp
    refine ⟨nodup_merged flat, flat, fun flat' => ⟨fun h' => h'.unique hn hflat, ?_⟩,
      keepsLatest_foldl flat⟩
    rintro rfl
    exact hflat

/-- Two ways lead to the base, and one of them is taken twice. -/
def diamond : List Pipeline :=
  [{ name := "Top", copies := ["Night", "Fog", "Night"], passes := [.draw "Sky" "Stars" 3] },
    { name := "Night", copies := ["Base"], passes := [.draw "Scene" "Dark" 36] },
    { name := "Fog", copies := ["Base"], passes := [.draw "Haze" "Mist" 6, .draw "Scene" "Pale" 36] },
    { name := "Base", passes := [.draw "Sky" "Blue" 3, .draw "Scene" "Lit" 36] }]

theorem expandAll_keepsLatest_diamond :
    (diamond.map Pipeline.name).Nodup ∧ ∃ expanded, expandAll diamond = .ok expanded ∧
      expanded.map (·.map fun pass => (pass.name, pass.program)) =
        [[("Sky", "Stars"), ("Scene", "Dark"), ("Haze", "Mist")], [("Sky", "Blue"), ("Scene", "Dark")],
          [("Sky", "Blue"), ("Scene", "Pale"), ("Haze", "Mist")], [("Sky", "Blue"), ("Scene", "Lit")]] ∧
      List.Forall₂ (fun p passes => (passes.map RenderPass.name).Nodup ∧
        ∃ flat, (∀ flat', Flattens diamond p.name flat' ↔ flat' = flat) ∧ KeepsLatest flat passes)
        diamond expanded := by
  have hn : (diamond.map Pipeline.name).Nodup := by decide
  obtain ⟨expanded, h, hprograms⟩ := exists_ok_of_toOption_map
    (show (expandAll diamond).toOption.map (fun expanded => decide
      (expanded.map (·.map fun pass => (pass.name, pass.program)) =
        [[("Sky", "Stars"), ("Scene", "Dark"), ("Haze", "Mist")], [("Sky", "Blue"), ("Scene", "Dark")],
          [("Sky", "Blue"), ("Scene", "Pale"), ("Haze", "Mist")], [("Sky", "Blue"), ("Scene", "Lit")]])) =
      some true by decide +kernel)
  exact ⟨hn, expanded, h, of_decide_eq_true hprograms, (expandAll_keepsLatest diamond hn).2 expanded h⟩

end Pipeline
end RenderPlan
