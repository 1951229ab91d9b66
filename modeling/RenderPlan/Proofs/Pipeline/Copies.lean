import Mathlib.Data.List.Nodup
import Mathlib.Logic.Relation
import Mathlib.Tactic.Choose
import RenderPlan.Pipeline.Copies
import RenderPlan.Proofs.Outcome

/-! Copies expanded. What a pipeline runs follows from the pipelines it copies, by name, and expansion
with finished pipelines at hand finds just that: it succeeds where no path of copies ends at an
undeclared name or runs into a cycle. -/
namespace RenderPlan.Pipeline
open Relation
variable {pipelines pipelines' : List Pipeline} {p q : Pipeline} {passes passes' : List RenderPass}
  {i j : ℕ} {name referrer : String} {stack : List ℕ} {done done' : Expansions}

lemma position?_eq_some_iff (h : (pipelines.map Pipeline.name).Nodup) :
    position? pipelines name = some i ↔ ∃ p, pipelines[i]? = some p ∧ p.name = name := by
  have hfound {x : Pipeline × ℕ} (hx : pipelines.zipIdx.reverse.find? (·.1.name = name) = some x) :
      pipelines[x.2]? = some x.1 ∧ x.1.name = name := by
    have hmem := List.mem_reverse.1 (List.mem_of_find?_eq_some hx)
    exact ⟨List.mem_zipIdx_iff_getElem?.1 hmem, by simpa using List.find?_some hx⟩
  rw [position?, Option.map_eq_some_iff]
  constructor
  · rintro ⟨x, hx, rfl⟩
    exact ⟨x.1, hfound hx⟩
  · rintro ⟨p, hp, hname⟩
    cases hx : pipelines.zipIdx.reverse.find? (·.1.name = name) with
    | none =>
      have hmem : (p, i) ∈ pipelines.zipIdx.reverse :=
        List.mem_reverse.2 (List.mem_zipIdx_iff_getElem?.2 hp)
      simpa [hname] using List.find?_eq_none.1 hx _ hmem
    | some x =>
      obtain ⟨hx', hname'⟩ := hfound hx
      refine ⟨x, rfl, (List.getElem?_inj ?_ h).1 ?_⟩
      · rw [List.length_map]
        exact (List.getElem?_eq_some_iff.1 hx').1
      · rw [List.getElem?_map, List.getElem?_map, hx', hp, Option.map_some, Option.map_some, hname,
          hname']

instance : Nonempty Pipeline := ⟨{ name := "", passes := [] }⟩

/-- `passes` are the passes of the copied pipelines, merged in order, and then its own, which have
distinct names. -/
inductive Expands (pipelines : List Pipeline) : Pipeline → List RenderPass → Prop
  | intro {p : Pipeline} {target : String → Pipeline} {copied : String → List RenderPass}
    (declared : ∀ c ∈ p.copies, target c ∈ pipelines ∧ (target c).name = c)
    (below : ∀ c ∈ p.copies, Expands pipelines (target c) (copied c))
    (distinct : (p.passes.map RenderPass.name).Nodup) :
    Expands pipelines p (p.passes.foldl mergePass ((p.copies.flatMap copied).foldl mergePass []))

/-- Only which pipelines are declared matters, not where. -/
lemma Expands.mono (h : Expands pipelines p passes) (hsub : pipelines ⊆ pipelines') :
    Expands pipelines' p passes := by
  induction h with
  | intro declared _ distinct ih =>
    exact intro (fun c hc => ⟨hsub (declared c hc).1, (declared c hc).2⟩) ih distinct

lemma eq_of_name_eq (h : (pipelines.map Pipeline.name).Nodup) (hp : p ∈ pipelines)
    (hq : q ∈ pipelines) (hn : p.name = q.name) : p = q :=
  List.inj_on_of_nodup_map h hp hq hn

lemma Expands.unique (hn : (pipelines.map Pipeline.name).Nodup) (h : Expands pipelines p passes)
    (h' : Expands pipelines p passes') : passes = passes' := by
  induction h generalizing passes' with
  | @intro p target copied declared below distinct ih =>
    cases h' with
    | @intro _ target' copied' declared' below' _ =>
      have hcopied : ∀ c ∈ p.copies, copied c = copied' c := by
        intro c hc
        obtain ⟨hmem, hname⟩ := declared c hc
        obtain ⟨hmem', hname'⟩ := declared' c hc
        have htarget := eq_of_name_eq hn hmem hmem' (hname.trans hname'.symm)
        exact ih c hc (htarget ▸ below' c hc)
      rw [List.flatMap_congr hcopied]

/-- `p` copies `q`. -/
def Copies (pipelines : List Pipeline) (p q : Pipeline) : Prop := q ∈ pipelines ∧ q.name ∈ p.copies

/-- A pipeline that can be expanded does not lead back to itself. -/
lemma Expands.not_cyclic (hn : (pipelines.map Pipeline.name).Nodup)
    (h : Expands pipelines p passes) : ¬ TransGen (Copies pipelines) p p := by
  induction h with
  | @intro p target copied declared below distinct ih =>
    intro hc
    obtain ⟨q, ⟨hq, hcopy⟩, hback⟩ := TransGen.head'_iff.1 hc
    obtain ⟨hmem, hname⟩ := declared q.name hcopy
    have htarget := eq_of_name_eq hn hmem hq hname
    apply ih q.name hcopy
    rw [htarget]
    exact TransGen.tail' hback ⟨hq, hcopy⟩

/-- The finished pipelines are expanded rightly. -/
def Sound (pipelines : List Pipeline) (done : Expansions) : Prop :=
  ∀ i passes, done.lookup i = some passes →
    ∃ p, pipelines[i]? = some p ∧ Expands pipelines p passes

lemma Sound.nil (pipelines : List Pipeline) : Sound pipelines [] := by
  intro i passes h
  cases h

lemma Sound.cons (h : Sound pipelines done) (hp : pipelines[i]? = some p)
    (he : Expands pipelines p passes) : Sound pipelines ((i, passes) :: done) := by
  intro j found hj
  by_cases hji : j = i
  · subst hji
    simp only [List.lookup_cons_self, Option.some.injEq] at hj
    exact ⟨p, hp, hj ▸ he⟩
  · have hb : (j == i) = false := beq_eq_false_iff_ne.2 hji
    rw [List.lookup_cons, hb] at hj
    exact h j found hj

@[simp] lemma withOwnPasses_eq_ok_iff {copied : List RenderPass} :
    p.withOwnPasses copied = .ok passes ↔
      (p.passes.map RenderPass.name).Nodup ∧ passes = p.passes.foldl mergePass copied := by
  rw [withOwnPasses]
  cases hr : firstRepeat [] (p.passes.map RenderPass.name) with
  | none =>
    have hnodup := (firstRepeat_eq_none_iff.1 hr).1
    simp [hnodup, eq_comm]
  | some pass =>
    have hnodup : ¬ (p.passes.map RenderPass.name).Nodup := by
      intro hd
      rw [firstRepeat_eq_none_iff.2 ⟨hd, by simp⟩] at hr
      cases hr
    simp [hnodup]

lemma copiedPasses_cons_eq_ok_iff {visit : ℕ → Expanding (List RenderPass)} {target : String}
    {targets : List String} {result : List RenderPass × Expansions} :
    copiedPasses pipelines referrer visit (target :: targets) passes done = .ok result ↔
      ∃ j copied done₁, position? pipelines target = some j ∧ visit j done = .ok (copied, done₁) ∧
        copiedPasses pipelines referrer visit targets (copied.foldl mergePass passes) done₁ =
          .ok result := by
  rw [copiedPasses]
  cases hj : position? pipelines target with
  | none => simp [throw, throwThe, MonadExceptOf.throw, StateT.lift, bind, Except.bind]
  | some j =>
    change (visit j done >>= fun r =>
      copiedPasses pipelines referrer visit targets (r.1.foldl mergePass passes) r.2) = _ ↔ _
    rw [bind_eq_ok_iff]
    constructor
    · rintro ⟨⟨copied, done₁⟩, hv, hrest⟩
      exact ⟨j, copied, done₁, rfl, hv, hrest⟩
    · rintro ⟨j', copied, done₁, hj', hv, hrest⟩
      cases hj'
      exact ⟨(copied, done₁), hv, hrest⟩

/-- The last steps of an expansion: own passes are merged, and the result is kept. -/
def keepOwnPasses (i : ℕ) (p : Pipeline) (copied : List RenderPass) : Expanding (List RenderPass) := do
  let passes ← p.withOwnPasses copied
  modify ((i, passes) :: ·)
  return passes

@[simp] lemma keepOwnPasses_eq_ok_iff {copied : List RenderPass} :
    keepOwnPasses i p copied done = .ok (passes, done') ↔
      p.withOwnPasses copied = .ok passes ∧ done' = (i, passes) :: done := by
  rw [keepOwnPasses]
  cases p.withOwnPasses copied with
  | error fault =>
    change Except.error fault = _ ↔ _
    simp
  | ok own =>
    change Except.ok (own, (i, own) :: done) = _ ↔ _
    simp only [Except.ok.injEq, Prod.mk.injEq]
    constructor
    · rintro ⟨rfl, rfl⟩
      exact ⟨rfl, rfl⟩
    · rintro ⟨rfl, rfl⟩
      exact ⟨rfl, rfl⟩

@[simp] lemma get_bind_apply {α : Type} (next : Expansions → Expanding α) (done : Expansions) :
    (get >>= next) done = next done done := rfl

lemma expandAt_eq_ok_iff (hp : pipelines[i]? = some p) :
    expandAt pipelines stack i done = .ok (passes, done') ↔
      (done.lookup i = some passes ∧ done' = done) ∨
      (done.lookup i = none ∧ i ∉ stack ∧ ∃ copied done₁,
        copiedPasses pipelines p.name (expandAt pipelines (stack ++ [i])) p.copies [] done =
          .ok (copied, done₁) ∧
        p.withOwnPasses copied = .ok passes ∧ done' = (i, passes) :: done₁) := by
  rw [expandAt, get_bind_apply]
  cases hl : done.lookup i with
  | some found =>
    change Except.ok (found, done) = _ ↔ _
    simp [eq_comm]
  | none =>
    revert hp
    cases pipelines[i]? with
    | none => simp
    | some found =>
      intro hp
      cases hp
      by_cases hi : i ∈ stack
      · simp only [hi, dite_true]
        change Except.error _ = Except.ok _ ↔ _
        simp
      · simp only [hi, dite_false]
        change (copiedPasses pipelines p.name (expandAt pipelines (stack ++ [i])) p.copies [] done >>=
          fun r => keepOwnPasses i p r.1 r.2) = .ok (passes, done') ↔ _
        simp only [bind_eq_ok_iff, keepOwnPasses_eq_ok_iff, Prod.exists]
        simp

section Visits
variable {visit : ℕ → Expanding (List RenderPass)} {targets : List String}
  {copied : String → List RenderPass}

/-- Rightly expanded parts are merged into the passes that the copies stand for. -/
lemma copiedPasses_sound (hn : (pipelines.map Pipeline.name).Nodup)
    (hv : ∀ j q done part done', pipelines[j]? = some q → Sound pipelines done →
      visit j done = .ok (part, done') → Expands pipelines q part ∧ Sound pipelines done')
    (hs : Sound pipelines done)
    (h : copiedPasses pipelines referrer visit targets passes done = .ok (passes', done')) :
    Sound pipelines done' ∧
    (∀ c ∈ targets, ∃ q ∈ pipelines, q.name = c ∧ ∃ part, Expands pipelines q part) ∧
    ∀ copied : String → List RenderPass,
      (∀ c ∈ targets, ∀ q ∈ pipelines, q.name = c → Expands pipelines q (copied c)) →
        passes' = (targets.flatMap copied).foldl mergePass passes := by
  induction targets generalizing passes done with
  | nil =>
    change Except.ok (passes, done) = _ at h
    cases h
    exact ⟨hs, by simp, by simp⟩
  | cons target targets ih =>
    obtain ⟨j, part, done₁, hj, hpart, hrest⟩ := copiedPasses_cons_eq_ok_iff.1 h
    obtain ⟨q, hq, hname⟩ := (position?_eq_some_iff hn).1 hj
    have hmem := List.mem_of_getElem? hq
    obtain ⟨he, hs₁⟩ := hv j q done part done₁ hq hs hpart
    obtain ⟨hs', hex, hres⟩ := ih hs₁ hrest
    refine ⟨hs', ?_, fun copied hcopied => ?_⟩
    · exact List.forall_mem_cons.2 ⟨⟨q, hmem, hname, part, he⟩, hex⟩
    · obtain ⟨hfirst, hothers⟩ := List.forall_mem_cons.1 hcopied
      have hpart' : part = copied target := he.unique hn (hfirst q hmem hname)
      rw [hres copied hothers, List.flatMap_cons, List.foldl_append, hpart']

/-- If every copy can be visited, so can all of them in turn. -/
lemma exists_copiedPasses
    (hv : ∀ c ∈ targets, ∃ j, position? pipelines c = some j ∧ ∀ done, Sound pipelines done →
      ∃ done', visit j done = .ok (copied c, done') ∧ Sound pipelines done')
    (hs : Sound pipelines done) (referrer : String) (passes : List RenderPass) :
    ∃ done', copiedPasses pipelines referrer visit targets passes done =
      .ok ((targets.flatMap copied).foldl mergePass passes, done') ∧ Sound pipelines done' := by
  induction targets generalizing passes done with
  | nil => exact ⟨done, rfl, hs⟩
  | cons target targets ih =>
    obtain ⟨⟨j, hj, hvisit⟩, hothers⟩ := List.forall_mem_cons.1 hv
    obtain ⟨done₁, hpart, hs₁⟩ := hvisit done hs
    obtain ⟨done', hrest, hs'⟩ := ih hothers hs₁ ((copied target).foldl mergePass passes)
    refine ⟨done', copiedPasses_cons_eq_ok_iff.2 ⟨j, copied target, done₁, hj, hpart, ?_⟩, hs'⟩
    rw [hrest, List.flatMap_cons, List.foldl_append]

end Visits

/-- What is found for a pipeline is what it runs. -/
lemma expandAt_sound (hn : (pipelines.map Pipeline.name).Nodup) (hp : pipelines[i]? = some p)
    (hs : Sound pipelines done) (h : expandAt pipelines stack i done = .ok (passes, done')) :
    Expands pipelines p passes ∧ Sound pipelines done' := by
  generalize hk : (idle pipelines stack).length = k
  induction k using Nat.strongRecOn generalizing stack i p passes done done' with
  | _ k ih =>
    rcases (expandAt_eq_ok_iff hp).1 h with ⟨hl, rfl⟩ | ⟨-, hi, copied, done₁, hc, hown, rfl⟩
    · obtain ⟨q, hq, he⟩ := hs i passes hl
      rw [hp] at hq
      cases hq
      exact ⟨he, hs⟩
    · obtain ⟨hs₁, hex, hres⟩ := copiedPasses_sound hn (fun j q done part done' hq hsd hv =>
        ih _ (hk ▸ length_idle_lt hp hi) hq hsd hv rfl) hs hc
      choose! target hmem hname part hpart using hex
      obtain ⟨hdistinct, rfl⟩ := withOwnPasses_eq_ok_iff.1 hown
      have hcopied : copied = (p.copies.flatMap part).foldl mergePass [] := by
        refine hres part fun c hc q hq hqc => ?_
        rw [← eq_of_name_eq hn (hmem c hc) hq ((hname c hc).trans hqc.symm)]
        exact hpart c hc
      have he : Expands pipelines p (p.passes.foldl mergePass copied) := by
        rw [hcopied]
        exact .intro (fun c hc => ⟨hmem c hc, hname c hc⟩) hpart hdistinct
      exact ⟨he, hs₁.cons hp he⟩

/-- A pipeline that does not lead back to the stack is expanded. -/
lemma exists_expandAt (hn : (pipelines.map Pipeline.name).Nodup)
    (h : Expands pipelines p passes) (hp : pipelines[i]? = some p) (hs : Sound pipelines done)
    (hstack : ∀ s ∈ stack, ∀ q, pipelines[s]? = some q → ¬ ReflTransGen (Copies pipelines) p q) :
    ∃ done', expandAt pipelines stack i done = .ok (passes, done') ∧ Sound pipelines done' := by
  induction h generalizing i stack done with
  | @intro p target copied declared below distinct ih =>
    have he : Expands pipelines p _ := .intro declared below distinct
    cases hl : done.lookup i with
    | some found =>
      obtain ⟨q, hq, hfound⟩ := hs i found hl
      rw [hp] at hq
      cases hq
      exact ⟨done, (expandAt_eq_ok_iff hp).2 (.inl ⟨by rw [hl, he.unique hn hfound], rfl⟩), hs⟩
    | none =>
      have hi : i ∉ stack := fun hmem => hstack i hmem p hp .refl
      have hv : ∀ c ∈ p.copies, ∃ j, position? pipelines c = some j ∧ ∀ done, Sound pipelines done →
          ∃ done', expandAt pipelines (stack ++ [i]) j done = .ok (copied c, done') ∧
            Sound pipelines done' := by
        intro c hc
        obtain ⟨hmem, hname⟩ := declared c hc
        obtain ⟨j, hj⟩ := List.mem_iff_getElem?.1 hmem
        refine ⟨j, (position?_eq_some_iff hn).2 ⟨_, hj, hname⟩, fun done hs => ih c hc hj hs ?_⟩
        have hcopy : Copies pipelines p (target c) := ⟨hmem, by rwa [hname]⟩
        intro s hs q hq hreach
        rcases List.mem_append.1 hs with hs | hs
        · exact hstack s hs q hq (.head hcopy hreach)
        · rw [List.mem_singleton.1 hs, hp] at hq
          cases hq
          exact he.not_cyclic hn (.head' hcopy hreach)
      obtain ⟨done₁, hc, hs₁⟩ := exists_copiedPasses hv hs p.name []
      exact ⟨_, (expandAt_eq_ok_iff hp).2 (.inr ⟨hl, hi, _, done₁, hc,
        withOwnPasses_eq_ok_iff.2 ⟨distinct, rfl⟩, rfl⟩), hs₁.cons hp he⟩

lemma mapM_expandAt_eq_ok_iff (hn : (pipelines.map Pipeline.name).Nodup)
    (hs : Sound pipelines done) {positions : List ℕ} (hin : ∀ i ∈ positions, i < pipelines.length)
    {expanded : List (List RenderPass)} :
    (∃ done', positions.mapM (expandAt pipelines []) done = .ok (expanded, done')) ↔
      List.Forall₂ (fun i passes => ∃ p, pipelines[i]? = some p ∧ Expands pipelines p passes)
        positions expanded := by
  induction positions generalizing done expanded with
  | nil =>
    rw [List.mapM_nil]
    change (∃ done', Except.ok ([], done) = Except.ok (expanded, done')) ↔ _
    simp [eq_comm]
  | cons i positions ih =>
    obtain ⟨hi, hrest⟩ := List.forall_mem_cons.1 hin
    have hp := List.getElem?_eq_getElem hi
    rw [List.mapM_cons]
    change (∃ done', (expandAt pipelines [] i done >>= fun r =>
      (positions.mapM (expandAt pipelines []) r.2 >>= fun rs =>
        Except.ok (r.1 :: rs.1, rs.2))) = .ok (expanded, done')) ↔ _
    simp only [bind_eq_ok_iff, Except.ok.injEq, Prod.mk.injEq, Prod.exists,
      List.forall₂_cons_left_iff]
    constructor
    · rintro ⟨done', passes, done₁, hfirst, others, done₂, hothers, rfl, rfl⟩
      obtain ⟨he, hs₁⟩ := expandAt_sound hn hp hs hfirst
      exact ⟨passes, others, ⟨_, hp, he⟩, (ih hs₁ hrest).1 ⟨done₂, hothers⟩, rfl⟩
    · rintro ⟨passes, others, ⟨p, hp', he⟩, hothers, rfl⟩
      obtain ⟨done₁, hfirst, hs₁⟩ : ∃ done', expandAt pipelines [] i done = .ok (passes, done') ∧
          Sound pipelines done' := exists_expandAt hn he hp' hs (by simp)
      obtain ⟨done₂, hothers'⟩ := (ih hs₁ hrest).2 hothers
      exact ⟨done₂, passes, done₁, hfirst, others, done₂, hothers', rfl, rfl⟩

/-- All pipelines are expanded if and only if each of them can be. -/
lemma expandAll_eq_ok_iff (hn : (pipelines.map Pipeline.name).Nodup)
    {expanded : List (List RenderPass)} :
    expandAll pipelines = .ok expanded ↔ List.Forall₂ (Expands pipelines) pipelines expanded := by
  have hrun : expandAll pipelines = .ok expanded ↔
      ∃ done', (List.range pipelines.length).mapM (expandAt pipelines []) [] =
        .ok (expanded, done') := by
    change ((List.range pipelines.length).mapM (expandAt pipelines []) [] >>= fun r =>
      Except.ok r.1) = .ok expanded ↔ _
    simp only [bind_eq_ok_iff, Except.ok.injEq, Prod.exists]
    constructor
    · rintro ⟨_, done', h, rfl⟩
      exact ⟨done', h⟩
    · rintro ⟨done', h⟩
      exact ⟨expanded, done', h, rfl⟩
  rw [hrun, mapM_expandAt_eq_ok_iff hn (.nil pipelines) fun i => List.mem_range.1,
    List.forall₂_iff_get, List.forall₂_iff_get]
  simp only [List.length_range, List.get_eq_getElem, List.getElem_range]
  refine and_congr_right fun _ => forall_congr' fun i => ?_
  refine forall_congr' fun hi => forall_congr' fun _ => ?_
  simp [List.getElem?_eq_getElem hi]

end RenderPlan.Pipeline
