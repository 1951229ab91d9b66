import Mathlib.Data.List.Nodup
import RenderPlan.Generation.Run
import RenderPlan.Proofs.Shader.StructNames
import RenderPlan.Proofs.Upload.Leaves

/-! The layouts of a generation. Once every declared struct is laid out, the cache holds just the
layouts that the rules give, each of them can be planned, and nothing of it depends on the order in
which the structs are declared. -/
namespace RenderPlan
open StructTable

namespace StructTable
variable {t t' : StructTable} {name : String} {d : StructDecl}

@[simp]
lemma get?_eq_some_iff (t : StructTable) : t.get? name = some d ↔ d ∈ t.decls ∧ d.name = name := by
  refine ⟨fun h => ⟨mem_of_get? h, name_of_get? h⟩, ?_⟩
  rintro ⟨hd, rfl⟩
  cases hg : t.get? d.name with
  | none => simpa using List.find?_eq_none.1 hg d hd
  | some e =>
    exact congrArg some (List.inj_on_of_nodup_map t.distinct (mem_of_get? hg) hd (name_of_get? hg))

@[simp] lemma isSome_get?_iff (t : StructTable) : (t.get? name).isSome ↔ name ∈ t.names := by
  simp only [Option.isSome_iff_exists, get?_eq_some_iff, names, List.mem_map]

lemma get?_eq_of_perm (h : t.decls.Perm t'.decls) : t.get? = t'.get? := by
  funext name
  ext d
  rw [get?_eq_some_iff, get?_eq_some_iff, h.mem_iff]

/-- What is derived depends on what is declared under each name that is reached. -/
lemma Derives.transfer {α : Type} {rule : (String → α) → StructDecl → α → Prop} {a : α}
    (h : t.Derives rule name a) (hget : ∀ m, t.Reaches name m → t.get? m = t'.get? m) :
    t'.Derives rule name a := by
  induction h with
  | intro declared _ allowed ih =>
    refine intro (hget _ .refl ▸ declared) (fun m hm => ih m hm fun n hn => ?_) allowed
    exact hget n (.head ((refers_iff declared).2 hm) hn)

lemma HasLayout.mem_names {l : StructLayout} (h : t.HasLayout name l) : name ∈ t.names := by
  cases h with
  | intro declared _ _ => exact (isSome_get?_iff t).1 (declared ▸ rfl)

end StructTable

@[simp] lemma Specification.typeCheck_eq_ok_iff {spec : Specification} {t : StructTable} :
    spec.typeCheck = .ok t ↔
      t.decls = spec.structs ∧ ∀ d ∈ spec.structs, checkDecl d = .ok () := by
  simp only [typeCheck, bind_eq_ok_iff, ofList_eq_ok_iff, pure_eq_ok_iff]
  constructor
  · rintro ⟨t, ht, ⟨⟩, hc, rfl⟩
    exact ⟨ht, ht ▸ forM_eq_ok_iff.1 hc⟩
  · rintro ⟨ht, hc⟩
    exact ⟨t, ht, (), forM_eq_ok_iff.2 (ht ▸ hc), rfl⟩

namespace LayoutCache
variable {t t' : StructTable} {c c' c'' : LayoutCache} {referrer name : String}
  {names names' : List String} {l : StructLayout}

/-- From `c` to `c'` layouts were added, those of the names among them. -/
structure Finishes (t : StructTable) (c : LayoutCache) (names : List String) (c' : LayoutCache) :
    Prop where
  sound : SoundFor t c'
  grown : c.done ⊆ c'.done
  finished : ∀ n ∈ names, (c'.get? n).isSome

lemma Finishes.nil (h : SoundFor t c) : Finishes t c [] c := ⟨h, List.Subset.refl _, by simp⟩

lemma Finishes.append (h : Finishes t c names c') (h' : Finishes t c' names' c'') :
    Finishes t c (names ++ names') c'' := by
  refine ⟨h'.sound, List.Subset.trans h.grown h'.grown, fun n hn => ?_⟩
  rcases List.mem_append.1 hn with hn | hn
  · exact Layouts.isSome_get?_mono h'.grown (h.finished n hn)
  · exact h'.finished n hn

lemma SoundFor.finishes_layoutFor (h : SoundFor t c) (hok : c.layoutFor referrer name = (.ok l, c')) :
    Finishes t c [name] c' := by
  have hs := (h.layoutFor referrer name).2
  rw [hok] at hs
  obtain ⟨rfl, hdone⟩ := h
  have hr := resolve_settles referrer (trail_nil name) c.done hdone
  rw [layoutFor_def] at hok
  cases hd : c.table.resolve [] referrer name c.done with
  | error fault done =>
    rw [hd] at hok
    cases hok
  | ok _ done =>
    rw [hd] at hr hok
    obtain ⟨⟨l', -, hg⟩, -, hsub⟩ := hr
    simp only [hg] at hok
    cases hok
    refine ⟨hs, hsub, fun n hn => ?_⟩
    rw [List.mem_singleton.1 hn, LayoutCache.get?, hg]
    rfl

/-- A struct with a layout is laid out, whatever is finished already. -/
lemma SoundFor.exists_layoutFor (h : SoundFor t c) (hl : t.HasLayout name l) (referrer : String) :
    ∃ c', c.layoutFor referrer name = (.ok l, c') := by
  have hok := (h.layoutFor referrer name).1
  rw [(layoutBelow_eq_ok_iff referrer (trail_nil name)).2 hl] at hok
  exact ⟨_, Prod.ext hok rfl⟩

lemma SoundFor.finishes_computeEach (h : SoundFor t c) (hok : c.computeEach names = (.ok (), c')) :
    Finishes t c names c' := by
  induction names generalizing c with
  | nil =>
    cases hok
    exact .nil h
  | cons name names ih =>
    rw [computeEach_cons, layoutOf] at hok
    rcases hc : c.layoutFor anonymous name with ⟨_ | l, c₁⟩ <;> rw [hc] at hok
    · cases hok
    · have hfirst := h.finishes_layoutFor hc
      exact hfirst.append (ih hfirst.sound hok)

lemma SoundFor.exists_computeEach (h : SoundFor t c) (hl : ∀ n ∈ names, ∃ l, t.HasLayout n l) :
    ∃ c', c.computeEach names = (.ok (), c') := by
  induction names generalizing c with
  | nil => exact ⟨c, rfl⟩
  | cons name names ih =>
    obtain ⟨⟨l, hname⟩, hrest⟩ := List.forall_mem_cons.1 hl
    obtain ⟨c₁, hc⟩ := h.exists_layoutFor hname anonymous
    obtain ⟨c', hc'⟩ := ih (h.finishes_layoutFor hc).sound hrest
    refine ⟨c', ?_⟩
    rw [computeEach_cons, layoutOf, hc]
    exact hc'

/-- A cache in which every declared struct is finished. -/
structure Complete (t : StructTable) (c : LayoutCache) : Prop extends SoundFor t c where
  finished : ∀ n ∈ t.names, (c.get? n).isSome

namespace Complete

@[simp] lemma get?_eq_some_iff (h : Complete t c) : c.get? name = some l ↔ t.HasLayout name l := by
  refine ⟨h.done.hasLayout, fun hl => ?_⟩
  obtain ⟨l', hl'⟩ := Option.isSome_iff_exists.1 (h.finished name hl.mem_names)
  rw [hl', (h.done.hasLayout hl').unique hl]

lemma get?_eq_of_perm (h : Complete t c) (h' : Complete t' c') (hd : t.decls.Perm t'.decls) :
    c.get? = c'.get? := by
  have hget := StructTable.get?_eq_of_perm hd
  funext name
  ext l
  rw [h.get?_eq_some_iff, h'.get?_eq_some_iff]
  constructor
  · exact fun hl => hl.transfer fun m _ => congrFun hget m
  · exact fun hl => hl.transfer fun m _ => congrFun hget.symm m

lemma mem_layouts_iff (h : Complete t c) : l ∈ c.layouts ↔ c.get? l.name = some l := by
  rw [layouts, List.mem_filterMap, h.table]
  constructor
  · rintro ⟨n, -, hl⟩
    rwa [(h.done.hasLayout hl).isStd140.name_eq]
  · intro hl
    exact ⟨l.name, (h.done.hasLayout hl).mem_names, hl⟩

/-- The list of layouts is searched with the same result as the cache. -/
lemma find?_layouts (h : Complete t c) (name : String) :
    c.layouts.find? (·.name = name) = c.get? name := by
  cases hf : c.layouts.find? (·.name = name) with
  | none =>
    cases hl : c.get? name with
    | none => rfl
    | some l =>
      have hname := (h.done.hasLayout hl).isStd140.name_eq
      have hmem : l ∈ c.layouts := h.mem_layouts_iff.2 (hname ▸ hl)
      simpa [hname] using List.find?_eq_none.1 hf l hmem
  | some l =>
    have hname : l.name = name := by simpa using List.find?_some hf
    rw [← hname, h.mem_layouts_iff.1 (List.mem_of_find?_eq_some hf)]

/-- All finished layouts can be planned. -/
lemma exists_plans (h : Complete t c) : ∃ plans, c.layouts.mapM c.done.plan = .ok plans := by
  rw [exists_mapM_eq_ok_iff]
  intro l hl
  obtain ⟨xs, -, hp⟩ := h.exists_plan (h.mem_layouts_iff.1 hl)
  exact ⟨_, hp⟩

/-- The plan of a struct is found where its layout is. -/
lemma find?_plans (h : Complete t c) {plans : List UploadPlan}
    (hp : c.layouts.mapM c.done.plan = .ok plans) (name : String) :
    plans.find? (·.structName = name) = (c.get? name).bind fun l => (c.done.plan l).toOption := by
  rw [← h.find?_layouts]
  refine find?_of_mapM hp (fun l p hl => ?_) name
  rw [Layouts.plan_def, bind_eq_ok_iff] at hl
  obtain ⟨writes, -, hplan⟩ := hl
  cases pure_eq_ok_iff.1 hplan
  rfl

/-- A plan follows from the layouts, and these from the declarations. -/
lemma plan_eq_of_perm (h : Complete t c) (h' : Complete t' c') (hd : t.decls.Perm t'.decls)
    (hl : c.get? name = some l) : c.done.plan l = c'.done.plan l := by
  have hget := h.get?_eq_of_perm h' hd
  obtain ⟨xs, hxs, hp⟩ := h.exists_plan hl
  obtain ⟨ys, hys, hp'⟩ := h'.exists_plan (hget ▸ hl)
  have hxs' : t'.HasLeaves c'.get? name xs := by
    rw [← hget]
    exact Derives.transfer hxs fun m _ => congrFun (StructTable.get?_eq_of_perm hd) m
  rw [hp, hp', hxs'.unique hys]

end Complete
end LayoutCache

namespace Specification
open LayoutCache
variable {spec : Specification} {t : StructTable} {c c' : LayoutCache} {resources : List ResourceDecl}

/-- The structs that buffers hold. -/
def bufferStructs (resources : List ResourceDecl) : List String :=
  resources.filterMap fun d =>
    match d.kind with
    | .buffer structName => some structName
    | _ => none

@[simp] lemma mem_bufferStructs {structName : String} : structName ∈ bufferStructs resources ↔
    ∃ d ∈ resources, d.kind = .buffer structName := by
  rw [bufferStructs, List.mem_filterMap]
  refine exists_congr fun d => and_congr_right fun _ => ?_
  cases d.kind <;> simp

lemma finishes_layOutBuffers (h : SoundFor t c)
    (hok : computeLayouts.layOutBuffers resources c = .ok c') :
    Finishes t c (bufferStructs resources) c' := by
  induction resources generalizing c with
  | nil =>
    cases hok
    exact .nil h
  | cons d resources ih =>
    rw [computeLayouts.layOutBuffers] at hok
    cases hk : d.kind with
    | buffer structName =>
      rw [hk] at hok
      rcases hc : c.layoutFor d.name structName with ⟨_ | l, c₁⟩ <;> simp only [hc] at hok
      · cases hok
      · have hfirst := h.finishes_layoutFor hc
        simpa [bufferStructs, hk] using hfirst.append (ih hfirst.sound hok)
    | _ =>
      rw [hk] at hok
      simpa [bufferStructs, hk] using ih h hok

lemma exists_layOutBuffers (h : SoundFor t c)
    (hl : ∀ s ∈ bufferStructs resources, ∃ l, t.HasLayout s l) :
    ∃ c', computeLayouts.layOutBuffers resources c = .ok c' := by
  induction resources generalizing c with
  | nil => exact ⟨c, rfl⟩
  | cons d resources ih =>
    rw [computeLayouts.layOutBuffers]
    cases hk : d.kind with
    | buffer structName =>
      have hl' : (∃ l, t.HasLayout structName l) ∧
          ∀ s ∈ bufferStructs resources, ∃ l, t.HasLayout s l := by
        simpa [bufferStructs, hk] using hl
      obtain ⟨⟨l, hname⟩, hrest⟩ := hl'
      obtain ⟨c₁, hc⟩ := h.exists_layoutFor hname d.name
      simp only [hc]
      exact ih (h.finishes_layoutFor hc).sound hrest
    | _ => exact ih h (by simpa [bufferStructs, hk] using hl)

/-- Computed layouts are complete, and buffers hold structs that have one. -/
lemma complete_of_computeLayouts (hok : spec.computeLayouts t = .ok c) :
    Complete t c ∧ ∀ s ∈ bufferStructs spec.resources, (c.get? s).isSome := by
  rw [computeLayouts] at hok
  rcases hc : computeAll { table := t } with ⟨_ | ⟨⟩, c₁⟩ <;> simp only [hc] at hok
  · cases hok
  · have hall := (SoundFor.fresh t).finishes_computeEach hc
    have hbuf := finishes_layOutBuffers hall.sound hok
    have hboth := hall.append hbuf
    refine ⟨⟨hboth.sound, fun n hn => ?_⟩, hbuf.finished⟩
    exact hboth.finished n (List.mem_append_left _ hn)

/-- Layouts are computed unless one of the structs in question has none. -/
lemma exists_computeLayouts_iff : (∃ c, spec.computeLayouts t = .ok c) ↔
    (∀ n ∈ t.names, ∃ l, t.HasLayout n l) ∧
      ∀ s ∈ bufferStructs spec.resources, ∃ l, t.HasLayout s l := by
  constructor
  · rintro ⟨c, hok⟩
    obtain ⟨hc, hbuf⟩ := complete_of_computeLayouts hok
    have hlayout {n : String} (hn : (c.get? n).isSome) : ∃ l, t.HasLayout n l := by
      obtain ⟨l, hl⟩ := Option.isSome_iff_exists.1 hn
      exact ⟨l, hc.get?_eq_some_iff.1 hl⟩
    exact ⟨fun n hn => hlayout (hc.finished n hn), fun s hs => hlayout (hbuf s hs)⟩
  · rintro ⟨hall, hbuf⟩
    obtain ⟨c₁, hc⟩ := (SoundFor.fresh t).exists_computeEach hall
    obtain ⟨c, hok⟩ := exists_layOutBuffers ((SoundFor.fresh t).finishes_computeEach hc).sound hbuf
    refine ⟨c, ?_⟩
    have hc' : computeAll { table := t } = (.ok (), c₁) := hc
    rw [computeLayouts, hc']
    exact hok

end Specification
end RenderPlan
