import Mathlib.Data.List.Nodup
import RenderPlan.Proofs.Shader.StructNames
import RenderPlan.Proofs.Upload.Leaves

/-! The texts of the paths in a plan. Different paths may have one text, since a field and a component
can both be written `.x`. Within the plan of a checked struct they differ all the same: a name goes on
as far as the characters of names do, an index up to its bracket, and fields of one struct have
different names. -/
namespace RenderPlan
open Text

/-- The text of a path behind another one, where every segment shows its mark. -/
def markedText (segments : List PathSegment) : List Char :=
  segments.flatMap fun s => s.text.toList

@[simp] lemma markedText_cons (s : PathSegment) (segments : List PathSegment) :
    markedText (s :: segments) = s.text.toList ++ markedText segments :=
  List.flatMap_cons

/-- A segment opens with a mark that belongs to no name and no number. -/
lemma PathSegment.exists_mark (s : PathSegment) :
    ∃ mark rest, s.text.toList = mark :: rest ∧ isIdentifierPart mark = false := by
  match s with
  | field name => exact ⟨'.', name.toList, String.toList_append, by decide⟩
  | index i => exact ⟨'[', (Text.decimal i ++ "]").toList, by simp [text], by decide⟩
  | component 0 => exact ⟨'.', ['x'], rfl, by decide⟩
  | component 1 => exact ⟨'.', ['y'], rfl, by decide⟩
  | component 2 => exact ⟨'.', ['z'], rfl, by decide⟩
  | component 3 => exact ⟨'.', ['w'], rfl, by decide⟩
  | component (n + 4) => exact ⟨'.', (Text.decimal (n + 4)).toList, String.toList_append, by decide⟩

lemma head?_markedText (segments : List PathSegment) :
    ∀ c ∈ (markedText segments).head?, isIdentifierPart c = false := by
  intro c hc
  cases segments with
  | nil => cases hc
  | cons s segments =>
    obtain ⟨mark, rest, hs, hmark⟩ := s.exists_mark
    rw [markedText_cons, hs] at hc
    cases hc
    exact hmark

/-- The name of a field goes on up to the next mark. -/
lemma name_eq_of_markedText_eq {name name' : String} (hname : IsIdentifier name.toList)
    (hname' : IsIdentifier name'.toList) {rest rest' : List PathSegment}
    (h : markedText (.field name :: rest) = markedText (.field name' :: rest')) : name = name' := by
  simp only [markedText_cons, PathSegment.text, String.toList_append, List.append_assoc] at h
  apply String.toList_inj.1
  exact run_eq_of_append_eq (fun _ => hname.isIdentifierPart) (fun _ => hname'.isIdentifierPart)
    (head?_markedText rest) (head?_markedText rest') (List.append_cancel_left h)

/-- The digits of an index go on up to its bracket. -/
lemma index_eq_of_markedText_eq {i j : ℕ} {rest rest' : List PathSegment}
    (h : markedText (.index i :: rest) = markedText (.index j :: rest')) : i = j := by
  simp only [markedText_cons, PathSegment.text, String.toList_append, List.append_assoc] at h
  have hbracket (rest : List Char) : ∀ c ∈ ("]".toList ++ rest).head?, c.isDigit = false := by
    rintro c ⟨⟩
    decide
  apply decimal_inj
  apply String.toList_inj.1
  exact run_eq_of_append_eq (fun _ => isDigit_of_mem_decimal) (fun _ => isDigit_of_mem_decimal)
    (hbracket _) (hbracket _) (List.append_cancel_left h)

/-- A field in front only loses its dot. -/
lemma markedText_eq_of_text_eq {p q : ValuePath} (hp : ∃ name rest, p.segments = .field name :: rest)
    (hq : ∃ name rest, q.segments = .field name :: rest) (h : p.text = q.text) :
    markedText p.segments = markedText q.segments := by
  have hdot {p : ValuePath} (hp : ∃ name rest, p.segments = .field name :: rest) :
      markedText p.segments = '.' :: p.text.toList := by
    obtain ⟨⟨segments⟩, name, rest, rfl⟩ := p, hp
    rw [markedText_cons, PathSegment.text, ValuePath.text, String.toList_append, String.toList_append,
      String.toList_join, List.flatMap_map]
    rfl
  rw [hdot hp, hdot hq, h]

/-- No two leaves have one text behind the same path. -/
def Distinguished (xs : List Leaf) : Prop := (xs.map fun x => markedText x.segments).Nodup

namespace Distinguished
variable {total : String → ℕ} {inside : String → List Leaf}

/-- Parts of a value are told apart by their first segments. -/
lemma flatMap_under {ι : Type} {parts : List ι} {segment : ι → PathSegment} {shift : ι → ℕ}
    {xs : ι → List Leaf} (hparts : parts.Nodup) (hxs : ∀ i ∈ parts, Distinguished (xs i))
    (hsegment : ∀ i ∈ parts, ∀ j ∈ parts, ∀ rest rest',
      markedText (segment i :: rest) = markedText (segment j :: rest') → i = j) :
    Distinguished (parts.flatMap fun i => (xs i).map (.under (segment i) (shift i))) := by
  rw [Distinguished, List.map_flatMap, List.nodup_flatMap]
  simp only [List.map_map]
  constructor
  · intro i hi
    have hmap := (hxs i hi).map (List.append_right_injective (segment i).text.toList)
    rwa [List.map_map] at hmap
  · refine hparts.imp_of_mem fun {i j} hi hj hne text hmem hmem' => ?_
    obtain ⟨x, -, rfl⟩ := List.mem_map.1 hmem
    obtain ⟨y, -, hy⟩ := List.mem_map.1 hmem'
    exact hne (hsegment i hi j hj x.segments y.segments hy.symm)

lemma elements {xs : List Leaf} (h : Distinguished xs) (n : ℕ) (shift : ℕ → ℕ) :
    Distinguished ((List.range n).flatMap fun i => xs.map (.under (.index i) (shift i))) :=
  flatMap_under List.nodup_range (fun _ _ => h) fun _ _ _ _ _ _ => index_eq_of_markedText_eq

lemma components (kind : Scalar) (arity : Arity) : Distinguished (componentLeaves kind arity) := by
  rw [Distinguished, componentLeaves, List.map_map]
  change ((List.range arity.count).map fun c => markedText [.component c]).Nodup
  cases arity <;> decide

lemma leaves {ty : ShaderType} (h : ∀ m, ty.referenced = some m → Distinguished (inside m)) :
    Distinguished (ty.leaves total inside) := by
  induction ty with
  | scalar kind => exact List.nodup_singleton _
  | vector kind arity => exact components kind arity
  | matrix columns rows => exact (components .float rows).elements _ _
  | array element length ih => exact (ih h).elements _ _
  | struct name => exact h name rfl

/-- Fields with different identifiers as names keep the leaves of a struct apart. -/
lemma fields {l : StructLayout} (hnames : (l.fields.map FieldLayout.name).Nodup)
    (hident : ∀ f ∈ l.fields, IsIdentifier f.name.toList)
    (h : ∀ m ∈ references (l.fields.map FieldLayout.decl), Distinguished (inside m)) :
    Distinguished (l.leaves total inside) := by
  refine flatMap_under hnames.of_map (fun f hf => leaves fun m hm => ?_) ?_
  · exact h m (mem_references_map_decl hf hm)
  · intro f hf g hg rest rest' heq
    have hname := name_eq_of_markedText_eq (hident f hf) (hident g hg) heq
    exact List.inj_on_of_nodup_map hnames hf hg hname

end Distinguished

section Checked
variable {t : StructTable} {stored : String → Option StructLayout} {name : String} {xs : List Leaf}

/-- By induction over the structs below: in a checked table, the leaves of a struct are told apart by
their texts. -/
lemma StructTable.HasLeaves.distinguished (hcheck : t.check = .ok ())
    (h : t.HasLeaves stored name xs) : Distinguished xs := by
  induction h with
  | intro declared below allowed ih =>
    obtain ⟨l, -, hdecl, rfl⟩ := allowed
    have hd := forM_eq_ok_iff.1 hcheck _ (mem_of_get? declared)
    obtain ⟨hident, hnames, -⟩ := checkFields_eq_ok_iff.1 (checkDecl_eq_ok_iff.1 hd).2.2.2
    rw [← hdecl] at hident hnames ih
    rw [List.map_map] at hnames
    exact .fields hnames (fun f hf => (hident _ (List.mem_map_of_mem hf)).1) ih

lemma StructTable.HasLeaves.exists_field (h : t.HasLeaves stored name xs) :
    ∀ x ∈ xs, ∃ field rest, x.segments = .field field :: rest := by
  obtain ⟨-, -, l, -, -, rfl⟩ := h
  intro x hx
  obtain ⟨f, -, hx⟩ := List.mem_flatMap.1 hx
  obtain ⟨y, -, rfl⟩ := List.mem_map.1 hx
  exact ⟨f.name, y.segments, rfl⟩

end Checked

/-- If the table passes its check, every struct with a layout has a plan, and the texts of its paths
are all different. -/
theorem LayoutCache.nodup_path_texts (t : StructTable) (hcheck : t.check = .ok ())
    (requests : List LayoutRequest) (name : String) (l : StructLayout)
    (h : ((fresh t).serveAll requests).get? name = some l) :
    ∃ plan, ((fresh t).serveAll requests).done.plan l = .ok plan ∧
      (plan.writes.map fun w => w.path.text).Nodup := by
  obtain ⟨xs, hxs, hplan⟩ := ((SoundFor.fresh t).serveAll requests).exists_plan h
  refine ⟨_, hplan, ?_⟩
  have hmarked := List.pairwise_map.1 (hxs.distinguished hcheck)
  simp only [List.map_map]
  refine List.pairwise_map.2 (hmarked.imp_of_mem fun hx hy hne heq => hne ?_)
  exact markedText_eq_of_text_eq (hxs.exists_field _ hx) (hxs.exists_field _ hy) heq

/-- Fields named as components and as parts of one another, next to vectors and in arrays. -/
def lookalikeTable : StructTable where
  decls :=
    [⟨"Point", [⟨"x", .scalar .float⟩, ⟨"xx", .vector .int .two⟩, ⟨"y", .matrix .two .four⟩]⟩,
      ⟨"Cloud", [⟨"x", .vector .bool .three⟩, ⟨"x1", .array (.struct "Point") ⟨11, by decide⟩⟩,
        ⟨"x11", .array (.array (.scalar .uint) ⟨12, by decide⟩) ⟨11, by decide⟩⟩,
        ⟨"x_y", .struct "Point"⟩]⟩]
  distinct := by decide

/-- `x.x` and `x_y.x`, `x1[1].x` and `x11[1][0]` stay apart. -/
theorem LayoutCache.nodup_path_texts_lookalike :
    let c := (fresh lookalikeTable).serveAll [.computeAll]
    lookalikeTable.check = .ok () ∧ ∃ l, c.get? "Cloud" = some l ∧
      ∃ plan, c.done.plan l = .ok plan ∧ (plan.writes.map fun w => w.path.text).Nodup := by
  intro c
  have hcheck : lookalikeTable.check = .ok () := by decide +kernel
  have hsome : (c.get? "Cloud").isSome = true := by decide +kernel
  obtain ⟨l, hl⟩ := Option.isSome_iff_exists.1 hsome
  exact ⟨hcheck, l, hl, nodup_path_texts lookalikeTable hcheck [.computeAll] "Cloud" l hl⟩

end RenderPlan
