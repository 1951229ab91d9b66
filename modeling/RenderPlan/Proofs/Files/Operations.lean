import RenderPlan.Files.Store
import RenderPlan.Proofs.Files.Places

/-! What the operations on files do to the files there are. Making directories touches no file, and
writing and moving touch the places that their paths name. -/
namespace RenderPlan

def Entry.content? : Entry → Option ByteArray
  | file content => some content
  | directory => none

namespace FileSystem
variable {fs fs' fs'' : FileSystem} {location other : Location} {path : String}

/-- The content of the file in a place. -/
def file? (fs : FileSystem) (location : Location) : Option ByteArray :=
  (fs.entry? location).bind Entry.content?

/-- The same files with the same contents, whatever directories there are. -/
def SameFiles (fs fs' : FileSystem) : Prop := ∀ location, fs'.file? location = fs.file? location

/-- Whatever there is lies in a directory. -/
def IsTree (fs : FileSystem) : Prop :=
  ∀ {location entry}, fs.entry? location = some entry →
    fs.entry? location.dropLast = some .directory

lemma isTree_of_all
    (h : fs.entries.all (fun e => (fs.entry? e.1.dropLast).any Entry.isDirectory) = true) :
    fs.IsTree := by
  intro location entry he
  by_cases hl : location = []
  · rw [hl]
    rfl
  · rw [entry?_of_ne_nil hl] at he
    obtain ⟨before, after, hentries, -⟩ := List.lookup_eq_some_iff.1 he
    have hd := List.all_eq_true.1 h (location, entry) (by simp [hentries])
    obtain ⟨above, habove, hdir⟩ := (Option.any_eq_true _ _).1 hd
    cases above with
    | file content => cases hdir
    | directory => exact habove

/-- There is nothing below a place where there is nothing. -/
lemma IsTree.entry?_eq_none (h : fs.IsTree) (hn : fs.entry? location = none)
    (hp : location <+: other) : fs.entry? other = none := by
  obtain ⟨rest, rfl⟩ := hp
  induction rest using List.reverseRecOn with
  | nil => rwa [List.append_nil]
  | append_singleton rest name ih =>
    by_contra hne
    obtain ⟨entry, he⟩ := Option.ne_none_iff_exists'.1 hne
    have hd := h he
    rw [← List.append_assoc, List.dropLast_concat, ih] at hd
    cases hd

/-- Some directories were made where there was nothing. -/
structure Extends (fs fs' : FileSystem) : Prop where
  here : fs'.here = fs.here
  entry : ∀ location, fs'.entry? location = fs.entry? location ∨
    fs.entry? location = none ∧ fs'.entry? location = some .directory
  isTree : fs.IsTree → fs'.IsTree

namespace Extends

lemma refl : fs.Extends fs := ⟨rfl, fun _ => .inl rfl, id⟩

lemma trans (h : fs.Extends fs') (h' : fs'.Extends fs'') : fs.Extends fs'' where
  here := h'.here.trans h.here
  entry location := by
    rcases h.entry location with he | ⟨hn, hd⟩
    · simpa only [he] using h'.entry location
    · rcases h'.entry location with he' | ⟨hn', -⟩
      · exact .inr ⟨hn, he'.trans hd⟩
      · rw [hd] at hn'
        cases hn'
  isTree ht := h'.isTree (h.isTree ht)

lemma keeps (h : fs.Extends fs') : fs.Keeps fs' where
  here := h.here
  directory := by
    intro location hd
    rcases h.entry location with he | ⟨-, hd'⟩
    · rw [he, hd]
    · exact hd'

lemma sameFiles (h : fs.Extends fs') : fs.SameFiles fs' := by
  intro location
  rcases h.entry location with he | ⟨hn, hd⟩
  · rw [file?, file?, he]
  · rw [file?, file?, hn, hd]
    rfl

/-- A file stays where it was. -/
lemma entry?_file (h : fs.Extends fs') {content : ByteArray}
    (hf : fs.entry? location = some (.file content)) :
    fs'.entry? location = some (.file content) := by
  rcases h.entry location with he | ⟨hn, -⟩
  · rw [he, hf]
  · rw [hf] at hn
    cases hn

lemma put (hn : fs.entry? location = none)
    (hd : fs.entry? location.dropLast = some .directory) :
    fs.Extends (fs.put location .directory) := by
  have hne : location ≠ [] := by
    rintro rfl
    cases hn
  refine ⟨rfl, fun l => ?_, fun ht l entry hl => ?_⟩
  · rw [entry?_put hne]
    split_ifs with h
    · exact .inr ⟨h ▸ hn, rfl⟩
    · exact .inl rfl
  · have hl' : fs.entry? l.dropLast = some .directory := by
      rw [entry?_put hne] at hl
      split_ifs at hl with h
      · exact h ▸ hd
      · exact ht hl
    rw [entry?_put hne, hl', ite_self]

end Extends

/-- A path is what counts of it, followed by segments that say nothing. -/
lemma segments_eq_append {init : List String} {name : String}
    (h : ((Path.segments path).reverse.dropWhile (· = "")).reverse = init ++ [name]) :
    name ≠ "" ∧ ∃ tail, Path.segments path = init ++ name :: tail ∧ ∀ s ∈ tail, s = "" := by
  have hd : (Path.segments path).reverse.dropWhile (· = "") = name :: init.reverse := by
    simpa using congrArg List.reverse h
  have hn := List.head?_dropWhile_not (fun s => decide (s = "")) (Path.segments path).reverse
  have hs := List.takeWhile_append_dropWhile (p := fun s => decide (s = ""))
    (l := (Path.segments path).reverse)
  rw [hd] at hn hs
  refine ⟨by simpa using hn, _, by simpa using (congrArg List.reverse hs).symm, fun s ht => ?_⟩
  simpa using List.mem_takeWhile_imp (List.mem_reverse.1 ht)

/-- What it takes to make a directory. -/
lemma exists_of_makeDirectory (h : fs.makeDirectory path = .ok fs') :
    ∃ init name tail above, Path.segments path = init ++ name :: tail ∧ (∀ s ∈ tail, s = "") ∧
      Path.isVoid name = false ∧ name ≠ ".." ∧ isUsableName name ∧
      fs.follow init (fs.start path) = .ok above ∧ fs.entry? above = some .directory ∧
      fs.entry? (above ++ [name]) = none ∧ fs' = fs.put (above ++ [name]) .directory := by
  rw [makeDirectory] at h
  split at h
  · cases h
  · rename_i name hl
    obtain ⟨init, hinit⟩ := List.getLast?_eq_some_iff.1 hl
    obtain ⟨hne, tail, htail, hempty⟩ := segments_eq_append hinit
    rw [hinit, List.dropLast_concat, bind_eq_ok_iff] at h
    obtain ⟨above, hf, h⟩ := h
    split at h
    · cases h
    · cases h
    · rename_i hd
      split_ifs at h with hname hthere
      obtain ⟨hpoint, hup, husable⟩ : name ≠ "." ∧ name ≠ ".." ∧ isUsableName name := by
        simpa [not_or] using hname
      refine ⟨init, name, tail, above, htail, hempty, ?_, hup, husable, hf, hd,
        by simpa using hthere, (Except.ok.inj h).symm⟩
      simp [Path.isVoid, hne, hpoint]

/-- A directory is made where there was nothing, and its path leads there from then on. -/
lemma of_makeDirectory (h : fs.makeDirectory path = .ok fs') :
    fs.entry? (fs.place path) = none ∧ fs.Extends fs' ∧
      fs'.entry? (fs.place path) = some .directory ∧ fs'.locate path = .ok (fs.place path) := by
  obtain ⟨init, name, tail, above, hs, ht, hv, hu, husable, hf, hd, hn, rfl⟩ :=
    exists_of_makeDirectory h
  have hplace : fs.place path = above ++ [name] := by
    rw [place, hs, ← List.singleton_append, Path.walk_append, Path.walk_append,
      ← eq_walk_of_follow hf, Path.walk_name hv hu, Path.walk_empty ht]
  have hext : fs.Extends (fs.put (above ++ [name]) .directory) :=
    .put hn (by rwa [List.dropLast_concat])
  have hmade : entry? (fs.put (above ++ [name]) .directory) (above ++ [name]) =
      some .directory := by
    rw [entry?_put (by simp), if_pos rfl]
  have hne : path ≠ "" := by
    rintro rfl
    have hmem : name ∈ Path.segments "" := by simp [hs]
    obtain rfl : name = "" := by simpa [Path.segments, Path.cut] using hmem
    exact absurd hv (by decide)
  rw [hplace]
  refine ⟨hn, hext, hmade, ?_⟩
  rw [locate, if_neg hne, hs]
  refine follow_append (hext.keeps.follow hf) ?_
  rw [follow_cons_eq_ok_iff, Path.step, hv, if_neg (by simp), if_neg hu]
  exact ⟨hext.keeps.directory hd, .inr (.inr husable), follow_empty ht hmade⟩

/-- A path leads to a directory, other than the root, that holds no files. -/
structure IsEmptyAt (fs : FileSystem) (path : String) : Prop where
  locate : fs.locate path = .ok (fs.place path)
  directory : fs.entry? (fs.place path) = some .directory
  ne_root : fs.place path ≠ []
  empty : ∀ location, fs.place path <+: location → fs.file? location = none

lemma isEmptyAt_of_makeDirectory (hfs : fs.IsTree) (h : fs.makeDirectory path = .ok fs') :
    fs'.IsEmptyAt path := by
  obtain ⟨hn, hext, hd, hl⟩ := of_makeDirectory h
  rw [← hext.keeps.place path] at hn hd hl
  refine ⟨hl, hd, ?_, fun location hp => ?_⟩
  · intro hroot
    rw [hroot] at hn
    cases hn
  · rw [hext.sameFiles location, file?, hfs.entry?_eq_none hn hp]
    rfl

lemma makeDirectoriesWithin_extends (bound : Nat) (fs : FileSystem) (path : String) :
    fs.Extends (makeDirectoriesWithin bound fs path).2 := by
  fun_induction makeDirectoriesWithin bound fs path with
  | case1 | case3 | case4 | case5 => exact .refl
  | case2 _ _ _ _ _ hmade => exact (of_makeDirectory hmade).2.1
  | case6 _ _ _ _ _ _ _ _ habove ih => simpa [habove] using ih
  | case7 _ _ _ _ _ _ _ _ habove _ hmade ih =>
    rw [habove] at ih
    exact ih.trans (of_makeDirectory hmade).2.1
  | case8 _ _ _ _ _ _ _ _ habove _ _ ih => simpa [habove] using ih

/-- A file is written at the place of its path. -/
lemma of_write {content : ByteArray} (h : fs.write path content = some fs') :
    fs.entry? (fs.place path) ≠ some .directory ∧
      fs' = fs.put (fs.place path) (.file content) := by
  rw [write] at h
  split at h
  · rename_i location hl
    obtain rfl := eq_place_of_locate hl
    split_ifs at h with hd
    refine ⟨fun he => ?_, (Option.some.inj h).symm⟩
    simp [he, Entry.isDirectory] at hd
  · cases h

/-- A file is moved from the place of one path to the place of the other. -/
lemma of_move {source target : String} (h : fs.move source target = some fs') :
    ∃ content, fs.entry? (fs.place source) = some (.file content) ∧
      fs.entry? (fs.place target) ≠ some .directory ∧
      fs' = (fs.remove (fs.place source)).put (fs.place target) (.file content) := by
  rw [move] at h
  split at h
  · rename_i origin goal ho hg
    obtain rfl := eq_place_of_locate ho
    obtain rfl := eq_place_of_locate hg
    split at h
    · rename_i content hc
      split_ifs at h with hd
      refine ⟨content, hc, fun he => ?_, (Option.some.inj h).symm⟩
      simp [he, Entry.isDirectory] at hd
    · cases h
  · cases h

end FileSystem

end RenderPlan
