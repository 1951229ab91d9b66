import Mathlib.Data.List.DropRight
import RenderPlan.Files.FileSystem
import RenderPlan.Proofs.Outcome

/-! Where paths lead and what the operations on files change there. There are no links, so the place
of a path can be read off its segments, and every operation that works has worked at that place. -/
namespace RenderPlan

namespace Path

/-- The place one segment leads to. -/
def step (location : Location) (segment : String) : Location :=
  if isVoid segment then location
  else if segment = ".." then location.dropLast
  else location ++ [segment]

/-- The place segments lead to if every place on the way is a directory. -/
def walk (segments : List String) (location : Location) : Location := segments.foldl step location

/-- A segment that names something in the directory at hand. -/
def IsName (name : String) : Prop := '/' ∉ name.toList ∧ isVoid name = false ∧ name ≠ ".."

instance (name : String) : Decidable (IsName name) := inferInstanceAs (Decidable (_ ∧ _ ∧ _))

@[simp] lemma walk_append (xs ys : List String) (location : Location) :
    walk (xs ++ ys) location = walk ys (walk xs location) :=
  List.foldl_append

lemma walk_name {name : String} (hn : isVoid name = false) (hu : name ≠ "..")
    (location : Location) : walk [name] location = location ++ [name] := by
  simp [walk, step, hn, hu]

/-- Empty segments lead nowhere else. -/
lemma walk_empty {segments : List String} (h : ∀ s ∈ segments, s = "") (location : Location) :
    walk segments location = location := by
  induction segments with
  | nil => rfl
  | cons s segments ih =>
    obtain ⟨rfl, hs⟩ := List.forall_mem_cons.1 h
    exact ih hs

@[simp] lemma cut_append (xs ys : List Char) :
    cut (xs ++ '/' :: ys) = ((cut xs).1, (cut xs).2 ++ (cut ys).1 :: (cut ys).2) := by
  induction xs with
  | nil => simp [cut]
  | cons c xs ih =>
    by_cases hc : c = '/'
    · simp [cut, hc, ih]
    · simp [cut, hc, ih]

lemma cut_of_not_mem {xs : List Char} (h : '/' ∉ xs) : cut xs = (xs, []) := by
  induction xs with
  | nil => rfl
  | cons c xs ih =>
    obtain ⟨hc, hxs⟩ := not_or.1 (mt List.mem_cons.2 h)
    simp [cut, ih hxs, Ne.symm hc]

lemma segments_of_not_mem {name : String} (h : '/' ∉ name.toList) : segments name = [name] := by
  simp [segments, cut_of_not_mem h]

@[simp]
lemma walk_segments_empty (location : Location) : walk (segments "") location = location := by
  rw [segments_of_not_mem (by simp)]
  exact walk_empty (by simp) location

/-- A slash divides the segments before it from those after it. -/
lemma segments_append (directory name : String) {path : String}
    (h : path.toList = directory.toList ++ '/' :: name.toList) :
    segments path = segments directory ++ segments name := by
  simp [segments, h]

lemma walk_segments_join {directory name : String} (hn : IsName name) (location : Location) :
    walk (segments (join directory name)) location =
      walk (segments directory) location ++ [name] := by
  obtain ⟨hs, hv, hu⟩ := hn
  rw [join]
  split_ifs with h
  · rcases Bool.or_eq_true_iff.1 h with h | h
    · obtain rfl : directory = "" := by simpa using h
      rw [String.empty_append, segments_of_not_mem hs, walk_name hv hu, walk_segments_empty]
    · -- The last segment of the directory is empty, and the name takes its place.
      obtain ⟨cs, hd⟩ := List.getLast?_eq_some_iff.1 (by simpa using h)
      have hsd : segments directory = segments (String.ofList cs) ++ segments "" :=
        segments_append _ _ (by simp [hd])
      rw [segments_append (String.ofList cs) name (by simp [hd]), hsd, segments_of_not_mem hs,
        walk_append, walk_append, walk_name hv hu, walk_segments_empty]
  · rw [segments_append directory name (by simp), segments_of_not_mem hs, walk_append,
      walk_name hv hu]

lemma isAbsolute_join {directory name : String} (hn : IsName name) :
    isAbsolute (join directory name) = isAbsolute directory := by
  by_cases hd : directory = ""
  · subst hd
    have hne : name.toList.head? ≠ some '/' := fun h => hn.1 (List.mem_of_mem_head? h)
    simp [isAbsolute, join, hne]
  · have hne : directory.toList ≠ [] := by simpa using hd
    obtain ⟨c, cs, hcs⟩ := List.exists_cons_of_ne_nil hne
    rw [isAbsolute, isAbsolute, join]
    split_ifs <;> simp [hcs]

end Path

namespace FileSystem
variable {fs fs' : FileSystem} {location other : Location} {path name : String} {entry : Entry}

/-- The place of a path, as its segments tell it. -/
def place (fs : FileSystem) (path : String) : Location :=
  Path.walk (Path.segments path) (fs.start path)

lemma place_join (fs : FileSystem) (directory : String) (hn : Path.IsName name) :
    fs.place (Path.join directory name) = fs.place directory ++ [name] := by
  rw [place, place, start, start, Path.isAbsolute_join hn, Path.walk_segments_join hn]

/-! Entries -/

lemma lookup_filter {entries : List (Location × Entry)} {p : Location → Bool} :
    (entries.filter fun e => p e.1).lookup location =
      if p location then entries.lookup location else none := by
  induction entries with
  | nil => simp
  | cons e entries ih =>
    obtain ⟨key, entry⟩ := e
    by_cases hk : location = key
    · subst hk
      by_cases hp : p location
      · simp [hp]
      · simp [hp, ih]
    · have hk' : (location == key) = false := beq_eq_false_iff_ne.2 hk
      by_cases hp : p key <;> simp [hp, hk', List.lookup_cons, ih]

lemma entry?_of_ne_nil (h : location ≠ []) : fs.entry? location = fs.entries.lookup location := by
  cases location with
  | nil => exact absurd rfl h
  | cons name rest => rfl

@[simp] lemma entry?_nil (fs : FileSystem) : fs.entry? [] = some .directory := rfl

lemma ne_nil_of_not_directory (h : fs.entry? location ≠ some .directory) : location ≠ [] := by
  rintro rfl
  exact h fs.entry?_nil

lemma entry?_remove (h : location ≠ []) :
    entry? (fs.remove location) other =
      if other = location then none else fs.entry? other := by
  cases other with
  | nil => simp [Ne.symm h]
  | cons name rest =>
    rw [entry?_of_ne_nil (by simp), entry?_of_ne_nil (by simp), remove,
      lookup_filter (p := fun key => decide (key ≠ location))]
    split_ifs <;> simp_all

lemma entry?_put (h : location ≠ []) :
    entry? (fs.put location entry) other =
      if other = location then some entry else fs.entry? other := by
  by_cases ho : other = location
  · subst ho
    simp [entry?_of_ne_nil h, put]
  · have hk : (other == location) = false := beq_eq_false_iff_ne.2 ho
    rw [if_neg ho]
    have hr : entry? (fs.remove location) other = fs.entry? other := by
      rw [entry?_remove h, if_neg ho]
    rw [← hr]
    cases other with
    | nil => rfl
    | cons name rest => simp [entry?_of_ne_nil, put, List.lookup_cons, hk]

lemma entry?_removeTree (hp : fs.locate path = .ok location) (h : location ≠ []) :
    entry? (fs.removeTree path) other =
      if location <+: other then none else fs.entry? other := by
  cases other with
  | nil => simp [h]
  | cons name rest =>
    rw [entry?_of_ne_nil (by simp), entry?_of_ne_nil (by simp), removeTree, hp,
      lookup_filter (p := fun key => !location.isPrefixOf key)]
    simp only [Bool.not_eq_true', ← Bool.not_eq_true, List.isPrefixOf_iff_prefix, ite_not]

/-! Following a path -/

/-- What following one segment takes: a directory to start from and a segment that can be meant. -/
lemma follow_cons_eq_ok_iff {segment : String} {segments : List String} :
    fs.follow (segment :: segments) location = .ok other ↔
      fs.entry? location = some .directory ∧
        (Path.isVoid segment ∨ segment = ".." ∨ isUsableName segment) ∧
          fs.follow segments (Path.step location segment) = .ok other := by
  rw [follow, Path.step]
  split
  · simp_all
  · simp_all
  · split_ifs <;> simp_all

lemma eq_walk_of_follow {segments : List String} (h : fs.follow segments location = .ok other) :
    other = Path.walk segments location := by
  induction segments generalizing location with
  | nil => exact (Except.ok.inj h).symm
  | cons segment segments ih => exact ih (follow_cons_eq_ok_iff.1 h).2.2

lemma eq_place_of_locate (h : fs.locate path = .ok location) : location = fs.place path := by
  rw [locate] at h
  split_ifs at h
  exact eq_walk_of_follow h

lemma follow_append {xs ys : List String} {goal : Location}
    (hx : fs.follow xs location = .ok other) (hy : fs.follow ys other = .ok goal) :
    fs.follow (xs ++ ys) location = .ok goal := by
  induction xs generalizing location with
  | nil =>
    obtain rfl := Except.ok.inj hx
    exact hy
  | cons segment xs ih =>
    obtain ⟨hd, hs, hr⟩ := follow_cons_eq_ok_iff.1 hx
    exact follow_cons_eq_ok_iff.2 ⟨hd, hs, ih hr⟩

lemma follow_empty {segments : List String} (h : ∀ s ∈ segments, s = "")
    (hd : fs.entry? location = some .directory) :
    fs.follow segments location = .ok location := by
  induction segments with
  | nil => rfl
  | cons segment segments ih =>
    obtain ⟨rfl, hs⟩ := List.forall_mem_cons.1 h
    exact follow_cons_eq_ok_iff.2 ⟨hd, .inl rfl, ih hs⟩

/-- Paths start in the same place, and every directory is still there. -/
structure Keeps (fs fs' : FileSystem) : Prop where
  here : fs'.here = fs.here
  directory : ∀ {location}, fs.entry? location = some .directory →
    fs'.entry? location = some .directory

lemma Keeps.rfl : fs.Keeps fs := ⟨Eq.refl _, id⟩

lemma Keeps.trans {fs'' : FileSystem} (h : fs.Keeps fs') (h' : fs'.Keeps fs'') : fs.Keeps fs'' :=
  ⟨h'.here.trans h.here, fun hd => h'.directory (h.directory hd)⟩

lemma Keeps.place (h : fs.Keeps fs') (path : String) : fs'.place path = fs.place path := by
  rw [FileSystem.place, FileSystem.place, start, start, h.here]

lemma Keeps.put (entry : Entry) (h : fs.entry? location ≠ some .directory) :
    fs.Keeps (fs.put location entry) where
  here := Eq.refl _
  directory := by
    intro l hl
    have hne : l ≠ location := by
      rintro rfl
      exact h hl
    rw [entry?_put (ne_nil_of_not_directory h), if_neg hne, hl]

lemma Keeps.remove (h : fs.entry? location ≠ some .directory) :
    fs.Keeps (fs.remove location) where
  here := Eq.refl _
  directory := by
    intro l hl
    have hne : l ≠ location := by
      rintro rfl
      exact h hl
    rw [entry?_remove (ne_nil_of_not_directory h), if_neg hne, hl]

lemma Keeps.follow (h : fs.Keeps fs') {segments : List String}
    (hf : fs.follow segments location = .ok other) :
    fs'.follow segments location = .ok other := by
  induction segments generalizing location with
  | nil => exact hf
  | cons segment segments ih =>
    obtain ⟨hd, hs, hr⟩ := follow_cons_eq_ok_iff.1 hf
    exact follow_cons_eq_ok_iff.2 ⟨h.directory hd, hs, ih hr⟩

lemma Keeps.locate (h : fs.Keeps fs') (hl : fs.locate path = .ok location) :
    fs'.locate path = .ok location := by
  rw [FileSystem.locate] at hl ⊢
  split_ifs at hl ⊢
  rw [start, h.here]
  exact h.follow hl

end FileSystem

end RenderPlan
