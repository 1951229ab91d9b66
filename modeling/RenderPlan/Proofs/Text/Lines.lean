import RenderPlan.Proofs.Text.Scanning

/-! Texts line by line. A text that is put together from lines has these lines again, if none of them
holds a line break. What a line declares stands behind the word that opens it, so the declared names of
a text are found without knowing how it was put together. -/
namespace RenderPlan.Text
variable {ls before : List String} {line word text : String} {p : List String → String → Prop}

/-- The parts of a text between the line breaks. -/
def lines (text : String) : List String := (text.toList.splitOn '\n').map String.ofList

/-- Lines with a break behind each of them. -/
def unlines (ls : List String) : String := String.join (ls.map (· ++ "\n"))

@[simp] lemma unlines_nil : unlines [] = "" := rfl

@[simp] lemma unlines_cons (line : String) (ls : List String) :
    unlines (line :: ls) = line ++ "\n" ++ unlines ls := by
  simp [unlines]

@[simp] lemma unlines_append (ls ls' : List String) :
    unlines (ls ++ ls') = unlines ls ++ unlines ls' := by
  simp [unlines]

@[simp] lemma unlines_flatMap {α : Type} (f : α → List String) (xs : List α) :
    unlines (xs.flatMap f) = String.join (xs.map fun x => unlines (f x)) := by
  induction xs with
  | nil => rfl
  | cons x xs ih => simp [ih]

lemma toList_unlines (ls : List String) :
    (unlines ls).toList = ['\n'].intercalate (ls.map String.toList ++ [[]]) := by
  induction ls with
  | nil => rfl
  | cons line ls ih =>
    rw [unlines_cons, String.toList_append, String.toList_append, ih]
    cases ls <;> simp [List.intercalate]

/-- The text holds no line break. -/
def Unbroken (text : String) : Prop := '\n' ∉ text.toList

instance (text : String) : Decidable (Unbroken text) := inferInstanceAs (Decidable (_ ∉ _))

@[simp] lemma unbroken_append {text' : String} :
    Unbroken (text ++ text') ↔ Unbroken text ∧ Unbroken text' := by
  simp [Unbroken]

/-- Letters, digits and underscores, in any order. -/
def Plain (text : String) : Prop := ∀ c ∈ text.toList, isIdentifierPart c = true

instance (text : String) : Decidable (Plain text) :=
  List.decidableBAll (fun c => isIdentifierPart c = true) text.toList

@[simp] lemma plain_append {text' : String} : Plain (text ++ text') ↔ Plain text ∧ Plain text' := by
  simp [Plain, or_imp, forall_and]

lemma plain_decimal (n : ℕ) : Plain (decimal n) := by
  intro c hc
  simp [isIdentifierPart, Char.isAlphanum, isDigit_of_mem_decimal hc]

lemma IsIdentifier.plain (h : IsIdentifier text.toList) : Plain text := fun _ => h.isIdentifierPart

lemma IsIdentifier.ne_empty (h : IsIdentifier text.toList) : text ≠ "" := by
  rintro rfl
  obtain ⟨c, rest, hcs, -⟩ := h.word
  cases hcs

lemma Plain.ne (h : Plain text) {c d : Char} (hc : c ∈ text.toList)
    (hd : isIdentifierPart d = false) : c ≠ d := by
  rintro rfl
  rw [h c hc] at hd
  cases hd

lemma Plain.unbroken (h : Plain text) : Unbroken text := fun hbreak => h.ne hbreak (by decide) rfl

/-- Equal texts that open with plain ones open with the same, if the plain ones end there. -/
lemma Plain.append_inj {plain plain' : String} {rest rest' : List Char} (h : Plain plain)
    (h' : Plain plain') (hr : ∀ c ∈ rest.head?, isIdentifierPart c = false)
    (hr' : ∀ c ∈ rest'.head?, isIdentifierPart c = false)
    (heq : plain.toList ++ rest = plain'.toList ++ rest') : plain = plain' ∧ rest = rest' := by
  have hplain : plain = plain' := String.toList_inj.1 (run_eq_of_append_eq h h' hr hr' heq)
  subst hplain
  exact ⟨rfl, List.append_cancel_left heq⟩

lemma unbroken_intercalate {sep : String} {parts : List String} (hsep : Unbroken sep)
    (h : ∀ part ∈ parts, Unbroken part) : Unbroken (sep.intercalate parts) := by
  induction parts with
  | nil => simp [Unbroken]
  | cons part parts ih =>
    obtain ⟨hpart, hparts⟩ := List.forall_mem_cons.1 h
    cases parts with
    | nil => simpa using hpart
    | cons next parts =>
      rw [String.intercalate_cons_cons, unbroken_append, unbroken_append]
      exact ⟨⟨hpart, hsep⟩, ih hparts⟩

/-- The break behind the last line leaves an empty line. -/
lemma lines_unlines (h : ∀ line ∈ ls, Unbroken line) : lines (unlines ls) = ls ++ [""] := by
  have hbreaks : ∀ l ∈ ls.map String.toList ++ [[]], '\n' ∉ l := by
    intro l hl
    rcases List.mem_append.1 hl with hl | hl
    · obtain ⟨line, hline, rfl⟩ := List.mem_map.1 hl
      exact h line hline
    · simp [List.mem_singleton.1 hl]
  rw [lines, toList_unlines, List.splitOn_intercalate '\n' hbreaks (by simp)]
  simp [Function.comp_def]

lemma unlines_inj {ls' : List String} (hl : ∀ line ∈ ls, Unbroken line)
    (hl' : ∀ line ∈ ls', Unbroken line) (h : unlines ls = unlines ls') : ls = ls' := by
  apply List.append_cancel_right
  rw [← lines_unlines hl, h, lines_unlines hl']

/-- What stands behind the word, on the lines that open with it. -/
def behind (word : String) (ls : List String) : List String :=
  ls.filterMap fun line => (after? word.toList line.toList).map String.ofList

@[simp] lemma behind_append (word : String) (ls ls' : List String) :
    behind word (ls ++ ls') = behind word ls ++ behind word ls' := List.filterMap_append

@[simp] lemma behind_cons_opened (word name : String) (ls : List String) :
    behind word ((word ++ name) :: ls) = name :: behind word ls := by
  rw [behind, List.filterMap_cons, String.toList_append, after?_append]
  simp [behind]

lemma behind_cons_of_head (hword : word ≠ "") (h : line.toList.head? ≠ word.toList.head?) :
    behind word (line :: ls) = behind word ls := by
  rw [behind, List.filterMap_cons, after?_eq_none_of_head (by simpa using hword) h]
  rfl

lemma behind_eq_nil_of_head (hword : word ≠ "")
    (h : ∀ line ∈ ls, line.toList.head? ≠ word.toList.head?) : behind word ls = [] := by
  induction ls with
  | nil => rfl
  | cons line ls ih =>
    obtain ⟨hline, hls⟩ := List.forall_mem_cons.1 h
    rw [behind_cons_of_head hword hline, ih hls]

@[simp] lemma behind_flatMap {α : Type} (word : String) (f : α → List String) (xs : List α) :
    behind word (xs.flatMap f) = xs.flatMap fun x => behind word (f x) := List.filterMap_flatMap

/-- The characters in front of the first blank. -/
def firstWord (text : String) : String := String.ofList (text.toList.takeWhile (· != ' '))

lemma firstWord_append (h : ∀ c ∈ text.toList, c ≠ ' ') (rest : String) :
    firstWord (text ++ " " ++ rest) = text := by
  have hrest : ∀ c ∈ (" " ++ rest).toList.head?, c = ' ' := by simp
  rw [firstWord, String.append_assoc, String.toList_append, takeWhile_append_mark h hrest,
    String.ofList_toList]

/-- Each line passes the test together with the lines before it. -/
@[simp] def EachAfter (p : List String → String → Prop) : (before : List String) → List String → Prop
  | _, [] => True
  | before, line :: ls => p before line ∧ EachAfter p (before ++ [line]) ls

@[simp] lemma eachAfter_append {ls' : List String} :
    EachAfter p before (ls ++ ls') ↔ EachAfter p before ls ∧ EachAfter p (before ++ ls) ls' := by
  induction ls generalizing before with
  | nil => simp
  | cons line ls ih =>
    rw [List.cons_append, EachAfter, EachAfter, ih, and_assoc, List.append_assoc]
    rfl

lemma EachAfter.of_split {front back : List String}
    (h : EachAfter p before (front ++ line :: back)) : p (before ++ front) line :=
  (eachAfter_append.1 h).2.1

lemma eachAfter_of_forall (hmono : ∀ front more line, p front line → p (front ++ more) line)
    (h : ∀ line ∈ ls, p before line) : EachAfter p before ls := by
  induction ls generalizing before with
  | nil => trivial
  | cons line ls ih =>
    obtain ⟨hline, hls⟩ := List.forall_mem_cons.1 h
    exact ⟨hline, ih fun l hl => hmono _ _ _ (hls l hl)⟩

/-- The lines of items that follow one another, each item behind those in front of it. -/
lemma eachAfter_flatMap {α : Type} {f : α → List String} {xs : List α}
    (h : ∀ front x back, xs = front ++ x :: back → EachAfter p (before ++ front.flatMap f) (f x)) :
    EachAfter p before (xs.flatMap f) := by
  induction xs generalizing before with
  | nil => trivial
  | cons x xs ih =>
    rw [List.flatMap_cons, eachAfter_append]
    refine ⟨by simpa using h [] x xs rfl, ih fun front y back hsplit => ?_⟩
    simpa using h (x :: front) y back (by rw [hsplit]; rfl)

end RenderPlan.Text
