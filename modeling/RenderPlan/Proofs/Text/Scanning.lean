import Mathlib.Data.List.DropRight
import RenderPlan.Text.Blank
import RenderPlan.Text.Identifier
import RenderPlan.Text.Numeral

/-! What is looked for in a text, said without the scans: the text between white space, the text
before a mark, identifiers and numerals. Each scan finds exactly what is described here. -/
namespace RenderPlan.Text
variable {text body front back word rest cs : List Char} {c mark : Char} {n bound : ℕ}

/-- Nothing but white space. -/
def Blank (cs : List Char) : Prop := ∀ c ∈ cs, isBlank c = true

/-- White space neither at the front nor at the back. -/
structure Tight (cs : List Char) : Prop where
  head : ∀ c ∈ cs.head?, isBlank c = false
  last : ∀ c ∈ cs.getLast?, isBlank c = false

/-- `body` is the text between the white space at both ends. -/
structure Trims (text body : List Char) : Prop where
  between : ∃ front back, text = front ++ body ++ back ∧ Blank front ∧ Blank back
  tight : Tight body

lemma tight_of_forall (h : ∀ c ∈ cs, isBlank c = false) : Tight cs where
  head c hc := h c (List.mem_of_mem_head? hc)
  last c hc := h c (List.mem_of_getLast? hc)

lemma trimStart_of_head (h : ∀ c ∈ cs.head?, isBlank c = false) : trimStart cs = cs := by
  cases cs with
  | nil => rfl
  | cons c cs => exact List.dropWhile_cons_of_neg (by simp [h c rfl])

lemma trimStart_append (hf : Blank front) (h : ∀ c ∈ cs.head?, isBlank c = false) :
    trimStart (front ++ cs) = cs := by
  rw [trimStart, List.dropWhile_append_of_pos hf]
  exact trimStart_of_head h

lemma trimEnd_append (hb : Blank back) (h : ∀ c ∈ cs.getLast?, isBlank c = false) :
    trimEnd (cs ++ back) = cs := by
  have hreverse : Blank back.reverse := fun c hc => hb c (List.mem_reverse.1 hc)
  rw [trimEnd, List.reverse_append, trimStart_append hreverse, List.reverse_reverse]
  rwa [List.head?_reverse]

lemma exists_trimStart (cs : List Char) : ∃ front, cs = front ++ trimStart cs ∧ Blank front :=
  ⟨cs.takeWhile isBlank, List.takeWhile_append_dropWhile.symm, fun _ => List.mem_takeWhile_imp⟩

lemma head_trimStart (cs : List Char) : ∀ c ∈ (trimStart cs).head?, isBlank c = false := by
  intro c hc
  have hnot := List.head?_dropWhile_not isBlank cs
  rw [Option.mem_def, trimStart] at hc
  rwa [hc] at hnot

lemma exists_trimEnd (cs : List Char) : ∃ back, cs = trimEnd cs ++ back ∧ Blank back := by
  obtain ⟨front, hsplit, hfront⟩ := exists_trimStart cs.reverse
  refine ⟨front.reverse, ?_, fun c hc => hfront c (List.mem_reverse.1 hc)⟩
  rw [trimEnd, ← List.reverse_append, ← hsplit, List.reverse_reverse]

lemma last_trimEnd (cs : List Char) : ∀ c ∈ (trimEnd cs).getLast?, isBlank c = false := by
  rw [trimEnd, List.getLast?_reverse]
  exact head_trimStart cs.reverse

/-- Trimming at the back leaves the front as it is. -/
lemma head_trimEnd (h : ∀ c ∈ cs.head?, isBlank c = false) :
    ∀ c ∈ (trimEnd cs).head?, isBlank c = false := by
  intro c hc
  obtain ⟨back, hsplit, -⟩ := exists_trimEnd cs
  apply h
  rw [hsplit, Option.mem_def, List.head?_append, hc, Option.some_or]

lemma trims_trim (cs : List Char) : Trims cs (trim cs) := by
  obtain ⟨front, hfront, hf⟩ := exists_trimStart cs
  obtain ⟨back, hback, hb⟩ := exists_trimEnd (trimStart cs)
  refine ⟨⟨front, back, ?_, hf, hb⟩, head_trimEnd (head_trimStart cs), last_trimEnd _⟩
  rw [List.append_assoc, trim, ← hback, ← hfront]

/-- There is one way to trim a text, and `trim` finds it. -/
lemma Trims.trim_eq (h : Trims text body) : trim text = body := by
  obtain ⟨front, back, rfl, hf, hb⟩ := h.between
  cases body with
  | nil =>
    have hall : ∀ c ∈ front ++ [] ++ back, isBlank c = true := by
      intro c hc
      rcases List.mem_append.1 hc with hc | hc
      · exact hf c (by simpa using hc)
      · exact hb c hc
    rw [trim, trimStart, List.dropWhile_eq_nil_iff.2 hall]
    rfl
  | cons c body =>
    have hstart : trimStart (front ++ (c :: body ++ back)) = c :: body ++ back :=
      trimStart_append hf h.tight.head
    rw [trim, List.append_assoc, hstart, trimEnd_append hb h.tight.last]

/-- A run of one sort of characters ends where another one follows. -/
lemma takeWhile_append_run {p : Char → Bool} (h : ∀ c ∈ front, p c = true)
    (hb : ∀ c ∈ back.head?, p c = false) : (front ++ back).takeWhile p = front := by
  rw [List.takeWhile_append_of_pos h]
  cases back with
  | nil => simp
  | cons c back => simp [hb c rfl]

/-- The text before a mark that does not occur in it; the mark may be missing if nothing follows. -/
lemma takeWhile_append_mark (h : ∀ c ∈ front, c ≠ mark) (hm : ∀ c ∈ back.head?, c = mark) :
    (front ++ back).takeWhile (· != mark) = front :=
  takeWhile_append_run (fun c hc => by simpa using h c hc) fun c hc => by simpa using hm c hc

lemma dropWhile_append_mark (h : ∀ c ∈ front, c ≠ mark) (hm : ∀ c ∈ back.head?, c = mark) :
    (front ++ back).dropWhile (· != mark) = back := by
  rw [List.dropWhile_append_of_pos fun c hc => by simpa using h c hc]
  cases back with
  | nil => rfl
  | cons c back => simp [hm c rfl]

/-- Equal texts that open with a run of one sort of characters have the same run. -/
lemma run_eq_of_append_eq {p : Char → Bool} {front' back' : List Char}
    (h : ∀ c ∈ front, p c = true) (h' : ∀ c ∈ front', p c = true)
    (hb : ∀ c ∈ back.head?, p c = false) (hb' : ∀ c ∈ back'.head?, p c = false)
    (heq : front ++ back = front' ++ back') : front = front' := by
  rw [← takeWhile_append_run h hb, heq, takeWhile_append_run h' hb']

/-- What a scan for a mark stops at is the mark. -/
lemma eq_takeWhile_append_mark (h : cs.dropWhile (· != mark) = c :: rest) :
    cs = cs.takeWhile (· != mark) ++ mark :: rest := by
  have hnot := List.head?_dropWhile_not (· != mark) cs
  rw [h] at hnot
  have hc : c = mark := by simpa using hnot
  subst hc
  rw [← h, List.takeWhile_append_dropWhile]

@[simp] lemma after?_eq_some_iff : after? word text = some rest ↔ text = word ++ rest := by
  constructor
  · exact eq_append_of_after?
  · rintro rfl
    exact after?_append word rest

@[simp] lemma after?_eq_none_iff : after? word text = none ↔ ¬ word <+: text := by
  rw [Option.eq_none_iff_forall_ne_some, List.IsPrefix, not_exists]
  exact forall_congr' fun rest => not_congr (after?_eq_some_iff.trans eq_comm)

/-- A text that starts with another character does not open with the word. -/
lemma after?_eq_none_of_head (hword : word ≠ []) (h : text.head? ≠ word.head?) :
    after? word text = none := by
  rw [after?_eq_none_iff]
  rintro ⟨rest, rfl⟩
  exact h (List.head?_append_of_ne_nil _ hword)

/-- The characters of identifiers lie between `0` and `z`, where no white space is. -/
lemma isBlank_of_isIdentifierPart (h : isIdentifierPart c = true) : isBlank c = false := by
  have hrange : 48 ≤ c.toNat ∧ c.toNat ≤ 122 := by
    change (((decide (65 ≤ c.val ∧ c.val ≤ 90) || (97 ≤ c.val && c.val ≤ 122)) ||
      (48 ≤ c.val && c.val ≤ 57)) || c == '_') = true at h
    simp only [Bool.or_eq_true, Bool.and_eq_true, decide_eq_true_eq, beq_iff_eq,
      UInt32.le_iff_toNat_le, UInt32.reduceToNat, Char.toNat_val] at h
    rcases h with h | rfl
    · omega
    · decide
  simp only [isBlank, Bool.or_eq_false_iff, Bool.and_eq_false_iff, decide_eq_false_iff_not,
    beq_eq_false_iff_ne]
  omega

/-- A letter or underscore, then letters, digits and underscores, but not `gl_` at the front. -/
structure IsIdentifier (cs : List Char) : Prop where
  word : ∃ c rest, cs = c :: rest ∧ (c.isAlpha ∨ c = '_') ∧ ∀ d ∈ rest, d.isAlphanum ∨ d = '_'
  unreserved : ¬ "gl_".toList <+: cs

@[simp] lemma isIdentifierChars_iff : isIdentifierChars cs = true ↔ IsIdentifier cs := by
  cases cs with
  | nil =>
    constructor
    · intro h
      cases h
    · rintro ⟨⟨c, rest, h, -⟩, -⟩
      cases h
  | cons c cs =>
    simp only [isIdentifierChars, Bool.and_eq_true, List.all_eq_true, isIdentifierStart,
      isIdentifierPart, Bool.or_eq_true, beq_iff_eq, Option.isNone_iff_eq_none, after?_eq_none_iff]
    constructor
    · rintro ⟨⟨hc, hcs⟩, hreserved⟩
      exact ⟨⟨c, cs, rfl, hc, hcs⟩, hreserved⟩
    · rintro ⟨⟨_, _, heq, hc, hcs⟩, hreserved⟩
      cases heq
      exact ⟨⟨hc, hcs⟩, hreserved⟩

lemma isIdentifier_iff {name : String} : isIdentifier name = true ↔ IsIdentifier name.toList :=
  isIdentifierChars_iff

lemma IsIdentifier.isIdentifierPart (h : IsIdentifier cs) (hc : c ∈ cs) : isIdentifierPart c = true := by
  obtain ⟨first, rest, rfl, hfirst, hrest⟩ := h.word
  simp only [Text.isIdentifierPart, Bool.or_eq_true, beq_iff_eq]
  rcases List.mem_cons.1 hc with rfl | hc
  · exact hfirst.imp_left fun h => by simp [Char.isAlphanum, h]
  · exact hrest c hc

/-- Decimal digits that a plus sign may precede, and the number they stand for. -/
def IsNumeral (cs : List Char) (n : ℕ) : Prop :=
  ∃ sign digits, cs = sign ++ digits ∧ (sign = [] ∨ sign = ['+']) ∧ digits ≠ [] ∧
    (∀ c ∈ digits, c.isDigit = true) ∧ n = Nat.ofDigitChars 10 digits 0

lemma IsNumeral.eq_plus_or_isDigit (h : IsNumeral cs n) (hc : c ∈ cs) : c = '+' ∨ c.isDigit = true := by
  obtain ⟨sign, digits, rfl, hsign, -, hdigits, -⟩ := h
  rcases List.mem_append.1 hc with hc | hc
  · rcases hsign with rfl | rfl
    · cases hc
    · exact .inl (List.mem_singleton.1 hc)
  · exact .inr (hdigits c hc)

lemma IsNumeral.tight (h : IsNumeral cs n) : Tight cs := by
  apply tight_of_forall
  intro c hc
  rcases h.eq_plus_or_isDigit hc with rfl | hdigit
  · decide
  · exact isBlank_of_isIdentifierPart (by simp [isIdentifierPart, Char.isAlphanum, hdigit])

@[simp] lemma readDigits_eq_some_iff : readDigits cs = some n ↔
    cs ≠ [] ∧ (∀ c ∈ cs, c.isDigit = true) ∧ n = Nat.ofDigitChars 10 cs 0 := by
  rw [readDigits, ← and_assoc, ← List.all_eq_true]
  split
  · next h => rw [Option.some.injEq, and_iff_right h, eq_comm]
  · next h => simp only [reduceCtorEq, h, false_and]

lemma isDigit_of_mem_decimal (h : c ∈ (decimal n).toList) : c.isDigit = true :=
  (readDigits_eq_some_iff.1 (readDigits_decimal n)).2.1 c h

lemma decimal_inj {k : ℕ} (h : decimal n = decimal k) : n = k := by
  have hread := readDigits_decimal n
  rw [h, readDigits_decimal] at hread
  exact (Option.some.inj hread).symm

/-- Behind the last character that is no digit stand digits only, so it is found again. -/
lemma append_mark_inj {xs ys ds es : List Char} {mark' : Char} (hm : mark.isDigit = false)
    (hm' : mark'.isDigit = false) (hd : ∀ c ∈ ds, c.isDigit = true) (he : ∀ c ∈ es, c.isDigit = true)
    (h : xs ++ mark :: ds = ys ++ mark' :: es) : xs = ys ∧ mark = mark' ∧ ds = es := by
  rcases List.append_eq_append_iff.1 h with ⟨mid, rfl, hmid⟩ | ⟨mid, rfl, hmid⟩
  · cases mid with
    | nil => simpa using hmid
    | cons c mid =>
      have hds : ds = mid ++ mark' :: es := (List.cons.inj hmid).2
      have hdigit := hd mark' (by simp [hds])
      rw [hm'] at hdigit
      cases hdigit
  · cases mid with
    | nil => simpa [eq_comm] using hmid
    | cons c mid =>
      have hes : es = mid ++ mark :: ds := (List.cons.inj hmid).2
      have hdigit := he mark (by simp [hes])
      rw [hm] at hdigit
      cases hdigit

lemma isNumeral_decimal (n : ℕ) : IsNumeral (decimal n).toList n := by
  obtain ⟨hne, hdigits, hn⟩ := readDigits_eq_some_iff.1 (readDigits_decimal n)
  exact ⟨[], (decimal n).toList, rfl, .inl rfl, hne, hdigits, hn⟩

@[simp] lemma isNumeral_plus_iff : IsNumeral ('+' :: rest) n ↔ readDigits rest = some n := by
  rw [readDigits_eq_some_iff]
  constructor
  · rintro ⟨sign, digits, hcs, rfl | rfl, hne, hdigits, hn⟩
    · -- the sign is no digit
      have hplus : '+' ∈ digits := by
        rw [List.nil_append] at hcs
        exact hcs ▸ List.mem_cons_self
      exact absurd (hdigits '+' hplus) (by decide)
    · cases hcs
      exact ⟨hne, hdigits, hn⟩
  · rintro ⟨hne, hdigits, hn⟩
    exact ⟨['+'], rest, rfl, .inr rfl, hne, hdigits, hn⟩

lemma isNumeral_iff_of_ne_plus (h : ∀ rest, cs ≠ '+' :: rest) :
    IsNumeral cs n ↔ readDigits cs = some n := by
  rw [readDigits_eq_some_iff]
  constructor
  · rintro ⟨sign, digits, hcs, rfl | rfl, hne, hdigits, hn⟩
    · cases hcs
      exact ⟨hne, hdigits, hn⟩
    · exact absurd hcs (h digits)
  · rintro ⟨hne, hdigits, hn⟩
    exact ⟨[], cs, rfl, .inl rfl, hne, hdigits, hn⟩

@[simp] lemma readBelow_eq_some_iff : readBelow bound cs = some n ↔ IsNumeral cs n ∧ n < bound := by
  unfold readBelow
  split <;> [rw [isNumeral_plus_iff]; rw [isNumeral_iff_of_ne_plus ‹_›]]
  -- with the sign settled, only the bound is left
  all_goals
    dsimp only
    split
    · next m hm =>
      rw [hm, Option.ite_none_right_eq_some, and_comm]
      exact and_congr_right fun h => by rw [Option.some.inj h]
    · next hm => simp [hm]

@[simp]
lemma readWord64_eq_some_iff {w : UInt64} : readWord64 cs = some w ↔ IsNumeral cs w.toNat := by
  simp only [readWord64, Option.map_eq_some_iff, readBelow_eq_some_iff]
  constructor
  · rintro ⟨n, ⟨hnumeral, hn⟩, rfl⟩
    rwa [UInt64.toNat_ofNat_of_lt' hn]
  · intro h
    exact ⟨w.toNat, ⟨h, w.toNat_lt_size⟩, UInt64.ofNat_toNat⟩

end RenderPlan.Text
