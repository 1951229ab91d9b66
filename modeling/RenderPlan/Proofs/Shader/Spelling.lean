import RenderPlan.Proofs.Text.Scanning
import RenderPlan.Shader.Spelling

/-! The spellings of types as a grammar: a base name, then lengths in brackets, with white space
around the brackets and around the numbers in them. Reading finds the one type that a text spells. A
text that would spell a type but for a length of zero is told apart from all others. -/
namespace RenderPlan
open Text

namespace Arity

@[simp] lemma ofDigit?_eq_some_iff {c : Char} {a : Arity} : ofDigit? c = some a ↔ c = a.digit := by
  constructor
  · intro h
    unfold ofDigit? at h
    split at h <;> cases h <;> rfl
  · rintro rfl
    exact ofDigit?_digit a

end Arity

namespace ShaderType
variable {cs name suffix : List Char} {t base : ShaderType} {lengths : List ℕ} {words : List UInt64}

/-- A word for vectors or matrices and behind it only digits and `x`, be it a type or not. -/
def BuiltinShaped (cs : List Char) : Prop :=
  ∃ word ∈ ["bvec", "ivec", "uvec", "vec", "mat"], ∃ rest, cs = word.toList ++ rest ∧ rest ≠ [] ∧
    ∀ c ∈ rest, c.isDigit = true ∨ c = 'x'

/-- The base names and their types. The name of a struct is an identifier that no builtin type has
and that is not shaped like one. -/
inductive BaseName : List Char → ShaderType → Prop
  | scalar (kind : Scalar) : BaseName kind.word.toList (.scalar kind)
  | vector (kind : Scalar) (arity : Arity) :
      BaseName (kind.vectorWord.toList ++ [arity.digit]) (.vector kind arity)
  | square (n : Arity) : BaseName ("mat".toList ++ [n.digit]) (.matrix n n)
  | matrix (columns rows : Arity) :
      BaseName ("mat".toList ++ [columns.digit, 'x', rows.digit]) (.matrix columns rows)
  | struct {name : List Char} : IsIdentifier name → ¬ BuiltinShaped name →
      (∀ kind : Scalar, name ≠ kind.word.toList) → BaseName name (.struct (String.ofList name))

/-- Lengths in brackets. White space may stand around each number and behind each bracket. -/
inductive Brackets : List Char → List ℕ → Prop
  | nil : Brackets [] []
  | cons {front numeral back gap rest : List Char} {n : ℕ} {lengths : List ℕ} :
      Blank front → IsNumeral numeral n → Blank back → Blank gap → Brackets rest lengths →
      Brackets ('[' :: (front ++ numeral ++ back ++ ']' :: (gap ++ rest))) (n :: lengths)

/-- A base name, white space, and lengths in brackets. -/
def Spells (cs : List Char) (base : ShaderType) (lengths : List ℕ) : Prop :=
  ∃ name gap brackets, cs = name ++ gap ++ brackets ∧ BaseName name base ∧ Blank gap ∧
    Brackets brackets lengths

/-- Array levels around a type, the first length outermost. -/
def nest (base : ShaderType) (lengths : List ArrayLength) : ShaderType :=
  lengths.foldr (fun n element => .array element n) base

@[simp]
lemma readScalar_eq_some_iff {kind : Scalar} : readScalar cs = some kind ↔ cs = kind.word.toList := by
  constructor
  · intro h
    have hword := List.find?_some h
    exact (beq_iff_eq.1 hword).symm
  · rintro rfl
    cases kind <;> decide

@[simp]
lemma readDimension_eq_some_iff {a : Arity} : readDimension cs = some a ↔ cs = [a.digit] := by
  constructor
  · intro h
    unfold readDimension at h
    split at h
    · next c => rw [Arity.ofDigit?_eq_some_iff.1 h]
    · cases h
  · rintro rfl
    exact Arity.ofDigit?_digit a

lemma exists_of_readVector (h : readVector cs = some t) :
    ∃ kind arity, cs = kind.vectorWord.toList ++ [Arity.digit arity] ∧ t = .vector kind arity := by
  obtain ⟨kind, -, hkind⟩ := List.exists_of_findSome?_eq_some h
  obtain ⟨digits, hafter, hmap⟩ := Option.bind_eq_some_iff.1 hkind
  obtain ⟨arity, hdim, rfl⟩ := Option.map_eq_some_iff.1 hmap
  rw [readDimension_eq_some_iff] at hdim
  exact ⟨kind, arity, hdim ▸ after?_eq_some_iff.1 hafter, rfl⟩

@[simp] lemma readShape_eq_some_iff {columns rows : Arity} : readShape cs = some (columns, rows) ↔
    (cs = [columns.digit] ∧ columns = rows) ∨ cs = [columns.digit, 'x', rows.digit] := by
  constructor
  · intro h
    unfold readShape at h
    split at h
    · obtain ⟨n, hn, hpair⟩ := Option.map_eq_some_iff.1 h
      cases hpair
      exact .inl ⟨readDimension_eq_some_iff.1 hn, rfl⟩
    · next rest hx =>
      split at h
      · next c r hc hr =>
        cases h
        right
        rw [eq_takeWhile_append_mark hx, readDimension_eq_some_iff.1 hc,
          readDimension_eq_some_iff.1 hr]
        rfl
      · cases h
  · rintro (⟨rfl, rfl⟩ | rfl)
    · cases columns <;> decide
    · cases columns <;> cases rows <;> decide

lemma exists_of_readMatrix (h : readMatrix cs = some t) : ∃ columns rows, t = .matrix columns rows ∧
    ((cs = "mat".toList ++ [columns.digit] ∧ columns = rows) ∨
      cs = "mat".toList ++ [columns.digit, 'x', rows.digit]) := by
  obtain ⟨shape, hafter, hmap⟩ := Option.bind_eq_some_iff.1 h
  obtain ⟨⟨columns, rows⟩, hshape, rfl⟩ := Option.map_eq_some_iff.1 hmap
  rw [after?_eq_some_iff] at hafter
  refine ⟨columns, rows, rfl, ?_⟩
  rcases readShape_eq_some_iff.1 hshape with ⟨rfl, hsquare⟩ | rfl
  · exact .inl ⟨hafter, hsquare⟩
  · exact .inr hafter

@[simp] lemma isBuiltinShaped_iff : isBuiltinShaped cs = true ↔ BuiltinShaped cs := by
  rw [isBuiltinShaped, List.any_eq_true]
  refine exists_congr fun word => and_congr_right fun _ => ?_
  simp only [← after?_eq_some_iff]
  cases after? word.toList cs with
  | none => simp
  | some rest => simp

@[simp] lemma readStruct_eq_some_iff : readStruct cs = some t ↔
    IsIdentifier cs ∧ ¬ BuiltinShaped cs ∧ t = .struct (String.ofList cs) := by
  rw [← isIdentifierChars_iff, ← isBuiltinShaped_iff, readStruct, Option.ite_none_right_eq_some,
    Bool.and_eq_true, Bool.not_eq_true', Bool.not_eq_true, Option.some.injEq]
  tauto

lemma BuiltinShaped.vector (kind : Scalar) (arity : Arity) :
    BuiltinShaped (kind.vectorWord.toList ++ [arity.digit]) := by
  rw [← isBuiltinShaped_iff]
  cases kind <;> cases arity <;> decide

lemma BuiltinShaped.matrix {columns rows : Arity}
    (h : (cs = "mat".toList ++ [columns.digit] ∧ columns = rows) ∨
      cs = "mat".toList ++ [columns.digit, 'x', rows.digit]) : BuiltinShaped cs := by
  rw [← isBuiltinShaped_iff]
  rcases h with ⟨rfl, -⟩ | rfl
  · cases columns <;> decide
  · cases columns <;> cases rows <;> decide

@[simp] lemma readBase_eq_some_iff : readBase cs = some t ↔ BaseName cs t := by
  constructor
  · intro h
    rw [readBase, Option.or_eq_some_iff, Option.or_eq_some_iff, Option.or_eq_some_iff] at h
    rcases h with h | ⟨hscalar, h | ⟨-, h | ⟨-, h⟩⟩⟩
    · obtain ⟨kind, hkind, rfl⟩ := Option.map_eq_some_iff.1 h
      rw [readScalar_eq_some_iff.1 hkind]
      exact .scalar kind
    · obtain ⟨kind, arity, rfl, rfl⟩ := exists_of_readVector h
      exact .vector kind arity
    · obtain ⟨columns, rows, rfl, ⟨rfl, rfl⟩ | rfl⟩ := exists_of_readMatrix h
      · exact .square columns
      · exact .matrix columns rows
    · obtain ⟨hident, hshaped, rfl⟩ := readStruct_eq_some_iff.1 h
      refine .struct hident hshaped fun kind hkind => ?_
      rw [Option.map_eq_none_iff] at hscalar
      cases hscalar.symm.trans (readScalar_eq_some_iff.2 hkind)
  · intro h
    cases h with
    | scalar kind => cases kind <;> rfl
    | vector kind arity => cases kind <;> cases arity <;> rfl
    | square n => cases n <;> rfl
    | matrix columns rows => cases columns <;> cases rows <;> rfl
    | struct hident hshaped hscalar =>
      have hnoScalar : readScalar cs = none := by
        rw [Option.eq_none_iff_forall_ne_some]
        exact fun kind hkind => hscalar kind (readScalar_eq_some_iff.1 hkind)
      have hnoVector : readVector cs = none := by
        rw [Option.eq_none_iff_forall_ne_some]
        intro t ht
        obtain ⟨kind, arity, rfl, -⟩ := exists_of_readVector ht
        exact hshaped (.vector kind arity)
      have hnoMatrix : readMatrix cs = none := by
        rw [Option.eq_none_iff_forall_ne_some]
        intro t ht
        obtain ⟨columns, rows, -, h⟩ := exists_of_readMatrix ht
        exact hshaped (.matrix h)
      rw [readBase, hnoScalar, hnoVector, hnoMatrix]
      exact readStruct_eq_some_iff.2 ⟨hident, hshaped, rfl⟩

lemma readLengths_open_eq_some_iff {inner : List Char} : readLengths ('[' :: inner) = some words ↔
    ∃ number rest word more, inner = number ++ ']' :: rest ∧ (∀ c ∈ number, c ≠ ']') ∧
      readWord64 (trim number) = some word ∧ readLengths (trimStart rest) = some more ∧
      words = word :: more := by
  constructor
  · intro h
    rw [readLengths] at h
    split at h
    · cases h
    · next c rest hclose =>
      split at h
      · next word more hword hmore =>
        cases h
        refine ⟨_, rest, word, more, eq_takeWhile_append_mark hclose, fun d hd => ?_, hword, hmore, rfl⟩
        simpa using List.mem_takeWhile_imp hd
      · cases h
  · rintro ⟨number, rest, word, more, rfl, hnumber, hword, hmore, rfl⟩
    have hmark : ∀ c ∈ (']' :: rest).head?, c = ']' := by simp
    have hclose := dropWhile_append_mark hnumber hmark
    rw [readLengths]
    split
    · next h => cases h.symm.trans hclose
    · next c rest' h =>
      cases h.symm.trans hclose
      rw [takeWhile_append_mark hnumber hmark, hword, hmore]

lemma eq_open_of_readLengths {c : Char} (h : readLengths (c :: cs) = some words) : c = '[' := by
  unfold readLengths at h
  split at h
  · next hnil => cases hnil
  · next hopen =>
    cases hopen
    rfl
  · cases h

lemma Brackets.head (h : Brackets cs lengths) : ∀ c ∈ cs.head?, c = '[' := by
  cases h <;> simp

lemma ne_close_of_mem_number {front numeral back : List Char} {n : ℕ} (hf : Blank front)
    (hn : IsNumeral numeral n) (hb : Blank back) {c : Char} (hc : c ∈ front ++ numeral ++ back) :
    c ≠ ']' := by
  rintro rfl
  rcases List.mem_append.1 hc with hc | hc
  · rcases List.mem_append.1 hc with hc | hc
    · cases hf _ hc
    · rcases hn.eq_plus_or_isDigit hc with h | h <;> cases h
  · cases hb _ hc

/-- The numbers are read word by word, and a word is a number that fits. -/
@[simp] lemma readLengths_eq_some_iff : readLengths cs = some words ↔
    Brackets cs (words.map UInt64.toNat) := by
  constructor
  · intro h
    -- each bracket leaves a shorter text
    induction hn : cs.length using Nat.strong_induction_on generalizing cs words with
    | _ n ih =>
      cases cs with
      | nil =>
        rw [readLengths] at h
        cases h
        exact .nil
      | cons c inner =>
        cases eq_open_of_readLengths h
        obtain ⟨number, rest, word, more, rfl, -, hword, hmore, rfl⟩ :=
          readLengths_open_eq_some_iff.1 h
        obtain ⟨front, back, hnumber, hfront, hback⟩ := (trims_trim number).between
        obtain ⟨gap, hrest, hgap⟩ := exists_trimStart rest
        have hlength := length_trimStart_le rest
        have hshorter : (trimStart rest).length < n := by
          simp only [List.length_cons, List.length_append] at hn
          omega
        have hmore' := ih _ hshorter hmore rfl
        rw [hnumber, hrest]
        exact .cons hfront (readWord64_eq_some_iff.1 hword) hback hgap hmore'
  · intro h
    generalize hl : words.map UInt64.toNat = lengths at h
    induction h generalizing words with
    | nil =>
      cases List.map_eq_nil_iff.1 hl
      rw [readLengths]
    | @cons front numeral back gap rest n lengths hfront hnumeral hback hgap hrest ih =>
      obtain ⟨word, more, rfl, rfl, rfl⟩ := List.map_eq_cons_iff.1 hl
      have htrim : trim (front ++ numeral ++ back) = numeral :=
        Trims.trim_eq ⟨⟨front, back, rfl, hfront, hback⟩, hnumeral.tight⟩
      have hgap' : trimStart (gap ++ rest) = rest :=
        trimStart_append hgap fun c hc => by rw [hrest.head c hc]; decide
      refine readLengths_open_eq_some_iff.2 ⟨_, _, word, more, rfl,
        fun c => ne_close_of_mem_number hfront hnumeral hback, ?_, ?_, rfl⟩
      · rw [htrim]
        exact readWord64_eq_some_iff.2 hnumeral
      · rw [hgap']
        exact ih rfl

/-- Base names are made of the characters of identifiers. -/
lemma BaseName.isIdentifierPart (h : BaseName cs t) : ∀ c ∈ cs, isIdentifierPart c = true := by
  rw [← List.all_eq_true]
  cases h with
  | scalar kind => cases kind <;> decide
  | vector kind arity => cases kind <;> cases arity <;> decide
  | square n => cases n <;> decide
  | matrix columns rows => cases columns <;> cases rows <;> decide
  | struct hident => exact List.all_eq_true.2 fun c => hident.isIdentifierPart

/-- Reading the two parts of a text is reading its spelling. -/
lemma spells_iff : Spells cs base (words.map UInt64.toNat) ↔
    readLengths (cs.dropWhile (· != '[')) = some words ∧
      readBase (trimEnd (cs.takeWhile (· != '['))) = some base := by
  rw [readLengths_eq_some_iff, readBase_eq_some_iff]
  constructor
  · rintro ⟨name, gap, brackets, rfl, hname, hgap, hbrackets⟩
    have hopen : ∀ c ∈ name ++ gap, c ≠ '[' := by
      rintro c hc rfl
      rcases List.mem_append.1 hc with hc | hc
      · cases hname.isIdentifierPart _ hc
      · cases hgap _ hc
    have hlast : ∀ c ∈ name.getLast?, isBlank c = false := fun c hc =>
      isBlank_of_isIdentifierPart (hname.isIdentifierPart c (List.mem_of_getLast? hc))
    rw [dropWhile_append_mark hopen hbrackets.head, takeWhile_append_mark hopen hbrackets.head,
      trimEnd_append hgap hlast]
    exact ⟨hbrackets, hname⟩
  · rintro ⟨hbrackets, hname⟩
    obtain ⟨gap, hgap, hblank⟩ := exists_trimEnd (cs.takeWhile (· != '['))
    refine ⟨_, gap, _, ?_, hname, hblank, hbrackets⟩
    rw [← hgap, List.takeWhile_append_dropWhile]

@[simp] lemma wrap_map_word (base : ShaderType) (lengths : List ArrayLength) :
    base.wrap (lengths.map ArrayLength.word) = .ok (base.nest lengths) := by
  induction lengths with
  | nil => rfl
  | cons n lengths ih =>
    rw [List.map_cons, wrap, ih]
    change arrayOf (base.nest lengths) n.word = _
    rw [arrayOf, ArrayLength.ofWord?, dif_neg n.ne_zero]
    rfl

lemma exists_lengths (h : 0 ∉ words) :
    ∃ lengths : List ArrayLength, lengths.map ArrayLength.word = words := by
  induction words with
  | nil => exact ⟨[], rfl⟩
  | cons n words ih =>
    obtain ⟨hn, hwords⟩ := not_or.1 (List.mem_cons.not.1 h)
    obtain ⟨lengths, rfl⟩ := ih hwords
    exact ⟨⟨n, Ne.symm hn⟩ :: lengths, rfl⟩

lemma wrap_of_zero_mem (base : ShaderType) (h : 0 ∈ words) :
    base.wrap words = .error .zeroLengthArray := by
  induction words with
  | nil => cases h
  | cons n words ih =>
    rw [wrap]
    by_cases hwords : 0 ∈ words
    · rw [ih hwords]
      rfl
    · -- the other levels are fine, this one is not
      cases (List.mem_cons.1 h).resolve_right hwords
      obtain ⟨lengths, rfl⟩ := exists_lengths hwords
      rw [wrap_map_word]
      rfl

section Parse
variable {text : String}

lemma parse_of_spells (h : Spells (trim text.toList) base (words.map UInt64.toNat)) :
    parse text = base.wrap words := by
  obtain ⟨hwords, hbase⟩ := spells_iff.1 h
  simp only [parse, hwords, hbase]

lemma parse_of_not_spells
    (h : ∀ base words, ¬ Spells (trim text.toList) base (List.map UInt64.toNat words)) :
    parse text = .error (.unparseable (String.ofList (trim text.toList))) := by
  unfold parse
  dsimp only
  split
  · next words base hwords hbase => exact absurd (spells_iff.2 ⟨hwords, hbase⟩) (h base words)
  · rfl

lemma map_count (lengths : List ArrayLength) :
    lengths.map ArrayLength.count = (lengths.map ArrayLength.word).map UInt64.toNat := by
  rw [List.map_map]
  rfl

/-- The three ways in which reading a text can end. -/
lemma parse_cases (text : String) :
    (∃ base lengths, Spells (trim text.toList) base (lengths.map ArrayLength.count) ∧
      parse text = .ok (base.nest lengths)) ∨
    (∃ base, ∃ words : List UInt64, Spells (trim text.toList) base (words.map UInt64.toNat) ∧
      0 ∈ words ∧ parse text = .error .zeroLengthArray) ∨
    parse text = .error (.unparseable (String.ofList (trim text.toList))) := by
  by_cases hs : ∃ base words, Spells (trim text.toList) base (List.map UInt64.toNat words)
  · obtain ⟨base, words, hs⟩ := hs
    by_cases hzero : 0 ∈ words
    · refine .inr (.inl ⟨base, words, hs, hzero, ?_⟩)
      rw [parse_of_spells hs, wrap_of_zero_mem base hzero]
    · obtain ⟨lengths, rfl⟩ := exists_lengths hzero
      refine .inl ⟨base, lengths, map_count lengths ▸ hs, ?_⟩
      rw [parse_of_spells hs, wrap_map_word]
  · exact .inr (.inr (parse_of_not_spells fun base words h => hs ⟨base, words, h⟩))

lemma parse_eq_ok_iff : parse text = .ok t ↔ ∃ base lengths,
    Spells (trim text.toList) base (lengths.map ArrayLength.count) ∧ t = base.nest lengths := by
  constructor
  · intro h
    rcases parse_cases text with ⟨base, lengths, hs, hp⟩ | ⟨base, words, -, -, hp⟩ | hp
    · cases h.symm.trans hp
      exact ⟨base, lengths, hs, rfl⟩
    · cases h.symm.trans hp
    · cases h.symm.trans hp
  · rintro ⟨base, lengths, hs, rfl⟩
    rw [map_count] at hs
    rw [parse_of_spells hs, wrap_map_word]

lemma parse_eq_zeroLengthArray_iff : parse text = .error .zeroLengthArray ↔
    ∃ base, ∃ words : List UInt64, Spells (trim text.toList) base (words.map UInt64.toNat) ∧
      0 ∈ words := by
  constructor
  · intro h
    rcases parse_cases text with ⟨base, lengths, -, hp⟩ | ⟨base, words, hs, hzero, -⟩ | hp
    · cases h.symm.trans hp
    · exact ⟨base, words, hs, hzero⟩
    · cases h.symm.trans hp
  · rintro ⟨base, words, hs, hzero⟩
    rw [parse_of_spells hs, wrap_of_zero_mem base hzero]

end Parse

/-- Numbers that fit are numbers of words. -/
lemma exists_words (h : ∀ n ∈ lengths, n < UInt64.size) :
    ∃ words : List UInt64, lengths = words.map UInt64.toNat := by
  refine ⟨lengths.map UInt64.ofNat, ?_⟩
  rw [List.map_map]
  conv_lhs => rw [← List.map_id lengths]
  exact List.map_congr_left fun n hn => (UInt64.toNat_ofNat_of_lt' (h n hn)).symm

/-- A text is read as the type that it spells, the first of its lengths outermost. If some length is zero
and the text is a spelling otherwise, the length is reported, and in all other cases the text between
the white space. -/
theorem parse_reads_spellings (text : String) : ∃ trimmed, Trims text.toList trimmed ∧
    ((∃ t, parse text = .ok t) ↔ ∃ base lengths, Spells trimmed base lengths ∧
      ∀ n ∈ lengths, 1 ≤ n ∧ n < UInt64.size) ∧
    (∀ t, parse text = .ok t ↔ ∃ base lengths,
      Spells trimmed base (lengths.map ArrayLength.count) ∧ t = base.nest lengths) ∧
    (parse text = .error .zeroLengthArray ↔ ∃ base lengths, Spells trimmed base lengths ∧
      (∀ n ∈ lengths, n < UInt64.size) ∧ 0 ∈ lengths) ∧
    ∀ e, parse text = .error e → e = .zeroLengthArray ∨ e = .unparseable (String.ofList trimmed) := by
  refine ⟨trim text.toList, trims_trim _, ?_, fun t => parse_eq_ok_iff, ?_, ?_⟩
  · simp only [parse_eq_ok_iff]
    constructor
    · rintro ⟨t, base, lengths, hs, -⟩
      refine ⟨base, _, hs, List.forall_mem_map.2 fun n _ => ⟨n.count_pos, n.count_lt⟩⟩
    · rintro ⟨base, lengths, hs, hrange⟩
      obtain ⟨words, rfl⟩ := exists_words fun n hn => (hrange n hn).2
      have hzero : 0 ∉ words := by
        intro hz
        have hpos := (hrange _ (List.mem_map_of_mem hz)).1
        exact absurd hpos (by decide)
      obtain ⟨lengths, rfl⟩ := exists_lengths hzero
      exact ⟨_, base, lengths, map_count lengths ▸ hs, rfl⟩
  · rw [parse_eq_zeroLengthArray_iff]
    constructor
    · rintro ⟨base, words, hs, hzero⟩
      refine ⟨base, _, hs, List.forall_mem_map.2 fun w _ => w.toNat_lt_size, ?_⟩
      exact List.mem_map.2 ⟨0, hzero, rfl⟩
    · rintro ⟨base, lengths, hs, hrange, hzero⟩
      obtain ⟨words, rfl⟩ := exists_words hrange
      obtain ⟨w, hw, hw0⟩ := List.mem_map.1 hzero
      cases UInt64.toNat_inj.1 (hw0.trans UInt64.toNat_zero.symm)
      exact ⟨base, words, hs, hw⟩
  · intro e h
    rcases parse_cases text with ⟨base, lengths, -, hp⟩ | ⟨base, words, -, -, hp⟩ | hp
    · cases h.symm.trans hp
    · cases h.symm.trans hp
      exact .inl rfl
    · cases h.symm.trans hp
      exact .inr rfl

end ShaderType
end RenderPlan
