import Mathlib.Data.Set.Function
import RenderPlan.Proofs.Shader.Spelling

/-! Types that are read back from their own spelling. Every type is a base in levels of arrays. Its
spelling is that of the base and one pair of brackets for each level, so all depends on the base: the
builtin types are read back, and of the structs those whose name no builtin type claims. -/
namespace RenderPlan.ShaderType
open Text
variable {cs : List Char} {name : String} {t u : ShaderType}

/-- The names of the types that need no declaration. -/
def BuiltinName (cs : List Char) : Prop := ∃ t, BaseName cs t ∧ t.isBuiltin = true

/-- The lengths of the array levels, outermost first. -/
@[simp] def lengths : ShaderType → List ArrayLength
  | array element length => length :: element.lengths
  | _ => []

@[simp] lemma nest_lengths (t : ShaderType) : t.base.nest t.lengths = t := by
  induction t with
  | array element length ih => exact congrArg (array · length) ih
  | _ => rfl

@[simp]
lemma base_nest (t : ShaderType) (lengths : List ArrayLength) : (t.nest lengths).base = t.base := by
  induction lengths with
  | nil => rfl
  | cons n lengths ih => exact ih

@[simp] lemma baseSpelling_base (t : ShaderType) : t.base.baseSpelling = t.baseSpelling := by
  induction t with
  | array element length ih => exact ih
  | _ => rfl

lemma BaseName.base_eq (h : BaseName cs t) : t.base = t := by
  cases h <;> rfl

/-- Square matrices have two names; the spelling is one of the names of its type. -/
lemma BaseName.baseSpelling (h : BaseName cs t) : BaseName t.baseSpelling.toList t := by
  cases h with
  | scalar kind => exact .scalar kind
  | vector kind arity =>
    simpa [ShaderType.baseSpelling] using BaseName.vector kind arity
  | square n =>
    simpa [ShaderType.baseSpelling] using BaseName.square n
  | matrix columns rows =>
    by_cases hsquare : columns = rows
    · subst hsquare
      simpa [ShaderType.baseSpelling] using BaseName.square columns
    · simpa [ShaderType.baseSpelling, hsquare] using BaseName.matrix columns rows
  | struct hident hshaped hscalar =>
    simpa [ShaderType.baseSpelling] using BaseName.struct hident hshaped hscalar

lemma BaseName.struct_iff : BaseName cs (.struct name) ↔ cs = name.toList ∧ IsIdentifier cs ∧
    ¬ BuiltinName cs ∧ ¬ BuiltinShaped cs := by
  constructor
  · intro h
    cases h with
    | struct hident hshaped hscalar =>
      refine ⟨by simp, hident, fun hbuiltin => ?_, hshaped⟩
      obtain ⟨t, ht, hb⟩ := hbuiltin
      cases ht with
      | scalar kind => exact hscalar kind rfl
      | vector kind arity => exact hshaped (.vector kind arity)
      | square n => exact hshaped (.matrix (.inl ⟨rfl, rfl⟩))
      | matrix columns rows => exact hshaped (.matrix (.inr rfl))
      | struct => cases hb
  · intro h
    obtain ⟨rfl, hident, hbuiltin, hshaped⟩ := h
    have hstruct : BaseName name.toList (.struct (String.ofList name.toList)) := by
      refine .struct hident hshaped fun kind hkind => ?_
      exact hbuiltin ⟨.scalar kind, hkind ▸ .scalar kind, rfl⟩
    rwa [String.ofList_toList] at hstruct

/-- The bases that have a name: all builtin types, and the structs that no builtin type is taken
for. -/
lemma exists_baseName_iff : (∃ cs, BaseName cs t) ↔ t.isBuiltin = true ∨ ∃ name, t = .struct name ∧
    IsIdentifier name.toList ∧ ¬ BuiltinName name.toList ∧ ¬ BuiltinShaped name.toList := by
  cases t with
  | scalar kind => simpa [isBuiltin] using ⟨_, BaseName.scalar kind⟩
  | vector kind arity => simpa [isBuiltin] using ⟨_, BaseName.vector kind arity⟩
  | matrix columns rows => simpa [isBuiltin] using ⟨_, BaseName.matrix columns rows⟩
  | array element length =>
    constructor
    · intro h
      obtain ⟨cs, hcs⟩ := h
      cases hcs
    · intro h
      simp [isBuiltin] at h
  | struct name => simp [isBuiltin, BaseName.struct_iff]

@[simp] lemma toList_lengthSpelling_array (element : ShaderType) (n : ArrayLength) :
    (array element n).lengthSpelling.toList =
      '[' :: ((decimal n.count).toList ++ ']' :: element.lengthSpelling.toList) := by
  simp [lengthSpelling]

lemma brackets_lengthSpelling (t : ShaderType) :
    Brackets t.lengthSpelling.toList (t.lengths.map ArrayLength.count) := by
  induction t with
  | array element n ih =>
    rw [toList_lengthSpelling_array]
    have hnil : Blank [] := by simp [Blank]
    simpa using Brackets.cons hnil (isNumeral_decimal n.count) hnil hnil ih
  | _ => exact .nil

lemma isBlank_of_mem_lengthSpelling {c : Char} (h : c ∈ t.lengthSpelling.toList) :
    isBlank c = false := by
  induction t with
  | array element n ih =>
    simp only [toList_lengthSpelling_array, List.mem_cons, List.mem_append] at h
    rcases h with rfl | h | rfl | h
    · decide
    · have hdigit := isDigit_of_mem_decimal h
      exact isBlank_of_isIdentifierPart (by simp [isIdentifierPart, Char.isAlphanum, hdigit])
    · decide
    · exact ih h
  | _ => simp [lengthSpelling] at h

/-- No white space stands in the spelling, unless it stands in the name of the base. -/
lemma trim_spelling (h : ∀ c ∈ t.baseSpelling.toList, isIdentifierPart c = true) :
    trim t.spelling.toList = t.spelling.toList := by
  apply Trims.trim_eq
  refine ⟨⟨[], [], by simp, by simp [Blank], by simp [Blank]⟩, tight_of_forall fun c hc => ?_⟩
  rw [spelling, String.toList_append, List.mem_append] at hc
  cases hc with
  | inl hc => exact isBlank_of_isIdentifierPart (h c hc)
  | inr hc => exact isBlank_of_mem_lengthSpelling hc

lemma exists_baseName_of_parse {text : String} (h : parse text = .ok t) :
    ∃ cs, BaseName cs t.base := by
  obtain ⟨base, lengths, ⟨cs, _, _, -, hname, -, -⟩, rfl⟩ := parse_eq_ok_iff.1 h
  rw [base_nest, hname.base_eq]
  exact ⟨cs, hname⟩

lemma parse_spelling_iff : parse t.spelling = .ok t ↔ ∃ cs, BaseName cs t.base := by
  refine ⟨exists_baseName_of_parse, fun h => ?_⟩
  obtain ⟨cs, hcs⟩ := h
  have hname := hcs.baseSpelling
  rw [baseSpelling_base] at hname
  refine parse_eq_ok_iff.2 ⟨t.base, t.lengths, ?_, (nest_lengths t).symm⟩
  rw [trim_spelling hname.isIdentifierPart]
  exact ⟨_, [], _, by simp [spelling], hname, by simp [Blank], brackets_lengthSpelling t⟩

lemma parse_spelling_of_parse {text : String} (h : parse text = .ok t) : parse t.spelling = .ok t :=
  parse_spelling_iff.2 (exists_baseName_of_parse h)

/-- A type that was read is read back from its spelling, so different ones are spelled differently. In
general a type is read back if its base is builtin, or a struct whose name is an identifier, not a
builtin type and not shaped like one. -/
theorem parse_spelling_roundTrip :
    (∀ text t, parse text = .ok t → parse t.spelling = .ok t) ∧
    Set.InjOn spelling {t | ∃ text, parse text = .ok t} ∧
    ∀ t, parse t.spelling = .ok t ↔ t.base.isBuiltin = true ∨ ∃ name, t.base = .struct name ∧
      IsIdentifier name.toList ∧ ¬ BuiltinName name.toList ∧ ¬ BuiltinShaped name.toList := by
  refine ⟨fun text t => parse_spelling_of_parse, ?_, fun t => ?_⟩
  · intro t ht u hu heq
    obtain ⟨text, ht⟩ := ht
    obtain ⟨text', hu⟩ := hu
    have htu := parse_spelling_of_parse ht
    rw [heq, parse_spelling_of_parse hu] at htu
    exact (Except.ok.inj htu).symm
  · rw [parse_spelling_iff, exists_baseName_iff]

end RenderPlan.ShaderType
