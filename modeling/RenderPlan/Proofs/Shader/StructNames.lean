import RenderPlan.Proofs.Outcome
import RenderPlan.Proofs.Shader.RoundTrip
import RenderPlan.Shader.Struct

/-! Declared structs and the spellings that refer to them. The check of a table refuses the names of
builtin types, but reading also reserves the names that only look like those. A struct with such a
name passes the check, and no type can be spelled that refers to it. -/
namespace RenderPlan
open Text ShaderType

namespace ShaderType
variable {name : String} {t : ShaderType}

@[simp] lemma isBuiltinName_iff : isBuiltinName name = true ↔ BuiltinName name.toList := by
  unfold isBuiltinName BuiltinName
  simp only [← readBase_eq_some_iff]
  split
  · next t ht => simp [ht]
  · next ht => simp [ht]

/-- Where the base has no name, the text is reported as it stands. -/
lemma parse_spelling_of_nameless (hpart : ∀ c ∈ t.baseSpelling.toList, isIdentifierPart c = true)
    (hnone : ∀ u, ¬ BaseName t.baseSpelling.toList u) :
    parse t.spelling = .error (.unparseable t.spelling) := by
  have htrim := trim_spelling hpart
  have hname : t.spelling.toList.takeWhile (· != '[') = t.baseSpelling.toList := by
    rw [spelling, String.toList_append]
    apply takeWhile_append_mark _ (brackets_lengthSpelling t).head
    rintro c hc rfl
    cases hpart _ hc
  have hend : trimEnd t.baseSpelling.toList = t.baseSpelling.toList := by
    have htight : Tight t.baseSpelling.toList :=
      tight_of_forall fun c hc => isBlank_of_isIdentifierPart (hpart c hc)
    have hnil : Blank [] := by simp [Blank]
    simpa using trimEnd_append hnil htight.last
  rw [parse_of_not_spells, htrim, String.ofList_toList]
  intro base words hspells
  have hbase := (spells_iff.1 hspells).2
  rw [htrim, hname, hend, readBase_eq_some_iff] at hbase
  exact hnone base hbase

/-- Of the names that the check of a struct lets through, those shaped like a builtin type are the
ones that cannot be read. -/
lemma parse_spelling_of_base_struct (hbase : t.base = .struct name) (hident : IsIdentifier name.toList)
    (hbuiltin : ¬ BuiltinName name.toList) :
    (parse t.spelling = .ok t ↔ ¬ BuiltinShaped name.toList) ∧
      (BuiltinShaped name.toList → parse t.spelling = .error (.unparseable t.spelling)) := by
  constructor
  · rw [parse_spelling_iff, hbase, exists_baseName_iff]
    simp [isBuiltin, hident, hbuiltin]
  · intro hshaped
    have hspelling : t.baseSpelling = name := by
      rw [← baseSpelling_base, hbase]
      rfl
    apply parse_spelling_of_nameless
    · intro c hc
      rw [hspelling] at hc
      exact hident.isIdentifierPart hc
    · intro u hu
      rw [hspelling] at hu
      cases exists_baseName_iff.1 ⟨_, hu⟩ with
      | inl hb => exact hbuiltin ⟨u, hu, hb⟩
      | inr hstruct =>
        obtain ⟨_, rfl, -⟩ := hstruct
        exact (BaseName.struct_iff.1 hu).2.2.2 hshaped

@[simp] lemma spelling_struct (name : String) : (struct name).spelling = name := by
  simp [spelling, baseSpelling, lengthSpelling]

@[simp] lemma spelling_array_struct (name : String) (n : ArrayLength) :
    (array (struct name) n).spelling = name ++ "[" ++ decimal n.count ++ "]" := by
  simp [spelling, baseSpelling, lengthSpelling, String.append_assoc]

end ShaderType

namespace StructTable
variable {decls : List StructDecl} {table : StructTable} {d : StructDecl}

@[simp] lemma ofList_eq_ok_iff : ofList decls = .ok table ↔ table.decls = decls := by
  rw [ofList]
  split
  · next name hr =>
    refine ⟨fun h => (nomatch h), ?_⟩
    rintro rfl
    rw [firstRepeat_eq_none_iff.2 ⟨table.distinct, by simp⟩] at hr
    cases hr
  · constructor
    · intro h
      cases h
      rfl
    · rintro rfl
      rfl

@[simp] lemma checkDecl_eq_ok_iff : checkDecl d = .ok () ↔ IsIdentifier d.name.toList ∧
    ¬ BuiltinName d.name.toList ∧ d.fields ≠ [] ∧ checkFields d.name [] d.fields = .ok () := by
  rw [← isIdentifier_iff, ← isBuiltinName_iff, checkDecl]
  by_cases hident : isIdentifier d.name = true
  · by_cases hbuiltin : isBuiltinName d.name = true
    · simp [hident, hbuiltin]
    · by_cases hfields : d.fields = []
      · simp [hident, hbuiltin, hfields]
      · simp [hident, hbuiltin, hfields]
  · simp [hident]

/-- Fields have distinct identifiers for names, and none of them refers to its own struct. -/
lemma checkFields_eq_ok_iff {owner : String} {seen : List String} {fields : List FieldDecl} :
    checkFields owner seen fields = .ok () ↔
      (∀ f ∈ fields, IsIdentifier f.name.toList ∧ f.type.referenced ≠ some owner) ∧
        (fields.map FieldDecl.name).Nodup ∧ ∀ f ∈ fields, f.name ∉ seen := by
  induction fields generalizing seen with
  | nil => simp [checkFields]
  | cons f fields ih =>
    rw [checkFields, List.forall_mem_cons, List.forall_mem_cons, List.map_cons, List.nodup_cons,
      ← isIdentifier_iff]
    by_cases hident : isIdentifier f.name = true
    · by_cases hseen : f.name ∈ seen
      · simp [hident, hseen]
      · by_cases hself : f.type.referenced = some owner
        · simp [hident, hseen, hself]
        · have hnew : (∀ g ∈ fields, g.name ∉ f.name :: seen) ↔
              f.name ∉ fields.map FieldDecl.name ∧ ∀ g ∈ fields, g.name ∉ seen := by
            simp only [List.mem_cons, not_or, forall_and, List.mem_map, not_exists, not_and]
          simp only [hident, hseen, hself, Bool.not_true, Bool.false_eq_true, if_false, ih, hnew]
          tauto
    · simp [hident]

/-- A declared struct can be referred to by its name, alone and in an array, if and only if the name is
not shaped like a builtin type. Otherwise both texts are refused, although the table was accepted. -/
theorem declared_name_readable_iff (hnew : ofList decls = .ok table) (hcheck : table.check = .ok ())
    (hd : d ∈ decls) (n : ArrayLength) :
    (parse d.name = .ok (.struct d.name) ↔ ¬ BuiltinShaped d.name.toList) ∧
    (parse (d.name ++ "[" ++ decimal n.count ++ "]") = .ok (.array (.struct d.name) n) ↔
      ¬ BuiltinShaped d.name.toList) ∧
    (BuiltinShaped d.name.toList → parse d.name = .error (.unparseable d.name) ∧
      parse (d.name ++ "[" ++ decimal n.count ++ "]") =
        .error (.unparseable (d.name ++ "[" ++ decimal n.count ++ "]"))) := by
  have hmem : d ∈ table.decls := ofList_eq_ok_iff.1 hnew ▸ hd
  obtain ⟨hident, hbuiltin, -, -⟩ := checkDecl_eq_ok_iff.1 (forM_eq_ok_iff.1 hcheck d hmem)
  have hone := parse_spelling_of_base_struct (t := .struct d.name) rfl hident hbuiltin
  have hmany := parse_spelling_of_base_struct (t := .array (.struct d.name) n) rfl hident hbuiltin
  rw [spelling_struct] at hone
  rw [spelling_array_struct] at hmany
  exact ⟨hone.1, hmany.1, fun hshaped => ⟨hone.2 hshaped, hmany.2 hshaped⟩⟩

/-- A struct under the name of a vector with five components. -/
def fiveTable : StructTable where
  decls := [⟨"vec5", [⟨"first", .vector .float .four⟩, ⟨"last", .scalar .float⟩]⟩]
  distinct := by decide

/-- The table is accepted, but its struct cannot be referred to. -/
theorem declared_name_readable_iff_five :
    ofList fiveTable.decls = .ok fiveTable ∧ fiveTable.check = .ok () ∧
    parse "vec5" = .error (.unparseable "vec5") ∧
    parse "vec5[3]" = .error (.unparseable "vec5[3]") := by
  have hnew : ofList fiveTable.decls = .ok fiveTable := ofList_eq_ok_iff.2 rfl
  have hcheck : fiveTable.check = .ok () := by decide
  have hshaped : BuiltinShaped "vec5".toList := isBuiltinShaped_iff.1 (by decide)
  obtain ⟨-, -, h⟩ := declared_name_readable_iff hnew hcheck List.mem_cons_self ⟨3, by decide⟩
  exact ⟨hnew, hcheck, h hshaped⟩

end StructTable
end RenderPlan
