import Mathlib.Data.Finset.Card
import RenderPlan.Proofs.Resource.ShadowName

/-! The search for the name of a shadow as a loop over a name and a counter of 32 bits. While the
counter lasts, the names it makes are the candidates, all of them different, so the loop comes to an
end after as many refusals as there are taken names at most. With 2147483647 taken names the counter
can overflow, and then the loop is given up or leaves the candidates for names with a minus sign. -/
namespace RenderPlan.ShadowTarget
open Text
variable {o : Overflow} {texture name name' found found' : String} {taken names names' : List String}
  {attempt attempt' : Int32} {i k limit : ℕ}

/-- A run of the loop from a name and the number of the next one. It asks for the names in order and
ends with the last of them. -/
inductive Search (o : Overflow) (texture : String) (taken : List String) :
    String → Int32 → List String → String → Prop
  | free {name : String} {attempt : Int32} (h : name ∉ taken) :
    Search o texture taken name attempt [name] name
  | next {name found : String} {attempt attempt' : Int32} {names : List String} (h : name ∈ taken)
    (hnext : o.next? attempt = some attempt')
    (rest : Search o texture taken (numbered texture attempt) attempt' names found) :
    Search o texture taken name attempt (name :: names) found

lemma Search.unique (h : Search o texture taken name attempt names found)
    (h' : Search o texture taken name attempt names' found') : names = names' ∧ found = found' := by
  induction h generalizing names' with
  | free hfree =>
    cases h' with
    | free => exact ⟨rfl, rfl⟩
    | next htaken => exact absurd htaken hfree
  | next htaken hnext rest ih =>
    cases h' with
    | free hfree => exact absurd htaken hfree
    | next _ hnext' rest' =>
      rw [hnext] at hnext'
      cases hnext'
      obtain ⟨rfl, rfl⟩ := ih rest'
      exact ⟨rfl, rfl⟩

/-- The runs that are computed are those with few enough refusals. -/
lemma searchFrom_eq_some_iff : searchFrom o texture taken limit name attempt = some (names, found) ↔
    Search o texture taken name attempt names found ∧ names.length ≤ limit + 1 := by
  induction limit generalizing name attempt names with
  | zero =>
    rw [searchFrom]
    constructor
    · intro h
      split at h
      · cases h
      · next hfree =>
        cases h
        exact ⟨.free hfree, Nat.le_refl _⟩
    · rintro ⟨h, hlength⟩
      cases h with
      | free hfree => exact if_neg hfree
      | next _ _ rest => cases rest <;> simp at hlength
  | succ limit ih =>
    rw [searchFrom]
    constructor
    · intro h
      split at h
      · next htaken =>
        obtain ⟨attempt', hnext, h⟩ := Option.bind_eq_some_iff.1 h
        obtain ⟨⟨rest, found'⟩, hrest, h⟩ := Option.bind_eq_some_iff.1 h
        cases h
        obtain ⟨hrun, hlength⟩ := ih.1 hrest
        exact ⟨.next htaken hnext hrun, Nat.succ_le_succ hlength⟩
      · next hfree =>
        cases h
        exact ⟨.free hfree, Nat.le_add_left _ _⟩
    · rintro ⟨h, hlength⟩
      cases h with
      | free hfree => exact if_neg hfree
      | next htaken hnext rest =>
        rw [if_pos htaken, hnext, Option.bind_eq_bind, Option.bind_some,
          ih.2 ⟨rest, Nat.le_of_succ_le_succ hlength⟩]
        rfl

section Counter

lemma toInt_ofNat_of_le (h : k ≤ 2147483647) : (Int32.ofNat k).toInt = k :=
  Int32.toInt_ofNat_of_lt (by omega)

/-- As long as the counter lasts, its names are the candidates. -/
lemma numbered_ofNat (hk : k < 2147483647) :
    numbered texture (Int32.ofNat (k + 1)) = candidate texture (k + 1) := by
  have hnonneg : ¬ ((k + 1 : ℕ) : ℤ) < 0 := by omega
  rw [numbered, toInt_ofNat_of_le (by omega), signedDecimal, if_neg hnonneg]
  rfl

lemma next?_ofNat (hk : k < 2147483647) :
    o.next? (Int32.ofNat k) = some (Int32.ofNat (k + 1)) := by
  have hmax : ¬ (o = .stops ∧ Int32.ofNat k = Int32.maxValue) := by
    rintro ⟨-, hk'⟩
    have hint := congrArg Int32.toInt hk'
    rw [toInt_ofNat_of_le (by omega)] at hint
    have : (Int32.maxValue).toInt = 2147483647 := by decide
    omega
  rw [Overflow.next?, if_neg hmax, Int32.ofNat_add]
  rfl

/-- One refused candidate, in both directions. -/
lemma search_candidate_iff (hi : i + 1 < 2147483647) (htaken : candidate texture i ∈ taken) :
    Search o texture taken (candidate texture i) (Int32.ofNat (i + 1)) names found ↔
      ∃ rest, names = candidate texture i :: rest ∧
        Search o texture taken (candidate texture (i + 1)) (Int32.ofNat (i + 2)) rest found := by
  have hnext : o.next? (Int32.ofNat (i + 1)) = some (Int32.ofNat (i + 2)) := next?_ofNat hi
  rw [← numbered_ofNat (by omega)]
  constructor
  · intro h
    generalize candidate texture i = name at h htaken
    cases h with
    | free hfree => exact absurd htaken hfree
    | next _ hnext' rest =>
      rw [hnext] at hnext'
      cases hnext'
      exact ⟨_, rfl, rest⟩
  · rintro ⟨rest, rfl, h⟩
    exact .next htaken hnext h

/-- By induction over the refused candidates. -/
lemma search_iff_of_taken (hlimit : i + k < 2147483647)
    (htaken : ∀ j < k, candidate texture (i + j) ∈ taken) :
    Search o texture taken (candidate texture i) (Int32.ofNat (i + 1)) names found ↔
      ∃ rest, names = (List.range' i k).map (candidate texture) ++ rest ∧
        Search o texture taken (candidate texture (i + k)) (Int32.ofNat (i + k + 1)) rest found := by
  induction k generalizing i names with
  | zero => simp
  | succ k ih =>
    have hshift (j : ℕ) : i + (j + 1) = i + 1 + j := by omega
    have hfirst : candidate texture i ∈ taken := htaken 0 (by omega)
    have hrest : ∀ j < k, candidate texture (i + 1 + j) ∈ taken := fun j hj => by
      rw [← hshift]
      exact htaken (j + 1) (by omega)
    rw [search_candidate_iff (by omega) hfirst, List.range'_succ, List.map_cons, hshift k]
    simp only [ih (i := i + 1) (by omega) hrest]
    constructor
    · rintro ⟨_, rfl, rest, rfl, h⟩
      exact ⟨rest, rfl, h⟩
    · rintro ⟨rest, rfl, h⟩
      exact ⟨_, rfl, rest, rfl, h⟩

end Counter

/-- The refused candidates are so many different taken names. -/
lemma rejected_le_card (texture : String) (taken : List String) :
    rejected texture taken ≤ taken.toFinset.card := by
  have hinj : Function.Injective (candidate texture) := fun i j hij => (candidate_inj hij).2
  have hsub : (Finset.range (rejected texture taken)).image (candidate texture) ⊆ taken.toFinset := by
    intro name hname
    obtain ⟨j, hj, rfl⟩ := Finset.mem_image.1 hname
    exact List.mem_toFinset.2 (candidate_mem_of_lt (Finset.mem_range.1 hj))
  have hcard := Finset.card_le_card hsub
  rwa [Finset.card_image_of_injective _ hinj, Finset.card_range] at hcard

lemma candidate_eq (texture : String) (i : ℕ) :
    candidate texture i = texture ++ "Target" ++ if i = 0 then "" else decimal i := by
  cases i <;> simp [candidate]

/-- A name that is too short to hold the reserved word does not get it from the letter behind. -/
lemma unreserved_append {cs rest : List Char} {c : Char} (hne : cs ≠ [])
    (h : ¬ "gl_".toList <+: cs) (hc : c ≠ 'l' ∧ c ≠ '_') : ¬ "gl_".toList <+: cs ++ c :: rest := by
  intro hprefix
  match cs with
  | [] => exact hne rfl
  | [a] => simp [List.cons_prefix_cons, hc.1.symm] at hprefix
  | [a, b] => simp [List.cons_prefix_cons, hc.2.symm] at hprefix
  | a :: b :: d :: cs => exact h (by simpa [List.cons_prefix_cons] using hprefix)

lemma isIdentifier_candidate (h : IsIdentifier texture.toList) (i : ℕ) :
    IsIdentifier (candidate texture i).toList := by
  have hlist : (candidate texture i).toList = texture.toList ++ 'T' :: ("arget".toList ++ numeral i) := by
    rw [toList_candidate]
    simp
  rw [hlist]
  have hletters : "arget".toList.all Char.isAlphanum = true := by decide
  obtain ⟨c, rest, hcs, hc, hrest⟩ := h.word
  refine ⟨⟨c, rest ++ 'T' :: ("arget".toList ++ numeral i), by rw [hcs]; rfl, hc, ?_⟩, ?_⟩
  · intro d hd
    simp only [List.mem_append, List.mem_cons] at hd
    rcases hd with hd | rfl | hd | hd
    · exact hrest d hd
    · exact .inl (by decide)
    · exact .inl (List.all_eq_true.1 hletters d hd)
    · exact .inl (by simp [Char.isAlphanum, isDigit_of_mem_numeral hd])
  · exact unreserved_append (by simp [hcs]) h.unreserved (by decide)

/-- The run of the loop, unless too many names are taken. -/
lemma search_named (o : Overflow) (texture : String) (taken : List String)
    (h : taken.toFinset.card < 2147483647) :
    Search o texture taken (texture ++ "Target") 1 (asked texture taken) (named texture taken).name := by
  have hlimit : 0 + rejected texture taken < 2147483647 := by
    rw [Nat.zero_add]
    exact (rejected_le_card texture taken).trans_lt h
  have htaken : ∀ j < rejected texture taken, candidate texture (0 + j) ∈ taken := fun j hj => by
    rw [Nat.zero_add]
    exact candidate_mem_of_lt hj
  refine (search_iff_of_taken hlimit htaken).2 ⟨[(named texture taken).name], ?_, ?_⟩
  · rw [asked, List.range_succ, List.map_append, List.range_eq_range']
    rfl
  · rw [Nat.zero_add]
    exact .free (name_named_not_mem texture taken)

lemma signedDecimal_inj {m n : ℤ} (h : signedDecimal m = signedDecimal n) : m = n := by
  have hsign {a b : ℕ} : "-" ++ decimal a ≠ decimal b := by
    intro heq
    have hmem : '-' ∈ (decimal b).toList := by
      rw [← heq]
      simp
    cases isDigit_of_mem_decimal hmem
  unfold signedDecimal at h
  split at h <;> split at h
  · have habs := decimal_inj ((String.append_right_inj "-").1 h)
    omega
  · exact absurd h hsign
  · exact absurd h.symm hsign
  · have habs := decimal_inj h
    omega

lemma numbered_inj (h : numbered texture attempt = numbered texture attempt') : attempt = attempt' :=
  Int32.toInt_inj.1 (signedDecimal_inj ((String.append_right_inj (texture ++ "Target")).1 h))

lemma numbered_ne_first : numbered texture attempt ≠ texture ++ "Target" := by
  intro h
  have hempty := congrArg String.toList h
  rw [numbered, String.toList_append, List.append_right_eq_self] at hempty
  unfold signedDecimal at hempty
  split at hempty
  · simp at hempty
  · simp [decimal] at hempty

/-- Where a run may be on its way: at the first name, or at one that the counter has made. -/
def Underway (o : Overflow) (texture name : String) (attempt : Int32) : Prop :=
  (name = texture ++ "Target" ∧ attempt = 1) ∨
    ∃ before, name = numbered texture before ∧ o.next? before = some attempt

/-- From a name that is asked for later on there is a shorter run. -/
lemma Search.exists_of_mem_tail (h : Search o texture taken name attempt names found)
    (hmem : name' ∈ names.tail) : ∃ before attempt' names', name' = numbered texture before ∧
      o.next? before = some attempt' ∧ Search o texture taken name' attempt' names' found ∧
      names'.length < names.length := by
  induction h with
  | free => cases hmem
  | @next name found attempt attempt' names htaken hnext rest ih =>
    rw [List.tail_cons] at hmem
    by_cases hname : name' = numbered texture attempt
    · exact ⟨attempt, attempt', names, hname, hnext, hname ▸ rest, Nat.lt_succ_self _⟩
    · have htail : name' ∈ names.tail := by
        cases rest with
        | free => exact absurd (List.mem_singleton.1 hmem) hname
        | next => exact (List.mem_cons.1 hmem).resolve_left hname
      obtain ⟨before, attempt', names', hbefore, hnext', hrun, hlt⟩ := ih htail
      exact ⟨before, attempt', names', hbefore, hnext', hrun, Nat.lt_succ_of_lt hlt⟩

/-- A run that comes to an end asks for no name twice, or it would go in circles. -/
lemma Search.nodup (h : Search o texture taken name attempt names found)
    (hstate : Underway o texture name attempt) : names.Nodup := by
  induction h with
  | free => exact List.nodup_singleton _
  | @next name found attempt attempt' names htaken hnext rest ih =>
    refine List.nodup_cons.2 ⟨fun hmem => ?_, ih (.inr ⟨attempt, rfl, hnext⟩)⟩
    have hrun := Search.next htaken hnext rest
    obtain ⟨before, other, names', hbefore, hother, hrun', hlt⟩ := hrun.exists_of_mem_tail hmem
    rcases hstate with ⟨hfirst, -⟩ | ⟨before', hbefore', hattempt⟩
    · exact numbered_ne_first (hbefore.symm.trans hfirst)
    · cases numbered_inj (hbefore.symm.trans hbefore')
      rw [hother] at hattempt
      cases hattempt
      rw [(hrun.unique hrun').1] at hlt
      exact Nat.lt_irrefl _ hlt

lemma Search.exists_refused (h : Search o texture taken name attempt names found) :
    ∃ refused, names = refused ++ [found] ∧ refused ⊆ taken := by
  induction h with
  | free => exact ⟨[], rfl, List.nil_subset _⟩
  | @next name found attempt attempt' names htaken hnext rest ih =>
    obtain ⟨refused, rfl, hsub⟩ := ih
    exact ⟨name :: refused, rfl, List.cons_subset.2 ⟨htaken, hsub⟩⟩

/-- The limit cuts off no run that comes to an end. -/
lemma search?_eq_some_iff {s : ShadowTarget} : search? o texture taken = some (names, s) ↔
    Search o texture taken (texture ++ "Target") 1 names s.name ∧ s.texture = texture := by
  have hlength (hrun : Search o texture taken (texture ++ "Target") 1 names s.name) :
      names.length ≤ taken.length + 1 := by
    obtain ⟨refused, rfl, hsub⟩ := hrun.exists_refused
    have hnodup := (List.nodup_append.1 (hrun.nodup (.inl ⟨rfl, rfl⟩))).1
    simpa using (List.subperm_of_subset hnodup hsub).length_le
  rw [search?, Option.map_eq_some_iff]
  constructor
  · rintro ⟨⟨names, found⟩, hfound, h⟩
    cases h
    exact ⟨(searchFrom_eq_some_iff.1 hfound).1, rfl⟩
  · rintro ⟨hrun, rfl⟩
    exact ⟨(names, s.name), searchFrom_eq_some_iff.2 ⟨hrun, hlength hrun⟩, rfl⟩

/-- While fewer than 2147483647 names are taken, the search for the name of a shadow has exactly one
run, whatever an overflow would do, and it is the one that is computed. It asks for the candidates in
order, none of them twice and at most one more than there are taken names, and ends with the first that
is free. Candidates are identifiers if the texture's name is one, and no two textures have a candidate
in common. -/
theorem named_first_free (o : Overflow) (texture : String) (taken : List String)
    (h : taken.toFinset.card < 2147483647) :
    (∀ names name, Search o texture taken (texture ++ "Target") 1 names name ↔
      names = asked texture taken ∧ name = (named texture taken).name) ∧
    search? o texture taken = some (asked texture taken, named texture taken) ∧
    (∃ k ≤ taken.toFinset.card, asked texture taken = (List.range (k + 1)).map (candidate texture) ∧
      named texture taken = ⟨texture, candidate texture k⟩ ∧ candidate texture k ∉ taken ∧
      ∀ i < k, candidate texture i ∈ taken) ∧
    (∀ i, candidate texture i = texture ++ "Target" ++ if i = 0 then "" else decimal i) ∧
    (asked texture taken).Nodup ∧
    (isIdentifier texture = true → isIdentifier (named texture taken).name = true) ∧
    ∀ texture' ≠ texture, ∀ i j, candidate texture' i ≠ candidate texture j := by
  have hrun := search_named o texture taken h
  refine ⟨fun names name => ⟨fun h' => h'.unique hrun, ?_⟩, search?_eq_some_iff.2 ⟨hrun, rfl⟩,
    ⟨rejected texture taken, rejected_le_card texture taken, rfl, rfl,
      name_named_not_mem texture taken, fun i => candidate_mem_of_lt⟩,
    candidate_eq texture, ?_, ?_, ?_⟩
  · rintro ⟨rfl, rfl⟩
    exact hrun
  · exact List.nodup_range.map fun i j hij => (candidate_inj hij).2
  · rw [isIdentifier_iff, isIdentifier_iff]
    exact fun h' => isIdentifier_candidate h' _
  · exact fun texture' hne i j h' => hne (candidate_inj h').1

/-- Taken names may be repeated, and a texture may be named like a shadow. -/
theorem named_first_free_accum :
    let taken := ["AccumTarget1", "Accum", "AccumTarget", "AccumTarget1", "AccumTarget3"]
    taken.toFinset.card < 2147483647 ∧
    named "Accum" taken = ⟨"Accum", "AccumTarget2"⟩ ∧
    (∀ o, Search o "Accum" taken "AccumTarget" 1 ["AccumTarget", "AccumTarget1", "AccumTarget2"]
      "AccumTarget2") ∧
    isIdentifier (named "Accum" taken).name = true ∧
    ∀ i j, candidate "AccumTarget1" i ≠ candidate "Accum" j := by
  intro taken
  have hcard : taken.toFinset.card < 2147483647 := by decide
  refine ⟨hcard, by decide, fun o => ?_, ?_, ?_⟩
  · exact ((named_first_free o "Accum" taken hcard).1 _ _).2 ⟨by decide, by decide⟩
  · obtain ⟨-, -, -, -, -, hident, -⟩ := named_first_free .stops "Accum" taken hcard
    exact hident (by decide)
  · obtain ⟨-, -, -, -, -, -, hapart⟩ := named_first_free .wraps "Accum" taken hcard
    exact hapart "AccumTarget1" (by decide)

/-- All candidates of a texture that the counter can number, and the one without a number. -/
def crowd (texture : String) : List String := (List.range 2147483648).map (candidate texture)

lemma candidate_mem_crowd (h : k < 2147483648) : candidate texture k ∈ crowd texture :=
  List.mem_map_of_mem (List.mem_range.2 h)

lemma numbered_not_mem_crowd (h : attempt.toInt < 0) : numbered texture attempt ∉ crowd texture := by
  intro hmem
  obtain ⟨i, -, hi⟩ := List.mem_map.1 hmem
  have hdigits : '-' ∈ (if i = 0 then "" else decimal i).toList := by
    rw [candidate_eq, numbered, signedDecimal, if_pos h, String.append_right_inj] at hi
    rw [hi]
    simp
  split at hdigits
  · cases hdigits
  · cases isDigit_of_mem_decimal hdigits

/-- Among so many taken names the counter comes to its greatest number. -/
lemma search_crowd_iff : Search o texture (crowd texture) (texture ++ "Target") 1 names found ↔
    ∃ rest, names = (List.range' 0 2147483646).map (candidate texture) ++ rest ∧
      Search o texture (crowd texture) (candidate texture 2147483646) Int32.maxValue rest found :=
  search_iff_of_taken (i := 0) (k := 2147483646) (by decide) fun j hj =>
    candidate_mem_crowd (by omega)

/-- With that many taken names the counter overflows before a free name is found: the search is given
up, or it ends with a name that is no identifier, although there are free candidates that are. -/
theorem search_crowd_overflows :
    isIdentifier "T" = true ∧ candidate "T" 2147483648 ∉ crowd "T" ∧
    (∀ names name, ¬ Search .stops "T" (crowd "T") "TTarget" 1 names name) ∧
    (∃ names, Search .wraps "T" (crowd "T") "TTarget" 1 names "TTarget-2147483648") ∧
    isIdentifier "TTarget-2147483648" = false := by
  refine ⟨by decide, ?_, fun names name h => ?_, ?_, by decide⟩
  · intro hmem
    obtain ⟨i, hi, heq⟩ := List.mem_map.1 hmem
    cases (candidate_inj heq).2
    exact absurd (List.mem_range.1 hi) (by decide)
  · obtain ⟨rest, -, hrun⟩ := search_crowd_iff.1 h
    have htaken : candidate "T" 2147483646 ∈ crowd "T" := candidate_mem_crowd (by decide)
    generalize candidate "T" 2147483646 = last at hrun htaken
    cases hrun with
    | free hfree => exact hfree htaken
    | next _ hnext => cases hnext
  · have hleast : Search .wraps "T" (crowd "T") (numbered "T" Int32.minValue) (Int32.minValue + 1)
        ["TTarget-2147483648"] "TTarget-2147483648" := by
      have hname : numbered "T" Int32.minValue = "TTarget-2147483648" := by decide
      rw [← hname]
      exact .free (numbered_not_mem_crowd (by decide))
    have hgreatest : Search .wraps "T" (crowd "T") (candidate "T" 2147483646) Int32.maxValue
        [candidate "T" 2147483646, candidate "T" 2147483647, "TTarget-2147483648"]
        "TTarget-2147483648" := by
      refine .next (candidate_mem_crowd (by decide)) rfl ?_
      refine .next (candidate_mem_crowd (k := 2147483647) (by decide)) rfl hleast
    exact ⟨_, search_crowd_iff.2 ⟨_, rfl, hgreatest⟩⟩

end RenderPlan.ShadowTarget
