import Mathlib.Data.List.Forall2

/-! What checked steps have done when they succeed: each of them has succeeded, and a list of results
holds one for every item. When they fail, one of them has failed, so what holds of the faults of each
step holds of the faults of all. -/
namespace RenderPlan
variable {ε α β : Type}

@[simp] lemma bind_eq_ok_iff {x : Except ε α} {f : α → Except ε β} {b : β} :
    (x >>= f) = .ok b ↔ ∃ a, x = .ok a ∧ f a = .ok b := by
  cases x with
  | error e => simp [bind, Except.bind]
  | ok a => simp [bind, Except.bind]

@[simp] lemma pure_eq_ok_iff {a b : α} : (pure a : Except ε α) = .ok b ↔ a = b := by
  simp [pure, Except.pure]

@[simp] lemma map_eq_ok_iff {x : Except ε α} {f : α → β} {b : β} :
    x.map f = .ok b ↔ ∃ a, x = .ok a ∧ f a = b := by
  cases x with
  | error e => simp [Except.map]
  | ok a => simp [Except.map]

@[simp]
lemma map_eq_error_iff {x : Except ε α} {f : α → β} {e : ε} : x.map f = .error e ↔ x = .error e := by
  cases x with
  | error e => simp [Except.map]
  | ok a => simp [Except.map]

/-- A test that holds of the result needs a result. -/
lemma exists_ok_of_toOption_map {x : Except ε α} {p : α → Bool}
    (h : x.toOption.map p = some true) : ∃ a, x = .ok a ∧ p a = true := by
  cases x with
  | error e => cases h
  | ok a => exact ⟨a, rfl, Option.some.inj h⟩

/-- A guard lets only those pass that do not meet its condition. -/
lemma guard_eq_ok_iff {c : Prop} [Decidable c] {e : ε} {next : Unit → Except ε β} {b : β} :
    (if c then (throw e : Except ε Unit) >>= next else next ()) = .ok b ↔
      ¬ c ∧ next () = .ok b := by
  by_cases hc : c
  · simp [hc, throw, throwThe, MonadExceptOf.throw, bind, Except.bind]
  · simp [hc]

lemma forM_eq_ok_iff {f : α → Except ε Unit} {xs : List α} :
    xs.forM f = .ok () ↔ ∀ x ∈ xs, f x = .ok () := by
  induction xs with
  | nil => simp [pure, Except.pure]
  | cons x xs ih =>
    rw [List.forall_mem_cons, ← ih]
    change (f x >>= fun _ => xs.forM f) = .ok () ↔ _
    rw [bind_eq_ok_iff]
    constructor
    · rintro ⟨⟨⟩, hx, hxs⟩
      exact ⟨hx, hxs⟩
    · rintro ⟨hx, hxs⟩
      exact ⟨(), hx, hxs⟩

@[simp] lemma mapM_eq_ok_iff {f : α → Except ε β} {xs : List α} {ys : List β} :
    xs.mapM f = .ok ys ↔ List.Forall₂ (fun x y => f x = .ok y) xs ys := by
  induction xs generalizing ys with
  | nil => cases ys <;> simp [pure, Except.pure]
  | cons x xs ih =>
    rw [List.mapM_cons]
    simp only [bind_eq_ok_iff, pure_eq_ok_iff, ih, List.forall₂_cons_left_iff]
    constructor
    · rintro ⟨y, hy, ys', hys, rfl⟩
      exact ⟨y, ys', hy, hys, rfl⟩
    · rintro ⟨y, ys', hy, hys, rfl⟩
      exact ⟨y, hy, ys', hys, rfl⟩

/-- Steps of any kind that all succeed. -/
lemma mapM_eq_pure {m : Type → Type} [Monad m] [LawfulMonad m] {f : α → m β} {g : α → β}
    {xs : List α} (h : ∀ x ∈ xs, f x = pure (g x)) : xs.mapM f = pure (xs.map g) := by
  induction xs with
  | nil => simp
  | cons x xs ih =>
    obtain ⟨hx, hxs⟩ := List.forall_mem_cons.1 h
    simp [hx, ih hxs]

lemma exists_forall₂_iff {r : α → β → Prop} {xs : List α} :
    (∃ ys, List.Forall₂ r xs ys) ↔ ∀ x ∈ xs, ∃ y, r x y := by
  constructor
  · rintro ⟨ys, h⟩ x hx
    induction h with
    | nil => cases hx
    | cons hxy _ ih =>
      rcases List.mem_cons.1 hx with rfl | hx
      · exact ⟨_, hxy⟩
      · exact ih hx
  · intro h
    induction xs with
    | nil => exact ⟨[], .nil⟩
    | cons x xs ih =>
      obtain ⟨hx, hxs⟩ := List.forall_mem_cons.1 h
      obtain ⟨y, hy⟩ := hx
      obtain ⟨ys, hys⟩ := ih hxs
      exact ⟨y :: ys, .cons hy hys⟩

/-- Every item succeeds if and only if the whole list does. -/
lemma exists_mapM_eq_ok_iff {f : α → Except ε β} {xs : List α} :
    (∃ ys, xs.mapM f = .ok ys) ↔ ∀ x ∈ xs, ∃ y, f x = .ok y := by
  simp only [mapM_eq_ok_iff, exists_forall₂_iff]

lemma exists_of_mem_mapM {f : α → Except ε β} {xs : List α} {ys : List β} {y : β}
    (h : xs.mapM f = .ok ys) (hy : y ∈ ys) : ∃ x ∈ xs, f x = .ok y := by
  rw [mapM_eq_ok_iff] at h
  induction h with
  | nil => cases hy
  | cons hxy _ ih =>
    rcases List.mem_cons.1 hy with rfl | hy
    · exact ⟨_, List.mem_cons_self, hxy⟩
    · obtain ⟨x, hx, hf⟩ := ih hy
      exact ⟨x, List.mem_cons_of_mem _ hx, hf⟩

/-- Where results keep the keys of their items, the result is found where its item is. -/
lemma find?_of_mapM {f : α → Except ε β} {key : α → String} {key' : β → String} {xs : List α}
    {ys : List β} (h : xs.mapM f = .ok ys) (hkey : ∀ x y, f x = .ok y → key' y = key x)
    (k : String) :
    ys.find? (key' · = k) = (xs.find? (key · = k)).bind fun x => (f x).toOption := by
  rw [mapM_eq_ok_iff] at h
  induction h with
  | nil => rfl
  | @cons x y xs ys hxy _ ih =>
    by_cases hk : key x = k
    · simp [hk, hkey x y hxy, hxy, Except.toOption]
    · simpa [hk, hkey x y hxy] using ih

/-- Every fault the step can end with satisfies `p`. -/
def FailsWithin (p : ε → Prop) (x : Except ε α) : Prop := ∀ e, x = .error e → p e

namespace FailsWithin
variable {p q : ε → Prop} {x : Except ε α} {e : ε}

protected lemma ok (a : α) : FailsWithin p (.ok a : Except ε α) := by
  intro e h
  cases h

protected lemma error (h : p e) : FailsWithin p (.error e : Except ε α) := by
  intro e' h'
  cases h'
  exact h

protected lemma mono (h : FailsWithin p x) (hpq : ∀ e, p e → q e) : FailsWithin q x :=
  fun e he => hpq e (h e he)

/-- Either the first step has failed, or the next one after its result. -/
protected lemma bind {f : α → Except ε β} (hx : FailsWithin p x)
    (hf : ∀ a, x = .ok a → FailsWithin p (f a)) : FailsWithin p (x >>= f) := by
  cases x with
  | error e => exact .error (hx e rfl)
  | ok a => exact hf a rfl

protected lemma guard {c : Prop} [Decidable c] {next : Unit → Except ε β} (he : p e)
    (hnext : FailsWithin p (next ())) :
    FailsWithin p (if c then (throw e : Except ε Unit) >>= next else next ()) := by
  by_cases hc : c
  · rw [if_pos hc]
    exact .error he
  · rw [if_neg hc]
    exact hnext

protected lemma forM {f : α → Except ε Unit} {xs : List α} (h : ∀ x ∈ xs, FailsWithin p (f x)) :
    FailsWithin p (xs.forM f) := by
  induction xs with
  | nil => exact .ok ()
  | cons x xs ih =>
    obtain ⟨hx, hxs⟩ := List.forall_mem_cons.1 h
    exact .bind hx fun _ _ => ih hxs

protected lemma mapM {f : α → Except ε β} {xs : List α} (h : ∀ x ∈ xs, FailsWithin p (f x)) :
    FailsWithin p (xs.mapM f) := by
  induction xs with
  | nil => exact .ok []
  | cons x xs ih =>
    obtain ⟨hx, hxs⟩ := List.forall_mem_cons.1 h
    rw [List.mapM_cons]
    exact .bind hx fun _ _ => .bind (ih hxs) fun _ _ => .ok _

end FailsWithin
end RenderPlan
