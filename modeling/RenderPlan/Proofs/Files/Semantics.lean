import RenderPlan.Files.Store
import RenderPlan.Proofs.Files.Operations

/-! What is assumed of a place for files: an operation happens or fails without effect, for whatever
reason, and the making of several directories may stop half-way. Files held as a value meet this. -/
namespace RenderPlan

/-- How actions change files, when any operation may fail. -/
structure FileStore.Semantics (m : Type → Type) [Monad m] [FileStore m] where
  /-- An action can lead from files to other ones, with an answer. -/
  Leads {α : Type} : m α → FileSystem → α → FileSystem → Prop
  of_pure {α : Type} {a b : α} {fs fs' : FileSystem} : Leads (pure a) fs b fs' → b = a ∧ fs' = fs
  of_map {α β : Type} {f : α → β} {x : m α} {b : β} {fs fs' : FileSystem} :
    Leads (f <$> x) fs b fs' → ∃ a, Leads x fs a fs' ∧ b = f a
  of_bind {α β : Type} {x : m α} {f : α → m β} {b : β} {fs fs' : FileSystem} :
    Leads (x >>= f) fs b fs' → ∃ a fs₁, Leads x fs a fs₁ ∧ Leads (f a) fs₁ b fs'
  of_isPresent {path : String} {b : Bool} {fs fs' : FileSystem} :
    Leads (isPresent path) fs b fs' → fs' = fs
  of_readText? {path : String} {text : Option String} {fs fs' : FileSystem} :
    Leads (readText? path) fs text fs' → fs' = fs
  of_makeDirectories {path : String} {b : Bool} {fs fs' : FileSystem} :
    Leads (makeDirectories path) fs b fs' → fs.Extends fs'
  of_makeFreshDirectory? {parent start : String} {made : Option String} {fs fs' : FileSystem} :
    Leads (makeFreshDirectory? parent start) fs made fs' →
      made = none ∧ fs' = fs ∨
      ∃ rest, '/' ∉ rest.toList ∧ made = some (Path.join parent (start ++ rest)) ∧
        fs.makeDirectory (Path.join parent (start ++ rest)) = .ok fs'
  of_writeText {path text : String} {b : Bool} {fs fs' : FileSystem} :
    Leads (writeText path text) fs b fs' →
      b = false ∧ fs' = fs ∨ b = true ∧ fs.write path text.toUTF8 = some fs'
  of_move {source target : String} {b : Bool} {fs fs' : FileSystem} :
    Leads (move source target) fs b fs' →
      b = false ∧ fs' = fs ∨ b = true ∧ fs.move source target = some fs'
  of_removeTree {path : String} {u : Unit} {fs fs' : FileSystem} :
    Leads (removeTree path) fs u fs' → fs' = fs.removeTree path

namespace FileSystem
variable {fs fs' : FileSystem} {b : Bool}

lemma of_attempt {new : Option FileSystem} (h : (attempt new).run fs = (b, fs')) :
    b = false ∧ fs' = fs ∨ b = true ∧ new = some fs' := by
  cases new with
  | none =>
    cases h
    exact .inl ⟨rfl, rfl⟩
  | some new =>
    cases h
    exact .inr ⟨rfl, rfl⟩

lemma slash_not_mem_toString (k : Nat) : '/' ∉ (toString k).toList := by
  intro h
  rw [Nat.toString_eq_repr, Nat.repr_eq_ofList_toDigits, String.toList_ofList] at h
  exact absurd (Nat.isDigit_of_mem_toDigits (by decide) (by decide) h) (by decide)

lemma of_makeFreshDirectory {parent start : String} {made : Option String}
    (h : (FileStore.makeFreshDirectory? parent start : StateM FileSystem _).run fs = (made, fs')) :
    made = none ∧ fs' = fs ∨
      ∃ rest, '/' ∉ rest.toList ∧ made = some (Path.join parent (start ++ rest)) ∧
        fs.makeDirectory (Path.join parent (start ++ rest)) = .ok fs' := by
  simp only [FileStore.makeFreshDirectory?, StateT.run_bind, StateT.run_get, pure_bind] at h
  cases hm : fs.makeDirectory (fs.freshPath parent start) with
  | error e =>
    rw [hm] at h
    cases h
    exact .inl ⟨rfl, rfl⟩
  | ok made =>
    rw [hm] at h
    cases h
    exact .inr ⟨_, slash_not_mem_toString _, rfl, hm⟩

/-- Files held as a value. -/
def semantics : FileStore.Semantics (StateM FileSystem) where
  Leads x fs a fs' := x.run fs = (a, fs')
  of_pure h := by
    cases h
    exact ⟨rfl, rfl⟩
  of_map h := by
    cases h
    exact ⟨_, rfl, rfl⟩
  of_bind h := ⟨_, _, rfl, h⟩
  of_isPresent h := by
    cases h
    rfl
  of_readText? h := by
    cases h
    rfl
  of_makeDirectories h := by
    cases h
    exact makeDirectoriesWithin_extends _ _ _
  of_makeFreshDirectory? h := of_makeFreshDirectory h
  of_writeText h := of_attempt h
  of_move h := of_attempt h
  of_removeTree h := by
    cases h
    rfl

lemma semantics_leads {α : Type} (x : StateM FileSystem α) (fs : FileSystem) :
    semantics.Leads x fs (x.run fs).1 (x.run fs).2 :=
  rfl

end FileSystem

end RenderPlan
