import RenderPlan.Fault
import RenderPlan.Pipeline.Pass
import RenderPlan.Shader.Struct

/-! The passes a pipeline runs after the pipelines it copies. A later pass replaces an earlier one
of its name in place. -/
namespace RenderPlan

/-- Puts a pass in the place of the one with its name, or at the end. -/
def mergePass : List RenderPass → RenderPass → List RenderPass
  | [], pass => [pass]
  | p :: ps, pass => if p.name = pass.name then pass :: ps else p :: mergePass ps pass

/-- The passes of the pipelines that are expanded already, by position. -/
abbrev Expansions := List (Nat × List RenderPass)

abbrev Expanding := StateT Expansions (Except Fault)

namespace Pipeline

/-- The position of the last pipeline with a name. -/
def position? (pipelines : List Pipeline) (name : String) : Option Nat :=
  (pipelines.zipIdx.reverse.find? fun p => p.1.name = name).map Prod.snd

/-- The passes of all copied pipelines, merged in order. `visit` expands the one at a position. -/
def copiedPasses (pipelines : List Pipeline) (referrer : String)
    (visit : Nat → Expanding (List RenderPass)) :
    List String → List RenderPass → Expanding (List RenderPass)
  | [], passes => pure passes
  | target :: targets, passes => do
    match position? pipelines target with
    | none => throw (.danglingReference referrer target)
    | some i =>
      let copied ← visit i
      copiedPasses pipelines referrer visit targets (copied.foldl mergePass passes)

/-- The passes of the pipeline after the copied ones. Its own passes have distinct names. -/
def withOwnPasses (p : Pipeline) (copied : List RenderPass) : Except Fault (List RenderPass) :=
  match firstRepeat [] (p.passes.map RenderPass.name) with
  | some pass => .error (.duplicateName .pass s!"{p.name}.{pass}")
  | none => .ok (p.passes.foldl mergePass copied)

def idle (pipelines : List Pipeline) (stack : List Nat) : List Nat :=
  (List.range pipelines.length).filter (· ∉ stack)

theorem length_idle_lt {pipelines : List Pipeline} {stack : List Nat} {i : Nat} {p : Pipeline}
    (hp : pipelines[i]? = some p) (hi : i ∉ stack) :
    (idle pipelines (stack ++ [i])).length < (idle pipelines stack).length := by
  have hsub : idle pipelines (stack ++ [i]) = (idle pipelines stack).filter (· ≠ i) := by
    simp only [idle, List.filter_filter]
    congr 1
    funext j
    simp [and_comm]
  rw [hsub, List.length_filter_lt_length_iff_exists]
  exact ⟨i, by simpa [idle, hi] using (List.getElem?_eq_some_iff.1 hp).1, by simp⟩

/-- Expands the pipeline at a position, below the ones on the stack. -/
def expandAt (pipelines : List Pipeline) (stack : List Nat) (i : Nat) :
    Expanding (List RenderPass) := do
  match (← get).lookup i with
  | some passes => return passes
  | none =>
    match _hp : pipelines[i]? with
    | none => return []
    | some p =>
      if _hi : i ∈ stack then
        let path := stack.filterMap fun s => pipelines[s]?.map Pipeline.name
        throw (.cyclicCopy p.name (path ++ [p.name]))
      else
        let copied ← copiedPasses pipelines p.name (expandAt pipelines (stack ++ [i])) p.copies []
        let passes ← p.withOwnPasses copied
        modify ((i, passes) :: ·)
        return passes
termination_by (idle pipelines stack).length
decreasing_by exact length_idle_lt _hp _hi

def expandAll (pipelines : List Pipeline) : Except Fault (List (List RenderPass)) :=
  ((List.range pipelines.length).mapM (expandAt pipelines [])).run' []

end Pipeline

end RenderPlan
