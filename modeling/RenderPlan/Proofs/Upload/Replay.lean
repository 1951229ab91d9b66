import RenderPlan.Proofs.Upload.Disjoint
import RenderPlan.Upload.Replay

/-! Replays that stay inside the buffer. Bytes outside of a buffer cannot be written, so beside the
replay stands one that gives up there. For a plan whose writes all lie in the buffer the two are the
same. -/
namespace RenderPlan
variable {σ : Type} {supply : σ → ScalarWrite → Option HostValue × σ}

@[simp] lemma size_writeBytes (dest : Array UInt8) (offset : ℕ) (bytes : List UInt8) :
    (writeBytes dest offset bytes).size = dest.size := by
  induction bytes generalizing dest offset with
  | nil => rfl
  | cons b bytes ih => rw [writeBytes, ih, Array.size_setIfInBounds]

/-- The write takes a whole word, which is there in a buffer of the given size. -/
def ScalarWrite.LiesIn (w : ScalarWrite) (size : ℕ) : Prop := w.width = 4 ∧ w.offset + w.width ≤ size

instance (w : ScalarWrite) (size : ℕ) : Decidable (w.LiesIn size) :=
  inferInstanceAs (Decidable (_ ∧ _))

/-- No byte is touched by both writes. -/
def ScalarWrite.Apart (a b : ScalarWrite) : Prop := ∀ byte, a.Covers byte → ¬ b.Covers byte

/-- Performs writes as a replay does, but has no result if one of them misses the buffer. -/
def replayInside (supply : σ → ScalarWrite → Option HostValue × σ) :
    List ScalarWrite → Array UInt8 → σ → Option (Replayed σ)
  | [], dest, s => some ⟨.ok (), dest, s⟩
  | w :: ws, dest, s =>
    match (supply s w).1 with
    | none => some ⟨.error (.missingValue w.path), dest, (supply s w).2⟩
    | some v =>
      if v.scalar ≠ w.scalar then
        some ⟨.error (.kindMismatch w.path w.scalar v.scalar), dest, (supply s w).2⟩
      else if w.LiesIn dest.size then
        replayInside supply ws (writeBytes dest w.offset (wordBytes v.word)) (supply s w).2
      else none

/-- Writes that lie in the buffer are performed without a miss, whatever the values. -/
lemma replayInside_eq {ws : List ScalarWrite} {dest : Array UInt8} (s : σ)
    (h : ∀ w ∈ ws, w.LiesIn dest.size) :
    replayInside supply ws dest s = some (replayWrites supply ws dest s) := by
  induction ws generalizing dest s with
  | nil => rfl
  | cons w ws ih =>
    obtain ⟨hw, hws⟩ := List.forall_mem_cons.1 h
    rw [replayInside, replayWrites]
    rcases supply s w with ⟨_ | v, s'⟩
    · rfl
    · by_cases hv : v.scalar = w.scalar
      · simp only [hv, ne_eq, not_true_eq_false, if_true, if_false, hw]
        exact ih s' (by simpa using hws)
      · simp [hv]

lemma result_replayWrites_ne (ws : List ScalarWrite) (dest : Array UInt8) (s : σ) (structName : String)
    (needed actual : ℕ) :
    (replayWrites supply ws dest s).result ≠ .error (.destinationTooSmall structName needed actual) := by
  induction ws generalizing dest s with
  | nil => simp [replayWrites]
  | cons w ws ih =>
    rw [replayWrites]
    rcases supply s w with ⟨_ | v, s'⟩
    · simp
    · by_cases hv : v.scalar = w.scalar
      · simpa [hv] using ih _ s'
      · simp [hv]

namespace UploadPlan

/-- Any values can be uploaded to so many bytes without a miss, and without the answer that the
bytes are too few. -/
def FitsInto (p : UploadPlan) (size : ℕ) : Prop :=
  ∀ (σ : Type) (supply : σ → ScalarWrite → Option HostValue × σ) (dest : Array UInt8) (s : σ),
    dest.size = size →
    replayInside supply p.writes dest s = some (p.replay supply dest s) ∧
    ∀ structName needed actual,
      (p.replay supply dest s).result ≠ .error (.destinationTooSmall structName needed actual)

lemma fitsInto_of_liesIn {p : UploadPlan} (h : ∀ w ∈ p.writes, w.LiesIn p.totalSize) :
    p.FitsInto p.totalSize := by
  intro σ supply dest s hdest
  have hreplay : p.replay supply dest s = replayWrites supply p.writes dest s := by
    simp [replay, hdest]
  rw [hreplay]
  exact ⟨replayInside_eq s (hdest ▸ h), result_replayWrites_ne p.writes dest s⟩

end UploadPlan

namespace LayoutCache
variable {t : StructTable} {c : LayoutCache} {name : String} {l : StructLayout}

/-- The plan of a finished struct has its writes inside the struct, no two of them on one byte. -/
lemma SoundFor.exists_plan_apart (h : SoundFor t c) (hl : c.get? name = some l) :
    ∃ p, c.done.plan l = .ok p ∧ p.structName = name ∧ p.totalSize = l.totalSize ∧
      (∀ w ∈ p.writes, w.LiesIn p.totalSize) ∧ p.writes.Pairwise ScalarWrite.Apart := by
  obtain ⟨xs, hx, hp⟩ := h.exists_plan hl
  have hpack := h.packedIn_leaves hx
  rw [storedSize, hl] at hpack
  refine ⟨_, hp, rfl, rfl, fun w hw => ?_, ?_⟩
  · obtain ⟨x, hmem, rfl⟩ := List.mem_map.1 hw
    exact ⟨rfl, (hpack.between x hmem).2⟩
  · rw [List.pairwise_map]
    refine hpack.apart.imp fun {x y} hxy byte hx hy => ?_
    simp only [Leaf.write, ScalarWrite.Covers] at hx hy
    omega

/-- The plan of a finished struct fits into as many bytes as the layout says. -/
lemma SoundFor.exists_plan_fits (h : SoundFor t c) (hl : c.get? name = some l) :
    ∃ p, c.done.plan l = .ok p ∧ p.structName = name ∧ p.totalSize = l.totalSize ∧
      p.FitsInto l.totalSize := by
  obtain ⟨p, hp, hname, hsize, hin, -⟩ := h.exists_plan_apart hl
  exact ⟨p, hp, hname, hsize, hsize ▸ UploadPlan.fitsInto_of_liesIn hin⟩

end LayoutCache
end RenderPlan
