import RenderPlan.Proofs.Upload.Slots

/-! Replays and their suppliers. A supplier gives each write a value of its kind or refuses one of
them; the replay asks up to the first refusal, and the buffer then holds what was given before. -/
namespace RenderPlan
variable {σ : Type} {supply : σ → ScalarWrite → Option HostValue × σ} {s s' : σ}
  {w : ScalarWrite} {ws : List ScalarWrite} {v : HostValue} {vs : List HostValue}
  {e : ReplayError} {dest : Array UInt8}

/-- Asked for the writes one after the other, the supplier gives values of their kinds and comes
from the first state to the last. -/
inductive Supplied (supply : σ → ScalarWrite → Option HostValue × σ) :
    σ → List ScalarWrite → List HostValue → σ → Prop
  | nil (s : σ) : Supplied supply s [] [] s
  | cons {s s' : σ} {w : ScalarWrite} {ws : List ScalarWrite} {v : HostValue} {vs : List HostValue}
    (given : (supply s w).1 = some v) (kind : v.scalar = w.scalar)
    (others : Supplied supply (supply s w).2 ws vs s') : Supplied supply s (w :: ws) (v :: vs) s'

/-- The supplier has no value for the write, or one of another kind. -/
inductive Refuses (supply : σ → ScalarWrite → Option HostValue × σ) (s : σ) (w : ScalarWrite) :
    ReplayError → Prop
  | missing (none_given : (supply s w).1 = none) : Refuses supply s w (.missingValue w.path)
  | mismatch {v : HostValue} (given : (supply s w).1 = some v) (kind : v.scalar ≠ w.scalar) :
    Refuses supply s w (.kindMismatch w.path w.scalar v.scalar)

/-- The supplier with a list of the writes it was asked for. -/
def noting (supply : σ → ScalarWrite → Option HostValue × σ) (s : σ × List ScalarWrite)
    (w : ScalarWrite) : Option HostValue × (σ × List ScalarWrite) :=
  ((supply s.1 w).1, (supply s.1 w).2, s.2 ++ [w])

/-- The writes that a replay asks values for, in order. -/
def UploadPlan.asked (p : UploadPlan) (supply : σ → ScalarWrite → Option HostValue × σ)
    (dest : Array UInt8) (s : σ) : List ScalarWrite :=
  (p.replay (noting supply) dest (s, [])).state.2

lemma Supplied.noting (h : Supplied supply s ws vs s') (asked : List ScalarWrite) :
    Supplied (noting supply) (s, asked) ws vs (s', asked ++ ws) := by
  induction h generalizing asked with
  | nil s =>
    rw [List.append_nil]
    exact .nil _
  | @cons s s' w ws v vs given kind _ ih =>
    refine .cons given kind ?_
    rw [List.append_cons]
    exact ih (asked ++ [w])

lemma Refuses.noting (h : Refuses supply s w e) (asked : List ScalarWrite) :
    Refuses (noting supply) (s, asked) w e := by
  cases h with
  | missing none_given => exact .missing none_given
  | mismatch given kind => exact .mismatch given kind

lemma given_or_refused (supply : σ → ScalarWrite → Option HostValue × σ) (s : σ) (w : ScalarWrite) :
    (∃ v, (supply s w).1 = some v ∧ v.scalar = w.scalar) ∨ ∃ e, Refuses supply s w e := by
  cases hv : (supply s w).1 with
  | none => exact .inr ⟨_, .missing hv⟩
  | some v =>
    by_cases hk : v.scalar = w.scalar
    · exact .inl ⟨v, rfl, hk⟩
    · exact .inr ⟨_, .mismatch hv hk⟩

/-- Either all writes get their values, or there is a first one that does not. -/
lemma supplied_or_refused (supply : σ → ScalarWrite → Option HostValue × σ) (s : σ)
    (ws : List ScalarWrite) : (∃ vs s', Supplied supply s ws vs s') ∨
    ∃ k w vs s₁ e, ws[k]? = some w ∧ Supplied supply s (ws.take k) vs s₁ ∧ Refuses supply s₁ w e := by
  induction ws generalizing s with
  | nil => exact .inl ⟨[], s, .nil s⟩
  | cons w ws ih =>
    rcases given_or_refused supply s w with ⟨v, hv, hk⟩ | ⟨e, he⟩
    · rcases ih (supply s w).2 with ⟨vs, s', h⟩ | ⟨k, w', vs, s₁, e, hw', h, he⟩
      · exact .inl ⟨v :: vs, s', .cons hv hk h⟩
      · exact .inr ⟨k + 1, w', v :: vs, s₁, e, hw', .cons hv hk h, he⟩
    · exact .inr ⟨0, w, [], s, e, rfl, .nil s, he⟩

lemma replayWrites_of_given (given : (supply s w).1 = some v) (kind : v.scalar = w.scalar) :
    replayWrites supply (w :: ws) dest s =
      replayWrites supply ws (writeBytes dest w.offset (wordBytes v.word)) (supply s w).2 := by
  rw [replayWrites]
  rcases hs : supply s w with ⟨answer, s'⟩
  obtain rfl : answer = some v := by rwa [hs] at given
  simp only [kind, if_true]

lemma Refuses.replayWrites_cons (h : Refuses supply s w e) (ws : List ScalarWrite)
    (dest : Array UInt8) :
    replayWrites supply (w :: ws) dest s = ⟨.error e, dest, (supply s w).2⟩ := by
  rw [replayWrites]
  cases h with
  | missing none_given =>
    rcases hs : supply s w with ⟨answer, s'⟩
    obtain rfl : answer = none := by rwa [hs] at none_given
    rfl
  | @mismatch v given kind =>
    rcases hs : supply s w with ⟨answer, s'⟩
    obtain rfl : answer = some v := by rwa [hs] at given
    simp only [kind, if_false]

/-- Writes that get their values are performed, and the replay goes on behind them. -/
lemma Supplied.exists_uploaded (h : Supplied supply s ws vs s')
    (hin : ∀ w ∈ ws, w.LiesIn dest.size) (hapart : ws.Pairwise ScalarWrite.Apart)
    (rest : List ScalarWrite) :
    ∃ after, Uploaded dest after ws vs ∧
      replayWrites supply (ws ++ rest) dest s = replayWrites supply rest after s' := by
  induction h generalizing dest with
  | nil s => exact ⟨dest, .nil dest, rfl⟩
  | @cons s s' w ws v vs given kind _ ih =>
    obtain ⟨hw, hws⟩ := List.forall_mem_cons.1 hin
    obtain ⟨hfirst, hothers⟩ := List.pairwise_cons.1 hapart
    rw [← size_writeBytes dest w.offset (wordBytes v.word)] at hws
    obtain ⟨after, hup, hrest⟩ := ih hws hothers
    refine ⟨after, hup.cons kind hw hfirst, ?_⟩
    rw [List.cons_append, replayWrites_of_given given kind, hrest]

namespace UploadPlan
variable {p : UploadPlan} {k : ℕ} {s₁ : σ}

lemma replay_eq (hsize : p.totalSize ≤ dest.size) :
    p.replay supply dest s = replayWrites supply p.writes dest s :=
  if_neg (Nat.not_lt.2 hsize)

lemma replay_of_lt (hsize : dest.size < p.totalSize) : p.replay supply dest s =
    ⟨.error (.destinationTooSmall p.structName p.totalSize dest.size), dest, s⟩ :=
  if_pos hsize

lemma apart_of_mem_take {w' : ScalarWrite} (hapart : p.writes.Pairwise ScalarWrite.Apart)
    (hw : p.writes[k]? = some w) (hw' : w' ∈ p.writes.take k) : w'.Apart w := by
  obtain ⟨hk, hget⟩ := List.getElem?_eq_some_iff.1 hw
  rw [← List.take_append_drop k p.writes, List.drop_eq_getElem_cons hk, hget,
    List.pairwise_append] at hapart
  exact hapart.2.2 w' hw' w List.mem_cons_self

section Apart
variable (hin : ∀ w ∈ p.writes, w.LiesIn p.totalSize)
  (hapart : p.writes.Pairwise ScalarWrite.Apart) (hsize : p.totalSize ≤ dest.size)
include hin hapart hsize

lemma exists_uploaded_take (hs : Supplied supply s (p.writes.take k) vs s₁) :
    ∃ after, Uploaded dest after (p.writes.take k) vs ∧
      p.replay supply dest s = replayWrites supply (p.writes.drop k) after s₁ := by
  have hin' : ∀ w ∈ p.writes.take k, w.LiesIn dest.size := by
    intro w hw
    obtain ⟨hwidth, hend⟩ := hin w (List.mem_of_mem_take hw)
    exact ⟨hwidth, Nat.le_trans hend hsize⟩
  obtain ⟨after, hup, hrest⟩ := hs.exists_uploaded hin' (hapart.sublist (List.take_sublist k _))
    (p.writes.drop k)
  exact ⟨after, hup, by rw [replay_eq hsize, ← hrest, List.take_append_drop]⟩

lemma replay_of_supplied (hs : Supplied supply s p.writes vs s') :
    ∃ after, Uploaded dest after p.writes vs ∧ p.replay supply dest s = ⟨.ok (), after, s'⟩ := by
  rw [← p.writes.take_length] at hs
  obtain ⟨after, hup, hrest⟩ := exists_uploaded_take hin hapart hsize hs
  rw [List.drop_length] at hrest
  rw [List.take_length] at hup
  exact ⟨after, hup, hrest⟩

lemma replay_of_refused (hw : p.writes[k]? = some w)
    (hs : Supplied supply s (p.writes.take k) vs s₁) (he : Refuses supply s₁ w e) :
    ∃ after, Uploaded dest after (p.writes.take k) vs ∧
      p.replay supply dest s = ⟨.error e, after, (supply s₁ w).2⟩ := by
  obtain ⟨after, hup, hrest⟩ := exists_uploaded_take hin hapart hsize hs
  obtain ⟨hk, hget⟩ := List.getElem?_eq_some_iff.1 hw
  rw [List.drop_eq_getElem_cons hk, hget, he.replayWrites_cons] at hrest
  exact ⟨after, hup, hrest⟩

lemma asked_of_supplied (hs : Supplied supply s p.writes vs s') :
    p.asked supply dest s = p.writes := by
  obtain ⟨after, -, hr⟩ := replay_of_supplied hin hapart hsize (hs.noting [])
  rw [asked, hr, List.nil_append]

lemma asked_of_refused (hw : p.writes[k]? = some w)
    (hs : Supplied supply s (p.writes.take k) vs s₁) (he : Refuses supply s₁ w e) :
    p.asked supply dest s = p.writes.take (k + 1) := by
  obtain ⟨after, -, hr⟩ := replay_of_refused hin hapart hsize hw (hs.noting []) (he.noting _)
  rw [asked, hr, List.take_add_one, hw]
  rfl

/-- A replay into enough bytes succeeds exactly if all writes get their values. -/
lemma result_replay_eq_ok_iff : (p.replay supply dest s).result = .ok () ↔
    ∃ vs s', Supplied supply s p.writes vs s' := by
  constructor
  · intro h
    rcases supplied_or_refused supply s p.writes with hs | ⟨k, w, vs, s₁, e, hw, hs, he⟩
    · exact hs
    · obtain ⟨after, -, hr⟩ := replay_of_refused hin hapart hsize hw hs he
      rw [hr] at h
      cases h
  · rintro ⟨vs, s', hs⟩
    obtain ⟨after, -, hr⟩ := replay_of_supplied hin hapart hsize hs
    rw [hr]

end Apart

end UploadPlan

namespace LayoutCache

/-- The plan of a finished struct is replayed to the end if and only if the bytes suffice and the
supplier gives every write a value of its kind. Each slot then holds its value, the padding and all
that lies behind the struct is as before, and each write was asked for once, in order. -/
theorem replay_uploads_values (t : StructTable) (requests : List LayoutRequest) (name : String)
    (l : StructLayout) (p : UploadPlan) (h : ((fresh t).serveAll requests).get? name = some l)
    (hp : ((fresh t).serveAll requests).done.plan l = .ok p) (σ : Type)
    (supply : σ → ScalarWrite → Option HostValue × σ) (dest : Array UInt8) (s : σ) :
    ((p.replay supply dest s).result = .ok () ↔
      p.totalSize ≤ dest.size ∧ ∃ vs s', Supplied supply s p.writes vs s') ∧
    ((p.replay supply dest s).result = .ok () → ∃ vs,
      Supplied supply s p.writes vs (p.replay supply dest s).state ∧
      Uploaded dest (p.replay supply dest s).dest p.writes vs ∧
      (∀ byte, p.totalSize ≤ byte → (p.replay supply dest s).dest[byte]? = dest[byte]?) ∧
      p.asked supply dest s = p.writes) := by
  obtain ⟨p', hp', -, -, hin, hapart⟩ := ((SoundFor.fresh t).serveAll requests).exists_plan_apart h
  cases hp.symm.trans hp'
  by_cases hsize : p.totalSize ≤ dest.size
  · have hok : (p.replay supply dest s).result = .ok () ↔ ∃ vs s', Supplied supply s p.writes vs s' :=
      UploadPlan.result_replay_eq_ok_iff hin hapart hsize
    refine ⟨by rw [hok, and_iff_right hsize], fun hr => ?_⟩
    obtain ⟨vs, s', hs⟩ := hok.1 hr
    obtain ⟨after, hup, hreplay⟩ := UploadPlan.replay_of_supplied hin hapart hsize hs
    rw [hreplay]
    refine ⟨vs, hs, hup, fun byte hb => ?_, UploadPlan.asked_of_supplied hin hapart hsize hs⟩
    refine hup.kept byte fun w hw hc => ?_
    exact Nat.not_lt.2 hb (Nat.lt_of_lt_of_le hc.2 (hin w hw).2)
  · rw [UploadPlan.replay_of_lt (Nat.lt_of_not_le hsize)]
    simp [hsize]

def lightLayout : StructLayout where
  name := "Light"
  fields := [⟨"on", .scalar .bool, 0, 4, 4, none⟩, ⟨"color", .vector .float .three, 16, 12, 16, none⟩]
  totalSize := 32
  alignment := 16

def lightPlan : UploadPlan where
  structName := "Light"
  totalSize := 32
  writes :=
    [⟨⟨[.field "on"]⟩, 0, 4, .bool, .boolToInt32⟩,
      ⟨⟨[.field "color", .component 0]⟩, 16, 4, .float, .identity⟩,
      ⟨⟨[.field "color", .component 1]⟩, 20, 4, .float, .identity⟩,
      ⟨⟨[.field "color", .component 2]⟩, 24, 4, .float, .identity⟩]

lemma plan_lightLayout (done : Layouts) : done.plan lightLayout = .ok lightPlan := by
  rw [Layouts.plan_def, Layouts.structWrites_eq]
  rfl

/-- Counts the questions and answers one of them with an integer. -/
def lightValues (wrong asked : ℕ) (w : ScalarWrite) : Option HostValue × ℕ :=
  (some (if asked = wrong then .int 5 else if w.scalar = .bool then .bool true
    else .float ⟨0x3F800000⟩), asked + 1)

theorem replay_uploads_values_light :
    let c := (fresh sceneTable).serveAll [.computeAll, .layoutOf "Light"]
    let dest := Array.replicate 34 7
    let r := lightPlan.replay (lightValues 4) dest 0
    c.get? "Light" = some lightLayout ∧ c.done.plan lightLayout = .ok lightPlan ∧
    r.result = .ok () ∧ ∃ vs,
      Supplied (lightValues 4) 0 lightPlan.writes vs r.state ∧
      Uploaded dest r.dest lightPlan.writes vs ∧
      (∀ byte, lightPlan.totalSize ≤ byte → r.dest[byte]? = dest[byte]?) ∧
      lightPlan.asked (lightValues 4) dest 0 = lightPlan.writes := by
  intro c dest r
  have h : c.get? "Light" = some lightLayout := by decide +kernel
  have hp := plan_lightLayout c.done
  have hr : r.result = .ok () := rfl
  exact ⟨h, hp, hr, (replay_uploads_values sceneTable _ "Light" lightLayout lightPlan h hp ℕ
    (lightValues 4) dest 0).2 hr⟩

/-- A replay that fails either finds too few bytes and does nothing, or stops at the first write
that is refused a value. The writes before it hold their values then, and no other byte is touched. -/
theorem replay_stops_at_refusal (t : StructTable) (requests : List LayoutRequest) (name : String)
    (l : StructLayout) (p : UploadPlan) (h : ((fresh t).serveAll requests).get? name = some l)
    (hp : ((fresh t).serveAll requests).done.plan l = .ok p) (σ : Type)
    (supply : σ → ScalarWrite → Option HostValue × σ) (dest : Array UInt8) (s : σ) (e : ReplayError)
    (he : (p.replay supply dest s).result = .error e) :
    (e = .destinationTooSmall p.structName p.totalSize dest.size ∧ dest.size < p.totalSize ∧
      (p.replay supply dest s).dest = dest ∧ (p.replay supply dest s).state = s ∧
      p.asked supply dest s = []) ∨
    ∃ k w vs s₁, p.writes[k]? = some w ∧ Supplied supply s (p.writes.take k) vs s₁ ∧
      Refuses supply s₁ w e ∧ (p.replay supply dest s).state = (supply s₁ w).2 ∧
      p.asked supply dest s = p.writes.take (k + 1) ∧ (p.asked supply dest s).length = k + 1 ∧
      Uploaded dest (p.replay supply dest s).dest (p.writes.take k) vs ∧
      ∀ byte, w.Covers byte → (p.replay supply dest s).dest[byte]? = dest[byte]? := by
  obtain ⟨p', hp', -, -, hin, hapart⟩ := ((SoundFor.fresh t).serveAll requests).exists_plan_apart h
  cases hp.symm.trans hp'
  by_cases hsize : p.totalSize ≤ dest.size
  · right
    rcases supplied_or_refused supply s p.writes with ⟨vs, s', hs⟩ | ⟨k, w, vs, s₁, e', hw, hs, he'⟩
    · obtain ⟨after, -, hr⟩ := UploadPlan.replay_of_supplied hin hapart hsize hs
      rw [hr] at he
      cases he
    · obtain ⟨after, hup, hr⟩ := UploadPlan.replay_of_refused hin hapart hsize hw hs he'
      have hasked := UploadPlan.asked_of_refused hin hapart hsize hw hs he'
      have hk := (List.getElem?_eq_some_iff.1 hw).1
      rw [hr] at he ⊢
      cases he
      refine ⟨k, w, vs, s₁, hw, hs, he', rfl, hasked, ?_, hup, fun byte hb => ?_⟩
      · rw [hasked, List.length_take]
        omega
      · refine hup.kept byte fun w' hw' hc => ?_
        exact UploadPlan.apart_of_mem_take hapart hw hw' byte hc hb
  · left
    have hlt := Nat.lt_of_not_le hsize
    have hasked : p.asked supply dest s = [] := by rw [UploadPlan.asked, UploadPlan.replay_of_lt hlt]
    rw [UploadPlan.replay_of_lt hlt] at he ⊢
    cases he
    exact ⟨rfl, hlt, rfl, rfl, hasked⟩

/-- The third write is offered an integer: the first two are performed, and nothing else is. -/
theorem replay_stops_at_refusal_light :
    let c := (fresh sceneTable).serveAll [.computeAll, .layoutOf "Light"]
    let dest := Array.replicate 34 7
    let r := lightPlan.replay (lightValues 2) dest 0
    let e := ReplayError.kindMismatch ⟨[.field "color", .component 1]⟩ .float .int
    c.get? "Light" = some lightLayout ∧ c.done.plan lightLayout = .ok lightPlan ∧
    r.result = .error e ∧
    ∃ k w vs s₁, lightPlan.writes[k]? = some w ∧
      Supplied (lightValues 2) 0 (lightPlan.writes.take k) vs s₁ ∧
      Refuses (lightValues 2) s₁ w e ∧ r.state = (lightValues 2 s₁ w).2 ∧
      lightPlan.asked (lightValues 2) dest 0 = lightPlan.writes.take (k + 1) ∧
      (lightPlan.asked (lightValues 2) dest 0).length = k + 1 ∧
      Uploaded dest r.dest (lightPlan.writes.take k) vs ∧
      ∀ byte, w.Covers byte → r.dest[byte]? = dest[byte]? := by
  intro c dest r e
  have h : c.get? "Light" = some lightLayout := by decide +kernel
  have hp := plan_lightLayout c.done
  have hr : r.result = .error e := rfl
  have hstop := replay_stops_at_refusal sceneTable _ "Light" lightLayout lightPlan h hp ℕ
    (lightValues 2) dest 0 e hr
  refine ⟨h, hp, hr, hstop.resolve_left ?_⟩
  rintro ⟨he, -⟩
  change ReplayError.kindMismatch _ _ _ = _ at he
  cases he

end LayoutCache
end RenderPlan
