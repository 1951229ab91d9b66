import RenderPlan.Invocation.Run
import RenderPlan.Proofs.Files.Semantics

/-! What an invocation leaves behind. Files are staged before the first of them is moved, so a
failure leaves every file as it was, unless a move fails after another one has worked: the files
that were moved by then stay. -/
namespace RenderPlan

namespace FileStore.Semantics
variable {m : Type → Type} [Monad m] [FileStore m] (S : Semantics m) {ε α β : Type}
  {fs fs' : FileSystem}

/-- Steps that can fail come one after the other, up to the first one that does. -/
lemma of_bind_run {x : ExceptT ε m α} {f : α → ExceptT ε m β} {r : Except ε β}
    (h : S.Leads (x >>= f).run fs r fs') :
    (∃ e, S.Leads x.run fs (.error e) fs' ∧ r = .error e) ∨
      ∃ a fs₁, S.Leads x.run fs (.ok a) fs₁ ∧ S.Leads (f a).run fs₁ r fs' := by
  obtain ⟨a, fs₁, hx, hf⟩ :=
    S.of_bind (show S.Leads (x.run >>= ExceptT.bindCont f) fs r fs' from h)
  cases a with
  | error e =>
    obtain ⟨rfl, rfl⟩ := S.of_pure hf
    exact .inl ⟨e, hx, rfl⟩
  | ok a => exact .inr ⟨a, fs₁, hx, hf⟩

/-- A plain action in front cannot fail. -/
lemma of_lift_bind_run {x : m α} {f : α → ExceptT ε m β} {r : Except ε β}
    (h : S.Leads ((liftM x : ExceptT ε m α) >>= f).run fs r fs') :
    ∃ a fs₁, S.Leads x fs a fs₁ ∧ S.Leads (f a).run fs₁ r fs' := by
  rcases S.of_bind_run h with ⟨e, hx, -⟩ | ⟨a, fs₁, hx, hf⟩
  · obtain ⟨a, -, ha⟩ := S.of_map (show S.Leads (Except.ok <$> x) fs (.error e) fs' from hx)
    cases ha
  · obtain ⟨b, hb, hab⟩ := S.of_map (show S.Leads (Except.ok <$> x) fs (.ok a) fs₁ from hx)
    obtain rfl := Except.ok.inj hab
    exact ⟨a, fs₁, hb, hf⟩

lemma of_orFail_bind {failure : Failure} {step : m Bool} {f : Unit → ExceptT Failure m β}
    {r : Except Failure β} (h : S.Leads (orFail failure step >>= f).run fs r fs') :
    r = .error failure ∧ S.Leads step fs false fs' ∨
      ∃ fs₁, S.Leads step fs true fs₁ ∧ S.Leads (f ()).run fs₁ r fs' := by
  rcases S.of_bind_run h with ⟨e, hx, rfl⟩ | ⟨⟨⟩, fs₁, hx, hf⟩
  · obtain ⟨b, fs₂, hb, hr⟩ := S.of_lift_bind_run hx
    cases b with
    | false =>
      obtain ⟨he, rfl⟩ := S.of_pure hr
      exact .inl ⟨congrArg Except.error (Except.error.inj he), hb⟩
    | true => cases (S.of_pure hr).1
  · obtain ⟨b, fs₂, hb, hr⟩ := S.of_lift_bind_run hx
    cases b with
    | false => cases (S.of_pure hr).1
    | true =>
      obtain ⟨-, rfl⟩ := S.of_pure hr
      exact .inr ⟨fs₁, hb, hf⟩

end FileStore.Semantics

/-- The files of a file system with some artifacts in one of its directories. -/
structure FileSystem.Receives (fs : FileSystem) (directory : Location) (files : List ArtifactFile)
    (fs' : FileSystem) : Prop where
  placed : ∀ f ∈ files, fs'.file? (directory ++ [f.name]) = some f.contents.toUTF8
  others : ∀ location, (∀ f ∈ files, location ≠ directory ++ [f.name]) →
    fs'.file? location = fs.file? location

lemma FileSystem.SameFiles.receives_nil {fs fs' : FileSystem} (h : fs.SameFiles fs')
    (directory : Location) : fs.Receives directory [] fs' :=
  ⟨by simp, fun location _ => h location⟩

lemma FileSystem.Receives.sameFiles {fs fs' : FileSystem} {directory : Location}
    (h : fs.Receives directory [] fs') : fs.SameFiles fs' :=
  fun location => h.others location (by simp)

namespace ArtifactFile
open FileSystem

/-- Files that can stand side by side in one directory. -/
structure Named (files : List ArtifactFile) : Prop where
  isName : ∀ f ∈ files, Path.IsName f.name
  nodup : (files.map (·.name)).Nodup

variable {m : Type → Type} [Monad m] [FileStore m] (S : FileStore.Semantics m)
  {fs fs' : FileSystem} {staging outputDir : String} {f : ArtifactFile} {files : List ArtifactFile}

lemma Named.tail (h : Named (f :: files)) : Named files :=
  ⟨fun g hg => h.isName g (List.mem_cons_of_mem f hg), (List.nodup_cons.1 h.nodup).2⟩

lemma Named.ne_head (h : Named (f :: files)) {g : ArtifactFile} (hg : g ∈ files) :
    f.name ≠ g.name := by
  intro he
  have hmem : f.name ∈ files.map (·.name) := he ▸ List.mem_map_of_mem hg
  exact (List.nodup_cons.1 h.nodup).1 hmem

/-- Different names differ in any two directories. -/
lemma append_ne {a b : Location} {x y : String} (h : x ≠ y) : a ++ [x] ≠ b ++ [y] := by
  intro he
  exact h (List.singleton_inj.1 (List.append_inj_right' he rfl))

/-- Staging touches the staging directory alone. If it works, every file is there. -/
lemma of_stage {r : Except Failure Unit} (hn : Named files)
    (h : S.Leads (stage staging files).run fs r fs') :
    fs.Keeps fs' ∧
      (∀ l, (∀ f ∈ files, l ≠ fs.place staging ++ [f.name]) → fs'.entry? l = fs.entry? l) ∧
      (r = .ok () → ∀ f ∈ files,
        fs'.entry? (fs.place staging ++ [f.name]) = some (.file f.contents.toUTF8)) := by
  induction files generalizing fs with
  | nil =>
    obtain ⟨-, rfl⟩ := S.of_pure h
    exact ⟨.rfl, fun _ _ => rfl, by simp⟩
  | cons f files ih =>
    rcases S.of_orFail_bind h with ⟨rfl, hw⟩ | ⟨fs₁, hw, hr⟩
    · obtain ⟨-, rfl⟩ | ⟨⟨⟩, -⟩ := S.of_writeText hw
      exact ⟨.rfl, fun _ _ => rfl, by simp⟩
    · obtain ⟨⟨⟩, -⟩ | ⟨-, hw⟩ := S.of_writeText hw
      obtain ⟨hd, rfl⟩ := of_write hw
      rw [fs.place_join staging (hn.isName f List.mem_cons_self)] at hd hr
      obtain ⟨hk, ho, hp⟩ := ih hn.tail hr
      have hput := Keeps.put (.file f.contents.toUTF8) hd
      rw [hput.place] at ho hp
      refine ⟨hput.trans hk, fun l hl => ?_, fun hok g hg => ?_⟩
      · obtain ⟨hf, hfiles⟩ := List.forall_mem_cons.1 hl
        rw [ho l hfiles, entry?_put (ne_nil_of_not_directory hd), if_neg hf]
      · rcases List.mem_cons.1 hg with rfl | hg
        · rw [ho _ fun _ hf => append_ne (hn.ne_head hf),
            entry?_put (ne_nil_of_not_directory hd), if_pos rfl]
        · exact hp hok g hg

/-- Staged files were moved to a directory, and all else is as it was. -/
structure Relocated (fs : FileSystem) (staging directory : Location) (moved : List ArtifactFile)
    (fs' : FileSystem) : Prop where
  keeps : fs.Keeps fs'
  placed : ∀ f ∈ moved, fs'.entry? (directory ++ [f.name]) = some (.file f.contents.toUTF8)
  others : ∀ l, (∀ f ∈ moved, l ≠ directory ++ [f.name] ∧ l ≠ staging ++ [f.name]) →
    fs'.entry? l = fs.entry? l

lemma Relocated.nil {staging directory : Location} : Relocated fs staging directory [] fs :=
  ⟨.rfl, by simp, fun _ _ => rfl⟩

lemma Relocated.cons {fs₁ : FileSystem} {staging directory : Location}
    {moved : List ArtifactFile} (hf : Relocated fs staging directory [f] fs₁)
    (h : Relocated fs₁ staging directory moved fs') (hn : ∀ g ∈ moved, f.name ≠ g.name) :
    Relocated fs staging directory (f :: moved) fs' where
  keeps := hf.keeps.trans h.keeps
  placed := by
    refine List.forall_mem_cons.2 ⟨?_, h.placed⟩
    rw [h.others _ fun g hg => ⟨append_ne (hn g hg), append_ne (hn g hg)⟩]
    exact hf.placed f List.mem_cons_self
  others := by
    intro l hl
    obtain ⟨hlf, hmoved⟩ := List.forall_mem_cons.1 hl
    rw [h.others l hmoved, hf.others l (by simpa using hlf)]

lemma relocated_of_move (hn : Path.IsName f.name)
    (hs : fs.entry? (fs.place staging ++ [f.name]) = some (.file f.contents.toUTF8))
    (h : fs.move (Path.join staging f.name) (Path.join outputDir f.name) = some fs') :
    Relocated fs (fs.place staging) (fs.place outputDir) [f] fs' := by
  obtain ⟨content, hc, hd, rfl⟩ := of_move h
  rw [fs.place_join staging hn, hs] at hc
  cases hc
  rw [fs.place_join outputDir hn] at hd ⊢
  rw [fs.place_join staging hn]
  have hs' : fs.entry? (fs.place staging ++ [f.name]) ≠ some .directory := by simp [hs]
  have hd' : entry? (fs.remove (fs.place staging ++ [f.name])) (fs.place outputDir ++ [f.name]) ≠
      some .directory := by
    rw [entry?_remove (by simp)]
    split_ifs
    · simp
    · exact hd
  refine ⟨(Keeps.remove hs').trans (.put _ hd'), ?_, fun l hl => ?_⟩
  · simp [entry?_put]
  · obtain ⟨ht, hl'⟩ := hl f List.mem_cons_self
    rw [entry?_put (by simp), if_neg ht, entry?_remove (by simp), if_neg hl']

/-- The files are moved up to the first move that fails. -/
lemma of_moveAll {r : Except Failure (List String)} (hn : Named files)
    (hs : ∀ f ∈ files, fs.entry? (fs.place staging ++ [f.name]) = some (.file f.contents.toUTF8))
    (h : S.Leads (moveAll staging outputDir files).run fs r fs') :
    ∃ moved rest, files = moved ++ rest ∧
      Relocated fs (fs.place staging) (fs.place outputDir) moved fs' ∧
      (rest = [] ∧ r = .ok (files.map fun f => Path.join outputDir f.name) ∨
        ∃ f rest', rest = f :: rest' ∧ r = .error (.notMoved (Path.join outputDir f.name))) := by
  induction files generalizing fs r with
  | nil =>
    obtain ⟨rfl, rfl⟩ := S.of_pure h
    exact ⟨[], [], rfl, .nil, .inl ⟨rfl, rfl⟩⟩
  | cons f files ih =>
    rcases S.of_orFail_bind h with ⟨rfl, hm⟩ | ⟨fs₁, hm, hr⟩
    · obtain ⟨-, rfl⟩ | ⟨⟨⟩, -⟩ := S.of_move hm
      exact ⟨[], f :: files, rfl, .nil, .inr ⟨f, files, rfl, rfl⟩⟩
    · obtain ⟨⟨⟩, -⟩ | ⟨-, hm⟩ := S.of_move hm
      have hf := relocated_of_move (hn.isName f List.mem_cons_self) (hs f List.mem_cons_self) hm
      -- The other files are still staged, so the rest of the run is as told by induction.
      have hs₁ : ∀ g ∈ files,
          fs₁.entry? (fs₁.place staging ++ [g.name]) = some (.file g.contents.toUTF8) := by
        intro g hg
        have hne := (hn.ne_head hg).symm
        rw [hf.keeps.place, hf.others _ (by simp [hne]), hs g (List.mem_cons_of_mem f hg)]
      obtain ⟨r₁, hr₁, hres⟩ : ∃ r₁, S.Leads (moveAll staging outputDir files).run fs₁ r₁ fs' ∧
          r = r₁.map (Path.join outputDir f.name :: ·) := by
        rcases S.of_bind_run hr with ⟨e, hx, rfl⟩ | ⟨targets, fs₂, hx, hp⟩
        · exact ⟨_, hx, rfl⟩
        · obtain ⟨rfl, rfl⟩ := S.of_pure hp
          exact ⟨_, hx, rfl⟩
      obtain ⟨moved, rest, rfl, hmoved, hend⟩ := ih hn.tail hs₁ hr₁
      rw [hf.keeps.place, hf.keeps.place] at hmoved
      refine ⟨f :: moved, rest, rfl,
        hf.cons hmoved fun g hg => hn.ne_head (List.mem_append_left rest hg), ?_⟩
      rcases hend with ⟨rfl, rfl⟩ | ⟨g, rest', rfl, rfl⟩
      · exact .inl ⟨rfl, hres⟩
      · exact .inr ⟨g, rest', rfl, hres⟩

/-- Some files have been moved out of a staging directory, in which others may be left. -/
structure Moved (fs : FileSystem) (staging directory : Location) (moved : List ArtifactFile)
    (fs' : FileSystem) : Prop where
  keeps : fs.Keeps fs'
  placed : ∀ f ∈ moved, fs'.entry? (directory ++ [f.name]) = some (.file f.contents.toUTF8)
  others : ∀ l, ¬ staging <+: l → (∀ f ∈ moved, l ≠ directory ++ [f.name]) →
    fs'.file? l = fs.file? l

/-- How the writing of files to a directory ends, given what the moves have done. -/
inductive Ends (outputDir : String) (files : List ArtifactFile) :
    List ArtifactFile → Except Failure (List String) → Prop
  | early (e : Failure) : Ends outputDir files [] (.error e)
  | interrupted {moved rest : List ArtifactFile} {f : ArtifactFile}
      (split : files = moved ++ f :: rest) :
      Ends outputDir files moved (.error (.notMoved (Path.join outputDir f.name)))
  | finished : Ends outputDir files files (.ok (files.map fun f => Path.join outputDir f.name))

lemma of_writeStaged {r : Except Failure (List String)} (hn : Named files)
    (h : S.Leads (writeStaged staging outputDir files).run fs r fs') :
    ∃ moved, Moved fs (fs.place staging) (fs.place outputDir) moved fs' ∧
      Ends outputDir files moved r := by
  -- What lies outside of the staging directory is left alone until the first move.
  have hout : ∀ {l}, ¬ fs.place staging <+: l →
      ∀ f : ArtifactFile, l ≠ fs.place staging ++ [f.name] :=
    fun hl f he => hl (he ▸ List.prefix_append _ _)
  rcases S.of_bind_run h with ⟨e, hstage, rfl⟩ | ⟨⟨⟩, fs₁, hstage, h⟩
  · obtain ⟨hk, ho, -⟩ := of_stage S hn hstage
    refine ⟨[], ⟨hk, by simp, fun l hl _ => ?_⟩, .early e⟩
    rw [file?, file?, ho l fun f _ => hout hl f]
  · obtain ⟨hk, ho, hs⟩ := of_stage S hn hstage
    have hsame : ∀ l, ¬ fs.place staging <+: l → fs₁.file? l = fs.file? l := by
      intro l hl
      rw [file?, file?, ho l fun f _ => hout hl f]
    rcases S.of_orFail_bind h with ⟨rfl, hmake⟩ | ⟨fs₂, hmake, h⟩
    · have hext := S.of_makeDirectories hmake
      refine ⟨[], ⟨hk.trans hext.keeps, by simp, fun l hl _ => ?_⟩, .early _⟩
      rw [hext.sameFiles l, hsame l hl]
    · have hext := S.of_makeDirectories hmake
      have hk₂ := hk.trans hext.keeps
      have hs₂ : ∀ f ∈ files,
          fs₂.entry? (fs₂.place staging ++ [f.name]) = some (.file f.contents.toUTF8) := by
        intro f hf
        rw [hk₂.place]
        exact hext.entry?_file (hs rfl f hf)
      obtain ⟨moved, rest, rfl, hmoved, hend⟩ := of_moveAll S hn hs₂ h
      rw [hk₂.place, hk₂.place] at hmoved
      refine ⟨moved, ⟨hk₂.trans hmoved.keeps, hmoved.placed, fun l hl hne => ?_⟩, ?_⟩
      · rw [file?, hmoved.others l fun f hf => ⟨hne f hf, hout hl f⟩, ← file?, hext.sameFiles l,
          hsame l hl]
      · rcases hend with ⟨rfl, rfl⟩ | ⟨f, rest', rfl, rfl⟩
        · rw [List.append_nil]
          exact .finished
        · exact .interrupted rfl

/-- Once the staging directory is gone, what was moved is all that is new. If the files were moved
into the staging directory itself, they are gone with it. -/
lemma Moved.removeTree {base : FileSystem} {directory : Location} {moved : List ArtifactFile}
    (h : Moved fs (fs.place staging) directory moved fs')
    (he : fs.IsEmptyAt staging) (hsame : base.SameFiles fs) :
    (¬ fs.place staging <+: directory → base.Receives directory moved (fs'.removeTree staging)) ∧
      (fs.place staging <+: directory → base.SameFiles (fs'.removeTree staging)) := by
  have hgone : ∀ {l}, fs.place staging <+: l → (fs'.removeTree staging).file? l = none := by
    intro l hp
    rw [file?, entry?_removeTree (h.keeps.locate he.locate) he.ne_root, if_pos hp]
    rfl
  have hkept : ∀ {l}, ¬ fs.place staging <+: l →
      (fs'.removeTree staging).file? l = fs'.file? l := by
    intro l hp
    rw [file?, entry?_removeTree (h.keeps.locate he.locate) he.ne_root, if_neg hp, ← file?]
  have hothers : ∀ l, (∀ f ∈ moved, ¬ fs.place staging <+: l → l ≠ directory ++ [f.name]) →
      (fs'.removeTree staging).file? l = base.file? l := by
    intro l hl
    by_cases hp : fs.place staging <+: l
    · rw [hgone hp, ← hsame l, he.empty l hp]
    · rw [hkept hp, h.others l hp fun f hf => hl f hf hp, hsame l]
  constructor
  · intro hout
    refine ⟨fun f hf => ?_, fun l hl => hothers l fun f hf _ => hl f hf⟩
    have hfile := h.placed f hf
    -- The staging directory is still there, so no file has taken its place.
    have hout' : ¬ fs.place staging <+: directory ++ [f.name] := by
      rw [List.prefix_concat_iff]
      rintro (heq | hp)
      · have hdir := h.keeps.directory he.directory
        rw [heq, hfile] at hdir
        cases hdir
      · exact hout hp
    rw [hkept hout', file?, hfile]
    rfl
  · intro hin l
    exact hothers l fun f _ hp heq => hp (heq ▸ hin.trans (List.prefix_append _ _))

lemma isName_stagingStart_append {rest : String} (h : '/' ∉ rest.toList) :
    Path.IsName (stagingStart ++ rest) := by
  have hne : ∀ name : String, name.toList.length ≤ 2 → stagingStart ++ rest ≠ name := by
    rintro name hlen rfl
    simp [stagingStart] at hlen
  refine ⟨?_, ?_, hne ".." (by decide)⟩
  · simpa [stagingStart] using h
  · simp [Path.isVoid, hne "" (by decide), hne "." (by decide)]

/-- Written files are all there, or the moved ones are, or none is. The one thing that can be in the
way is an output directory that is named like a staging directory. -/
lemma of_writeAll {r : Except Failure (List String)} (hfs : fs.IsTree) (hn : Named files)
    (h : S.Leads (writeAll outputDir files).run fs r fs') :
    ∃ moved, Ends outputDir files moved r ∧
      (fs.SameFiles fs' ∨ fs.Receives (fs.place outputDir) moved fs') ∧
      ((∀ name ∈ fs.place outputDir, ¬ stagingStart.toList <+: name.toList) →
        fs.Receives (fs.place outputDir) moved fs') := by
  rcases S.of_orFail_bind h with ⟨rfl, hmake⟩ | ⟨fs₁, hmake, h⟩
  · have hsame := (S.of_makeDirectories hmake).sameFiles
    exact ⟨[], .early _, .inl hsame, fun _ => hsame.receives_nil _⟩
  have hext := S.of_makeDirectories hmake
  obtain ⟨made, fs₂, hfresh, hrun⟩ := S.of_lift_bind_run h
  rcases S.of_makeFreshDirectory? hfresh with ⟨rfl, rfl⟩ | ⟨rest, hrest, rfl, hdir⟩
  · obtain ⟨rfl, rfl⟩ := S.of_pure hrun
    exact ⟨[], .early _, .inl hext.sameFiles, fun _ => hext.sameFiles.receives_nil _⟩
  set staging := Path.join (stagingParent outputDir) (stagingStart ++ rest) with hstaging
  obtain ⟨result, fs₃, hw, hrest'⟩ := S.of_bind hrun
  obtain ⟨u, fs₄, hremove, hreturn⟩ := S.of_bind hrest'
  obtain ⟨rfl, rfl⟩ := S.of_pure hreturn
  obtain rfl := S.of_removeTree hremove
  obtain ⟨moved, hmoved, hend⟩ := of_writeStaged S hn hw
  have hext₂ : fs.Extends fs₂ := hext.trans (of_makeDirectory hdir).2.1
  obtain ⟨hout, hin⟩ :=
    hmoved.removeTree (isEmptyAt_of_makeDirectory (hext.isTree hfs) hdir) hext₂.sameFiles
  rw [hext₂.keeps.place outputDir] at hout hin
  refine ⟨moved, hend, ?_, fun hnames => hout fun hp => ?_⟩
  · by_cases hp : fs₂.place staging <+: fs.place outputDir
    · exact .inl (hin hp)
    · exact .inr (hout hp)
  · refine hnames (stagingStart ++ rest) (hp.subset ?_) ?_
    · rw [hstaging, place_join _ _ (isName_stagingStart_append hrest)]
      simp
    · simp

/-- A move has failed after others have worked, and the files that were moved by then stay. -/
def Interrupted (fs : FileSystem) (outputDir : String) (files : List ArtifactFile) (e : Failure)
    (fs' : FileSystem) : Prop :=
  ∃ moved f rest, moved ≠ [] ∧ files = moved ++ f :: rest ∧
    e = .notMoved (Path.join outputDir f.name) ∧ fs.Receives (fs.place outputDir) moved fs'

lemma of_writeAll_error {e : Failure} (hfs : fs.IsTree) (hn : Named files)
    (h : S.Leads (writeAll outputDir files).run fs (.error e) fs') :
    fs.SameFiles fs' ∨ Interrupted fs outputDir files e fs' := by
  obtain ⟨moved, hend, hsame | hreceives, -⟩ := of_writeAll S hfs hn h
  · exact .inl hsame
  · by_cases hmoved : moved = []
    · subst hmoved
      exact .inl hreceives.sameFiles
    · cases hend with
      | early => exact absurd rfl hmoved
      | interrupted split => exact .inr ⟨moved, _, _, hmoved, split, rfl, hreceives⟩

lemma of_writeAll_ok {written : List String} (hfs : fs.IsTree) (hn : Named files)
    (h : S.Leads (writeAll outputDir files).run fs (.ok written) fs') :
    written = files.map (fun f => Path.join outputDir f.name) ∧
      ((∀ name ∈ fs.place outputDir, ¬ stagingStart.toList <+: name.toList) →
        fs.Receives (fs.place outputDir) files fs') := by
  obtain ⟨moved, hend, -, hreceives⟩ := of_writeAll S hfs hn h
  cases hend with
  | finished => exact ⟨rfl, hreceives⟩

end ArtifactFile

/-- The names of the files are the same for all artifacts. -/
lemma Artifacts.named_files (a : Artifacts) (c : Configuration) :
    ArtifactFile.Named (a.files c) := by
  have hnames : (a.files c).map (·.name) = ["layouts.ron", "marshal.ron", "setup.ron", "resize.ron",
      "pipelines.ron", "structs.glsl", "manifest.ron"] := rfl
  have hall : ∀ name ∈ (a.files c).map (·.name), Path.IsName name := by
    rw [hnames]
    decide
  refine ⟨fun f hf => hall f.name (List.mem_map_of_mem hf), ?_⟩
  rw [hnames]
  decide

section
variable {m : Type → Type} [Monad m] [FileStore m] (S : FileStore.Semantics m)
  {fs fs' : FileSystem} {path : String} {a : Arguments}

lemma Configuration.of_loadFrom {r : Except Failure Configuration}
    (h : S.Leads (loadFrom path).run fs r fs') : fs' = fs := by
  obtain ⟨text, fs₁, ht, hr⟩ := S.of_lift_bind_run h
  obtain rfl := S.of_readText? ht
  cases text with
  | none => exact (S.of_pure hr).2
  | some text =>
    cases hp : Configuration.parse text <;> simp only [hp] at hr <;> exact (S.of_pure hr).2

lemma Configuration.of_load {named : Option String} {r : Except Failure Configuration}
    (h : S.Leads (load named).run fs r fs') : fs' = fs := by
  cases named with
  | some path => exact of_loadFrom S h
  | none =>
    obtain ⟨present, fs₁, hp, hr⟩ := S.of_lift_bind_run h
    obtain rfl := S.of_isPresent hp
    cases present with
    | true => exact of_loadFrom S hr
    | false => exact (S.of_pure hr).2

lemma Specification.of_load {r : Except Failure Specification}
    (h : S.Leads (load path).run fs r fs') : fs' = fs := by
  rcases S.of_bind_run h with ⟨e, hf, -⟩ | ⟨format, fs₁, hf, hread⟩
  · exact (S.of_pure hf).2
  · obtain ⟨-, rfl⟩ := S.of_pure hf
    obtain ⟨text, fs₂, ht, hr⟩ := S.of_lift_bind_run hread
    obtain rfl := S.of_readText? ht
    cases text with
    | none => exact (S.of_pure hr).2
    | some text =>
      cases hp : Specification.parse text format <;> simp only [hp] at hr <;>
        exact (S.of_pure hr).2

namespace Arguments
open ArtifactFile

/-- The settings and the artifacts that an invocation comes to with the files there are. -/
def Yields (a : Arguments) (fs : FileSystem) (config : Configuration) (artifacts : Artifacts) :
    Prop :=
  ∃ loaded spec, S.Leads (Configuration.load a.config).run fs (.ok loaded) fs ∧
    S.Leads (Specification.load a.input).run fs (.ok spec) fs ∧
    config = a.override loaded ∧ spec.generate = .ok artifacts

/-- Up to the writing nothing is changed. -/
lemma of_run {r : Except Failure Outcome} (h : S.Leads (run a).run fs r fs') :
    fs' = fs ∧ (a.check = true ∨ ∃ e, r = .error e) ∨
      a.check = false ∧ ∃ config artifacts written, Yields S a fs config artifacts ∧
        S.Leads (writeAll config.outputDir (artifacts.files config)).run fs written fs' ∧
        r = written.map fun w =>
          { written := w, diagnostics := artifacts.diagnostics.length } := by
  rcases S.of_bind_run h with ⟨e, hload, rfl⟩ | ⟨loaded, fs₁, hload, hspec⟩
  · exact .inl ⟨Configuration.of_load S hload, .inr ⟨e, rfl⟩⟩
  obtain rfl := Configuration.of_load S hload
  rcases S.of_bind_run hspec with ⟨e, hs, rfl⟩ | ⟨spec, fs₂, hs, hrest⟩
  · exact .inl ⟨Specification.of_load S hs, .inr ⟨e, rfl⟩⟩
  obtain rfl := Specification.of_load S hs
  cases hg : spec.generate with
  | error e =>
    simp only [hg] at hrest
    obtain ⟨rfl, rfl⟩ := S.of_pure hrest
    exact .inl ⟨rfl, .inr ⟨_, rfl⟩⟩
  | ok artifacts =>
    simp only [hg] at hrest
    cases hc : a.check with
    | true =>
      rw [hc, if_pos rfl] at hrest
      exact .inl ⟨(S.of_pure hrest).2, .inl rfl⟩
    | false =>
      rw [hc, if_neg (by simp)] at hrest
      refine .inr ⟨rfl, a.override loaded, artifacts, ?_⟩
      have hy : Yields S a fs₂ (a.override loaded) artifacts :=
        ⟨loaded, spec, hload, hs, rfl, hg⟩
      rcases S.of_bind_run hrest with ⟨e, hw, rfl⟩ | ⟨written, fs₃, hw, hr⟩
      · exact ⟨.error e, hy, hw, rfl⟩
      · obtain ⟨rfl, rfl⟩ := S.of_pure hr
        exact ⟨.ok written, hy, hw, rfl⟩

/-- An invocation that fails, or that only checks, leaves every file as it was, unless a move fails
after others have worked. Then the artifacts that were moved by then are in the output directory, in
place of what was there, and all other files are as they were. The same holds of the writing of any
files. An invocation that goes through puts all artifacts into the output directory and touches no
other file, as long as no directory on the way there is named like a staging directory. -/
theorem run_keeps_files_unless_interrupted (hfs : fs.IsTree) :
    (∀ a r fs', S.Leads (run a).run fs r fs' →
      (a.check = true → fs.SameFiles fs') ∧
      (∀ e, r = .error e → fs.SameFiles fs' ∨
        ∃ config artifacts, Yields S a fs config artifacts ∧
          Interrupted fs config.outputDir (artifacts.files config) e fs') ∧
      (∀ outcome, r = .ok outcome → a.check = false →
        ∃ config artifacts, Yields S a fs config artifacts ∧
          outcome.written = (artifacts.files config).map
            (fun f => Path.join config.outputDir f.name) ∧
          ((∀ name ∈ fs.place config.outputDir, ¬ stagingStart.toList <+: name.toList) →
            fs.Receives (fs.place config.outputDir) (artifacts.files config) fs'))) ∧
    ∀ outputDir files e fs', Named files →
      S.Leads (writeAll outputDir files).run fs (.error e) fs' →
      fs.SameFiles fs' ∨ Interrupted fs outputDir files e fs' := by
  refine ⟨fun a r fs' h => ?_, fun outputDir files e fs' hn h => of_writeAll_error S hfs hn h⟩
  rcases of_run S h with ⟨rfl, hr⟩ | ⟨hc, config, artifacts, written, hy, hw, rfl⟩
  · refine ⟨fun _ _ => rfl, fun _ _ => .inl fun _ => rfl, ?_⟩
    rintro outcome rfl hc
    rcases hr with hr | ⟨e, hr⟩
    · rw [hc] at hr
      cases hr
    · cases hr
  · refine ⟨fun h => absurd (hc.symm.trans h) (by simp), ?_, ?_⟩
    · intro e he
      cases written with
      | ok written => cases he
      | error e' =>
        cases he
        exact (of_writeAll_error S hfs (artifacts.named_files config) hw).imp_right
          fun hi => ⟨config, artifacts, hy, hi⟩
    · intro outcome ho _
      cases written with
      | error e => cases ho
      | ok written =>
        cases ho
        obtain ⟨hwritten, hreceives⟩ := of_writeAll_ok S hfs (artifacts.named_files config) hw
        exact ⟨config, artifacts, hy, hwritten, hreceives⟩

end Arguments

end

/-- A directory stands where the last artifact is to go. -/
def blockedFiles : FileSystem where
  entries := [(["s.ron"], .file "()".toUTF8), (["out"], .directory),
    (["out", "manifest.ron"], .directory), (["out", "structs.glsl"], .file "old".toUTF8)]

def blockedArguments : Arguments := { input := "s.ron", output := some "out" }

def blockedRun : Except Failure Outcome × FileSystem :=
  (blockedArguments.run : ExceptT Failure (StateM FileSystem) Outcome).run.run blockedFiles

/-- The run fails, and yet a file in the output directory is not what it was. -/
theorem Arguments.run_keeps_files_unless_interrupted_blocked :
    blockedRun.1 = .error (.notMoved "out/manifest.ron") ∧
      blockedFiles.file? ["out", "structs.glsl"] = some "old".toUTF8 ∧
      blockedRun.2.file? ["out", "structs.glsl"] = some "".toUTF8 ∧
      ∃ config artifacts,
        Yields FileSystem.semantics blockedArguments blockedFiles config artifacts ∧
        ArtifactFile.Interrupted blockedFiles config.outputDir (artifacts.files config)
          (.notMoved "out/manifest.ron") blockedRun.2 := by
  have hold : blockedFiles.file? ["out", "structs.glsl"] = some "old".toUTF8 := by decide +kernel
  obtain ⟨hresult, hnew⟩ : blockedRun.1 = .error (.notMoved "out/manifest.ron") ∧
      blockedRun.2.file? ["out", "structs.glsl"] = some "".toUTF8 := by
    decide +kernel
  have htree : blockedFiles.IsTree := FileSystem.isTree_of_all (by decide +kernel)
  obtain ⟨-, hfails, -⟩ := (run_keeps_files_unless_interrupted FileSystem.semantics htree).1
    blockedArguments blockedRun.1 blockedRun.2
    (FileSystem.semantics_leads _ _)
  refine ⟨hresult, hold, hnew, (hfails _ hresult).resolve_left fun hsame => ?_⟩
  have hcontent := hsame ["out", "structs.glsl"]
  rw [hold, hnew] at hcontent
  exact absurd hcontent (by decide +kernel)

end RenderPlan
