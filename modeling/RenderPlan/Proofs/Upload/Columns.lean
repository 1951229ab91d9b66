import RenderPlan.Proofs.Upload.Leaves

/-! Matrices as arrays of their columns. If every matrix of a table is declared as an array of float
vectors, all requests are answered as before, with the same numbers and the same faults, and every
plan writes the same scalars. Only the types that are kept with the fields tell the tables apart. -/
namespace RenderPlan

def Arity.arrayLength (a : Arity) : ArrayLength :=
  ⟨.ofNat a.count, by cases a <;> decide⟩

@[simp] lemma Arity.count_arrayLength (a : Arity) : a.arrayLength.count = a.count := by
  cases a <;> rfl

/-- The type with every matrix replaced by the array of its columns. -/
@[simp] def ShaderType.columnwise : ShaderType → ShaderType
  | matrix columns rows => array (vector .float rows) columns.arrayLength
  | array element length => array element.columnwise length
  | ty => ty

def FieldDecl.columnwise (f : FieldDecl) : FieldDecl := { f with type := f.type.columnwise }

def StructDecl.columnwise (d : StructDecl) : StructDecl :=
  { d with fields := d.fields.map FieldDecl.columnwise }

def StructTable.columnwise (t : StructTable) : StructTable where
  decls := t.decls.map StructDecl.columnwise
  distinct := by
    rw [List.map_map]
    exact t.distinct

def FieldLayout.columnwise (f : FieldLayout) : FieldLayout := { f with type := f.type.columnwise }

def StructLayout.columnwise (l : StructLayout) : StructLayout :=
  { l with fields := l.fields.map FieldLayout.columnwise }

def Frame.columnwise (frame : Frame) : Frame :=
  { frame with fields := frame.fields.map FieldLayout.columnwise }

def Layouts.columnwise (done : Layouts) : Layouts := done.map StructLayout.columnwise

def LayoutCache.columnwise (c : LayoutCache) : LayoutCache :=
  ⟨c.table.columnwise, c.done.columnwise⟩

section Types
variable {owner : String} {footprint : String → Except Fault Footprint}

@[simp] lemma ShaderType.referenced_columnwise (ty : ShaderType) :
    ty.columnwise.referenced = ty.referenced := by
  induction ty with
  | array element length ih => exact ih
  | _ => rfl

/-- The stride of an array of columns is the stride of the matrix, and no matrix is too large. -/
@[simp] lemma ShaderType.placement_columnwise (ty : ShaderType) :
    ty.columnwise.placement owner footprint = ty.placement owner footprint := by
  induction ty with
  | matrix columns rows => cases columns <;> cases rows <;> rfl
  | array element length ih => rw [columnwise, placement_array, ih, placement_array]
  | _ => rfl

@[simp] lemma Frame.place_columnwise (frame : Frame) (f : FieldDecl) :
    frame.columnwise.place owner footprint f.columnwise =
      (frame.place owner footprint f).map columnwise := by
  rw [place_def, place_def, FieldDecl.columnwise, ShaderType.placement_columnwise]
  cases f.type.placement owner footprint with
  | error fault => rfl
  | ok p =>
    change (blockSize owner (addWord? (roundUp frame.cursor p.alignment) p.size) >>= _) =
      (blockSize owner (addWord? (roundUp frame.cursor p.alignment) p.size) >>= _).map columnwise
    cases blockSize owner (addWord? (roundUp frame.cursor p.alignment) p.size) with
    | error fault => rfl
    | ok cursor =>
      change Except.ok _ = Except.ok _
      simp [columnwise, FieldLayout.columnwise]

end Types

namespace Layouts

@[simp] lemma get?_columnwise (done : Layouts) (name : String) :
    done.columnwise.get? name = (done.get? name).map StructLayout.columnwise :=
  List.find?_map

@[simp] lemma isSome_get?_columnwise (done : Layouts) (name : String) :
    (done.columnwise.get? name).isSome = (done.get? name).isSome := by
  rw [get?_columnwise, Option.isSome_map]

@[simp] lemma footprint_columnwise (done : Layouts) (owner : String) :
    done.columnwise.footprint owner = done.footprint owner := by
  funext name
  rw [footprint, footprint, get?_columnwise]
  cases done.get? name <;> rfl

end Layouts

@[simp] lemma StructTable.get?_columnwise (t : StructTable) (name : String) :
    t.columnwise.get? name = (t.get? name).map StructDecl.columnwise :=
  List.find?_map

@[simp] lemma StructTable.names_columnwise (t : StructTable) : t.columnwise.names = t.names :=
  List.map_map

namespace Resolution
variable {α β : Type} {owner : String} {visit visit' : String → Resolution Unit}

/-- The end of a resolution, its layouts and its value taken over. -/
def columnwise (value : α → β) : EStateM.Result Fault Layouts α → EStateM.Result Fault Layouts β
  | .ok a done => .ok (value a) done.columnwise
  | .error fault done => .error fault done.columnwise

/-- Fields are placed alike if the structs they refer to are finished alike. -/
lemma placeFields_columnwise
    (hv : ∀ m done, visit' m done.columnwise = columnwise id (visit m done))
    (fields : List FieldDecl) (frame : Frame) (done : Layouts) :
    placeFields owner visit' (fields.map FieldDecl.columnwise) frame.columnwise done.columnwise =
      columnwise Frame.columnwise (placeFields owner visit fields frame done) := by
  induction fields generalizing frame done with
  | nil => rfl
  | cons f fields ih =>
    have hf : visitReferenced visit' f.columnwise.type done.columnwise =
        columnwise id (visitReferenced visit f.type done) := by
      rw [visitReferenced_def, visitReferenced_def, FieldDecl.columnwise,
        ShaderType.referenced_columnwise]
      cases f.type.referenced with
      | none => rfl
      | some m => exact hv m done
    rw [List.map_cons, placeFields_cons, placeFields_cons, hf]
    cases visitReferenced visit f.type done with
    | error fault done => rfl
    | ok _ done =>
      dsimp only [columnwise]
      rw [Layouts.footprint_columnwise, Frame.place_columnwise]
      cases frame.place owner (done.footprint owner) f with
      | error fault => rfl
      | ok frame => exact ih frame done

end Resolution

/-- By induction over the structs that are not under way. -/
@[simp]
lemma StructTable.resolve_columnwise (t : StructTable) (stack : List String) (referrer name : String)
    (done : Layouts) :
    t.columnwise.resolve stack referrer name done.columnwise =
      Resolution.columnwise id (t.resolve stack referrer name done) := by
  generalize hk : (t.idle stack).length = k
  induction k using Nat.strong_induction_on generalizing stack referrer name done with
  | _ k ih =>
    rw [resolve_apply, resolve_apply, Layouts.isSome_get?_columnwise, get?_columnwise]
    by_cases hg : (done.get? name).isSome
    · rw [if_pos hg, if_pos hg]
      rfl
    rw [if_neg hg, if_neg hg]
    by_cases hn : name ∈ stack
    · rw [if_pos hn, if_pos hn]
      rfl
    rw [if_neg hn, if_neg hn]
    cases hd : t.get? name with
    | none => rfl
    | some d =>
      have hv : ∀ m done, t.columnwise.resolve (stack ++ [name]) name m done.columnwise =
          Resolution.columnwise id (t.resolve (stack ++ [name]) name m done) := fun m done =>
        ih _ (hk ▸ length_idle_lt hd hn) (stack ++ [name]) name m done rfl
      have hfields : Resolution.placeFields name (t.columnwise.resolve (stack ++ [name]) name)
          d.columnwise.fields {} done.columnwise = Resolution.columnwise Frame.columnwise
            (Resolution.placeFields name (t.resolve (stack ++ [name]) name) d.fields {} done) :=
        Resolution.placeFields_columnwise hv d.fields {} done
      rw [Option.map_some]
      dsimp only
      rw [hfields]
      cases Resolution.placeFields name (t.resolve (stack ++ [name]) name) d.fields {} done <;> rfl

namespace LayoutCache

@[simp] lemma layoutFor_columnwise (c : LayoutCache) (referrer name : String) :
    c.columnwise.layoutFor referrer name =
      ((c.layoutFor referrer name).1.map StructLayout.columnwise,
        (c.layoutFor referrer name).2.columnwise) := by
  rw [layoutFor_def, layoutFor_def, columnwise, StructTable.resolve_columnwise]
  cases c.table.resolve [] referrer name c.done with
  | error fault done => rfl
  | ok _ done =>
    dsimp only [Resolution.columnwise]
    rw [Layouts.get?_columnwise]
    cases done.get? name <;> rfl

@[simp] lemma computeEach_columnwise (c : LayoutCache) (names : List String) :
    (c.columnwise.computeEach names).2 = (c.computeEach names).2.columnwise := by
  induction names generalizing c with
  | nil => rfl
  | cons name names ih =>
    rw [computeEach_cons, computeEach_cons, layoutOf, layoutOf, layoutFor_columnwise]
    rcases c.layoutFor anonymous name with ⟨fault | l, c'⟩
    · rfl
    · exact ih c'

@[simp] lemma serve_columnwise (c : LayoutCache) (request : LayoutRequest) :
    c.columnwise.serve request = (c.serve request).columnwise := by
  cases request with
  | layoutOf name => exact congrArg Prod.snd (layoutFor_columnwise c anonymous name)
  | layoutFor referrer name => exact congrArg Prod.snd (layoutFor_columnwise c referrer name)
  | computeAll =>
    change c.columnwise.computeAll.2 = c.computeAll.2.columnwise
    rw [computeAll_def, computeAll_def, ← computeEach_columnwise]
    exact congrArg (fun names => (c.columnwise.computeEach names).2) c.table.names_columnwise

@[simp] lemma serveAll_columnwise (c : LayoutCache) (requests : List LayoutRequest) :
    c.columnwise.serveAll requests = (c.serveAll requests).columnwise := by
  induction requests generalizing c with
  | nil => rfl
  | cons request requests ih =>
    change (c.columnwise.serve request).serveAll requests = _
    rw [serve_columnwise, ih]
    rfl

end LayoutCache

section Writes
variable {done : Layouts} {owner : String}
  {visit visit' : String → ℕ → ValuePath → Except Fault (List ScalarWrite)}

/-- The columns of a matrix are written as the elements of an array are. -/
lemma ShaderType.writes_columnwise (hv : ∀ m base path, visit' m base path = visit m base path)
    (ty : ShaderType) (base : ℕ) (path : ValuePath) :
    ty.columnwise.writes done.columnwise owner visit' base path =
      ty.writes done owner visit base path := by
  induction ty generalizing base path with
  | scalar kind | vector kind arity => rfl
  | struct name => exact hv name base path
  | matrix columns rows =>
    have hplaced : (array (vector .float rows) columns.arrayLength).placement owner
        (done.columnwise.footprint owner) = .ok ⟨_, _, some (columnStride rows)⟩ :=
      placement_columnwise (.matrix columns rows)
    rw [columnwise, writes_array, writes_matrix, hplaced]
    change ((List.range columns.arrayLength.count).mapM fun i => Except.ok (vectorWrites .float rows
      (base + i * columnStride rows) (path.index i))).map List.flatten = _
    rw [flatten_mapM_eq_ok fun _ _ => rfl, Arity.count_arrayLength]
  | array element length ih =>
    have hplaced : (array element.columnwise length).placement owner (done.footprint owner) =
        (array element length).placement owner (done.footprint owner) :=
      placement_columnwise (.array element length)
    rw [columnwise, writes_array, writes_array, Layouts.footprint_columnwise, hplaced]
    simp only [ih]

namespace Layouts

@[simp] lemma find?_columnwise (name : String) (done : Layouts) :
    find? name done.columnwise =
      (find? name done).map fun found => (found.1.columnwise, found.2.columnwise) := by
  induction done with
  | nil => rfl
  | cons l older ih =>
    change find? name (l.columnwise :: columnwise older) = _
    have hname : l.columnwise.name = l.name := rfl
    rw [find?, find?, hname]
    by_cases hl : l.name = name
    · rw [if_pos hl, if_pos hl]
      rfl
    · rw [if_neg hl, if_neg hl]
      exact ih

@[simp]
lemma structWrites_columnwise (done : Layouts) (l : StructLayout) (base : ℕ) (path : ValuePath) :
    structWrites done.columnwise l.columnwise base path = structWrites done l base path := by
  generalize hk : done.length = k
  induction k using Nat.strong_induction_on generalizing done l base path with
  | _ k ih =>
    have hv : ∀ m base path, nestedWrites done.columnwise l.name m base path =
        nestedWrites done l.name m base path := by
      intro m base path
      rw [nestedWrites_eq, nestedWrites_eq, find?_columnwise]
      cases hf : find? m done with
      | none => rfl
      | some found => exact ih _ (hk ▸ length_lt_of_find? hf) found.2 found.1 base path rfl
    rw [structWrites_eq, structWrites_eq, StructLayout.columnwise, List.mapM_map]
    congr 2
    funext f
    exact f.type.writes_columnwise hv (base + f.offset) (path.field f.name)

@[simp] lemma plan_columnwise (done : Layouts) (l : StructLayout) :
    done.columnwise.plan l.columnwise = done.plan l := by
  rw [plan_def, plan_def, structWrites_columnwise]
  rfl

end Layouts
end Writes

/-- A matrix is laid out and written as the array of its columns: after the same requests, a table
without matrices answers as the table does, and every layout has the same plan. -/
theorem LayoutCache.columnwise_simulates (t : StructTable) (requests : List LayoutRequest)
    (referrer name : String) :
    let c := (fresh t).serveAll requests
    let c' := (fresh t.columnwise).serveAll requests
    (c'.layoutOf name).1 = (c.layoutOf name).1.map StructLayout.columnwise ∧
    (c'.layoutFor referrer name).1 = (c.layoutFor referrer name).1.map StructLayout.columnwise ∧
    c'.get? name = (c.get? name).map StructLayout.columnwise ∧
    ∀ l, c'.done.plan l.columnwise = c.done.plan l := by
  intro c c'
  have hc : c' = c.columnwise := serveAll_columnwise (fresh t) requests
  rw [hc]
  refine ⟨?_, ?_, c.done.get?_columnwise name, c.done.plan_columnwise⟩
  · exact congrArg Prod.fst (layoutFor_columnwise c anonymous name)
  · exact congrArg Prod.fst (layoutFor_columnwise c referrer name)

end RenderPlan
