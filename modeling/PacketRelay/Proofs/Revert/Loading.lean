/-
  What loading does to a catalog.

  `Declared` are the definitions that are read one after the other, and the error that stops this:
  of an artifact (`declaredIn`), of a file (`declaredAt`) and of all artifacts below a folder
  (`declaredBelow`).  `Added` is all that adding them can do to a catalog: each is kept or known, up
  to one that is refused or to the error.

  * `loads_artifact`, `loads_folder`: this is what loading does.
-/
import PacketRelay.Proofs.Revert.Catalog
import PacketRelay.Revert.Artifact

namespace PacketRelay.ErrorCatalog

/-! ## Definitions that are read -/

/-- Definitions that are read one after the other, and the error that stops this. -/
structure Declared where
  definitions : List ErrorDefinition
  stop : Option RevertError

/-- What is read after something else, unless an error stops this. -/
def Declared.andThen (d d' : Declared) : Declared :=
  match d.stop with
  | none => ⟨d.definitions ++ d'.definitions, d'.stop⟩
  | some _ => d

theorem Declared.andThen_none {d : Declared} (d' : Declared) (h : d.stop = none) :
    d.andThen d' = ⟨d.definitions ++ d'.definitions, d'.stop⟩ := by
  rw [andThen, h]

theorem Declared.andThen_some {d : Declared} (d' : Declared) {err : RevertError}
    (h : d.stop = some err) : d.andThen d' = d := by
  rw [andThen, h]

/-- What is read one after the other. -/
def Declared.inTurn : List Declared → Declared
  | [] => ⟨[], none⟩
  | d :: rest => d.andThen (inTurn rest)

/-- Nothing stops what is read if nothing stops any of it. -/
theorem Declared.inTurn_stop {ds : List Declared} :
    (inTurn ds).stop = none ↔ ∀ d ∈ ds, d.stop = none := by
  induction ds with
  | nil => simp [inTurn]
  | cons d ds ih =>
    rw [List.forall_mem_cons, ← ih, inTurn]
    cases hstop : d.stop with
    | none =>
      rw [andThen_none _ hstop]
      exact (and_iff_right rfl).symm
    | some err =>
      rw [andThen_some _ hstop, hstop]
      simp

theorem Declared.inTurn_definitions {ds : List Declared} (h : ∀ d ∈ ds, d.stop = none) :
    (inTurn ds).definitions = ds.flatMap definitions := by
  induction ds with
  | nil => rfl
  | cons d ds ih =>
    rw [List.forall_mem_cons] at h
    rw [inTurn, andThen_none _ h.1, List.flatMap_cons, ← ih h.2]

theorem Declared.mem_inTurn {ds : List Declared} {e : ErrorDefinition}
    (h : e ∈ (inTurn ds).definitions) : e ∈ ds.flatMap definitions := by
  induction ds with
  | nil => exact h
  | cons d ds ih =>
    rw [inTurn] at h
    rw [List.flatMap_cons, List.mem_append]
    cases hstop : d.stop with
    | none =>
      rw [andThen_none _ hstop] at h
      exact (List.mem_append.1 h).imp_right ih
    | some err =>
      rw [andThen_some _ hstop] at h
      exact .inl h

/-- What is read of the content of an artifact: all of it or nothing. -/
def declaredIn (path : Path) (content : Bytes) : Declared :=
  match definitionsIn path content with
  | .ok es => ⟨es, none⟩
  | .error err => ⟨[], some err⟩

/-- What is read of artifacts. -/
def declaredAll : List (Path × Bytes) → Declared
  | [] => ⟨[], none⟩
  | (path, content) :: rest => (declaredIn path content).andThen (declaredAll rest)

theorem declaredAll_eq_inTurn (found : List (Path × Bytes)) :
    declaredAll found = Declared.inTurn (found.map fun a => declaredIn a.1 a.2) := by
  induction found with
  | nil => rfl
  | cons artifact rest ih => rw [declaredAll, ih, List.map_cons, Declared.inTurn]

/-- What is read of a file. -/
def declaredAt (files : FileTree) (path : Path) : Declared :=
  match files.read path with
  | .ok content => declaredIn path content
  | .error fault => ⟨[], some (.file fault)⟩

/-- What is read of the artifacts below a folder. -/
def declaredBelow (files : FileTree) (folder : Path) : Declared :=
  match artifactsBelow files folder with
  | .ok found => declaredAll found
  | .error fault => ⟨[], some (.file fault)⟩

/-- An artifact that cannot be read holds no definition. -/
theorem declaredAt_stop {files : FileTree} {path : Path} {err : RevertError}
    (h : (declaredAt files path).stop = some err) : (declaredAt files path).definitions = [] := by
  unfold declaredAt declaredIn at h ⊢
  split at h
  · split at h
    · cases h
    · rfl
  · rfl

/-! ## Adding them -/

variable {hash : String → Selector} {c c' : ErrorCatalog} {d d' : Declared}

/-- What adding the definitions that are read can do to the catalog `c`: those before one that is
    refused are known then, or all of them. -/
inductive Added (hash : String → Selector) (c : ErrorCatalog) (d : Declared) :
    Except RevertError Nat → ErrorCatalog → Prop
  | done {n : Nat} : d.stop = none → (c.keepAll hash d.definitions).Knows hash d.definitions →
      (c.keepAll hash d.definitions).size = c.size + n →
      Added hash c d (.ok n) (c.keepAll hash d.definitions)
  | refused {before after : List ErrorDefinition} {e kept : ErrorDefinition} :
      d.definitions = before ++ e :: after → (c.keepAll hash before).Knows hash before →
      (c.keepAll hash before).Holds hash kept e →
      Added hash c d (.error (.collision (hash e.signature) kept.signature e.signature))
        (c.keepAll hash before)
  | stopped {err : RevertError} : d.stop = some err →
      (c.keepAll hash d.definitions).Knows hash d.definitions →
      Added hash c d (.error err) (c.keepAll hash d.definitions)

/-- Definitions that are known stay known while others are added. -/
theorem knows_keepAll_append {es es' : List ErrorDefinition}
    (h : (c.keepAll hash es).Knows hash es)
    (h' : ((c.keepAll hash es).keepAll hash es').Knows hash es') :
    (c.keepAll hash (es ++ es')).Knows hash (es ++ es') := by
  rw [keepAll_append, Knows, List.forall_mem_append]
  exact ⟨(extends_keepAll hash _ es').knows h, h'⟩

namespace Added

variable {r : Except RevertError Nat}

/-- In any case definitions have been kept. -/
theorem kept (h : Added hash c d r c') : ∃ es, c' = c.keepAll hash es := by
  cases h with
  | done _ _ _ => exact ⟨_, rfl⟩
  | refused _ _ _ => exact ⟨_, rfl⟩
  | stopped _ _ => exact ⟨_, rfl⟩

theorem size {n : Nat} (h : Added hash c d (.ok n) c') : c'.size = c.size + n := by
  cases h with
  | done _ _ hsize => exact hsize

/-- What has failed is not gone on with. -/
theorem andThen_error {err : RevertError} (d' : Declared) (h : Added hash c d (.error err) c') :
    Added hash c (d.andThen d') (.error err) c' := by
  cases hstop : d.stop with
  | some err' => rwa [Declared.andThen_some d' hstop]
  | none =>
    rw [Declared.andThen_none d' hstop]
    cases h with
    | stopped hstop' _ =>
      rw [hstop] at hstop'
      cases hstop'
    | @refused before after e kept hsplit hknows hholds =>
      have hdefinitions : d.definitions ++ d'.definitions =
          before ++ e :: (after ++ d'.definitions) := by
        rw [hsplit, List.append_assoc, List.cons_append]
      exact .refused hdefinitions hknows hholds

/-- What has been added is gone on with. -/
theorem andThen_ok {c₁ : ErrorCatalog} {n : Nat} (h : Added hash c d (.ok n) c₁)
    (h' : Added hash c₁ d' r c') : Added hash c (d.andThen d') (r.map (n + ·)) c' := by
  cases h with
  | done hstop hknows hsize =>
    rw [Declared.andThen_none d' hstop]
    cases h' with
    | done hstop' hknows' hsize' =>
      have hknown := knows_keepAll_append hknows hknows'
      rw [← keepAll_append] at hsize' ⊢
      exact .done hstop' hknown (by rw [hsize', hsize, Nat.add_assoc])
    | @refused before after e kept hsplit hknows' hholds =>
      have hknown := knows_keepAll_append hknows hknows'
      have hdefinitions : d.definitions ++ d'.definitions =
          (d.definitions ++ before) ++ e :: after := by
        rw [hsplit, List.append_assoc]
      rw [← keepAll_append] at hholds ⊢
      exact .refused hdefinitions hknown hholds
    | stopped hstop' hknows' =>
      have hknown := knows_keepAll_append hknows hknows'
      rw [← keepAll_append]
      exact .stopped hstop' hknown

end Added

/-! ## Loading -/

theorem bind_ok {α β : Type} {x : Loading α} {a : α} (f : α → Loading β) (h : x c = (.ok a, c')) :
    (x >>= f) c = f a c' := by
  change (ExceptT.bindCont f (x c).1 : StateM ErrorCatalog _) (x c).2 = _
  rw [h]
  rfl

theorem bind_error {α β : Type} {x : Loading α} {err : RevertError} (f : α → Loading β)
    (h : x c = (.error err, c')) : (x >>= f) c = (.error err, c') := by
  change (ExceptT.bindCont f (x c).1 : StateM ErrorCatalog _) (x c).2 = _
  rw [h]
  rfl

/-- Loading adds what is read. -/
def Loads (hash : String → Selector) (x : Loading Nat) (d : Declared) : Prop :=
  ∀ c, ∃ r c', x c = (r, c') ∧ Added hash c d r c'

theorem Loads.andThen {x y : Loading Nat} (hx : Loads hash x d) (hy : Loads hash y d') :
    Loads hash (do
      let n ← x
      let m ← y
      pure (n + m)) (d.andThen d') := by
  intro c
  obtain ⟨r, c₁, hrun, hadded⟩ := hx c
  cases r with
  | error err => exact ⟨_, _, bind_error _ hrun, hadded.andThen_error d'⟩
  | ok n =>
    obtain ⟨r', c', hrun', hadded'⟩ := hy c₁
    refine ⟨_, _, ?_, hadded.andThen_ok hadded'⟩
    rw [bind_ok _ hrun]
    cases r' with
    | error err => exact bind_error _ hrun'
    | ok m =>
      rw [bind_ok _ hrun']
      rfl

theorem knows_nil (hash : String → Selector) (c : ErrorCatalog) : c.Knows hash [] :=
  List.forall_mem_nil _

theorem loads_throw (err : RevertError) : Loads hash (throw err) ⟨[], some err⟩ :=
  fun c => ⟨.error err, c, rfl, .stopped rfl (knows_nil hash c)⟩

theorem loads_pure : Loads hash (pure 0) ⟨[], none⟩ :=
  fun c => ⟨.ok 0, c, rfl, .done rfl (knows_nil hash c) rfl⟩

theorem get_run : (get : Loading ErrorCatalog) c = (.ok c, c) := rfl

theorem addOne_ok {e : ErrorDefinition} {isNew : Bool} (h : c.add hash e = .ok (isNew, c')) :
    addOne hash e c = (.ok (if isNew then 1 else 0), c') := by
  rw [addOne, bind_ok _ get_run, h]
  rfl

/-- A definition that is refused changes nothing. -/
theorem addOne_error {e : ErrorDefinition} {err : RevertError} (h : c.add hash e = .error err) :
    addOne hash e c = (.error err, c) := by
  rw [addOne, bind_ok _ get_run, h]
  rfl

theorem loads_addOne (e : ErrorDefinition) : Loads hash (addOne hash e) ⟨[e], none⟩ := by
  intro c
  rcases add_cases hash c e with ⟨isNew, hadd, hsize, hknows⟩ | ⟨kept, hholds⟩
  · exact ⟨_, _, addOne_ok hadd, .done rfl hknows hsize⟩
  · have hadded : Added hash c ⟨[e], none⟩ _ (c.keepAll hash []) :=
      .refused (rfl : [e] = [] ++ e :: []) (knows_nil hash c) hholds
    exact ⟨_, _, addOne_error hholds.add, hadded⟩

theorem loads_addAll (es : List ErrorDefinition) : Loads hash (addAll hash es) ⟨es, none⟩ := by
  induction es with
  | nil => exact loads_pure
  | cons e es ih => exact (loads_addOne e).andThen ih

theorem loads_content (path : Path) (content : Bytes) :
    Loads hash (loadContent hash path content) (declaredIn path content) := by
  unfold loadContent declaredIn
  cases definitionsIn path content with
  | ok es => exact loads_addAll es
  | error err => exact loads_throw err

theorem loads_all (found : List (Path × Bytes)) :
    Loads hash (loadAll hash found) (declaredAll found) := by
  induction found with
  | nil => exact loads_pure
  | cons artifact rest ih => exact (loads_content artifact.1 artifact.2).andThen ih

/-- **Loading an artifact.** -/
theorem loads_artifact (files : FileTree) (path : Path) :
    Loads hash (loadArtifact hash files path) (declaredAt files path) := by
  unfold loadArtifact declaredAt
  cases files.read path with
  | ok content => exact loads_content path content
  | error fault => exact loads_throw (.file fault)

/-- **Loading the artifacts below a folder.** -/
theorem loads_folder (files : FileTree) (folder : Path) :
    Loads hash (loadFolder hash files folder) (declaredBelow files folder) := by
  unfold loadFolder declaredBelow
  cases artifactsBelow files folder with
  | ok found => exact loads_all found
  | error fault => exact loads_throw (.file fault)

end PacketRelay.ErrorCatalog
