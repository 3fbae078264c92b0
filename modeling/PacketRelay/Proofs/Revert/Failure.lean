/-
  Catalogs after a load that failed.

  A load that fails is not undone.

  * `failed_load`: of the definitions that were read, those before the failure have been added;
  * `failed_load_not_undone`: a folder with one artifact that can be read, and one that cannot.
-/
import PacketRelay.Proofs.Json.Reading
import PacketRelay.Proofs.Revert.History

namespace PacketRelay.ErrorCatalog

/-- **A load that fails leaves the definitions before the failure.** These are known afterwards,
    nothing else is new, and what follows is a definition that is refused or something that cannot be
    read.  An artifact that cannot be read changes nothing. -/
theorem failed_load {hash : String → Selector} {c c' : ErrorCatalog} {change : Change}
    {err : RevertError} (h : change.perform hash c = (.error err, c')) :
    (∃ before after, change.declared.definitions = before ++ after ∧
      c' = c.keepAll hash before ∧ c'.Knows hash before ∧
      (∀ entry ∈ c'.entries, entry ∈ c.entries ∨ entry.2 ∈ before) ∧
      ((∃ e rest kept, after = e :: rest ∧ c'.Holds hash kept e ∧
          err = .collision (hash e.signature) kept.signature e.signature) ∨
        after = [] ∧ change.declared.stop = some err)) ∧
    ∀ files path, change = .artifact files path →
      (∃ s kept added, err = .collision s kept added) ∨ c' = c := by
  obtain ⟨r, c₁, hrun, hadded⟩ := change.loads hash c
  obtain ⟨rfl, rfl⟩ := Prod.mk.inj (hrun.symm.trans h)
  cases hadded with
  | @refused before after e kept hsplit hknows hholds =>
    refine ⟨⟨before, e :: after, hsplit, rfl, hknows, ?_, ?_⟩, ?_⟩
    · intro entry he
      exact mem_keepAll he
    · exact .inl ⟨e, after, kept, rfl, hholds, rfl⟩
    · intro files path _
      exact .inl ⟨_, _, _, rfl⟩
  | stopped hstop hknows =>
    refine ⟨⟨_, [], (List.append_nil _).symm, rfl, hknows, ?_, ?_⟩, ?_⟩
    · intro entry he
      exact mem_keepAll he
    · exact .inr ⟨rfl, hstop⟩
    · rintro files path rfl
      have hnothing : (Change.artifact files path).declared.definitions = [] :=
        declaredAt_stop hstop
      right
      rw [hnothing]
      rfl

/-! ## What sorted artifacts hold -/

/-- Errors that are sorted by name are read in their order. -/
theorem errors_of_sorted {d : Document} {es : List ErrorDefinition}
    (hitems : Reader.list Interface.item d = .ok (es.map .error))
    (hsorted : es.Pairwise fun a b => ¬ b.name < a.name) : Interface.errors d = .ok es := by
  have hsort : es.mergeSort (fun a b => !decide (b.name < a.name)) = es :=
    List.mergeSort_of_pairwise (hsorted.imp (by simp))
  unfold Interface.errors
  rw [hitems]
  simp only [bind, Except.bind, List.filterMap_map]
  rw [if_pos (by simp [Interface.atMostOne, List.filter_map, Function.comp_def])]
  exact congrArg Except.ok ((congrArg (List.mergeSort · _) List.filterMap_some).trans hsort)

theorem definitionsIn_interface {content : Bytes} {text : String} {interface : Document}
    {es : List ErrorDefinition} (path : Path) (hdecode : Utf8.decode content = .ok text)
    (hjson : Json.parseKept text = some (.table [("abi", interface)]))
    (herrors : Interface.errors interface = .ok es) : definitionsIn path content = .ok es := by
  have habi : (Document.table [("abi", interface)]).member? "abi" = some interface := rfl
  simp only [definitionsIn, hdecode, Except.mapError, bind, Except.bind, hjson, habi, herrors]

/-- Files that are sorted by name are visited in their order. -/
theorem visitOrder_of_sorted {files : List (String × Bytes)}
    (hsorted : files.Pairwise fun a b => ¬ b.1 < a.1) :
    FileTree.visitOrder (files.map fun f => (f.1, .file f.2)) =
      files.map fun f => ([f.1], f.2) := by
  have hsort : (files.map fun f => (f.1, FileTree.Visited.file f.2)).mergeSort
      (fun a b => !decide (b.1 < a.1)) = files.map fun f => (f.1, .file f.2) := by
    apply List.mergeSort_of_pairwise
    rw [List.pairwise_map]
    exact hsorted.imp (by simp)
  simp only [FileTree.visitOrder, hsort, List.filterMap_map, ← List.map_reverse, List.flatMap_map]
  rw [List.flatMap_eq_nil_iff.2 (fun _ _ => rfl), List.append_nil]
  exact congrFun List.filterMap_eq_map _

theorem visitEntries_files (files : List (String × Bytes)) :
    FileTree.visitEntries (files.map fun f => (f.1, .file f.2)) =
      files.map fun f => (f.1, .file f.2) := by
  induction files with
  | nil => rfl
  | cons f files ih => rw [List.map_cons, FileTree.visitEntries, ih, FileTree.visit, List.map_cons]

/-- The artifacts of a folder with sorted files and no folder in it. -/
theorem artifactsBelow_of_sorted {tree : FileTree} {folder : Path} {files : List (String × Bytes)}
    (hlist : tree.list folder = .ok (files.map fun f => (f.1, .file f.2)))
    (hsorted : files.Pairwise fun a b => ¬ b.1 < a.1) :
    artifactsBelow tree folder = .ok ((files.map fun f => (folder.join ⟨f.1⟩, f.2)).filter
      fun f => f.1.extension? == some "json") := by
  simp only [artifactsBelow, hlist, bind, Except.bind, visitEntries_files,
    visitOrder_of_sorted hsorted, List.map_map]
  rfl

/-! ## Loads that are not undone -/

/-- An error without arguments. -/
def paused : ErrorDefinition := ⟨"Paused", []⟩

/-- Its first four bytes are those of the signature of `paused`. -/
def pausedNow : ErrorDefinition := ⟨"PausedNow", []⟩

/-- An artifact with one error. -/
def readable : String :=
  "\x7b\"abi\":[\x7b\"type\":\"error\",\"name\":\"Paused\",\"inputs\":[]\x7d]\x7d"

/-- An artifact with two errors. -/
def clashing : String :=
  "\x7b\"abi\":[\x7b\"type\":\"error\",\"name\":\"Paused\",\"inputs\":[]\x7d," ++
    "\x7b\"type\":\"error\",\"name\":\"PausedNow\",\"inputs\":[]\x7d]\x7d"

/-- Not an artifact. -/
def unreadable : String := "nope"

/-- The files of a folder: an artifact and one that is none. -/
def halfReadable : List (String × Bytes) :=
  [("a.json", utf8 readable), ("b.json", utf8 unreadable)]

/-- The folder beside an artifact that clashes. -/
def artifacts : FileTree :=
  .folder [("half", .folder (halfReadable.map fun f => (f.1, .file f.2))),
    ("clashing.json", .file (utf8 clashing))]

/-- An error without parameters as it stands in an artifact. -/
def writtenError (name : String) : Document :=
  .table [("type", .text "error"), ("name", .text name), ("inputs", .list [])]

/-- The same with its members sorted. -/
def errorItem (name : String) : Document :=
  .table [("inputs", .list []), ("name", .text name), ("type", .text "error")]

theorem text_readable :
    Json.text (.table [("abi", .list [writtenError "Paused"])]) = readable := by
  rfl

theorem text_clashing :
    Json.text (.table [("abi", .list [writtenError "Paused", writtenError "PausedNow"])]) =
      clashing := by
  rfl

theorem parse_readable :
    Json.parseKept readable = some (.table [("abi", .list [errorItem "Paused"])]) := by
  rw [← text_readable, Json.parseKept_text (by rfl) (by decide)]
  rfl

theorem parse_clashing : Json.parseKept clashing =
    some (.table [("abi", .list [errorItem "Paused", errorItem "PausedNow"])]) := by
  rw [← text_clashing, Json.parseKept_text (by rfl) (by decide)]
  rfl

theorem definitionsIn_readable (path : Path) :
    definitionsIn path (utf8 readable) = .ok [paused] :=
  definitionsIn_interface path (Utf8.decode_ascii_toList (by rfl)) parse_readable
    (errors_of_sorted rfl (by simp))

theorem definitionsIn_clashing (path : Path) :
    definitionsIn path (utf8 clashing) = .ok [paused, pausedNow] :=
  definitionsIn_interface path (Utf8.decode_ascii_toList (by rfl)) parse_clashing
    (errors_of_sorted rfl (by decide))

theorem definitionsIn_unreadable (path : Path) :
    definitionsIn path (utf8 unreadable) = .error (.artifact path) :=
  rfl

theorem artifactsBelow_half : artifactsBelow artifacts ⟨"half"⟩ =
    .ok [(⟨"half/a.json"⟩, utf8 readable), (⟨"half/b.json"⟩, utf8 unreadable)] := by
  have hsorted : halfReadable.Pairwise fun a b => ¬ b.1 < a.1 := List.pairwise_pair.2 (by decide)
  have hlist : artifacts.list ⟨"half"⟩ = .ok (halfReadable.map fun f => (f.1, .file f.2)) := rfl
  rw [artifactsBelow_of_sorted hlist hsorted]
  rfl

theorem addOne_paused :
    addOne leading paused (initial leading) = (.ok 1, (initial leading).keep leading paused) :=
  rfl

/-- The first file is loaded, the second one is no artifact. -/
theorem loadFolder_half : loadFolder leading artifacts ⟨"half"⟩ (initial leading) =
    (.error (.artifact ⟨"half/b.json"⟩), (initial leading).keep leading paused) := by
  have hfirst : loadContent leading ⟨"half/a.json"⟩ (utf8 readable) (initial leading) =
      (.ok 1, (initial leading).keep leading paused) := by
    simp only [loadContent, definitionsIn_readable, addAll]
    rw [bind_ok _ addOne_paused]
    rfl
  have hsecond (c : ErrorCatalog) : loadContent leading ⟨"half/b.json"⟩ (utf8 unreadable) c =
      (.error (.artifact ⟨"half/b.json"⟩), c) := by
    simp only [loadContent, definitionsIn_unreadable]
    rfl
  simp only [loadFolder, artifactsBelow_half, loadAll]
  rw [bind_ok _ hfirst, bind_error _ (bind_error _ (hsecond _))]

/-- The first error is added, the second one has its selector. -/
theorem loadArtifact_clashing :
    loadArtifact leading artifacts ⟨"clashing.json"⟩ (initial leading) =
      (.error (.collision (leading "PausedNow()") "Paused()" "PausedNow()"),
        (initial leading).keep leading paused) := by
  have hread : artifacts.read ⟨"clashing.json"⟩ = .ok (utf8 clashing) := rfl
  have hclash : addOne leading pausedNow ((initial leading).keep leading paused) =
      (.error (.collision (leading "PausedNow()") "Paused()" "PausedNow()"),
        (initial leading).keep leading paused) := rfl
  simp only [loadArtifact, hread, loadContent, definitionsIn_clashing, addAll]
  rw [bind_ok _ addOne_paused, bind_error _ (bind_error _ hclash)]

theorem failed_load_half :
    (Change.folder artifacts ⟨"half"⟩).perform leading (initial leading) =
        (.error (.artifact ⟨"half/b.json"⟩), (initial leading).keep leading paused) ∧
      ∃ before after, (declaredBelow artifacts ⟨"half"⟩).definitions = before ++ after ∧
        (initial leading).keep leading paused = (initial leading).keepAll leading before := by
  have hperform : (Change.folder artifacts ⟨"half"⟩).perform leading (initial leading) =
      (.error (.artifact ⟨"half/b.json"⟩), (initial leading).keep leading paused) :=
    loadFolder_half
  obtain ⟨⟨before, after, hsplit, hkept, -⟩, -⟩ := failed_load hperform
  exact ⟨hperform, before, after, hsplit, hkept⟩

/-- **A load that fails is not undone**, be it that a file of a folder is no artifact, or that two
    errors of one artifact clash. -/
theorem failed_load_not_undone :
    loadFolder leading artifacts ⟨"half"⟩ (initial leading) =
        (.error (.artifact ⟨"half/b.json"⟩), (initial leading).keep leading paused) ∧
      loadArtifact leading artifacts ⟨"clashing.json"⟩ (initial leading) =
        (.error (.collision (leading "PausedNow()") "Paused()" "PausedNow()"),
          (initial leading).keep leading paused) ∧
      (initial leading).keep leading paused ≠ initial leading := by
  refine ⟨loadFolder_half, loadArtifact_clashing, fun h => ?_⟩
  have hsize := congrArg size h
  revert hsize
  decide

end PacketRelay.ErrorCatalog
