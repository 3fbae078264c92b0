/-
  Loading all artifacts below a folder, as a whole.

  * `Progress.loads_eq`, `Progress.loads_passed`: what a walk loads, and which paths it passes on;
  * `IsArtifact` are the files that can be loaded; `loadAll_cases`: when artifacts can be loaded;
  * `loadFolder_walk`: `loadFolder` is a walk that ends and passes on every artifact, up to the first
    one that fails; it succeeds unless a file is no artifact or two signatures share a selector;
  * `walk_unfinished`: a walk that stops before the last artifact.
-/
import PacketRelay.Proofs.Json.Reading
import PacketRelay.Proofs.Revert.Failure
import PacketRelay.Proofs.Revert.Order
import PacketRelay.Proofs.Revert.Walk
import PacketRelay.Proofs.Text.Utf8

namespace PacketRelay.ErrorCatalog

open FileTree

variable {hash : String → Selector} {files : FileTree} {c c' : ErrorCatalog} {g : Progress} {p : Path}
  {es : List (String × FileTree)}

/-! ## What is loaded -/

theorem loadArtifact_of_read (hash : String → Selector) {path : Path} {content : Bytes}
    (h : files.read path = .ok content) :
    loadArtifact hash files path = loadContent hash path content := by
  rw [loadArtifact, h]

/-- The files of a tree are what is read at their paths. -/
theorem read_below {names : List String} {content : Bytes} (hlist : files.list p = .ok es)
    (hsound : (folder es).Sound) (hmem : (names, content) ∈ filesOf es) :
    files.read (p.below names) = .ok content := by
  induction names generalizing p es with
  | nil =>
    obtain ⟨_, _, _, h, -⟩ := mem_filesOf.1 hmem
    cases h
  | cons name names ih =>
    obtain ⟨_, t, _, heq, hentry, hfile⟩ := mem_filesOf.1 hmem
    obtain ⟨rfl, rfl⟩ := List.cons.inj heq
    obtain ⟨hname, ht⟩ := hsound.2.of_mem hentry
    have hfind := find_join hlist hsound.1 hentry hname
    cases t with
    | file content' =>
      obtain ⟨rfl, rfl⟩ := Prod.mk.inj (List.mem_singleton.1 hfile)
      exact read_eq_ok.2 hfind
    | folder es' => exact ih (list_eq_ok.2 hfind) ht hfile

section
variable {path : Path} {content : Bytes} {found : List (Path × Bytes)}

theorem loadAll_cons_error {err : RevertError}
    (h : loadContent hash path content c = (.error err, c')) :
    loadAll hash ((path, content) :: found) c = (.error err, c') :=
  bind_error _ h

theorem loadAll_cons_ok {n : Nat} (h : loadContent hash path content c = (.ok n, c')) :
    loadAll hash ((path, content) :: found) c =
      ((loadAll hash found c').1.map (n + ·), (loadAll hash found c').2) := by
  rw [loadAll, bind_ok _ h]
  obtain ⟨r, c'', hrun⟩ : ∃ r c'', loadAll hash found c' = (r, c'') := ⟨_, _, rfl⟩
  rw [hrun]
  cases r with
  | error err => exact bind_error _ hrun
  | ok m => exact bind_ok _ hrun

end

namespace Progress

variable {n : Nat} {path : Path}

theorem loads_cons (g : Progress) (path : Path) (paths : List Path) :
    g.loads hash files (path :: paths) = (g.load hash files path).loads hash files paths := rfl

theorem load_error {err : RevertError} (hg : g.added = .ok n)
    (h : loadArtifact hash files path g.catalog = (.error err, c')) :
    g.load hash files path = ⟨g.passed ++ [path], .error err, c'⟩ := by
  simp only [load, hg, h]
  rfl

theorem load_ok {m : Nat} (hg : g.added = .ok n)
    (h : loadArtifact hash files path g.catalog = (.ok m, c')) :
    g.load hash files path = ⟨g.passed ++ [path], .ok (n + m), c'⟩ := by
  simp only [load, hg, h]
  rfl

/-- Artifacts that can be read are loaded as `loadAll` loads them. -/
theorem loads_eq (hash : String → Selector) {found : List (Path × Bytes)}
    (hread : ∀ artifact ∈ found, files.read artifact.1 = .ok artifact.2) (hg : g.added = .ok n) :
    (g.loads hash files (found.map Prod.fst)).added =
        (loadAll hash found g.catalog).1.map (n + ·) ∧
      (g.loads hash files (found.map Prod.fst)).catalog = (loadAll hash found g.catalog).2 := by
  induction found generalizing g n with
  | nil => exact ⟨hg, rfl⟩
  | cons artifact found ih =>
    obtain ⟨path, content⟩ := artifact
    obtain ⟨hfirst, hrest⟩ := List.forall_mem_cons.1 hread
    have hload := loadArtifact_of_read hash hfirst
    obtain ⟨r, c', hrun⟩ : ∃ r c', loadContent hash path content g.catalog = (r, c') := ⟨_, _, rfl⟩
    rw [← hload] at hrun
    rw [List.map_cons, loads_cons]
    cases r with
    | error err =>
      rw [load_error hg hrun, loads_failed rfl, loadAll_cons_error (hload ▸ hrun)]
      exact ⟨rfl, rfl⟩
    | ok m =>
      rw [load_ok hg hrun, loadAll_cons_ok (hload ▸ hrun)]
      obtain ⟨hadded, hcatalog⟩ := ih hrest (g := ⟨g.passed ++ [path], .ok (n + m), c'⟩) rfl
      refine ⟨hadded.trans ?_, hcatalog⟩
      cases (loadAll hash found c').1 with
      | error err => rfl
      | ok m' => exact congrArg Except.ok (Nat.add_assoc n m m')

/-- **Paths are passed on one after the other**, all of them or up to one that cannot be loaded. -/
theorem loads_passed (hash : String → Selector) (files : FileTree) (hg : g.added = .ok n)
    (paths : List Path) :
    (∃ m, (g.loads hash files paths).added = .ok m ∧
      (g.loads hash files paths).passed = g.passed ++ paths) ∨
    ∃ err front path later before, (g.loads hash files paths).added = .error err ∧
      (g.loads hash files paths).passed = g.passed ++ (front ++ [path]) ∧
      paths = front ++ path :: later ∧
      loadArtifact hash files path before = (.error err, (g.loads hash files paths).catalog) := by
  induction paths generalizing g n with
  | nil => exact .inl ⟨n, hg, (List.append_nil _).symm⟩
  | cons path paths ih =>
    obtain ⟨r, c', hrun⟩ : ∃ r c', loadArtifact hash files path g.catalog = (r, c') := ⟨_, _, rfl⟩
    rw [loads_cons]
    cases r with
    | error err =>
      rw [load_error hg hrun, loads_failed rfl]
      exact .inr ⟨err, [], path, paths, g.catalog, rfl, rfl, rfl, hrun⟩
    | ok m =>
      rw [load_ok hg hrun]
      rcases ih (g := ⟨g.passed ++ [path], .ok (n + m), c'⟩) rfl with
        ⟨m', hadded, hpassed⟩ | ⟨err, front, last, later, before, hadded, hpassed, rfl, hfault⟩
      · refine .inl ⟨m', hadded, ?_⟩
        rw [hpassed, List.append_assoc, List.singleton_append]
      · refine .inr ⟨err, path :: front, last, later, before, hadded, ?_, rfl, hfault⟩
        rw [hpassed, List.append_assoc, List.singleton_append, List.cons_append]

end Progress

/-- No two artifacts have one path. -/
theorem nodup_artifactsOf (hsound : (folder es).Sound) (p : Path) :
    ((artifactsOf p es).map Prod.fst).Nodup := by
  have hnames := nodup_filesOf es hsound.1 hsound.2
  have hsteps : ∀ file ∈ filesOf es, ∀ n ∈ file.1, Path.IsStep n := fun file hfile n hn =>
    (isName_of_mem_files (t := .folder es) hsound hfile n hn).toIsStep
  rw [artifactsOf, List.map_map]
  refine List.Nodup.map_on ?_ (List.Nodup.filter _ (List.Nodup.of_map _ hnames))
  intro file hfile file' hfile' hsame
  have hmem := (List.mem_filter.1 hfile).1
  have hmem' := (List.mem_filter.1 hfile').1
  have heq : file.1 = file'.1 := Path.below_injective (hsteps _ hmem) (hsteps _ hmem') hsame
  exact List.inj_on_of_nodup_map hnames hmem hmem' heq

/-! ## When all can be loaded -/

/-- A file is an artifact: JSON, and its interface, if it has one, can be read. -/
def IsArtifact (content : Bytes) : Prop :=
  ∃ text d, Utf8.decode content = .ok text ∧ Json.parseKept text = some d ∧
    ∀ interface, d.member? "abi" = some interface → ∃ es, Interface.errors interface = .ok es

theorem definitionsIn_ok_iff (path : Path) {content : Bytes} :
    (∃ es, definitionsIn path content = .ok es) ↔ IsArtifact content := by
  unfold definitionsIn IsArtifact
  cases Utf8.decode content with
  | error err => simp [Except.mapError, bind, Except.bind]
  | ok text =>
    cases hjson : Json.parseKept text with
    | none => simp [Except.mapError, bind, Except.bind, hjson, throw, throwThe, MonadExceptOf.throw]
    | some d =>
      cases hmember : d.member? "abi" with
      | none => simp [Except.mapError, bind, Except.bind, hjson, hmember, pure, Except.pure]
      | some interface =>
        cases herrors : Interface.errors interface with
        | error err =>
          simp [Except.mapError, bind, Except.bind, hjson, hmember, herrors]
        | ok es => simp [Except.mapError, bind, Except.bind, hjson, hmember, herrors]

theorem declaredIn_stop {path : Path} {content : Bytes} :
    (declaredIn path content).stop = none ↔ IsArtifact content := by
  rw [← definitionsIn_ok_iff path, declaredIn]
  cases definitionsIn path content <;> simp

/-- The definitions in artifacts. -/
def definedIn (found : List (Path × Bytes)) : List ErrorDefinition :=
  found.flatMap fun a => (declaredIn a.1 a.2).definitions

/-- **Loading artifacts** gathers what they hold, or one of them is none, or two signatures share a
    selector. -/
theorem loadAll_cases (hc : Consistent hash c) (found : List (Path × Bytes)) :
    (∃ n, (loadAll hash found c).1 = .ok n ∧ (∀ a ∈ found, IsArtifact a.2) ∧
      (loadAll hash found c).2.Gathers hash (c.definitions ++ definedIn found) ∧
      (loadAll hash found c).2.size = c.size + n) ∨
    (∃ err, (loadAll hash found c).1 = .error err) ∧
      (¬ (∀ a ∈ found, IsArtifact a.2) ∨ Clash hash (c.definitions ++ definedIn found)) := by
  obtain ⟨r, c', hrun, hadded⟩ := loads_all found c
  have hstop : (∀ d ∈ found.map fun a => declaredIn a.1 a.2, d.stop = none) ↔
      ∀ a ∈ found, IsArtifact a.2 := by
    rw [List.forall_mem_map]
    exact forall₂_congr fun _ _ => declaredIn_stop
  have hdefined : (found.map fun a => declaredIn a.1 a.2).flatMap Declared.definitions =
      definedIn found :=
    List.flatMap_map _ _ found
  rw [declaredAll_eq_inTurn] at hadded
  rw [hrun, ← hstop, ← hdefined]
  exact hadded.inTurn_cases hc

/-! ## The whole walk -/

/-- The order of artifacts decides neither whether all can be loaded nor how many definitions are
    new. -/
theorem loadAll_cases_of_perm {found found' : List (Path × Bytes)} (hc : Consistent hash c)
    (hperm : found.Perm found') :
    ((∃ n, (loadAll hash found c).1 = .ok n) ↔ (∀ a ∈ found', IsArtifact a.2) ∧
      ¬ Clash hash (c.definitions ++ definedIn found')) ∧
    ∀ n, (loadAll hash found c).1 = .ok n →
      n = (selectorsOf hash (definedIn found') \ c.selectors).card := by
  have hartifacts : (∀ a ∈ found, IsArtifact a.2) ↔ ∀ a ∈ found', IsArtifact a.2 :=
    forall_congr' fun a => imp_congr hperm.mem_iff Iff.rfl
  have hdefined : ∀ e, e ∈ c.definitions ++ definedIn found ↔ e ∈ c.definitions ++ definedIn found' :=
    fun e => ((hperm.flatMap_right _).append_left _).mem_iff
  rcases loadAll_cases hc found with ⟨n, hrun, hall, hgathers, hsize⟩ | ⟨⟨err, hrun⟩, hfault⟩
  · have hgathers' := hgathers.congr hdefined
    refine ⟨iff_of_true ⟨n, hrun⟩ ⟨hartifacts.1 hall, hgathers'.separates⟩, ?_⟩
    intro m hm
    have hadded := hgathers'.size_eq_add hc
    obtain rfl : n = m := Except.ok.inj (hrun.symm.trans hm)
    omega
  · have hnone : ¬ ∃ n, (loadAll hash found c).1 = .ok n := by
      rintro ⟨n, hn⟩
      rw [hrun] at hn
      cases hn
    refine ⟨iff_of_false hnone ?_, fun n hn => absurd ⟨n, hn⟩ hnone⟩
    rintro ⟨hall, hclash⟩
    rcases hfault with hfault | hfault
    · exact hfault (hartifacts.2 hall)
    · exact hclash (hfault.mono fun e => (hdefined e).1)

theorem read_of_mem_artifactsOf (hlist : files.list p = .ok es) (hsound : (folder es).Sound) :
    ∀ a ∈ artifactsOf p es, files.read a.1 = .ok a.2 := by
  intro a ha
  obtain ⟨⟨names, content⟩, hmem, rfl⟩ := List.mem_map.1 ha
  exact read_below hlist hsound (List.mem_filter.1 hmem).1

/-- The walk through a folder with these entries: a turn for each folder. -/
def walkThrough (hash : String → Selector) (files : FileTree) (p : Path)
    (es : List (String × FileTree)) (c : ErrorCatalog) : Walk :=
  (Walk.start p c).turns hash files (folders (.folder es))

theorem walkThrough_progress (hash : String → Selector) (hlist : files.list p = .ok es)
    (hsound : (folder es).Sound) (c : ErrorCatalog) :
    (walkThrough hash files p es c).progress =
        (Walk.start p c).progress.loads hash files ((visited p es).map Prod.fst) ∧
      (walkThrough hash files p es c).Ended := by
  have hahead : Ahead files (Walk.start p c).pending (folders (.folder es)) (visited p es) := by
    have h := Ahead.cons hlist hsound .nil
    rwa [List.append_nil, Nat.add_zero] at h
  exact turns_ahead fun _ _ => hahead

/-- **Loading all artifacts below a folder** ends, and what it does.

    * It is a walk with a turn for each folder, after which the walk has ended.
    * No two artifacts have one path, and each is passed on once and nothing else is, or this stops
      at one that cannot be loaded.
    * It succeeds exactly if all are artifacts and no two signatures, of them and of what is in the
      catalog, share a selector.  Then it gives the number of selectors that are new. -/
theorem loadFolder_walk (hc : Consistent hash c) (hlist : files.list p = .ok es)
    (hsound : (folder es).Sound) :
    ∃ w, walkThrough hash files p es c = w ∧ w.Ended ∧
      loadFolder hash files p c = (w.progress.added, w.progress.catalog) ∧
      ((artifactsOf p es).map Prod.fst).Nodup ∧
      ((∃ n, w.progress.added = .ok n ∧
          w.progress.passed.Perm ((artifactsOf p es).map Prod.fst)) ∨
        ∃ err front path later before, w.progress.added = .error err ∧
          w.progress.passed = front ++ [path] ∧
          (front ++ path :: later).Perm ((artifactsOf p es).map Prod.fst) ∧
          loadArtifact hash files path before = (.error err, w.progress.catalog)) ∧
      ((∃ n, w.progress.added = .ok n) ↔ (∀ a ∈ artifactsOf p es, IsArtifact a.2) ∧
        ¬ Clash hash (c.definitions ++ definedIn (artifactsOf p es))) ∧
      ∀ n, w.progress.added = .ok n →
        n = (selectorsOf hash (definedIn (artifactsOf p es)) \ c.selectors).card := by
  obtain ⟨hprogress, hended⟩ := walkThrough_progress hash hlist hsound c
  -- all that follows is known in the order of the visit, and does not depend on it
  have hperm := visited_perm hsound (p := p)
  have hread : ∀ a ∈ visited p es, files.read a.1 = .ok a.2 := fun a ha =>
    read_of_mem_artifactsOf hlist hsound a (hperm.subset ha)
  obtain ⟨hadded, hcatalog⟩ := Progress.loads_eq hash hread (rfl : (Walk.start p c).progress.added = _)
  have hzero : (loadAll hash (visited p es) c).1.map (0 + ·) = (loadAll hash (visited p es) c).1 := by
    simp only [Nat.zero_add]
    cases (loadAll hash (visited p es) c).1 <;> rfl
  rw [← hprogress] at hadded hcatalog
  replace hadded := hadded.trans hzero
  refine ⟨_, rfl, hended, ?_, nodup_artifactsOf hsound p, ?_, ?_⟩
  · rw [loadFolder, artifactsBelow_of_list hlist, hadded, hcatalog]
    rfl
  · have hpaths := hperm.map Prod.fst
    rw [hprogress]
    rcases Progress.loads_passed hash files (rfl : (Walk.start p c).progress.added = _)
      ((visited p es).map Prod.fst) with
      ⟨n, hok, hpassed⟩ | ⟨err, front, path, later, before, herr, hpassed, hsplit, hfault⟩
    · refine .inl ⟨n, hok, ?_⟩
      rw [hpassed]
      exact hpaths
    · refine .inr ⟨err, front, path, later, before, herr, hpassed, ?_, hfault⟩
      rw [← hsplit]
      exact hpaths
  · rw [hadded]
    exact loadAll_cases_of_perm hc hperm

/-! ## A walk -/

/-- A folder: an artifact in a folder of its own, a folder with the name of an artifact, and a file
    with another extension. -/
def compiled : List (String × FileTree) :=
  [("Vault.sol", .folder [("Vault.json", .file (utf8 readable))]), ("copy.json", .folder []),
    ("notes.txt", .file (utf8 unreadable))]

theorem sound_compiled : (folder compiled).Sound :=
  ⟨by decide, ⟨by decide, ⟨by decide, by decide, trivial, trivial⟩, by decide, ⟨by decide, trivial⟩,
    by decide, trivial, trivial⟩⟩

theorem artifactsOf_compiled :
    artifactsOf ⟨"out"⟩ compiled = [(⟨"out/Vault.sol/Vault.json"⟩, utf8 readable)] := by
  have hfiles : filesOf compiled =
      [(["Vault.sol", "Vault.json"], utf8 readable), (["notes.txt"], utf8 unreadable)] := rfl
  have hvault : namesArtifact ["Vault.sol", "Vault.json"] = true := rfl
  have hnotes : namesArtifact ["notes.txt"] = false := rfl
  simp only [artifactsOf, hfiles, List.filter, hvault, hnotes]
  rfl

theorem definedIn_compiled : definedIn (artifactsOf ⟨"out"⟩ compiled) = [paused] := by
  simp only [artifactsOf_compiled, definedIn, List.flatMap_singleton, declaredIn,
    definitionsIn_readable]

theorem not_clash_compiled :
    ¬ Clash leading ((initial leading).definitions ++ definedIn (artifactsOf ⟨"out"⟩ compiled)) := by
  rw [definedIn_compiled, Clash]
  decide

/-- The only artifact is passed on, and its error is new. -/
theorem loadFolder_walk_compiled :
    Consistent leading (initial leading) ∧
      FileTree.list (.folder [("out", .folder compiled)]) ⟨"out"⟩ = .ok compiled ∧
      (folder compiled).Sound ∧
      ∃ w, walkThrough leading (.folder [("out", .folder compiled)]) ⟨"out"⟩ compiled
        (initial leading) = w ∧ w.Ended ∧ w.progress.added = .ok 1 ∧
        w.progress.passed = [⟨"out/Vault.sol/Vault.json"⟩] := by
  have hc := consistent_initial leading_separates
  have hlist : FileTree.list (.folder [("out", .folder compiled)]) ⟨"out"⟩ = .ok compiled := rfl
  obtain ⟨w, hw, hended, -, -, hpassed, hsuccess, hnew⟩ := loadFolder_walk hc hlist sound_compiled
  have hall : ∀ a ∈ artifactsOf ⟨"out"⟩ compiled, IsArtifact a.2 := by
    rw [artifactsOf_compiled, List.forall_mem_singleton]
    exact (definitionsIn_ok_iff _).1 ⟨_, definitionsIn_readable ⟨"out/Vault.sol/Vault.json"⟩⟩
  obtain ⟨n, hn⟩ := hsuccess.2 ⟨hall, not_clash_compiled⟩
  refine ⟨hc, hlist, sound_compiled, w, hw, hended, ?_, ?_⟩
  · rw [hn, hnew n hn, definedIn_compiled]
    rfl
  · rcases hpassed with ⟨m, -, hpaths⟩ | ⟨err, _, _, _, _, herr, -⟩
    · rw [artifactsOf_compiled] at hpaths
      exact List.perm_singleton.1 hpaths
    · rw [hn] at herr
      cases herr

/-! ## What is not loaded -/

/-- Lists that are nested. -/
def nestedLists : Nat → Document
  | 0 => .list []
  | n + 1 => .list [nestedLists n]

theorem depth_nestedLists (n : Nat) : (nestedLists n).depth = n + 1 := by
  induction n with
  | zero => rfl
  | succ n ih =>
    rw [nestedLists, Document.depth, Document.depthItems, Document.depthItems, ih]
    omega

theorem reread_nestedLists (n : Nat) : Json.reread (nestedLists n) = nestedLists n := by
  induction n with
  | zero => rfl
  | succ n ih => rw [nestedLists, Json.reread, Json.rereadItems, Json.rereadItems, ih]

/-- The artifacts of a text are those that are kept. -/
theorem IsArtifact.kept {text : String} (h : IsArtifact (utf8 text)) :
    (Json.parseKept text).isSome := by
  obtain ⟨text', d, hdecode, hkept, -⟩ := h
  obtain rfl := Utf8.utf8_injective (Utf8.utf8_of_decode hdecode)
  rw [hkept]
  rfl

/-- **JSON that is nested too deeply is no artifact**, though it has no interface that could not be
    read. -/
theorem not_isArtifact_nestedLists {n : Nat} (h : Json.depthLimit ≤ n) :
    Json.parse (Json.text (nestedLists n)) = some (nestedLists n) ∧
      (nestedLists n).member? "abi" = none ∧ ¬ IsArtifact (utf8 (Json.text (nestedLists n))) := by
  have hparse : Json.parse (Json.text (nestedLists n)) = some (nestedLists n) := by
    rw [Json.parse_text, reread_nestedLists]
  refine ⟨hparse, by cases n <;> rfl, fun hartifact => ?_⟩
  have hkept := hartifact.kept
  have hdeep : ¬ (nestedLists n).depth ≤ Json.depthLimit := by
    rw [depth_nestedLists]
    omega
  simp [Json.parseKept, hparse, hdeep] at hkept

/-- A file that is no artifact changes nothing. -/
theorem loadArtifact_of_not_isArtifact (hash : String → Selector) {path : Path} {content : Bytes}
    (hread : files.read path = .ok content) (h : ¬ IsArtifact content) (c : ErrorCatalog) :
    ∃ err, loadArtifact hash files path c = (.error err, c) := by
  rw [loadArtifact_of_read hash hread, loadContent]
  cases hdefinitions : definitionsIn path content with
  | ok defs => exact absurd ((definitionsIn_ok_iff path).1 ⟨defs, hdefinitions⟩) h
  | error err => exact ⟨err, rfl⟩

theorem not_isArtifact_unreadable : ¬ IsArtifact (utf8 unreadable) := by
  rw [← definitionsIn_ok_iff ⟨"a.json"⟩, definitionsIn_unreadable]
  rintro ⟨defs, ⟨⟩⟩

/-- What is in a folder: a file that is no artifact, and an artifact behind it. -/
def spoiled : List (String × FileTree) :=
  [("a.json", .file (utf8 unreadable)), ("b.json", .file (utf8 readable))]

/-- The folder, beside JSON that is nested too deeply. -/
def spoiledTree : FileTree :=
  .folder [("out", .folder spoiled), ("deep.json", .file (utf8 (Json.text (nestedLists 127))))]

theorem visited_spoiled : visited ⟨"out"⟩ spoiled =
    [(⟨"out/a.json"⟩, utf8 unreadable), (⟨"out/b.json"⟩, utf8 readable)] := by
  have hlist : spoiledTree.list ⟨"out"⟩ = .ok ([("a.json", utf8 unreadable),
    ("b.json", utf8 readable)].map fun f => (f.1, .file f.2)) := rfl
  have hsorted := artifactsBelow_of_sorted hlist (List.pairwise_pair.2 (by decide))
  exact Except.ok.inj ((artifactsBelow_of_list hlist).symm.trans hsorted)

/-- **A walk need not reach all artifacts**: it stops at the first one that cannot be loaded.  JSON
    that is nested too deeply is such a file, though it has no interface. -/
theorem walk_unfinished :
    (∃ w, walkThrough leading spoiledTree ⟨"out"⟩ spoiled (initial leading) = w ∧ w.Ended ∧
      w.progress.passed = [⟨"out/a.json"⟩] ∧
      ⟨"out/b.json"⟩ ∈ (artifactsOf ⟨"out"⟩ spoiled).map Prod.fst) ∧
    Json.parse (Json.text (nestedLists 127)) = some (nestedLists 127) ∧
    (nestedLists 127).member? "abi" = none ∧
    ∃ err, loadArtifact leading spoiledTree ⟨"deep.json"⟩ (initial leading) =
      (.error err, initial leading) := by
  have hlist : spoiledTree.list ⟨"out"⟩ = .ok spoiled := rfl
  have hsound : (folder spoiled).Sound := ⟨by decide, by decide, trivial, by decide, trivial, trivial⟩
  have hread : spoiledTree.read ⟨"out/a.json"⟩ = .ok (utf8 unreadable) := rfl
  obtain ⟨hprogress, hended⟩ := walkThrough_progress leading hlist hsound (initial leading)
  obtain ⟨err, hfirst⟩ := loadArtifact_of_not_isArtifact leading hread not_isArtifact_unreadable
    (initial leading)
  obtain ⟨hparse, hmember, hdeep⟩ := not_isArtifact_nestedLists (Nat.le_refl Json.depthLimit)
  refine ⟨⟨_, rfl, hended, ?_, ?_⟩, hparse, hmember, ?_⟩
  · rw [hprogress, visited_spoiled, List.map_cons, Progress.loads_cons,
      Progress.load_error rfl hfirst, Progress.loads_failed rfl]
    rfl
  · have hperm := (visited_perm (p := ⟨"out"⟩) hsound).map Prod.fst
    rw [visited_spoiled] at hperm
    exact hperm.subset (by simp)
  · exact loadArtifact_of_not_isArtifact leading rfl hdeep (initial leading)

end PacketRelay.ErrorCatalog
