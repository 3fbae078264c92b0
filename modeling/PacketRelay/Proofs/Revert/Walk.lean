/-
  Loading all artifacts below a folder as a walk.

  A `Walk` keeps the folders that have still to be visited.  In one turn it takes the last of them,
  passes the artifacts in it on to be loaded, in the order of their names, and notes the folders in
  it.

  * `artifactsOf` are the artifacts in a tree, the files with the extension: `mem_artifactsOf`; a walk
    meets them in the order of `visited`: `visited_perm`;
  * `turn_ahead`: what one turn does to what is ahead of a walk;
  * `turns_ahead`: after as many turns as there are folders nothing is, and all artifacts that were
    ahead have been passed on.
-/
import PacketRelay.Proofs.Files.Visit
import PacketRelay.Revert.Artifact

namespace PacketRelay.ErrorCatalog

open FileTree

variable {hash : String → Selector} {files : FileTree} {c c' : ErrorCatalog} {p : Path}
  {es : List (String × FileTree)}

/-! ## The artifacts in a tree -/

/-- Whether the name of a file, the last one of those that lead to it, has the extension of
    artifacts. -/
def namesArtifact (names : List String) : Bool :=
  (names.getLast?.bind fun name => Path.extension? ⟨name⟩) == some "json"

/-- The artifacts below a folder with their paths. -/
def artifactsOf (folder : Path) (es : List (String × FileTree)) : List (Path × Bytes) :=
  ((filesOf es).filter fun (names, _) => namesArtifact names).map fun (names, content) =>
    (folder.below names, content)

/-- **Artifacts** are the files below the folder whose name has the extension. -/
theorem mem_artifactsOf (hsound : (folder es).Sound) {artifact : Path × Bytes} :
    artifact ∈ artifactsOf p es ↔ ∃ names name, Path.extension? ⟨name⟩ = some "json" ∧
      (folder es).node? (names ++ [name]) = some (.file artifact.2) ∧
      artifact.1 = (p.below names).join ⟨name⟩ := by
  rw [artifactsOf, List.mem_map]
  constructor
  · rintro ⟨⟨all, content⟩, hmem, rfl⟩
    obtain ⟨hfile, hname⟩ := List.mem_filter.1 hmem
    obtain ⟨name, t, rest, rfl, -⟩ := mem_filesOf.1 hfile
    obtain ⟨names, last, hall⟩ : ∃ names last, name :: rest = names ++ [last] :=
      ⟨_, _, (List.dropLast_concat_getLast (List.cons_ne_nil name rest)).symm⟩
    rw [hall] at hfile hname ⊢
    refine ⟨names, last, ?_, (mem_files_iff hsound).1 hfile, Path.below_concat p names last⟩
    simpa [namesArtifact] using hname
  · rintro ⟨names, name, hname, hnode, hpath⟩
    refine ⟨(names ++ [name], artifact.2), List.mem_filter.2 ⟨?_, ?_⟩, ?_⟩
    · exact (mem_files_iff hsound).2 hnode
    · simp [namesArtifact, hname]
    · exact Prod.ext ((Path.below_concat p names name).trans hpath.symm) rfl

/-- The artifacts below a folder in the order of the visit. -/
def visited (folder : Path) (es : List (String × FileTree)) : List (Path × Bytes) :=
  ((visitOrder (visitEntries es)).map fun (names, content) => (folder.below names, content)).filter
    fun (p, _) => p.extension? == some "json"

theorem artifactsBelow_of_list (h : files.list p = .ok es) :
    artifactsBelow files p = .ok (visited p es) := by
  rw [artifactsBelow, h]
  rfl

theorem extension?_below {names : List String} (hne : names ≠ [])
    (h : ∀ n ∈ names, Path.IsStep n) :
    ((p.below names).extension? == some "json") = namesArtifact names := by
  obtain ⟨front, name, rfl⟩ : ∃ front name, names = front ++ [name] :=
    ⟨_, _, (List.dropLast_concat_getLast hne).symm⟩
  have hname := h name (by simp)
  rw [Path.below_concat, Path.extension?_join hname, namesArtifact, List.getLast?_concat]
  rfl

/-- **A visit finds every artifact once.** -/
theorem visited_perm (hsound : (folder es).Sound) : (visited p es).Perm (artifactsOf p es) := by
  have hperm := visitOrder_perm es
  have hfilter : ∀ file ∈ visitOrder (visitEntries es),
      ((p.below file.1).extension? == some "json") = namesArtifact file.1 := by
    rintro ⟨names, content⟩ hmem
    have hfile : (names, content) ∈ (folder es).files := hperm.subset hmem
    refine extension?_below ?_ fun n hn => (isName_of_mem_files hsound hfile n hn).toIsStep
    obtain ⟨name, t, rest, rfl, -⟩ := mem_filesOf.1 hfile
    exact List.cons_ne_nil name rest
  rw [visited, List.filter_map]
  refine List.Perm.map _ ?_
  exact (List.Perm.of_eq (List.filter_congr hfilter)).trans (hperm.filter _)

/-! ## Their order -/

/-- Entries in the order of their names. -/
def sorted (es : List (String × FileTree)) : List (String × FileTree) :=
  es.mergeSort fun a b => !decide (b.1 < a.1)

/-- The artifact that an entry of a folder is. -/
def own (folder : Path) : String × FileTree → Option (Path × Bytes)
  | (name, .file content) =>
    if (folder.join ⟨name⟩).extension? == some "json" then some (folder.join ⟨name⟩, content)
    else none
  | (_, .folder _) => none

/-- The artifacts below an entry of a folder. -/
def deeper (folder : Path) : String × FileTree → List (Path × Bytes)
  | (_, .file _) => []
  | (name, .folder es) => visited (folder.join ⟨name⟩) es

/-- The path of an entry that is a folder. -/
def subfolder (folder : Path) : String × FileTree → Option Path
  | (_, .file _) => none
  | (name, .folder _) => some (folder.join ⟨name⟩)

theorem visitOrder_eq (es : List (String × FileTree)) :
    visitOrder (visitEntries es) =
      (sorted es).filterMap (fun
        | (name, .file content) => some ([name], content)
        | (_, .folder _) => none) ++
      (sorted es).reverse.flatMap fun
        | (_, .file _) => []
        | (name, .folder es) => under name (visitOrder (visitEntries es)) := by
  have hsorted : (visitEntries es).mergeSort (fun a b => !decide (b.1 < a.1)) =
      (sorted es).map (Prod.map id visit) := by
    rw [visitEntries_eq_map, sorted]
    refine (List.map_mergeSort ?_).symm
    exact fun _ _ _ _ => rfl
  rw [visitOrder, hsorted, List.filterMap_map, ← List.map_reverse, List.flatMap_map]
  congr 1
  · refine List.filterMap_congr ?_
    rintro ⟨name, t⟩ -
    cases t <;> rfl
  · refine List.flatMap_congr ?_
    rintro ⟨name, t⟩ -
    cases t <;> rfl

/-- A visit meets the artifacts of a folder first, then those below the folders in it. -/
theorem visited_eq (p : Path) (es : List (String × FileTree)) :
    visited p es = (sorted es).filterMap (own p) ++ (sorted es).reverse.flatMap (deeper p) := by
  rw [visited, visitOrder_eq, List.map_append, List.filter_append]
  congr 1
  · rw [List.map_filterMap, List.filter_filterMap]
    refine List.filterMap_congr ?_
    rintro ⟨name, t⟩ -
    cases t with
    | file content =>
      change Option.filter _ (some (p.join ⟨name⟩, content)) = _
      rw [Option.filter_some, own]
    | folder es => rfl
  · rw [List.map_flatMap, List.filter_flatMap]
    refine List.flatMap_congr ?_
    rintro ⟨name, t⟩ -
    cases t with
    | file content => rfl
    | folder es =>
      change List.filter _ ((under name _).map _) = _
      rw [under, List.map_map]
      rfl

/-! ## Walks -/

/-- What has been loaded: the paths passed on, how many definitions are new or the error that has
    stopped this, and the catalog. -/
structure Progress where
  passed : List Path
  added : Except RevertError Nat
  catalog : ErrorCatalog

/-- A walk: the folders still to be visited, the last one first, and what has been loaded. -/
structure Walk where
  pending : List Path
  progress : Progress

section
variable (hash : String → Selector) (files : FileTree)

/-- Passes an artifact on to be loaded, unless an error has stopped this. -/
def Progress.load (g : Progress) (path : Path) : Progress :=
  match g.added with
  | .error _ => g
  | .ok n =>
    let (r, c) := loadArtifact hash files path g.catalog
    ⟨g.passed ++ [path], r.map (n + ·), c⟩

/-- Whether a path leads to a folder. -/
def isFolder (p : Path) : Bool := (files.find p).toOption.any (· matches .folder _)

namespace Walk

/-- Meets an entry of a folder: a folder is noted, an artifact is loaded. -/
def meet (folder : Path) (w : Walk) (name : String) : Walk :=
  match w.progress.added with
  | .error _ => w
  | .ok _ =>
    let path := folder.join ⟨name⟩
    if isFolder files path then { w with pending := path :: w.pending }
    else if path.extension? == some "json" then
      { w with progress := w.progress.load hash files path }
    else w

/-- Visits the last of the folders. -/
def turn (w : Walk) : Walk :=
  match w.progress.added, w.pending with
  | .ok _, path :: rest => match files.list path with
    | .ok es =>
      ((es.map Prod.fst).mergeSort fun a b => !decide (b < a)).foldl (meet hash files path)
        ⟨rest, w.progress⟩
    | .error fault => ⟨rest, { w.progress with added := .error (.file fault) }⟩
  | _, _ => w

/-- Visits folders one after the other. -/
def turns : Nat → Walk → Walk
  | 0, w => w
  | n + 1, w => turns n (turn hash files w)

end Walk

end

namespace Walk

/-- A walk through a folder before its first turn. -/
def start (folder : Path) (c : ErrorCatalog) : Walk := ⟨[folder], ⟨[], .ok 0, c⟩⟩

/-- A walk has ended when no folder is left or an error has stopped it. -/
def Ended (w : Walk) : Prop := w.pending = [] ∨ ∃ err, w.progress.added = .error err

end Walk

variable {g : Progress} {w : Walk}

/-! ## One folder -/

/-- Artifacts that are loaded one after the other. -/
def Progress.loads (hash : String → Selector) (files : FileTree) (g : Progress)
    (paths : List Path) : Progress :=
  paths.foldl (Progress.load hash files) g

section
variable {err : RevertError}

theorem Progress.load_failed (h : g.added = .error err) (path : Path) :
    g.load hash files path = g := by
  rw [load, h]

theorem Progress.loads_failed (h : g.added = .error err) (paths : List Path) :
    g.loads hash files paths = g :=
  List.foldl_fixed' (load_failed h) paths

theorem Progress.loads_append (g : Progress) (paths paths' : List Path) :
    g.loads hash files (paths ++ paths') = (g.loads hash files paths).loads hash files paths' :=
  List.foldl_append

namespace Walk

theorem meet_failed (h : w.progress.added = .error err) (name : String) :
    w.meet hash files p name = w := by
  rw [meet, h]

theorem meets_failed (h : w.progress.added = .error err) (names : List String) :
    names.foldl (meet hash files p) w = w :=
  List.foldl_fixed' (meet_failed h) names

/-- **A walk that has ended** goes no further. -/
theorem turn_ended (h : w.Ended) : w.turn hash files = w := by
  rcases h with h | ⟨err, h⟩
  · unfold turn
    rw [h]
    cases w.progress.added <;> rfl
  · rw [turn, h]

theorem turns_ended (h : w.Ended) (n : Nat) : w.turns hash files n = w := by
  induction n with
  | zero => rfl
  | succ n ih => rw [turns, turn_ended h, ih]

end Walk

end

namespace Walk

section
variable {name : String} {n : Nat} (hlist : files.list p = .ok es) (hsound : (folder es).Sound)
include hlist hsound

theorem meet_folder {es' : List (String × FileTree)} (hmem : (name, folder es') ∈ es)
    (hw : w.progress.added = .ok n) :
    w.meet hash files p name = ⟨p.join ⟨name⟩ :: w.pending, w.progress⟩ := by
  have hfind := find_join hlist hsound.1 hmem (hsound.2.of_mem hmem).1
  have hfolder : isFolder files (p.join ⟨name⟩) = true := by
    rw [isFolder, hfind]
    rfl
  rw [meet, hw]
  exact if_pos hfolder

theorem meet_file {content : Bytes} (hmem : (name, .file content) ∈ es)
    (hw : w.progress.added = .ok n) :
    w.meet hash files p name = ⟨w.pending,
      w.progress.loads hash files (((own p (name, .file content)).map Prod.fst).toList)⟩ := by
  have hfind := find_join hlist hsound.1 hmem (hsound.2.of_mem hmem).1
  have hfolder : ¬ isFolder files (p.join ⟨name⟩) = true := by
    rw [isFolder, hfind]
    exact Bool.false_ne_true
  rw [meet, hw, own]
  simp only [if_neg hfolder]
  split
  · rfl
  · rfl

/-- **Entries of a folder**: the artifacts among them are loaded, the folders are noted. -/
theorem meets_entries {cs : List (String × FileTree)} (hcs : ∀ entry ∈ cs, entry ∈ es) (w : Walk) :
    ((cs.map Prod.fst).foldl (meet hash files p) w).progress =
        w.progress.loads hash files ((cs.filterMap (own p)).map Prod.fst) ∧
      ∀ n, ((cs.map Prod.fst).foldl (meet hash files p) w).progress.added = .ok n →
        ((cs.map Prod.fst).foldl (meet hash files p) w).pending =
          (cs.filterMap (subfolder p)).reverse ++ w.pending := by
  -- on the entries that are left; the whole folder stays fixed, in which each of them is found
  induction cs generalizing w with
  | nil => exact ⟨rfl, fun _ _ => rfl⟩
  | cons entry cs ih =>
    obtain ⟨hentry, hrest⟩ := List.forall_mem_cons.1 hcs
    cases hw : w.progress.added with
    | error err =>
      rw [meets_failed hw, Progress.loads_failed hw]
      refine ⟨rfl, fun n hn => ?_⟩
      rw [hw] at hn
      cases hn
    | ok n =>
      obtain ⟨name, t⟩ := entry
      rw [List.map_cons, List.foldl_cons]
      cases t with
      | folder es' =>
        rw [meet_folder hlist hsound hentry hw]
        obtain ⟨hprogress, hpending⟩ := ih hrest ⟨p.join ⟨name⟩ :: w.pending, w.progress⟩
        refine ⟨hprogress, fun m hm => ?_⟩
        rw [hpending m hm]
        simp [subfolder]
      | file content =>
        rw [meet_file hlist hsound hentry hw]
        obtain ⟨hprogress, hpending⟩ := ih hrest ⟨w.pending, w.progress.loads hash files _⟩
        refine ⟨hprogress.trans ?_, fun m hm => hpending m hm⟩
        rw [← Progress.loads_append]
        congr 1
        cases h : own p (name, file content) <;> simp [h]

/-- **A turn** loads the artifacts of a folder and notes the folders in it. -/
theorem turn_folder (hash : String → Selector) {rest : List Path} (hpending : w.pending = p :: rest)
    (hw : w.progress.added = .ok n) :
    (w.turn hash files).progress =
        w.progress.loads hash files (((sorted es).filterMap (own p)).map Prod.fst) ∧
      ∀ n, (w.turn hash files).progress.added = .ok n →
        (w.turn hash files).pending = (sorted es).reverse.filterMap (subfolder p) ++ rest := by
  have hnames : (es.map Prod.fst).mergeSort (fun a b => !decide (b < a)) =
      (sorted es).map Prod.fst := by
    refine (List.map_mergeSort ?_).symm
    exact fun _ _ _ _ => rfl
  have hturn : w.turn hash files =
      ((sorted es).map Prod.fst).foldl (meet hash files p) ⟨rest, w.progress⟩ := by
    unfold turn
    rw [hw, hpending]
    simp only [hlist, hnames]
  have hsorted : ∀ entry ∈ sorted es, entry ∈ es := fun entry h => List.mem_mergeSort.1 h
  rw [hturn, List.filterMap_reverse]
  exact meets_entries hlist hsound hsorted ⟨rest, w.progress⟩

end

end Walk

/-! ## What is ahead of a walk -/

/-- The folders still to be visited, how many folders there are to visit then, and the artifacts that
    will be met. -/
inductive Ahead (files : FileTree) : List Path → Nat → List (Path × Bytes) → Prop
  | nil : Ahead files [] 0 []
  | cons {p : Path} {es : List (String × FileTree)} {rest : List Path} {n : Nat}
      {found : List (Path × Bytes)} : files.list p = .ok es → (folder es).Sound →
      Ahead files rest n found →
      Ahead files (p :: rest) (folders (.folder es) + n) (visited p es ++ found)

/-- The folders among entries are ahead once they have been noted. -/
theorem Ahead.entries {rest : List Path} {n : Nat} {found : List (Path × Bytes)}
    (hlist : files.list p = .ok es) (hsound : (folder es).Sound) (h : Ahead files rest n found)
    {cs : List (String × FileTree)} (hcs : ∀ entry ∈ cs, entry ∈ es) :
    Ahead files (cs.filterMap (subfolder p) ++ rest) (foldersOf cs + n)
      (cs.flatMap (deeper p) ++ found) := by
  induction cs with
  | nil => simpa [foldersOf] using h
  | cons entry cs ih =>
    obtain ⟨hentry, hrest⟩ := List.forall_mem_cons.1 hcs
    have hahead := ih hrest
    obtain ⟨name, t⟩ := entry
    cases t with
    | file content =>
      rw [foldersOf, folders, Nat.zero_add]
      exact hahead
    | folder es' =>
      obtain ⟨hname, ht⟩ := hsound.2.of_mem hentry
      have hlist' := list_eq_ok.2 (find_join hlist hsound.1 hentry hname)
      rw [foldersOf, Nat.add_assoc, List.flatMap_cons, List.append_assoc]
      exact .cons hlist' ht hahead

/-- **One turn**: the first folder is no longer ahead, but what is in it is. -/
theorem turn_ahead (hash : String → Selector) {n m : Nat} {found : List (Path × Bytes)}
    (hw : w.progress.added = .ok m) (h : Ahead files w.pending (n + 1) found) :
    ∃ loaded left, found = loaded ++ left ∧
      (w.turn hash files).progress = w.progress.loads hash files (loaded.map Prod.fst) ∧
      ∀ m, (w.turn hash files).progress.added = .ok m →
        Ahead files (w.turn hash files).pending n left := by
  generalize hpending : w.pending = pending at h
  generalize hcount : n + 1 = count at h
  cases h with
  | nil => cases hcount
  | @cons p es rest n' found hlist hsound hrest =>
    obtain ⟨hprogress, hnoted⟩ := w.turn_folder hlist hsound hash hpending hw
    refine ⟨_, (sorted es).reverse.flatMap (deeper p) ++ found, ?_, hprogress, ?_⟩
    · rw [visited_eq, List.append_assoc]
    · intro m hm
      have hperm : (sorted es).reverse.Perm es :=
        (List.reverse_perm _).trans (List.mergeSort_perm es _)
      have hn : n = foldersOf (sorted es).reverse + n' := by
        rw [foldersOf_perm hperm]
        rw [folders] at hcount
        omega
      rw [hnoted m hm, hn]
      exact hrest.entries hlist hsound fun entry h => hperm.subset h

/-- **As many turns as there are folders** end a walk. -/
theorem turns_ahead {n : Nat} {w : Walk} {found : List (Path × Bytes)}
    (h : ∀ m, w.progress.added = .ok m → Ahead files w.pending n found) :
    (w.turns hash files n).progress = w.progress.loads hash files (found.map Prod.fst) ∧
      (w.turns hash files n).Ended := by
  -- on the turns: what is ahead shrinks by a folder with each, and an error ends it at once
  induction n generalizing w found with
  | zero =>
    cases hw : w.progress.added with
    | error err => exact ⟨(Progress.loads_failed hw _).symm, .inr ⟨err, hw⟩⟩
    | ok m =>
      have hahead := h m hw
      generalize hpending : w.pending = pending at hahead
      generalize hcount : 0 = count at hahead
      cases hahead with
      | nil => exact ⟨rfl, .inl hpending⟩
      | cons _ _ _ =>
        rw [folders] at hcount
        omega
  | succ n ih =>
    cases hw : w.progress.added with
    | error err =>
      rw [Walk.turns_ended (.inr ⟨err, hw⟩), Progress.loads_failed hw]
      exact ⟨rfl, .inr ⟨err, hw⟩⟩
    | ok m =>
      obtain ⟨loaded, left, rfl, hprogress, hleft⟩ := turn_ahead hash hw (h m hw)
      obtain ⟨hturns, hended⟩ := ih hleft
      refine ⟨?_, hended⟩
      rw [Walk.turns, hturns, hprogress, List.map_append, Progress.loads_append]

end PacketRelay.ErrorCatalog
