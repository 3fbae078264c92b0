/-
  The files below a folder.

  * `Path.below` is the path of what stands at the end of names; names with different ends have
    different paths: `below_injective`;
  * `Sound` are the trees that can be on a disk, and `mem_files_iff` says that `FileTree.files` are
    the files in them;
  * `find_join`: what is in a folder that can be listed is found at its path;
  * `visitOrder_perm`: a visit meets every file once.
-/
import PacketRelay.Revert.Artifact
import PacketRelay.Proofs.Files.Extension
import Mathlib.Data.List.Nodup
import Mathlib.Data.List.Perm.Basic

namespace PacketRelay

/-! ## Paths of what is below a folder -/

namespace Path

variable {p : Path} {n : String} {names names' : List String}

theorem isName_iff {n : String} : IsName n ↔ (n ≠ "" ∧ n ≠ "." ∧ n ≠ ".." ∧ '/' ∉ n.toList) ∧
    '\x00' ∉ n.toList ∧ (utf8 n).length ≤ FileTree.nameLimit :=
  ⟨fun h => ⟨⟨h.nonempty, h.noDot, h.noDots, h.noSlash⟩, h.noNul, h.short⟩,
    fun ⟨⟨hnonempty, hdot, hdots, hslash⟩, hnul, hshort⟩ =>
      ⟨⟨hnonempty, hdot, hdots, hslash⟩, hnul, hshort⟩⟩

instance : DecidablePred IsName := fun _ => decidable_of_iff _ isName_iff.symm

/-- What stands after names in a folder. -/
def below (p : Path) (names : List String) : Path := names.foldl (fun p name => p.join ⟨name⟩) p

theorem way_below (h : ∀ n ∈ names, IsStep n) : (p.below names).way = p.way ++ names := by
  induction names generalizing p with
  | nil => exact (List.append_nil _).symm
  | cons n names ih =>
    obtain ⟨hn, hrest⟩ := List.forall_mem_cons.1 h
    rw [below, List.foldl_cons, ← below, ih hrest, way_join hn, List.append_assoc]
    rfl

/-- **Different names lead to different paths.** -/
theorem below_injective (h : ∀ n ∈ names, IsStep n) (h' : ∀ n ∈ names', IsStep n)
    (hsame : p.below names = p.below names') : names = names' := by
  have hway := congrArg way hsame
  rw [way_below h, way_below h'] at hway
  exact List.append_cancel_left hway

theorem below_concat (p : Path) (names : List String) (n : String) :
    p.below (names ++ [n]) = (p.below names).join ⟨n⟩ :=
  List.foldl_concat ..

/-- A name has the same extension wherever it stands. -/
theorem extension?_join (hn : IsStep n) : (p.join ⟨n⟩).extension? = extension? ⟨n⟩ := by
  obtain ⟨front, hfront, htext⟩ := exists_front p
  have hdot : n.toList ≠ ['.'] := fun e => hn.noDot (String.toList_injective e)
  have hne : n.toList ≠ [] := by simpa using hn.nonempty
  have hends : EndsIn (p.join ⟨n⟩) front n.toList :=
    ⟨htext n hn.noSlash, hfront, hn.noSlash, hne, hdot⟩
  have halone : EndsIn ⟨n⟩ [] n.toList := ⟨rfl, by simp, hn.noSlash, hne, hdot⟩
  rw [extension?, extension?, hends.fileName?, halone.fileName?]

end Path

namespace FileTree

/-! ## Trees on a disk -/

mutual

/-- A tree as it can be on a disk: what is in a folder has names, and no two of them are the same. -/
def Sound : FileTree → Prop
  | file _ => True
  | folder entries => (entries.map Prod.fst).Nodup ∧ AllSound entries

/-- All entries have names, and what these stand for can be on a disk. -/
def AllSound : List (String × FileTree) → Prop
  | [] => True
  | (name, t) :: rest => Path.IsName name ∧ Sound t ∧ AllSound rest

end

variable {es : List (String × FileTree)} {name : String} {t : FileTree} {p : Path}

theorem AllSound.of_mem (h : AllSound es) (hmem : (name, t) ∈ es) : Path.IsName name ∧ t.Sound := by
  induction es with
  | nil => cases hmem
  | cons entry es ih =>
    obtain ⟨hname, ht, hrest⟩ := h
    rcases List.mem_cons.1 hmem with rfl | hmem
    · exact ⟨hname, ht⟩
    · exact ih hrest hmem

theorem mem_filesOf {names : List String} {b : Bytes} : (names, b) ∈ filesOf es ↔
    ∃ name t rest, names = name :: rest ∧ (name, t) ∈ es ∧ (rest, b) ∈ t.files := by
  induction es with
  | nil => simp [filesOf]
  | cons entry es ih =>
    obtain ⟨name, t⟩ := entry
    rw [filesOf, List.mem_append, ih]
    constructor
    · rintro (h | ⟨name', t', rest, rfl, hmem, hfile⟩)
      · obtain ⟨⟨rest, b'⟩, hfile, heq⟩ := List.mem_map.1 h
        obtain ⟨rfl, rfl⟩ := Prod.mk.inj heq
        exact ⟨name, t, rest, rfl, List.mem_cons_self, hfile⟩
      · exact ⟨name', t', rest, rfl, List.mem_cons_of_mem _ hmem, hfile⟩
    · rintro ⟨name', t', rest, rfl, hmem, hfile⟩
      rcases List.mem_cons.1 hmem with heq | hmem
      · obtain ⟨rfl, rfl⟩ := Prod.mk.inj heq
        exact .inl (List.mem_map.2 ⟨(rest, b), hfile, rfl⟩)
      · exact .inr ⟨name', t', rest, rfl, hmem, hfile⟩

/-- **The files of a tree** are what its names lead to. -/
theorem mem_files_iff {names : List String} {b : Bytes} : ∀ {t : FileTree}, t.Sound →
    ((names, b) ∈ t.files ↔ t.node? names = some (file b)) := by
  induction names with
  | nil =>
    intro t _
    cases t with
    | file c => simp [files, eq_comm]
    | folder es =>
      rw [files, mem_filesOf, node?_nil]
      simp
  | cons name rest ih =>
    intro t ht
    cases t with
    | file c => simp [files]
    | folder es =>
      obtain ⟨hnodup, hall⟩ := ht
      rw [files, mem_filesOf, node?_folder_cons]
      constructor
      · rintro ⟨name', t, rest', heq, hmem, hfile⟩
        obtain ⟨rfl, rfl⟩ := List.cons.inj heq
        rw [lookup_of_mem hnodup hmem]
        exact (ih (hall.of_mem hmem).2).1 hfile
      · intro h
        obtain ⟨t, hlookup, hnode⟩ := Option.bind_eq_some_iff.1 h
        have hmem := mem_of_lookup hlookup
        exact ⟨name, t, rest, rfl, hmem, (ih (hall.of_mem hmem).2).2 hnode⟩

/-! ## Folders and their paths -/

section
variable {files : FileTree}

theorem find_eq_ok : files.find p = .ok t ↔
    ∃ names, files.resolve p = .ok names ∧ files.node? names = some t := by
  unfold find
  cases files.resolve p with
  | error fault =>
    constructor
    · intro h
      cases h
    · rintro ⟨names, h, -⟩
      cases h
  | ok names =>
    simp only [bind, Except.bind]
    cases hnode : files.node? names with
    | none => simp [throw, throwThe, MonadExceptOf.throw, hnode]
    | some u => simp [pure, Except.pure, hnode]

theorem list_eq_ok : files.list p = .ok es ↔ files.find p = .ok (folder es) := by
  unfold FileTree.list
  cases files.find p with
  | error fault => simp [bind, Except.bind]
  | ok t =>
    cases t with
    | file c => simp [bind, Except.bind, throw, throwThe, MonadExceptOf.throw]
    | folder es' => simp [bind, Except.bind, pure, Except.pure]

theorem read_eq_ok {content : Bytes} :
    files.read p = .ok content ↔ files.find p = .ok (file content) := by
  unfold FileTree.read
  cases files.find p with
  | error fault => simp [bind, Except.bind]
  | ok t =>
    cases t with
    | file c => simp [bind, Except.bind, pure, Except.pure]
    | folder es => simp [bind, Except.bind, throw, throwThe, MonadExceptOf.throw]

/-- A path that leads to a folder leads to its files as well. -/
theorem locate_of_resolve {dir : List String} (h : files.resolve p = .ok dir)
    (hdir : files.seen dir = some .folder) : files.locate p = .ok dir := by
  unfold resolve at h
  split_ifs at h with hnul hempty
  refine locate_eq_ok.2 ⟨Bool.eq_false_iff.2 hnul, ?_, hdir⟩
  rcases p.steps_eq_way with hway | hway
  · rwa [hway] at h
  · -- an idle step at the end leads nowhere else
    rw [hway, follow_append] at h
    cases hfollow : files.follow [] p.way with
    | error fault =>
      rw [hfollow] at h
      cases h
    | ok dir' =>
      rw [hfollow] at h
      have hidle := follow_ok_cons h
      rw [move_idle (.inl rfl)] at hidle
      exact hidle

/-- **What is in a folder is found at its path.** -/
theorem find_join (h : files.list p = .ok es) (hnodup : (es.map Prod.fst).Nodup)
    (hmem : (name, t) ∈ es) (hname : Path.IsName name) : files.find (p.join ⟨name⟩) = .ok t := by
  obtain ⟨dir, hresolve, hdir⟩ := find_eq_ok.1 (list_eq_ok.1 h)
  have hlocate := locate_of_resolve hresolve (seen_eq_folder.2 ⟨es, hdir⟩)
  refine find_eq_ok.2 ⟨dir ++ [name], ?_, ?_⟩
  · rw [resolve_join hname, hlocate]
    rfl
  · rw [node?_append, hdir, Option.bind_some, node?_folder_cons, lookup_of_mem hnodup hmem]
    exact node?_nil t

end

/-! ## The order of a visit -/

theorem visitEntries_eq_map (es : List (String × FileTree)) :
    visitEntries es = es.map (Prod.map id visit) := by
  induction es with
  | nil => rfl
  | cons entry es ih =>
    rw [visitEntries, ih, List.map_cons]
    rfl

/-- The files that a visit finds. -/
def Visited.files : Visited → List (List String × Bytes)
  | file content => [([], content)]
  | folder files => files

/-- Files with a name put before the names that lead to them. -/
def under (name : String) (fs : List (List String × Bytes)) : List (List String × Bytes) :=
  fs.map fun (names, content) => (name :: names, content)

/-- Sorting and visiting the folders last changes the order only. -/
theorem visitOrder_perm_flatMap (entries : List (String × Visited)) :
    (visitOrder entries).Perm (entries.flatMap fun (name, v) => under name v.files) := by
  simp only [visitOrder, List.filterMap_eq_flatMap_toList]
  refine (((List.reverse_perm _).flatMap fun _ _ => .refl _).append_left _).trans ?_
  refine (List.flatMap_append_perm _ _ _).trans ?_
  refine (List.mergeSort_perm entries _).flatMap ?_
  rintro ⟨name, v⟩ -
  cases v with
  | file content => exact .refl _
  | folder files => exact .refl _

mutual

theorem files_visit : ∀ t : FileTree, (visit t).files.Perm t.files
  | file _ => .refl _
  | folder es => (visitOrder_perm_flatMap _).trans (files_visitEntries es)

theorem files_visitEntries : ∀ es : List (String × FileTree),
    ((visitEntries es).flatMap fun (name, v) => under name v.files).Perm (filesOf es)
  | [] => .refl _
  | (_, t) :: rest => ((files_visit t).map _).append (files_visitEntries rest)

end

/-- **A visit meets every file once.** -/
theorem visitOrder_perm (es : List (String × FileTree)) :
    (visitOrder (visitEntries es)).Perm (filesOf es) :=
  (visitOrder_perm_flatMap _).trans (files_visitEntries es)

theorem map_fst_under (name : String) (fs : List (List String × Bytes)) :
    (under name fs).map Prod.fst = (fs.map Prod.fst).map (name :: ·) := by
  rw [under, List.map_map, List.map_map]
  rfl

mutual

/-- No names lead to two files. -/
theorem nodup_files : ∀ t : FileTree, t.Sound → (t.files.map Prod.fst).Nodup
  | file _, _ => List.nodup_singleton _
  | folder es, h => nodup_filesOf es h.1 h.2

theorem nodup_filesOf : ∀ es : List (String × FileTree), (es.map Prod.fst).Nodup → AllSound es →
    ((filesOf es).map Prod.fst).Nodup
  | [], _, _ => List.nodup_nil
  | (name, t) :: rest, hnodup, hall => by
    obtain ⟨hname, ht, hrest⟩ := hall
    obtain ⟨hnew, hnodup⟩ := List.nodup_cons.1 hnodup
    have hfiles : filesOf ((name, t) :: rest) = under name t.files ++ filesOf rest := rfl
    rw [hfiles, List.map_append, map_fst_under, List.nodup_append]
    refine ⟨(nodup_files t ht).map List.cons_injective, nodup_filesOf rest hnodup hrest, ?_⟩
    intro names hnames names' hnames' heq
    obtain ⟨below, -, rfl⟩ := List.mem_map.1 hnames
    obtain ⟨⟨names', b⟩, hmem, rfl⟩ := List.mem_map.1 hnames'
    obtain ⟨name', t', below', rfl, hentry, -⟩ := mem_filesOf.1 hmem
    obtain ⟨rfl, -⟩ := List.cons.inj heq
    have hname' := List.mem_map_of_mem (f := Prod.fst) hentry
    exact hnew hname'

end

/-- The names on the way to a file are names of entries. -/
theorem isName_of_mem_files {names : List String} {b : Bytes} : ∀ {t : FileTree}, t.Sound →
    (names, b) ∈ t.files → ∀ n ∈ names, Path.IsName n := by
  induction names with
  | nil => exact fun _ _ => List.forall_mem_nil _
  | cons name rest ih =>
    intro t ht hmem
    cases t with
    | file c => simp [files] at hmem
    | folder es =>
      obtain ⟨name', t, rest', heq, hentry, hfile⟩ := mem_filesOf.1 hmem
      obtain ⟨rfl, rfl⟩ := List.cons.inj heq
      obtain ⟨hname, ht⟩ := ht.2.of_mem hentry
      exact List.forall_mem_cons.2 ⟨hname, ih ht hfile⟩

/-! ## How many folders there are -/

mutual

/-- The folders of a tree, itself among them. -/
def folders : FileTree → Nat
  | file _ => 0
  | folder es => 1 + foldersOf es

/-- The folders below entries. -/
def foldersOf : List (String × FileTree) → Nat
  | [] => 0
  | (_, t) :: rest => folders t + foldersOf rest

end

theorem foldersOf_perm {es es' : List (String × FileTree)} (h : es.Perm es') :
    foldersOf es = foldersOf es' := by
  induction h with
  | nil => rfl
  | cons entry _ ih => rw [foldersOf, foldersOf, ih]
  | swap entry entry' es => simp only [foldersOf, Nat.add_left_comm]
  | trans _ _ ih ih' => exact ih.trans ih'

end FileTree

end PacketRelay
