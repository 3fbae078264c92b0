/-
  The files of one folder.

  A path to a file of a folder is the way to the folder (`Path.way`) followed by a plain name
  (`steps_join`), so all files of a folder are found together: `FileTree.locate` gives the names that
  lead to the folder, and `resolve_join` says that those of a file are one longer.  A name that
  leads on (`Path.IsStep`) but is too long for a file, or holds what no name holds, stands for
  nothing (`resolve_badName`).
-/
import PacketRelay.Proofs.Files.Tree

namespace PacketRelay

namespace Path

/-! ## Parts between slashes -/

theorem parts_ne_nil (s : List Char) : parts s ≠ [] := by
  cases s with
  | nil => simp [parts]
  | cons c s =>
    simp only [parts]
    split
    · simp
    · split_ifs <;> simp

theorem eq_nil_of_parts {s : List Char} (h : parts s = [[]]) : s = [] := by
  cases s with
  | nil => rfl
  | cons c s =>
    simp only [parts] at h
    split at h
    · simp at h
    · split_ifs at h <;> simp at h

theorem parts_append_slash (a b : List Char) : parts (a ++ '/' :: b) = parts a ++ parts b := by
  induction a with
  | nil =>
    cases h : parts b with
    | nil => exact absurd h (parts_ne_nil b)
    | cons p more => simp [parts, h]
  | cons c a ih =>
    cases h : parts a with
    | nil => exact absurd h (parts_ne_nil a)
    | cons p more =>
      simp only [List.cons_append, parts, ih, h]
      split_ifs <;> rfl

theorem parts_of_no_slash {s : List Char} (h : '/' ∉ s) : parts s = [s] := by
  induction s with
  | nil => rfl
  | cons c s ih =>
    simp only [List.mem_cons, not_or] at h
    simp [parts, ih h.2, Ne.symm h.1]

/-! ## Names -/

/-- A name that leads from a folder to what is in it. -/
structure IsStep (n : String) : Prop where
  nonempty : n ≠ ""
  noDot : n ≠ "."
  noDots : n ≠ ".."
  noSlash : '/' ∉ n.toList

/-- A name that a file of a folder can have. -/
structure IsName (n : String) : Prop extends IsStep n where
  noNul : '\x00' ∉ n.toList
  short : (utf8 n).length ≤ FileTree.nameLimit

/-- A name that nothing can have, because it is too long. -/
structure IsOverlong (n : String) : Prop extends IsStep n where
  noNul : '\x00' ∉ n.toList
  long : FileTree.nameLimit < (utf8 n).length

/-- The steps that lead to a folder whose path has the given characters. -/
def wayOf (s : List Char) : List String :=
  match parts s with
  | [] :: rest => "/" :: rest.map String.ofList
  | all => all.map String.ofList

/-- The steps to a folder: those of its path without a slash at the end. -/
def way (base : Path) : List String :=
  if base.text.toList = [] then []
  else if base.text.toList.getLast? = some '/' then wayOf base.text.toList.dropLast
  else wayOf base.text.toList

theorem text_join {base : Path} {n : String} (hn : '/' ∉ n.toList) :
    (base.join ⟨n⟩).text.toList =
      (if base.text.toList = [] ∨ base.text.toList.getLast? = some '/' then base.text.toList
        else base.text.toList ++ ['/']) ++ n.toList := by
  have habs : (⟨n⟩ : Path).isAbsolute = false := by
    simp only [isAbsolute]
    cases h : n.toList with
    | nil => rfl
    | cons c s =>
      rw [h, List.mem_cons, not_or] at hn
      simp [Ne.symm hn.1]
  simp only [join, habs, Bool.false_eq_true, if_false]
  by_cases he : base.text.toList = []
  · have : base.text.isEmpty = true := by simpa using he
    simp [this, he]
  · have : base.text.isEmpty = false := by simpa using he
    by_cases hl : base.text.toList.getLast? = some '/'
    · simp [this, he, hl]
    · simp [this, he, hl]

theorem nul_mem_join {base : Path} {n : String} (hn : '/' ∉ n.toList) :
    '\x00' ∈ (base.join ⟨n⟩).text.toList ↔ '\x00' ∈ base.text.toList ∨ '\x00' ∈ n.toList := by
  rw [text_join hn]
  split_ifs <;> simp

theorem steps_of_parts {p : Path} {s n : List Char} (hn : '/' ∉ n)
    (h : p.text.toList = s ++ '/' :: n) : p.steps = wayOf s ++ [String.ofList n] := by
  have hp : parts p.text.toList = parts s ++ [n] := by
    rw [h, parts_append_slash, parts_of_no_slash hn]
  simp only [steps, hp, wayOf]
  cases hs : parts s with
  | nil => exact absurd hs (parts_ne_nil s)
  | cons q more => cases q <;> simp

/-- **The steps to a file are the way to its folder and its name.** -/
theorem steps_join {base : Path} {n : String} (hne : n ≠ "") (hn : '/' ∉ n.toList) :
    (base.join ⟨n⟩).steps = base.way ++ [n] := by
  have ht : (base.join ⟨n⟩).text.toList = _ := text_join hn
  simp only [way]
  split_ifs with he hl
  · simp only [he, true_or, if_true, List.nil_append] at ht
    simp only [steps, ht, parts_of_no_slash hn, List.nil_append]
    cases h : n.toList with
    | nil => exact absurd (String.toList_eq_nil_iff.1 h) hne
    | cons c s => simp [← h]
  · simp only [hl, or_true, if_true] at ht
    have hb : base.text.toList = base.text.toList.dropLast ++ ['/'] :=
      (List.dropLast_append_getLast? _ hl).symm
    rw [hb, List.append_assoc] at ht
    simpa using steps_of_parts hn ht
  · simp only [he, hl, or_self, if_false, List.append_assoc] at ht
    simpa using steps_of_parts hn ht

/-- The steps of a folder's own path are the way to it, perhaps with an idle one at the end. -/
theorem steps_eq_way (base : Path) : base.steps = base.way ∨ base.steps = base.way ++ [""] := by
  simp only [way]
  split_ifs with he hl
  · simp [steps, he, parts]
  · right
    have hb : base.text.toList = base.text.toList.dropLast ++ '/' :: [] :=
      (List.dropLast_append_getLast? _ hl).symm
    exact steps_of_parts (by simp) hb
  · left
    simp only [steps, wayOf]
    cases h : parts base.text.toList with
    | nil => exact absurd h (parts_ne_nil _)
    | cons p more =>
      cases p with
      | cons c p => rfl
      | nil =>
        cases more with
        | cons q more => rfl
        | nil => exact absurd (eq_nil_of_parts h) he

/-- The way to what is in a folder. -/
theorem way_join {p : Path} {n : String} (hn : IsStep n) : (p.join ⟨n⟩).way = p.way ++ [n] := by
  have hsteps : (p.join ⟨n⟩).steps = p.way ++ [n] := steps_join hn.nonempty hn.noSlash
  rcases steps_eq_way (p.join ⟨n⟩) with h | h
  · rw [← h, hsteps]
  · rw [hsteps] at h
    have hlast := congrArg List.getLast? h
    rw [List.getLast?_concat, List.getLast?_concat] at hlast
    exact absurd (Option.some.inj hlast) hn.nonempty

/-- The names a folder has, whether it exists or not. -/
def place (base : Path) : List String := base.way.foldl FileTree.move []

end Path

namespace FileTree

variable {t t' : FileTree} {base : Path} {dir : List String} {n m : String}

/-! ## Finding a folder -/

/-- The names that lead to the folder at the end of steps. -/
def enter (t : FileTree) (names steps : List String) : Except FileFault (List String) :=
  (t.follow names steps).bind fun dir => match t.seen dir with
    | none => .error .notFound
    | some (.file _) => .error .isNoFolder
    | some .folder => .ok dir

/-- The names that lead to a folder, for the sake of its files. -/
def locate (t : FileTree) (base : Path) : Except FileFault (List String) :=
  if base.text.toList.contains '\x00' then .error .badName else t.enter [] base.way

theorem locate_eq_ok : t.locate base = .ok dir ↔
    base.text.toList.contains '\x00' = false ∧ t.follow [] base.way = .ok dir ∧
      t.seen dir = some .folder := by
  unfold locate enter
  cases base.text.toList.contains '\x00' with
  | true => simp
  | false =>
    cases t.follow [] base.way with
    | error e => simp [Except.bind]
    | ok r =>
      simp only [Except.bind, true_and, Except.ok.injEq, Bool.false_eq_true, if_false]
      constructor
      · intro h
        split at h
        · cases h
        · cases h
        · obtain rfl := Except.ok.inj h
          exact ⟨rfl, ‹_›⟩
      · rintro ⟨rfl, h⟩
        rw [h]

theorem place_of_locate (h : t.locate base = .ok dir) : dir = base.place :=
  follow_eq_foldl (locate_eq_ok.1 h).2.1

theorem locate_mono (hf : ∀ n, t.seen n = some .folder → t'.seen n = some .folder)
    (h : t.locate base = .ok dir) : t'.locate base = .ok dir := by
  obtain ⟨hz, hd, hs⟩ := locate_eq_ok.1 h
  exact locate_eq_ok.2 ⟨hz, follow_mono hf hd, hf _ hs⟩

/-- What a name in a folder stands for: it must not be too long, nor hold the character that no name
    holds. -/
theorem resolve_step (hn : Path.IsStep n) :
    t.resolve (base.join ⟨n⟩) =
      if '\x00' ∈ n.toList then .error .badName
      else (t.locate base).bind fun dir =>
        if nameLimit < (utf8 n).length then .error .badName else .ok (dir ++ [n]) := by
  have hne : (base.join ⟨n⟩).text.isEmpty = false := by
    have : (base.join ⟨n⟩).text.toList ≠ [] := by
      rw [Path.text_join hn.noSlash]
      simp [hn.nonempty]
    simpa using this
  simp only [resolve, locate, enter, List.contains_iff_mem, Path.nul_mem_join hn.noSlash, hne,
    Bool.false_eq_true, if_false, Path.steps_join hn.nonempty hn.noSlash]
  by_cases hn' : '\x00' ∈ n.toList
  · simp [hn']
  · by_cases hb : '\x00' ∈ base.text.toList
    · simp [hn', hb, Except.bind]
    · simp only [hn', hb, or_self, if_false]
      rw [follow_append]
      cases t.follow [] base.way with
      | error e => rfl
      | ok dir =>
        simp only [Except.bind, follow, seen]
        cases t.node? dir with
        | none => rfl
        | some u => cases u <;> simp [kind, hn.nonempty, hn.noDot, hn.noDots]

/-- **The files of a folder are found together.** -/
theorem resolve_join (hn : Path.IsName n) :
    t.resolve (base.join ⟨n⟩) = (t.locate base).map (· ++ [n]) := by
  rw [resolve_step hn.toIsStep, if_neg hn.noNul]
  cases t.locate base with
  | error e => rfl
  | ok dir => exact if_neg (Nat.not_lt.2 hn.short)

/-- What cannot be the name of a file stands for nothing. -/
theorem resolve_of_not_isName (t : FileTree) (base : Path) (hn : Path.IsStep n)
    (h : ¬ Path.IsName n) :
    ∃ e, t.resolve (base.join ⟨n⟩) = .error e ∧ (e = .badName ∨ t.locate base = .error e) := by
  rw [resolve_step hn]
  by_cases hnul : '\x00' ∈ n.toList
  · exact ⟨_, if_pos hnul, .inl rfl⟩
  · rw [if_neg hnul]
    have hlong : nameLimit < (utf8 n).length := by
      by_contra hshort
      exact h ⟨hn, hnul, Nat.not_lt.1 hshort⟩
    cases hl : t.locate base with
    | error e => exact ⟨e, rfl, .inr rfl⟩
    | ok dir =>
      rw [Except.bind, if_pos hlong]
      exact ⟨_, rfl, .inl rfl⟩

/-- In a folder that is there, nothing else is wrong with it. -/
theorem resolve_badName (hl : t.locate base = .ok dir) (hn : Path.IsStep n)
    (h : ¬ Path.IsName n) : t.resolve (base.join ⟨n⟩) = .error .badName := by
  obtain ⟨e, he, rfl | hmissing⟩ := resolve_of_not_isName t base hn h
  · exact he
  · rw [hl] at hmissing
    cases hmissing

/-- The content of a file that is seen somewhere. -/
def content : Option Kind → Except FileFault Bytes
  | none => .error .notFound
  | some .folder => .error .isFolder
  | some (.file c) => .ok c

theorem read_join (hn : Path.IsName n) :
    t.read (base.join ⟨n⟩) = (t.locate base).bind fun dir => content (t.seen (dir ++ [n])) := by
  simp only [read, find, resolve_join hn]
  cases t.locate base with
  | error e => rfl
  | ok dir =>
    simp only [Except.map, Except.bind, bind, seen]
    cases t.node? (dir ++ [n]) with
    | none => rfl
    | some u => cases u <;> rfl

theorem exists_join (hn : Path.IsName n) :
    t.exists? (base.join ⟨n⟩) = match t.locate base with
      | .ok dir => .ok (t.seen (dir ++ [n])).isSome
      | .error .notFound => .ok false
      | .error e => .error e := by
  simp only [exists?, find, resolve_join hn]
  cases t.locate base with
  | error e => cases e <;> rfl
  | ok dir =>
    simp only [Except.map, Except.bind, bind, seen]
    cases t.node? (dir ++ [n]) <;> rfl

theorem write_join (hn : Path.IsName n) (c : Bytes) :
    t.write (base.join ⟨n⟩) c = (t.locate base).bind fun dir =>
      if (t.seen (dir ++ [n])) = some .folder then .error .isFolder
      else .ok (t.put (dir ++ [n]) (file c)) := by
  have hlast : ((base.join ⟨n⟩).text.toList.getLast? == some '/') = false := by
    rw [Path.text_join hn.noSlash, List.getLast?_append_of_ne_nil _ (by simpa using hn.nonempty)]
    simp only [beq_eq_false_iff_ne, ne_eq]
    exact fun h => hn.noSlash (List.mem_of_getLast? h)
  simp only [write, resolve_join hn, hlast]
  cases t.locate base with
  | error e => rfl
  | ok dir =>
    simp only [Except.map, Except.bind, bind]
    cases hu : t.node? (dir ++ [n]) with
    | none =>
      have hs : t.seen (dir ++ [n]) ≠ some .folder := by simp [seen, hu]
      rw [if_neg hs]
      rfl
    | some u =>
      cases u with
      | file c' =>
        have hs : t.seen (dir ++ [n]) ≠ some .folder := by simp [seen, hu, kind]
        rw [if_neg hs]
        rfl
      | folder es =>
        rw [if_pos (seen_eq_folder.2 ⟨es, hu⟩)]
        rfl

/-- The folder above another one is no file to write to. -/
theorem write_upwards (t : FileTree) (base : Path) (c : Bytes) :
    ∃ e, t.write (base.join ⟨".."⟩) c = .error e := by
  cases hr : t.resolve (base.join ⟨".."⟩) with
  | error e => exact ⟨e, by simp only [write, hr]; rfl⟩
  | ok names =>
    have hfolder : t.seen names = some .folder := by
      simp only [resolve, Path.steps_join (show ".." ≠ "" by decide) (by decide), follow_append] at hr
      split_ifs at hr
      cases hdir : t.follow [] base.way with
      | error e =>
        rw [hdir] at hr
        cases hr
      | ok dir =>
        rw [hdir, Except.bind] at hr
        obtain rfl := (Except.ok.inj (follow_ok_cons hr)).symm
        exact folder_dropLast (folder_of_follow hr)
    obtain ⟨es, hes⟩ := seen_eq_folder.1 hfolder
    refine ⟨.isFolder, ?_⟩
    simp only [write, hr, bind, Except.bind, hes]
    rfl

theorem remove_join (hn : Path.IsName n) :
    t.remove (base.join ⟨n⟩) = (t.locate base).bind fun dir => match t.seen (dir ++ [n]) with
      | none => .error .notFound
      | some .folder => .error .isFolder
      | some (.file _) => .ok (t.drop (dir ++ [n])) := by
  simp only [remove, resolve_join hn]
  cases t.locate base with
  | error e => rfl
  | ok dir =>
    simp only [Except.map, Except.bind, bind, seen]
    cases t.node? (dir ++ [n]) with
    | none => rfl
    | some u => cases u <;> rfl

theorem rename_join (hn : Path.IsName n) (hm : Path.IsName m)
    (hd : t.locate base = .ok dir) {c : Bytes} (hc : t.seen (dir ++ [n]) = some (.file c)) :
    t.rename (base.join ⟨n⟩) (base.join ⟨m⟩) =
      if t.seen (dir ++ [m]) = some .folder then .error .isFolder
      else .ok (if n = m then t else (t.drop (dir ++ [n])).put (dir ++ [m]) (file c)) := by
  have hsame : dir ++ [n] = dir ++ [m] ↔ n = m := by simp
  simp only [rename, resolve_join hn, resolve_join hm, hd, Except.map, bind, Except.bind,
    seen_eq_file.1 hc, hsame]
  cases hu : t.node? (dir ++ [m]) with
  | none =>
    have hs : t.seen (dir ++ [m]) ≠ some .folder := by simp [seen, hu]
    rw [if_neg hs]
    rfl
  | some u =>
    cases u with
    | file c' =>
      have hs : t.seen (dir ++ [m]) ≠ some .folder := by simp [seen, hu, kind]
      rw [if_neg hs]
      rfl
    | folder es =>
      rw [if_pos (seen_eq_folder.2 ⟨es, hu⟩)]
      rfl

/-! ## Creating a folder -/

theorem endsInDot_idle (a : List String) : endsInDot (a ++ [""]) = endsInDot a := by
  simp [endsInDot]

theorem createAlong_idle (t : FileTree) (names a : List String) :
    t.createAlong names (a ++ [""]) = t.createAlong names a := by
  induction a generalizing t names with
  | nil => rfl
  | cons step a ih => simp only [List.cons_append, createAlong_cons, endsInDot_idle, ih]

theorem openFolders_eq (t : FileTree) (base : Path) :
    t.openFolders base =
      if base.text.toList.contains '\x00' then (.error .badName, t) else t.createAlong [] base.way := by
  unfold openFolders
  rcases base.steps_eq_way with h | h
  · rw [h]
  · rw [h, createAlong_idle]

/-- The tree after an attempt to create the folders on the way to a file. -/
def opened (t : FileTree) (base : Path) : FileTree := (t.openFolders base).2

theorem seen_opened (t : FileTree) (base : Path) (n : List String) :
    (t.opened base).seen n = t.seen n ∨
      t.seen n = none ∧ (t.opened base).seen n = some .folder := by
  rw [opened, openFolders_eq]
  split_ifs
  · exact .inl rfl
  · exact seen_createAlong t [] base.way n

theorem openFolders_of_locate (h : t.locate base = .ok dir) : t.openFolders base = (.ok (), t) := by
  obtain ⟨hz, hd, hs⟩ := locate_eq_ok.1 h
  rw [openFolders_eq, hz, if_neg (by simp)]
  exact createAlong_of_follow hd hs

theorem opened_of_locate (h : t.locate base = .ok dir) : t.opened base = t := by
  rw [opened, openFolders_of_locate h]

/-- A folder is there once it has been created in a folder. -/
theorem locate_of_openFolders (hroot : t.seen [] = some .folder)
    (h : (t.openFolders base).1 = .ok ()) : ∃ dir, (t.opened base).locate base = .ok dir := by
  rw [opened]
  rw [openFolders_eq] at h ⊢
  split_ifs at h ⊢ with hz
  obtain ⟨dir, hd, hs⟩ := follow_of_createAlong hroot h
  exact ⟨dir, locate_eq_ok.2 ⟨by simpa using hz, hd, hs⟩⟩

theorem opened_file (c : Bytes) (base : Path) : (file c).opened base = file c := by
  rw [opened, openFolders_eq]
  split_ifs
  · rfl
  · exact createAlong_file c [] base.way

/-- Creating folders a second time does nothing, and fails if it has failed before. -/
theorem openFolders_opened (t : FileTree) (base : Path) :
    (t.opened base).openFolders base = t.openFolders base := by
  cases t with
  | file c => rw [opened_file]
  | folder es =>
    rw [opened]
    simp only [openFolders]
    split_ifs
    · rfl
    · exact createAlong_createAlong rfl

theorem opened_opened (t : FileTree) (base : Path) :
    (t.opened base).opened base = t.opened base :=
  congrArg Prod.snd (openFolders_opened t base)

/-! ## Creating a folder without leading upwards -/

theorem seen_below_missing {names : List String} (h : t.seen names = none) (x : String) :
    t.seen (names ++ [x]) = none := by
  rw [seen_eq_none, node?_append, seen_eq_none.1 h]
  rfl

theorem enter_missing {names : List String} (h : t.seen names = none) (steps : List String) :
    t.enter names steps = .error .notFound := by
  cases steps with
  | nil => simp [enter, follow, Except.bind, h]
  | cons step rest => simp [enter, follow, seen_eq_none.1 h, Except.bind]

theorem enter_nil {names : List String} (hd : t.seen names = some .folder) :
    t.enter names [] = .ok names := by
  simp [enter, follow, Except.bind, hd]

theorem enter_idle {names rest : List String} {step : String} (hd : t.seen names = some .folder)
    (h : step = "" ∨ step = ".") : t.enter names (step :: rest) = t.enter names rest := by
  rw [enter, follow_move hd (by tauto), move_idle h, enter]

theorem enter_entry {names rest : List String} {step : String} (hd : t.seen names = some .folder)
    (h : IsEntry step) : t.enter names (step :: rest) = t.enter (names ++ [step]) rest := by
  rw [enter, follow_entry hd h, enter]

/-- A step that does not lead upwards, with a name that is not too long. -/
def IsPlain (step : String) : Prop := step ≠ ".." ∧ (utf8 step).length ≤ nameLimit

theorem IsPlain.idle_or_entry {step : String} (h : IsPlain step) :
    (step = "" ∨ step = ".") ∨ IsEntry step := by
  by_cases hidle : step = "" ∨ step = "."
  · exact .inl hidle
  · refine .inr ⟨?_, Nat.not_lt.2 h.2⟩
    have := h.1
    tauto

/-- Steps lead to nothing, or to a folder with nothing in it. -/
def Vacant (t : FileTree) (names steps : List String) : Prop :=
  t.enter names steps = .error .notFound ∨
    ∃ dir, t.enter names steps = .ok dir ∧ ∀ x, t.seen (dir ++ [x]) = none

/-- Nothing is brought to light by folders that are created in an empty one. -/
theorem vacant_createAlong {names steps : List String} (hplain : ∀ step ∈ steps, IsPlain step)
    (hd : t.seen names = some .folder) (hempty : ∀ x, t.seen (names ++ [x]) = none) :
    Vacant (t.createAlong names steps).2 names steps := by
  induction steps generalizing t names with
  | nil => exact .inr ⟨names, enter_nil hd, hempty⟩
  | cons step rest ih =>
    obtain ⟨hstep, hrest⟩ := List.forall_mem_cons.1 hplain
    have hd' := folder_createAlong hd names (step :: rest)
    rcases hstep.idle_or_entry with hidle | hentry
    · rw [Vacant, enter_idle hd' hidle, createAlong_move (by tauto), move_idle hidle]
      exact ih hrest hd hempty
    · rw [Vacant, enter_entry hd' hentry, createAlong_missing hentry (hempty step)]
      split_ifs
      · exact .inl (enter_missing (hempty step) rest)
      · have hput := seen_put_empty hd (hempty step)
        refine ih hrest ?_ (fun x => ?_)
        · rw [hput, if_pos rfl]
        · rw [hput, if_neg (by simp), seen_below_missing (hempty step)]

/-- Along a path that does not lead upwards either nothing is created, or the path led to nothing and
    now leads to an empty folder at most. -/
theorem createAlong_plain {names steps : List String} (hplain : ∀ step ∈ steps, IsPlain step)
    (hd : t.seen names = some .folder) :
    (t.createAlong names steps).2 = t ∨
      t.enter names steps = .error .notFound ∧ Vacant (t.createAlong names steps).2 names steps := by
  induction steps generalizing t names with
  | nil => exact .inl rfl
  | cons step rest ih =>
    obtain ⟨hstep, hrest⟩ := List.forall_mem_cons.1 hplain
    have hd' := folder_createAlong hd names (step :: rest)
    rcases hstep.idle_or_entry with hidle | hentry
    · rw [Vacant, enter_idle hd hidle, enter_idle hd' hidle, createAlong_move (by tauto),
        move_idle hidle]
      exact ih hrest hd
    · rw [Vacant, enter_entry hd hentry, enter_entry hd' hentry]
      rcases createAlong_cases t names step rest with
        ⟨hmoves, -⟩ | ⟨-, hfolder, heq⟩ | ⟨-, hnone, heq⟩ | ⟨-, e, heq⟩
      · exact absurd hmoves hentry.name
      · rw [heq]
        exact ih hrest hfolder
      · rw [heq]
        have hput := seen_put_empty hd hnone
        refine .inr ⟨enter_missing hnone rest, vacant_createAlong hrest ?_ (fun x => ?_)⟩
        · rw [hput, if_pos rfl]
        · rw [hput, if_neg (by simp), seen_below_missing hnone]
      · rw [heq]
        exact .inl rfl

/-! ## Names that are too long -/

theorem contains_nul_join (hn : Path.IsOverlong n) :
    (base.join ⟨n⟩).text.toList.contains '\x00' = base.text.toList.contains '\x00' := by
  rw [Bool.eq_iff_iff, List.contains_iff_mem, List.contains_iff_mem, Path.nul_mem_join hn.noSlash,
    or_iff_left hn.noNul]

/-- A name that is too long is not looked for in a folder that is missing. -/
theorem locate_overlong (hn : Path.IsOverlong n) :
    t.locate (base.join ⟨n⟩) = (t.locate base).bind fun _ => .error .badName := by
  rw [locate, locate, contains_nul_join hn, Path.way_join hn.toIsStep]
  cases base.text.toList.contains '\x00' with
  | true => rfl
  | false =>
    simp only [Bool.false_eq_true, if_false, enter, follow_append]
    cases t.follow [] base.way with
    | error e => rfl
    | ok dir =>
      simp only [Except.bind, follow, seen]
      cases t.node? dir with
      | none => rfl
      | some u => cases u <;> simp [kind, hn.nonempty, hn.noDot, hn.noDots, hn.long]

theorem createAlong_overlong (hn : Path.IsOverlong n) {names steps : List String}
    (h : (t.createAlong names steps).1 = .ok ()) :
    t.createAlong names (steps ++ [n]) = (.error .badName, (t.createAlong names steps).2) := by
  induction steps generalizing t names with
  | nil =>
    have hname : ¬(n = "" ∨ n = "." ∨ n = "..") := by simp [hn.nonempty, hn.noDot, hn.noDots]
    rw [List.nil_append, createAlong_cons, if_neg hname, if_pos hn.long, createAlong]
  | cons step rest ih =>
    rw [List.cons_append]
    rcases createAlong_cases t names step rest with
      ⟨hmoves, heq⟩ | ⟨hentry, hfolder, heq⟩ | ⟨hentry, hnone, heq⟩ | ⟨-, e, heq⟩ <;>
      rw [heq] at h ⊢
    · rw [createAlong_move hmoves, ih h]
    · rw [createAlong_enter hentry hfolder, ih h]
    · have hdot : endsInDot (rest ++ [n]) = false := by simp [endsInDot, hn.nonempty, hn.noDot]
      rw [createAlong_missing hentry hnone, hdot, if_neg (by simp), ih h]
    · cases h

/-- The folders above a name that is too long are created all the same. -/
theorem openFolders_overlong (hn : Path.IsOverlong n) (h : (t.openFolders base).1 = .ok ()) :
    t.openFolders (base.join ⟨n⟩) = (.error .badName, t.opened base) := by
  rw [opened]
  rw [openFolders_eq] at h ⊢
  rw [openFolders_eq, contains_nul_join hn, Path.way_join hn.toIsStep]
  split_ifs at h ⊢ with hz
  exact createAlong_overlong hn h

end FileTree

end PacketRelay
