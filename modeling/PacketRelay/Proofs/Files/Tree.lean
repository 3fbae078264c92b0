/-
  A tree of files as a map from names.

  * `FileTree.seen` is what stands at the end of a list of names, the entries of a folder apart;
  * `seen_put` and `seen_drop`: putting a file or an empty folder somewhere and taking a file away
    update this map at one place;
  * `follow_mono`: following a path depends on nothing but the folders on its way, so it leads to
    the same names as long as these stay folders;
  * `createAlong_cases`: what creating folders along a path can do at one step;
  * `seen_createAlong`: creating the folders of a path, be it to the end or not, adds folders where
    nothing stood and changes nothing else; `createAlong_of_follow`: it does nothing where the path
    already leads to a folder, and `createAlong_resume`: it can go on where it was broken off.
-/
import PacketRelay.FileTree
import Mathlib.Data.List.Basic

namespace PacketRelay

/-! ## Keys -/

section
variable {α β : Type} [BEq α] [LawfulBEq α] {es : List (α × β)} {k : α} {b : β}

theorem mem_of_lookup (h : es.lookup k = some b) : (k, b) ∈ es := by
  obtain ⟨before, after, rfl, -⟩ := List.lookup_eq_some_iff.1 h
  exact List.mem_append_right before List.mem_cons_self

/-- Where no key stands twice, an entry is what is found under its key. -/
theorem lookup_of_mem (hkeys : (es.map Prod.fst).Nodup) (h : (k, b) ∈ es) :
    es.lookup k = some b := by
  obtain ⟨before, after, rfl⟩ := List.append_of_mem h
  rw [List.map_append, List.map_cons, List.nodup_append] at hkeys
  rw [List.lookup_eq_some_iff]
  refine ⟨before, after, rfl, ?_⟩
  intro entry hentry
  rw [bne_iff_ne]
  intro hsame
  exact hkeys.2.2 _ (List.mem_map_of_mem hentry) k List.mem_cons_self hsame.symm

end

namespace FileTree

/-! ## Entries -/

theorem lookup_setEntry (name n : String) (node : FileTree) (es : List (String × FileTree)) :
    (setEntry name node es).lookup n = if n = name then some node else es.lookup n := by
  induction es with
  | nil =>
    by_cases h : n = name
    · simp [setEntry, h]
    · simp [setEntry, h, List.lookup_cons, beq_false_of_ne h]
  | cons e es ih =>
    obtain ⟨k, u⟩ := e
    by_cases hk : k = name
    · subst hk
      by_cases h : n = k
      · simp [setEntry, h]
      · simp [setEntry, h, List.lookup_cons, beq_false_of_ne h]
    · by_cases hn : n = k
      · subst hn
        simp [setEntry, hk]
      · simp only [setEntry, hk, if_false, List.lookup_cons, beq_false_of_ne hn]
        exact ih

theorem lookup_filter_ne {α : Type} (name n : String) (es : List (String × α)) :
    (es.filter fun (k, _) => k != name).lookup n = if n = name then none else es.lookup n := by
  induction es with
  | nil => simp
  | cons e es ih =>
    obtain ⟨k, u⟩ := e
    by_cases hk : k = name
    · subst hk
      rw [List.filter_cons_of_neg (by simp), ih]
      by_cases hn : n = k
      · simp [hn]
      · simp [hn, List.lookup_cons, beq_false_of_ne hn]
    · rw [List.filter_cons_of_pos (by simp [hk])]
      by_cases hn : n = k
      · subst hn
        simp [hk]
      · simp only [List.lookup_cons, beq_false_of_ne hn]
        exact ih

theorem lookup_dropEntry (name n : String) (es : List (String × FileTree)) :
    (dropEntry name es).lookup n = if n = name then none else es.lookup n :=
  lookup_filter_ne name n es

theorem setEntry_self {name : String} {node : FileTree} {es : List (String × FileTree)}
    (h : es.lookup name = some node) : setEntry name node es = es := by
  induction es with
  | nil => simp at h
  | cons e es ih =>
    obtain ⟨k, u⟩ := e
    by_cases hk : k = name
    · subst hk
      simp only [List.lookup_cons_self, Option.some.injEq] at h
      simp [setEntry, h]
    · rw [List.lookup_cons, beq_false_of_ne (Ne.symm hk)] at h
      simp [setEntry, hk, ih h]

/-! ## What stands at the end of names -/

/-- What can be seen from outside: the content of a file, or that something is a folder. -/
inductive Kind where
  | file (content : Bytes)
  | folder
deriving DecidableEq

/-- The kind of a node. -/
def kind : FileTree → Kind
  | file content => .file content
  | folder _ => .folder

/-- What stands at the end of names. -/
def seen (t : FileTree) (names : List String) : Option Kind := (t.node? names).map kind

@[simp] theorem node?_nil (t : FileTree) : t.node? [] = some t := by cases t <;> rfl

theorem node?_append (t : FileTree) (a b : List String) :
    t.node? (a ++ b) = (t.node? a).bind (·.node? b) := by
  induction a generalizing t with
  | nil => simp
  | cons x a ih =>
    simp only [List.cons_append, node?]
    cases t.entry? x with
    | none => rfl
    | some u => exact ih u

@[simp] theorem node?_folder_cons (es : List (String × FileTree)) (x : String)
    (rest : List String) : (folder es).node? (x :: rest) = (es.lookup x).bind (·.node? rest) := rfl

@[simp] theorem node?_file_cons (c : Bytes) (x : String) (rest : List String) :
    (file c).node? (x :: rest) = none := rfl

theorem seen_eq_none {t : FileTree} {names : List String} :
    t.seen names = none ↔ t.node? names = none := by
  simp [seen]

theorem seen_eq_folder {t : FileTree} {names : List String} :
    t.seen names = some .folder ↔ ∃ es, t.node? names = some (folder es) := by
  cases h : t.node? names with
  | none => simp [seen, h]
  | some u => cases u <;> simp [seen, h, kind]

theorem seen_eq_file {t : FileTree} {names : List String} {c : Bytes} :
    t.seen names = some (.file c) ↔ t.node? names = some (file c) := by
  cases h : t.node? names with
  | none => simp [seen, h]
  | some u => cases u <;> simp [seen, h, kind]

/-! ## Changing one folder -/

theorem node?_modify_append {f : List (String × FileTree) → List (String × FileTree)}
    {dir : List String} {t : FileTree} {es : List (String × FileTree)}
    (h : t.node? dir = some (folder es)) (rest : List String) :
    (modify f dir t).node? (dir ++ rest) = (folder (f es)).node? rest := by
  induction dir generalizing t with
  | nil =>
    simp only [node?_nil, Option.some.injEq] at h
    subst h
    rfl
  | cons x dir ih =>
    cases t with
    | file c => simp at h
    | folder entries =>
      rw [node?_folder_cons] at h
      obtain ⟨u, hu, hd⟩ := Option.bind_eq_some_iff.1 h
      simp only [modify, hu, List.cons_append, node?_folder_cons, lookup_setEntry, if_true,
        Option.bind_some]
      exact ih hd

theorem seen_modify_of_not_prefix {f : List (String × FileTree) → List (String × FileTree)}
    {dir n : List String} {t : FileTree} (h : ¬ dir <+: n) :
    (modify f dir t).seen n = t.seen n := by
  induction dir generalizing t n with
  | nil => exact absurd n.nil_prefix h
  | cons x dir ih =>
    cases t with
    | file c => rfl
    | folder entries =>
      cases hu : entries.lookup x with
      | none => simp [modify, hu]
      | some u =>
        simp only [modify, hu]
        cases n with
        | nil => rfl
        | cons y n =>
          simp only [seen, node?_folder_cons, lookup_setEntry]
          by_cases hy : y = x
          · subst hy
            have := ih (t := u) (n := n) fun hp => h (List.cons_prefix_cons.2 ⟨rfl, hp⟩)
            simpa [hu, seen] using this
          · simp [hy]

@[simp] theorem modify_file (f : List (String × FileTree) → List (String × FileTree))
    (dir : List String) (c : Bytes) : modify f dir (file c) = file c := by
  cases dir <;> rfl

theorem modify_of_no_folder {f : List (String × FileTree) → List (String × FileTree)}
    {dir : List String} {t : FileTree} (h : t.seen dir ≠ some .folder) : modify f dir t = t := by
  induction dir generalizing t with
  | nil =>
    cases t with
    | file c => rfl
    | folder es => exact absurd rfl h
  | cons x dir ih =>
    cases t with
    | file c => rfl
    | folder entries =>
      cases hu : entries.lookup x with
      | none => simp [modify, hu]
      | some u =>
        simp only [modify, hu]
        rw [ih fun hd => h (by simpa [seen, hu] using hd), setEntry_self hu]

/-- A node without entries: a file or an empty folder. -/
def IsLeaf (u : FileTree) : Prop := ∀ x, u.entry? x = none

theorem isLeaf_file (c : Bytes) : (file c).IsLeaf := fun _ => rfl

theorem isLeaf_empty : empty.IsLeaf := fun _ => rfl

theorem IsLeaf.node?_cons {u : FileTree} (h : u.IsLeaf) (x : String) (rest : List String) :
    u.node? (x :: rest) = none := by
  simp [node?, h x]

theorem put_eq_modify (t : FileTree) (dir : List String) (name : String) (u : FileTree) :
    t.put (dir ++ [name]) u = modify (setEntry name u) dir t := by
  simp [put]

theorem drop_eq_modify (t : FileTree) (dir : List String) (name : String) :
    t.drop (dir ++ [name]) = modify (dropEntry name) dir t := by
  simp [drop]

/-- Nothing stands below an entry that is a leaf or missing. -/
theorem below_leaf {es : List (String × FileTree)} {x : String}
    (h : ∀ u, es.lookup x = some u → u.IsLeaf) (y : String) (rest : List String) :
    (es.lookup x).bind (·.node? (y :: rest)) = none := by
  cases hu : es.lookup x with
  | none => rfl
  | some u => exact (h u hu).node?_cons y rest

/-- Changing one entry of a folder is seen at this entry only, unless a folder stood there. -/
theorem seen_modify_entry {f : List (String × FileTree) → List (String × FileTree)}
    {t : FileTree} {dir n : List String} {name : String}
    (hf : ∀ es x, x ≠ name → (f es).lookup x = es.lookup x)
    (hleaf : ∀ es u, (f es).lookup name = some u → u.IsLeaf)
    (hname : t.seen (dir ++ [name]) ≠ some .folder) (hn : n ≠ dir ++ [name]) :
    (modify f dir t).seen n = t.seen n := by
  by_cases hp : dir <+: n
  · obtain ⟨rest, rfl⟩ := hp
    by_cases hd : t.seen dir = some .folder
    · obtain ⟨es, hes⟩ := seen_eq_folder.1 hd
      simp only [seen, node?_modify_append hes, node?_append, hes, Option.bind_some]
      cases rest with
      | nil => rfl
      | cons x rest =>
        simp only [node?_folder_cons]
        by_cases hx : x = name
        · subst hx
          cases rest with
          | nil => exact absurd rfl hn
          | cons y rest =>
            -- what stood there is no folder either
            have hbefore : ∀ u, es.lookup x = some u → u.IsLeaf := by
              intro u hu
              cases u with
              | file c => exact isLeaf_file c
              | folder es' =>
                exact absurd (seen_eq_folder.2 ⟨es', by simp [node?_append, hes, hu]⟩) hname
            rw [below_leaf hbefore, below_leaf (hleaf es)]
        · rw [hf es x hx]
    · rw [modify_of_no_folder hd]
  · exact seen_modify_of_not_prefix hp

/-- **Putting a file or an empty folder updates one place.** -/
theorem seen_put {t u : FileTree} {dir : List String} {name : String} (hu : u.IsLeaf)
    (hdir : t.seen dir = some .folder) (hname : t.seen (dir ++ [name]) ≠ some .folder)
    (n : List String) :
    (t.put (dir ++ [name]) u).seen n = if n = dir ++ [name] then some u.kind else t.seen n := by
  rw [put_eq_modify]
  split_ifs with hn
  · subst hn
    obtain ⟨es, hes⟩ := seen_eq_folder.1 hdir
    simp [seen, node?_modify_append hes, lookup_setEntry]
  · refine seen_modify_entry (fun es x hx => ?_) (fun es v hv => ?_) hname hn
    · simp [lookup_setEntry, hx]
    · simp only [lookup_setEntry, if_true, Option.some.injEq] at hv
      exact hv ▸ hu

/-- An empty folder where nothing stood. -/
theorem seen_put_empty {t : FileTree} {dir : List String} {name : String}
    (hdir : t.seen dir = some .folder) (hname : t.seen (dir ++ [name]) = none) (n : List String) :
    (t.put (dir ++ [name]) empty).seen n = if n = dir ++ [name] then some .folder else t.seen n :=
  seen_put isLeaf_empty hdir (by simp [hname]) n

/-- **Taking a file away updates one place.** -/
theorem seen_drop {t : FileTree} {dir : List String} {name : String}
    (hdir : t.seen dir = some .folder) (hname : t.seen (dir ++ [name]) ≠ some .folder)
    (n : List String) :
    (t.drop (dir ++ [name])).seen n = if n = dir ++ [name] then none else t.seen n := by
  rw [drop_eq_modify]
  split_ifs with hn
  · subst hn
    obtain ⟨es, hes⟩ := seen_eq_folder.1 hdir
    simp [seen, node?_modify_append hes, lookup_dropEntry]
  · refine seen_modify_entry (fun es x hx => ?_) (fun es v hv => ?_) hname hn
    · simp [lookup_dropEntry, hx]
    · simp [lookup_dropEntry] at hv

/-- Moving a file inside a folder updates two places. -/
theorem seen_drop_put {t : FileTree} {dir : List String} {m n : String} {c : Bytes}
    (hdir : t.seen dir = some .folder) (hm : t.seen (dir ++ [m]) ≠ some .folder)
    (hn : t.seen (dir ++ [n]) ≠ some .folder) (hmn : m ≠ n) (x : List String) :
    ((t.drop (dir ++ [m])).put (dir ++ [n]) (file c)).seen x =
      if x = dir ++ [n] then some (.file c) else if x = dir ++ [m] then none else t.seen x := by
  have hne : dir ++ [n] ≠ dir ++ [m] := by simpa using hmn.symm
  have hdrop := seen_drop hdir hm
  have hdir' : (t.drop (dir ++ [m])).seen dir = some .folder := by
    rw [hdrop, if_neg (by simp), hdir]
  have hn' : (t.drop (dir ++ [m])).seen (dir ++ [n]) ≠ some .folder := by
    rwa [hdrop, if_neg hne]
  rw [seen_put (isLeaf_file c) hdir' hn', hdrop]
  rfl

/-! ## Following a path -/

/-- Where a step leads from names. -/
def move (names : List String) (step : String) : List String :=
  if step = "" ∨ step = "." then names else if step = ".." then names.dropLast else names ++ [step]

theorem move_idle {names : List String} {step : String} (h : step = "" ∨ step = ".") :
    move names step = names := if_pos h

theorem move_name {names : List String} {step : String}
    (h : ¬(step = "" ∨ step = "." ∨ step = "..")) : move names step = names ++ [step] := by
  simp only [move]
  split_ifs <;> tauto

/-- A path can be followed on from a folder only. -/
theorem folder_of_follow {t : FileTree} {names r rest : List String} {step : String}
    (h : t.follow names (step :: rest) = .ok r) : t.seen names = some .folder := by
  unfold follow at h
  split at h
  · cases h
  · cases h
  · exact seen_eq_folder.2 ⟨_, ‹_›⟩

theorem follow_cons {t : FileTree} {names : List String} (h : t.seen names = some .folder)
    (step : String) (rest : List String) :
    t.follow names (step :: rest) =
      if step ≠ "" ∧ step ≠ "." ∧ step ≠ ".." ∧ nameLimit < (utf8 step).length then .error .badName
      else t.follow (move names step) rest := by
  obtain ⟨es, hes⟩ := seen_eq_folder.1 h
  simp only [follow, hes, move]
  split_ifs <;> simp_all

/-- A step to an entry of a folder, with a name that is not too long. -/
structure IsEntry (step : String) : Prop where
  name : ¬(step = "" ∨ step = "." ∨ step = "..")
  short : ¬nameLimit < (utf8 step).length

theorem follow_move {t : FileTree} {names rest : List String} {step : String}
    (h : t.seen names = some .folder) (hstep : step = "" ∨ step = "." ∨ step = "..") :
    t.follow names (step :: rest) = t.follow (move names step) rest := by
  rw [follow_cons h, if_neg (by tauto)]

theorem follow_entry {t : FileTree} {names rest : List String} {step : String}
    (h : t.seen names = some .folder) (hstep : IsEntry step) :
    t.follow names (step :: rest) = t.follow (names ++ [step]) rest := by
  rw [follow_cons h, if_neg fun hlong => hstep.short hlong.2.2.2, move_name hstep.name]

theorem follow_ok_cons {t : FileTree} {names r rest : List String} {step : String}
    (h : t.follow names (step :: rest) = .ok r) : t.follow (move names step) rest = .ok r := by
  rw [follow_cons (folder_of_follow h)] at h
  split_ifs at h
  exact h

/-- The names a path leads to can be read off the path. -/
theorem follow_eq_foldl {t : FileTree} {names r steps : List String}
    (h : t.follow names steps = .ok r) : r = steps.foldl move names := by
  induction steps generalizing names with
  | nil => exact (Except.ok.inj h).symm
  | cons step rest ih => exact ih (follow_ok_cons h)

theorem follow_append (t : FileTree) (names a b : List String) :
    t.follow names (a ++ b) = (t.follow names a).bind (t.follow · b) := by
  induction a generalizing names with
  | nil => rfl
  | cons step a ih =>
    simp only [List.cons_append, follow]
    split
    · rfl
    · rfl
    · split_ifs
      · exact ih _
      · exact ih _
      · rfl
      · exact ih _

/-- **A path leads to the same names as long as its folders stay folders.** -/
theorem follow_mono {t t' : FileTree}
    (hf : ∀ n, t.seen n = some .folder → t'.seen n = some .folder) {names r steps : List String}
    (h : t.follow names steps = .ok r) : t'.follow names steps = .ok r := by
  induction steps generalizing names with
  | nil => exact h
  | cons step rest ih =>
    have hd := folder_of_follow h
    rw [follow_cons hd] at h
    rw [follow_cons (hf _ hd)]
    split_ifs at h ⊢
    exact ih h

/-! ## Creating folders -/

theorem createAlong_cons (t : FileTree) (names : List String) (step : String)
    (rest : List String) :
    t.createAlong names (step :: rest) =
      if step = "" ∨ step = "." ∨ step = ".." then t.createAlong (move names step) rest
      else if nameLimit < (utf8 step).length then (.error .badName, t)
      else match t.seen (names ++ [step]) with
        | some .folder => t.createAlong (names ++ [step]) rest
        | some (.file _) => (.error .isNoFolder, t)
        | none =>
          if endsInDot rest then (.error .notFound, t)
          else (t.put (names ++ [step]) empty).createAlong (names ++ [step]) rest := by
  simp only [createAlong, move, seen]
  cases t.node? (names ++ [step]) with
  | none => split_ifs <;> simp_all
  | some u => cases u <;> split_ifs <;> simp_all [kind]

section
variable {t t' : FileTree} {names rest steps r : List String} {step : String}

theorem createAlong_move (h : step = "" ∨ step = "." ∨ step = "..") :
    t.createAlong names (step :: rest) = t.createAlong (move names step) rest := by
  rw [createAlong_cons, if_pos h]

theorem createAlong_enter (hentry : IsEntry step) (h : t.seen (names ++ [step]) = some .folder) :
    t.createAlong names (step :: rest) = t.createAlong (names ++ [step]) rest := by
  rw [createAlong_cons, if_neg hentry.name, if_neg hentry.short, h]

theorem createAlong_missing (hentry : IsEntry step) (h : t.seen (names ++ [step]) = none) :
    t.createAlong names (step :: rest) =
      if endsInDot rest then (.error .notFound, t)
      else (t.put (names ++ [step]) empty).createAlong (names ++ [step]) rest := by
  rw [createAlong_cons, if_neg hentry.name, if_neg hentry.short, h]

/-- At a step of a path one moves, enters a folder, enters a new one, or fails and creates nothing. -/
theorem createAlong_cases (t : FileTree) (names : List String) (step : String)
    (rest : List String) :
    ((step = "" ∨ step = "." ∨ step = "..") ∧
      t.createAlong names (step :: rest) = t.createAlong (move names step) rest) ∨
    (IsEntry step ∧ t.seen (names ++ [step]) = some .folder ∧
      t.createAlong names (step :: rest) = t.createAlong (names ++ [step]) rest) ∨
    (IsEntry step ∧ t.seen (names ++ [step]) = none ∧
      t.createAlong names (step :: rest) =
        (t.put (names ++ [step]) empty).createAlong (names ++ [step]) rest) ∨
    (¬(step = "" ∨ step = "." ∨ step = "..") ∧
      ∃ e, t.createAlong names (step :: rest) = (.error e, t)) := by
  by_cases hmoves : step = "" ∨ step = "." ∨ step = ".."
  · exact .inl ⟨hmoves, createAlong_move hmoves⟩
  by_cases hlong : nameLimit < (utf8 step).length
  · refine .inr (.inr (.inr ⟨hmoves, .badName, ?_⟩))
    rw [createAlong_cons, if_neg hmoves, if_pos hlong]
  have hentry : IsEntry step := ⟨hmoves, hlong⟩
  cases hseen : t.seen (names ++ [step]) with
  | none =>
    by_cases hdot : endsInDot rest
    · refine .inr (.inr (.inr ⟨hmoves, .notFound, ?_⟩))
      rw [createAlong_missing hentry hseen, if_pos hdot]
    · refine .inr (.inr (.inl ⟨hentry, rfl, ?_⟩))
      rw [createAlong_missing hentry hseen, if_neg hdot]
  | some kind => cases kind with
    | file c =>
      refine .inr (.inr (.inr ⟨hmoves, .isNoFolder, ?_⟩))
      rw [createAlong_cons, if_neg hmoves, if_neg hlong, hseen]
    | folder => exact .inr (.inl ⟨hentry, rfl, createAlong_enter hentry hseen⟩)

/-- **Creating the folders of a path adds folders where nothing stood, and nothing else.** -/
theorem seen_createAlong (t : FileTree) (names steps n : List String) :
    (t.createAlong names steps).2.seen n = t.seen n ∨
      t.seen n = none ∧ (t.createAlong names steps).2.seen n = some .folder := by
  induction steps generalizing t names with
  | nil => exact Or.inl rfl
  | cons step rest ih =>
    rcases createAlong_cases t names step rest with
      ⟨-, h⟩ | ⟨-, -, h⟩ | ⟨-, hnone, h⟩ | ⟨-, e, h⟩ <;> rw [h]
    · exact ih _ _
    · exact ih _ _
    · by_cases hd : t.seen names = some .folder
      · have hput := seen_put_empty hd hnone n
        split_ifs at hput with hn
        · subst hn
          refine Or.inr ⟨hnone, ?_⟩
          rcases ih (t.put (names ++ [step]) empty) (names ++ [step]) with h | ⟨h, -⟩
          · rw [h, hput]
          · rw [hput] at h
            cases h
        · simpa only [hput] using ih (t.put (names ++ [step]) empty) (names ++ [step])
      · rw [put_eq_modify, modify_of_no_folder hd]
        exact ih _ _
    · exact Or.inl rfl

theorem folder_createAlong {n : List String} (hn : t.seen n = some .folder)
    (names steps : List String) : (t.createAlong names steps).2.seen n = some .folder := by
  rcases seen_createAlong t names steps n with h | ⟨h, -⟩
  · rw [h, hn]
  · rw [hn] at h
    cases h

/-- Nothing has to be created along a path that leads to a folder. -/
theorem createAlong_of_follow (h : t.follow names steps = .ok r) (hr : t.seen r = some .folder) :
    t.createAlong names steps = (.ok (), t) := by
  induction steps generalizing names with
  | nil => rfl
  | cons step rest ih =>
    have hnext := follow_ok_cons h
    have hd : t.seen (move names step) = some .folder := by
      cases rest with
      | nil => rwa [← Except.ok.inj hnext] at hr
      | cons s rest => exact folder_of_follow hnext
    rw [follow_cons (folder_of_follow h)] at h
    rw [createAlong_cons]
    simp only [move] at hd ih h ⊢
    split_ifs at * <;> simp_all

end

theorem folder_of_append {t : FileTree} {a b : List String}
    (h : t.seen (a ++ b) = some .folder) : t.seen a = some .folder := by
  obtain ⟨es, hes⟩ := seen_eq_folder.1 h
  rw [node?_append] at hes
  obtain ⟨u, hu, hb⟩ := Option.bind_eq_some_iff.1 hes
  cases u with
  | folder es' => exact seen_eq_folder.2 ⟨es', hu⟩
  | file c => cases b <;> simp at hb

theorem folder_dropLast {t : FileTree} {names : List String} (h : t.seen names = some .folder) :
    t.seen names.dropLast = some .folder := by
  cases hn : names.getLast? with
  | none => rw [List.getLast?_eq_none_iff] at hn; subst hn; exact h
  | some x =>
    rw [← List.dropLast_append_getLast? x hn] at h
    exact folder_of_append h

/-- From a folder a step that names no entry leads to a folder. -/
theorem folder_move {t : FileTree} {names : List String} {step : String}
    (h : t.seen names = some .folder) (hstep : step = "" ∨ step = "." ∨ step = "..") :
    t.seen (move names step) = some .folder := by
  rw [move]
  split_ifs
  · exact h
  · exact folder_dropLast h
  · tauto

section
variable {t : FileTree} {names steps : List String}

/-- Once its folders have been created, a path leads to a folder. -/
theorem follow_of_createAlong (hd : t.seen names = some .folder)
    (h : (t.createAlong names steps).1 = .ok ()) :
    ∃ r, (t.createAlong names steps).2.follow names steps = .ok r ∧
      (t.createAlong names steps).2.seen r = some .folder := by
  induction steps generalizing t names with
  | nil => exact ⟨names, rfl, hd⟩
  | cons step rest ih =>
    have hd' := folder_createAlong hd names (step :: rest)
    rcases createAlong_cases t names step rest with
      ⟨hmoves, heq⟩ | ⟨hentry, hfolder, heq⟩ | ⟨hentry, hnone, heq⟩ | ⟨-, e, heq⟩ <;>
      rw [heq] at h hd' ⊢
    · rw [follow_move hd' hmoves]
      exact ih (folder_move hd hmoves) h
    · rw [follow_entry hd' hentry]
      exact ih hfolder h
    · rw [follow_entry hd' hentry]
      refine ih ?_ h
      rw [seen_put_empty hd hnone, if_pos rfl]
    · cases h

/-- **Creating folders goes on where it was broken off**, at its end or on a way that can be created. -/
theorem createAlong_resume {front : List String} (hd : t.seen names = some .folder)
    (hfront : front <+: steps) (h : front = steps ∨ (t.createAlong names steps).1 = .ok ()) :
    (t.createAlong names front).2.createAlong names steps = t.createAlong names steps := by
  induction front generalizing t names steps with
  | nil => rfl
  | cons step front ih =>
    obtain ⟨rest, rfl⟩ := hfront
    rw [List.cons_append] at h ⊢
    have hrest : front <+: front ++ rest := List.prefix_append front rest
    rcases createAlong_cases t names step (front ++ rest) with
      ⟨hmoves, heq⟩ | ⟨hentry, hfolder, heq⟩ | ⟨hentry, hnone, heq⟩ | ⟨-, e, heq⟩ <;>
      rw [heq] at h ⊢
    · rw [createAlong_move hmoves, createAlong_move hmoves]
      exact ih (folder_move hd hmoves) hrest (h.imp_left List.tail_eq_of_cons_eq)
    · rw [createAlong_enter hentry hfolder,
        createAlong_enter hentry (folder_createAlong hfolder _ _)]
      exact ih hfolder hrest (h.imp_left List.tail_eq_of_cons_eq)
    · rw [createAlong_missing hentry hnone]
      split_ifs
      · -- the folder has not been created yet
        exact heq
      · have hnew : (t.put (names ++ [step]) empty).seen (names ++ [step]) = some .folder := by
          rw [seen_put_empty hd hnone, if_pos rfl]
        rw [createAlong_enter hentry (folder_createAlong hnew _ _)]
        exact ih hnew hrest (h.imp_left List.tail_eq_of_cons_eq)
    · rcases h with hsame | h
      · rw [hsame, heq, heq]
      · cases h

/-- A second attempt does nothing, and fails as the first one did. -/
theorem createAlong_createAlong (hd : t.seen names = some .folder) :
    (t.createAlong names steps).2.createAlong names steps = t.createAlong names steps :=
  createAlong_resume hd (List.prefix_refl steps) (.inl rfl)

/-- A file has no folders to be created in. -/
theorem createAlong_file (c : Bytes) (names steps : List String) :
    ((file c).createAlong names steps).2 = file c := by
  induction steps generalizing names with
  | nil => rfl
  | cons step rest ih =>
    rcases createAlong_cases (file c) names step rest with
      ⟨-, h⟩ | ⟨-, -, h⟩ | ⟨-, -, h⟩ | ⟨-, e, h⟩ <;> rw [h]
    · exact ih _
    · exact ih _
    · rw [put_eq_modify, modify_file]
      exact ih _

end

end FileTree

end PacketRelay
