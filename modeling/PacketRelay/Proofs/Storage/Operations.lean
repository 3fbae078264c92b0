/-
  Records in files against records in memory.

  An `Operation` sets, gets, deletes or asks for the record at a key; `Storage.performAll` does
  operations one after the other and gives their answers.

  * `Apart`: the keys of operations have file names of their own, and no record is first written to
    the file of another one;
  * `Represents` relates a folder to the records in memory that it holds; `perform_represents`: one
    operation whose files work answers the same on both sides and keeps the relation;
  * `answers_directory`: so does every sequence of operations that starts with an empty folder.

  Keys that are not apart are mixed up (`answers_directory_mixed_up`).
-/
import PacketRelay.Proofs.Storage.Record

namespace PacketRelay

open FileTree

namespace Storage

/-! ## Operations -/

/-- Something done with the record at a key. -/
inductive Operation where
  | set (key : String) (value : Bytes)
  | get (key : String)
  | delete (key : String)
  | contains (key : String)

/-- The key of the record. -/
def Operation.key : Operation → String
  | .set key _ | .get key | .delete key | .contains key => key

/-- Whether the record is set. -/
def Operation.sets : Operation → Bool
  | .set _ _ => true
  | _ => false

/-- What an operation answers. -/
inductive Answer where
  | done
  | content (value : Bytes)
  | presence (found : Bool)
deriving Repr, DecidableEq

/-- Does one operation. -/
def perform (s : Storage) : Operation → Except StorageError Answer × Storage
  | .set key value => ((s.set key value).1.map fun _ => .done, (s.set key value).2)
  | .get key => ((s.get key).map .content, s)
  | .delete key => ((s.delete key).1.map fun _ => .done, (s.delete key).2)
  | .contains key => ((s.contains key).map .presence, s)

/-- Does operations one after the other and gives their answers. -/
def performAll (s : Storage) : List Operation → List (Except StorageError Answer) × Storage
  | [] => ([], s)
  | op :: rest =>
    let (answers, s') := (s.perform op).2.performAll rest
    ((s.perform op).1 :: answers, s')

/-- Whether an answer is not the failure of a file operation. -/
def works : Except StorageError Answer → Bool
  | .error (.backend _) => false
  | _ => true

/-- The keys of operations stay apart when each has a file of its own.  The empty key and those that
    name a folder have none. -/
structure Apart (ops : List Operation) : Prop where
  named : ∀ a ∈ ops, a.key ≠ "" ∧ a.key ≠ "." ∧ a.key ≠ ".."
  files : ∀ a ∈ ops, ∀ b ∈ ops, a.key ≠ b.key → fileName a.key ≠ fileName b.key
  /-- No record is first written to the file of another one. -/
  beside : ∀ a ∈ ops, a.sets → ∀ b ∈ ops, a.key ≠ b.key → temporaryName a.key ≠ fileName b.key

/-! ## File names -/

theorem isStep_fileName {key : String} (h : key ≠ "" ∧ key ≠ "." ∧ key ≠ "..") :
    Path.IsStep (fileName key) := by
  have hname : (fileName key).toList =
      key.toList.map fun c => if c = '/' ∨ c = '\\' ∨ c = ':' then '_' else c := by
    rw [fileName, String.toList_ofList]
  -- a dot in the file name is a dot in the key
  have hdot : ∀ c : Char, (if c = '/' ∨ c = '\\' ∨ c = ':' then '_' else c) = '.' → c = '.' := by
    intro c hc
    split_ifs at hc
    · exact absurd hc (by decide)
    · exact hc
  refine ⟨?_, ?_, ?_, ?_⟩
  · intro he
    apply h.1
    rw [he] at hname
    exact String.toList_eq_nil_iff.1 (List.map_eq_nil_iff.1 hname.symm)
  · intro he
    apply h.2.1
    rw [he] at hname
    obtain ⟨c, hc, hcd⟩ := List.map_eq_singleton_iff.1 hname.symm
    apply String.toList_injective
    rw [hc, hdot c hcd]
    rfl
  · intro he
    apply h.2.2
    rw [he] at hname
    obtain ⟨c, r, hc, hcd, hr⟩ := List.map_eq_cons_iff.1 hname.symm
    obtain ⟨d, rfl, hdd⟩ := List.map_eq_singleton_iff.1 hr
    apply String.toList_injective
    rw [hc, hdot c hcd, hdot d hdd]
    rfl
  · intro hmem
    rw [hname] at hmem
    obtain ⟨c, -, hc⟩ := List.mem_map.1 hmem
    split_ifs at hc with hslash
    · exact absurd hc (by decide)
    · exact hslash (.inl hc)

theorem isStep_renamed {n x : String} (hn : Path.IsStep n) (hx : '/' ∉ x.toList)
    (hx' : 2 ≤ x.length) : Path.renamed n x = ".." ∨ Path.IsStep (Path.renamed n x) := by
  simp only [Path.renamed]
  split_ifs
  · exact .inl rfl
  · right
    have hlen : 3 ≤ (String.ofList (Path.splitName n.toList).1 ++ "." ++ x).length := by
      simp only [String.length_append]
      have : ".".length = 1 := rfl
      omega
    have hslash : '/' ∉ (String.ofList (Path.splitName n.toList).1 ++ "." ++ x).toList := by
      have hstem : '/' ∉ (Path.splitName n.toList).1 :=
        fun h => hn.noSlash ((Path.stem_isPrefixOf n.toList).subset h)
      simp [String.toList_append, hstem, hx]
    generalize String.ofList (Path.splitName n.toList).1 ++ "." ++ x = m at hlen hslash
    refine ⟨?_, ?_, ?_, hslash⟩
    all_goals
      rintro rfl
      revert hlen
      decide

/-! ## Files that work -/

theorem lookup_dropRecord (key k : String) (records : List (String × Bytes)) :
    (dropRecord key records).lookup k = if k = key then none else records.lookup k :=
  lookup_filter_ne key k records

theorem contains_memory (records : List (String × Bytes)) (key : String) :
    (memory records).contains key = .ok (records.lookup key).isSome := by
  refine congrArg Except.ok (Bool.eq_iff_iff.2 ?_)
  rw [List.lookup_isSome_iff, List.any_eq_true]
  simp only [beq_iff_eq, @eq_comm _ key]

theorem delete_missing {base : Path} {t : FileTree} {key : String}
    (h : t.remove (filePath base key) = .error .notFound) :
    (directory base t).delete key = (.ok (), directory base t) := by
  unfold delete
  simp only [h]

theorem delete_removed {base : Path} {t t' : FileTree} {key : String}
    (h : t.remove (filePath base key) = .ok t') :
    (directory base t).delete key = (.ok (), directory base t') := by
  unfold delete
  simp only [h]

theorem runSteps_ok_cons {t : FileTree} {step : WriteStep} {rest : List WriteStep}
    (h : (runSteps t (step :: rest)).1 = .ok ()) :
    ∃ t', step.run t = (.ok (), t') ∧ (runSteps t' rest).1 = .ok () := by
  rw [runSteps] at h
  split at h
  · cases h
  · exact ⟨_, ‹_›, h⟩

theorem wholly_eq_ok {t t' : FileTree} {result : Except FileFault FileTree}
    (h : wholly t result = (.ok (), t')) : result = .ok t' := by
  cases result with
  | error e => cases h
  | ok u => rw [(Prod.mk.inj h).2]

section
variable {base : Path} {t t' : FileTree} {key n : String} {c : Bytes}

/-- Only a file of the folder can be written to. -/
theorem isName_of_write (hn : n = ".." ∨ Path.IsStep n) (h : t.write (base.join ⟨n⟩) c = .ok t') :
    Path.IsName n := by
  rcases hn with rfl | hn
  · obtain ⟨e, he⟩ := write_upwards t base c
    rw [he] at h
    cases h
  · by_contra hname
    obtain ⟨e, he, -⟩ := resolve_of_not_isName t base hn hname
    simp only [write, he] at h
    cases h

/-- A file is moved to a file of the folder only. -/
theorem isName_of_rename {source : Path} (hn : Path.IsStep n)
    (h : t.rename source (base.join ⟨n⟩) = .ok t') : Path.IsName n := by
  by_contra hname
  obtain ⟨e, he, -⟩ := resolve_of_not_isName t base hn hname
  simp only [rename, he] at h
  cases hs : t.resolve source with
  | error e =>
    rw [hs] at h
    cases h
  | ok names =>
    rw [hs] at h
    cases h

/-- Only a key whose two names are those of files can be set. -/
theorem isName_of_set (hs : Path.IsStep (fileName key))
    (h : (runSteps t (writeSteps base key c)).1 = .ok ()) :
    Path.IsName (fileName key) ∧ Path.IsName (temporaryName key) := by
  rw [writeSteps, temporaryPath_eq hs] at h
  obtain ⟨t₁, -, h⟩ := runSteps_ok_cons h
  obtain ⟨t₂, hwrite, h⟩ := runSteps_ok_cons h
  obtain ⟨t₃, hrename, -⟩ := runSteps_ok_cons h
  simp only [WriteStep.run] at hwrite hrename
  exact ⟨isName_of_rename hs (wholly_eq_ok hrename),
    isName_of_write (isStep_renamed hs (by decide) (by decide)) (wholly_eq_ok hwrite)⟩

/-- In a folder that is there, what cannot be the name of a file makes every operation fail. -/
theorem isName_of_works (hl : t.locate base = .ok base.place) {op : Operation}
    (hs : Path.IsStep (fileName op.key)) (h : works ((directory base t).perform op).1) :
    Path.IsName (fileName op.key) := by
  by_contra hname
  have hbad : t.resolve (filePath base op.key) = .error .badName := resolve_badName hl hs hname
  cases op with
  | set key v =>
    cases hr : (runSteps t (writeSteps base key v)).1 with
    | ok => exact hname (isName_of_set hs hr).1
    | error e =>
      simp only [perform, set, hr] at h
      cases h
  | get key =>
    have hread : t.read (filePath base key) = .error .badName := by
      simp only [FileTree.read, find, show t.resolve (filePath base key) = _ from hbad]
      rfl
    simp only [perform, Storage.get, hread] at h
    cases h
  | delete key =>
    have hremove : t.remove (filePath base key) = .error .badName := by
      simp only [remove, show t.resolve (filePath base key) = _ from hbad]
      rfl
    unfold perform delete at h
    simp only [hremove] at h
    cases h
  | contains key =>
    have hexists : t.exists? (filePath base key) = .error .badName := by
      simp only [exists?, find, show t.resolve (filePath base key) = _ from hbad]
      rfl
    simp only [perform, contains, hexists] at h
    cases h

end

/-! ## One operation -/

/-- A folder holds the records in memory, as far as operations ask for them. -/
structure Represents (base : Path) (ops : List Operation) (t : FileTree)
    (records : List (String × Bytes)) : Prop where
  located : t.locate base = .ok base.place
  same : ∀ a ∈ ops,
    t.seen (base.place ++ [fileName a.key]) = (records.lookup a.key).map Kind.file

section
variable {base : Path} {ops : List Operation} {t : FileTree} {records : List (String × Bytes)}

namespace Represents

variable {key : String} (h : Represents base ops t records)
include h

theorem set_works (hapart : Apart ops) {v : Bytes} (hop : .set key v ∈ ops)
    (hworks : works ((directory base t).perform (.set key v)).1) :
    ∃ t', (directory base t).set key v = (.ok (), directory base t') ∧
      Represents base ops t' (setRecord key v records) := by
  have hsteps : (runSteps t (writeSteps base key v)).1 = .ok () := by
    cases hr : (runSteps t (writeSteps base key v)).1 with
    | ok => rfl
    | error e =>
      simp only [perform, set, hr] at hworks
      cases hworks
  have hstep : Path.IsStep (fileName key) := isStep_fileName (hapart.named _ hop)
  obtain ⟨hn, hm⟩ := isName_of_set hstep hsteps
  have hw := written_runSteps base hn hm v t
  rw [opened_of_locate h.located] at hw
  generalize hout : runSteps t (writeSteps base key v) = out at hw hsteps
  obtain ⟨r, t'⟩ := out
  obtain rfl : r = .ok () := hsteps
  refine ⟨t', by simp only [set, hout]; rfl, ?_⟩
  cases hw with
  | record _ hl hv _ hother =>
    refine ⟨hl, ?_⟩
    intro a ha
    rw [lookup_setRecord]
    by_cases hk : a.key = key
    · rw [if_pos hk, hk, hv]
      rfl
    · have hfile : fileName a.key ≠ fileName key := hapart.files a ha (.set key v) hop hk
      have hbeside : temporaryName key ≠ fileName a.key :=
        hapart.beside (.set key v) hop rfl a ha (Ne.symm hk)
      rw [if_neg hk, hother _ (by simpa using hbeside.symm) (by simpa using hfile), h.same a ha]

theorem get_works (hn : Path.IsName (fileName key)) (hop : .get key ∈ ops) :
    (directory base t).get key = (memory records).get key := by
  have hseen := h.same _ hop
  simp only [Operation.key] at hseen
  simp only [Storage.get, filePath, read_join hn, h.located, Except.bind, hseen]
  cases records.lookup key <;> rfl

theorem delete_works (hapart : Apart ops) (hop : .delete key ∈ ops)
    (hn : Path.IsName (fileName key)) :
    ∃ t', (directory base t).delete key = (.ok (), directory base t') ∧
      Represents base ops t' (dropRecord key records) := by
  have hseen := h.same _ hop
  simp only [Operation.key] at hseen
  have hremove : t.remove (filePath base key) = _ := remove_join hn
  rw [h.located, Except.bind, hseen] at hremove
  have hlookup : ∀ a ∈ ops, a.key ≠ key → (dropRecord key records).lookup a.key =
      records.lookup a.key := by
    intro a _ hk
    rw [lookup_dropRecord, if_neg hk]
  cases hl : records.lookup key with
  | none =>
    rw [hl] at hremove
    refine ⟨t, delete_missing hremove, h.located, ?_⟩
    intro a ha
    by_cases hk : a.key = key
    · rw [lookup_dropRecord, if_pos hk, h.same a ha, hk, hl]
    · rw [hlookup a ha hk, h.same a ha]
  | some v =>
    rw [hl] at hremove hseen
    have hdrop := seen_drop (locate_eq_ok.1 h.located).2.2
      (show t.seen (base.place ++ [fileName key]) ≠ some .folder by simp [hseen])
    refine ⟨_, delete_removed hremove, ?_, ?_⟩
    · refine locate_mono ?_ h.located
      intro n hn
      rw [hdrop, if_neg, hn]
      rintro rfl
      simp [hseen] at hn
    · intro a ha
      rw [hdrop]
      by_cases hk : a.key = key
      · rw [if_pos (by rw [hk]), lookup_dropRecord, if_pos hk]
        rfl
      · have hfile : fileName a.key ≠ fileName key := hapart.files a ha (.delete key) hop hk
        rw [if_neg (by simpa using hfile), hlookup a ha hk, h.same a ha]

theorem contains_works (hn : Path.IsName (fileName key)) (hop : .contains key ∈ ops) :
    (directory base t).contains key = (memory records).contains key := by
  have hseen := h.same _ hop
  simp only [Operation.key] at hseen
  rw [contains_memory]
  simp only [contains, filePath, exists_join hn, h.located, hseen]
  cases records.lookup key <;> rfl

end Represents

/-- **One operation whose files work answers as in memory.** -/
theorem perform_represents (h : Represents base ops t records) (hapart : Apart ops)
    {op : Operation} (hop : op ∈ ops) (hworks : works ((directory base t).perform op).1) :
    ∃ r t' records', (directory base t).perform op = (r, directory base t') ∧
      (memory records).perform op = (r, memory records') ∧ Represents base ops t' records' := by
  have hn := isName_of_works h.located (isStep_fileName (hapart.named op hop)) hworks
  cases op with
  | set key v =>
    obtain ⟨t', hset, h'⟩ := h.set_works hapart hop hworks
    exact ⟨.ok .done, t', _, by simp only [perform, hset]; rfl, rfl, h'⟩
  | get key =>
    have hget : (directory base t).get key = (memory records).get key := h.get_works hn hop
    exact ⟨_, t, records, rfl, by simp only [perform, hget], h⟩
  | delete key =>
    obtain ⟨t', hdelete, h'⟩ := h.delete_works hapart hop hn
    exact ⟨.ok .done, t', _, by simp only [perform, hdelete]; rfl, rfl, h'⟩
  | contains key =>
    have hcontains : (directory base t).contains key = (memory records).contains key :=
      h.contains_works hn hop
    exact ⟨_, t, records, rfl, by simp only [perform, hcontains], h⟩

end

/-! ## Sequences of operations -/

theorem performAll_append (s : Storage) (a b : List Operation) :
    (s.performAll (a ++ b)).1 = (s.performAll a).1 ++ ((s.performAll a).2.performAll b).1 := by
  induction a generalizing s with
  | nil => rfl
  | cons op a ih =>
    simp only [List.cons_append, performAll, ih]

section
variable {base : Path} {ops : List Operation} {t t' : FileTree} {records : List (String × Bytes)}

/-- Operations whose files work answer as in memory, one after the other. -/
theorem performAll_represents (hapart : Apart ops) {rest : List Operation} (hrest : rest ⊆ ops)
    (h : Represents base ops t records)
    (hworks : ∀ r ∈ ((directory base t).performAll rest).1, works r) :
    ((directory base t).performAll rest).1 = ((memory records).performAll rest).1 ∧
      ∃ t' records', ((directory base t).performAll rest).2 = directory base t' ∧
        Represents base ops t' records' := by
  induction rest generalizing t records with
  | nil => exact ⟨rfl, t, records, rfl, h⟩
  | cons op rest ih =>
    obtain ⟨hop, hrest⟩ := List.cons_subset.1 hrest
    simp only [performAll, List.forall_mem_cons] at hworks ⊢
    obtain ⟨hfirst, hworks⟩ := hworks
    obtain ⟨r, t₁, records₁, hdirectory, hmemory, h₁⟩ := perform_represents h hapart hop hfirst
    rw [hdirectory] at hworks
    obtain ⟨hanswers, hstate⟩ := ih hrest h₁ hworks
    rw [hdirectory, hmemory]
    exact ⟨congrArg (r :: ·) hanswers, hstate⟩

/-- Two folders that hold the same under the name of a key answer the same for it. -/
theorem same_of_seen {key : String} (hs : Path.IsStep (fileName key))
    (hl : t.locate base = .ok base.place) (hl' : t'.locate base = .ok base.place)
    (h : t'.seen (base.place ++ [fileName key]) = t.seen (base.place ++ [fileName key])) :
    (directory base t').get key = (directory base t).get key ∧
      (directory base t').contains key = (directory base t).contains key := by
  by_cases hn : Path.IsName (fileName key)
  · simp only [Storage.get, contains, filePath, read_join hn, exists_join hn, hl, hl', Except.bind, h,
      and_self]
  · have hbad := resolve_badName hl hs hn
    have hbad' := resolve_badName hl' hs hn
    simp only [Storage.get, contains, filePath, FileTree.read, exists?, find, hbad, hbad']
    exact ⟨rfl, rfl⟩

theorem lookup_perform {op : Operation} {k : String} (hk : k ≠ op.key) {r : Except StorageError Answer}
    {records' : List (String × Bytes)} (h : (memory records).perform op = (r, memory records')) :
    records'.lookup k = records.lookup k := by
  have hstate : ((memory records).perform op).2 = memory records' := congrArg Prod.snd h
  cases op with
  | set key v =>
    obtain rfl := memory.inj (hstate : memory (setRecord key v records) = memory records')
    rw [lookup_setRecord, if_neg (show k ≠ key from hk)]
  | delete key =>
    obtain rfl := memory.inj (hstate : memory (dropRecord key records) = memory records')
    rw [lookup_dropRecord, if_neg (show k ≠ key from hk)]
  | get key | contains key =>
    obtain rfl := memory.inj (hstate : memory records = memory records')
    rfl

/-- An operation leaves the records at other keys as they are. -/
theorem Represents.others (h : Represents base ops t records) (hapart : Apart ops) {op b : Operation}
    (hop : op ∈ ops) (hb : b ∈ ops) (hk : b.key ≠ op.key)
    (hworks : works ((directory base t).perform op).1) :
    ((directory base t).perform op).2.get b.key = (directory base t).get b.key ∧
      ((directory base t).perform op).2.contains b.key = (directory base t).contains b.key := by
  obtain ⟨r, t', records', hdirectory, hmemory, h'⟩ := perform_represents h hapart hop hworks
  rw [hdirectory]
  refine same_of_seen (isStep_fileName (hapart.named b hb)) h.located h'.located ?_
  rw [h.same b hb, h'.same b hb, lookup_perform hk hmemory]

/-- An empty folder. -/
structure Empty (base : Path) (t : FileTree) : Prop where
  located : t.locate base = .ok base.place
  empty : ∀ n, t.seen (base.place ++ [n]) = none

/-- **Files answer as memory does.** Operations on keys that are apart, done in an empty folder whose
    files work, answer what they answer on records in memory; and none of them changes what is found
    under the key of another one. -/
theorem answers_directory (hempty : Empty base t) (hapart : Apart ops)
    (hworks : ∀ r ∈ ((directory base t).performAll ops).1, works r) :
    ((directory base t).performAll ops).1 = ((memory []).performAll ops).1 ∧
      ∀ before op after, ops = before ++ op :: after → ∀ b ∈ ops, b.key ≠ op.key →
        let s := ((directory base t).performAll before).2
        (s.perform op).2.get b.key = s.get b.key ∧
          (s.perform op).2.contains b.key = s.contains b.key := by
  have h : Represents base ops t [] := ⟨hempty.located, fun a _ => hempty.empty _⟩
  refine ⟨(performAll_represents hapart (List.Subset.refl ops) h hworks).1, ?_⟩
  intro before op after hops b hb hk
  rw [hops, performAll_append, List.forall_mem_append] at hworks
  have hbefore : before ⊆ ops := hops ▸ List.subset_append_left _ _
  obtain ⟨-, t', records', hstate, h'⟩ := performAll_represents hapart hbefore h hworks.1
  rw [hstate] at hworks ⊢
  simp only [performAll, List.forall_mem_cons] at hworks
  exact h'.others hapart (hops ▸ List.mem_append_right _ List.mem_cons_self) hb hk hworks.2.1

end

/-! ## A store -/

/-- A tree with an empty folder for records. -/
def emptyStore : FileTree := folder [("store", folder [])]

theorem empty_emptyStore : Empty ⟨"store"⟩ emptyStore := ⟨by decide, fun _ => rfl⟩

/-- Operations on three records, one of them with a key that is no file name. -/
def threeRecords : List Operation :=
  [.set "send" [0x31], .set "chain/1.cursor" [0x32], .contains "recv", .delete "send",
    .get "send", .get "chain/1.cursor"]

theorem apart_threeRecords : Apart threeRecords := by
  constructor <;> decide

theorem works_threeRecords :
    ∀ r ∈ ((directory ⟨"store"⟩ emptyStore).performAll threeRecords).1, works r := by
  decide

theorem answers_directory_three_records :
    Empty ⟨"store"⟩ emptyStore ∧ Apart threeRecords ∧
      (∀ r ∈ ((directory ⟨"store"⟩ emptyStore).performAll threeRecords).1, works r) ∧
      ((directory ⟨"store"⟩ emptyStore).performAll threeRecords).1 =
        ((memory []).performAll threeRecords).1 ∧
      ((directory ⟨"store"⟩ emptyStore).perform (.set "send" [0x31])).2.get "chain/1.cursor" =
        (directory ⟨"store"⟩ emptyStore).get "chain/1.cursor" := by
  obtain ⟨hanswers, hothers⟩ :=
    answers_directory empty_emptyStore apart_threeRecords works_threeRecords
  refine ⟨empty_emptyStore, apart_threeRecords, works_threeRecords, hanswers, ?_⟩
  exact (hothers [] (.set "send" [0x31]) _ rfl (.get "chain/1.cursor") (by simp [threeRecords])
    (by decide)).1

/-- Keys that are not apart: two with one file name, one with the name of the file beside another
    record, and one that names the folder itself. -/
def notApart : List (List Operation) :=
  [[.set "a/b" [1], .get "a_b"], [.set "a.tmp" [1], .set "a.b" [2], .contains "a.tmp"],
    [.contains "."]]

/-- **Keys that are not apart are mixed up**, though all files work. -/
theorem answers_directory_mixed_up : Empty ⟨"store"⟩ emptyStore ∧ ∀ ops ∈ notApart,
    (∀ r ∈ ((directory ⟨"store"⟩ emptyStore).performAll ops).1, works r) ∧
      ((directory ⟨"store"⟩ emptyStore).performAll ops).1 ≠ ((memory []).performAll ops).1 := by
  refine ⟨empty_emptyStore, ?_⟩
  decide +kernel

end Storage

end PacketRelay
