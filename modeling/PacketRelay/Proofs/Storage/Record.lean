/-
  The records of the two directions.

  * `Storage.record` is the record of a direction as it lies in the storage, `Storage.get` what is
    found by following the path to it;
  * `Storage.opened` is the storage after an attempt to create the folder of its files, and a storage
    is `Settled` when this brings no record to light and hides none.  Records in memory are settled,
    and so are those of a folder that exists (`settled_of_locate`) or whose path does not lead
    upwards and has no name that is too long (`settled_of_plain`);
  * `not_settled_of_overlong`: below a missing folder a name must indeed not be too long;
  * `set_cases`: setting a record either fails and leaves all records as they were in the opened
    storage, or sets this one and leaves the other.  The storage is settled afterwards.
-/
import PacketRelay.Packet
import PacketRelay.Proofs.Storage.Writing

namespace PacketRelay

/-! ## The two files of a record -/

namespace Direction

/-- The name of the file to which a record is first written. -/
def temporary (d : Direction) : String := d.key ++ "." ++ "tmp"

theorem isName_key (d : Direction) : Path.IsName d.key := by
  cases d <;> refine ⟨⟨?_, ?_, ?_, ?_⟩, ?_, ?_⟩ <;> decide

theorem isName_temporary (d : Direction) : Path.IsName d.temporary := by
  cases d <;> refine ⟨⟨?_, ?_, ?_, ?_⟩, ?_, ?_⟩ <;> decide

theorem temporary_ne_key (d e : Direction) : d.temporary ≠ e.key := by
  cases d <;> cases e <;> decide

theorem fileName_key (d : Direction) : Storage.fileName d.key = d.key := by
  cases d <;> decide

theorem temporaryName_key (d : Direction) : Storage.temporaryName d.key = d.temporary := by
  cases d <;> decide

theorem filePath_key (base : Path) (d : Direction) :
    Storage.filePath base d.key = base.join ⟨d.key⟩ := by
  rw [Storage.filePath, fileName_key]

end Direction

namespace Storage

open FileTree

/-! ## Records -/

/-- The record of a direction as it lies in the storage. -/
def record (s : Storage) (d : Direction) : Option Bytes :=
  match s with
  | memory records => records.lookup d.key
  | directory base tree => match tree.seen (base.place ++ [d.key]) with
    | some (.file content) => some content
    | _ => none

/-- The storage after an attempt to create the folder of its files, which may have come to a part of
    the way only. -/
def opened : Storage → Storage
  | memory records => memory records
  | directory base tree => directory base (tree.opened base)

/-- Trying to create the folder of the files changes no record that is found. -/
def Settled (s : Storage) : Prop := ∀ d : Direction, s.opened.get d.key = s.get d.key

theorem get_directory (base : Path) (t : FileTree) (d : Direction) :
    (directory base t).get d.key =
      ((t.locate base).bind fun dir => content (t.seen (dir ++ [d.key]))).mapError ofFault := by
  simp only [get, d.filePath_key, read_join d.isName_key]

theorem get_of_locate {base : Path} {t : FileTree} (h : t.locate base = .ok base.place)
    (d : Direction) :
    (directory base t).get d.key = (content (t.seen (base.place ++ [d.key]))).mapError ofFault := by
  rw [get_directory, h]
  rfl

theorem get_of_error {base : Path} {t : FileTree} {e : FileFault} (h : t.locate base = .error e)
    (d : Direction) : (directory base t).get d.key = .error (ofFault e) := by
  rw [get_directory, h]
  rfl

theorem get_of_missing {base : Path} {t : FileTree} (h : t.locate base = .error .notFound)
    (d : Direction) : (directory base t).get d.key = .error .notFound := get_of_error h d

/-- A record that is found is the one that lies in the storage. -/
theorem record_of_get {s : Storage} {d : Direction} {c : Bytes} (h : s.get d.key = .ok c) :
    s.record d = some c := by
  cases s with
  | memory records =>
    simp only [get] at h
    split at h
    · cases h
    · rename_i hc
      obtain rfl := Except.ok.inj h
      exact hc
  | directory base t =>
    rw [get_directory] at h
    cases hl : t.locate base with
    | error e =>
      rw [hl] at h
      cases h
    | ok dir =>
      obtain rfl := place_of_locate hl
      simp only [hl, Except.bind] at h
      simp only [record]
      cases hk : t.seen (base.place ++ [d.key]) with
      | none =>
        rw [hk] at h
        cases h
      | some u =>
        cases u with
        | folder =>
          rw [hk] at h
          cases h
        | file c' =>
          rw [hk] at h
          exact congrArg some (Except.ok.inj h)

/-- Where there is something, no record is missing. -/
theorem get_ne_notFound {s : Storage} {key : String} (h : s.contains key = .ok true) :
    s.get key ≠ .error .notFound := by
  cases s with
  | memory records =>
    simp only [get]
    cases hl : records.lookup key with
    | none =>
      obtain ⟨r, hr, hkey⟩ := List.any_eq_true.1 (Except.ok.inj h)
      obtain rfl : r.1 = key := beq_iff_eq.1 hkey
      have hne := List.lookup_eq_none_iff.1 hl r hr
      exact absurd rfl (bne_iff_ne.1 hne)
    | some value =>
      intro hn
      cases hn
  | directory base t =>
    simp only [contains, exists?] at h
    simp only [get, FileTree.read]
    generalize t.find (filePath base key) = found at h ⊢
    rcases found with e | content | entries
    · cases e <;> cases h
    · intro hn
      cases hn
    · intro hn
      cases hn

theorem settled_memory (records : List (String × Bytes)) : (memory records).Settled := fun _ => rfl

theorem settled_of_opened {base : Path} {t : FileTree} (h : t.opened base = t) :
    (directory base t).Settled := by
  intro d
  rw [opened, h]

/-- The files of a folder that exists are settled. -/
theorem settled_of_locate {base : Path} {t : FileTree} {dir : List String}
    (h : t.locate base = .ok dir) : (directory base t).Settled :=
  settled_of_opened (opened_of_locate h)

/-- Where nothing, or an empty folder, is at the place of the records, none is found. -/
theorem get_of_vacant {base : Path} {t : FileTree} (hz : base.text.toList.contains '\x00' = false)
    (h : t.Vacant [] base.way) (d : Direction) :
    (directory base t).get d.key = .error .notFound := by
  rcases h with hmissing | ⟨dir, hdir, hempty⟩
  · exact get_of_missing (by rw [locate, hz, if_neg (by simp), hmissing]) d
  · rw [get_directory, locate, hz, if_neg (by simp), hdir, Except.bind, hempty d.key]
    rfl

/-- The files of a folder whose path does not lead upwards and has no name that is too long are
    settled, be the folder there or missing, and whether it can be created or not. -/
theorem settled_of_plain {base : Path} (t : FileTree)
    (hplain : ∀ step ∈ base.steps, step ≠ ".." ∧ (utf8 step).length ≤ nameLimit) :
    (directory base t).Settled := by
  have hway : ∀ step ∈ base.way, IsPlain step := by
    rcases base.steps_eq_way with hs | hs <;> rw [hs] at hplain
    · exact hplain
    · exact fun step hmem => hplain step (List.mem_append_left _ hmem)
  cases t with
  | file c => exact settled_of_opened (opened_file c base)
  | folder es =>
    cases hz : base.text.toList.contains '\x00' with
    | true => exact settled_of_opened (by rw [FileTree.opened, openFolders_eq, if_pos hz])
    | false =>
      have hopened : (folder es).opened base = ((folder es).createAlong [] base.way).2 := by
        rw [FileTree.opened, openFolders_eq, hz, if_neg (by simp)]
      have hroot : (folder es).seen [] = some .folder := rfl
      rcases createAlong_plain hway hroot with hsame | ⟨hmissing, hvacant⟩
      · exact settled_of_opened (hopened.trans hsame)
      · -- no record was found before, and none is afterwards
        intro d
        rw [opened, hopened, get_of_vacant hz hvacant, get_of_vacant hz (.inl hmissing)]

/-- **Below a missing folder no name may be too long.**  The folder is created before the one with
    that name cannot be: the records were missing, and then they cannot be looked up. -/
theorem not_settled_of_overlong {base : Path} {t : FileTree} {n : String} (hn : Path.IsOverlong n)
    (hroot : t.seen [] = some .folder) (hmissing : t.locate base = .error .notFound)
    (hopen : (t.openFolders base).1 = .ok ()) : ¬ (directory (base.join ⟨n⟩) t).Settled := by
  obtain ⟨dir, hdir⟩ := locate_of_openFolders hroot hopen
  have hbefore : t.locate (base.join ⟨n⟩) = .error .notFound := by
    rw [locate_overlong hn, hmissing, Except.bind]
  have hafter : (t.opened (base.join ⟨n⟩)).locate (base.join ⟨n⟩) = .error .badName := by
    rw [FileTree.opened, openFolders_overlong hn hopen, locate_overlong hn, hdir, Except.bind]
  intro hsettled
  have hsame := hsettled .sent
  rw [opened, get_of_error hafter, get_of_error hbefore] at hsame
  cases hsame

theorem record_opened (s : Storage) (d : Direction) : s.opened.record d = s.record d := by
  cases s with
  | memory records => rfl
  | directory base t =>
    simp only [opened, record]
    rcases seen_opened t base (base.place ++ [d.key]) with h | ⟨h, h'⟩
    · rw [h]
    · rw [h, h']

/-! ## Setting a record -/

theorem lookup_setRecord (key k : String) (v : Bytes) (records : List (String × Bytes)) :
    (setRecord key v records).lookup k = if k = key then some v else records.lookup k := by
  induction records with
  | nil =>
    by_cases h : k = key
    · simp [setRecord, h]
    · simp [setRecord, h, List.lookup_cons, beq_false_of_ne h]
  | cons r records ih =>
    obtain ⟨n, u⟩ := r
    by_cases hn : n = key
    · subst hn
      by_cases h : k = n
      · simp [setRecord, h]
      · simp [setRecord, h, List.lookup_cons, beq_false_of_ne h]
    · by_cases h : k = n
      · subst h
        simp [setRecord, hn]
      · simp only [setRecord, hn, if_false, List.lookup_cons, beq_false_of_ne h]
        exact ih

theorem writeSteps_key (base : Path) (d : Direction) (v : Bytes) :
    writeSteps base d.key v = [.createFolders base, .write (base.join ⟨d.temporary⟩) v,
      .rename (base.join ⟨d.temporary⟩) (base.join ⟨d.key⟩)] := by
  rw [writeSteps, temporaryPath_eq (by rw [d.fileName_key]; exact d.isName_key.toIsStep),
    d.temporaryName_key, d.filePath_key]

/-- What the steps by which the record of a direction is set do. -/
theorem written_key (base : Path) (d : Direction) (v : Bytes) (t : FileTree) :
    Written base d.temporary d.key v (t.opened base) (runSteps t (writeSteps base d.key v)).1
      (runSteps t (writeSteps base d.key v)).2 := by
  have hn : Path.IsName (fileName d.key) := by
    rw [d.fileName_key]
    exact d.isName_key
  have hm : Path.IsName (temporaryName d.key) := by
    rw [d.temporaryName_key]
    exact d.isName_temporary
  have h := written_runSteps base hn hm v t
  rwa [d.fileName_key, d.temporaryName_key] at h

/-- The same file in two trees is the same record. -/
theorem get_eq_of_seen {base : Path} {t t' : FileTree} {d : Direction}
    (h : t.locate base = .ok base.place) (h' : t'.locate base = .ok base.place)
    (hs : t'.seen (base.place ++ [d.key]) = t.seen (base.place ++ [d.key])) :
    (directory base t').get d.key = (directory base t).get d.key ∧
      (directory base t').record d = (directory base t).record d := by
  constructor
  · rw [get_of_locate h, get_of_locate h', hs]
  · simp only [record, hs]

namespace Written

variable {base : Path} {d : Direction} {v : Bytes} {t t' : FileTree} {r : Except FileFault Unit}

/-- The steps failed and no record has changed, or one record has been set and the other has not
    changed. -/
theorem cases_records (h : Written base d.temporary d.key v t r t') :
    (∃ e, r = .error e ∧ ∀ d' : Direction,
      (directory base t').get d'.key = (directory base t).get d'.key ∧
        (directory base t').record d' = (directory base t).record d') ∨
    r = .ok () ∧ (directory base t').get d.key = .ok v ∧ ∀ d' : Direction, d' ≠ d →
      (directory base t').get d'.key = (directory base t).get d'.key ∧
        (directory base t').record d' = (directory base t).record d' := by
  have hkey : ∀ d' : Direction, base.place ++ [d'.key] ≠ base.place ++ [d.temporary] :=
    fun d' => by simpa using (d.temporary_ne_key d').symm
  cases h with
  | nothing e => exact .inl ⟨e, rfl, fun d' => ⟨rfl, rfl⟩⟩
  | beside e h h' _ hs => exact .inl ⟨e, rfl, fun d' => get_eq_of_seen h h' (hs _ (hkey d'))⟩
  | record h h' hv _ hs =>
    refine .inr ⟨rfl, ?_, fun d' hd => get_eq_of_seen h h' (hs _ (hkey d') ?_)⟩
    · rw [get_of_locate h', hv]
      rfl
    · simpa using fun hk => hd (Direction.key_injective hk)

end Written

/-- **Setting a record.** It fails and leaves every record as it was when the folder had been
    opened, or it sets this record and leaves the other one. -/
theorem set_cases (s : Storage) (d : Direction) (v : Bytes) :
    (∃ e, (s.set d.key v).1 = .error e ∧ ∀ d' : Direction,
      (s.set d.key v).2.get d'.key = s.opened.get d'.key ∧
        (s.set d.key v).2.record d' = s.record d') ∨
    (s.set d.key v).1 = .ok () ∧ (s.set d.key v).2.get d.key = .ok v ∧
      ∀ d' : Direction, d' ≠ d → (s.set d.key v).2.get d'.key = s.opened.get d'.key ∧
        (s.set d.key v).2.record d' = s.record d' := by
  cases s with
  | memory records =>
    refine Or.inr ⟨rfl, ?_, fun d' hd => ?_⟩
    · simp only [set, get, lookup_setRecord, if_true]
    · have hk : d'.key ≠ d.key := fun h => hd (Direction.key_injective h)
      simp only [set, get, record, opened, lookup_setRecord, if_neg hk, and_self]
  | directory base t =>
    have hrecord : ∀ d', (directory base t).record d' = (directory base (t.opened base)).record d' :=
      fun d' => (record_opened (directory base t) d').symm
    have hw := written_key base d v t
    simp only [set, opened, hrecord]
    generalize runSteps t (writeSteps base d.key v) = out at hw ⊢
    obtain ⟨r, t'⟩ := out
    rcases hw.cases_records with ⟨e, he, hsame⟩ | ⟨hr, hget, hsame⟩
    · refine .inl ⟨.backend e, ?_, hsame⟩
      simp only at he
      rw [he]
      rfl
    · refine .inr ⟨?_, hget, hsame⟩
      simp only at hr
      rw [hr]
      rfl

/-- Where the folder of the files cannot be created, no record is written. -/
theorem set_of_not_opened {base : Path} {t t' : FileTree} {e : FileFault}
    (h : t.openFolders base = (.error e, t')) (key : String) (v : Bytes) :
    (directory base t).set key v = (.error (.backend e), directory base t') := by
  have hrun : WriteStep.run t (.createFolders base) = (.error e, t') := h
  rw [set, writeSteps, runSteps_of_error hrun]
  rfl

theorem settled_set (s : Storage) (d : Direction) (v : Bytes) : (s.set d.key v).2.Settled := by
  cases s with
  | memory records => exact settled_memory _
  | directory base t =>
    exact settled_of_opened ((written_key base d v t).opened (opened_opened t base))

end Storage

end PacketRelay
