/-
  Stopping while a record is set.

  `Storage.stops` are the trees in which a process can stop while it does steps: between two of
  them, when some of the folders have been created, or when a part of a file has been written.  A
  move is not divided.

  * `Ready`: the folder of the records can be created and used.  The file beside a record may hold
    anything;
  * `Ready.stops`: stopping anywhere while a record is set keeps a folder ready and leaves each
    record as it was, but that the one may have been set;
  * `Ready.set_ok`: in a ready folder a record can be set.
-/
import PacketRelay.Proofs.Files.Growth
import PacketRelay.Proofs.Storage.Record
import Mathlib.Data.List.Infix

namespace PacketRelay.Storage

open FileTree

/-! ## Where a process can stop -/

/-- What a step that is not finished may have done. -/
def WriteStep.unfinished (t : FileTree) : WriteStep → List FileTree
  | createFolders p =>
    if p.text.toList.contains '\x00' then []
    else p.steps.inits.map fun steps => (t.createAlong [] steps).2
  | write p content => content.inits.filterMap fun c => (t.write p c).toOption
  | rename _ _ => []

/-- The trees in which a process can stop while it does steps. -/
def stops (t : FileTree) : List WriteStep → List FileTree
  | [] => [t]
  | step :: rest => t :: step.unfinished t ++ match step.run t with
    | (.error _, t') => [t']
    | (.ok (), t') => stops t' rest

/-- One can stop after any of the steps, and after the last. -/
theorem runSteps_mem_stops {done steps : List WriteStep} (t : FileTree) (h : done <+: steps) :
    (runSteps t done).2 ∈ stops t steps := by
  obtain ⟨rest, rfl⟩ := h
  induction done generalizing t with
  | nil =>
    cases rest with
    | nil => exact List.mem_singleton_self t
    | cons step rest => exact List.mem_cons_self
  | cons step done ih =>
    simp only [runSteps, List.cons_append, stops]
    rcases step.run t with ⟨e | _, t'⟩
    · exact List.mem_cons_of_mem _ (List.mem_append_right _ (List.mem_singleton_self t'))
    · exact List.mem_cons_of_mem _ (List.mem_append_right _ (ih t'))

/-- Where a step succeeds, one stops before it, in it or later. -/
theorem mem_stops_cons {t t' u : FileTree} {step : WriteStep} {rest : List WriteStep}
    (hrun : step.run t = (.ok (), u)) :
    t' ∈ stops t (step :: rest) ↔ t' = t ∨ t' ∈ step.unfinished t ∨ t' ∈ stops u rest := by
  simp only [stops, hrun, List.cons_append, List.mem_cons, List.mem_append]

/-- The last step is not divided. -/
theorem mem_stops_last {t t' : FileTree} {source target : Path}
    (h : t' ∈ stops t [.rename source target]) :
    t' = t ∨ t' = (WriteStep.run t (.rename source target)).2 := by
  simp only [stops, WriteStep.unfinished, List.cons_append, List.nil_append, List.mem_cons] at h
  refine h.imp_right fun h => ?_
  rcases hrun : WriteStep.run t (.rename source target) with ⟨e | _, u⟩ <;> rw [hrun] at h
  · exact List.mem_singleton.1 h
  · exact List.mem_singleton.1 h

section
variable {base : Path} {t t' : FileTree}

theorem mem_unfinished_createFolders (hroot : t.seen [] = some .folder)
    (hopen : (t.openFolders base).1 = .ok ())
    (h : t' ∈ WriteStep.unfinished t (.createFolders base)) :
    t.Extends t' ∧ t'.openFolders base = t.openFolders base := by
  simp only [WriteStep.unfinished] at h
  split_ifs at h with hz
  · cases h
  · obtain ⟨front, hfront, rfl⟩ := List.mem_map.1 h
    rw [List.mem_inits] at hfront
    exact ⟨extends_createAlong t [] front, openFolders_of_stopped hroot hfront hopen⟩

theorem mem_unfinished_write {name : String} (hn : Path.IsName name) {v : Bytes}
    (hl : t.locate base = .ok base.place)
    (h : t' ∈ WriteStep.unfinished t (.write (base.join ⟨name⟩) v)) :
    ∃ c, t' = t.put (base.place ++ [name]) (file c) := by
  obtain ⟨c, -, hwrite⟩ := List.mem_filterMap.1 h
  rw [write_join hn, hl, Except.bind] at hwrite
  split_ifs at hwrite
  · cases hwrite
  · exact ⟨c, (Option.some.inj hwrite).symm⟩

/-! ## Folders that can be used -/

/-- The folder of the records can be created, no folder stands where a record or the file beside it
    belongs, and creating the folder brings no record to light. -/
structure Ready (base : Path) (t : FileTree) : Prop where
  leads : (t.opened base).locate base = .ok base.place
  record : ∀ d : Direction, (t.opened base).seen (base.place ++ [d.key]) ≠ some .folder
  beside : ∀ d : Direction, (t.opened base).seen (base.place ++ [d.temporary]) ≠ some .folder
  settled : (directory base t).Settled

/-- A folder without records that can be created, or has been, is ready. -/
theorem ready_fresh (hl : (t.opened base).locate base = .ok base.place)
    (hnone : ∀ d : Direction, (t.opened base).seen (base.place ++ [d.key]) = none)
    (hbeside : ∀ d : Direction, (t.opened base).seen (base.place ++ [d.temporary]) ≠ some .folder) :
    Ready base t := by
  refine ⟨hl, ?_, hbeside, ?_⟩
  · intro d hd
    rw [hnone d] at hd
    cases hd
  rcases locate_of_opened hl with ⟨-, ht⟩ | hmissing
  · exact settled_of_opened ht
  · intro d
    rw [opened, get_of_locate hl, get_of_missing hmissing, hnone d]
    rfl

/-- The same is found under the keys of the records. -/
def Same (base : Path) (t t' : FileTree) : Prop :=
  ∀ d : Direction, (directory base t').get d.key = (directory base t).get d.key

namespace Ready

variable (h : Ready base t)
include h

theorem openFolders : t.openFolders base = (.ok (), t.opened base) := by
  rw [← openFolders_opened, openFolders_of_locate h.leads]

theorem root : t.seen [] = some .folder := by
  have hplace := (locate_eq_ok.1 h.leads).2.2
  have hroot : (t.opened base).seen [] = some .folder :=
    folder_of_append (show (t.opened base).seen ([] ++ base.place) = _ from hplace)
  rcases (extends_opened t base).was_folder hroot with ht | ht
  · exact ht
  · simp [seen] at ht

/-- Folders that have been created on the way change nothing. -/
theorem of_extends (hext : t.Extends t') (hopen : t'.opened base = t.opened base) :
    Ready base t' ∧ Same base t t' := by
  have hsame : Same base t t' := by
    intro d
    rcases locate_of_opened h.leads with ⟨hl, ht⟩ | hl
    · have hl' : t'.locate base = .ok base.place := locate_mono (fun n => hext.folder) hl
      rw [← opened_of_locate hl', hopen, ht]
    · -- nothing was found before, so nothing is found once the folder has been created
      have hmissing := get_of_missing hl d
      have hlater : (directory base (t.opened base)).get d.key = .error .notFound :=
        (h.settled d).trans hmissing
      rw [hmissing]
      have hext' : t'.Extends (t.opened base) := hopen ▸ extends_opened t' base
      rcases hext'.locate h.leads with hl' | hl'
      · rwa [← hopen, opened_of_locate hl'] at hlater
      · exact get_of_missing hl' d
  refine ⟨⟨?_, ?_, ?_, ?_⟩, hsame⟩
  · rw [hopen]
    exact h.leads
  · rw [hopen]
    exact h.record
  · rw [hopen]
    exact h.beside
  · intro d
    rw [hsame d, ← h.settled d, opened, hopen, opened]

theorem opened : Ready base (t.opened base) ∧ Same base t (t.opened base) :=
  h.of_extends (extends_opened t base) (opened_opened t base)

/-- What setting a record does to an opened folder keeps it ready. -/
theorem of_written {temporary name : String} {v : Bytes} {r : Except FileFault Unit}
    (ht : t.opened base = t) (hw : Written base temporary name v t r t') : Ready base t' := by
  have ht' := hw.opened ht
  have hl := h.leads
  have hrecord := h.record
  have hbeside := h.beside
  rw [ht] at hl hrecord hbeside
  refine ⟨?_, ?_, ?_, settled_of_opened ht'⟩
  · rw [ht']
    exact hw.located hl
  · intro d hd
    rw [ht'] at hd
    exact hrecord d (hw.was_folder hd)
  · intro d hd
    rw [ht'] at hd
    exact hbeside d (hw.was_folder hd)

/-- The process stops after the folder has been created. -/
theorem written_of_stops (ht : t.opened base = t) {d : Direction} {v : Bytes}
    (hs : t' ∈ stops t [.write (base.join ⟨d.temporary⟩) v,
      .rename (base.join ⟨d.temporary⟩) (base.join ⟨d.key⟩)]) :
    ∃ r, Written base d.temporary d.key v t r t' := by
  have hl := h.leads
  have hbeside := h.beside d
  rw [ht] at hl hbeside
  have hwrite : WriteStep.run t (.write (base.join ⟨d.temporary⟩) v) =
      (.ok (), t.put (base.place ++ [d.temporary]) (file v)) := by
    rw [WriteStep.run, write_join d.isName_temporary, hl, Except.bind, if_neg hbeside, wholly]
  rcases (mem_stops_cons hwrite).1 hs with rfl | hs | hs
  · exact ⟨_, .nothing .notFound⟩
  · obtain ⟨c, rfl⟩ := mem_unfinished_write d.isName_temporary hl hs
    exact ⟨_, written_put c .notFound hl hbeside⟩
  · -- a move is not divided
    have hw := written_rename d.isName_temporary d.isName_key v hl hbeside
    rw [runSteps_singleton] at hw
    rcases mem_stops_last hs with rfl | rfl
    · exact ⟨_, written_put v .notFound hl hbeside⟩
    · exact ⟨_, hw⟩

/-- **Stopping while a record is set** keeps the folder ready and leaves every record as it was, but
    that the one may have been set. -/
theorem stops {d : Direction} {v : Bytes} (hs : t' ∈ stops t (writeSteps base d.key v)) :
    Ready base t' ∧ (Same base t t' ∨ (directory base t').get d.key = .ok v ∧
      ∀ d' : Direction, d' ≠ d →
        (directory base t').get d'.key = (directory base t).get d'.key) := by
  rw [writeSteps_key] at hs
  have hopen : WriteStep.run t (.createFolders base) = (.ok (), t.opened base) := h.openFolders
  rcases (mem_stops_cons hopen).1 hs with rfl | hs | hs
  · exact ⟨h, .inl fun d' => rfl⟩
  · obtain ⟨hext, hagain⟩ := mem_unfinished_createFolders h.root (by rw [h.openFolders]) hs
    obtain ⟨h', hsame⟩ := h.of_extends hext (congrArg Prod.snd hagain)
    exact ⟨h', .inl hsame⟩
  · -- the folder is there
    obtain ⟨hopened, hsame⟩ := h.opened
    obtain ⟨r, hw⟩ := hopened.written_of_stops (opened_opened t base) hs
    refine ⟨hopened.of_written (opened_opened t base) hw, ?_⟩
    rcases hw.cases_records with ⟨-, -, hkept⟩ | ⟨-, hset, hkept⟩
    · exact .inl fun d' => (hkept d').1.trans (hsame d')
    · exact .inr ⟨hset, fun d' hd => (hkept d' hd).1.trans (hsame d')⟩

/-- **In a ready folder a record can be set.** -/
theorem set_ok (d : Direction) (v : Bytes) : ((directory base t).set d.key v).1 = .ok () := by
  have hl := h.leads
  have hbeside := h.beside d
  have hw : Written base d.temporary d.key v (t.opened base) _ _ := written_put v .notFound hl hbeside
  have hrecord : ((t.opened base).put (base.place ++ [d.temporary]) (file v)).seen
      (base.place ++ [d.key]) ≠ some .folder := fun hd => h.record d (hw.was_folder hd)
  -- the file beside the record can be written, and then moved
  have hwritten : ((t.opened base).put (base.place ++ [d.temporary]) (file v)).seen
      (base.place ++ [d.temporary]) = some (.file v) := by
    rw [seen_put (isLeaf_file v) (locate_eq_ok.1 hl).2.2 hbeside, if_pos rfl]
    rfl
  have hrename := rename_join d.isName_temporary d.isName_key (hw.located hl) hwritten
  rw [if_neg hrecord] at hrename
  have hwrite : (t.opened base).write (base.join ⟨d.temporary⟩) v =
      .ok ((t.opened base).put (base.place ++ [d.temporary]) (file v)) := by
    rw [write_join d.isName_temporary, hl, Except.bind, if_neg hbeside]
  simp only [set, writeSteps_key, runSteps, WriteStep.run, h.openFolders, hwrite, hrename, wholly]
  rfl

end Ready

end

end PacketRelay.Storage
