/-
  What setting a record does to the files.

  A record has two names in its folder: its own and that of the file beside it, to which it is first
  written (`Storage.temporaryName`).  `Written` says all that the steps by which a record is set can
  do to an opened folder; `written_runSteps`: this is what they do.
-/
import PacketRelay.Proofs.Files.Extension
import PacketRelay.Storage.Backend

namespace PacketRelay.Storage

open FileTree

/-! ## The two names of a record -/

/-- The name of the file to which the record at a key is first written. -/
def temporaryName (key : String) : String := Path.renamed (fileName key) "tmp"

theorem temporaryPath_eq {key : String} (h : Path.IsStep (fileName key)) (base : Path) :
    temporaryPath base key = base.join ⟨temporaryName key⟩ :=
  Path.withExtension_join h (by decide)

/-! ## The steps -/

theorem runSteps_of_error {t t' : FileTree} {step : WriteStep} {e : FileFault}
    (h : step.run t = (.error e, t')) (rest : List WriteStep) :
    runSteps t (step :: rest) = (.error e, t') := by
  rw [runSteps, h]

theorem runSteps_of_ok {t t' : FileTree} {step : WriteStep} (h : step.run t = (.ok (), t'))
    (rest : List WriteStep) : runSteps t (step :: rest) = runSteps t' rest := by
  rw [runSteps, h]

theorem runSteps_singleton (t : FileTree) (step : WriteStep) : runSteps t [step] = step.run t := by
  rw [runSteps]
  rcases step.run t with ⟨e | _, t'⟩ <;> rfl

section
variable {base : Path} {temporary name : String} {v : Bytes} {t t' : FileTree}

/-- What setting a record can do to the tree `t` of an opened folder: nothing, or write to the file
    beside the record, or set the record. -/
inductive Written (base : Path) (temporary name : String) (v : Bytes) (t : FileTree) :
    Except FileFault Unit → FileTree → Prop
  | nothing (e : FileFault) : Written base temporary name v t (.error e) t
  | beside (e : FileFault) {t' : FileTree} {c : Bytes} : t.locate base = .ok base.place →
      t'.locate base = .ok base.place →
      t'.seen (base.place ++ [temporary]) = some (.file c) →
      (∀ n, n ≠ base.place ++ [temporary] → t'.seen n = t.seen n) →
      Written base temporary name v t (.error e) t'
  | record {t' : FileTree} : t.locate base = .ok base.place → t'.locate base = .ok base.place →
      t'.seen (base.place ++ [name]) = some (.file v) →
      t'.seen (base.place ++ [temporary]) = (if temporary = name then some (.file v) else none) →
      (∀ n, n ≠ base.place ++ [temporary] → n ≠ base.place ++ [name] → t'.seen n = t.seen n) →
      Written base temporary name v t (.ok ()) t'

namespace Written

variable {r : Except FileFault Unit}

theorem opened (h : Written base temporary name v t r t') (ht : t.opened base = t) :
    t'.opened base = t' := by
  cases h with
  | nothing e => exact ht
  | beside e _ h _ _ => exact opened_of_locate h
  | record _ h _ _ _ => exact opened_of_locate h

theorem located (h : Written base temporary name v t r t') (hl : t.locate base = .ok base.place) :
    t'.locate base = .ok base.place := by
  cases h with
  | nothing e => exact hl
  | beside e _ h _ _ => exact h
  | record _ h _ _ _ => exact h

/-- No folder is created. -/
theorem was_folder (h : Written base temporary name v t r t') {n : List String}
    (hn : t'.seen n = some .folder) : t.seen n = some .folder := by
  cases h with
  | nothing e => exact hn
  | beside e _ _ htmp hother =>
    by_cases htemporary : n = base.place ++ [temporary]
    · rw [htemporary, htmp] at hn
      cases hn
    · rwa [hother n htemporary] at hn
  | record _ _ hv htmp hother =>
    by_cases htemporary : n = base.place ++ [temporary]
    · rw [htemporary, htmp] at hn
      split_ifs at hn
      cases hn
    · by_cases hname : n = base.place ++ [name]
      · rw [hname, hv] at hn
        cases hn
      · rwa [hother n htemporary hname] at hn

end Written

/-- A file beside the record has been written. -/
theorem written_put (c : Bytes) (e : FileFault) (hl : t.locate base = .ok base.place)
    (htmp : t.seen (base.place ++ [temporary]) ≠ some .folder) :
    Written base temporary name v t (.error e) (t.put (base.place ++ [temporary]) (file c)) := by
  have hseen := seen_put (isLeaf_file c) (locate_eq_ok.1 hl).2.2 htmp
  refine .beside e hl (locate_mono (fun n hn => ?_) hl) (by rw [hseen, if_pos rfl]; rfl)
    fun n hn => by rw [hseen, if_neg hn]
  rw [hseen, if_neg, hn]
  rintro rfl
  exact htmp hn

/-- Once the file beside the record has been written, it remains to move it to its place. -/
theorem written_rename (hm : Path.IsName temporary) (hn : Path.IsName name) (v : Bytes)
    (hl : t.locate base = .ok base.place)
    (htmp : t.seen (base.place ++ [temporary]) ≠ some .folder) :
    Written base temporary name v t
      (runSteps (t.put (base.place ++ [temporary]) (file v))
        [.rename (base.join ⟨temporary⟩) (base.join ⟨name⟩)]).1
      (runSteps (t.put (base.place ++ [temporary]) (file v))
        [.rename (base.join ⟨temporary⟩) (base.join ⟨name⟩)]).2 := by
  have hseen := seen_put (isLeaf_file v) (locate_eq_ok.1 hl).2.2 htmp
  have hl' := (written_put v .notFound hl htmp : Written base temporary name v t _ _).located hl
  set t' := t.put (base.place ++ [temporary]) (file v)
  have hother : ∀ n, n ≠ base.place ++ [temporary] → t'.seen n = t.seen n :=
    fun n hn => by rw [hseen, if_neg hn]
  have htmp' : t'.seen (base.place ++ [temporary]) = some (.file v) := by
    rw [hseen, if_pos rfl]
    rfl
  rw [runSteps_singleton, WriteStep.run, rename_join hm hn hl' htmp']
  by_cases hkey : t'.seen (base.place ++ [name]) = some .folder
  · rw [if_pos hkey]
    exact .beside _ hl hl' htmp' hother
  · simp only [if_neg hkey, wholly]
    by_cases hsame : temporary = name
    · subst hsame
      rw [if_pos rfl]
      exact .record hl hl' htmp' (by rw [htmp', if_pos rfl]) fun n hn _ => hother n hn
    · rw [if_neg hsame]
      have hmoved := seen_drop_put (c := v) (locate_eq_ok.1 hl').2.2 (by simp [htmp']) hkey hsame
      refine .record hl (locate_mono (fun n hn => ?_) hl') ?_ ?_ fun n hn hn' => ?_
      · rw [hmoved, if_neg, if_neg, hn]
        · rintro rfl
          simp [htmp'] at hn
        · rintro rfl
          exact hkey hn
      · rw [hmoved, if_pos rfl]
      · rw [hmoved, if_neg (by simpa using hsame), if_pos rfl, if_neg hsame]
      · rw [hmoved, if_neg hn', if_neg hn, hother _ hn]

/-- Writing the file beside the record and moving it does what `Written` says. -/
theorem written_write (hm : Path.IsName temporary) (hn : Path.IsName name) (v : Bytes)
    (t : FileTree) :
    Written base temporary name v t
      (runSteps t [.write (base.join ⟨temporary⟩) v,
        .rename (base.join ⟨temporary⟩) (base.join ⟨name⟩)]).1
      (runSteps t [.write (base.join ⟨temporary⟩) v,
        .rename (base.join ⟨temporary⟩) (base.join ⟨name⟩)]).2 := by
  cases hl : t.locate base with
  | error e =>
    have hwrite : WriteStep.run t (.write (base.join ⟨temporary⟩) v) = (.error e, t) := by
      rw [WriteStep.run, write_join hm, hl]
      rfl
    rw [runSteps_of_error hwrite]
    exact .nothing e
  | ok dir =>
    obtain rfl := place_of_locate hl
    by_cases htmp : t.seen (base.place ++ [temporary]) = some .folder
    · have hwrite : WriteStep.run t (.write (base.join ⟨temporary⟩) v) = (.error .isFolder, t) := by
        rw [WriteStep.run, write_join hm, hl, Except.bind, if_pos htmp, wholly]
      rw [runSteps_of_error hwrite]
      exact .nothing _
    · have hwrite : WriteStep.run t (.write (base.join ⟨temporary⟩) v) =
          (.ok (), t.put (base.place ++ [temporary]) (file v)) := by
        rw [WriteStep.run, write_join hm, hl, Except.bind, if_neg htmp, wholly]
      rw [runSteps_of_ok hwrite]
      exact written_rename hm hn v hl htmp

end

/-- **The steps by which a record is set do what `Written` says.** -/
theorem written_runSteps (base : Path) {key : String} (hn : Path.IsName (fileName key))
    (hm : Path.IsName (temporaryName key)) (v : Bytes) (t : FileTree) :
    Written base (temporaryName key) (fileName key) v (t.opened base)
      (runSteps t (writeSteps base key v)).1 (runSteps t (writeSteps base key v)).2 := by
  rw [writeSteps, filePath, temporaryPath_eq hn.toIsStep, opened]
  have hrun : WriteStep.run t (.createFolders base) = t.openFolders base := rfl
  rcases hopen : t.openFolders base with ⟨e | _, t₁⟩ <;> rw [hopen] at hrun
  · rw [runSteps_of_error hrun]
    exact .nothing e
  · rw [runSteps_of_ok hrun]
    exact written_write hm hn v t₁

end PacketRelay.Storage
