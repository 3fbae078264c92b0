/-
  Trees that have gained folders.

  `FileTree.Extends`: folders have been added where nothing stood, and nothing else has changed.  A
  folder that is found in the grown tree was found before, or something on the way to it was missing
  (`Extends.locate`); and creating the folders of a path goes on where it was stopped
  (`openFolders_of_stopped`).
-/
import PacketRelay.Proofs.Files.Folder

namespace PacketRelay.FileTree

variable {t t' : FileTree} {base : Path} {names steps r : List String}

/-- Folders have been added where nothing stood. -/
def Extends (t t' : FileTree) : Prop :=
  ∀ n, t'.seen n = t.seen n ∨ t.seen n = none ∧ t'.seen n = some .folder

theorem extends_createAlong (t : FileTree) (names steps : List String) :
    t.Extends (t.createAlong names steps).2 := seen_createAlong t names steps

theorem extends_opened (t : FileTree) (base : Path) : t.Extends (t.opened base) := seen_opened t base

namespace Extends

theorem folder (h : t.Extends t') {n : List String} (hn : t.seen n = some .folder) :
    t'.seen n = some .folder := by
  rcases h n with h | ⟨h, -⟩
  · rw [h, hn]
  · rw [hn] at h
    cases h

/-- A folder of the grown tree was one before, or nothing stood there. -/
theorem was_folder (h : t.Extends t') {n : List String} (hn : t'.seen n = some .folder) :
    t.seen n = some .folder ∨ t.seen n = none := by
  rcases h n with h | ⟨h, -⟩
  · exact .inl (by rw [← h, hn])
  · exact .inr h

theorem follow (h : t.Extends t') (hf : t'.follow names steps = .ok r) :
    t.follow names steps = .ok r ∨ t.follow names steps = .error .notFound := by
  induction steps generalizing names with
  | nil => exact .inl hf
  | cons step rest ih =>
    have hd := folder_of_follow hf
    rcases h.was_folder hd with ht | ht
    · rw [follow_cons hd] at hf
      rw [follow_cons ht]
      split_ifs at hf ⊢
      exact ih hf
    · right
      simp only [FileTree.follow, seen_eq_none.1 ht]

theorem locate {dir : List String} (h : t.Extends t') (hl : t'.locate base = .ok dir) :
    t.locate base = .ok dir ∨ t.locate base = .error .notFound := by
  obtain ⟨hz, hf, hd⟩ := locate_eq_ok.1 hl
  simp only [FileTree.locate, hz, Bool.false_eq_true, if_false, enter]
  rcases h.follow hf with hf | hf
  · rw [hf]
    rcases h.was_folder hd with ht | ht
    · exact .inl (by simp only [Except.bind, ht])
    · exact .inr (by simp only [Except.bind, ht])
  · exact .inr (by rw [hf]; rfl)

end Extends

/-- A folder that can be created is there, or it is missing. -/
theorem locate_of_opened {dir : List String} (h : (t.opened base).locate base = .ok dir) :
    t.locate base = .ok dir ∧ t.opened base = t ∨ t.locate base = .error .notFound := by
  rcases (extends_opened t base).locate h with hl | hl
  · exact .inl ⟨hl, opened_of_locate hl⟩
  · exact .inr hl

/-- **Creating the folders of a path goes on where it was stopped.** -/
theorem openFolders_of_stopped {front : List String} (hroot : t.seen [] = some .folder)
    (hfront : front <+: base.steps) (h : (t.openFolders base).1 = .ok ()) :
    (t.createAlong [] front).2.openFolders base = t.openFolders base := by
  simp only [openFolders] at h ⊢
  split_ifs at h ⊢
  exact createAlong_resume hroot hfront (.inr h)

end PacketRelay.FileTree
