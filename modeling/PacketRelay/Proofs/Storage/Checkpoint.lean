/-
  What moving a checkpoint does to the records.

  `parse_text` reads a recorded block back, `Keeps` says what it means that a checkpoint is kept, and
  `Moved` all that moving one can do.  `moved_advance`: this is what `Checkpoints.advance` does, and
  `recorded_advance`: what has been moved without a failure lies in a record.
-/
import PacketRelay.Proofs.Storage.Record
import PacketRelay.Proofs.Text.Numeral
import PacketRelay.Storage.Checkpoint

namespace PacketRelay.Checkpoints

/-- A recorded block is read back. -/
theorem parse_text (key : String) {n : Nat} (hn : n ≤ countMax) :
    parse key (utf8 (Decimal.text n)) = .ok n := by
  simp only [parse, Decimal.decode_text, Decimal.trimmed_text, Decimal.read_text, if_pos hn]
  rfl

/-- The checkpoint of a direction is kept: its record in any case, and what is read of it unless
    creating the folder of the records has changed that. -/
structure Keeps (c c' : Checkpoints) (d : Direction) : Prop where
  record : c'.storage.record d = c.storage.record d
  load : c.storage.Settled → c'.load d = c.load d

namespace Keeps

variable {c c' : Checkpoints} {d : Direction}

theorem refl (c : Checkpoints) (d : Direction) : Keeps c c d := ⟨rfl, fun _ => rfl⟩

/-- It is enough to look at the storage. -/
theorem of_storage {s : Storage} (hr : s.record d = c.storage.record d)
    (hg : s.get d.key = c.storage.opened.get d.key) : Keeps c { c with storage := s } d := by
  refine ⟨hr, fun hs => ?_⟩
  have hi : ({ c with storage := s } : Checkpoints).initial d = c.initial d := by cases d <;> rfl
  simp only [Checkpoints.load, hg, hs d, hi]

end Keeps

/-- What moving the checkpoint of a direction to a height can do: fail and keep both checkpoints, or
    give it the greater of its old value and the height and keep the other one. -/
inductive Moved (c : Checkpoints) (d : Direction) (height : Nat) :
    Except StorageError Nat → Checkpoints → Prop
  | failed (e : StorageError) {c' : Checkpoints} : (∀ d', Keeps c c' d') →
      Moved c d height (.error e) c'
  | moved {current : Nat} {c' : Checkpoints} : c.load d = .ok current →
      (height ≤ countMax → c'.load d = .ok (max current height)) →
      (∀ d', d' ≠ d → Keeps c c' d') → Moved c d height (.ok (max current height)) c'

namespace Moved

variable {c : Checkpoints} {d : Direction} {height current : Nat}

/-- Nothing is written for a checkpoint that is there already. -/
theorem stay (hl : c.load d = .ok current) (h : height ≤ current) :
    Moved c d height (.ok current) c := by
  have hmax : max current height = current := Nat.max_eq_left h
  have hmoved : Moved c d height (.ok (max current height)) c :=
    .moved hl (fun _ => by rw [hl, hmax]) fun d' _ => Keeps.refl c d'
  rwa [hmax] at hmoved

/-- Recording a height that is not lower. -/
theorem store (hl : c.load d = .ok current) (h : current ≤ height) :
    Moved c d height (c.store d height).1 (c.store d height).2 := by
  have hmax : max current height = height := Nat.max_eq_right h
  simp only [Checkpoints.store]
  rcases c.storage.set_cases d (utf8 (Decimal.text height)) with ⟨e, he, hk⟩ | ⟨ho, hget, hk⟩
  · rw [he]
    exact .failed e fun d' => Keeps.of_storage (hk d').2 (hk d').1
  · have hmoved : Moved c d height (.ok (max current height))
        { c with storage := (c.storage.set d.key (utf8 (Decimal.text height))).2 } :=
      .moved hl (fun hn => by simp only [load, hget, parse_text _ hn, hmax])
        fun d' hd => Keeps.of_storage (hk d' hd).2 (hk d' hd).1
    rw [hmax] at hmoved
    rwa [ho]

/-- What has happened to a checkpoint whose value is known. -/
theorem of_load {r : Except StorageError Nat} {c' : Checkpoints} (h : Moved c d height r c')
    (hl : c.load d = .ok current) :
    (∃ e, r = .error e ∧ ∀ d', Keeps c c' d') ∨
    r = .ok (max current height) ∧
      (height ≤ countMax → c'.load d = .ok (max current height)) ∧
      ∀ d', d' ≠ d → Keeps c c' d' := by
  cases h with
  | failed e hk => exact Or.inl ⟨e, rfl, hk⟩
  | moved hl' hload hk =>
    obtain rfl := Except.ok.inj (hl.symm.trans hl')
    exact Or.inr ⟨rfl, hload, hk⟩

end Moved

/-- **Moving a checkpoint.** -/
theorem moved_advance (c : Checkpoints) (d : Direction) (height : Nat) :
    Moved c d height (c.advance d height).1 (c.advance d height).2 := by
  unfold advance
  cases hl : c.load d with
  | error e => exact .failed e fun d' => Keeps.refl c d'
  | ok current =>
    dsimp only
    split_ifs with hlt heq
    · exact .stay hl (Nat.le_of_lt hlt)
    · split
      · exact .failed _ fun d' => Keeps.refl c d'
      · exact .stay hl (Nat.le_of_eq heq)
      · exact .store hl (Nat.le_of_eq heq.symm)
    · exact .store hl (by omega)

/-! ## Records that are there -/

/-- There is a record of a direction, and it holds a block. -/
def Recorded (c : Checkpoints) (d : Direction) (height : Nat) : Prop :=
  ∃ record, c.storage.get d.key = .ok record ∧ parse d.key record = .ok height

theorem Recorded.load_eq {c : Checkpoints} {d : Direction} {height : Nat} (h : c.Recorded d height) :
    c.load d = .ok height := by
  obtain ⟨record, hget, hparse⟩ := h
  rw [load, hget]
  exact hparse

theorem recorded_store {c : Checkpoints} {d : Direction} {height value : Nat}
    (hn : height ≤ countMax) (hok : (c.store d height).1 = .ok value) :
    (c.store d height).2.Recorded d height := by
  simp only [store] at hok ⊢
  rcases c.storage.set_cases d (utf8 (Decimal.text height)) with ⟨e, he, -⟩ | ⟨-, hget, -⟩
  · rw [he] at hok
    cases hok
  · exact ⟨_, hget, parse_text _ hn⟩

/-- A checkpoint that can be read lies in a record, if there is one. -/
theorem recorded_of_contains {c : Checkpoints} {d : Direction} {m : Nat} (hl : c.load d = .ok m)
    (h : c.storage.contains d.key = .ok true) : c.Recorded d m := by
  have hfound := Storage.get_ne_notFound h
  unfold load at hl
  split at hl
  case h_1 record hget => exact ⟨record, hget, hl⟩
  case h_2 hget => exact absurd hget hfound
  case h_3 => cases hl

/-- A checkpoint that is moved to a height that is not lower lies in a record afterwards, even if the
    height is what it was before. -/
theorem recorded_advance {c : Checkpoints} {d : Direction} {height m value : Nat}
    (hl : c.load d = .ok m) (hle : m ≤ height) (hn : height ≤ countMax)
    (hok : (c.advance d height).1 = .ok value) : (c.advance d height).2.Recorded d height := by
  unfold advance at hok ⊢
  rw [hl] at hok ⊢
  simp only [Nat.not_lt.2 hle, ↓reduceIte] at hok ⊢
  by_cases heq : height = m
  · simp only [heq, ↓reduceIte] at hok ⊢
    cases hc : c.storage.contains d.key with
    | error e =>
      rw [hc] at hok
      cases hok
    | ok found => cases found with
      | true => exact recorded_of_contains hl hc
      | false =>
        rw [hc] at hok
        exact recorded_store (heq ▸ hn) hok
  · simp only [heq, ↓reduceIte] at hok ⊢
    exact recorded_store hn hok

theorem settled_advance {c : Checkpoints} (d : Direction) (height : Nat) (h : c.storage.Settled) :
    (c.advance d height).2.storage.Settled := by
  unfold advance
  split
  · exact h
  · split_ifs
    · exact h
    · split
      · exact h
      · exact h
      · exact c.storage.settled_set d _
    · exact c.storage.settled_set d _

end PacketRelay.Checkpoints
