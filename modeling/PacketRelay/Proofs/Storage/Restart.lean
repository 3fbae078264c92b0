/-
  Checkpoints after a crash.

  `Checkpoints.stops` are the states in which a process can stop while it moves a checkpoint, and
  `Ran` is a process that moves checkpoints, is stopped and started again, any number of times.
  `Sound` is what it keeps (`Sound.stops` for one move, `Sound.ran` for all of them): the folder of
  the records can be used and both checkpoints can be read.

  * `reopened_after_stop`: a checkpoint whose move was stopped has its old value or the new one, the
    other checkpoint has its old value, and both can be moved on.
-/
import PacketRelay.Proofs.Storage.Checkpoint
import PacketRelay.Proofs.Storage.Stopped

namespace PacketRelay

namespace Storage

/-- The storages in which a process can stop while it sets a record.  In memory this is one step. -/
def setStops (s : Storage) (key : String) (value : Bytes) : List Storage :=
  match s with
  | memory records => [memory records, memory (setRecord key value records)]
  | directory base tree => (stops tree (writeSteps base key value)).map (directory base)

theorem set_mem_setStops (s : Storage) (key : String) (value : Bytes) :
    (s.set key value).2 ∈ s.setStops key value := by
  cases s with
  | memory records => exact List.mem_cons_of_mem _ (List.mem_singleton_self _)
  | directory base t => exact List.mem_map_of_mem (runSteps_mem_stops t (List.prefix_refl _))

end Storage

namespace Checkpoints

/-! ## Stopping and starting again -/

/-- Whether moving a checkpoint to a height sets its record. -/
def records (c : Checkpoints) (d : Direction) (height : Nat) : Bool :=
  match c.load d with
  | .error _ => false
  | .ok current =>
    current < height || height == current && c.storage.contains d.key == .ok false

/-- The states in which a process can stop while it moves a checkpoint. -/
def stops (c : Checkpoints) (d : Direction) (height : Nat) : List Checkpoints :=
  if c.records d height then
    (c.storage.setStops d.key (utf8 (Decimal.text height))).map fun storage => { c with storage }
  else [c]

/-- The checkpoints after a restart with the same initial values. -/
def reopened (c : Checkpoints) : Checkpoints := { c with storage := c.storage.reopened }

/-- A process that has moved checkpoints, each to the end or to where it was stopped; then it was
    started again. -/
inductive Ran (c₀ : Checkpoints) : Checkpoints → Prop
  | start : Ran c₀ c₀
  | moved {c : Checkpoints} (d : Direction) {height : Nat} : Ran c₀ c → height ≤ countMax →
      Ran c₀ (c.advance d height).2
  | stopped {c c' : Checkpoints} (d : Direction) {height : Nat} : Ran c₀ c → height ≤ countMax →
      c' ∈ c.stops d height → Ran c₀ c'.reopened

/-- A checkpoint is moved by setting its record, or nothing is done. -/
theorem advance_eq (c : Checkpoints) (d : Direction) (height : Nat) :
    (c.advance d height).2 = if c.records d height then (c.store d height).2 else c := by
  unfold advance records
  cases c.load d with
  | error e => rfl
  | ok current =>
    dsimp only
    rcases Nat.lt_trichotomy height current with hlt | rfl | hgt
    · simp [hlt, Nat.lt_asymm hlt, Nat.ne_of_lt hlt]
    · -- an equal height is recorded if there is no record
      cases hc : c.storage.contains d.key with
      | error e => simp
      | ok found => cases found <;> simp
    · simp [hgt, Nat.lt_asymm hgt, Nat.ne_of_gt hgt]

theorem advance_mem_stops (c : Checkpoints) (d : Direction) (height : Nat) :
    (c.advance d height).2 ∈ c.stops d height := by
  rw [advance_eq, stops]
  split_ifs
  · exact List.mem_map_of_mem (c.storage.set_mem_setStops d.key _)
  · exact List.mem_singleton_self c

theorem load_of_records {c : Checkpoints} {d : Direction} {height : Nat} (h : c.records d height) :
    ∃ current, c.load d = .ok current ∧ current ≤ height := by
  unfold records at h
  cases hl : c.load d with
  | error e => simp [hl] at h
  | ok current =>
    refine ⟨current, rfl, ?_⟩
    simp only [hl, Bool.or_eq_true, decide_eq_true_eq, Bool.and_eq_true, beq_iff_eq] at h
    omega

/-! ## What is kept -/

/-- The records lie in a folder that is ready, and both checkpoints can be read. -/
structure Sound (base : Path) (c : Checkpoints) : Prop where
  files : ∃ t, c.storage = .directory base t ∧ Storage.Ready base t
  loads : ∀ d, ∃ current, c.load d = .ok current

namespace Sound

variable {base : Path} {c c' : Checkpoints} {d : Direction} {height current : Nat}

/-- Without records the initial values count. -/
theorem fresh {t : FileTree} (hstorage : c.storage = .directory base t)
    (hl : (t.opened base).locate base = .ok base.place)
    (hnone : ∀ d : Direction, (t.opened base).seen (base.place ++ [d.key]) = none)
    (hbeside : ∀ d : Direction, (t.opened base).seen (base.place ++ [d.temporary]) ≠ some .folder) :
    Sound base c := by
  have hready := Storage.ready_fresh hl hnone hbeside
  refine ⟨⟨t, hstorage, hready⟩, ?_⟩
  intro d
  refine ⟨c.initial d, ?_⟩
  have hget : (Storage.directory base t).get d.key = .error .notFound := by
    rw [← hready.settled d, Storage.opened, Storage.get_of_locate hl, hnone d]
    rfl
  rw [load, hstorage, hget]

theorem reopened_eq (h : Sound base c) : c.reopened = c := by
  obtain ⟨t, ht, -⟩ := h.files
  obtain ⟨storage, initialSent, initialReceived⟩ := c
  obtain rfl : storage = .directory base t := ht
  rfl

/-- The same records are read as the same checkpoint. -/
theorem load_eq {s : Storage} (h : s.get d.key = c.storage.get d.key) :
    ({ c with storage := s } : Checkpoints).load d = c.load d := by
  have hi : ({ c with storage := s } : Checkpoints).initial d = c.initial d := by cases d <;> rfl
  simp only [load, h, hi]

/-- Where one checkpoint can be read and the others are as they were, both can be read. -/
theorem moved (h : Sound base c)
    (hfiles : ∃ t, c'.storage = .directory base t ∧ Storage.Ready base t)
    (hothers : ∀ d', d' ≠ d → c'.load d' = c.load d') (hload : c'.load d = .ok current) :
    Sound base c' := by
  refine ⟨hfiles, ?_⟩
  intro d'
  by_cases hd : d' = d
  · exact ⟨current, by rw [hd, hload]⟩
  · rw [hothers d' hd]
    exact h.loads d'

/-- **Stopping while a checkpoint is moved** keeps what is sound: the checkpoint has its old value or
    the new one, and the other has its old value. -/
theorem stops (h : Sound base c) (hn : height ≤ countMax) (hs : c' ∈ c.stops d height) :
    Sound base c' ∧ (∀ d', d' ≠ d → c'.load d' = c.load d') ∧
      ∃ current, c.load d = .ok current ∧
        (c'.load d = .ok current ∨ current ≤ height ∧ c'.load d = .ok height) := by
  obtain ⟨current, hcurrent⟩ := h.loads d
  unfold Checkpoints.stops at hs
  split_ifs at hs with hrecords
  · obtain ⟨t, ht, hready⟩ := h.files
    obtain ⟨s, hstorage, rfl⟩ := List.mem_map.1 hs
    rw [ht] at hstorage
    obtain ⟨t', hstop, rfl⟩ := List.mem_map.1 hstorage
    set c' : Checkpoints := { c with storage := .directory base t' }
    have hsame : ∀ d' : Direction, (Storage.directory base t').get d'.key =
        (Storage.directory base t).get d'.key → c'.load d' = c.load d' := by
      intro d' hget
      apply load_eq
      rw [ht, hget]
    obtain ⟨hready', hkept | ⟨hset, hkept⟩⟩ := hready.stops hstop
    · -- no record has changed
      have hothers : ∀ d', d' ≠ d → c'.load d' = c.load d' := fun d' _ => hsame d' (hkept d')
      have hload : c'.load d = .ok current := by rw [hsame d (hkept d), hcurrent]
      exact ⟨h.moved ⟨t', rfl, hready'⟩ hothers hload, hothers, current, hcurrent, .inl hload⟩
    · -- the record has been set
      have hothers : ∀ d', d' ≠ d → c'.load d' = c.load d' := fun d' hd => hsame d' (hkept d' hd)
      have hload : c'.load d = .ok height := by
        simp only [c', load, hset, parse_text _ hn]
      obtain ⟨_, hcurrent', hle⟩ := load_of_records hrecords
      obtain rfl := Except.ok.inj (hcurrent'.symm.trans hcurrent)
      exact ⟨h.moved ⟨t', rfl, hready'⟩ hothers hload, hothers, _, hcurrent, .inr ⟨hle, hload⟩⟩
  · obtain rfl := List.mem_singleton.1 hs
    exact ⟨h, fun _ _ => rfl, current, hcurrent, .inl hcurrent⟩

/-- **Everything a process does keeps what is sound.** -/
theorem ran {c₀ : Checkpoints} (h₀ : Sound base c₀) (h : Ran c₀ c) : Sound base c := by
  induction h with
  | start => exact h₀
  | moved d _ hn ih => exact (ih.stops hn (advance_mem_stops _ d _)).1
  | stopped d _ hn hs ih =>
    obtain ⟨h', -⟩ := ih.stops hn hs
    rwa [h'.reopened_eq]

/-- A checkpoint can be moved to a greater height. -/
theorem advance_ok {next : Nat} (h : Sound base c) (hl : c.load d = .ok current)
    (hlt : current < next) (hn : next ≤ countMax) :
    (c.advance d next).1 = .ok next ∧ (c.advance d next).2.load d = .ok next := by
  obtain ⟨t, ht, hready⟩ := h.files
  have hset : (c.store d next).1 = .ok next := by
    simp only [store, ht, hready.set_ok]
    rfl
  have hresult : (c.advance d next).1 = .ok next := by
    rw [advance, hl]
    dsimp only
    rw [if_neg (by omega), if_neg (by omega), hset]
  refine ⟨hresult, ?_⟩
  rcases (moved_advance c d next).of_load hl with ⟨e, he, -⟩ | ⟨-, hmoved, -⟩
  · rw [hresult] at he
    cases he
  · rw [hmoved hn, Nat.max_eq_right (Nat.le_of_lt hlt)]

end Sound

/-- **A crash damages no checkpoint.** Whatever a process has done before, be it stopped or not: where
    it is stopped while it moves one checkpoint, the process that is started again reads of this one
    the old value or the height, and never a lower one, and of the other the old value.  Both can be
    moved to any greater height at any time from then on, and that is then read. -/
theorem reopened_after_stop {base : Path} {c₀ c c' : Checkpoints} {d : Direction} {height : Nat}
    (h₀ : Sound base c₀) (hran : Ran c₀ c) (hn : height ≤ countMax) (hs : c' ∈ c.stops d height) :
    (∃ current, c.load d = .ok current ∧
      (c'.reopened.load d = .ok current ∨ current ≤ height ∧ c'.reopened.load d = .ok height)) ∧
    (∀ d', d' ≠ d → ∃ other, c.load d' = .ok other ∧ c'.reopened.load d' = .ok other) ∧
    ∀ c'' d' current next, Ran c'.reopened c'' → c''.load d' = .ok current → current < next →
      next ≤ countMax → (c''.advance d' next).1 = .ok next ∧
        (c''.advance d' next).2.load d' = .ok next := by
  have h := h₀.ran hran
  obtain ⟨h', hothers, hmoved⟩ := h.stops hn hs
  rw [h'.reopened_eq]
  refine ⟨hmoved, ?_, ?_⟩
  · intro d' hd
    obtain ⟨other, hother⟩ := h.loads d'
    exact ⟨other, hother, (hothers d' hd).trans hother⟩
  · intro c'' d' current next hlater hl hlt hnext
    have h'' := h'.ran hlater
    exact h''.advance_ok hl hlt hnext

/-! ## A process that is stopped twice -/

/-- No folder has been created yet. -/
def unstarted : Checkpoints := ⟨.directory ⟨"store/1337"⟩ .empty, 10, 20⟩

theorem sound_unstarted : Sound ⟨"store/1337"⟩ unstarted := by
  refine .fresh rfl rfl ?_ ?_
  · intro d
    cases d <;> rfl
  · intro d
    cases d <;> decide

/-- Stopped after the first digit of `50` has been written. -/
def firstStop : Checkpoints :=
  ⟨.directory ⟨"store/1337"⟩
    (.folder [("store", .folder [("1337", .folder [("send.tmp", .file [0x35])])])]), 10, 20⟩

theorem firstStop_mem : firstStop ∈ unstarted.stops .sent 50 :=
  List.mem_of_getElem? (show (unstarted.stops .sent 50)[6]? = some firstStop from rfl)

/-- Started again; the other checkpoint has been moved. -/
def movedOn : Checkpoints := (firstStop.reopened.advance .received 33).2

theorem ran_movedOn : Ran unstarted movedOn :=
  .moved .received (.stopped .sent .start (by decide) firstStop_mem) (by decide)

/-- Stopped again, before the file beside the record has been moved. -/
def secondStop : Checkpoints :=
  ⟨.directory ⟨"store/1337"⟩
    (.folder [("store", .folder [("1337",
      .folder [("send.tmp", .file [0x36, 0x30]), ("recv", .file [0x33, 0x33])])])]), 10, 20⟩

theorem secondStop_mem : secondStop ∈ movedOn.stops .sent 60 :=
  List.mem_of_getElem? (show (movedOn.stops .sent 60)[8]? = some secondStop from rfl)

theorem reopened_after_second_stop :
    Sound ⟨"store/1337"⟩ unstarted ∧ Ran unstarted movedOn ∧ secondStop ∈ movedOn.stops .sent 60 ∧
      secondStop.reopened.load .sent = .ok 10 ∧ secondStop.reopened.load .received = .ok 33 ∧
      (secondStop.reopened.advance .sent 70).1 = .ok 70 := by
  obtain ⟨-, hother, hlater⟩ :=
    reopened_after_stop sound_unstarted ran_movedOn (by decide) secondStop_mem
  obtain ⟨other, hload, hload'⟩ := hother .received (by decide)
  obtain rfl : 33 = other := Except.ok.inj hload
  have hsent : secondStop.reopened.load .sent = .ok 10 := rfl
  exact ⟨sound_unstarted, ran_movedOn, secondStop_mem, hsent, hload',
    (hlater _ .sent 10 70 .start hsent (by decide) (by decide)).1⟩

end Checkpoints

end PacketRelay
