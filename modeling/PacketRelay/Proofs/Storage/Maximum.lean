/-
  Checkpoints as running maxima.

  * `Move` is what is done with checkpoints: one of them is moved, or all are read anew from their
    files.  `performed` are the checkpoints after moves;
  * `requested` are the heights to which moves would bring a checkpoint, and `reached` those of the
    moves that succeed;
  * `Advances` is all that moving a checkpoint can do, and `Running` is what it keeps;
  * `running_maximum`: a checkpoint is the greatest of its first value and the heights it has
    reached, in whatever order; `running_maximum_exceptions`: what goes wrong with the files.
-/
import PacketRelay.Proofs.Storage.Restart
import Mathlib.Data.List.Induction
import Mathlib.Data.List.Perm.Basic
import Mathlib.Order.Lattice

namespace PacketRelay

/-! ## Storages in which every record can be set -/

namespace Storage

/-- Records in memory, or files in a folder that is ready. -/
inductive Usable : Storage → Prop
  | held (records : List (String × Bytes)) : Usable (memory records)
  | filed {base : Path} {t : FileTree} : Ready base t → Usable (directory base t)

/-- Whether the records are still there after a restart. -/
def lasts : Storage → Bool
  | memory _ => false
  | directory .. => true

/-- The record of a direction is the same in two storages. -/
structure Retains (s s' : Storage) (d : Direction) : Prop where
  get : s'.get d.key = s.get d.key
  record : s'.record d = s.record d

variable {s : Storage} {d : Direction} {v : Bytes}

theorem Retains.refl (s : Storage) (d : Direction) : Retains s s d := ⟨rfl, rfl⟩

theorem reopened_of_lasts (h : s.lasts) : s.reopened = s := by
  cases s with
  | memory records => cases h
  | directory base t => rfl

theorem lasts_set (s : Storage) (key : String) (v : Bytes) : (s.set key v).2.lasts = s.lasts := by
  cases s with
  | memory records => rfl
  | directory base t => rfl

theorem Usable.settled (h : s.Usable) : s.Settled := by
  cases h with
  | held records => exact settled_memory records
  | filed h => exact h.settled

theorem Usable.set_ok (h : s.Usable) (d : Direction) (v : Bytes) : (s.set d.key v).1 = .ok () := by
  cases h with
  | held records => rfl
  | filed h => exact h.set_ok d v

theorem Usable.set (h : s.Usable) (d : Direction) (v : Bytes) : (s.set d.key v).2.Usable := by
  cases h with
  | held records => exact .held _
  | @filed base t h =>
    obtain ⟨t', hstop, heq⟩ := List.mem_map.1 (set_mem_setStops (directory base t) d.key v)
    rw [← heq]
    exact .filed (h.stops hstop).1

/-- Where a record can be looked up, it can be told whether it is there. -/
theorem contains_ok {key : String}
    (h : (∃ record, s.get key = .ok record) ∨ s.get key = .error .notFound) :
    ∃ found, s.contains key = .ok found := by
  cases s with
  | memory records => exact ⟨_, rfl⟩
  | directory base t =>
    simp only [get, FileTree.read] at h
    simp only [contains, FileTree.exists?]
    generalize t.find (filePath base key) = found at h ⊢
    rcases found with e | content | entries
    · cases e with
      | notFound => exact ⟨false, rfl⟩
      | _ => rcases h with ⟨record, h⟩ | h <;> cases h
    · exact ⟨true, rfl⟩
    · exact ⟨true, rfl⟩

end Storage

namespace Checkpoints

open Storage

/-! ## Moving one checkpoint -/

/-- What comes of moving a checkpoint that is `current` to a height: the move fails and all records
    are retained, the checkpoint stays where it is, or the height is recorded. -/
inductive Advances (c : Checkpoints) (d : Direction) (height current : Nat) :
    Except StorageError Nat → Checkpoints → Prop
  | failed {e : StorageError} {s : Storage} : (∀ d', Retains c.storage s d') →
    Advances c d height current (.error e) { c with storage := s }
  | stayed : height ≤ current → (height = current → c.Recorded d current) →
    Advances c d height current (.ok current) c
  | recorded {s : Storage} : current ≤ height → s.get d.key = .ok (utf8 (Decimal.text height)) →
    (∀ d', d' ≠ d → Retains c.storage s d') →
    Advances c d height current (.ok height) { c with storage := s }

variable {c c' : Checkpoints} {d : Direction} {height current : Nat}

theorem load_of_retains {s : Storage} (h : Retains c.storage s d) :
    ({ c with storage := s } : Checkpoints).load d = c.load d := Sound.load_eq h.get

theorem store_fst (c : Checkpoints) (d : Direction) (height : Nat) :
    (c.store d height).1 =
      (c.storage.set d.key (utf8 (Decimal.text height))).1.map fun _ => height := rfl

theorem advances_store (hs : c.storage.Settled) (hle : current ≤ height) :
    Advances c d height current (c.store d height).1 (c.store d height).2 := by
  rcases c.storage.set_cases d (utf8 (Decimal.text height)) with ⟨e, he, hkept⟩ | ⟨hok, hget, hkept⟩
  · have hresult : (c.store d height).1 = .error e := by rw [store_fst, he]; rfl
    rw [hresult]
    exact .failed fun d' => ⟨(hkept d').1.trans (hs d'), (hkept d').2⟩
  · have hresult : (c.store d height).1 = .ok height := by rw [store_fst, hok]; rfl
    rw [hresult]
    exact .recorded hle hget fun d' hd => ⟨(hkept d' hd).1.trans (hs d'), (hkept d' hd).2⟩

theorem advances_advance (hs : c.storage.Settled) (hl : c.load d = .ok current) (height : Nat) :
    Advances c d height current (c.advance d height).1 (c.advance d height).2 := by
  have hsame : ∀ d', Retains c.storage c.storage d' := fun d' => .refl _ d'
  unfold advance
  rw [hl]
  dsimp only
  split_ifs with hlt heq
  · exact .stayed (Nat.le_of_lt hlt) fun h => absurd h (Nat.ne_of_lt hlt)
  · cases hc : c.storage.contains d.key with
    | error e => exact .failed hsame
    | ok found => cases found with
      | true => exact .stayed (Nat.le_of_eq heq) fun _ => recorded_of_contains hl hc
      | false => exact advances_store hs (Nat.le_of_eq heq.symm)
  · exact advances_store hs (by omega)

theorem advance_of_error {e : StorageError} (hl : c.load d = .error e) (height : Nat) :
    c.advance d height = (.error e, c) := by
  rw [advance, hl]

/-- A move of the other checkpoint. -/
theorem advance_of_ne (hs : c.storage.Settled) {d' : Direction} (hd : d ≠ d') (height : Nat) :
    ∃ s, (c.advance d' height).2 = { c with storage := s } ∧ Retains c.storage s d := by
  cases hl : c.load d' with
  | error e =>
    rw [advance_of_error hl]
    exact ⟨c.storage, rfl, .refl _ d⟩
  | ok current =>
    have hadvances := advances_advance hs hl height
    generalize c.advance d' height = out at hadvances ⊢
    obtain ⟨result, c''⟩ := out
    cases hadvances with
    | failed hkept => exact ⟨_, rfl, hkept d⟩
    | stayed => exact ⟨_, rfl, .refl _ d⟩
    | recorded _ _ hkept => exact ⟨_, rfl, hkept d hd⟩

theorem contains_of_load (hl : c.load d = .ok current) :
    ∃ found, c.storage.contains d.key = .ok found := by
  refine contains_ok ?_
  unfold load at hl
  split at hl
  case h_1 record hget => exact .inl ⟨record, hget⟩
  case h_2 hget => exact .inr hget
  case h_3 => cases hl

/-- Where every record can be set, a checkpoint that can be read can be moved. -/
theorem advance_ok_of_usable (h : c.storage.Usable) (hl : c.load d = .ok current) (height : Nat) :
    ∃ value, (c.advance d height).1 = .ok value := by
  have hstore : (c.store d height).1 = .ok height := by
    rw [store_fst, h.set_ok]
    rfl
  unfold advance
  rw [hl]
  dsimp only
  split_ifs
  · exact ⟨current, rfl⟩
  · obtain ⟨found, hfound⟩ := contains_of_load hl
    rw [hfound]
    cases found with
    | true => exact ⟨current, rfl⟩
    | false => exact ⟨height, hstore⟩
  · exact ⟨height, hstore⟩

theorem usable_advance (h : c.storage.Usable) (d : Direction) (height : Nat) :
    (c.advance d height).2.storage.Usable := by
  rw [advance_eq]
  split_ifs
  · exact h.set d _
  · exact h

theorem lasts_advance (c : Checkpoints) (d : Direction) (height : Nat) :
    (c.advance d height).2.storage.lasts = c.storage.lasts := by
  rw [advance_eq]
  split_ifs
  · exact lasts_set _ _ _
  · rfl

/-! ## Moves -/

/-- What is done with checkpoints. -/
inductive Move where
  | advance (d : Direction) (height : Nat)
  /-- Start again with the same initial values. -/
  | reopen

/-- The heights to which a move would bring the checkpoint of a direction. -/
def Move.heights (d : Direction) : Move → List Nat
  | advance d' height => if d' = d then [height] else []
  | reopen => []

/-- The checkpoints after a move. -/
def after (c : Checkpoints) : Move → Checkpoints
  | .advance d height => (c.advance d height).2
  | .reopen => c.reopened

/-- Whether a move succeeds. -/
def succeeds (c : Checkpoints) : Move → Bool
  | .advance d height => (c.advance d height).1.isOk
  | .reopen => true

/-- The checkpoints after moves, one after the other; those that fail are passed over. -/
def performed (c : Checkpoints) (moves : List Move) : Checkpoints := moves.foldl after c

/-- The heights of all moves of a direction. -/
def requested (d : Direction) (moves : List Move) : List Nat := moves.flatMap (Move.heights d)

/-- The heights of the moves of a direction that succeed. -/
def reached (d : Direction) (c : Checkpoints) : List Move → List Nat
  | [] => []
  | m :: rest => (if c.succeeds m then m.heights d else []) ++ reached d (c.after m) rest

/-- The greatest of a value and some heights. -/
def highest (start : Nat) (heights : List Nat) : Nat := heights.foldl max start

/-- Heights can be represented, and only what lasts is read anew. -/
structure Allowed (c : Checkpoints) (moves : List Move) : Prop where
  heights : ∀ d height, .advance d height ∈ moves → height ≤ countMax
  lasts : .reopen ∈ moves → c.storage.lasts

theorem performed_snoc (c : Checkpoints) (moves : List Move) (m : Move) :
    c.performed (moves ++ [m]) = (c.performed moves).after m := by
  simp [performed]

theorem reached_snoc (d : Direction) (c : Checkpoints) (moves : List Move) (m : Move) :
    c.reached d (moves ++ [m]) =
      c.reached d moves ++ if (c.performed moves).succeeds m then m.heights d else [] := by
  induction moves generalizing c with
  | nil => rw [List.nil_append, reached, reached, reached, List.append_nil, List.nil_append]; rfl
  | cons m' moves ih =>
    rw [List.cons_append, reached, reached, ih, List.append_assoc]
    rfl

theorem requested_snoc (d : Direction) (moves : List Move) (m : Move) :
    requested d (moves ++ [m]) = requested d moves ++ m.heights d := by
  simp [requested]

theorem highest_append (start : Nat) (heights : List Nat) (height : Nat) :
    highest start (heights ++ [height]) = max (highest start heights) height := by
  simp [highest]

theorem start_le_highest (start : Nat) (heights : List Nat) : start ≤ highest start heights := by
  induction heights using List.reverseRecOn with
  | nil => exact Nat.le_refl start
  | append_singleton heights height ih =>
    rw [highest_append]
    exact Nat.le_trans ih (Nat.le_max_left _ _)

/-- A greatest value above the first one is one of the heights. -/
theorem highest_mem {start : Nat} {heights : List Nat} (h : start < highest start heights) :
    highest start heights ∈ heights := by
  induction heights using List.reverseRecOn with
  | nil => exact absurd h (Nat.lt_irrefl start)
  | append_singleton heights height ih =>
    rw [highest_append] at h ⊢
    rcases Nat.le_total (highest start heights) height with hle | hle
    · rw [Nat.max_eq_right hle]
      exact List.mem_append_right _ (List.mem_singleton_self height)
    · rw [Nat.max_eq_left hle] at h ⊢
      exact List.mem_append_left _ (ih h)

theorem highest_perm {start : Nat} {heights heights' : List Nat} (h : heights.Perm heights') :
    highest start heights = highest start heights' := h.foldl_eq start

theorem Allowed.of_append {moves more : List Move} (h : Allowed c (moves ++ more)) :
    Allowed c moves where
  heights d height hm := h.heights d height (List.mem_append_left _ hm)
  lasts hm := h.lasts (List.mem_append_left _ hm)

/-! ## What moves keep -/

theorem settled_performed (hs : c.storage.Settled) {moves : List Move} (h : Allowed c moves) :
    (c.performed moves).storage.Settled ∧ (c.performed moves).storage.lasts = c.storage.lasts := by
  induction moves using List.reverseRecOn with
  | nil => exact ⟨hs, rfl⟩
  | append_singleton moves m ih =>
    obtain ⟨hsettled, hlasts⟩ := ih h.of_append
    rw [performed_snoc]
    cases m with
    | advance d height =>
      exact ⟨settled_advance d height hsettled, (lasts_advance _ d height).trans hlasts⟩
    | reopen =>
      have hreopened := reopened_of_lasts (hlasts.trans (h.lasts (by simp)))
      simp only [after, reopened, hreopened]
      exact ⟨hsettled, hlasts⟩

/-- A checkpoint is the greatest of its first value and of heights.  Its record is the first one or
    holds that height, and is there when one of the heights is not below the first value. -/
structure Running (c c' : Checkpoints) (d : Direction) (start : Nat) (heights : List Nat) :
    Prop where
  load : c'.load d = .ok (highest start heights)
  record : c'.storage.record d = c.storage.record d ∨
    c'.storage.record d = some (utf8 (Decimal.text (highest start heights)))
  recorded : (∃ height ∈ heights, start ≤ height) → c'.Recorded d (highest start heights)

namespace Running

variable {start : Nat} {heights : List Nat}

theorem of_retains (h : Running c c' d start heights) {s : Storage}
    (hkept : Retains c'.storage s d) : Running c { c' with storage := s } d start heights where
  load := (load_of_retains hkept).trans h.load
  record := by rw [hkept.record]; exact h.record
  recorded hle := by
    obtain ⟨record, hget, hparse⟩ := h.recorded hle
    exact ⟨record, hkept.get.trans hget, hparse⟩

/-- **One move** of the checkpoint. -/
theorem advance (h : Running c c' d start heights) (hs : c'.storage.Settled)
    (hn : height ≤ countMax) :
    Running c (c'.advance d height).2 d start
      (heights ++ if (c'.advance d height).1.isOk then [height] else []) := by
  have hadvances := advances_advance hs h.load height
  generalize c'.advance d height = out at hadvances ⊢
  obtain ⟨result, c''⟩ := out
  cases hadvances with
  | failed hkept =>
    simp only [Except.isOk, Except.toBool, Bool.false_eq_true, ↓reduceIte, List.append_nil]
    exact h.of_retains (hkept d)
  | stayed hle hrecorded =>
    simp only [Except.isOk, Except.toBool, ↓reduceIte]
    have hhighest : highest start (heights ++ [height]) = highest start heights := by
      rw [highest_append, Nat.max_eq_left hle]
    refine ⟨hhighest ▸ h.load, hhighest ▸ h.record, ?_⟩
    rw [hhighest]
    rintro ⟨height', hmem, hstart⟩
    rcases List.mem_append.1 hmem with hmem | hmem
    · exact h.recorded ⟨height', hmem, hstart⟩
    · obtain rfl := List.mem_singleton.1 hmem
      rcases Nat.eq_or_lt_of_le hle with heq | hlt
      · exact hrecorded heq
      · -- an earlier height has been greater
        exact h.recorded ⟨_, highest_mem (Nat.lt_of_le_of_lt hstart hlt), start_le_highest _ _⟩
  | @recorded s hle hget _ =>
    simp only [Except.isOk, Except.toBool, ↓reduceIte]
    have hrecorded : Recorded { c' with storage := s } d height := ⟨_, hget, parse_text _ hn⟩
    have hhighest : highest start (heights ++ [height]) = height := by
      rw [highest_append, Nat.max_eq_right hle]
    refine ⟨?_, .inr ?_, fun _ => ?_⟩ <;> rw [hhighest]
    · exact hrecorded.load_eq
    · exact record_of_get hget
    · exact hrecorded

end Running

theorem after_reopen {moves more : List Move} (hs : c.storage.Settled)
    (h : Allowed c (moves ++ .reopen :: more)) :
    (c.performed moves).after .reopen = c.performed moves := by
  have hlasts := (settled_performed hs h.of_append).2.trans (h.lasts (by simp))
  rw [after, reopened, reopened_of_lasts hlasts]

theorem running_performed (hs : c.storage.Settled) {start : Nat} (hl : c.load d = .ok start)
    {moves : List Move} (h : Allowed c moves) :
    Running c (c.performed moves) d start (c.reached d moves) := by
  induction moves using List.reverseRecOn with
  | nil => exact ⟨hl, .inl rfl, by simp [reached]⟩
  | append_singleton moves m ih =>
    have hrunning := ih h.of_append
    have hsettled := (settled_performed hs h.of_append).1
    rw [performed_snoc, reached_snoc]
    cases m with
    | advance d' height =>
      have hn : height ≤ countMax := h.heights d' height (by simp)
      by_cases hd : d' = d
      · rw [hd]
        simpa only [after, succeeds, Move.heights, ↓reduceIte] using hrunning.advance hsettled hn
      · obtain ⟨s, hs', hkept⟩ := advance_of_ne hsettled (Ne.symm hd) height
        simp only [after, hs', Move.heights, hd, ↓reduceIte, ite_self, List.append_nil]
        exact hrunning.of_retains hkept
    | reopen =>
      rw [after_reopen hs h]
      simpa only [Move.heights, ite_self, List.append_nil] using hrunning

/-- A checkpoint that cannot be read is left alone. -/
theorem performed_of_error (hs : c.storage.Settled) {e : StorageError} (hl : c.load d = .error e)
    {moves : List Move} (h : Allowed c moves) :
    (c.performed moves).load d = .error e ∧
      (c.performed moves).storage.record d = c.storage.record d := by
  induction moves using List.reverseRecOn with
  | nil => exact ⟨hl, rfl⟩
  | append_singleton moves m ih =>
    obtain ⟨hload, hrecord⟩ := ih h.of_append
    have hsettled := (settled_performed hs h.of_append).1
    rw [performed_snoc]
    cases m with
    | advance d' height =>
      by_cases hd : d' = d
      · rw [after, hd, advance_of_error hload]
        exact ⟨hload, hrecord⟩
      · obtain ⟨s, hs', hkept⟩ := advance_of_ne hsettled (Ne.symm hd) height
        rw [after, hs']
        exact ⟨(load_of_retains hkept).trans hload, hkept.record.trans hrecord⟩
    | reopen =>
      rw [after_reopen hs h]
      exact ⟨hload, hrecord⟩

theorem usable_performed (husable : c.storage.Usable) {moves : List Move} (h : Allowed c moves) :
    (c.performed moves).storage.Usable := by
  induction moves using List.reverseRecOn with
  | nil => exact husable
  | append_singleton moves m ih =>
    rw [performed_snoc]
    cases m with
    | advance d' height => exact usable_advance (ih h.of_append) d' height
    | reopen =>
      rw [after_reopen husable.settled h]
      exact ih h.of_append

/-- Where every record can be set, all moves of a checkpoint that can be read succeed. -/
theorem reached_of_usable (husable : c.storage.Usable) {start : Nat} (hl : c.load d = .ok start)
    {moves : List Move} (h : Allowed c moves) : c.reached d moves = requested d moves := by
  induction moves using List.reverseRecOn with
  | nil => rfl
  | append_singleton moves m ih =>
    have hrunning := running_performed husable.settled hl h.of_append
    rw [reached_snoc, requested_snoc, ih h.of_append]
    cases m with
    | advance d' height =>
      by_cases hd : d' = d
      · obtain ⟨value, hvalue⟩ :=
          advance_ok_of_usable (usable_performed husable h.of_append) hrunning.load height
        simp [succeeds, hd, hvalue, Except.isOk, Except.toBool]
      · simp [Move.heights, hd]
    | reopen => rfl

/-- **A checkpoint is a running maximum**, be it in memory or in a file, in whatever order it is moved
    and however often it is read anew.  As long as its record can be read it is the greatest of its
    first value and of the heights it has been moved to, and a move answers it; otherwise it is left
    alone.  Where every record can be set no move fails, so that their order does not matter. -/
theorem running_maximum (hs : c.storage.Settled) {moves : List Move} (h : Allowed c moves)
    (d : Direction) :
    let c' := c.performed moves
    (∀ start, c.load d = .ok start →
      Running c c' d start (c.reached d moves) ∧
      (∀ record, c'.storage.get d.key = .ok record → parse d.key record = c'.load d) ∧
      (∀ height ≤ countMax, ∀ value, (c'.advance d height).1 = .ok value →
        (c'.advance d height).2.load d = .ok value)) ∧
    (∀ e, c.load d = .error e → c'.load d = .error e ∧ c'.storage.record d = c.storage.record d ∧
      ∀ height, c'.advance d height = (.error e, c')) ∧
    (c.storage.Usable → ∀ start, c.load d = .ok start →
      c'.load d = .ok (highest start (requested d moves)) ∧
      (∀ height, ∃ value, (c'.advance d height).1 = .ok value) ∧
      ∀ moves', Allowed c moves' → (requested d moves).Perm (requested d moves') →
        (c.performed moves').load d = c'.load d) := by
  intro c'
  refine ⟨fun start hl => ?_, fun e hl => ?_, fun husable start hl => ?_⟩
  · have hrunning := running_performed hs hl h
    have hsettled := (settled_performed hs h).1
    refine ⟨hrunning, fun record hget => ?_, fun height hn value hvalue => ?_⟩
    · rw [load, hget]
    · rcases (moved_advance c' d height).of_load hrunning.load with ⟨e, he, -⟩ | ⟨hok, hload, -⟩
      · cases hvalue.symm.trans he
      · rw [hload hn, ← hok, hvalue]
  · obtain ⟨hload, hrecord⟩ := performed_of_error hs hl h
    exact ⟨hload, hrecord, advance_of_error hload⟩
  · have hload : ∀ moves', Allowed c moves' →
        (c.performed moves').load d = .ok (highest start (requested d moves')) := by
      intro moves' h'
      rw [← reached_of_usable husable hl h']
      exact (running_performed hs hl h').load
    refine ⟨hload moves h, fun height => ?_, fun moves' h' hperm => ?_⟩
    · exact advance_ok_of_usable (usable_performed husable h) (hload moves h) height
    · rw [hload moves' h', hload moves h, highest_perm hperm]

/-! ### Moves in two orders -/

namespace Sample

/-- A checkpoint moved up and down again, with a restart between. -/
def moves : List Move := [.advance .sent 50, .advance .received 15, .reopen, .advance .sent 30]

/-- The same heights, with the other checkpoint moved last. -/
def reordered : List Move := [.advance .sent 30, .advance .sent 50, .reopen, .advance .received 15]

theorem allowed_moves : Allowed unstarted moves where
  heights d height hm := by
    simp only [moves, List.mem_cons, Move.advance.injEq, List.not_mem_nil, reduceCtorEq] at hm
    rcases hm with ⟨-, rfl⟩ | ⟨-, rfl⟩ | h | ⟨-, rfl⟩ | h
    all_goals first | decide | cases h
  lasts _ := rfl

theorem allowed_reordered : Allowed unstarted reordered where
  heights d height hm := by
    refine allowed_moves.heights d height ?_
    simp only [moves, reordered, List.mem_cons] at hm ⊢
    tauto
  lasts _ := rfl

/-- Checkpoints whose folder is named by way of a missing one, which hides an older record. -/
def hidden : Checkpoints where
  storage := .directory ⟨"x/../data"⟩ (.folder [("data", .folder [("send", .file [0x35, 0x30])])])
  initialSent := 100
  initialReceived := 1

/-- Checkpoints whose records cannot be written: a folder stands beside one of them. -/
def blocked : Checkpoints where
  storage := .directory ⟨"data"⟩ (.folder [("data", .folder [("send.tmp", .folder [])])])
  initialSent := 1
  initialReceived := 1

theorem settled_blocked : blocked.storage.Settled := by
  have hlocate : (FileTree.folder [("data", .folder [("send.tmp", .folder [])])]).locate ⟨"data"⟩ =
      .ok ["data"] := rfl
  exact settled_of_locate hlocate

/-- A name of 256 bytes. -/
def longName : String := String.ofList (List.replicate 256 'b')

theorem isOverlong_longName : Path.IsOverlong longName := by
  have hchars : longName.toList = List.replicate 256 'b' := String.toList_ofList
  have hne : ∀ s : String, s.length < 256 → longName ≠ s := by
    rintro s hs rfl
    rw [← String.length_toList, hchars, List.length_replicate] at hs
    exact absurd hs (Nat.lt_irrefl 256)
  have hlength : (utf8 longName).length = 256 := by
    rw [utf8, hchars, Utf8.length_utf8Chars_ascii, List.length_replicate]
    intro c hc
    rw [List.eq_of_mem_replicate hc]
    decide
  refine ⟨⟨hne "" (by decide), hne "." (by decide), hne ".." (by decide), ?_⟩, ?_, ?_⟩
  · rw [hchars]
    exact fun h => absurd (List.eq_of_mem_replicate h) (by decide)
  · rw [hchars]
    exact fun h => absurd (List.eq_of_mem_replicate h) (by decide)
  · rw [hlength]
    decide

/-- A folder with a name that is too long. -/
def longFolder : Path := (⟨"a"⟩ : Path).join ⟨longName⟩

/-- Checkpoints whose folder cannot be created; the folder above it is missing as well. -/
def overlong : Checkpoints where
  storage := .directory longFolder .empty
  initialSent := 100
  initialReceived := 1

/-- The folder above has been created. -/
def begun : Checkpoints := { overlong with storage := .directory longFolder (.folder [("a", .empty)]) }

theorem not_settled_overlong : ¬ overlong.storage.Settled :=
  not_settled_of_overlong isOverlong_longName rfl rfl rfl

theorem load_overlong : overlong.load .sent = .ok 100 := by
  have hmissing : FileTree.empty.locate longFolder = .error .notFound := by
    rw [longFolder, FileTree.locate_overlong isOverlong_longName]
    rfl
  have hget : overlong.storage.get Direction.sent.key = .error .notFound := get_of_error hmissing .sent
  rw [load, hget]
  rfl

theorem advance_overlong : overlong.advance .sent 150 = (.error (.backend .badName), begun) := by
  have hopen : FileTree.empty.openFolders longFolder =
      (.error .badName, .folder [("a", .empty)]) :=
    FileTree.openFolders_overlong isOverlong_longName rfl
  have hset : ∀ v, overlong.storage.set Direction.sent.key v =
      (.error (.backend .badName), begun.storage) := set_of_not_opened hopen _
  rw [advance, load_overlong]
  dsimp only
  rw [if_neg (by decide), if_neg (by decide), store, hset]
  rfl

theorem load_begun : begun.load .sent = .error (.backend .badName) := by
  have hlocate : (FileTree.folder [("a", .empty)]).locate longFolder = .error .badName := by
    rw [longFolder, FileTree.locate_overlong isOverlong_longName]
    rfl
  have hget : begun.storage.get Direction.sent.key = .error (.backend .badName) :=
    get_of_error hlocate .sent
  rw [load, hget]

end Sample

/-- A checkpoint that is moved twice in either order, while the other one stays below its first
    value and has no record. -/
theorem running_maximum_twice :
    unstarted.storage.Settled ∧
      Allowed unstarted Sample.moves ∧ Allowed unstarted Sample.reordered ∧
      (unstarted.performed Sample.moves).load .sent = .ok 50 ∧
      (unstarted.performed Sample.reordered).load .sent = .ok 50 ∧
      (unstarted.performed Sample.moves).load .received = .ok 20 ∧
      (unstarted.performed Sample.moves).storage.record .received = none := by
  obtain ⟨t, ht, hready⟩ := sound_unstarted.files
  have husable : unstarted.storage.Usable := ht ▸ .filed hready
  obtain ⟨-, -, hsent⟩ := running_maximum husable.settled Sample.allowed_moves .sent
  obtain ⟨-, -, hreceived⟩ := running_maximum husable.settled Sample.allowed_moves .received
  obtain ⟨hload, -, horder⟩ := hsent husable 10 rfl
  refine ⟨husable.settled, Sample.allowed_moves, Sample.allowed_reordered, hload, ?_, ?_, rfl⟩
  · exact (horder Sample.reordered Sample.allowed_reordered (List.Perm.swap 30 50 [])).trans hload
  · exact (hreceived husable 20 rfl).1

/-- **What a checkpoint is not.**  Where the storage is not settled, moving one checkpoint creates a
    missing folder, and the other one falls back to the record that was hidden.  A move that fails
    does not count.  And one that fails after it has created a part of the way to the records can
    make a checkpoint unreadable. -/
theorem running_maximum_exceptions :
    (Sample.hidden.load .sent = .ok 100 ∧ (Sample.hidden.advance .received 6).1 = .ok 6 ∧
      requested .sent [.advance .received 6] = [] ∧ highest 100 [] = 100 ∧
      (Sample.hidden.performed [.advance .received 6]).load .sent = .ok 50) ∧
    (Sample.blocked.storage.Settled ∧ Sample.blocked.load .sent = .ok 1 ∧
      (Sample.blocked.advance .sent 50).1 = .error (.backend .isFolder) ∧
      highest 1 (requested .sent [.advance .sent 50]) = 50 ∧
      (Sample.blocked.performed [.advance .sent 50]).load .sent = .ok 1) ∧
    ¬ Sample.overlong.storage.Settled ∧ Sample.overlong.load .sent = .ok 100 ∧
      (Sample.overlong.advance .sent 150).1 = .error (.backend .badName) ∧
      (Sample.overlong.performed [.advance .sent 150]).load .sent = .error (.backend .badName) :=
  ⟨⟨rfl, rfl, rfl, rfl, rfl⟩, ⟨Sample.settled_blocked, rfl, rfl, rfl, rfl⟩,
    Sample.not_settled_overlong, Sample.load_overlong, by rw [Sample.advance_overlong],
    by rw [performed, List.foldl_cons, List.foldl_nil, after, Sample.advance_overlong,
      Sample.load_begun]⟩

end Checkpoints

end PacketRelay
