/-
  What is known below a checkpoint.

  A `Scan` is one search seen from outside: its result and the checkpoint after it, for events in a
  range and an `answer` that says what is made of an event that is scanned.  In a sequence of scans,
  whatever their answers are,

  * `monotone`: the checkpoint never moves backwards;
  * `passed`: an event below the checkpoint has been scanned by an earlier scan that made nothing of
    it;
  * `result_eq`: a scan finds what its answer makes of the events in its range that have not been
    passed before.
-/
import PacketRelay.Proofs.Discovery.Search

namespace PacketRelay

/-- One search among events, up to a target and from a checkpoint on. -/
inductive Scan (events : List Packet) (answer : Packet → Option Packet) (target m : Nat) :
    Except DiscoveryError (List Packet) → Nat → Prop
  | failed (e : DiscoveryError) : Scan events answer target m (.error e) m
  | idle : target < m → Scan events answer target m (.ok []) m
  | scanned : m ≤ target →
      Scan events answer target m
        (.ok ((events.filter (Packet.within m target)).filterMap answer))
        (max m (Scanner.nextCheckpoint target
          ((events.filter (Packet.within m target)).filterMap answer)))

namespace Scan

/-! ## One scan -/

section
variable {events : List Packet} {answer : Packet → Option Packet} {target m m' : Nat}
  {r : Except DiscoveryError (List Packet)}

theorem le (h : Scan events answer target m r m') : m ≤ m' := by
  cases h with
  | failed => exact Nat.le_refl _
  | idle => exact Nat.le_refl _
  | scanned => exact Nat.le_max_left _ _

/-- The next checkpoint is no higher than any event that is kept. -/
theorem nextCheckpoint_le {ps : List Packet} {q : Packet} (hq : q ∈ ps) :
    Scanner.nextCheckpoint target ps ≤ q.eventHeight := by
  obtain ⟨e, he, hle⟩ := Scanner.earliestHeight_le hq
  rwa [Scanner.nextCheckpoint, he]

/-- The next checkpoint is not beyond the block after the target. -/
theorem nextCheckpoint_le_succ {ps : List Packet} (h : ∀ q ∈ ps, q.eventHeight ≤ target) :
    Scanner.nextCheckpoint target ps ≤ target + 1 := by
  rw [Scanner.nextCheckpoint]
  cases he : Packet.earliestHeight? ps with
  | none => exact Nat.min_le_left _ _
  | some e =>
    obtain ⟨q, hq, rfl⟩ := Scanner.earliestHeight_mem he
    exact Nat.le_succ_of_le (h q hq)

theorem nextCheckpoint_le_countMax {ps : List Packet} (h : ∀ q ∈ ps, q.eventHeight ≤ countMax) :
    Scanner.nextCheckpoint target ps ≤ countMax := by
  rw [Scanner.nextCheckpoint]
  cases he : Packet.earliestHeight? ps with
  | none => exact Nat.min_le_right _ _
  | some e =>
    obtain ⟨q, hq, rfl⟩ := Scanner.earliestHeight_mem he
    exact h q hq

/-- What is found lies below the target. -/
theorem height_le (hheight : ∀ q q', answer q = some q' → q'.eventHeight = q.eventHeight)
    {q : Packet} (hq : q ∈ (events.filter (Packet.within m target)).filterMap answer) :
    q.eventHeight ≤ target := by
  obtain ⟨q₀, hq₀, ha⟩ := List.mem_filterMap.1 hq
  rw [hheight q₀ q ha]
  exact (Packet.within_iff.1 (List.mem_filter.1 hq₀).2).2

/-- A scan finds what its answer makes of the events from the checkpoint to the target. -/
theorem eq_of_ok {ps : List Packet} (h : Scan events answer target m (.ok ps) m') :
    ps = (events.filter (Packet.within m target)).filterMap answer := by
  cases h with
  | idle hlt =>
    have hnone : events.filter (Packet.within m target) = [] := by
      refine List.filter_eq_nil_iff.2 fun q _ hw => ?_
      obtain ⟨h₁, h₂⟩ := Packet.within_iff.1 hw
      omega
    rw [hnone]
    rfl
  | scanned _ => rfl

/-- An event that a scan passes is in its range, and nothing is made of it. -/
theorem passes (hheight : ∀ q q', answer q = some q' → q'.eventHeight = q.eventHeight)
    (h : Scan events answer target m r m') {q : Packet} (hq : q ∈ events)
    (hm : m ≤ q.eventHeight) (hm' : q.eventHeight < m') :
    (∃ ps, r = .ok ps) ∧ q.eventHeight ≤ target ∧ answer q = none := by
  cases h with
  | failed => omega
  | idle => omega
  | scanned hle =>
    set ps := (events.filter (Packet.within m target)).filterMap answer with hps
    have hnext : q.eventHeight < Scanner.nextCheckpoint target ps := by omega
    have htarget : q.eventHeight ≤ target := by
      have hsucc : Scanner.nextCheckpoint target ps ≤ target + 1 :=
        nextCheckpoint_le_succ fun _ => height_le hheight
      omega
    refine ⟨⟨ps, rfl⟩, htarget, ?_⟩
    cases ha : answer q with
    | none => rfl
    | some q' =>
      have hmem : q' ∈ ps := List.mem_filterMap.2
        ⟨q, List.mem_filter.2 ⟨hq, Packet.within_iff.2 ⟨hm, htarget⟩⟩, ha⟩
      have hle' : Scanner.nextCheckpoint target ps ≤ q'.eventHeight := nextCheckpoint_le hmem
      rw [hheight q q' ha] at hle'
      omega

end

/-! ## Sequences of scans -/

section
variable {events : List Packet} {answer : Nat → Packet → Option Packet} {target m : Nat → Nat}
  {r : Nat → Except DiscoveryError (List Packet)} {n : Nat}
  (hscan : ∀ i < n, Scan events (answer i) (target i) (m i) (r i) (m (i + 1)))

include hscan

theorem monotone {i j : Nat} (hij : i ≤ j) (hj : j ≤ n) : m i ≤ m j := by
  induction j with
  | zero =>
    obtain rfl := Nat.le_zero.1 hij
    exact Nat.le_refl _
  | succ j ih =>
    rcases Nat.le_or_eq_of_le_succ hij with h | rfl
    · exact Nat.le_trans (ih h (by omega)) (hscan j (by omega)).le
    · exact Nat.le_refl _

/-- **What lies below the checkpoint has been scanned, and nothing was made of it.** -/
theorem passed (hheight : ∀ i q q', answer i q = some q' → q'.eventHeight = q.eventHeight)
    {i : Nat} (hi : i ≤ n) {q : Packet} (hq : q ∈ events) (h₀ : m 0 ≤ q.eventHeight)
    (hlt : q.eventHeight < m i) :
    ∃ j < i, m j ≤ q.eventHeight ∧ q.eventHeight < m (j + 1) ∧ (∃ ps, r j = .ok ps) ∧
      q.eventHeight ≤ target j ∧ answer j q = none := by
  induction i with
  | zero => omega
  | succ i ih =>
    rcases Nat.lt_or_ge q.eventHeight (m i) with h | h
    · obtain ⟨j, hj, hrest⟩ := ih (by omega) h
      exact ⟨j, by omega, hrest⟩
    · exact ⟨i, by omega, h, hlt, (hscan i hi).passes (hheight i) hq h hlt⟩

/-- **A scan finds what its answer makes of the events not passed before.** -/
theorem result_eq {i : Nat} (hi : i < n) {ps : List Packet} (h : r i = .ok ps) :
    ps = (events.filter fun q => q.within (m 0) (target i) && decide (m i ≤ q.eventHeight)).filterMap
      (answer i) := by
  have hs := hscan i hi
  rw [h] at hs
  have h₀ := monotone hscan (Nat.zero_le i) (Nat.le_of_lt hi)
  rw [hs.eq_of_ok]
  congr 1
  refine List.filter_congr fun q _ => ?_
  rw [Bool.eq_iff_iff, Bool.and_eq_true, Packet.within_iff, Packet.within_iff, decide_eq_true_iff]
  omega

end

end Scan

end PacketRelay
