/-
  Searches one after the other.

  A `Turn` is what one search meets: the token, the target, the state of the peers and what happened
  before.  `resultAt` and `checkpointsAt` are the results of a sequence of searches in one direction
  and the checkpoints before each of them; nothing else is carried over from one to the next.
  `scans_of_turns`: on a settled storage such a sequence is a sequence of scans.
-/
import PacketRelay.Proofs.Discovery.Cursor

namespace PacketRelay

open Session

/-- What one search meets. -/
structure Turn (σ : Type) where
  token : CancelToken
  target : Nat
  target_le : target ≤ countMax
  peers : σ
  now : Instant
  calls : List (Instant × Call)
  channelOpen : Bool

/-- The session in which a search runs. -/
def Turn.session {σ : Type} (u : Turn σ) (c : Checkpoints) : Session σ :=
  ⟨u.peers, u.now, u.calls, c, u.channelOpen⟩

namespace Scanner

variable {σ : Type} [Node σ] [Counterparty σ]

/-! ## Sequences of searches -/

section
variable (k : Scanner) (d : Direction) (c : Checkpoints) (turns : Nat → Turn σ)

/-- The checkpoints before the search with a number. -/
def checkpointsAt : Nat → Checkpoints
  | 0 => c
  | i + 1 => (run (k.unrelayed (turns i).token d (turns i).target)
      ((turns i).session (checkpointsAt i))).2.checkpoints

/-- The result of the search with a number. -/
def resultAt (i : Nat) : Except DiscoveryError (List Packet) :=
  (run (k.unrelayed (turns i).token d (turns i).target)
    ((turns i).session (k.checkpointsAt d c turns i))).1

/-- The checkpoint before the search with a number. -/
def cursorAt (i : Nat) : Nat := ((k.checkpointsAt d c turns i).load d).toOption.getD 0

/-- Whether a search has succeeded and has scanned an event. -/
def scannedBy (i : Nat) (q : Packet) : Bool :=
  (k.resultAt d c turns i).toOption.isSome &&
    q.within (k.cursorAt d c turns i) (turns i).target

/-- Whether a search has moved the checkpoint past an event it scanned. -/
def passedBy (i : Nat) (q : Packet) : Bool :=
  k.scannedBy d c turns i q && decide (q.eventHeight < k.cursorAt d c turns (i + 1))

end

/-- A search that fails passes nothing. -/
theorem passedBy_of_error {k : Scanner} {d : Direction} {c : Checkpoints} {turns : Nat → Turn σ}
    {i : Nat} {e : DiscoveryError} (h : k.resultAt d c turns i = .error e) (q : Packet) :
    k.passedBy d c turns i q = false := by
  rw [passedBy, scannedBy, h]
  rfl

/-- A search is a scan if what it finds is what `answer` makes of the events in its range. -/
theorem scan_of_called {k : Scanner} {token : CancelToken} {d : Direction} {target m : Nat}
    {s : Session σ} {r : Except DiscoveryError (List Packet)} {c : Checkpoints}
    (h : k.Called token d target s r c) (htarget : target ≤ countMax)
    (hsettled : s.checkpoints.storage.Settled) (hm : s.checkpoints.load d = .ok m)
    {events : List Packet} {answer : Packet → Option Packet}
    (hheight : ∀ q q', answer q = some q' → q'.eventHeight = q.eventHeight)
    (hfound : ∀ found ps s₁ s₂, run (k.candidates token d m target) s = (.ok found, s₁) →
      run (keepUnreceived token d found) s₁ = (.ok ps, s₂) →
        ps = (events.filter (Packet.within m target)).filterMap answer) :
    ∃ m', c.load d = .ok m' ∧ Scan events answer target m r m' := by
  cases h with
  | failed e hk _ => exact ⟨m, ((hk d).load hsettled).trans hm, .failed e⟩
  | idle hl hlt =>
    obtain rfl := Except.ok.inj (hm.symm.trans hl)
    exact ⟨m, hm, .idle hlt⟩
  | found hl hle hf hk hok =>
    obtain rfl := Except.ok.inj (hm.symm.trans hl)
    obtain rfl := hfound _ _ _ _ hf hk
    refine ⟨_, ?_, .scanned hle⟩
    rcases (s.checkpoints.moved_advance d _).of_load hm with ⟨e, he, -⟩ | ⟨-, hload, -⟩
    · rw [hok] at he
      cases he
    · exact hload (Scan.nextCheckpoint_le_countMax fun _ hq =>
        Nat.le_trans (Scan.height_le hheight hq) htarget)

/-- **A sequence of searches is a sequence of scans.** -/
theorem scans_of_turns {k : Scanner} {d : Direction} {c : Checkpoints} {turns : Nat → Turn σ}
    {n start : Nat} (hstart : c.load d = .ok start) (hsettled : c.storage.Settled)
    {events : List Packet} {answer : Nat → Packet → Option Packet}
    (hheight : ∀ i q q', answer i q = some q' → q'.eventHeight = q.eventHeight)
    (hfound : ∀ i < n, ∀ m found ps s s₁ s₂, s.peers = (turns i).peers →
      run (k.candidates (turns i).token d m (turns i).target) s = (.ok found, s₁) →
      run (keepUnreceived (turns i).token d found) s₁ = (.ok ps, s₂) →
        ps = (events.filter (Packet.within m (turns i).target)).filterMap (answer i)) :
    (∀ i ≤ n, (k.checkpointsAt d c turns i).load d = .ok (k.cursorAt d c turns i)) ∧
    k.cursorAt d c turns 0 = start ∧
    ∀ i < n, Scan events (answer i) (turns i).target (k.cursorAt d c turns i)
      (k.resultAt d c turns i) (k.cursorAt d c turns (i + 1)) := by
  have hall : ∀ i ≤ n, (k.checkpointsAt d c turns i).storage.Settled ∧
      (k.checkpointsAt d c turns i).load d = .ok (k.cursorAt d c turns i) ∧
      ∀ j < i, Scan events (answer j) (turns j).target (k.cursorAt d c turns j)
        (k.resultAt d c turns j) (k.cursorAt d c turns (j + 1)) := by
    intro i hi
    induction i with
    | zero =>
      refine ⟨hsettled, ?_, fun j hj => absurd hj (Nat.not_lt_zero j)⟩
      simp only [cursorAt, checkpointsAt, hstart, Except.toOption, Option.getD_some]
    | succ i ih =>
      obtain ⟨hset, hload, hscans⟩ := ih (by omega)
      have hcall := k.called_unrelayed (turns i).token d (turns i).target
        ((turns i).session (k.checkpointsAt d c turns i))
      obtain ⟨m', hm', hscan⟩ := scan_of_called hcall (turns i).target_le hset hload (hheight i)
        fun found ps s₁ s₂ => hfound i hi _ found ps _ s₁ s₂ rfl
      have hcursor : k.cursorAt d c turns (i + 1) = m' := by
        simp only [cursorAt, checkpointsAt, hm', Except.toOption, Option.getD_some]
      refine ⟨k.settled_of_called (turns i).token hcall hset, ?_, fun j hj => ?_⟩
      · rw [hcursor]
        exact hm'
      · rcases Nat.lt_succ_iff_lt_or_eq.1 hj with hj | rfl
        · exact hscans j hj
        · rw [hcursor]
          exact hscan
  refine ⟨fun i hi => (hall i hi).2.1, ?_, (hall n (Nat.le_refl n)).2.2⟩
  simp only [cursorAt, checkpointsAt, hstart]
  rfl

end Scanner

end PacketRelay
