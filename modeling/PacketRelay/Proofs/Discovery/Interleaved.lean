/-
  Searches of both directions, one after the other.

  * `Answered` says of every log that is answered while windows are read what it has to do with its
    window; the logs are `InWindows` when each lies in the window it was asked for;
  * `scanned_of_candidates`: what a search finds has been read in the first scan, so that it lies
    where the logs of this scan lie (`within_of_candidates`);
  * `interleavedAt` are the checkpoints before each of a sequence of searches, every one in a
    direction of its own;
  * `interleaved_checkpoints`: no answer of the peers moves a checkpoint backwards, and as long as the
    logs lie in their windows a search that succeeds records the block up to which it is done.
-/
import PacketRelay.Proofs.Discovery.Run
import PacketRelay.Proofs.Discovery.Sent

namespace PacketRelay

open Session

variable {σ : Type} [Node σ]

/-! ## What is answered -/

namespace Scanner

/-- The event that a search scans for first. -/
def scanned : Direction → Contract.Event
  | .sent => Contract.sendPacket
  | .received => Contract.recvPacket

/-- While windows are read, all logs that are answered are related to their windows. -/
def Answered (k : Scanner) (token : CancelToken) (topic : Hash) (P : Nat × Nat → Log → Prop) :
    List (Nat × Nat) → Session σ → Prop
  | [], _ => True
  | w :: rest, s => ∀ (logs : List Log) (s' : Session σ),
    run (query token (.logs ⟨k.contract, topic, w.1, w.2⟩)) s = (.ok logs, s') →
      (∀ l ∈ logs, P w l) ∧ Answered k token topic P rest s'

/-- All logs that are answered in the first scan of a search lie in their windows. -/
def InWindows (k : Scanner) (token : CancelToken) (d : Direction) (first last : Nat)
    (s : Session σ) : Prop :=
  k.Answered token (scanned d).topic (fun w l => l.within w.1 w.2)
    (scanWindows first last k.blocksPerQuery) s

variable {k : Scanner} {token : CancelToken} {d : Direction}

theorem windowLogs_answered {topic : Hash} {P : Nat × Nat → Log → Prop} {Q : Log → Prop}
    {ws : List (Nat × Nat)} (hPQ : ∀ w ∈ ws, ∀ l, P w l → Q l) {s s' : Session σ}
    (h : k.Answered token topic P ws s) {logs : List Log}
    (hr : run (k.windowLogs token topic ws) s = (.ok logs, s')) : ∀ l ∈ logs, Q l := by
  induction ws generalizing s s' logs with
  | nil =>
    obtain rfl : [] = logs := Except.ok.inj (congrArg Prod.fst hr)
    intro l hl
    cases hl
  | cons w ws ih =>
    obtain ⟨hw, hws⟩ := List.forall_mem_cons.1 hPQ
    obtain ⟨answer, s₁, hq, hr⟩ := run_bind_ok hr
    obtain ⟨more, s₂, hmore, hr⟩ := run_bind_ok hr
    obtain rfl := Except.ok.inj (congrArg Prod.fst hr)
    obtain ⟨hanswer, hrest⟩ := h answer s₁ hq
    intro l hl
    rcases List.mem_append.1 hl with hl | hl
    · exact hw l (hanswer l hl)
    · exact ih hws hrest hmore l hl

/-! ## Where packets come from -/

theorem mem_keepCommitted {height : Nat} {found ps : List Packet} {s s' : Session σ}
    (h : run (k.keepCommitted token height found) s = (.ok ps, s')) {q : Packet} (hq : q ∈ ps) :
    q ∈ found := by
  induction found generalizing s s' ps with
  | nil =>
    obtain rfl : [] = ps := Except.ok.inj (congrArg Prod.fst h)
    exact hq
  | cons p found ih =>
    obtain ⟨c, s₁, -, h⟩ := run_bind_ok h
    obtain ⟨more, s₂, hmore, h⟩ := run_bind_ok h
    have hps : (if c.isZero then more else p :: more) = ps := Except.ok.inj (congrArg Prod.fst h)
    rw [← hps] at hq
    split_ifs at hq
    · exact List.mem_cons_of_mem p (ih hmore hq)
    · rcases List.mem_cons.1 hq with rfl | hq
      · exact List.mem_cons_self
      · exact List.mem_cons_of_mem p (ih hmore hq)

theorem block_of_mem_sentEvents {logs : List Log} {q : Packet} (hq : q ∈ k.sentEvents logs) :
    ∃ l ∈ logs, l.block = some q.eventHeight := by
  obtain ⟨l, hl, hread⟩ := List.mem_filterMap.1 (List.mem_filter.1 hq).1
  exact ⟨l, hl, block_of_sentPacket hread⟩

theorem block_of_mem_receivedEvents {logs : List Log} {q : Packet}
    (hq : q ∈ k.receivedEvents logs) : ∃ l ∈ logs, l.block = some q.eventHeight := by
  obtain ⟨l, hl, hread⟩ := List.mem_filterMap.1 (List.mem_filter.1 hq).1
  exact ⟨l, hl, block_of_receivedPacket hread⟩

/-- What a search finds has been read in its first scan. -/
theorem scanned_of_candidates {first last : Nat} {s s' : Session σ} {found : List Packet}
    (h : run (k.candidates token d first last) s = (.ok found, s')) :
    ∃ logs s₁, run (k.scanLogs token (scanned d) first last) s = (.ok logs, s₁) ∧
      ∀ q ∈ found, ∃ l ∈ logs, l.block = some q.eventHeight := by
  cases d with
  | sent =>
    obtain ⟨logs, s₁, hscan, h⟩ := run_bind_ok h
    obtain ⟨sent, s₂, hsent, h⟩ := run_bind_ok h
    obtain rfl := sentPackets_ok (congrArg Prod.fst hsent)
    exact ⟨logs, s₁, hscan, fun q hq => block_of_mem_sentEvents (mem_keepCommitted h hq)⟩
  | received =>
    obtain ⟨logs, s₁, hscan, h⟩ := run_bind_ok h
    obtain ⟨received, s₂, hreceived, h⟩ := run_bind_ok h
    obtain rfl := receivedPackets_ok (congrArg Prod.fst hreceived)
    refine ⟨logs, s₁, hscan, fun q hq => ?_⟩
    cases he : Packet.earliestHeight? (k.receivedEvents logs) with
    | none =>
      rw [he] at h
      obtain rfl : [] = found := Except.ok.inj (congrArg Prod.fst h)
      cases hq
    | some e =>
      rw [he] at h
      obtain ⟨_, s₃, -, h⟩ := run_bind_ok h
      obtain ⟨written, s₄, -, h⟩ := run_bind_ok h
      obtain rfl : _ = found := Except.ok.inj (congrArg Prod.fst h)
      obtain ⟨p, hp, hacknowledged⟩ := List.mem_filterMap.1 hq
      rw [(acknowledged_eq_some hacknowledged).2]
      exact block_of_mem_receivedEvents hp

/-- As long as the logs lie in their windows, what a search finds lies in its range. -/
theorem within_of_candidates {first last : Nat} {s s' : Session σ} {found : List Packet}
    (hin : k.InWindows token d first last s)
    (h : run (k.candidates token d first last) s = (.ok found, s')) :
    ∀ q ∈ found, first ≤ q.eventHeight ∧ q.eventHeight ≤ last := by
  obtain ⟨logs, s₁, hscan, hfound⟩ := scanned_of_candidates h
  have hlogs : ∀ l ∈ logs, l.within first last = true := by
    refine windowLogs_answered (fun w hw l hl => ?_) hin hscan
    obtain ⟨b, hb, hfirst, hlast⟩ := Log.within_iff.1 hl
    obtain ⟨hw₁, hw₂⟩ := le_of_mem_scanWindows hw
    exact Log.within_iff.2 ⟨b, hb, Nat.le_trans hw₁ hfirst, Nat.le_trans hlast hw₂⟩
  intro q hq
  obtain ⟨l, hl, hblock⟩ := hfound q hq
  obtain ⟨b, hb, hrange⟩ := Log.within_iff.1 (hlogs l hl)
  obtain rfl := Option.some.inj (hblock.symm.trans hb)
  exact hrange

variable [Counterparty σ]

omit [Node σ] in
theorem mem_keepUnreceived {found ps : List Packet} {s s' : Session σ}
    (h : run (keepUnreceived token d found) s = (.ok ps, s')) {q : Packet} (hq : q ∈ ps) :
    q ∈ found := by
  cases found with
  | nil =>
    obtain rfl : [] = ps := Except.ok.inj (congrArg Prod.fst h)
    exact hq
  | cons p found =>
    obtain ⟨height, s₁, -, h⟩ := run_bind_ok h
    obtain ⟨listed, s₂, -, h⟩ := run_bind_ok h
    obtain rfl : _ = ps := Except.ok.inj (congrArg Prod.fst h)
    exact (List.mem_filter.1 hq).1

/-! ## Blocks that can be represented -/

/-- From `p` on the node reports no block that cannot be represented. -/
def Representable (p : σ) : Prop :=
  ∀ p', After p p' → ∀ (q : LogQuery) (logs : List Log), (Node.reply (.logs q) p').1 = .ok logs →
    ∀ l ∈ logs, ∀ b ∈ l.block, b ≤ countMax

theorem answered_of_representable {topic : Hash} {p : σ} (h : Representable p)
    (ws : List (Nat × Nat)) {s : Session σ} (hs : After p s.peers) :
    k.Answered token topic (fun _ l => ∀ b ∈ l.block, b ≤ countMax) ws s := by
  induction ws generalizing s with
  | nil => trivial
  | cons w ws ih =>
    intro logs s' hr
    exact ⟨h _ hs _ logs (query_ok hr), ih ((guarded_query token _).onlyAsks.after hr hs)⟩

theorem height_of_candidates {first last : Nat} {s s' : Session σ} {found : List Packet}
    (hblocks : Representable s.peers)
    (h : run (k.candidates token d first last) s = (.ok found, s')) :
    ∀ q ∈ found, q.eventHeight ≤ countMax := by
  obtain ⟨logs, s₁, hscan, hfound⟩ := scanned_of_candidates h
  have hlogs : ∀ l ∈ logs, ∀ b ∈ l.block, b ≤ countMax :=
    windowLogs_answered (Q := fun l => ∀ b ∈ l.block, b ≤ countMax) (fun _ _ _ hl => hl)
      (answered_of_representable hblocks _ .refl) hscan
  intro q hq
  obtain ⟨l, hl, hblock⟩ := hfound q hq
  exact hlogs l hl _ hblock

/-- A node that answers exactly answers in the windows. -/
theorem inWindows_of_exact {logs : List Log} {first last : Nat} {s : Session σ}
    (h : Exact k.contract (scanned d).topic logs last s.peers) :
    k.InWindows token d first last s := by
  suffices hall : ∀ ws : List (Nat × Nat), (∀ w ∈ ws, w.2 ≤ last) → ∀ s', After s.peers s'.peers →
      k.Answered token (scanned d).topic (fun w l => l.within w.1 w.2) ws s' from
    hall _ (fun w hw => (le_of_mem_scanWindows hw).2) s .refl
  intro ws hws
  induction ws with
  | nil =>
    intro s' _
    trivial
  | cons w ws ih =>
    intro s' hs answer s'' hr
    obtain ⟨hw, hws⟩ := List.forall_mem_cons.1 hws
    refine ⟨fun l hl => ?_, ih hws s'' ((guarded_query token _).onlyAsks.after hr hs)⟩
    rw [h _ hs _ _ hw answer (query_ok hr)] at hl
    exact (List.mem_filter.1 hl).2

/-! ## One search -/

section
variable {target m : Nat} {s : Session σ} {r : Except DiscoveryError (List Packet)}
  {c : Checkpoints}

/-- A search moves no checkpoint backwards. -/
theorem load_le_of_called (h : k.Called token d target s r c) (hblocks : Representable s.peers)
    (hsettled : s.checkpoints.storage.Settled) {e : Direction}
    (hm : s.checkpoints.load e = .ok m) : ∃ m', c.load e = .ok m' ∧ m ≤ m' := by
  cases h with
  | failed _ hkeeps _ => exact ⟨m, ((hkeeps e).load hsettled).trans hm, Nat.le_refl m⟩
  | idle => exact ⟨m, hm, Nat.le_refl m⟩
  | @found start found ps s₁ s₂ hload _ hfound hkept hok =>
    have hheights : ∀ q ∈ ps, q.eventHeight ≤ countMax := fun q hq =>
      height_of_candidates hblocks hfound q (mem_keepUnreceived hkept hq)
    rcases (s.checkpoints.moved_advance d _).of_load hload with ⟨_, he, -⟩ | ⟨-, hmoved, hothers⟩
    · rw [hok] at he
      cases he
    · by_cases hd : e = d
      · -- wherever the packets lie, the larger of the two blocks is recorded
        subst hd
        obtain rfl := Except.ok.inj (hm.symm.trans hload)
        exact ⟨_, hmoved (Scan.nextCheckpoint_le_countMax hheights), Nat.le_max_left ..⟩
      · exact ⟨m, ((hothers e hd).load hsettled).trans hm, Nat.le_refl m⟩

theorem nextCheckpoint_mem {ps : List Packet} (hne : ps ≠ []) :
    ∃ q ∈ ps, q.eventHeight = nextCheckpoint target ps := by
  cases he : Packet.earliestHeight? ps with
  | none => exact absurd (eq_nil_of_earliestHeight he) hne
  | some e =>
    rw [nextCheckpoint, he]
    exact earliestHeight_mem he

theorem nextCheckpoint_bounds {ps : List Packet} (hle : m ≤ target) (htarget : target ≤ countMax)
    (h : ∀ q ∈ ps, m ≤ q.eventHeight ∧ q.eventHeight ≤ target) :
    m ≤ nextCheckpoint target ps ∧ nextCheckpoint target ps ≤ min (target + 1) countMax := by
  refine ⟨?_, Nat.le_min.2 ⟨?_, ?_⟩⟩
  · by_cases hps : ps = []
    · subst hps
      exact Nat.le_min.2 ⟨Nat.le_succ_of_le hle, Nat.le_trans hle htarget⟩
    · obtain ⟨q, hq, hheight⟩ : ∃ q ∈ ps, q.eventHeight = nextCheckpoint target ps :=
        nextCheckpoint_mem hps
      rw [← hheight]
      exact (h q hq).1
  · exact Scan.nextCheckpoint_le_succ fun q hq => (h q hq).2
  · exact Scan.nextCheckpoint_le_countMax fun q hq => Nat.le_trans (h q hq).2 htarget

/-- The block that a search records when it succeeds. -/
theorem recorded_of_called {ps : List Packet} (h : k.Called token d target s (.ok ps) c)
    (htarget : target ≤ countMax) (hm : s.checkpoints.load d = .ok m) (hle : m ≤ target)
    (hin : k.InWindows token d m target s) :
    c.Recorded d (nextCheckpoint target ps) ∧ m ≤ nextCheckpoint target ps ∧
      nextCheckpoint target ps ≤ min (target + 1) countMax := by
  generalize hr : (Except.ok ps : Except DiscoveryError (List Packet)) = r at h
  cases h with
  | failed => cases hr
  | idle hload hlt =>
    obtain rfl := Except.ok.inj (hm.symm.trans hload)
    exact absurd hle (Nat.not_le.2 hlt)
  | found hload _ hfound hkept hok =>
    obtain rfl := Except.ok.inj hr
    obtain rfl := Except.ok.inj (hm.symm.trans hload)
    -- the packets lie in the range, so that the block to record is not below the checkpoint
    have hbounds := nextCheckpoint_bounds hle htarget fun q hq =>
      within_of_candidates hin hfound q (mem_keepUnreceived hkept hq)
    have hmax : nextCheckpoint target ps ≤ countMax :=
      Nat.le_trans hbounds.2 (Nat.min_le_right ..)
    exact ⟨Checkpoints.recorded_advance hm hbounds.1 hmax hok, hbounds⟩

end

/-! ## Sequences of searches -/

/-- The checkpoints before the search with a number, when every search has a direction of its own. -/
def interleavedAt (k : Scanner) (c : Checkpoints) (directions : Nat → Direction)
    (turns : Nat → Turn σ) : Nat → Checkpoints
  | 0 => c
  | i + 1 => (run (k.unrelayed (turns i).token (directions i) (turns i).target)
      ((turns i).session (interleavedAt k c directions turns i))).2.checkpoints

section
variable {c : Checkpoints} {directions : Nat → Direction} {turns : Nat → Turn σ}

theorem settled_interleavedAt (hsettled : c.storage.Settled) (i : Nat) :
    (k.interleavedAt c directions turns i).storage.Settled := by
  induction i with
  | zero => exact hsettled
  | succ i ih =>
    exact k.settled_of_called (turns i).token (k.called_unrelayed (turns i).token (directions i)
      (turns i).target ((turns i).session (k.interleavedAt c directions turns i))) ih

theorem load_le_interleavedAt (hsettled : c.storage.Settled)
    (hblocks : ∀ i, Representable (turns i).peers) {d : Direction} {i j m : Nat} (hij : i ≤ j)
    (hm : (k.interleavedAt c directions turns i).load d = .ok m) :
    ∃ m', (k.interleavedAt c directions turns j).load d = .ok m' ∧ m ≤ m' := by
  induction j with
  | zero =>
    obtain rfl := Nat.le_zero.1 hij
    exact ⟨m, hm, Nat.le_refl m⟩
  | succ j ih =>
    rcases Nat.le_or_eq_of_le_succ hij with hij | rfl
    · obtain ⟨m₁, hm₁, hle⟩ := ih hij
      obtain ⟨m', hm', hle'⟩ := load_le_of_called (k.called_unrelayed (turns j).token (directions j)
        (turns j).target ((turns j).session (k.interleavedAt c directions turns j)))
        (hblocks j) (settled_interleavedAt hsettled j) hm₁
      exact ⟨m', hm', Nat.le_trans hle hle'⟩
    · exact ⟨m, hm, Nat.le_refl m⟩

/-- **Checkpoints are monotone and bounded.**  Whatever the peers answer to a sequence of searches
    in either direction, no checkpoint moves backwards, as long as the storage is settled.  A search
    whose checkpoint lies beyond its target leaves the session as it is.  A search that succeeds with
    logs that lie in their windows records a block between its checkpoint and the one after its
    target; none of the packets it returns lies below, and one of them lies there, if there are
    any. -/
theorem interleaved_checkpoints (k : Scanner) (directions : Nat → Direction)
    (turns : Nat → Turn σ) (hsettled : c.storage.Settled)
    (hblocks : ∀ i, Representable (turns i).peers) :
    (∀ d i j m, i ≤ j → (k.interleavedAt c directions turns i).load d = .ok m →
      ∃ m', (k.interleavedAt c directions turns j).load d = .ok m' ∧ m ≤ m') ∧
    ∀ i m, (k.interleavedAt c directions turns i).load (directions i) = .ok m →
      let s := (turns i).session (k.interleavedAt c directions turns i)
      let out := run (k.unrelayed (turns i).token (directions i) (turns i).target) s
      ((turns i).target < m → out = (.ok [], s)) ∧
      (m ≤ (turns i).target → k.InWindows (turns i).token (directions i) m (turns i).target s →
        ∀ ps, out.1 = .ok ps → ∃ m',
          (k.interleavedAt c directions turns (i + 1)).load (directions i) = .ok m' ∧
          (k.interleavedAt c directions turns (i + 1)).Recorded (directions i) m' ∧
          m ≤ m' ∧ m' ≤ min ((turns i).target + 1) countMax ∧
          (∀ q ∈ ps, m' ≤ q.eventHeight) ∧ (ps ≠ [] → ∃ q ∈ ps, q.eventHeight = m')) := by
  refine ⟨fun d i j m hij hm => load_le_interleavedAt hsettled hblocks hij hm, ?_⟩
  intro i m hm s out
  refine ⟨fun hlt => unrelayed_of_lt hm hlt, fun hle hin ps hps => ?_⟩
  have hcalled := k.called_unrelayed (turns i).token (directions i) (turns i).target s
  rw [hps] at hcalled
  obtain ⟨hrecorded, hbounds⟩ := recorded_of_called hcalled (turns i).target_le hm hle hin
  exact ⟨nextCheckpoint (turns i).target ps, hrecorded.load_eq, hrecorded, hbounds.1, hbounds.2,
    fun q hq => Scan.nextCheckpoint_le hq, fun hne => nextCheckpoint_mem hne⟩

end

/-! ## Searches among scripted peers -/

theorem representable_scripted {p : ScriptedPeers}
    (h : ∀ l ∈ p.node.logs, ∀ b ∈ l.block, b ≤ countMax) : Representable p := by
  intro p' hp' q logs hr l hl
  have hanswer : logs = p'.node.logs.filter (ScriptedNode.isAsked q) := by
    simp only [Node.reply, ScriptedNode.reply] at hr
    split at hr
    · cases hr
    · exact (Except.ok.inj hr).symm
  rw [hanswer, hp'.scripted.1] at hl
  exact h l (List.mem_filter.1 hl).1

namespace Sample

/-- No records yet, and nothing has been received before block 30. -/
def ahead : Checkpoints := ⟨.memory [], 1, 30⟩

/-- First a search for what has been received, then one for what has been sent. -/
def alternating : Nat → Direction
  | 0 => .received
  | _ + 1 => .sent

theorem load_ahead : ahead.load .sent = .ok 1 ∧ ahead.load .received = .ok 30 := ⟨rfl, rfl⟩

theorem interleavedAt_ahead : scanner.interleavedAt ahead alternating sentTurns 1 = ahead := by
  have hidle : run (scanner.unrelayed (sentTurns 0).token .received (sentTurns 0).target)
      ((sentTurns 0).session ahead) = (.ok [], (sentTurns 0).session ahead) :=
    unrelayed_of_lt load_ahead.2 (by decide)
  rw [interleavedAt, interleavedAt, alternating, hidle]
  rfl

end Sample

/-- A search for what has been received, which has nothing to do, and a search that finds a packet. -/
theorem interleaved_checkpoints_alternating :
    Sample.ahead.storage.Settled ∧ (∀ i, Representable (Sample.sentTurns i).peers) ∧
    run (Sample.scanner.unrelayed .never .received 20) ((Sample.sentTurns 0).session Sample.ahead) =
      (.ok [], (Sample.sentTurns 0).session Sample.ahead) ∧
    (∃ m, (Sample.scanner.interleavedAt Sample.ahead Sample.alternating Sample.sentTurns 2).load
      .received = .ok m ∧ 30 ≤ m) ∧
    (Sample.scanner.interleavedAt Sample.ahead Sample.alternating Sample.sentTurns 2).Recorded
      .sent 10 := by
  have hsettled : Sample.ahead.storage.Settled := Storage.settled_memory []
  have hblocks : ∀ i, Representable (Sample.sentTurns i).peers := fun _ =>
    representable_scripted fun l hl b hb => by
      obtain rfl := List.mem_singleton.1 hl
      obtain rfl : 10 = b := Option.some.inj hb
      decide
  obtain ⟨hmono, hcall⟩ := interleaved_checkpoints Sample.scanner Sample.alternating
    Sample.sentTurns hsettled hblocks
  refine ⟨hsettled, hblocks, (hcall 0 30 Sample.load_ahead.2).1 (by decide), ?_, ?_⟩
  · exact hmono .received 0 2 30 (by decide) Sample.load_ahead.2
  · have hsecond := hcall 1 1
    rw [Sample.interleavedAt_ahead] at hsecond
    have hin : Sample.scanner.InWindows (Sample.sentTurns 1).token .sent 1 20
        ((Sample.sentTurns 1).session Sample.ahead) :=
      inWindows_of_exact (exact_scripted Sample.prompt_sentPeers.blocks _ _ _)
    have hfound := (Sample.run_sentTurns (c := Sample.ahead) 1 (by decide) Sample.load_ahead.1 rfl).1
    obtain ⟨m, -, hrecorded, -, -, -, hmem⟩ := (hsecond Sample.load_ahead.1).2 (by decide) hin _
      hfound
    obtain ⟨q, hq, rfl⟩ := hmem (List.cons_ne_nil _ _)
    obtain rfl := List.mem_singleton.1 hq
    exact hrecorded

namespace Sample

/-- Checkpoints whose folder is named by way of a missing one, which hides an older record. -/
def older : Checkpoints where
  storage := .directory ⟨"x/../data"⟩ (.folder [("data", .folder [("send", .file (utf8 "50"))])])
  initialSent := 100
  initialReceived := 1

theorem five_le_countMax : 5 ≤ countMax := by decide

/-- Searches for what has been received, on a chain without logs. -/
def quietTurns (_ : Nat) : Turn ScriptedPeers := ⟨.never, 5, five_le_countMax, {}, 0, [], false⟩

theorem prompt_quiet : ScriptedPeers.Prompt {} := ⟨by simp, rfl, rfl, rfl, rfl⟩

theorem gives_quiet {s : Session ScriptedPeers} (hp : s.peers = {}) :
    Gives (scanner.candidates .never .received 1 5) s [] := by
  have hnone : ({} : ScriptedPeers).node.logsOf scanner.contract Contract.recvPacket.topic = [] :=
    rfl
  have hlogs : Gives (scanner.scanLogs .never Contract.recvPacket 1 5) s [] :=
    gives_scanLogs (hp ▸ prompt_quiet) (hp ▸ hnone) List.Pairwise.nil 1 5
  exact .bind hlogs fun s₁ _ _ => .bind (.result rfl s₁) fun s₂ _ _ => .pure [] s₂

theorem run_quietTurns :
    (run (scanner.unrelayed (quietTurns 0).token .received (quietTurns 0).target)
      ((quietTurns 0).session older)).1 = .ok [] ∧
    scanner.interleavedAt older (fun _ => .received) quietTurns 1 =
      (older.advance .received 6).2 := by
  have hload : older.load .received = .ok 1 := by rfl
  have hadvance : (older.advance .received 6).1 = .ok 6 := by rfl
  have hnext : nextCheckpoint 5 [] = 6 := by rfl
  have hrun := run_turn (k := scanner) (u := quietTurns 0) rfl prompt_quiet rfl hload (by decide)
    (gives_quiet rfl) hnext
  constructor
  · rw [hrun.1, hadvance]
    rfl
  · rw [interleavedAt, interleavedAt, hrun.2]

end Sample

/-- **Unless the storage is settled.** A search for what has been received creates the missing folder
    when it records its checkpoint, and the checkpoint of what has been sent falls back to the record
    that was hidden. -/
theorem interleaved_checkpoints_unsettled :
    (run (Sample.scanner.unrelayed (Sample.quietTurns 0).token .received
      (Sample.quietTurns 0).target) ((Sample.quietTurns 0).session Sample.older)).1 = .ok [] ∧
    (Sample.scanner.interleavedAt Sample.older (fun _ => .received) Sample.quietTurns 0).load .sent =
      .ok 100 ∧
    (Sample.scanner.interleavedAt Sample.older (fun _ => .received) Sample.quietTurns 1).load .sent =
      .ok 50 := by
  obtain ⟨hresult, hcheckpoints⟩ := Sample.run_quietTurns
  refine ⟨hresult, ?_, ?_⟩
  · rfl
  · rw [hcheckpoints]
    rfl

end Scanner

end PacketRelay
