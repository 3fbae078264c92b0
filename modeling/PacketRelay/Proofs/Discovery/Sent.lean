/-
  Sequences of searches for sent packets.

  `sent_rescan`: every search that succeeds gives what a scan from the first checkpoint on would
  give, and nothing below a checkpoint is open.  This needs a storage that is settled:
  `sent_rescan_unsettled` shows one whose folder is named by way of a missing folder, so that
  creating it brings a record to light.
-/
import PacketRelay.Proofs.Abi.RoundTrip
import PacketRelay.Proofs.Discovery.Run
import PacketRelay.Proofs.Discovery.Scripted

namespace PacketRelay.Scanner

open Session

variable {σ : Type} [Node σ] [Counterparty σ]

/-- A sequence of `n` searches for sent packets over a chain with given `logs`: which sequences stand
    and which are listed may change from one search to the next, but an event that a search has
    found closed stays closed. -/
structure SentHistory (k : Scanner) (c : Checkpoints) (turns : Nat → Turn σ) (n start : Nat)
    (logs : List Log) (stands lists : Nat → Nat → Bool) : Prop where
  start : c.load .sent = .ok start
  ordered : Ordered logs
  exact : ∀ i < n, Exact k.contract Contract.sendPacket.topic logs (turns i).target (turns i).peers
  commitments : ∀ i < n, Stands k (turns i).target (stands i) (turns i).peers
  listing : ∀ i < n, Listed .sent (lists i) (turns i).peers
  closed : ∀ i j, i < j → j < n → ∀ q ∈ k.sentEvents logs, k.scannedBy .sent c turns i q = true →
    isOpen (stands i) (lists i) q = false → isOpen (stands j) (lists j) q = false

namespace SentHistory

variable {k : Scanner} {c : Checkpoints} {turns : Nat → Turn σ} {n start : Nat} {logs : List Log}
  {stands lists : Nat → Nat → Bool} (h : SentHistory k c turns n start logs stands lists)
  (hsettled : c.storage.Settled)

include h hsettled

/-- Each search is a scan that keeps the open events. -/
theorem scans :
    (∀ i ≤ n, (k.checkpointsAt .sent c turns i).load .sent =
      .ok (k.cursorAt .sent c turns i)) ∧
    k.cursorAt .sent c turns 0 = start ∧
    ∀ i < n, Scan (k.sentEvents logs) (Option.guard (isOpen (stands i) (lists i)))
      (turns i).target (k.cursorAt .sent c turns i) (k.resultAt .sent c turns i)
      (k.cursorAt .sent c turns (i + 1)) :=
  scans_of_turns h.start hsettled (fun _ _ _ => height_guard)
    fun i hi _ _ _ _ _ _ hs hf hk => found_sent h.ordered (h.exact i hi) (h.commitments i hi)
      (h.listing i hi) (hs ▸ .refl) hf hk

/-- An event below a checkpoint is not open from the search before on. -/
theorem closed_of_lt {i : Nat} (hi : i ≤ n) {q : Packet} (hq : q ∈ k.sentEvents logs)
    (hstart : start ≤ q.eventHeight) (hlt : q.eventHeight < k.cursorAt .sent c turns i)
    {j : Nat} (hj : j < n) (hij : i ≤ j + 1) : isOpen (stands j) (lists j) q = false := by
  obtain ⟨-, hzero, hscan⟩ := h.scans hsettled
  obtain ⟨l, hl, hm, -, ⟨ps, hps⟩, ht, ha⟩ :=
    Scan.passed hscan (fun _ _ _ => height_guard) hi hq (hzero ▸ hstart) hlt
  have hclosed := Option.guard_eq_none_iff.1 ha
  rcases Nat.lt_or_ge l j with hlj | hjl
  · refine h.closed l j hlj hj q hq ?_ hclosed
    simp [scannedBy, hps, Except.toOption, Packet.within_iff, hm, ht]
  · obtain rfl : l = j := by omega
    exact hclosed

end SentHistory

/-- **A checkpoint for sent packets loses none.** Every search that succeeds gives the open events
    from the first checkpoint to its target, and an event below a checkpoint is not open from the
    search before on. -/
theorem sent_rescan {k : Scanner} {c : Checkpoints} {turns : Nat → Turn σ} {n start : Nat}
    {logs : List Log} {stands lists : Nat → Nat → Bool}
    (h : SentHistory k c turns n start logs stands lists) (hsettled : c.storage.Settled) :
    (∀ i < n, ∀ ps, k.resultAt .sent c turns i = .ok ps →
      ps = (k.sentEvents logs).filter fun q => q.within start (turns i).target &&
        isOpen (stands i) (lists i) q) ∧
    ∀ i ≤ n, ∃ m, (k.checkpointsAt .sent c turns i).load .sent = .ok m ∧ start ≤ m ∧
      ∀ q ∈ k.sentEvents logs, start ≤ q.eventHeight → q.eventHeight < m →
        ∀ j < n, i ≤ j + 1 → isOpen (stands j) (lists j) q = false := by
  obtain ⟨hload, hzero, hscan⟩ := h.scans hsettled
  refine ⟨fun i hi ps hps => ?_, fun i hi => ?_⟩
  · rw [Scan.result_eq hscan hi hps, hzero, List.filterMap_eq_filter, List.filter_filter]
    refine List.filter_congr fun q hq => ?_
    rw [Bool.eq_iff_iff, Bool.and_eq_true, Bool.and_eq_true, Bool.and_eq_true, decide_eq_true_iff]
    constructor
    · rintro ⟨hopen, hw, -⟩
      exact ⟨hw, hopen⟩
    · rintro ⟨hw, hopen⟩
      refine ⟨hopen, hw, Nat.le_of_not_lt fun hlt => ?_⟩
      have hclosed := h.closed_of_lt hsettled (Nat.le_of_lt hi) hq (Packet.within_iff.1 hw).1 hlt
        hi (Nat.le_succ i)
      rw [hopen] at hclosed
      cases hclosed
  · refine ⟨_, hload i hi, ?_, fun q hq hstart hlt j hj hij =>
      h.closed_of_lt hsettled hi hq hstart hlt hj hij⟩
    rw [← hzero]
    exact Scan.monotone hscan (Nat.zero_le i) hi

/-! ## Searches among prompt peers -/

/-- A search among prompt peers that list all they are asked for: what is found is kept. -/
theorem run_turn {k : Scanner} {d : Direction} {c : Checkpoints} {u : Turn ScriptedPeers}
    {m next : Nat} {found : List Packet} (htoken : u.token = .never) (hpeers : u.peers.Prompt)
    (hall : u.peers.counterparty.unreceived = none) (hm : c.load d = .ok m) (hle : m ≤ u.target)
    (hfound : Gives (k.candidates .never d m u.target) (u.session c) found)
    (hnext : nextCheckpoint u.target found = next) :
    (run (k.unrelayed u.token d u.target) (u.session c)).1 =
        ((c.advance d next).1.mapError .storage).map (fun _ => found) ∧
      (run (k.unrelayed u.token d u.target) (u.session c)).2.checkpoints =
        (c.advance d next).2 := by
  rw [htoken, ← hnext]
  refine unrelayed_of_gives (s := u.session c) hm hle hfound fun s hp => ?_
  exact gives_keepUnreceived (hp ▸ hpeers) d found (hp ▸ hall)

/-- A search that finds nothing but cannot record this, and one that starts from a record beyond its
    target because the attempt has brought this to light. -/
theorem results_of_hidden {k : Scanner} {d : Direction} {c : Checkpoints}
    {turns : Nat → Turn ScriptedPeers} {e : StorageError} {m high : Nat}
    (htoken : (turns 0).token = .never) (hpeers : (turns 0).peers.Prompt)
    (hall : (turns 0).peers.counterparty.unreceived = none) (hm : c.load d = .ok m)
    (hle : m ≤ (turns 0).target)
    (hfound : Gives (k.candidates .never d m (turns 0).target) ((turns 0).session c) [])
    (hfails : (c.advance d (nextCheckpoint (turns 0).target [])).1 = .error e)
    (hhigh : (c.advance d (nextCheckpoint (turns 0).target [])).2.load d = .ok high)
    (hlt : (turns 1).target < high) :
    k.resultAt d c turns 0 = .error (.storage e) ∧ k.resultAt d c turns 1 = .ok [] := by
  have hfirst := run_turn htoken hpeers hall hm hle hfound rfl
  have hcheckpoints : k.checkpointsAt d c turns (0 + 1) =
      (c.advance d (nextCheckpoint (turns 0).target [])).2 := by
    rw [checkpointsAt, checkpointsAt, hfirst.2]
  constructor
  · rw [resultAt, checkpointsAt, hfirst.1, hfails]
    rfl
  · rw [resultAt, hcheckpoints, unrelayed_of_lt hhigh hlt]

/-! ## A chain with one sent packet -/

namespace Sample

/-- A channel of the contract at address zero. -/
def scanner : Scanner := ⟨.zero 20, ⟨⟨"transfer", "channel-0"⟩, ⟨"transfer", "channel-1"⟩⟩, 1000⟩

/-- The values of the event that a packet has been sent. -/
def sentValues : Nat × Bytes × Bytes × (Nat × Nat × Unit) × Nat × Bytes × Unit :=
  (5, utf8 "transfer", utf8 "channel-0", (1, 900, ()), 0, [1, 2], ())

/-- These values as the data of a log. -/
def sentData : Bytes := AbiType.encodeAll Contract.sendPacket.types sentValues

/-- A packet has been sent in block 10. -/
def sentLog : Log := ⟨.zero 20, [Contract.sendPacket.topic], sentData, some 10⟩

/-- The packet that is read from the log. -/
def sentPacket : Packet :=
  { sequence := 5
    sourcePort := "transfer"
    sourceChannel := "channel-0"
    destinationPort := "transfer"
    destinationChannel := "channel-1"
    data := [1, 2]
    timeoutHeight := ⟨1, 900⟩
    timeoutTimestamp := 0
    acknowledgement := none
    eventHeight := 10 }

theorem decode_sentData :
    AbiType.decodeCanonical Contract.sendPacket.types sentData = some sentValues :=
  AbiType.decodeCanonical_encodeAll (by decide) (by decide) (by decide) (by decide +kernel)

theorem arguments_sentLog : Contract.sendPacket.arguments sentLog = .ok sentValues := by
  have htopic : sentLog.topics.head? = some Contract.sendPacket.topic := List.head?_cons
  have hdecode : AbiType.decodeCanonical Contract.sendPacket.types sentLog.data =
      some sentValues := decode_sentData
  rw [Contract.Event.arguments, if_pos htopic, hdecode]

theorem sentPacket_sentLog : Contract.sentPacket scanner.path sentLog = .ok sentPacket := by
  have hport : Contract.textOf (utf8 "transfer") = "transfer" := by rfl
  have hchannel : Contract.textOf (utf8 "channel-0") = "channel-0" := by rfl
  simp only [Contract.sentPacket, arguments_sentLog, sentValues]
  change Except.ok _ = _
  rw [hport, hchannel]
  rfl

theorem own_sentPacket : (sentPacket.sourcePort == scanner.path.own.port &&
    sentPacket.sourceChannel == scanner.path.own.channel) = true := by decide

theorem sentPackets_sentLog : scanner.sentPackets [sentLog] = .ok [sentPacket] := by
  have hmap : [sentLog].mapM (Contract.sentPacket scanner.path) = .ok [sentPacket] := by
    rw [List.mapM_cons, sentPacket_sentLog]
    rfl
  rw [sentPackets, hmap]
  change Except.ok ([sentPacket].filter _) = _
  simp only [List.filter_cons, own_sentPacket, if_true, List.filter_nil]

theorem sentEvents_sentLog : scanner.sentEvents [sentLog] = [sentPacket] :=
  (sentPackets_ok sentPackets_sentLog).symm

/-- A commitment that is not zero. -/
def commitment : Bytes := List.replicate 31 0 ++ [1]

/-- Peers for which the packet has been sent, stands and has not been received. -/
def sentPeers : ScriptedPeers where
  node :=
    { logs := [sentLog]
      contract := [((.zero 20,
        Contract.commitmentInput (Contract.commitmentKey "transfer" "channel-0" 5)), commitment)] }

theorem prompt_sentPeers : sentPeers.Prompt :=
  ⟨by simp [sentPeers, sentLog], rfl, rfl, rfl, rfl⟩

theorem logsOf_sentPeers :
    sentPeers.node.logsOf scanner.contract Contract.sendPacket.topic = [sentLog] :=
  List.filter_eq_self.2 fun l hl => by
    rw [List.mem_singleton.1 hl]
    exact Log.isOf_iff.2 ⟨rfl, List.head?_cons⟩

theorem commitmentOf_commitment :
    ∃ c, Contract.commitmentOf commitment = .ok c ∧ c.isZero = false :=
  ⟨⟨commitment, by decide⟩, by rfl, by decide⟩

/-- A search up to a target. -/
def sentTurn (target : Nat) (h : target ≤ countMax) : Turn ScriptedPeers :=
  ⟨.never, target, h, sentPeers, 0, [], false⟩

theorem sentHistory {c : Checkpoints} {turns : Nat → Turn ScriptedPeers}
    (hstart : c.load .sent = .ok 1) (hpeers : ∀ i, (turns i).peers = sentPeers) :
    SentHistory scanner c turns 2 1 [sentLog] (fun _ _ => true) (fun _ _ => true) where
  start := hstart
  ordered := List.pairwise_singleton _ _
  exact i _ := by
    rw [hpeers, ← logsOf_sentPeers]
    exact exact_scripted prompt_sentPeers.blocks _ _ _
  commitments i _ := by
    rw [hpeers]
    refine stands_scripted scanner _ fun e he c hc => ?_
    obtain rfl := List.mem_singleton.1 he
    obtain ⟨c', hc', hzero⟩ := commitmentOf_commitment
    obtain rfl := Except.ok.inj (hc.symm.trans hc')
    exact hzero
  listing i _ := by
    rw [hpeers]
    exact listed_scripted rfl .sent
  closed i j _ _ q _ _ h := absurd h (by simp [isOpen])

theorem gives_sentLog {s : Session ScriptedPeers} (hp : s.peers = sentPeers) (m target : Nat) :
    Gives (scanner.scanLogs .never Contract.sendPacket m target) s
      ([sentLog].filter (Log.within m target)) :=
  gives_scanLogs (hp ▸ prompt_sentPeers) (hp ▸ logsOf_sentPeers) (List.pairwise_singleton _ _) _ _

/-- A search that reaches the block finds the packet. -/
theorem gives_sentPacket {m target : Nat} (hm : m ≤ 10) (ht : 10 ≤ target)
    {s : Session ScriptedPeers} (hp : s.peers = sentPeers) :
    Gives (scanner.candidates .never .sent m target) s [sentPacket] := by
  have hlogs := gives_sentLog hp m target
  rw [List.filter_cons_of_pos (Log.within_iff.2 ⟨10, rfl, hm, ht⟩), List.filter_nil] at hlogs
  refine .bind hlogs fun s₁ hp₁ _ => .bind (.result sentPackets_sentLog s₁) fun s₂ hp₂ _ => ?_
  have hp₂ := hp₂.trans (hp₁.trans hp)
  obtain ⟨c, hc, hzero⟩ := commitmentOf_commitment
  have hcall : Gives (scanner.commitment .never sentPacket.sequence target) s₂ c := by
    refine .bind (gives_call (hp₂ ▸ prompt_sentPeers) (some target) ?_) fun s₃ _ _ => .result hc s₃
    rw [hp₂]
    exact List.lookup_cons_self
  refine .bind hcall fun s₃ _ _ => .bind (.pure [] s₃) fun s₄ _ _ => ?_
  rw [hzero]
  exact .pure _ s₄

/-- Checkpoints without a record. -/
def fresh : Checkpoints := ⟨.memory [], 1, 1⟩

/-- Searches that all reach the block. -/
def sentTurns (_ : Nat) : Turn ScriptedPeers := sentTurn 20 (by decide)

/-- Searches from its block or from an earlier one find the packet. -/
theorem run_sentTurns {c : Checkpoints} {m : Nat} (i : Nat) (hm : m ≤ 10)
    (hc : c.load .sent = .ok m) (hadvance : (c.advance .sent 10).1 = .ok 10) :
    (run (scanner.unrelayed (sentTurns i).token .sent (sentTurns i).target)
        ((sentTurns i).session c)).1 = .ok [sentPacket] ∧
      (run (scanner.unrelayed (sentTurns i).token .sent (sentTurns i).target)
        ((sentTurns i).session c)).2.checkpoints = (c.advance .sent 10).2 := by
  have hten : 10 ≤ 20 := by decide
  have hnext : nextCheckpoint 20 [sentPacket] = 10 := by rfl
  have hrun := run_turn (k := scanner) (u := sentTurns i) rfl prompt_sentPeers rfl hc
    (Nat.le_trans hm hten) (gives_sentPacket hm hten rfl) hnext
  rw [hadvance] at hrun
  exact hrun

theorem resultAt_sentTurns : scanner.resultAt .sent fresh sentTurns 1 = .ok [sentPacket] := by
  have hfirst := run_sentTurns (c := fresh) (m := 1) 0 (by decide) rfl rfl
  have hcheckpoints : scanner.checkpointsAt .sent fresh sentTurns (0 + 1) =
      (fresh.advance .sent 10).2 := by
    rw [checkpointsAt, checkpointsAt, hfirst.2]
  rw [resultAt, hcheckpoints]
  exact (run_sentTurns (m := 10) 1 (by decide) rfl rfl).1

end Sample

/-- The packet is found again by the second search, since it is still open. -/
theorem sent_rescan_twice :
    Sample.scanner.resultAt .sent Sample.fresh Sample.sentTurns 1 = .ok [Sample.sentPacket] ∧
    [Sample.sentPacket] = ((Sample.scanner.sentEvents [Sample.sentLog]).filter fun q =>
      q.within 1 20 && isOpen (fun _ => true) (fun _ => true) q) ∧
    ∃ m, (Sample.scanner.checkpointsAt .sent Sample.fresh Sample.sentTurns 1).load .sent = .ok m ∧
      1 ≤ m :=
  have history : SentHistory Sample.scanner Sample.fresh Sample.sentTurns 2 1 [Sample.sentLog]
      (fun _ _ => true) (fun _ _ => true) := Sample.sentHistory rfl fun _ => rfl
  have h := sent_rescan history (Storage.settled_memory [])
  ⟨Sample.resultAt_sentTurns, h.1 1 (by decide) _ Sample.resultAt_sentTurns,
    let ⟨m, hm, hle, _⟩ := h.2 1 (by decide)
    ⟨m, hm, hle⟩⟩

namespace Sample

/-- Checkpoints whose folder is named by way of a missing one: the record cannot be reached until the
    missing folder has been created, and a new one cannot be written. -/
def hidden : Checkpoints where
  storage := .directory ⟨"x/../data"⟩
    (.folder [("data", .folder [("send", .file (utf8 "5000")), ("send.tmp", .folder [])])])
  initialSent := 1
  initialReceived := 1

/-- A search that is followed by others. -/
def turnsOf (first later : Turn ScriptedPeers) : Nat → Turn ScriptedPeers
  | 0 => first
  | _ + 1 => later

/-- The first search ends before the block, the others reach it. -/
def hiddenTurns : Nat → Turn ScriptedPeers :=
  turnsOf (sentTurn 5 (by decide)) (sentTurn 20 (by decide))

/-- A search that ends before the block finds nothing. -/
theorem gives_nothing {s : Session ScriptedPeers} (hp : s.peers = sentPeers) :
    Gives (scanner.candidates .never .sent 1 5) s [] := by
  have hlogs := gives_sentLog hp 1 5
  rw [List.filter_cons_of_neg (by decide), List.filter_nil] at hlogs
  exact .bind hlogs fun s₁ _ _ => .bind (.result rfl s₁) fun s₂ _ _ => .pure [] s₂

theorem results_hiddenTurns :
    scanner.resultAt .sent hidden hiddenTurns 0 = .error (.storage (.backend .isFolder)) ∧
      scanner.resultAt .sent hidden hiddenTurns 1 = .ok [] := by
  have hzero : hidden.load .sent = .ok 1 := by rfl
  have hfails : (hidden.advance .sent 6).1 = .error (.backend .isFolder) := by rfl
  have hfound : (hidden.advance .sent 6).2.load .sent = .ok 5000 := by rfl
  exact results_of_hidden rfl prompt_sentPeers rfl hzero (by decide)
    (gives_nothing rfl) hfails hfound (by decide)

end Sample

/-- **Unless the storage is settled.** The first search fails, but creates the missing folder on its
    way; the second one then starts from the record that was hidden before and does not find the open
    packet. -/
theorem sent_rescan_unsettled :
    SentHistory Sample.scanner Sample.hidden Sample.hiddenTurns 2 1 [Sample.sentLog]
      (fun _ _ => true) (fun _ _ => true) ∧
    Sample.scanner.resultAt .sent Sample.hidden Sample.hiddenTurns 0 =
      .error (.storage (.backend .isFolder)) ∧
    Sample.scanner.resultAt .sent Sample.hidden Sample.hiddenTurns 1 = .ok [] ∧
    ((Sample.scanner.sentEvents [Sample.sentLog]).filter fun q =>
      q.within 1 (Sample.hiddenTurns 1).target && isOpen (fun _ => true) (fun _ => true) q) =
        [Sample.sentPacket] := by
  refine ⟨Sample.sentHistory (by rfl) fun i => ?_, Sample.results_hiddenTurns.1,
    Sample.results_hiddenTurns.2, ?_⟩
  · cases i <;> rfl
  · rw [Sample.sentEvents_sentLog]
    rfl

end PacketRelay.Scanner
