/-
  Sequences of searches for received packets.

  A packet is searched by its receipt, but found only once it has been acknowledged.

  * `received_rescan`: every search that succeeds gives what a scan from the first checkpoint on
    would give, except for packets that were `missed`: an earlier search had scanned the receipt and
    moved the checkpoint past it before it was acknowledged;
  * `received_rescan_late`: packets are indeed missed;
  * `received_rescan_unsettled`: like `sent_rescan` this needs a storage that is settled.
-/
import PacketRelay.Proofs.Discovery.Sent

namespace PacketRelay.Scanner

open Session

variable {σ : Type} [Node σ] [Counterparty σ]

/-- A sequence of `n` searches for received packets over a chain whose receipts and acknowledgements
    have given logs.  An event whose acknowledgement a search has found to be no longer listed stays
    unlisted. -/
structure ReceivedHistory (k : Scanner) (c : Checkpoints) (turns : Nat → Turn σ) (n start : Nat)
    (received written : List Log) (lists : Nat → Nat → Bool) : Prop where
  start : c.load .received = .ok start
  orderedReceipts : Ordered received
  orderedWritten : Ordered written
  inOrder : InOrder k received written
  exactReceipts : ∀ i < n,
    Exact k.contract Contract.recvPacket.topic received (turns i).target (turns i).peers
  exactWritten : ∀ i < n,
    Exact k.contract Contract.writeAcknowledgement.topic written (turns i).target (turns i).peers
  listing : ∀ i < n, Listed .received (lists i) (turns i).peers
  unlisted : ∀ i j, i < j → j < n → ∀ q ∈ k.receivedEvents received,
    k.scannedBy .received c turns i q = true →
    (acknowledged? (k.writtenBy written (turns i).target) q).isSome = true →
    lists i q.sequence = false → lists j q.sequence = false

/-- Whether an earlier search has passed a receipt that was not acknowledged up to its target. -/
def missed (k : Scanner) (c : Checkpoints) (turns : Nat → Turn σ) (written : List Log) (i : Nat)
    (q : Packet) : Bool :=
  (List.range i).any fun j => k.passedBy .received c turns j q &&
    (acknowledged? (k.writtenBy written (turns j).target) q).isNone

namespace ReceivedHistory

variable {k : Scanner} {c : Checkpoints} {turns : Nat → Turn σ} {n start : Nat}
  {received written : List Log} {lists : Nat → Nat → Bool}
  (h : ReceivedHistory k c turns n start received written lists) (hsettled : c.storage.Settled)

include h hsettled

/-- Each search is a scan that makes packets of the receipts that are acknowledged and listed. -/
theorem scans :
    (∀ i ≤ n, (k.checkpointsAt .received c turns i).load .received =
      .ok (k.cursorAt .received c turns i)) ∧
    k.cursorAt .received c turns 0 = start ∧
    ∀ i < n, Scan (k.receivedEvents received)
      (receivedAnswer (k.writtenBy written (turns i).target) (lists i)) (turns i).target
      (k.cursorAt .received c turns i) (k.resultAt .received c turns i)
      (k.cursorAt .received c turns (i + 1)) :=
  scans_of_turns h.start hsettled (fun _ _ _ => height_receivedAnswer)
    fun i hi _ _ _ _ _ _ hs hf hk => found_received h.orderedReceipts h.orderedWritten h.inOrder
      (h.exactReceipts i hi) (h.exactWritten i hi) (h.listing i hi) (hs ▸ .refl) hf hk

/-- A receipt below a checkpoint has been scanned by an earlier search that found it not acknowledged
    or not listed. -/
theorem passed_of_lt {i : Nat} (hi : i ≤ n) {q : Packet} (hq : q ∈ k.receivedEvents received)
    (hstart : start ≤ q.eventHeight) (hlt : q.eventHeight < k.cursorAt .received c turns i) :
    ∃ j < i, k.passedBy .received c turns j q = true ∧
      (acknowledged? (k.writtenBy written (turns j).target) q = none ∨
        lists j q.sequence = false) := by
  obtain ⟨-, hzero, hscan⟩ := h.scans hsettled
  obtain ⟨j, hj, hm, hm', ⟨ps, hps⟩, ht, ha⟩ :=
    Scan.passed hscan (fun _ _ _ => height_receivedAnswer) hi hq (hzero ▸ hstart) hlt
  refine ⟨j, hj, ?_, ?_⟩
  · simp [passedBy, scannedBy, hps, Except.toOption, Packet.within_iff, hm, hm', ht]
  · simp only [receivedAnswer] at ha
    split_ifs at ha with hl
    · exact Or.inl ha
    · exact Or.inr (by simpa using hl)

/-- A receipt that the checkpoint has not passed has not been missed: no earlier checkpoint has passed
    it either. -/
theorem missed_of_le {i : Nat} (hi : i ≤ n) {q : Packet}
    (hle : k.cursorAt .received c turns i ≤ q.eventHeight) :
    k.missed c turns written i q = false := by
  obtain ⟨-, -, hscan⟩ := h.scans hsettled
  refine List.any_eq_false.2 fun j hj hp => ?_
  have hj := List.mem_range.1 hj
  have hpass := (Bool.and_eq_true _ _ ▸ hp).1
  have hlt := of_decide_eq_true (Bool.and_eq_true _ _ ▸ hpass).2
  have hmono : k.cursorAt .received c turns (j + 1) ≤ k.cursorAt .received c turns i :=
    Scan.monotone hscan hj hi
  omega

/-- A receipt that has been passed without being missed is not listed any more. -/
theorem unlisted_of_lt {i : Nat} (hi : i < n) {q : Packet} (hq : q ∈ k.receivedEvents received)
    (hstart : start ≤ q.eventHeight) (hlt : q.eventHeight < k.cursorAt .received c turns i)
    (hnot : k.missed c turns written i q = false) : lists i q.sequence = false := by
  obtain ⟨j, hj, hpass, ha⟩ := h.passed_of_lt hsettled (Nat.le_of_lt hi) hq hstart hlt
  have hack := List.any_eq_false.1 hnot j (List.mem_range.2 hj)
  rw [hpass, Bool.true_and, Option.isNone_iff_eq_none] at hack
  have hscanned := (Bool.and_eq_true _ _ ▸ hpass).1
  exact h.unlisted j i hj hi q hq hscanned (Option.isSome_iff_ne_none.2 hack)
    (ha.resolve_left hack)

end ReceivedHistory

/-- **A checkpoint for received packets loses those passed before they are acknowledged, and no
    others.** Every search that succeeds gives, of the receipts from the first checkpoint to its
    target that have not been missed, those that are acknowledged and listed.  A receipt below a
    checkpoint has been scanned by an earlier search that found it not acknowledged or not listed. -/
theorem received_rescan {k : Scanner} {c : Checkpoints} {turns : Nat → Turn σ} {n start : Nat}
    {received written : List Log} {lists : Nat → Nat → Bool}
    (h : ReceivedHistory k c turns n start received written lists) (hsettled : c.storage.Settled) :
    (∀ i < n, ∀ ps, k.resultAt .received c turns i = .ok ps →
      ps = ((k.receivedEvents received).filter fun q => q.within start (turns i).target &&
        !k.missed c turns written i q).filterMap
          (receivedAnswer (k.writtenBy written (turns i).target) (lists i))) ∧
    ∀ i ≤ n, ∃ m, (k.checkpointsAt .received c turns i).load .received = .ok m ∧ start ≤ m ∧
      ∀ q ∈ k.receivedEvents received, start ≤ q.eventHeight → q.eventHeight < m →
        ∃ j < i, k.passedBy .received c turns j q = true ∧
          (acknowledged? (k.writtenBy written (turns j).target) q = none ∨
            lists j q.sequence = false) := by
  obtain ⟨hload, hzero, hscan⟩ := h.scans hsettled
  refine ⟨fun i hi ps hps => ?_, fun i hi => ?_⟩
  · rw [Scan.result_eq hscan hi hps, hzero, List.filterMap_filter, List.filterMap_filter]
    refine List.filterMap_congr fun q hq => ?_
    by_cases hw : q.within start (turns i).target = true
    · rcases Nat.lt_or_ge q.eventHeight (k.cursorAt .received c turns i) with hlt | hge
      · -- it has been passed, so it has been missed or is not listed any more
        rw [decide_eq_false (Nat.not_le.2 hlt), Bool.and_false, if_neg (by simp)]
        split_ifs with hnot
        · rw [hw, Bool.true_and, Bool.not_eq_true'] at hnot
          have hunlisted := h.unlisted_of_lt hsettled hi hq (Packet.within_iff.1 hw).1 hlt hnot
          rw [receivedAnswer, hunlisted, if_neg (by simp)]
        · rfl
      · rw [decide_eq_true hge, h.missed_of_le hsettled (Nat.le_of_lt hi) hge]
        rfl
    · simp [hw]
  · refine ⟨_, hload i hi, ?_, fun q hq hstart hlt => h.passed_of_lt hsettled hi hq hstart hlt⟩
    rw [← hzero]
    exact Scan.monotone hscan (Nat.zero_le i) hi

/-! ## A chain with one received packet -/

namespace Sample

theorem recvPacket_topic_head : Contract.recvPacket.topic.bytes.head? = some 52 := by decide +kernel

theorem writeAcknowledgement_topic_head :
    Contract.writeAcknowledgement.topic.bytes.head? = some 57 := by decide +kernel

theorem recvPacket_topic_ne : Contract.recvPacket.topic ≠ Contract.writeAcknowledgement.topic := by
  intro h
  have hhead := recvPacket_topic_head
  rw [h, writeAcknowledgement_topic_head] at hhead
  exact absurd hhead (by decide)

/-- The values of the event that a packet has been received. -/
def receivedValues :
    (Nat × Bytes × Bytes × Bytes × Bytes × Bytes × (Nat × Nat × Unit) × Nat × Unit) × Unit :=
  ((5, utf8 "transfer", utf8 "channel-1", utf8 "transfer", utf8 "channel-0", [1, 2], (1, 900, ()),
    0, ()), ())

/-- These values as the data of a log. -/
def receivedData : Bytes := AbiType.encodeAll Contract.recvPacket.types receivedValues

/-- A packet has been received in block 10. -/
def receivedLog : Log := ⟨.zero 20, [Contract.recvPacket.topic], receivedData, some 10⟩

/-- The packet that is read from the log. -/
def receivedPacket : Packet :=
  { sequence := 5
    sourcePort := "transfer"
    sourceChannel := "channel-1"
    destinationPort := "transfer"
    destinationChannel := "channel-0"
    data := [1, 2]
    timeoutHeight := ⟨1, 900⟩
    timeoutTimestamp := 0
    acknowledgement := none
    eventHeight := 10 }

/-- The values of the event that its acknowledgement has been written. -/
def writtenValues : Bytes × Bytes × Nat × Bytes × Unit :=
  (utf8 "transfer", utf8 "channel-0", 5, [3], ())

/-- These values as the data of a log. -/
def writtenData : Bytes := AbiType.encodeAll Contract.writeAcknowledgement.types writtenValues

/-- It has been acknowledged in block 25. -/
def writtenLog : Log := ⟨.zero 20, [Contract.writeAcknowledgement.topic], writtenData, some 25⟩

/-- The acknowledgement that is read from the log. -/
def written : Contract.Acknowledgement := ⟨"transfer", "channel-0", 5, [3]⟩

theorem decode_receivedData :
    AbiType.decodeCanonical Contract.recvPacket.types receivedData = some receivedValues :=
  AbiType.decodeCanonical_encodeAll (by decide) (by decide) (by decide) (by decide +kernel)

theorem decode_writtenData :
    AbiType.decodeCanonical Contract.writeAcknowledgement.types writtenData =
      some writtenValues :=
  AbiType.decodeCanonical_encodeAll (by decide) (by decide) (by decide) (by decide +kernel)

theorem arguments_receivedLog :
    Contract.recvPacket.arguments receivedLog = .ok receivedValues := by
  have htopic : receivedLog.topics.head? = some Contract.recvPacket.topic := List.head?_cons
  have hdecode : AbiType.decodeCanonical Contract.recvPacket.types receivedLog.data =
      some receivedValues := decode_receivedData
  rw [Contract.Event.arguments, if_pos htopic, hdecode]

theorem arguments_writtenLog :
    Contract.writeAcknowledgement.arguments writtenLog = .ok writtenValues := by
  have htopic : writtenLog.topics.head? = some Contract.writeAcknowledgement.topic :=
    List.head?_cons
  have hdecode : AbiType.decodeCanonical Contract.writeAcknowledgement.types writtenLog.data =
      some writtenValues := decode_writtenData
  rw [Contract.Event.arguments, if_pos htopic, hdecode]

theorem receivedPacket_receivedLog :
    Contract.receivedPacket receivedLog = .ok receivedPacket := by
  have hport : Contract.textOf (utf8 "transfer") = "transfer" := by rfl
  have hsource : Contract.textOf (utf8 "channel-1") = "channel-1" := by rfl
  have hchannel : Contract.textOf (utf8 "channel-0") = "channel-0" := by rfl
  simp only [Contract.receivedPacket, arguments_receivedLog, receivedValues]
  change Except.ok _ = _
  rw [hport, hsource, hchannel]
  rfl

theorem writtenAcknowledgement_writtenLog :
    Contract.writtenAcknowledgement writtenLog = .ok written := by
  have hport : Contract.textOf (utf8 "transfer") = "transfer" := by rfl
  have hchannel : Contract.textOf (utf8 "channel-0") = "channel-0" := by rfl
  simp only [Contract.writtenAcknowledgement, arguments_writtenLog, writtenValues]
  change Except.ok _ = _
  rw [hport, hchannel]
  rfl

theorem receivedPackets_receivedLog :
    scanner.receivedPackets [receivedLog] = .ok [receivedPacket] := by
  have hmap : [receivedLog].mapM Contract.receivedPacket = .ok [receivedPacket] := by
    rw [List.mapM_cons, receivedPacket_receivedLog]
    rfl
  have hown : (receivedPacket.destinationPort == scanner.path.own.port &&
    receivedPacket.destinationChannel == scanner.path.own.channel) = true := by decide
  rw [receivedPackets, hmap]
  change Except.ok ([receivedPacket].filter _) = _
  simp only [List.filter_cons, hown, if_true, List.filter_nil]

theorem acknowledgements_writtenLog :
    scanner.acknowledgements [writtenLog] = .ok [written] := by
  have hmap : [writtenLog].mapM Contract.writtenAcknowledgement = .ok [written] := by
    rw [List.mapM_cons, writtenAcknowledgement_writtenLog]
    rfl
  have hown : (written.port == scanner.path.own.port &&
    written.channel == scanner.path.own.channel) = true := by decide
  rw [acknowledgements, hmap]
  change Except.ok ([written].filter _) = _
  simp only [List.filter_cons, hown, if_true, List.filter_nil]

theorem receivedEvents_receivedLog : scanner.receivedEvents [receivedLog] = [receivedPacket] :=
  (receivedPackets_ok receivedPackets_receivedLog).symm

theorem acknowledgementEvents_writtenLog : scanner.acknowledgementEvents [writtenLog] = [written] :=
  (acknowledgements_ok acknowledgements_writtenLog).symm

/-- The packet together with its acknowledgement. -/
def acknowledgedPacket : Packet := { receivedPacket with acknowledgement := some [3] }

/-- Peers for which the packet has been received and then acknowledged. -/
def receivedPeers : ScriptedPeers where
  node := { logs := [receivedLog, writtenLog] }

theorem prompt_receivedPeers : receivedPeers.Prompt :=
  ⟨by simp [receivedPeers, receivedLog, writtenLog], rfl, rfl, rfl, rfl⟩

theorem logsOf_recvPacket :
    receivedPeers.node.logsOf scanner.contract Contract.recvPacket.topic = [receivedLog] := by
  have hreceived : receivedLog.isOf scanner.contract Contract.recvPacket.topic = true :=
    Log.isOf_iff.2 ⟨rfl, List.head?_cons⟩
  have hwritten : ¬ writtenLog.isOf scanner.contract Contract.recvPacket.topic = true :=
    fun h => recvPacket_topic_ne (Option.some.inj (Log.isOf_iff.1 h).2).symm
  rw [ScriptedNode.logsOf, receivedPeers, List.filter_cons_of_pos hreceived,
    List.filter_cons_of_neg hwritten, List.filter_nil]

theorem logsOf_writeAcknowledgement :
    receivedPeers.node.logsOf scanner.contract Contract.writeAcknowledgement.topic =
      [writtenLog] := by
  have hreceived : ¬ receivedLog.isOf scanner.contract Contract.writeAcknowledgement.topic = true :=
    fun h => recvPacket_topic_ne (Option.some.inj (Log.isOf_iff.1 h).2)
  have hwritten : writtenLog.isOf scanner.contract Contract.writeAcknowledgement.topic = true :=
    Log.isOf_iff.2 ⟨rfl, List.head?_cons⟩
  rw [ScriptedNode.logsOf, receivedPeers, List.filter_cons_of_neg hreceived,
    List.filter_cons_of_pos hwritten, List.filter_nil]

/-- A search up to a target. -/
def receivedTurn (target : Nat) (h : target ≤ countMax) : Turn ScriptedPeers :=
  ⟨.never, target, h, receivedPeers, 0, [], false⟩

theorem receivedHistory {c : Checkpoints} {turns : Nat → Turn ScriptedPeers}
    (hstart : c.load .received = .ok 1) (hpeers : ∀ i, (turns i).peers = receivedPeers) :
    ReceivedHistory scanner c turns 2 1 [receivedLog] [writtenLog] (fun _ _ => true) where
  start := hstart
  orderedReceipts := List.pairwise_singleton _ _
  orderedWritten := List.pairwise_singleton _ _
  inOrder := by
    intro q hq l hl a _ _ b hb
    rw [receivedEvents_receivedLog, List.mem_singleton] at hq
    rw [List.mem_singleton] at hl
    subst hq hl
    obtain rfl := Option.some.inj hb
    decide
  exactReceipts i _ := by
    rw [hpeers, ← logsOf_recvPacket]
    exact exact_scripted prompt_receivedPeers.blocks _ _ _
  exactWritten i _ := by
    rw [hpeers, ← logsOf_writeAcknowledgement]
    exact exact_scripted prompt_receivedPeers.blocks _ _ _
  listing i _ := by
    rw [hpeers]
    exact listed_scripted rfl .received
  unlisted i j _ _ q _ _ _ h := absurd h (by simp)

section
variable {s : Session ScriptedPeers} (hp : s.peers = receivedPeers)

include hp

theorem gives_receivedLog (m target : Nat) :
    Gives (scanner.scanLogs .never Contract.recvPacket m target) s
      ([receivedLog].filter (Log.within m target)) :=
  gives_scanLogs (hp ▸ prompt_receivedPeers) (hp ▸ logsOf_recvPacket)
    (List.pairwise_singleton _ _) _ _

theorem gives_writtenLog (m target : Nat) :
    Gives (scanner.scanLogs .never Contract.writeAcknowledgement m target) s
      ([writtenLog].filter (Log.within m target)) :=
  gives_scanLogs (hp ▸ prompt_receivedPeers) (hp ▸ logsOf_writeAcknowledgement)
    (List.pairwise_singleton _ _) _ _

/-- A search that does not scan the receipt finds nothing. -/
theorem gives_no_receipt {m target : Nat} (hout : ¬ receivedLog.within m target = true) :
    Gives (scanner.candidates .never .received m target) s [] := by
  have hlogs := gives_receivedLog hp m target
  rw [List.filter_cons_of_neg hout, List.filter_nil] at hlogs
  exact .bind hlogs fun s₁ _ _ => .bind (.result rfl s₁) fun s₂ _ _ => .pure [] s₂

/-- A search that reaches the receipt finds the packet if it also reaches the acknowledgement. -/
theorem gives_receivedPacket {m target : Nat} (hm : m ≤ 10) (ht : 10 ≤ target) :
    Gives (scanner.candidates .never .received m target) s
      (if 25 ≤ target then [acknowledgedPacket] else []) := by
  have hlogs := gives_receivedLog hp m target
  rw [List.filter_cons_of_pos (Log.within_iff.2 ⟨10, rfl, hm, ht⟩), List.filter_nil] at hlogs
  refine .bind hlogs fun s₁ hp₁ _ => .bind (.result receivedPackets_receivedLog s₁)
    fun s₂ hp₂ _ => .bind (gives_writtenLog (hp₂.trans (hp₁.trans hp)) 10 target) fun s₃ _ _ => ?_
  split_ifs with h
  · rw [List.filter_cons_of_pos (Log.within_iff.2 ⟨25, rfl, by decide, h⟩), List.filter_nil]
    exact .bind (.result acknowledgements_writtenLog s₃) fun s₄ _ _ => .pure _ s₄
  · have hlate : ¬ writtenLog.within 10 target = true := by
      rintro hw
      obtain ⟨b, hb, -, hle⟩ := Log.within_iff.1 hw
      obtain rfl := Option.some.inj hb
      exact h hle
    rw [List.filter_cons_of_neg hlate, List.filter_nil]
    exact .bind (.result rfl s₃) fun s₄ _ _ => .pure [] s₄

end

/-- Both searches reach the acknowledgement. -/
def receivedTurns (_ : Nat) : Turn ScriptedPeers := receivedTurn 30 (by decide)

theorem resultAt_receivedTurns :
    scanner.resultAt .received fresh receivedTurns 0 = .ok [acknowledgedPacket] := by
  have hzero : fresh.load .received = .ok 1 := by rfl
  have hnext : nextCheckpoint 30 [acknowledgedPacket] = 10 := by rfl
  have hrun := run_turn (k := scanner) (u := receivedTurns 0) rfl prompt_receivedPeers rfl hzero
    (by decide) (gives_receivedPacket rfl (by decide) (by decide)) hnext
  have hadvance : (fresh.advance .received 10).1 = .ok 10 := by rfl
  rw [resultAt, checkpointsAt, hrun.1, hadvance]
  rfl

/-- The first search ends between the receipt and the acknowledgement. -/
def lateTurns : Nat → Turn ScriptedPeers :=
  turnsOf (receivedTurn 15 (by decide)) (receivedTurn 30 (by decide))

theorem resultAt_lateTurns : scanner.resultAt .received fresh lateTurns 1 = .ok [] := by
  have hzero : fresh.load .received = .ok 1 := by rfl
  have hnext : nextCheckpoint 15 [] = 16 := by rfl
  have hfirst := run_turn (k := scanner) (u := lateTurns 0) rfl prompt_receivedPeers rfl hzero
    (by decide) (gives_receivedPacket rfl (by decide) (by decide)) hnext
  have hcheckpoints : scanner.checkpointsAt .received fresh lateTurns (0 + 1) =
      (fresh.advance .received 16).2 := by
    rw [checkpointsAt, checkpointsAt, hfirst.2]
  have hload : (fresh.advance .received 16).2.load .received = .ok 16 := by rfl
  have hnext' : nextCheckpoint 30 [] = 31 := by rfl
  have hsecond := run_turn (k := scanner) (u := lateTurns 1) rfl prompt_receivedPeers rfl hload
    (by decide) (gives_no_receipt rfl (by decide)) hnext'
  have hadvance : ((fresh.advance .received 16).2.advance .received 31).1 = .ok 31 := by rfl
  rw [resultAt, hcheckpoints, hsecond.1, hadvance]
  rfl

end Sample

/-- A packet that has been acknowledged by the time its receipt is scanned is found. -/
theorem received_rescan_timely :
    Sample.scanner.resultAt .received Sample.fresh Sample.receivedTurns 0 =
      .ok [Sample.acknowledgedPacket] ∧
    [Sample.acknowledgedPacket] =
      ((Sample.scanner.receivedEvents [Sample.receivedLog]).filter fun q => q.within 1 30 &&
        !Sample.scanner.missed Sample.fresh Sample.receivedTurns [Sample.writtenLog] 0 q).filterMap
          (receivedAnswer (Sample.scanner.writtenBy [Sample.writtenLog] 30) fun _ => true) ∧
    ∃ m, (Sample.scanner.checkpointsAt .received Sample.fresh Sample.receivedTurns 1).load .received =
      .ok m ∧ 1 ≤ m :=
  have history : ReceivedHistory Sample.scanner Sample.fresh Sample.receivedTurns 2 1
      [Sample.receivedLog] [Sample.writtenLog] (fun _ _ => true) :=
    Sample.receivedHistory rfl fun _ => rfl
  have h := received_rescan history (Storage.settled_memory [])
  ⟨Sample.resultAt_receivedTurns, h.1 0 (by decide) _ Sample.resultAt_receivedTurns,
    let ⟨m, hm, hle, _⟩ := h.2 1 (by decide)
    ⟨m, hm, hle⟩⟩

/-- **A late acknowledgement is lost.** The first search scans the receipt and passes it, since it is
    not acknowledged yet; the second one does not go back to it, although it is listed and has been
    acknowledged by then. -/
theorem received_rescan_late :
    ReceivedHistory Sample.scanner Sample.fresh Sample.lateTurns 2 1 [Sample.receivedLog]
      [Sample.writtenLog] (fun _ _ => true) ∧
    (Sample.lateTurns 0).target ≤ (Sample.lateTurns 1).target ∧
    Sample.fresh.storage.Settled ∧
    Sample.scanner.resultAt .received Sample.fresh Sample.lateTurns 1 = .ok [] ∧
    ((Sample.scanner.receivedEvents [Sample.receivedLog]).filter fun q =>
        q.within 1 (Sample.lateTurns 1).target).filterMap
          (receivedAnswer (Sample.scanner.writtenBy [Sample.writtenLog]
            (Sample.lateTurns 1).target) fun _ => true) = [Sample.acknowledgedPacket] := by
  refine ⟨Sample.receivedHistory rfl fun i => ?_, by decide, Storage.settled_memory [],
    Sample.resultAt_lateTurns, ?_⟩
  · cases i <;> rfl
  · have hwritten : Sample.scanner.writtenBy [Sample.writtenLog] (Sample.lateTurns 1).target =
        [Sample.written] := Sample.acknowledgementEvents_writtenLog
    rw [Sample.receivedEvents_receivedLog, hwritten]
    rfl

namespace Sample

/-- Checkpoints whose folder is named by way of a missing one, as in `hidden`: the record for received
    packets cannot be reached until the missing folder has been created. -/
def hiddenReceipts : Checkpoints where
  storage := .directory ⟨"x/../data"⟩
    (.folder [("data", .folder [("recv", .file (utf8 "5000")), ("recv.tmp", .folder [])])])
  initialSent := 1
  initialReceived := 1

/-- The first search ends before the receipt, the second one reaches it and its acknowledgement. -/
def hiddenReceiptTurns : Nat → Turn ScriptedPeers :=
  turnsOf (receivedTurn 9 (by decide)) (receivedTurn 30 (by decide))

theorem results_hiddenReceiptTurns :
    scanner.resultAt .received hiddenReceipts hiddenReceiptTurns 0 =
        .error (.storage (.backend .isFolder)) ∧
      scanner.resultAt .received hiddenReceipts hiddenReceiptTurns 1 = .ok [] := by
  have hzero : hiddenReceipts.load .received = .ok 1 := by rfl
  have hfails : (hiddenReceipts.advance .received 10).1 = .error (.backend .isFolder) := by rfl
  have hfound : (hiddenReceipts.advance .received 10).2.load .received = .ok 5000 := by rfl
  exact results_of_hidden rfl prompt_receivedPeers rfl hzero
    (by decide) (gives_no_receipt rfl (by decide)) hfails hfound (by decide)

end Sample

/-- **Unless the storage is settled.** No search passes the receipt, so it is not missed, but the
    second one starts from the record that the first one has brought to light and does not find the
    packet. -/
theorem received_rescan_unsettled :
    ReceivedHistory Sample.scanner Sample.hiddenReceipts Sample.hiddenReceiptTurns 2 1
      [Sample.receivedLog] [Sample.writtenLog] (fun _ _ => true) ∧
    Sample.scanner.missed Sample.hiddenReceipts Sample.hiddenReceiptTurns [Sample.writtenLog] 1
      Sample.receivedPacket = false ∧
    Sample.scanner.resultAt .received Sample.hiddenReceipts Sample.hiddenReceiptTurns 1 = .ok [] ∧
    ((Sample.scanner.receivedEvents [Sample.receivedLog]).filter fun q =>
        q.within 1 (Sample.hiddenReceiptTurns 1).target).filterMap
          (receivedAnswer (Sample.scanner.writtenBy [Sample.writtenLog]
            (Sample.hiddenReceiptTurns 1).target) fun _ => true) = [Sample.acknowledgedPacket] := by
  obtain ⟨hfirst, hsecond⟩ := Sample.results_hiddenReceiptTurns
  refine ⟨Sample.receivedHistory (by rfl) fun i => ?_, ?_, hsecond, ?_⟩
  · cases i <;> rfl
  · refine List.any_eq_false.2 fun j hj => ?_
    obtain rfl : j = 0 := Nat.lt_one_iff.1 (List.mem_range.1 hj)
    rw [passedBy_of_error hfirst, Bool.false_and]
    exact Bool.false_ne_true
  · have hwritten : Sample.scanner.writtenBy [Sample.writtenLog]
        (Sample.hiddenReceiptTurns 1).target = [Sample.written] :=
      Sample.acknowledgementEvents_writtenLog
    rw [Sample.receivedEvents_receivedLog, hwritten]
    rfl

end PacketRelay.Scanner
