/-
  Receipts and their acknowledgements.

  The search for received packets looks for acknowledgements from its earliest receipt on only.

  * `joined` are the `receipts` in a range, each with the last acknowledgement written for it on the
    channel up to the end of the range; no log is left out that could hold one;
  * `Misread` says that a log that is read is not the event it is asked for;
  * `acknowledgedPackets_joined`: the search finds what is joined, although it looks at less.
-/
import PacketRelay.Proofs.Discovery.Received
import PacketRelay.Proofs.Discovery.Store

namespace PacketRelay

open Session

/-! ## The last acknowledgement -/

/-- The last acknowledgement that has been written for a sequence. -/
def lastWritten? (written : List Contract.Acknowledgement) (sequence : Nat) :
    Option Contract.Acknowledgement :=
  (written.filter fun a => a.sequence == sequence).getLast?

theorem find?_reverse_eq_lastWritten? (written : List Contract.Acknowledgement) (sequence : Nat) :
    written.reverse.find? (fun a => a.sequence == sequence) = lastWritten? written sequence := by
  rw [lastWritten?, List.getLast?_eq_head?_reverse, ← List.filter_reverse, List.head?_filter]

theorem mem_of_lastWritten? {written : List Contract.Acknowledgement} {sequence : Nat}
    {a : Contract.Acknowledgement} (h : lastWritten? written sequence = some a) :
    a ∈ written ∧ a.sequence = sequence := by
  obtain ⟨hmem, hsequence⟩ := List.mem_filter.1 (List.mem_of_getLast? h)
  exact ⟨hmem, by simpa using hsequence⟩

/-! ## Logs that are read -/

namespace Scanner

variable (k : Scanner) (store : List Log)

/-- A log in a range is not the event it is read as. -/
inductive Misread (first last : Nat) : DiscoveryError → Prop
  | receipt {l : Log} {e : DiscoveryError} : l ∈ k.logsIn Contract.recvPacket store →
    l.within first last = true → Contract.receivedPacket l = .error e → Misread first last e
  | acknowledgement {l : Log} {e : DiscoveryError} :
    l ∈ k.logsIn Contract.writeAcknowledgement store → l.within first last = true →
    Contract.writtenAcknowledgement l = .error e → Misread first last e

/-- The receipts of the channel in a range, in the order of their logs. -/
def receipts (first last : Nat) : List Packet :=
  (k.receivedEvents (k.logsIn Contract.recvPacket store)).filter (Packet.within first last)

/-- The receipts in a range, with the last acknowledgement that has been written for them on the
    channel up to the end of the range. -/
def joined (first last : Nat) : List Packet :=
  (k.receipts store first last).filterMap fun p =>
    (lastWritten? (k.writtenBy (k.logsIn Contract.writeAcknowledgement store) last)
      p.sequence).map fun a => { p with acknowledgement := some a.bytes }

variable {k store} {token : CancelToken}

theorem joined_eq (first last : Nat) : k.joined store first last =
    (k.receipts store first last).filterMap
      (acknowledged? (k.writtenBy (k.logsIn Contract.writeAcknowledgement store) last)) := by
  refine List.filterMap_congr fun p _ => ?_
  rw [acknowledged?, find?_reverse_eq_lastWritten?]

/-- What is attached to a receipt has been written for it on the channel. -/
theorem written_of_mem_joined {first last : Nat} {q : Packet} (hq : q ∈ k.joined store first last) :
    ∃ l ∈ k.logsIn Contract.writeAcknowledgement store, ∃ a,
      Contract.writtenAcknowledgement l = .ok a ∧ l.within 0 last = true ∧
      a.port = k.path.own.port ∧ a.channel = k.path.own.channel ∧ a.sequence = q.sequence ∧
      q.acknowledgement = some a.bytes := by
  obtain ⟨p, -, hp⟩ := List.mem_filterMap.1 hq
  obtain ⟨a, ha, rfl⟩ := Option.map_eq_some_iff.1 hp
  obtain ⟨hmem, hsequence⟩ := mem_of_lastWritten? ha
  obtain ⟨hread, hown⟩ := List.mem_filter.1 hmem
  obtain ⟨l, hl, hl'⟩ := List.mem_filterMap.1 hread
  obtain ⟨hlog, hwithin⟩ := List.mem_filter.1 hl
  simp only [Bool.and_eq_true, beq_iff_eq] at hown
  refine ⟨l, hlog, a, ?_, hwithin, hown.1, hown.2, hsequence, rfl⟩
  cases hw : Contract.writtenAcknowledgement l with
  | error e =>
    rw [hw] at hl'
    cases hl'
  | ok a' =>
    rw [hw] at hl'
    exact congrArg Except.ok (Option.some.inj hl')

theorem within_of_le {e first last : Nat} (hle : first ≤ e) {l : Log}
    (h : l.within e last = true) : l.within first last = true := by
  obtain ⟨b, hb, hfirst, hlast⟩ := Log.within_iff.1 h
  exact Log.within_iff.2 ⟨b, hb, Nat.le_trans hle hfirst, hlast⟩

theorem Misread.of_le {e first last : Nat} (hle : first ≤ e) {fault : DiscoveryError} :
    k.Misread store e last fault → k.Misread store first last fault
  | .receipt hl hwithin hfault => .receipt hl (within_of_le hle hwithin) hfault
  | .acknowledgement hl hwithin hfault => .acknowledgement hl (within_of_le hle hwithin) hfault

theorem receivedPackets_cases (first last : Nat) :
    k.receivedPackets ((k.logsIn Contract.recvPacket store).filter (Log.within first last)) =
        .ok (k.receipts store first last) ∨
      ∃ e, k.Misread store first last e ∧ k.receivedPackets
        ((k.logsIn Contract.recvPacket store).filter (Log.within first last)) = .error e := by
  rw [receipts, ← receivedEvents_within]
  refine (mapM_filter_cases Contract.receivedPacket _ _).imp_right fun ⟨l, hl, e, he, hr⟩ => ?_
  obtain ⟨hlog, hwithin⟩ := List.mem_filter.1 hl
  exact ⟨e, .receipt hlog hwithin he, hr⟩

theorem acknowledgements_cases (first last : Nat) :
    k.acknowledgements
        ((k.logsIn Contract.writeAcknowledgement store).filter (Log.within first last)) =
        .ok (k.acknowledgementEvents
          ((k.logsIn Contract.writeAcknowledgement store).filter (Log.within first last))) ∨
      ∃ e, k.Misread store first last e ∧ k.acknowledgements
        ((k.logsIn Contract.writeAcknowledgement store).filter (Log.within first last)) =
          .error e := by
  refine (mapM_filter_cases Contract.writtenAcknowledgement _ _).imp_right
    fun ⟨l, hl, e, he, hr⟩ => ?_
  obtain ⟨hlog, hwithin⟩ := List.mem_filter.1 hl
  exact ⟨e, .acknowledgement hlog hwithin he, hr⟩

/-! ## The search -/

section
variable {σ : Type}

theorem run_lift_ok {α β : Type} {r : Except DiscoveryError α} {a : α}
    {f : α → Run σ DiscoveryError β} (h : r = .ok a) (s : Session σ) :
    run (lift r >>= f) s = run (f a) s := by
  subst h
  rfl

theorem run_lift_error {α β : Type} {r : Except DiscoveryError α} {e : DiscoveryError}
    {f : α → Run σ DiscoveryError β} (h : r = .error e) (s : Session σ) :
    run (lift r >>= f) s = (.error e, s) := by
  subst h
  rfl

variable [Node σ] [Counterparty σ] {s : Session σ} {first last : Nat}

/-- What comes of a search: what is joined, unless a log is misread or the search is stopped. -/
def Joins (k : Scanner) (store : List Log) (token : CancelToken) (first last : Nat)
    (out : Except DiscoveryError (List Packet) × Session σ) : Prop :=
  out.1 = .ok (k.joined store first last) ∨
    (∃ e, k.Misread store first last e ∧ out.1 = .error e) ∨ Stopped token out

theorem joins_written (ho : Ordered store) (hserves : Serves store s.peers)
    (hinorder : InOrder k (k.logsIn Contract.recvPacket store)
      (k.logsIn Contract.writeAcknowledgement store)) {e : Nat}
    (he : Packet.earliestHeight? (k.receipts store first last) = some e) :
    k.Joins store token first last (run (do
      let logs ← k.scanLogs token Contract.writeAcknowledgement e last
      let written ← lift (k.acknowledgements logs)
      pure ((k.receipts store first last).filterMap (acknowledged? written))) s) := by
  rcases k.run_scanLogs token ho hserves Contract.writeAcknowledgement e last with
    ⟨s₁, hr, -⟩ | hstopped
  · rw [run_bind_of_ok hr]
    rcases acknowledgements_cases e last with hwritten | ⟨fault, hmisread, hwritten⟩
    · -- what has been written before the earliest receipt acknowledges none of them
      have hall : (k.receipts store first last).filterMap (acknowledged? _) = _ :=
        filterMap_acknowledged (k.ordered_logsIn ho _) hinorder he
      rw [run_lift_ok hwritten, hall, ← receipts, ← joined_eq]
      exact .inl rfl
    · obtain ⟨q, hq, rfl⟩ := earliestHeight_mem he
      have hfirst := (Packet.within_iff.1 (List.mem_filter.1 hq).2).1
      rw [run_lift_error hwritten]
      exact .inr (.inl ⟨fault, hmisread.of_le hfirst, rfl⟩)
  · exact .inr (.inr hstopped.bind)

/-- **The search for acknowledged receipts** finds, in the order of their logs, the receipts of the
    channel in the range that have been acknowledged on it up to the end of the range, each with the
    bytes of the last acknowledgement, unless a log is misread or the search is stopped.  Nothing is
    lost by looking for acknowledgements from the earliest receipt on, as no packet is acknowledged
    before it is received. -/
theorem acknowledgedPackets_joined (ho : Ordered store) (hserves : Serves store s.peers)
    (hinorder : InOrder k (k.logsIn Contract.recvPacket store)
      (k.logsIn Contract.writeAcknowledgement store)) (token : CancelToken) (first last : Nat) :
    k.Joins store token first last (run (k.acknowledgedPackets token first last) s) ∧
    ∀ q ∈ k.joined store first last, ∃ l ∈ k.logsIn Contract.writeAcknowledgement store, ∃ a,
      Contract.writtenAcknowledgement l = .ok a ∧ l.within 0 last = true ∧
      a.port = k.path.own.port ∧ a.channel = k.path.own.channel ∧ a.sequence = q.sequence ∧
      q.acknowledgement = some a.bytes := by
  refine ⟨?_, fun q hq => written_of_mem_joined hq⟩
  rw [acknowledgedPackets]
  rcases k.run_scanLogs token ho hserves Contract.recvPacket first last with
    ⟨s₁, hr, hp⟩ | hstopped
  · rw [run_bind_of_ok hr]
    rcases receivedPackets_cases first last with hreceived | ⟨fault, hmisread, hreceived⟩
    · rw [run_lift_ok hreceived]
      cases he : Packet.earliestHeight? (k.receipts store first last) with
      | none =>
        left
        rw [joined_eq, eq_nil_of_earliestHeight he]
        rfl
      | some e => exact joins_written ho (hserves.after hp) hinorder he
    · rw [run_lift_error hreceived]
      exact .inr (.inl ⟨fault, hmisread, rfl⟩)
  · exact .inr (.inr hstopped.bind)

end

namespace Sample

/-- A session that begins with these peers and without records. -/
def receivedSession : Session ScriptedPeers := ⟨receivedPeers, 0, [], fresh, false⟩

theorem logsIn_recvPacket :
    scanner.logsIn Contract.recvPacket receivedPeers.node.logs = [receivedLog] := logsOf_recvPacket

theorem logsIn_writeAcknowledgement :
    scanner.logsIn Contract.writeAcknowledgement receivedPeers.node.logs = [writtenLog] :=
  logsOf_writeAcknowledgement

theorem joined_receivedPeers :
    scanner.joined receivedPeers.node.logs 1 30 = [acknowledgedPacket] := by
  have hby : scanner.writtenBy [writtenLog] 30 = [written] := acknowledgementEvents_writtenLog
  rw [joined, receipts, logsIn_recvPacket, logsIn_writeAcknowledgement, receivedEvents_receivedLog, hby]
  rfl

theorem not_misread_receivedPeers {first last : Nat} {e : DiscoveryError} :
    ¬ scanner.Misread receivedPeers.node.logs first last e := by
  intro h
  cases h with
  | receipt hl _ he =>
    rw [logsIn_recvPacket] at hl
    rw [List.mem_singleton.1 hl, receivedPacket_receivedLog] at he
    cases he
  | acknowledgement hl _ he =>
    rw [logsIn_writeAcknowledgement] at hl
    rw [List.mem_singleton.1 hl, writtenAcknowledgement_writtenLog] at he
    cases he

theorem ordered_receivedPeers : Ordered receivedPeers.node.logs := by
  refine List.pairwise_pair.2 fun b hb b' hb' => ?_
  obtain rfl : 10 = b := Option.some.inj hb
  obtain rfl : 25 = b' := Option.some.inj hb'
  decide

end Sample

/-- The receipt is found with the acknowledgement that has been written after it. -/
theorem acknowledgedPackets_joined_one :
    Ordered Sample.receivedPeers.node.logs ∧
    Serves Sample.receivedPeers.node.logs Sample.receivedPeers ∧
    InOrder Sample.scanner (Sample.scanner.logsIn Contract.recvPacket Sample.receivedPeers.node.logs)
      (Sample.scanner.logsIn Contract.writeAcknowledgement Sample.receivedPeers.node.logs) ∧
    (run (Sample.scanner.acknowledgedPackets .never 1 30) Sample.receivedSession).1 =
      .ok [Sample.acknowledgedPacket] := by
  have hserves : Serves Sample.receivedPeers.node.logs Sample.receivedSession.peers :=
    serves_scripted Sample.prompt_receivedPeers
  have hinorder : InOrder Sample.scanner
      (Sample.scanner.logsIn Contract.recvPacket Sample.receivedPeers.node.logs)
      (Sample.scanner.logsIn Contract.writeAcknowledgement Sample.receivedPeers.node.logs) := by
    have history : ReceivedHistory Sample.scanner Sample.fresh Sample.receivedTurns 2 1
        [Sample.receivedLog] [Sample.writtenLog] (fun _ _ => true) :=
      Sample.receivedHistory rfl fun _ => rfl
    rw [Sample.logsIn_recvPacket, Sample.logsIn_writeAcknowledgement]
    exact history.inOrder
  refine ⟨Sample.ordered_receivedPeers, hserves, hinorder, ?_⟩
  obtain ⟨hjoined | ⟨e, hmisread, -⟩ | ⟨hfires, -⟩, -⟩ := acknowledgedPackets_joined
    (s := Sample.receivedSession) Sample.ordered_receivedPeers hserves hinorder .never 1 30
  · rw [hjoined, Sample.joined_receivedPeers]
  · exact absurd hmisread Sample.not_misread_receivedPeers
  · exact absurd rfl hfires

end Scanner

end PacketRelay
