/-
  Searching among scripted peers.

  * `unrelayed_of_gives`: when what a search asks for is given, it ends as the move of its checkpoint
    ends;
  * `gives_scanLogs`: prompt peers give the logs of their script;
  * `exact_scripted`, `listed_scripted`: scripted peers answer as `Exact` and `Listed` ask for.
-/
import PacketRelay.Proofs.Discovery.Search
import PacketRelay.Proofs.Scripted

namespace PacketRelay

open Session

/-! ## Searches -/

namespace Scanner

variable {σ : Type} [Node σ] [Counterparty σ] {k : Scanner} {token : CancelToken} {d : Direction}
  {target m : Nat} {s : Session σ}

/-- When what a search asks for is given, it ends as the move of its checkpoint ends. -/
theorem unrelayed_of_gives {found ps : List Packet} (hm : s.checkpoints.load d = .ok m)
    (hle : m ≤ target) (hfound : Gives (k.candidates token d m target) s found)
    (hps : ∀ s', s'.peers = s.peers → Gives (keepUnreceived token d found) s' ps) :
    (run (k.unrelayed token d target) s).1 =
        ((s.checkpoints.advance d (nextCheckpoint target ps)).1.mapError .storage).map
          (fun _ => ps) ∧
      (run (k.unrelayed token d target) s).2.checkpoints =
        (s.checkpoints.advance d (nextCheckpoint target ps)).2 := by
  obtain ⟨s₁, hr₁, hp₁, hc₁⟩ := hfound
  obtain ⟨s₂, hr₂, -, hc₂⟩ := hps s₁ hp₁
  generalize hadv : s.checkpoints.advance d (nextCheckpoint target ps) = moved
  obtain ⟨r, c⟩ := moved
  have hmove : run (advanceCheckpoint d (nextCheckpoint target ps) : Run σ DiscoveryError Nat) s₂ =
      (r.mapError .storage, { s₂ with checkpoints := c }) := by
    rw [run_advanceCheckpoint, hc₂, hc₁, hadv]
  have hrun : run (k.unrelayed token d target) s =
      ((r.mapError .storage).map (fun _ => ps), { s₂ with checkpoints := c }) := by
    rw [unrelayed, run_bind, run_loadCheckpoint_ok hm, continued_ok,
      if_neg (Nat.not_lt.2 hle), run_bind, hr₁, continued_ok, run_bind, hr₂, continued_ok, run_bind,
      hmove]
    cases r <;> rfl
  rw [hrun]
  exact ⟨rfl, rfl⟩

/-- A search whose checkpoint lies beyond its target does nothing. -/
theorem unrelayed_of_lt (hm : s.checkpoints.load d = .ok m) (hlt : target < m) :
    run (k.unrelayed token d target) s = (.ok [], s) := by
  rw [unrelayed, run_bind, run_loadCheckpoint_ok hm, continued_ok, if_pos hlt, run_pure]

end Scanner

/-! ## The logs of a script -/

/-- Whether a log has been written by a contract and has a first topic. -/
def Log.isOf (contract : Address) (topic : Hash) (l : Log) : Bool :=
  l.address == contract && l.topics.head? == some topic

theorem Log.isOf_iff {contract : Address} {topic : Hash} {l : Log} :
    l.isOf contract topic = true ↔ l.address = contract ∧ l.topics.head? = some topic := by
  simp [isOf]

theorem ScriptedNode.isAsked_iff {q : LogQuery} {l : Log} : isAsked q l = true ↔
    l.isOf q.address q.topic = true ∧ q.first ≤ l.block.getD 0 ∧ l.block.getD 0 ≤ q.last := by
  simp [isAsked, Log.isOf, and_assoc]

/-- The logs of an event in the script of a node. -/
def ScriptedNode.logsOf (n : ScriptedNode) (contract : Address) (topic : Hash) : List Log :=
  n.logs.filter (Log.isOf contract topic)

/-- The answer of a node none of whose logs is pending. -/
theorem ScriptedNode.filter_isAsked {n : ScriptedNode} (hblock : ∀ l ∈ n.logs, l.block ≠ none)
    (q : LogQuery) : n.logs.filter (isAsked q) =
      (n.logsOf q.address q.topic).filter (Log.within q.first q.last) := by
  rw [logsOf, List.filter_filter]
  refine List.filter_congr fun l hl => ?_
  cases hb : l.block with
  | none => exact absurd hb (hblock l hl)
  | some b =>
    rw [Bool.eq_iff_iff, isAsked_iff, Bool.and_eq_true, and_comm]
    simp [Log.within, hb]

/-! ## Prompt peers -/

section
variable {s : Session ScriptedPeers} (h : s.peers.Prompt)

include h

theorem gives_logs (q : LogQuery) :
    Gives (Scanner.query .never (.logs q)) s (s.peers.node.logs.filter (ScriptedNode.isAsked q)) :=
  .adapt _ (gives_ask h rfl)

theorem gives_call {contract : Address} {input output : Bytes} (block : Option Nat)
    (hout : s.peers.node.contract.lookup (contract, input) = some output) :
    Gives (Scanner.query .never (.call contract input block)) s output :=
  .adapt _ (gives_ask h (by rw [ScriptedNode.answer, hout]))

/-- A counterparty that lists all it is asked for. -/
theorem gives_keepUnreceived (d : Direction) (found : List Packet)
    (hall : s.peers.counterparty.unreceived = none) :
    Gives (Scanner.keepUnreceived .never d found) s found := by
  cases found with
  | nil => exact .pure [] s
  | cons q rest =>
    have hreply : s.peers.counterparty.reply .latestFinalizedHeight =
        .ok s.peers.counterparty.finalized := by
      simp [ScriptedCounterparty.reply, h.counterpartyFailures]
    refine .bind (gives_counterparty h hreply) fun s₁ hp₁ _ => ?_
    have hlisted : Gives (Scanner.unreceived .never d s.peers.counterparty.finalized
        ((q :: rest).map (·.sequence))) s₁ ((q :: rest).map (·.sequence)) := by
      cases d <;> refine gives_counterparty (hp₁ ▸ h) ?_ <;>
        simp [ScriptedCounterparty.reply, h.counterpartyFailures, hp₁, hall]
    have hkeep : (q :: rest).filter (fun p => ((q :: rest).map (·.sequence)).contains p.sequence) =
        q :: rest := by
      refine List.filter_eq_self.2 fun p hp => ?_
      exact List.contains_iff_mem.2 (List.mem_map_of_mem hp)
    exact .bind hlisted fun s₂ _ _ => ⟨s₂, by rw [run_pure, hkeep], rfl, rfl⟩

theorem gives_windowLogs (k : Scanner) (topic : Hash) (ws : List (Nat × Nat)) :
    Gives (k.windowLogs .never topic ws) s
      (ws.flatMap fun w => (s.peers.node.logsOf k.contract topic).filter (Log.within w.1 w.2)) := by
  induction ws generalizing s with
  | nil => exact .pure [] s
  | cons w ws ih =>
    have hfirst := gives_logs h ⟨k.contract, topic, w.1, w.2⟩
    rw [ScriptedNode.filter_isAsked h.blocks] at hfirst
    refine .bind hfirst fun s₁ hp _ => ?_
    have hrest := ih (hp ▸ h)
    rw [hp] at hrest
    exact .bind hrest fun s₂ _ _ => .pure _ s₂

/-- The logs of a range are given. -/
theorem gives_scanLogs {k : Scanner} {event : Contract.Event} {logs : List Log}
    (hlogs : s.peers.node.logsOf k.contract event.topic = logs) (ho : Ordered logs)
    (first last : Nat) :
    Gives (k.scanLogs .never event first last) s (logs.filter (Log.within first last)) := by
  have := gives_windowLogs h k event.topic (scanWindows first last k.blocksPerQuery)
  rwa [hlogs, Log.flatMap_scanWindows ho] at this

end

/-! ## What scripted peers answer -/

/-- Answering queries changes neither the logs nor the counterparty. -/
theorem Session.After.scripted {p p' : ScriptedPeers} (h : After p p') :
    p'.node.logs = p.node.logs ∧ p'.node.contract = p.node.contract ∧
      p'.counterparty = p.counterparty := by
  induction h with
  | refl => exact ⟨rfl, rfl, rfl⟩
  | counterparty q _ ih => exact ih
  | @node p' q _ ih =>
    suffices hsame : (p'.node.reply q).2.logs = p'.node.logs ∧
        (p'.node.reply q).2.contract = p'.node.contract from
      ⟨hsame.1.trans ih.1, hsame.2.trans ih.2.1, ih.2.2⟩
    simp only [ScriptedNode.reply]
    split
    · exact ⟨rfl, rfl⟩
    · cases q with
      | call contract input block =>
        simp only [ScriptedNode.answer]
        split <;> exact ⟨rfl, rfl⟩
      | send raw =>
        simp only [ScriptedNode.answer, ScriptedNode.mine]
        split <;> exact ⟨rfl, rfl⟩
      | _ => exact ⟨rfl, rfl⟩

theorem exact_scripted {p : ScriptedPeers} (hblock : ∀ l ∈ p.node.logs, l.block ≠ none)
    (contract : Address) (topic : Hash) (target : Nat) :
    Exact contract topic (p.node.logsOf contract topic) target p := by
  intro p' h first last _ answer ha
  have hanswer : answer = p'.node.logs.filter
      (ScriptedNode.isAsked ⟨contract, topic, first, last⟩) := by
    simp only [Node.reply, ScriptedNode.reply] at ha
    split at ha
    · cases ha
    · exact (Except.ok.inj ha).symm
  rw [hanswer, h.scripted.1, ScriptedNode.filter_isAsked hblock]

/-- Commitments that are not zero stand. -/
theorem stands_scripted {p : ScriptedPeers} (k : Scanner) (block : Nat)
    (hzero : ∀ e ∈ p.node.contract, ∀ c, Contract.commitmentOf e.2 = .ok c → c.isZero = false) :
    Stands k block (fun _ => true) p := by
  intro p' h sequence answer c ha hc
  simp only [Node.reply, ScriptedNode.reply, ScriptedNode.answer, h.scripted.2.1] at ha
  split at ha
  · cases ha
  · split at ha
    · rename_i output hout
      obtain rfl := Except.ok.inj ha
      obtain ⟨l₁, l₂, hl, -⟩ := List.lookup_eq_some_iff.1 hout
      have hmem : ∃ key, (key, output) ∈ p.node.contract :=
        ⟨_, by rw [hl]; exact List.mem_append_right _ List.mem_cons_self⟩
      obtain ⟨key, hmem⟩ := hmem
      rw [Bool.not_true]
      exact hzero (key, output) hmem c hc
    · cases ha

/-- A counterparty that lists all it is asked for. -/
theorem listed_scripted {p : ScriptedPeers} (hall : p.counterparty.unreceived = none)
    (d : Direction) : Listed d (fun _ => true) p := by
  intro p' h height sequences answer ha q hq
  have hanswer : listedIn height sequences d answer = sequences := by
    cases d with
    | sent =>
      simp only [unreceivedQuery, Counterparty.reply, ScriptedCounterparty.reply, h.scripted.2.2,
        hall] at ha
      split at ha
      · cases ha
      · exact (Except.ok.inj ha).symm
    | received =>
      simp only [unreceivedQuery, Counterparty.reply, ScriptedCounterparty.reply, h.scripted.2.2,
        hall] at ha
      split at ha
      · cases ha
      · exact (Except.ok.inj ha).symm
  rw [hanswer]
  exact List.contains_iff_mem.2 hq

end PacketRelay
