/-
  Operations among scripted peers.

  * `Gives x s a`: in the session `s` the operation `x` succeeds with `a` and leaves the peers and
    the checkpoints alone;
  * peers are `Prompt` when they neither fail nor delay a query; what is prepared they then give
    (`gives_ask`, `gives_counterparty`).
-/
import PacketRelay.Proofs.Session
import PacketRelay.Scripted

namespace PacketRelay

open Session

/-! ## Operations that leave everything alone -/

section
variable {σ ε ε' α β : Type}

/-- The operation succeeds and leaves the peers and the checkpoints alone. -/
def Gives (x : Run σ ε α) (s : Session σ) (a : α) : Prop :=
  ∃ s', run x s = (.ok a, s') ∧ s'.peers = s.peers ∧ s'.checkpoints = s.checkpoints

namespace Gives

theorem pure (a : α) (s : Session σ) : Gives (pure a : Run σ ε α) s a := ⟨s, rfl, rfl, rfl⟩

theorem result {r : Except ε α} {a : α} (h : r = .ok a) (s : Session σ) :
    Gives (step fun s => (r, s)) s a := ⟨s, by rw [run_step, h], rfl, rfl⟩

theorem bind {x : Run σ ε α} {f : α → Run σ ε β} {s : Session σ} {a : α} {b : β}
    (hx : Gives x s a)
    (hf : ∀ s', s'.peers = s.peers → s'.checkpoints = s.checkpoints → Gives (f a) s' b) :
    Gives (x >>= f) s b := by
  obtain ⟨s₁, hr, hp, hc⟩ := hx
  obtain ⟨s₂, hr', hp', hc'⟩ := hf s₁ hp hc
  refine ⟨s₂, ?_, hp'.trans hp, hc'.trans hc⟩
  rw [run_bind, hr]
  exact hr'

theorem adapt {x : Run σ ε α} {s : Session σ} {a : α} (g : ε → ε') (h : Gives x s a) :
    Gives (ExceptT.adapt g x : Run σ ε' α) s a := by
  obtain ⟨s', hr, hp, hc⟩ := h
  refine ⟨s', ?_, hp, hc⟩
  rw [run_adapt, hr]
  rfl

end Gives

end

/-- Looking at a token that never fires. -/
theorem run_check_never {σ ε : Type} (g : CancelReason → ε) (s : Session σ) :
    run (ExceptT.adapt g (check .never)) s = (.ok (), s) := rfl

/-! ## Prompt peers -/

/-- The peers neither fail nor delay a query, and none of their logs is pending. -/
structure ScriptedPeers.Prompt (p : ScriptedPeers) : Prop where
  blocks : ∀ l ∈ p.node.logs, l.block ≠ none
  nodeFailures : p.node.failures = []
  nodeDelays : p.node.delays = []
  counterpartyFailures : p.counterparty.failures = []
  counterpartyDelays : p.counterparty.delays = []

section
variable {s : Session ScriptedPeers} (h : s.peers.Prompt)

include h

/-- The node gives what it has prepared. -/
theorem gives_ask {q : Query} {a : q.Answer}
    (ha : s.peers.node.answer q = (.ok a, s.peers.node)) : Gives (ask .never q) s a := by
  refine ⟨s.record (.node q), ?_, rfl, rfl⟩
  rw [ask, run_bind, run_check_never, continued_ok, run_step]
  simp [CancelToken.interruption?, Node.delay, Node.reply, h.nodeFailures, h.nodeDelays, record,
    ScriptedNode.reply, ha]

/-- The counterparty gives what it has prepared. -/
theorem gives_counterparty {q : CounterpartyQuery} {a : q.Answer}
    (ha : s.peers.counterparty.reply q = .ok a) :
    Gives (askCounterparty .never q) s a := by
  refine ⟨s.record (.counterparty q), ?_, rfl, rfl⟩
  rw [askCounterparty, run_bind, run_check_never, continued_ok, run_step]
  simp [CancelToken.interruption?, Counterparty.delay, Counterparty.reply, h.counterpartyDelays,
    record, ha]

end

end PacketRelay
