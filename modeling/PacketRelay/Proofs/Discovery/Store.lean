/-
  Chains whose logs are answered exactly.

  * `LogQuery.asks` says which logs a query asks for, and `Serves` that from a state of the peers on
    the node answers every query for logs with exactly those of a store;
  * `Stopped` says that the token has ended an operation;
  * `run_scanLogs`: a scan gives the logs of its event in its range, unless it is stopped;
  * `serves_scripted`: prompt peers serve the logs of their script.
-/
import PacketRelay.Proofs.Discovery.Scripted

namespace PacketRelay

open Session

variable {σ : Type}

/-! ## Operations that are stopped -/

/-- The token has ended an operation. -/
def Stopped {α : Type} (token : CancelToken) (out : Except DiscoveryError α × Session σ) : Prop :=
  token ≠ .never ∧ ∃ reason, out.1 = .error (.cancelled reason)

theorem Stopped.bind {α β : Type} {token : CancelToken} {x : Run σ DiscoveryError α}
    {f : α → Run σ DiscoveryError β} {s : Session σ} (h : Stopped token (run x s)) :
    Stopped token (run (x >>= f) s) := by
  obtain ⟨hfires, reason, hr⟩ := h
  exact ⟨hfires, reason, by rw [run_bind_of_error (Prod.ext hr rfl)]⟩

theorem Stopped.of_bind {α β : Type} {token : CancelToken} {x : Run σ DiscoveryError α}
    {f : α → Run σ DiscoveryError β} {s s' : Session σ} {a : α} (hx : run x s = (.ok a, s'))
    (h : Stopped token (run (f a) s')) : Stopped token (run (x >>= f) s) := by
  rwa [run_bind_of_ok hx]

/-! ## Logs of a store -/

/-- Whether a query asks for a log. -/
def LogQuery.asks (q : LogQuery) (l : Log) : Bool :=
  l.isOf q.address q.topic && l.within q.first q.last

theorem filter_asks (store : List Log) (q : LogQuery) : store.filter q.asks =
    (store.filter (Log.isOf q.address q.topic)).filter (Log.within q.first q.last) := by
  rw [List.filter_filter]
  exact List.filter_congr fun _ _ => Bool.and_comm _ _

section
variable [Node σ] [Counterparty σ]

/-- From `p` on the node answers every query for logs with exactly the logs of a store that it asks
    for. -/
def Serves (store : List Log) (p : σ) : Prop :=
  ∀ p', After p p' → ∀ q : LogQuery,
    (Node.reply (.logs q) p').1 = (.ok (store.filter q.asks) : Except NodeError (List Log))

theorem Serves.after {store : List Log} {p p' : σ} (h : Serves store p) (hp : After p p') :
    Serves store p' := fun p'' hp' => h p'' (hp.trans hp')

namespace Scanner

variable (k : Scanner) (token : CancelToken) {store : List Log} {s : Session σ}

/-- The logs of an event in a store. -/
def logsIn (event : Contract.Event) (store : List Log) : List Log :=
  store.filter (Log.isOf k.contract event.topic)

omit [Node σ] [Counterparty σ] in
theorem ordered_logsIn (ho : Ordered store) (event : Contract.Event) :
    Ordered (k.logsIn event store) := ho.filter _

omit [Counterparty σ] in
/-- A query is answered with its reply, unless it is stopped. -/
theorem run_query_cases (q : Query) (s : Session σ) :
    run (query token q) s = ((Node.reply q s.peers).1.mapError .ofNode,
      s.answered (.node q) (Node.delay · q) (Node.reply q)) ∨
    Stopped token (run (query token q) s) := by
  have hrun : run (query token q) s = ((run (ask token q) s).1.mapError .ofNode,
      (run (ask token q) s).2) := run_adapt _ _ _
  rw [ask_eq_call] at hrun
  rcases run_call_answered_or_stopped token NodeError.cancelled (.node q) (Node.delay · q)
    (Node.reply q) s with hr | ⟨hfires, reason, s', hr⟩
  · rw [hr] at hrun
    exact .inl hrun
  · rw [hr] at hrun
    exact .inr ⟨hfires, reason, by rw [hrun]; rfl⟩

theorem run_query_logs (hserves : Serves store s.peers) (q : LogQuery) :
    (∃ s', run (query token (.logs q)) s = (.ok (store.filter q.asks), s') ∧
      After s.peers s'.peers) ∨ Stopped token (run (query token (.logs q)) s) := by
  refine (run_query_cases token (.logs q) s).imp_left fun hr => ?_
  rw [hserves _ .refl q] at hr
  exact ⟨_, hr, .node _ .refl⟩

theorem run_windowLogs (hserves : Serves store s.peers) (topic : Hash) (ws : List (Nat × Nat)) :
    (∃ s', run (k.windowLogs token topic ws) s = (.ok (ws.flatMap fun w =>
        (store.filter (Log.isOf k.contract topic)).filter (Log.within w.1 w.2)), s') ∧
      After s.peers s'.peers) ∨ Stopped token (run (k.windowLogs token topic ws) s) := by
  induction ws generalizing s with
  | nil => exact .inl ⟨s, rfl, .refl⟩
  | cons w ws ih =>
    rw [windowLogs]
    rcases run_query_logs token hserves ⟨k.contract, topic, w.1, w.2⟩ with
      ⟨s₁, hr₁, hp₁⟩ | hstopped
    · rcases ih (hserves.after hp₁) with ⟨s₂, hr₂, hp₂⟩ | hstopped
      · refine .inl ⟨s₂, ?_, hp₁.trans hp₂⟩
        rw [filter_asks] at hr₁
        exact (run_bind_of_ok hr₁).trans (run_bind_of_ok hr₂)
      · exact .inr (.of_bind hr₁ hstopped.bind)
    · exact .inr hstopped.bind

/-- **A scan** gives the logs of its event in its range, unless it is stopped. -/
theorem run_scanLogs (ho : Ordered store) (hserves : Serves store s.peers)
    (event : Contract.Event) (first last : Nat) :
    (∃ s', run (k.scanLogs token event first last) s =
        (.ok ((k.logsIn event store).filter (Log.within first last)), s') ∧
      After s.peers s'.peers) ∨ Stopped token (run (k.scanLogs token event first last) s) := by
  have hrun := run_windowLogs k token hserves event.topic
    (scanWindows first last k.blocksPerQuery)
  rwa [← logsIn, Log.flatMap_scanWindows (k.ordered_logsIn ho event)] at hrun

end Scanner

end

/-! ## Scripted peers -/

theorem Session.After.failures {p p' : ScriptedPeers} (h : After p p') :
    p'.node.failures = p.node.failures := by
  induction h with
  | refl => rfl
  | counterparty q _ ih => exact ih
  | @node p' q _ ih =>
    -- a call takes one of the scripted outputs and a sent transaction is kept; the rest stays
    suffices hsame : (p'.node.reply q).2.failures = p'.node.failures from hsame.trans ih
    simp only [ScriptedNode.reply]
    split
    · rfl
    · cases q with
      | call contract input block =>
        simp only [ScriptedNode.answer]
        split <;> rfl
      | send raw =>
        simp only [ScriptedNode.answer, ScriptedNode.mine]
        split <;> rfl
      | _ => rfl

theorem serves_scripted {p : ScriptedPeers} (h : p.Prompt) : Serves p.node.logs p := by
  intro p' hp' q
  have hreply : (Node.reply (.logs q) p').1 =
      (.ok (p'.node.logs.filter (ScriptedNode.isAsked q)) : Except NodeError (List Log)) := by
    simp only [Node.reply, ScriptedNode.reply, hp'.failures, h.nodeFailures]
    rfl
  rw [hreply, hp'.scripted.1, ScriptedNode.filter_isAsked h.blocks, filter_asks]
  rfl

end PacketRelay
