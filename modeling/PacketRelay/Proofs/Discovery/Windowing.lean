/-
  The size of the windows.

  A search makes more or fewer queries for logs, as the windows are smaller or larger.  The peers may
  take note of that, as long as it changes nothing that they answer.

  * `Overlooks rel`: states that differ only in the logs that have been asked for are related by
    `rel`, and peers in related states answer everything else alike;
  * `Twins` are sessions in such states over the same store, and `Alike` says that two operations have
    come to the same result and to such sessions, unless one of them has been stopped;
  * `alike_candidates` and `alike_unrelayed`: searches with windows of different sizes are alike;
  * `windows_invisible`: so they find the same packets and leave the same checkpoints, those that
    single queries for the whole ranges lead to.
-/
import PacketRelay.Proofs.Discovery.Sent
import PacketRelay.Proofs.Discovery.Store

namespace PacketRelay

open Session

variable {σ : Type} [Node σ] [Counterparty σ]

/-! ## Peers that overlook queries for logs -/

/-- Queries for logs lead to related states, and in related states the peers answer all other queries
    of a search alike. -/
structure Overlooks (rel : σ → σ → Prop) : Prop where
  equiv : Equivalence rel
  logs (p : σ) (q : LogQuery) : rel p (Node.reply (.logs q) p).2
  call {p p' : σ} (h : rel p p') (contract : Address) (input : Bytes) (block : Option Nat) :
    (Node.reply (.call contract input block) p).1 = (Node.reply (.call contract input block) p').1 ∧
      rel (Node.reply (.call contract input block) p).2 (Node.reply (.call contract input block) p').2
  counterparty {p p' : σ} (h : rel p p') (q : CounterpartyQuery) :
    (Counterparty.reply q p).1 = (Counterparty.reply q p').1 ∧
      rel (Counterparty.reply q p).2 (Counterparty.reply q p').2

theorem overlooks_eq (h : ∀ (p : σ) (q : LogQuery), (Node.reply (.logs q) p).2 = p) :
    Overlooks (σ := σ) (· = ·) where
  equiv := eq_equivalence
  logs p q := (h p q).symm
  call h contract input block := by
    subst h
    exact ⟨rfl, rfl⟩
  counterparty h q := by
    subst h
    exact ⟨rfl, rfl⟩

/-- Sessions whose peers are in related states and serve the same store, with the same checkpoints. -/
structure Twins (rel : σ → σ → Prop) (store : List Log) (s s' : Session σ) : Prop where
  peers : rel s.peers s'.peers
  serves : Serves store s.peers
  serves' : Serves store s'.peers
  checkpoints : s.checkpoints = s'.checkpoints

/-- Two operations have come to the same result, unless one of them has been stopped. -/
inductive Alike (rel : σ → σ → Prop) (store : List Log) (token : CancelToken) {α : Type} :
    Except DiscoveryError α × Session σ → Except DiscoveryError α × Session σ → Prop
  | same {r : Except DiscoveryError α} {s s' : Session σ} : Twins rel store s s' →
    Alike rel store token (r, s) (r, s')
  | stopped {out out' : Except DiscoveryError α × Session σ} :
    Stopped token out ∨ Stopped token out' → Alike rel store token out out'

/-- Two operations have the same result and leave the same checkpoints, unless one of them has been
    stopped. -/
def Agree (token : CancelToken) {α : Type} (out out' : Except DiscoveryError α × Session σ) : Prop :=
  (out.1 = out'.1 ∧ out.2.checkpoints = out'.2.checkpoints) ∨ Stopped token out ∨ Stopped token out'

namespace Alike

variable {rel : σ → σ → Prop} {store : List Log} {token : CancelToken} {α β : Type}

theorem bind {x y : Run σ DiscoveryError α} {f g : α → Run σ DiscoveryError β} {s s' : Session σ}
    (h : Alike rel store token (run x s) (run y s'))
    (hf : ∀ a t t', Twins rel store t t' → Alike rel store token (run (f a) t) (run (g a) t')) :
    Alike rel store token (run (x >>= f) s) (run (y >>= g) s') := by
  generalize hx : run x s = out at h
  generalize hy : run y s' = out' at h
  cases h with
  | @same r t t' htwins =>
    cases r with
    | error e =>
      rw [run_bind_of_error hx, run_bind_of_error hy]
      exact .same htwins
    | ok a =>
      rw [run_bind_of_ok hx, run_bind_of_ok hy]
      exact hf a t t' htwins
  | stopped h =>
    -- what is stopped remains so, whatever should have come next
    subst hx hy
    exact .stopped (h.imp Stopped.bind Stopped.bind)

theorem agree {out out' : Except DiscoveryError α × Session σ}
    (h : Alike rel store token out out') : Agree token out out' := by
  cases h with
  | same htwins => exact .inl ⟨rfl, htwins.checkpoints⟩
  | stopped h => exact .inr h

end Alike

namespace Scanner

/-- The same search with windows of another size. -/
def sized (k : Scanner) (size : Nat) : Scanner := { k with blocksPerQuery := size }

section
variable {rel : σ → σ → Prop} {store : List Log} {token : CancelToken} {s s' : Session σ}
  (hrel : Overlooks rel) (htwins : Twins rel store s s')

include hrel htwins

/-! ## Operations that are alike -/

theorem alike_call (contract : Address) (input : Bytes) (block : Option Nat) :
    Alike rel store token (run (query token (.call contract input block)) s)
      (run (query token (.call contract input block)) s') := by
  rcases run_query_cases token (.call contract input block) s with hr | hstopped
  · rcases run_query_cases token (.call contract input block) s' with hr' | hstopped
    · obtain ⟨hanswer, hpeers⟩ := hrel.call htwins.peers contract input block
      rw [hr, hr', hanswer]
      exact .same ⟨hpeers, htwins.serves.after (.node _ .refl), htwins.serves'.after (.node _ .refl),
        htwins.checkpoints⟩
    · exact .stopped (.inr hstopped)
  · exact .stopped (.inl hstopped)

theorem alike_askCounterparty (q : CounterpartyQuery) :
    Alike rel store token (run (askCounterparty token q) s) (run (askCounterparty token q) s') := by
  have hcases (t : Session σ) : run (askCounterparty token q) t = ((Counterparty.reply q t.peers).1,
      t.answered (.counterparty q) (Counterparty.delay · q) (Counterparty.reply q)) ∨
      Stopped token (run (askCounterparty token q) t) := by
    rw [askCounterparty_eq_call]
    refine (run_call_answered_or_stopped token DiscoveryError.cancelled _ _ _ t).imp_right ?_
    intro ⟨hfires, reason, t', hr⟩
    exact ⟨hfires, reason, by rw [hr]⟩
  rcases hcases s with hr | hstopped
  · rcases hcases s' with hr' | hstopped
    · obtain ⟨hanswer, hpeers⟩ := hrel.counterparty htwins.peers q
      rw [hr, hr', hanswer]
      exact .same ⟨hpeers, htwins.serves.after (.counterparty _ .refl),
        htwins.serves'.after (.counterparty _ .refl), htwins.checkpoints⟩
    · exact .stopped (.inr hstopped)
  · exact .stopped (.inl hstopped)

variable (k : Scanner) (size size' : Nat)

theorem alike_scanLogs (ho : Ordered store) (event : Contract.Event) (first last : Nat) :
    Alike rel store token (run ((k.sized size).scanLogs token event first last) s)
      (run ((k.sized size').scanLogs token event first last) s') := by
  have hpeers (n : Nat) (t : Session σ) :
      rel t.peers (run ((k.sized n).scanLogs token event first last) t).2.peers :=
    ((k.sized n).guarded_windowLogs_of token (fun _ => rel)
      (fun q p => hrel.logs p q) _ _).relates hrel.equiv.refl hrel.equiv.trans t
  rcases (k.sized size).run_scanLogs token ho htwins.serves event first last with
    ⟨t, hr, hp⟩ | hstopped
  · rcases (k.sized size').run_scanLogs token ho htwins.serves' event first last with
      ⟨t', hr', hp'⟩ | hstopped
    · -- the peers have been asked for different logs, but nothing else
      have ht := hpeers size s
      have ht' := hpeers size' s'
      have hc := ((k.sized size).guarded_scanLogs token event first last).checkpoints s
      have hc' := ((k.sized size').guarded_scanLogs token event first last).checkpoints s'
      rw [hr] at ht hc ⊢
      rw [hr'] at ht' hc' ⊢
      refine .same ⟨?_, htwins.serves.after hp, htwins.serves'.after hp', ?_⟩
      · exact hrel.equiv.trans (hrel.equiv.symm ht) (hrel.equiv.trans htwins.peers ht')
      · exact hc.trans (htwins.checkpoints.trans hc'.symm)
    · exact .stopped (.inr hstopped)
  · exact .stopped (.inl hstopped)

theorem alike_keepCommitted (height : Nat) (ps : List Packet) :
    Alike rel store token (run ((k.sized size).keepCommitted token height ps) s)
      (run ((k.sized size').keepCommitted token height ps) s') := by
  induction ps generalizing s s' with
  | nil => exact .same htwins
  | cons p ps ih =>
    refine .bind (.bind (alike_call hrel htwins _ _ _) fun answer t t' ht => .same ht) ?_
    intro c t t' ht
    exact .bind (ih ht) fun more t t' ht => .same ht

theorem alike_candidates (ho : Ordered store) (d : Direction) (first last : Nat) :
    Alike rel store token (run ((k.sized size).candidates token d first last) s)
      (run ((k.sized size').candidates token d first last) s') := by
  cases d with
  | sent =>
    refine .bind (alike_scanLogs hrel htwins k size size' ho _ first last) fun logs t t' ht => ?_
    refine .bind (.same ht) fun sent t t' ht => ?_
    exact alike_keepCommitted hrel ht k size size' last sent
  | received =>
    refine .bind (alike_scanLogs hrel htwins k size size' ho _ first last) fun logs t t' ht => ?_
    refine .bind (.same ht) fun received t t' ht => ?_
    cases Packet.earliestHeight? received with
    | none => exact .same ht
    | some earliest =>
      refine .bind (alike_scanLogs hrel ht k size size' ho _ earliest last) fun logs t t' ht => ?_
      exact .bind (.same ht) fun written t t' ht => .same ht

omit k size size'

theorem alike_keepUnreceived (d : Direction) (found : List Packet) :
    Alike rel store token (run (keepUnreceived token d found) s)
      (run (keepUnreceived token d found) s') := by
  cases found with
  | nil => exact .same htwins
  | cons p found =>
    refine .bind (alike_askCounterparty hrel htwins .latestFinalizedHeight) fun height t t' ht => ?_
    refine .bind ?_ fun listed t t' ht => .same ht
    cases d with
    | sent => exact alike_askCounterparty hrel ht _
    | received => exact alike_askCounterparty hrel ht _

omit hrel

theorem alike_loadCheckpoint (d : Direction) :
    Alike rel store token (run (loadCheckpoint d) s) (run (loadCheckpoint d) s') := by
  rw [loadCheckpoint, run_step, run_step, htwins.checkpoints]
  exact .same htwins

theorem alike_advanceCheckpoint (d : Direction) (height : Nat) :
    Alike rel store token (run (advanceCheckpoint d height) s)
      (run (advanceCheckpoint d height) s') := by
  rw [run_advanceCheckpoint, run_advanceCheckpoint, htwins.checkpoints]
  exact .same ⟨htwins.peers, htwins.serves, htwins.serves', rfl⟩

include hrel

theorem alike_unrelayed (ho : Ordered store) (k : Scanner) (size size' : Nat) (d : Direction)
    (target : Nat) : Alike rel store token (run ((k.sized size).unrelayed token d target) s)
      (run ((k.sized size').unrelayed token d target) s') := by
  refine .bind (alike_loadCheckpoint htwins d) fun m t t' ht => ?_
  by_cases hlt : target < m
  · rw [if_pos hlt, if_pos hlt]
    exact .same ht
  · rw [if_neg hlt, if_neg hlt]
    refine .bind (alike_candidates hrel ht k size size' ho d m target) fun found t t' ht => ?_
    refine .bind (alike_keepUnreceived hrel ht d found) fun ps t t' ht => ?_
    exact .bind (alike_advanceCheckpoint ht d _) fun _ t t' ht => .same ht

end

/-! ## Windows of any size -/

/-- In windows as large as the number of all blocks up to its end, a range is read at once. -/
theorem scanWindows_single {first last : Nat} (h : first ≤ last) :
    scanWindows first last (last + 1) = [(first, last)] := scanWindows_final h (by omega)

variable {rel : σ → σ → Prop} {store : List Log} {token : CancelToken} {s : Session σ}

/-- **Windows are invisible.**  Over a store whose logs are answered exactly, and with peers that
    overlook which logs have been asked for, a scan gives what the node answers to one query for the
    whole range, in windows of any size; searches in windows of any two sizes find the same packets,
    and leave the same checkpoints.  One of these sizes makes each scan a single query. -/
theorem windows_invisible (hrel : Overlooks rel) (ho : Ordered store) (hserves : Serves store s.peers)
    (k : Scanner) (token : CancelToken) (size size' : Nat) :
    (∀ event first last,
      (run ((k.sized size).scanLogs token event first last) s).1 =
          ((Node.reply (.logs ⟨k.contract, event.topic, first, last⟩) s.peers).1.mapError .ofNode :
            Except DiscoveryError (List Log)) ∨
        Stopped token (run ((k.sized size).scanLogs token event first last) s)) ∧
    (∀ first last, first ≤ last → scanWindows first last (last + 1) = [(first, last)]) ∧
    (∀ d first last, Agree token (run ((k.sized size).candidates token d first last) s)
      (run ((k.sized size').candidates token d first last) s)) ∧
    ∀ d target, Agree token (run ((k.sized size).unrelayed token d target) s)
      (run ((k.sized size').unrelayed token d target) s) := by
  have htwins : Twins rel store s s := ⟨hrel.equiv.refl _, hserves, hserves, rfl⟩
  refine ⟨fun event first last => ?_, fun _ _ => scanWindows_single, fun d first last => ?_,
    fun d target => ?_⟩
  · refine ((k.sized size).run_scanLogs token ho hserves event first last).imp_left ?_
    rintro ⟨t, hr, -⟩
    rw [hr, hserves _ .refl, filter_asks]
    rfl
  · exact (alike_candidates hrel htwins k size size' ho d first last).agree
  · exact (alike_unrelayed hrel htwins ho k size size' d target).agree

namespace Sample

theorem overlooks_scripted : Overlooks (σ := ScriptedPeers) (· = ·) := by
  refine overlooks_eq fun p q => ?_
  simp only [Node.reply, ScriptedNode.reply]
  split <;> rfl

end Sample

/-- In windows of three blocks the packet is found as well. -/
theorem windows_invisible_three :
    Overlooks (σ := ScriptedPeers) (· = ·) ∧ Ordered Sample.sentPeers.node.logs ∧
    Serves Sample.sentPeers.node.logs Sample.sentPeers ∧
    (run ((Sample.scanner.sized 3).unrelayed (Sample.sentTurns 0).token .sent
      (Sample.sentTurns 0).target) ((Sample.sentTurns 0).session Sample.fresh)).1 =
        .ok [Sample.sentPacket] ∧
    (run ((Sample.scanner.sized 3).unrelayed (Sample.sentTurns 0).token .sent
      (Sample.sentTurns 0).target) ((Sample.sentTurns 0).session Sample.fresh)).2.checkpoints.load
        .sent = .ok 10 := by
  have hordered : Ordered Sample.sentPeers.node.logs := List.pairwise_singleton _ _
  have hserves : Serves Sample.sentPeers.node.logs ((Sample.sentTurns 0).session Sample.fresh).peers :=
    serves_scripted Sample.prompt_sentPeers
  have hsized : Sample.scanner.sized 1000 = Sample.scanner := rfl
  obtain ⟨-, -, -, hsame⟩ := windows_invisible Sample.overlooks_scripted hordered hserves
    Sample.scanner (Sample.sentTurns 0).token 3 1000
  obtain ⟨hresult, hcheckpoints⟩ :=
    Sample.run_sentTurns (c := Sample.fresh) (m := 1) 0 (by decide) rfl rfl
  have hload : (Sample.fresh.advance .sent 10).2.load .sent = .ok 10 := by rfl
  obtain ⟨hr, hc⟩ | ⟨hfires, -⟩ | ⟨hfires, -⟩ := hsame .sent (Sample.sentTurns 0).target
  · rw [hsized, hresult] at hr
    rw [hsized, hcheckpoints] at hc
    exact ⟨Sample.overlooks_scripted, hordered, hserves, hr, by rw [hc, hload]⟩
  · exact absurd rfl hfires
  · exact absurd rfl hfires

end Scanner

end PacketRelay
