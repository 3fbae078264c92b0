/-
  Operations that are cancelled.

  * `halts_unrelayed`: a search halts when its token fires, and writes no record then;
  * `fired_token_halts`: so does every operation of a scanner and of a sender.
-/
import PacketRelay.Proofs.Delivery.Guarded
import PacketRelay.Proofs.Discovery.Call
import PacketRelay.Proofs.Discovery.Guarded
import PacketRelay.Proofs.Discovery.Window
import PacketRelay.Proofs.Session.Halting
import PacketRelay.Scripted

namespace PacketRelay

open Session

variable {σ : Type} [Node σ] [Counterparty σ] {token : CancelToken} {t : Instant}
  {reason : CancelReason}

/-! ## Searches -/

namespace Scanner

variable (k : Scanner)

/-- What a search finds before it moves its checkpoint. -/
def search (token : CancelToken) (d : Direction) (first last : Nat) :
    Run σ DiscoveryError (List Packet) := do
  let found ← k.candidates token d first last
  keepUnreceived token d found

theorem guarded_search (d : Direction) (first last : Nat) :
    Guarded (σ := σ) token Asking .cancelled (k.search token d first last) :=
  .bind (k.guarded_candidates token d first last) fun _ => guarded_keepUnreceived token d _

/-- A search does nothing, or ends as what it finds does, or moves its checkpoint after it. -/
theorem run_unrelayed_cases (token : CancelToken) (d : Direction) (target : Nat) (s : Session σ) :
    (∃ r, run (k.unrelayed token d target) s = (r, s)) ∨
    ∃ m ≤ target,
      (∃ e s', run (k.search token d m target) s = (.error e, s') ∧
        run (k.unrelayed token d target) s = (.error e, s')) ∨
      (∃ ps s' r c, run (k.search token d m target) s = (.ok ps, s') ∧
        run (k.unrelayed token d target) s = (r, { s' with checkpoints := c })) := by
  cases hm : s.checkpoints.load d with
  | error e => exact .inl ⟨_, run_bind_of_error (run_loadCheckpoint_error hm)⟩
  | ok m =>
    by_cases hlt : target < m
    · refine .inl ⟨.ok [], ?_⟩
      rw [unrelayed, run_bind_of_ok (run_loadCheckpoint_ok hm), if_pos hlt, run_pure]
    · have hrun : run (k.unrelayed token d target) s =
          run (k.search token d m target >>= fun ps => do
            let _ ← advanceCheckpoint d (nextCheckpoint target ps)
            pure ps) s := by
        rw [unrelayed, run_bind_of_ok (run_loadCheckpoint_ok hm), if_neg hlt, search, bind_assoc]
      refine .inr ⟨m, Nat.le_of_not_lt hlt, ?_⟩
      rcases hs : run (k.search token d m target) s with ⟨e | ps, s'⟩
      · exact .inl ⟨e, s', rfl, hrun.trans (run_bind_of_error hs)⟩
      · rcases hmove : s'.checkpoints.advance d (nextCheckpoint target ps) with ⟨moved, c⟩
        refine .inr ⟨ps, s', (moved.mapError .storage).map fun _ => ps, c, rfl, ?_⟩
        rw [hrun, run_bind_of_ok hs, run_bind, run_advanceCheckpoint, hmove]
        cases moved <;> rfl

section
omit [Counterparty σ]

theorem run_query_refused {s : Session σ} {reason : CancelReason}
    (h : token.check s.now = some reason) (q : Query) :
    run (query token q) s = (.error (.cancelled reason), s) := by
  rw [query, run_adapt, ask_eq_call, run_call_refused h]
  rfl

/-- A range that is not empty is not searched once the token has fired. -/
theorem run_scanLogs_refused {s : Session σ} {reason : CancelReason}
    (h : token.check s.now = some reason) (event : Contract.Event) {first last : Nat}
    (hle : first ≤ last) :
    run (k.scanLogs token event first last) s = (.error (.cancelled reason), s) := by
  obtain ⟨w, ws, hws⟩ := List.exists_cons_of_ne_nil (tiles_scanWindows hle k.blocksPerQuery).ne_nil
  rw [scanLogs, hws]
  exact run_bind_of_error (run_query_refused h _)

theorem run_candidates_refused {s : Session σ} {reason : CancelReason}
    (h : token.check s.now = some reason) (d : Direction) {first last : Nat} (hle : first ≤ last) :
    run (k.candidates token d first last) s = (.error (.cancelled reason), s) := by
  cases d with
  | sent => exact run_bind_of_error (k.run_scanLogs_refused h _ hle)
  | received => exact run_bind_of_error (k.run_scanLogs_refused h _ hle)

end

/-- A search halts when its token fires. -/
theorem halts_unrelayed (h : token.firing? = some (t, reason)) (d : Direction) (target : Nat) :
    Halts t (.cancelled reason) (k.unrelayed (σ := σ) token d target) := by
  have hsearch := fun m => (k.guarded_search (σ := σ) d m target).halts h
  constructor
  · intro s
    rcases k.run_unrelayed_cases token d target s with
      ⟨r, hr⟩ | ⟨m, -, ⟨e, s', hs, hr⟩ | ⟨ps, s', r, c, hs, hr⟩⟩
    · exact ⟨[], by rw [hr, List.append_nil], by simp⟩
    all_goals
      have hcalls := (hsearch m).calls s
      rw [hs] at hcalls
      rw [hr]
      exact hcalls
  · intro s hlt
    rcases k.run_unrelayed_cases token d target s with
      ⟨r, hr⟩ | ⟨m, -, ⟨e, s', hs, hr⟩ | ⟨ps, s', r, c, hs, hr⟩⟩
    · rw [hr]
      exact .inl hlt
    · have hends := (hsearch m).ends s hlt
      rw [hs] at hends
      rwa [hr]
    · -- what has found packets has done so before the token fired
      have hends := (hsearch m).ends s hlt
      rw [hs] at hends
      rw [hr]
      exact .inl (hends.resolve_right fun ⟨_, he, _⟩ => by cases he)
  · intro s hle
    rcases k.run_unrelayed_cases token d target s with
      ⟨r, hr⟩ | ⟨m, hm, ⟨e, s', hs, hr⟩ | ⟨ps, s', r, c, hs, hr⟩⟩
    · rw [hr]
      exact ⟨rfl, rfl, fun _ => rfl⟩
    · have hlate := (hsearch m).late s hle
      rw [hs] at hlate
      rwa [hr]
    · obtain ⟨reason', hc⟩ := CancelToken.exists_check_of_le h hle
      cases hs.symm.trans (run_bind_of_error (k.run_candidates_refused hc d hm))

end Scanner

/-! ## All operations -/

/-- **Every operation halts when its token fires**: no call is made from that instant on, and what is
    still running then ends at that very instant with the reason, both records being what they were
    when it began. -/
theorem fired_token_halts (k : Scanner) (s : Sender) (h : token.firing? = some (t, reason)) :
    (∀ target, Halts t (.cancelled reason) (k.unrelayedPackets (σ := σ) token target)) ∧
    (∀ target, Halts t (.cancelled reason) (k.unrelayedAcknowledgements (σ := σ) token target)) ∧
    (∀ height, Halts t (.cancelled reason) (k.isChannelOpen (σ := σ) token height)) ∧
    (∀ nonce, Halts t (.cancelled reason) (s.gasPricing (σ := σ) token nonce)) ∧
    (∀ hash, Halts t (.cancelled reason) (s.waitForReceipt (σ := σ) token hash)) ∧
    (∀ r, Halts t (.cancelled reason) (s.sendTransaction (σ := σ) token r)) ∧
    (∀ hash since, Halts t (.cancelled reason) (s.replaceStuck (σ := σ) token hash since)) :=
  ⟨fun target => k.halts_unrelayed h .sent target,
    fun target => k.halts_unrelayed h .received target,
    fun height => (k.guarded_isChannelOpen token height).halts h,
    fun nonce => (Delivery.guarded_gasPricing s.settings s.account.address nonce).halts h,
    fun hash => (s.guarded_waitForReceipt hash).halts h,
    fun r => (s.guarded_sendTransaction r).halts h,
    fun hash since => (s.guarded_replaceStuck hash since).halts h⟩

namespace Sample

/-- A sender that looks for a receipt every three seconds. -/
def poller : Sender := ⟨.readable (.zero 20) 1 none, ⟨[]⟩, .default⟩

/-- A session with a node that never has a receipt. -/
def pollerSession : Session ScriptedPeers := ⟨{}, 0, [], ⟨.memory [], 1, 1⟩, false⟩

/-- The signal is given in the pause after the second look. -/
def afterSecondLook : CancelToken := ⟨some 4000, some 5000⟩

end Sample

/-- The wait for a receipt that does not come, cut short in a pause. -/
theorem fired_token_halts_waiting :
    Sample.afterSecondLook.firing? = some (4000, .cancelled) ∧
    (run (Sample.poller.waitForReceipt Sample.afterSecondLook (.zero 32)) Sample.pollerSession).1 =
      .error (.cancelled .cancelled) ∧
    (run (Sample.poller.waitForReceipt Sample.afterSecondLook (.zero 32))
      Sample.pollerSession).2.now = 4000 ∧
    (run (Sample.poller.waitForReceipt Sample.afterSecondLook (.zero 32))
      Sample.pollerSession).2.calls.map Prod.fst = [0, 3000] := by
  have hfires : Sample.afterSecondLook.firing? = some (4000, .cancelled) := rfl
  have hhalts := (fired_token_halts (σ := ScriptedPeers) ⟨.zero 20, ⟨⟨"", ""⟩, ⟨"", ""⟩⟩, 1⟩
    Sample.poller hfires).2.2.2.2.1 (.zero 32)
  have hnow : (run (Sample.poller.waitForReceipt Sample.afterSecondLook (.zero 32))
      Sample.pollerSession).2.now = 4000 := rfl
  rcases hhalts.ends Sample.pollerSession (by decide) with hlt | ⟨-, hend, -⟩
  · rw [hnow] at hlt
    cases Nat.lt_irrefl 4000 hlt
  · exact ⟨hfires, hend, hnow, rfl⟩

end PacketRelay
