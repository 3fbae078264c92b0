/-
  What one search for packets does.

  * `Called` says all that a search can do, and `called_unrelayed` that it does this;
  * `unrelayed_fail_closed`: a search that fails keeps both records, and one that succeeds keeps the
    record of the other direction.
-/
import PacketRelay.Proofs.Discovery.Guarded
import PacketRelay.Proofs.Storage.Checkpoint
import PacketRelay.Scripted

namespace PacketRelay.Scanner

open Session

variable {σ : Type} [Node σ] [Counterparty σ] (k : Scanner) (token : CancelToken)

/-! ## Checkpoints -/

section
omit [Node σ] [Counterparty σ]

theorem run_loadCheckpoint_ok {d : Direction} {s : Session σ} {m : Nat}
    (h : s.checkpoints.load d = .ok m) :
    run (loadCheckpoint d : Run σ DiscoveryError Nat) s = (.ok m, s) := by
  rw [loadCheckpoint, run_step, h]
  rfl

theorem run_loadCheckpoint_error {d : Direction} {s : Session σ} {e : StorageError}
    (h : s.checkpoints.load d = .error e) :
    run (loadCheckpoint d : Run σ DiscoveryError Nat) s = (.error (.storage e), s) := by
  rw [loadCheckpoint, run_step, h]
  rfl

theorem run_advanceCheckpoint (d : Direction) (height : Nat) (s : Session σ) :
    run (advanceCheckpoint d height : Run σ DiscoveryError Nat) s =
      ((s.checkpoints.advance d height).1.mapError .storage,
        { s with checkpoints := (s.checkpoints.advance d height).2 }) := rfl

end

/-! ## A search -/

/-- What a search up to a target can do to the checkpoints: fail and keep them, do nothing because
    the checkpoint lies beyond the target, or move the checkpoint on after it has found packets and
    kept some of them. -/
inductive Called (d : Direction) (target : Nat) (s : Session σ) :
    Except DiscoveryError (List Packet) → Checkpoints → Prop
  | failed (e : DiscoveryError) {c : Checkpoints} : (∀ d', s.checkpoints.Keeps c d') →
      (s.checkpoints.storage.Settled → c.storage.Settled) → Called d target s (.error e) c
  | idle {m : Nat} : s.checkpoints.load d = .ok m → target < m →
      Called d target s (.ok []) s.checkpoints
  | found {m : Nat} {found ps : List Packet} {s₁ s₂ : Session σ} : s.checkpoints.load d = .ok m →
      m ≤ target → run (k.candidates token d m target) s = (.ok found, s₁) →
      run (keepUnreceived token d found) s₁ = (.ok ps, s₂) →
      (s.checkpoints.advance d (nextCheckpoint target ps)).1 =
        .ok (max m (nextCheckpoint target ps)) →
      Called d target s (.ok ps) (s.checkpoints.advance d (nextCheckpoint target ps)).2

/-- **What a search does.** -/
theorem called_unrelayed (d : Direction) (target : Nat) (s : Session σ) :
    k.Called token d target s (run (k.unrelayed token d target) s).1
      (run (k.unrelayed token d target) s).2.checkpoints := by
  rw [unrelayed, run_bind]
  cases hm : s.checkpoints.load d with
  | error e =>
    rw [run_loadCheckpoint_error hm]
    exact .failed _ (fun d' => .refl _ d') id
  | ok m =>
    rw [run_loadCheckpoint_ok hm, continued_ok]
    split_ifs with hlt
    · exact .idle hm hlt
    · rw [run_bind]
      have hc := (k.guarded_candidates token d m target).checkpoints s
      rcases hfound : run (k.candidates token d m target) s with ⟨e | found, s₁⟩
      · rw [hfound] at hc
        exact .failed e (fun d' => hc ▸ .refl _ d') fun h => hc ▸ h
      · rw [hfound] at hc
        rw [continued_ok, run_bind]
        have hk := (guarded_keepUnreceived token d found).checkpoints s₁
        rcases hps : run (keepUnreceived token d found) s₁ with ⟨e | ps, s₂⟩
        · rw [hps] at hk
          exact .failed e (fun d' => hc ▸ hk ▸ .refl _ d') fun h => hk ▸ hc ▸ h
        · -- only here something is written
          rw [hps] at hk
          have hs₂ : s₂.checkpoints = s.checkpoints := hk.trans hc
          rw [continued_ok, run_bind, run_advanceCheckpoint, hs₂]
          rcases (s.checkpoints.moved_advance d (nextCheckpoint target ps)).of_load hm with
            ⟨e, he, hkeep⟩ | ⟨hok, -⟩
          · rw [he]
            exact .failed _ hkeep (Checkpoints.settled_advance d _)
          · rw [hok]
            exact .found hm (Nat.le_of_not_lt hlt) hfound hps hok

/-- A search leaves a settled storage settled. -/
theorem settled_of_called {d : Direction} {target : Nat} {s : Session σ}
    {r : Except DiscoveryError (List Packet)} {c : Checkpoints} (h : k.Called token d target s r c)
    (hs : s.checkpoints.storage.Settled) : c.storage.Settled := by
  cases h with
  | failed _ _ hsettled => exact hsettled hs
  | idle => exact hs
  | found => exact Checkpoints.settled_advance d _ hs

/-- A search that fails keeps both checkpoints. -/
theorem keeps_of_error {d : Direction} {target : Nat} {s s' : Session σ} {e : DiscoveryError}
    (h : run (k.unrelayed token d target) s = (.error e, s')) (d' : Direction) :
    s.checkpoints.Keeps s'.checkpoints d' := by
  have := k.called_unrelayed token d target s
  rw [h] at this
  cases this with
  | failed _ hk _ => exact hk d'

/-- A search that succeeds keeps the checkpoint of the other direction. -/
theorem keeps_other_of_ok {d d' : Direction} {target : Nat} {s s' : Session σ} {ps : List Packet}
    (h : run (k.unrelayed token d target) s = (.ok ps, s')) (hd : d' ≠ d) :
    s.checkpoints.Keeps s'.checkpoints d' := by
  have hc := k.called_unrelayed token d target s
  rw [h] at hc
  generalize hr : (Except.ok ps : Except DiscoveryError (List Packet)) = r at hc
  generalize hs : s'.checkpoints = c at hc ⊢
  cases hc with
  | failed => cases hr
  | idle => exact .refl _ d'
  | found hm _ _ _ hok =>
    rcases (s.checkpoints.moved_advance d _).of_load hm with ⟨e, he, -⟩ | ⟨-, -, hk⟩
    · rw [hok] at he
      cases he
    · exact hk d' hd

/-- **A search is fail-closed.** When it fails the records of both directions are what they were,
    and when it succeeds the record of the other direction is; what is read of them is the same too
    unless the folder of the records has to be created first. -/
theorem unrelayed_fail_closed (d : Direction) (target : Nat) (s : Session σ) :
    match run (k.unrelayed token d target) s with
    | (.error _, s') => ∀ d' : Direction,
      s'.checkpoints.storage.record d' = s.checkpoints.storage.record d' ∧
        (s.checkpoints.storage.Settled → s'.checkpoints.load d' = s.checkpoints.load d')
    | (.ok _, s') =>
      s'.checkpoints.storage.record d.other = s.checkpoints.storage.record d.other ∧
        (s.checkpoints.storage.Settled →
          s'.checkpoints.load d.other = s.checkpoints.load d.other) := by
  rcases h : run (k.unrelayed token d target) s with ⟨e | ps, s'⟩
  · intro d'
    have hk := k.keeps_of_error token h d'
    exact ⟨hk.record, hk.load⟩
  · have hd : d.other ≠ d := by cases d <;> decide
    have hk := k.keeps_other_of_ok token h hd
    exact ⟨hk.record, hk.load⟩

/-! ### A search that fails at its end -/

/-- A channel of the contract at address one. -/
def watched : Scanner :=
  ⟨⟨List.replicate 19 0 ++ [1], rfl⟩, ⟨⟨"transfer", "channel-0"⟩, ⟨"transfer", "channel-1"⟩⟩, 1000⟩

/-- Nothing has been sent, and the checkpoint cannot be recorded: a folder stands where the file
    beside the record belongs. -/
def refused : Session ScriptedPeers where
  peers := {}
  now := 0
  calls := []
  checkpoints :=
    { storage := .directory ⟨"data"⟩
        (.folder [("data", .folder [("send.tmp", .empty), ("recv", .file [0x37])])])
      initialSent := 1
      initialReceived := 1 }
  channelOpen := false

/-- The logs are read, but the checkpoint is not moved. -/
theorem unrelayed_fail_closed_refused :
    refused.checkpoints.storage.Settled ∧
    (run (watched.unrelayed .never .sent 5) refused).1 = .error (.storage (.backend .isFolder)) ∧
    (run (watched.unrelayed .never .sent 5) refused).2.calls.length = 1 ∧
    (run (watched.unrelayed .never .sent 5) refused).2.checkpoints.load .sent = .ok 1 ∧
    (run (watched.unrelayed .never .sent 5) refused).2.checkpoints.load .received = .ok 7 := by
  have hlocate : (FileTree.folder [("data",
      .folder [("send.tmp", .empty), ("recv", .file [0x37])])]).locate ⟨"data"⟩ = .ok ["data"] := rfl
  have hsettled : refused.checkpoints.storage.Settled := Storage.settled_of_locate hlocate
  have hfails : (run (watched.unrelayed .never .sent 5) refused).1 =
      .error (.storage (.backend .isFolder)) := rfl
  have hcalls : (run (watched.unrelayed .never .sent 5) refused).2.calls.length = 1 := rfl
  have hclosed := watched.unrelayed_fail_closed .never .sent 5 refused
  generalize run (watched.unrelayed .never .sent 5) refused = out at hfails hcalls hclosed ⊢
  obtain ⟨result, s'⟩ := out
  obtain rfl : result = .error (.storage (.backend .isFolder)) := hfails
  exact ⟨hsettled, rfl, hcalls, (hclosed .sent).2 hsettled, (hclosed .received).2 hsettled⟩

end PacketRelay.Scanner
