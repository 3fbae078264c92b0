/-
  Receipts of failed transactions.

  Whatever follows a transaction first obtains a receipt, and then takes it as the outcome.

  * `Task` is what a sender can do with a transaction, `perform` does it, and `obtain` goes only as
    far as to the receipt;
  * `perform_eq`: to perform a task is to obtain a receipt and to judge it;
  * `perform_failed`: a failed receipt becomes an error that says why the transaction has failed,
    and loses nothing of what it has returned.
-/
import PacketRelay.Proofs.Delivery.Guarded
import PacketRelay.Proofs.Delivery.Polling
import PacketRelay.Proofs.Text.Hexadecimal

namespace PacketRelay

open Session

variable {σ : Type}

/-- The receipt with which a watch has ended. -/
def ReplacementOutcome.receipt? : ReplacementOutcome → Option Receipt
  | mined => none
  | replaced r => some r

namespace Sender

open Delivery

/-! ## Tasks -/

/-- What a sender can do with a transaction. -/
inductive Task where
  /-- Wait for the receipt of a transaction. -/
  | await (hash : Hash)
  /-- Send a signed transaction. -/
  | post (raw : Bytes)
  /-- Complete and send a request. -/
  | send (r : TransactionRequest)
  /-- Watch a transaction and replace it when it is stuck. -/
  | replace (hash : Hash) (since : Instant)

section
variable [Node σ] (s : Sender) (token : CancelToken)

/-- Performs a task; none when a transaction has been included before it was replaced. -/
def perform : Task → Run σ DeliveryError (Option Receipt)
  | .await hash => some <$> s.waitForReceipt token hash
  | .post raw => some <$> s.sendAndWait token raw
  | .send r => some <$> s.sendTransaction token r
  | .replace hash since => ReplacementOutcome.receipt? <$> s.replaceStuck token hash since

/-- Looks for a receipt and, where there is none, `left` more times.  The receipt is not judged. -/
def poll (hash : Hash) : (left : Nat) → Run σ DeliveryError Receipt
  | 0 => do
    match ← lookForReceipt token hash with
    | .ok r => pure r
    | .error e => throw e
  | left + 1 => do
    match ← lookForReceipt token hash with
    | .ok r => pure r
    | .error _ => do
      rest token s.settings.receipt.intervalSecs
      poll hash left

/-- Sends a signed transaction and looks for its receipt. -/
def post (raw : Bytes) : Run σ DeliveryError Receipt := do
  let hash : Hash ← submit token raw
  s.poll token hash (s.settings.receipt.attempts - 1)

omit s in
/-- Watches a transaction until it is stuck; none when it is no longer pending. -/
def awaitStuck (r : ReplaceSettings) (positive : r.checkSecs ≠ 0) (hash : Hash)
    (since instant : Instant) : Run σ DeliveryError (Option Transaction) := do
  match ← lookAt token hash instant with
  | none => pure none
  | some t => do
    let time ← nowFrom instant
    if _ : time - since ≤ seconds r.pendingSecs then
      awaitStuck r positive hash since (instant + seconds r.checkSecs)
    else pure (some t)
termination_by since + seconds r.pendingSecs + 1 - instant
decreasing_by exact left_lt (Nat.pos_of_ne_zero positive) time.2 ‹_›

/-- Replaces a stuck transaction and looks for the receipt. -/
def postBumped (b : FeeBounds) : Option Transaction → Run σ DeliveryError (Option Receipt)
  | none => pure none
  | some t => do
    let request ← lift (bumpFees t b)
    let raw ← s.sign request
    some <$> s.post token raw

/-- A task up to the receipt, which is not judged. -/
def obtain : Task → Run σ DeliveryError (Option Receipt)
  | .await hash => some <$> s.poll token hash (s.settings.receipt.attempts - 1)
  | .post raw => some <$> s.post token raw
  | .send r => do
    let nonce ← s.nonceFor token r
    let gas ← lift (s.gasFor r)
    let pricing ← s.gasPricing token (some nonce)
    let raw ← s.sign (r.completed nonce gas pricing)
    some <$> s.post token raw
  | .replace hash since => do
    match s.settings.replace with
    | none => throw (.configuration .noReplacement)
    | some r =>
      if zero : r.checkSecs = 0 then throw (.configuration .zeroInterval)
      else if clockLimit ≤ r.checkSecs then throw .clockOverflow
      else do
        let start ← now
        let stuck ← awaitStuck token r zero hash since (start + seconds r.checkSecs)
        s.postBumped token r.bounds stuck

/-- Judges a receipt, if there is one. -/
def judge : Option Receipt → Run σ DeliveryError (Option Receipt)
  | none => pure none
  | some r => some <$> s.checkReceipt token r

theorem pollReceipt_eq (hash : Hash) (left : Nat) :
    (s.pollReceipt token hash left : Run σ _ _) =
      s.poll token hash left >>= s.checkReceipt token := by
  induction left with
  | zero =>
    rw [pollReceipt, poll, bind_assoc]
    refine bind_congr fun found => ?_
    rcases found with e | r
    · rfl
    · simp only [pure_bind]
  | succ left ih =>
    rw [pollReceipt, poll, bind_assoc]
    refine bind_congr fun found => ?_
    rcases found with e | r
    · simp only [ih, bind_assoc]
    · simp only [pure_bind]

theorem sendAndWait_eq (raw : Bytes) :
    (s.sendAndWait token raw : Run σ _ _) = s.post token raw >>= s.checkReceipt token := by
  rw [sendAndWait, post, bind_assoc]
  exact bind_congr fun hash => pollReceipt_eq s token hash _

theorem map_some_judge (x : Run σ DeliveryError Receipt) :
    (some <$> (x >>= s.checkReceipt token) : Run σ _ _) = some <$> x >>= s.judge token := by
  rw [map_bind, bind_map_left]
  rfl

theorem finish_eq (t : Transaction) (b : FeeBounds) :
    (ReplacementOutcome.receipt? <$> s.finish token t b : Run σ _ _) =
      s.postBumped token b (some t) >>= s.judge token := by
  simp only [finish, replace, postBumped, map_bind, bind_assoc, sendAndWait_eq, map_pure,
    bind_map_left]
  rfl

/-- A watch waits until the transaction is stuck, and then replaces it. -/
theorem watch_eq (r : ReplaceSettings) (positive : r.checkSecs ≠ 0) (hash : Hash)
    (since instant : Instant) :
    (ReplacementOutcome.receipt? <$> s.watch r positive token hash since instant : Run σ _ _) =
      awaitStuck token r positive hash since instant >>= s.postBumped token r.bounds >>=
        s.judge token := by
  induction instant using watch_induction positive since with
  | look instant ih =>
    rw [watch, awaitStuck, map_bind, bind_assoc, bind_assoc]
    refine bind_congr fun found => ?_
    cases found with
    | none => rfl
    | some t =>
      simp only [map_bind, bind_assoc]
      refine bind_congr fun time => ?_
      by_cases hwaiting : time - since ≤ seconds r.pendingSecs
      · simp only [hwaiting, ↓reduceDIte]
        simpa only [bind_assoc] using ih time time.2 hwaiting
      · simp only [hwaiting, ↓reduceDIte, pure_bind]
        exact finish_eq s token t r.bounds

/-- To perform a task is to obtain a receipt and to judge it. -/
theorem perform_eq (task : Task) :
    (s.perform token task : Run σ _ _) = s.obtain token task >>= s.judge token := by
  cases task with
  | await hash =>
    rw [perform, waitForReceipt, pollReceipt_eq, map_some_judge]
    rfl
  | post raw =>
    rw [perform, sendAndWait_eq, map_some_judge]
    rfl
  | send r =>
    simp only [perform, obtain, sendTransaction, map_bind, bind_assoc, sendAndWait_eq,
      bind_map_left]
    rfl
  | replace hash since =>
    rw [perform, obtain, replaceStuck]
    cases s.settings.replace with
    | none => rfl
    | some r =>
      by_cases hzero : r.checkSecs = 0
      · simp only [hzero, ↓reduceDIte]
        rfl
      · simp only [hzero, ↓reduceDIte]
        split
        · rfl
        · rw [map_bind, bind_assoc]
          exact bind_congr fun start => watch_eq s token r hzero hash since _

/-! ## Failed receipts -/

omit [Node σ] in
/-- What is said of an answer about a failed transaction: what the contract meant, if its error is
    known, and otherwise the bytes in a form that can be read back. -/
inductive Accounts (errors : ErrorCatalog) : Except NodeError (Option Bytes) → String → Prop
  | decoded {data : Bytes} {text : String} : errors.decodeText data = .ok text →
    Accounts errors (.ok (some data)) text
  | raw {data : Bytes} {e : RevertError} {digits : String} : errors.decodeText data = .error e →
    Hex.decodeText ("0x" ++ digits) = .ok data → Accounts errors (.ok (some data)) ("0x" ++ digits)
  | absent : Accounts errors (.ok none) noReason
  | failed {e : NodeError} : (∀ reason, e ≠ .cancelled reason) →
    Accounts errors (.error e) (noReason ++ ": " ++ e.message)

/-- What comes of a failed receipt: an error that gives an account of it, unless the query for it is
    cancelled. -/
inductive Fails (r : Receipt) (y : Session σ) :
    Except DeliveryError (Option Receipt) × Session σ → Prop
  /-- The token has fired. -/
  | refused {reason : CancelReason} : token.check y.now = some reason →
    Fails r y (.error (.cancelled reason), y)
  /-- The token fires before the node has answered. -/
  | stopped {instant : Instant} {reason : CancelReason} :
    token.interruption? y.now (Node.delay y.peers (reasonQuery r)) = some (instant, reason) →
    Fails r y (.error (.cancelled reason), { y.record (.node (reasonQuery r)) with now := instant })
  /-- The node gives the query up. -/
  | cancelled {reason : CancelReason} : revertAnswer r y = .error (.cancelled reason) →
    Fails r y (.error (.cancelled reason), y.asked (reasonQuery r))
  | reverted {reason : String} : Accounts s.errors (revertAnswer r y) reason →
    Fails r y (.error (.reverted r.transactionHash reason), y.asked (reasonQuery r))

variable {s token} {r : Receipt} {y y' : Session σ}

omit [Node σ] in
theorem accounts_reasonIn (errors : ErrorCatalog) (data : Bytes) :
    Accounts errors (.ok (some data)) (reasonIn errors data) := by
  rw [reasonIn]
  cases hdecode : errors.decodeText data with
  | ok text => exact .decoded hdecode
  | error e => exact .raw hdecode (Hex.decodeText_text data)

theorem run_judge_cancelled (hfailed : ¬ r.success) {reason : CancelReason}
    (hask : run (ask token (reasonQuery r)) y = (.error (.cancelled reason), y')) :
    run (s.judge token (some r)) y = (.error (.cancelled reason), y') := by
  have hanswer : run (outcomeOf (ask token (reasonQuery r))) y =
      (.ok (.error (.cancelled reason)), y') := by
    rw [outcomeOf, run_step, hask]
  have hreason : run (s.revertReason token r) y = (.error (.cancelled reason), y') :=
    (run_bind_of_ok hanswer).trans rfl
  rw [judge, checkReceipt, if_neg hfailed, map_bind, run_bind_of_error hreason]

theorem run_judge_answered (hfailed : ¬ r.success)
    (hask : run (ask token (reasonQuery r)) y = (revertAnswer r y, y.asked (reasonQuery r))) :
    s.Fails token r y (run (s.judge token (some r)) y) := by
  have hanswer : run (outcomeOf (ask token (reasonQuery r))) y =
      (.ok (revertAnswer r y), y.asked (reasonQuery r)) := by
    rw [outcomeOf, run_step, hask]
  have hreverted : ∀ reason, Accounts s.errors (revertAnswer r y) reason →
      run (s.revertReason token r) y = (.ok reason, y.asked (reasonQuery r)) →
      s.Fails token r y (run (s.judge token (some r)) y) := by
    intro reason haccounts hreason
    rw [judge, checkReceipt, if_neg hfailed, map_bind, run_bind_of_ok hreason]
    exact .reverted haccounts
  have hrun : run (s.revertReason token r) y = _ := run_bind_of_ok hanswer
  rcases hr : revertAnswer r y with (text | text | reason) | _ | data
  all_goals rw [hr] at hask hrun hreverted
  · exact hreverted _ (.failed (by simp)) hrun
  · exact hreverted _ (.failed (by simp)) hrun
  · rw [run_judge_cancelled hfailed hask]
    exact .cancelled hr
  · exact hreverted _ .absent hrun
  · exact hreverted _ (accounts_reasonIn s.errors data) hrun

theorem fails_judge (hfailed : ¬ r.success) (y : Session σ) :
    s.Fails token r y (run (s.judge token (some r)) y) := by
  have hask := ask_eq_call (σ := σ) token (reasonQuery r)
  rcases run_call_cases token NodeError.cancelled (.node (reasonQuery r))
    (Node.delay · (reasonQuery r)) (Node.reply (reasonQuery r)) y with
    ⟨reason, hcheck, hr⟩ | ⟨instant, reason, -, hstop, hr⟩ | ⟨-, -, hr⟩
  · rw [run_judge_cancelled hfailed (hask ▸ hr)]
    exact .refused hcheck
  · rw [run_judge_cancelled hfailed (hask ▸ hr)]
    exact .stopped hstop
  · exact run_judge_answered hfailed (hask ▸ hr)

theorem success_of_judge {found : Option Receipt}
    (h : run (s.judge token found) y = (.ok (some r), y')) : r.success := by
  cases found with
  | none => cases h
  | some r' =>
    by_cases hsuccess : r'.success
    · rw [judge, checkReceipt, if_pos hsuccess] at h
      cases h
      exact hsuccess
    · have hfails : s.Fails token r' y (run (s.judge token (some r')) y) := fails_judge hsuccess y
      rw [h] at hfails
      cases hfails

/-- **A failed receipt is never reported as success**, whatever is done with the transaction.  It
    becomes an error that carries the hash and says why, and from which the bytes that the
    transaction has returned can be read again if they mean nothing to the sender. -/
theorem perform_failed (s : Sender) (token : CancelToken) (task : Task) (x : Session σ) :
    (∀ r, (run (s.perform token task) x).1 = .ok (some r) → r.success) ∧
    ∀ r y, run (s.obtain token task) x = (.ok (some r), y) → ¬ r.success →
      s.Fails token r y (run (s.perform token task) x) := by
  rw [perform_eq]
  constructor
  · intro r hr
    obtain ⟨found, y, -, hjudge⟩ := run_bind_ok (Prod.ext hr rfl)
    exact success_of_judge hjudge
  · intro r y hobtain hfailed
    rw [run_bind_of_ok hobtain]
    exact fails_judge hfailed y

end

/-! ### Two bytes of revert data -/

namespace Sample

/-- The transaction has been included, but has failed. -/
def failed : Receipt := { included with success := false }

/-- The transaction has failed and returned two bytes. -/
def failing : Session ScriptedPeers :=
  ⟨{ node := { receipts := [(.zero 32, [.ok none, .ok (some failed)])],
               revertData := [(.zero 32, [0xDE, 0xAD])] } },
    0, [], ⟨.memory [], 1, 1⟩, false⟩

/-- The session in which the receipt of the transaction has come. -/
def obtained : Session ScriptedPeers :=
  (run ((poller 3 3).obtain .never (.await (.zero 32))) failing).2

theorem revertAnswer_obtained : revertAnswer failed obtained = .ok (some [0xDE, 0xAD]) := rfl

end Sample

/-- A receipt that comes with the second look and says that the transaction has failed: the two
    bytes it has returned are too few for an error, and are in the reason. -/
theorem perform_failed_short :
    run ((Sample.poller 3 3).obtain .never (.await (.zero 32))) Sample.failing =
        (.ok (some Sample.failed), Sample.obtained) ∧ ¬ Sample.failed.success ∧
    ∃ digits, (run ((Sample.poller 3 3).perform .never (.await (.zero 32))) Sample.failing).1 =
        .error (.reverted (.zero 32) ("0x" ++ digits)) ∧
      Hex.decodeText ("0x" ++ digits) = .ok [0xDE, 0xAD] := by
  have hobtained : run ((Sample.poller 3 3).obtain .never (.await (.zero 32))) Sample.failing =
      (.ok (some Sample.failed), Sample.obtained) := rfl
  have hfailed : ¬ Sample.failed.success := Bool.false_ne_true
  have hfails := (perform_failed (Sample.poller 3 3) .never (.await (.zero 32)) Sample.failing).2
    Sample.failed Sample.obtained hobtained hfailed
  refine ⟨hobtained, hfailed, ?_⟩
  generalize run ((Sample.poller 3 3).perform .never (.await (.zero 32))) Sample.failing = out
    at hfails ⊢
  cases hfails with
  | refused h => cases h
  | stopped h => cases h
  | cancelled h => cases Sample.revertAnswer_obtained.symm.trans h
  | reverted h =>
    rw [Sample.revertAnswer_obtained] at h
    cases h with
    | decoded h => cases h
    | raw _ hread => exact ⟨_, rfl, hread⟩

end Sender

end PacketRelay
