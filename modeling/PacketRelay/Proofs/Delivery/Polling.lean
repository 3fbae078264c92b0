/-
  Polling for a receipt.

  A sender looks for the receipt of a transaction a number of times, with a pause between two looks.

  * `polling k` is the session in which look `k` is taken and `receiptAt k` is what it is answered;
  * `Reported` is the error that stands for an answer without a receipt, and `Verdict` what comes of a
    receipt;
  * `run_pollReceipt_add`: as long as there is no receipt, one look follows the other;
  * `waitForReceipt_retries`: the first receipt decides, or else the last look does.
-/
import PacketRelay.Delivery.Submission
import PacketRelay.Proofs.Session.Guarded
import PacketRelay.Scripted

namespace PacketRelay

open Session

variable {σ : Type}

/-- The session after a pause. -/
def Session.later (length : Nat) (x : Session σ) : Session σ := { x with now := x.now + length }

namespace Sender

open Delivery

/-! ## Single steps -/

theorem run_rest_never (secs : Nat) (x : Session σ) :
    run (rest .never secs) x = (.ok (), x.later (pauseLength secs)) := by
  rw [rest, run_adapt, run_pause_over rfl (interruption?_never _ _)]
  rfl

section
variable [Node σ]

theorem run_outcomeOf_ask (q : Query) (x : Session σ) :
    run (outcomeOf (ask .never q)) x = (.ok (Node.reply q x.peers).1, x.asked q) := by
  rw [outcomeOf, run_step, run_ask_never]

/-! ## Verdicts -/

/-- The query for the reason why a transaction has failed. -/
def reasonQuery (r : Receipt) : Query := .revertData r.transactionHash r.blockNumber

/-- What the node answers when it is asked for that reason. -/
def revertAnswer (r : Receipt) (y : Session σ) : Except NodeError (Option Bytes) :=
  (Node.reply (reasonQuery r) y.peers).1

omit [Node σ] in
/-- The reason that is read off an answer.  The node may not know it, or may fail. -/
inductive Explains (errors : ErrorCatalog) : Except NodeError (Option Bytes) → String → Prop
  | known (data : Bytes) : Explains errors (.ok (some data)) (reasonIn errors data)
  | unknown : Explains errors (.ok none) noReason
  | failed {e : NodeError} : (∀ reason, e ≠ .cancelled reason) →
    Explains errors (.error e) (noReason ++ ": " ++ e.message)

/-- What comes of a receipt.  That of a failed transaction becomes an error with a reason, for which
    the node is asked once. -/
inductive Verdict (s : Sender) (r : Receipt) (y : Session σ) :
    Except DeliveryError Receipt × Session σ → Prop
  | confirmed : r.success → Verdict s r y (.ok r, y)
  | reverted {reason : String} : ¬ r.success → Explains s.errors (revertAnswer r y) reason →
    Verdict s r y (.error (.reverted r.transactionHash reason), y.asked (reasonQuery r))
  | cancelled {reason : CancelReason} : ¬ r.success →
    revertAnswer r y = .error (.cancelled reason) →
    Verdict s r y (.error (.cancelled reason), y.asked (reasonQuery r))

theorem verdict_checkReceipt (s : Sender) (r : Receipt) (y : Session σ) :
    Verdict s r y (run (s.checkReceipt .never r) y) := by
  by_cases hsuccess : r.success
  · rw [checkReceipt, if_pos hsuccess]
    exact .confirmed hsuccess
  · have hask : run (outcomeOf (ask .never (.revertData r.transactionHash r.blockNumber))) y =
        (.ok (revertAnswer r y), y.asked (reasonQuery r)) := run_outcomeOf_ask (reasonQuery r) y
    rw [checkReceipt, if_neg hsuccess, run_bind, revertReason, run_bind, hask]
    rcases hanswer : revertAnswer r y with (text | text | reason) | _ | data
    · exact .reverted hsuccess (hanswer ▸ .failed (by simp))
    · exact .reverted hsuccess (hanswer ▸ .failed (by simp))
    · exact .cancelled hsuccess hanswer
    · exact .reverted hsuccess (hanswer ▸ .unknown)
    · exact .reverted hsuccess (hanswer ▸ .known data)

theorem Verdict.eq_of_success {s : Sender} {r : Receipt} {y : Session σ}
    {out : Except DeliveryError Receipt × Session σ} (h : Verdict s r y out) (hsuccess : r.success) :
    out = (.ok r, y) := by
  cases h with
  | confirmed => rfl
  | _ => contradiction

/-- A verdict takes no time, unless the node has to be asked for a reason and takes its time. -/
theorem Verdict.now_eq {s : Sender} {r : Receipt} {y : Session σ}
    {out : Except DeliveryError Receipt × Session σ} (h : Verdict s r y out)
    (hprompt : r.success ∨ Node.delay y.peers (reasonQuery r) = 0) : out.2.now = y.now := by
  have hasked : ¬ r.success → (y.asked (reasonQuery r)).now = y.now := by
    intro hfailed
    change y.now + Node.delay y.peers (reasonQuery r) = y.now
    rw [hprompt.resolve_left hfailed, Nat.add_zero]
  cases h with
  | confirmed => rfl
  | reverted hfailed => exact hasked hfailed
  | cancelled hfailed => exact hasked hfailed

/-! ## Looks -/

/-- The session in which look `k` for a receipt is taken, with a pause after every look. -/
def polling (hash : Hash) (pause : Nat) (x : Session σ) : Nat → Session σ
  | 0 => x
  | k + 1 => ((polling hash pause x k).asked (.receipt hash)).later pause

/-- What look `k` is answered. -/
def receiptAt (hash : Hash) (pause : Nat) (x : Session σ) (k : Nat) :
    Except NodeError (Option Receipt) :=
  (Node.reply (.receipt hash) (polling hash pause x k).peers).1

omit [Node σ] in
/-- The error that stands for an answer without a receipt.  An answer that makes no sense counts as a
    failed transport. -/
inductive Reported (hash : Hash) : Except NodeError (Option Receipt) → DeliveryError → Prop
  | absent : Reported hash (.ok none) (.notFound (.receipt hash))
  | transport (text : String) : Reported hash (.error (.transport text)) (.transport text)
  | senseless (text : String) : Reported hash (.error (.invalidResponse text)) (.transport text)

/-- An answer is a receipt, a cancellation, or stands for an error. -/
theorem exists_reported (hash : Hash) {answer : Except NodeError (Option Receipt)}
    (hnone : ∀ r, answer ≠ .ok (some r)) (hcancelled : ∀ reason, answer ≠ .error (.cancelled reason)) :
    ∃ e, Reported hash answer e := by
  rcases answer with (text | text | reason) | _ | r
  · exact ⟨_, .transport text⟩
  · exact ⟨_, .senseless text⟩
  · exact absurd rfl (hcancelled reason)
  · exact ⟨_, .absent⟩
  · exact absurd rfl (hnone r)

variable {hash : Hash} {pause : Nat} {x : Session σ}

theorem calls_polling (k : Nat) :
    ((polling hash pause x k).asked (.receipt hash)).calls = x.calls ++
      (List.range (k + 1)).map fun j => ((polling hash pause x j).now, .node (.receipt hash)) := by
  induction k with
  | zero => rfl
  | succ k ih =>
    rw [List.range_succ, List.map_append, ← List.append_assoc, ← ih]
    rfl

/-- When the answers take no time, the looks are a pause apart. -/
theorem now_polling {k : Nat}
    (h : ∀ j < k, Node.delay (polling hash pause x j).peers (.receipt hash) = 0) :
    (polling hash pause x k).now = x.now + k * pause := by
  induction k with
  | zero => rw [polling, Nat.zero_mul, Nat.add_zero]
  | succ k ih =>
    have hnow := ih fun j hj => h j (Nat.lt_succ_of_lt hj)
    have hdelay := h k (Nat.lt_succ_self k)
    change (polling hash pause x k).now +
      Node.delay (polling hash pause x k).peers (.receipt hash) + pause = _
    rw [hnow, hdelay, Nat.add_zero, Nat.succ_mul, Nat.add_assoc]

/-- A session in which looks `0` to `m` have been taken, a pause apart, and nothing else has been
    asked.  No pause has been made after the last look. -/
structure Polled (hash : Hash) (pause m : Nat) (x y : Session σ) : Prop where
  now : y.now = x.now + m * pause
  calls : y.calls = x.calls ++
    (List.range (m + 1)).map fun k => (x.now + k * pause, .node (.receipt hash))

theorem polled_polling {m : Nat}
    (h : ∀ k ≤ m, Node.delay (polling hash pause x k).peers (.receipt hash) = 0) :
    Polled hash pause m x ((polling hash pause x m).asked (.receipt hash)) where
  now := by
    change (polling hash pause x m).now + Node.delay (polling hash pause x m).peers _ = _
    rw [h m (Nat.le_refl m), now_polling fun j hj => h j (Nat.le_of_lt hj), Nat.add_zero]
  calls := by
    rw [calls_polling]
    congr 1
    refine List.map_congr_left fun k hk => ?_
    have hkm : k ≤ m := Nat.le_of_lt_succ (List.mem_range.1 hk)
    rw [now_polling fun j hj => h j (Nat.le_of_lt (Nat.lt_of_lt_of_le hj hkm))]

/-! ## Runs -/

theorem run_lookForReceipt_received {r : Receipt}
    (h : (Node.reply (.receipt hash) x.peers).1 = .ok (some r)) :
    run (lookForReceipt .never hash) x = (.ok (.ok r), x.asked (.receipt hash)) := by
  rw [lookForReceipt, run_bind, run_check_none rfl, continued_ok, run_bind, run_outcomeOf_ask, h]
  rfl

theorem run_lookForReceipt_reported {e : DeliveryError}
    (h : Reported hash (Node.reply (.receipt hash) x.peers).1 e) :
    run (lookForReceipt .never hash) x = (.ok (.error e), x.asked (.receipt hash)) := by
  rw [lookForReceipt, run_bind, run_check_none rfl, continued_ok, run_bind, run_outcomeOf_ask]
  generalize (Node.reply (.receipt hash) x.peers).1 = answer at h
  cases h <;> rfl

variable {s : Sender}

theorem run_pollReceipt_received {r : Receipt} (left : Nat)
    (h : (Node.reply (.receipt hash) x.peers).1 = .ok (some r)) :
    run (s.pollReceipt .never hash left) x =
      run (s.checkReceipt .never r) (x.asked (.receipt hash)) := by
  have hlook := run_lookForReceipt_received h
  cases left with
  | zero => rw [pollReceipt, run_bind_of_ok hlook]
  | succ left => rw [pollReceipt, run_bind_of_ok hlook]

theorem run_pollReceipt_zero {e : DeliveryError}
    (h : Reported hash (Node.reply (.receipt hash) x.peers).1 e) :
    run (s.pollReceipt .never hash 0) x = (.error e, x.asked (.receipt hash)) := by
  rw [pollReceipt, run_bind_of_ok (run_lookForReceipt_reported h)]
  rfl

/-- As long as there is no receipt and a look is left, it is taken after a pause. -/
theorem run_pollReceipt_succ (left : Nat) {e : DeliveryError}
    (h : Reported hash (Node.reply (.receipt hash) x.peers).1 e) :
    run (s.pollReceipt .never hash (left + 1)) x = run (s.pollReceipt .never hash left)
      ((x.asked (.receipt hash)).later (pauseLength s.settings.receipt.intervalSecs)) := by
  rw [pollReceipt, run_bind_of_ok (run_lookForReceipt_reported h)]
  exact run_bind_of_ok (run_rest_never _ _)

/-- Looks that find no receipt only take time. -/
theorem run_pollReceipt_add {m : Nat} (left : Nat) (h : ∀ j < m, ∃ e, Reported hash
      (receiptAt hash (pauseLength s.settings.receipt.intervalSecs) x j) e) :
    run (s.pollReceipt .never hash (m + left)) x = run (s.pollReceipt .never hash left)
      (polling hash (pauseLength s.settings.receipt.intervalSecs) x m) := by
  -- the looks that have been taken are counted up, so that the last one is taken from `polling m`
  induction m generalizing left with
  | zero => rw [Nat.zero_add, polling]
  | succ m ih =>
    obtain ⟨e, he⟩ := h m (Nat.lt_succ_self m)
    rw [Nat.succ_add_eq_add_succ, ih (left + 1) fun j hj => h j (Nat.lt_succ_of_lt hj),
      run_pollReceipt_succ left he, polling]

/-- Waiting after looks that have found no receipt; at least one look is taken in all. -/
theorem run_waitForReceipt_of_reported {m left : Nat}
    (hlooks : max 1 s.settings.receipt.attempts = m + left + 1) (h : ∀ j < m, ∃ e, Reported hash
      (receiptAt hash (pauseLength s.settings.receipt.intervalSecs) x j) e) :
    run (s.waitForReceipt .never hash) x = run (s.pollReceipt .never hash left)
      (polling hash (pauseLength s.settings.receipt.intervalSecs) x m) := by
  have hleft : s.settings.receipt.attempts - 1 = m + left := by omega
  rw [waitForReceipt, hleft, run_pollReceipt_add left h]

/-- **Waiting for a receipt**, with a token that does not fire and answers that take no time.  At least
    one look is taken.  The looks are an interval apart; the first receipt ends them and decides.
    Without a receipt, all looks are taken, and the answer to the last one alone is reported. -/
theorem waitForReceipt_retries (s : Sender) (hash : Hash) (x : Session σ) :
    let n := max 1 s.settings.receipt.attempts
    let d := pauseLength s.settings.receipt.intervalSecs
    let answer := receiptAt hash d x
    let out := run (s.waitForReceipt .never hash) x
    (∀ k < n, Node.delay (polling hash d x k).peers (.receipt hash) = 0) →
    (∀ k < n, ∀ reason, answer k ≠ .error (.cancelled reason)) →
    (∀ i < n, ∀ r, (∀ k < i, ∀ r', answer k ≠ .ok (some r')) → answer i = .ok (some r) →
      let y := (polling hash d x i).asked (.receipt hash)
      Polled hash d i x y ∧ Verdict s r y out ∧
        (r.success ∨ Node.delay y.peers (reasonQuery r) = 0 →
          out.2.now = x.now + i * d)) ∧
    ((∀ k < n, ∀ r, answer k ≠ .ok (some r)) →
      Polled hash d (n - 1) x out.2 ∧ ∃ e, out.1 = .error e ∧ Reported hash (answer (n - 1)) e) := by
  intro n d answer out hdelay hcancelled
  have hreported : ∀ k < n, (∀ r, answer k ≠ .ok (some r)) → ∃ e, Reported hash (answer k) e := by
    intro k hk hnone
    exact exists_reported hash hnone (hcancelled k hk)
  constructor
  · intro i hi r hnone hanswer y
    obtain ⟨left, hn⟩ := Nat.exists_eq_add_of_lt hi
    have hpolled : Polled hash d i x y :=
      polled_polling fun k hk => hdelay k (Nat.lt_of_le_of_lt hk hi)
    have hbefore : ∀ k < i, ∃ e, Reported hash (answer k) e :=
      fun k hk => hreported k (Nat.lt_trans hk hi) (hnone k hk)
    have hout : out = run (s.checkReceipt .never r) y :=
      (run_waitForReceipt_of_reported hn hbefore).trans (run_pollReceipt_received left hanswer)
    have hverdict : Verdict s r y out := by
      rw [hout]
      exact verdict_checkReceipt s r y
    exact ⟨hpolled, hverdict, fun hprompt => (hverdict.now_eq hprompt).trans hpolled.now⟩
  · intro hnone
    have hlast : n - 1 < n := by omega
    have hbefore : ∀ k < n - 1, ∃ e, Reported hash (answer k) e :=
      fun k hk => hreported k (Nat.lt_trans hk hlast) (hnone k (Nat.lt_trans hk hlast))
    obtain ⟨e, he⟩ := hreported (n - 1) hlast (hnone (n - 1) hlast)
    have hout : out = (.error e, (polling hash d x (n - 1)).asked (.receipt hash)) :=
      (run_waitForReceipt_of_reported (by omega) hbefore).trans (run_pollReceipt_zero he)
    rw [hout]
    exact ⟨polled_polling fun k hk => hdelay k (Nat.lt_of_le_of_lt hk hlast), e, rfl, he⟩

end

/-! ### A receipt at the third look -/

namespace Sample

/-- Looks for a receipt some times, with some seconds between. -/
def poller (attempts intervalSecs : Nat) : Sender :=
  ⟨.readable (.zero 20) 1 none, ⟨[]⟩,
    { TransactionSettings.default with receipt := ⟨attempts, intervalSecs⟩ }⟩

/-- A transaction has been included in block 11 and has not failed. -/
def included : Receipt := ⟨.zero 32, 11, true, 21000⟩

/-- A session with a node that has prepared what it answers about a receipt. -/
def answering (answers : List (Except NodeError (Option Receipt))) : Session ScriptedPeers :=
  ⟨{ node := { receipts := [(.zero 32, answers)] } }, 0, [], ⟨.memory [], 1, 1⟩, false⟩

/-- There is a receipt at the third look. -/
def late : Session ScriptedPeers :=
  answering [.ok none, .error (.transport "timed out"), .ok (some included)]

/-- The call by which its receipt is looked up. -/
def inquiry : Call := .node (.receipt (.zero 32))

variable {pause : Nat}

theorem delay_late : ∀ k < 3,
    Node.delay (polling (.zero 32) pause late k).peers (.receipt (.zero 32)) = 0
  | 0, _ => rfl
  | 1, _ => rfl
  | 2, _ => rfl

theorem receiptAt_late_first : receiptAt (.zero 32) pause late 0 = .ok none := rfl

theorem receiptAt_late_second :
    receiptAt (.zero 32) pause late 1 = .error (.transport "timed out") := rfl

theorem receiptAt_late_third : receiptAt (.zero 32) pause late 2 = .ok (some included) := rfl

theorem not_cancelled_late : ∀ k < 3, ∀ reason,
    receiptAt (.zero 32) pause late k ≠ .error (.cancelled reason)
  | 0, _, _ => by rw [receiptAt_late_first]; simp
  | 1, _, _ => by rw [receiptAt_late_second]; simp
  | 2, _, _ => by rw [receiptAt_late_third]; simp

theorem not_received_late : ∀ k < 2, ∀ r, receiptAt (.zero 32) pause late k ≠ .ok (some r)
  | 0, _, _ => by rw [receiptAt_late_first]; simp
  | 1, _, _ => by rw [receiptAt_late_second]; simp

end Sample

/-- A receipt that comes with the third look, every three seconds: three looks are enough, and with two
    of them the failure of the second is reported. -/
theorem waitForReceipt_retries_third :
    (run ((Sample.poller 3 3).waitForReceipt .never (.zero 32)) Sample.late).1 =
        .ok Sample.included ∧
      (run ((Sample.poller 3 3).waitForReceipt .never (.zero 32)) Sample.late).2.calls =
        [(0, Sample.inquiry), (3000, Sample.inquiry), (6000, Sample.inquiry)] ∧
    (run ((Sample.poller 2 3).waitForReceipt .never (.zero 32)) Sample.late).1 =
        .error (.transport "timed out") ∧
      (run ((Sample.poller 2 3).waitForReceipt .never (.zero 32)) Sample.late).2.now = 3000 := by
  obtain ⟨hreceived, -⟩ := waitForReceipt_retries (Sample.poller 3 3) (.zero 32) Sample.late
    Sample.delay_late Sample.not_cancelled_late
  obtain ⟨-, hnone⟩ := waitForReceipt_retries (Sample.poller 2 3) (.zero 32) Sample.late
    (fun k hk => Sample.delay_late k (Nat.lt_succ_of_lt hk))
    fun k hk => Sample.not_cancelled_late k (Nat.lt_succ_of_lt hk)
  obtain ⟨hpolled, hverdict, -⟩ := hreceived 2 (by decide) Sample.included
    Sample.not_received_late Sample.receiptAt_late_third
  obtain ⟨hpolled', e, herror, hreported⟩ := hnone Sample.not_received_late
  have hout := hverdict.eq_of_success rfl
  refine ⟨congrArg Prod.fst hout, ?_, ?_, hpolled'.now⟩
  · rw [hout]
    exact hpolled.calls
  · rw [herror]
    cases hreported
    rfl

/-- **The clock does not reach every interval.**  With an interval of 2⁶³ seconds the second look is
    taken after thirty years, and there the absence is reported. -/
theorem waitForReceipt_far :
    let out := run ((Sample.poller 2 clockLimit).waitForReceipt .never (.zero 32))
      (Sample.answering [])
    out.1 = .error (.notFound (.receipt (.zero 32))) ∧
    out.2.calls = [(0, Sample.inquiry), (946080000000, Sample.inquiry)] ∧
    out.2.now = 946080000000 ∧ out.2.now ≠ (2 - 1) * seconds clockLimit := by
  refine ⟨rfl, rfl, rfl, ?_⟩
  change 946080000000 ≠ (2 - 1) * seconds clockLimit
  decide

end Sender

end PacketRelay
