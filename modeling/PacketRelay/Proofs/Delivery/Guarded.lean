/-
  What the operations of a sender call.

  All of them are guarded by their token.  What is asked for before a transaction is signed sends
  nothing (`guarded_nonceFor`, `guarded_gasPricing`); after it has been sent, only its receipt and
  what it returned are asked for (`guarded_waitForReceipt`).
-/
import PacketRelay.Delivery.Replacement
import PacketRelay.Proofs.Session.Guarded

namespace PacketRelay

open Session

/-! ## Kinds of calls -/

namespace Call

/-- The raw transaction that a call sends. -/
def sent? : Call → Option Bytes
  | node (.send raw) => some raw
  | _ => none

/-- The call asks what has become of a transaction. -/
def FollowsUp : Call → Prop
  | node (.receipt _) | node (.revertData ..) => True
  | _ => False

theorem FollowsUp.sent?_eq_none {c : Call} (h : c.FollowsUp) : c.sent? = none := by
  cases c with
  | counterparty q => cases h
  | node q => cases q <;> first | rfl | cases h

end Call

/-! ## Outcomes -/

/-- An outcome that is looked at, when a cancellation is passed on. -/
theorem Sender.guarded_outcomeOf {σ ε α β : Type} {token : CancelToken}
    {allowed : Call → σ → σ → Prop}
    {cancelled : CancelReason → ε} {x : Run σ ε α} {f : Except ε α → Run σ DeliveryError β}
    (hx : Guarded token allowed cancelled x) (hf : ∀ r, Guarded token allowed .cancelled (f r))
    (hthrow : ∀ reason, f (.error (cancelled reason)) = throw (.cancelled reason)) :
    Guarded token allowed .cancelled (Sender.outcomeOf x >>= f) := by
  refine .handle hx hf (fun reason s => ?_) fun s => rfl
  rw [hthrow]
  rfl

variable {σ : Type} [Node σ] {token : CancelToken}

/-! ## Pricing -/

namespace Delivery

theorem guarded_query {allowed : Call → σ → σ → Prop} (q : Query)
    (h : ∀ p : σ, allowed (.node q) p (Node.reply q p).2) :
    Guarded token allowed .cancelled (query token q) :=
  .adapt (fun _ => rfl) (.ask q h)

/-- Nothing is sent. -/
abbrev Sendless (c : Call) (_ _ : σ) : Prop := c.sent? = none

theorem guarded_sampleFrom (s : DynamicFeeSettings) (left block : Nat) :
    Guarded (σ := σ) token Sendless .cancelled (sampleFrom token s left block) := by
  induction left generalizing block with
  | zero =>
    unfold sampleFrom
    refine .bind (guarded_query _ fun _ => rfl) fun history => ?_
    cases history.sample? with
    | some sample => exact .pure _
    | none => exact .fail _
  | succ left ih =>
    unfold sampleFrom
    refine .bind (guarded_query _ fun _ => rfl) fun history => ?_
    cases history.sample? with
    | some sample => exact .pure _
    | none =>
      cases block with
      | zero => exact .fail _
      | succ block => exact ih block

theorem guarded_sampleFees (s : DynamicFeeSettings) :
    Guarded (σ := σ) token Sendless .cancelled (sampleFees token s) :=
  .bind (guarded_query _ fun _ => rfl) fun latest => guarded_sampleFrom s _ latest

theorem guarded_pendingAt (s : TransactionSettings) (sender : Address) (nonce : Option Nat) :
    Guarded (σ := σ) token Sendless .cancelled (pendingAt token s sender nonce) := by
  unfold pendingAt
  cases s.priceBump with
  | none => exact .pure _
  | some bump =>
    cases nonce with
    | none => exact .pure _
    | some nonce => exact .bind (guarded_query _ fun _ => rfl) fun _ => .pure _

theorem guarded_gasPricing (s : TransactionSettings) (sender : Address) (nonce : Option Nat) :
    Guarded (σ := σ) token Sendless .cancelled (gasPricing token s sender nonce) := by
  refine .bind (guarded_pendingAt s sender nonce) fun pending => ?_
  cases s.kind with
  | legacy => exact .bind (guarded_query _ fun _ => rfl) fun _ => .result _
  | dynamic => exact .bind (guarded_sampleFees _) fun _ => .result _

end Delivery

/-! ## Sending -/

namespace Sender

open Delivery

variable (s : Sender)

theorem guarded_nonceFor (r : TransactionRequest) :
    Guarded (σ := σ) token Sendless .cancelled (s.nonceFor token r) := by
  unfold nonceFor
  cases r.nonce with
  | some nonce => exact .pure _
  | none => exact guarded_query _ fun _ => rfl

/-- What has become of a transaction is asked for. -/
abbrev Following (c : Call) (_ _ : σ) : Prop := c.FollowsUp

theorem guarded_revertReason (r : Receipt) :
    Guarded (σ := σ) token Following .cancelled (s.revertReason token r) := by
  refine guarded_outcomeOf (.ask _ fun _ => trivial) (fun outcome => ?_) fun _ => rfl
  rcases outcome with (_ | _ | _) | (_ | _)
  · exact .pure _
  · exact .pure _
  · exact .fail _
  · exact .pure _
  · exact .pure _

theorem guarded_checkReceipt (r : Receipt) :
    Guarded (σ := σ) token Following .cancelled (s.checkReceipt token r) := by
  unfold checkReceipt
  cases r.success with
  | true => exact .pure _
  | false => exact .bind (s.guarded_revertReason r) fun _ => .fail _

theorem guarded_lookForReceipt (hash : Hash) :
    Guarded (σ := σ) token Following .cancelled (lookForReceipt token hash) := by
  refine .bind (.check _) fun _ => ?_
  refine guarded_outcomeOf (.ask _ fun _ => trivial) (fun outcome => ?_) fun _ => rfl
  rcases outcome with (_ | _ | _) | (_ | _)
  · exact .pure _
  · exact .pure _
  · exact .fail _
  · exact .pure _
  · exact .pure _

theorem guarded_pollReceipt (hash : Hash) (left : Nat) :
    Guarded (σ := σ) token Following .cancelled (s.pollReceipt token hash left) := by
  induction left with
  | zero =>
    refine .bind (guarded_lookForReceipt hash) fun found => ?_
    cases found with
    | ok r => exact s.guarded_checkReceipt r
    | error e => exact .fail _
  | succ left ih =>
    refine .bind (guarded_lookForReceipt hash) fun found => ?_
    cases found with
    | ok r => exact s.guarded_checkReceipt r
    | error e => exact .bind (.adapt (fun _ => rfl) (.pause _)) fun _ => ih

theorem guarded_waitForReceipt (hash : Hash) :
    Guarded (σ := σ) token Following .cancelled (s.waitForReceipt token hash) :=
  s.guarded_pollReceipt hash _

/-! ## Whole operations -/

/-- Calls of any kind. -/
abbrev Unrestricted (_ : Call) (_ _ : σ) : Prop := True

theorem guarded_sendAndWait (raw : Bytes) :
    Guarded (σ := σ) token Unrestricted .cancelled (s.sendAndWait token raw) :=
  .bind (guarded_query _ fun _ => trivial) fun hash =>
    (s.guarded_waitForReceipt hash).mono fun _ _ _ _ => trivial

theorem guarded_sendTransaction (r : TransactionRequest) :
    Guarded (σ := σ) token Unrestricted .cancelled (s.sendTransaction token r) := by
  refine .bind ((s.guarded_nonceFor r).mono fun _ _ _ _ => trivial) fun nonce => ?_
  refine .bind (.result _) fun gas => ?_
  refine .bind ((guarded_gasPricing _ _ _).mono fun _ _ _ _ => trivial) fun pricing => ?_
  exact .bind (.result _) fun raw => s.guarded_sendAndWait raw

omit [Node σ] in
theorem guarded_waitUntil (instant : Instant) :
    Guarded (σ := σ) token Sendless .cancelled (waitUntil token instant) :=
  .bind (.view fun s => .ok s.now) fun _ => .adapt (fun _ => rfl) (.pause _)

theorem guarded_lookAt (hash : Hash) (instant : Instant) :
    Guarded (σ := σ) token Sendless .cancelled (lookAt token hash instant) := by
  refine .bind (guarded_waitUntil instant) fun _ => .bind (guarded_query _ fun _ => rfl) fun found => ?_
  cases found with
  | none => exact .fail _
  | some t => exact .pure _

theorem guarded_finish (t : Transaction) (b : FeeBounds) :
    Guarded (σ := σ) token Unrestricted .cancelled (s.finish token t b) := by
  have hreplace : Guarded (σ := σ) token Unrestricted .cancelled (s.replace token t b) :=
    .bind (.result _) fun _ => .bind (.result _) fun raw => s.guarded_sendAndWait raw
  exact .bind hreplace fun _ => .pure _

omit [Node σ] in
/-- Induction along the looks of a watch: another look follows only up to the threshold. -/
theorem watch_induction {r : ReplaceSettings} (positive : r.checkSecs ≠ 0) (since : Instant)
    {motive : Instant → Prop}
    (look : ∀ instant, (∀ time, instant ≤ time → time - since ≤ seconds r.pendingSecs →
      motive (instant + seconds r.checkSecs)) → motive instant)
    (instant : Instant) : motive instant :=
  look instant fun _ _ _ =>
    watch_induction positive since look (instant + seconds r.checkSecs)
termination_by since + seconds r.pendingSecs + 1 - instant
decreasing_by exact left_lt (Nat.pos_of_ne_zero positive) ‹_› ‹_›

theorem guarded_watch (r : ReplaceSettings) (positive : r.checkSecs ≠ 0) (hash : Hash)
    (since instant : Instant) :
    Guarded (σ := σ) token Unrestricted .cancelled
      (s.watch r positive token hash since instant) := by
  induction instant using watch_induction positive since with
  | look instant ih =>
    unfold watch
    refine .bind ((guarded_lookAt hash instant).mono fun _ _ _ _ => trivial) fun found => ?_
    cases found with
    | none => exact .pure _
    | some t =>
      have hnow : Guarded (σ := σ) token Unrestricted .cancelled (nowFrom instant) :=
        .view fun s => .ok (⟨max instant s.now, Nat.le_max_left _ _⟩ : { time // instant ≤ time })
      refine .bind hnow fun time => ?_
      by_cases hwaiting : time - since ≤ seconds r.pendingSecs
      · simp only [hwaiting, ↓reduceDIte]
        exact ih time time.2 hwaiting
      · simp only [hwaiting, ↓reduceDIte]
        exact s.guarded_finish t r.bounds

theorem guarded_replaceStuck (hash : Hash) (since : Instant) :
    Guarded (σ := σ) token Unrestricted .cancelled (s.replaceStuck token hash since) := by
  unfold replaceStuck
  cases s.settings.replace with
  | none => exact .fail _
  | some r =>
    by_cases hzero : r.checkSecs = 0
    · simp only [hzero, ↓reduceDIte]
      exact .fail _
    · simp only [hzero, ↓reduceDIte]
      split
      · exact .fail _
      · exact .bind (.view fun s => .ok s.now) fun start => s.guarded_watch r hzero hash since _

end Sender

end PacketRelay
