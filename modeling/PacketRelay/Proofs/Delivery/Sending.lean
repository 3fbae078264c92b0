/-
  What is sent for a request.

  Before a transaction is sent, it gets a nonce, a gas limit and a price, and it is signed.

  * `Sends` says what has been sent between two sessions, and `SendsAtOnce` that it has been sent first
    of all and then only followed;
  * `Posts` says what can come of a request that is signed and sent as it is (`posts_sign`);
  * `Prepares` says which request is signed for a request, and `Submits` what can come of sending one;
  * `sendTransaction_submits`: nothing else comes of it, and nothing is sent unless all of the above
    has succeeded.
-/
import PacketRelay.Proofs.Delivery.Floor
import PacketRelay.Proofs.Delivery.Guarded

namespace PacketRelay

open Session

/-! ## What calls have sent -/

/-- The raw transactions that calls have sent. -/
def sentBy (calls : List (Instant × Call)) : List Bytes := calls.filterMap fun c => c.2.sent?

theorem sentBy_append (l l' : List (Instant × Call)) :
    sentBy (l ++ l') = sentBy l ++ sentBy l' := List.filterMap_append

theorem sentBy_eq_nil {calls : List (Instant × Call)} (h : ∀ c ∈ calls, c.2.sent? = none) :
    sentBy calls = [] := List.filterMap_eq_nil_iff.2 h

theorem sentBy_sends (now : Instant) (raws : List Bytes) :
    sentBy (raws.map fun raw => (now, .node (.send raw))) = raws := by
  rw [sentBy, List.filterMap_map]
  exact List.filterMap_some

variable {σ : Type}

/-- Calls have been made since, and these are the raw transactions that they have sent. -/
def Sends (x x' : Session σ) (raws : List Bytes) : Prop :=
  ∃ new, x'.calls = x.calls ++ new ∧ sentBy new = raws

theorem Sends.trans {x x₁ x₂ : Session σ} {raws raws' : List Bytes} (h : Sends x x₁ raws)
    (h' : Sends x₁ x₂ raws') : Sends x x₂ (raws ++ raws') := by
  obtain ⟨new, hnew, rfl⟩ := h
  obtain ⟨new', hnew', rfl⟩ := h'
  exact ⟨new ++ new', by rw [hnew', hnew, List.append_assoc], sentBy_append new new'⟩

/-- What has been sent has been sent at once, and all that was called then has followed it up. -/
def SendsAtOnce (x x' : Session σ) (raws : List Bytes) : Prop :=
  ∃ later, x'.calls = x.calls ++ raws.map (fun raw => (x.now, .node (.send raw))) ++ later ∧
    ∀ c ∈ later, c.2.FollowsUp

theorem SendsAtOnce.refl (x : Session σ) : SendsAtOnce x x [] := ⟨[], by simp, by simp⟩

theorem SendsAtOnce.sends {x x' : Session σ} {raws : List Bytes} (h : SendsAtOnce x x' raws) :
    Sends x x' raws := by
  obtain ⟨later, hcalls, hfollows⟩ := h
  refine ⟨_, by rw [hcalls, List.append_assoc], ?_⟩
  rw [sentBy_append, sentBy_sends, sentBy_eq_nil fun c hc => (hfollows c hc).sent?_eq_none,
    List.append_nil]

/-- What only asks sends nothing. -/
theorem Session.Guarded.sends_nothing {ε α : Type} {token : CancelToken}
    {cancelled : CancelReason → ε} {y : Run σ ε α}
    (hy : Guarded token Delivery.Sendless cancelled y) {x x' : Session σ} {r : Except ε α}
    (h : run y x = (r, x')) : Sends x x' [] := by
  obtain ⟨new, hnew, hc⟩ := hy.calls x
  rw [h] at hnew
  exact ⟨new, hnew, sentBy_eq_nil fun c hmem => (hc c hmem).2.elim fun _ h => h.elim fun _ h => h⟩

variable [Node σ]

namespace Sender

open Delivery

/-- A signed transaction is sent before anything else is called, unless the token has fired; then it
    is only followed. -/
theorem run_sendAndWait_cases (s : Sender) (token : CancelToken) (raw : Bytes) (x : Session σ) :
    (∃ reason, token.check x.now = some reason ∧
      run (s.sendAndWait token raw) x = (.error (.cancelled reason), x)) ∨
    (token.check x.now = none ∧ SendsAtOnce x (run (s.sendAndWait token raw) x).2 [raw]) := by
  have hsubmit : run (submit token raw) x =
      ((run (ask token (.send raw)) x).1.mapError .ofNode, (run (ask token (.send raw)) x).2) :=
    run_adapt _ _ _
  rw [ask_eq_call] at hsubmit
  rcases run_call_cases token NodeError.cancelled (.node (.send raw)) (Node.delay · (.send raw))
    (Node.reply (.send raw)) x with ⟨reason, hc, hr⟩ | ⟨_, reason, hc, _, hr⟩ | ⟨hc, _, hr⟩
  all_goals rw [hr] at hsubmit
  · exact .inl ⟨reason, hc, run_bind_of_error hsubmit⟩
  · refine .inr ⟨hc, [], ?_, by simp⟩
    rw [sendAndWait, run_bind_of_error hsubmit, List.append_nil]
    rfl
  · cases hreply : (Node.reply (.send raw) x.peers).1 with
    | error e =>
      rw [hreply] at hsubmit
      refine .inr ⟨hc, [], ?_, by simp⟩
      rw [sendAndWait, run_bind_of_error hsubmit, List.append_nil]
      rfl
    | ok hash =>
      rw [hreply] at hsubmit
      have hwait : Guarded (σ := σ) token Following .cancelled (s.waitForReceipt token hash) :=
        s.guarded_waitForReceipt hash
      obtain ⟨later, hlater, hfollows⟩ := hwait.calls
        (x.answered (.node (.send raw)) (Node.delay · (.send raw)) (Node.reply (.send raw)))
      refine .inr ⟨hc, later, ?_, fun c hmem => (hfollows c hmem).2.elim fun _ h => h.elim fun _ h => h⟩
      have hrun : run (s.sendAndWait token raw) x = run (s.waitForReceipt token hash)
          (x.answered (.node (.send raw)) (Node.delay · (.send raw)) (Node.reply (.send raw))) :=
        run_bind_of_ok hsubmit
      rw [hrun, hlater]
      rfl

/-- What can come of signing a request and sending it: the raw transactions that are sent, the result,
    and the session after it. -/
inductive Posts (s : Sender) (token : CancelToken) (q : TransactionRequest) (y : Session σ) :
    List Bytes → Except DeliveryError Receipt × Session σ → Prop
  | unsigned {e : AccountError} : s.account.sign q = .error e →
    Posts s token q y [] (.error (.signing e), y)
  | stopped {raw : Bytes} {reason : CancelReason} : s.account.sign q = .ok raw →
    token.check y.now = some reason → Posts s token q y [] (.error (.cancelled reason), y)
  | sent {raw : Bytes} : s.account.sign q = .ok raw → token.check y.now = none →
    Posts s token q y [raw] (run (s.sendAndWait token raw) y)

theorem posts_sign (s : Sender) (token : CancelToken) (q : TransactionRequest) (y : Session σ) :
    ∃ raws, s.Posts token q y raws (run (s.sign q >>= s.sendAndWait token) y) := by
  cases hsign : s.account.sign q with
  | error e =>
    have hrun : run (s.sign q >>= s.sendAndWait token) y = (.error (.signing e), y) :=
      run_bind_of_error (by rw [sign, hsign]; rfl)
    rw [hrun]
    exact ⟨[], .unsigned hsign⟩
  | ok raw =>
    have hrun : run (s.sign q >>= s.sendAndWait token) y = run (s.sendAndWait token raw) y :=
      run_bind_of_ok (by rw [sign, hsign]; rfl)
    rw [hrun]
    rcases s.run_sendAndWait_cases token raw y with ⟨reason, hcheck, hr⟩ | ⟨hcheck, -⟩
    · rw [hr]
      exact ⟨[], .stopped hsign hcheck⟩
    · exact ⟨[raw], .sent hsign hcheck⟩

section
variable {s : Sender} {token : CancelToken} {q : TransactionRequest} {y : Session σ}
  {raws : List Bytes} {out : Except DeliveryError Receipt × Session σ}

theorem Posts.sendsAtOnce (h : s.Posts token q y raws out) : SendsAtOnce y out.2 raws := by
  cases h with
  | unsigned => exact .refl y
  | stopped => exact .refl y
  | @sent raw _ hcheck =>
    rcases s.run_sendAndWait_cases token raw y with ⟨reason, hcheck', -⟩ | ⟨-, hsent⟩
    · cases hcheck.symm.trans hcheck'
    · exact hsent

theorem Posts.length_le_one (h : s.Posts token q y raws out) : raws.length ≤ 1 := by
  cases h <;> simp

end

end Sender

/-! ## Complete requests -/

namespace TransactionRequest

/-- The price in a request that names one kind of price and no other. -/
def price? (r : TransactionRequest) : Option Pricing :=
  match r.gasPrice, r.tipCap, r.feeCap with
  | some gasPrice, none, none => some (.legacy gasPrice)
  | none, some tipCap, some feeCap => some (.dynamic tipCap feeCap)
  | _, _, _ => none

/-- The request `q` has a nonce, a gas limit and a price, and all else from `r`. -/
structure Completes (r q : TransactionRequest) (nonce gas : Nat) (price : Pricing) : Prop where
  nonce : q.nonce = some nonce
  gas : q.gas = some gas
  price : q.price? = some price
  others : { q with
    nonce := r.nonce
    gas := r.gas
    gasPrice := r.gasPrice
    tipCap := r.tipCap
    feeCap := r.feeCap } = r

theorem completes_completed (r : TransactionRequest) (nonce gas : Nat) (price : Pricing) :
    r.Completes (r.completed nonce gas price) nonce gas price := by
  cases price with
  | legacy gasPrice => exact ⟨rfl, rfl, rfl, rfl⟩
  | dynamic tipCap feeCap => exact ⟨rfl, rfl, rfl, rfl⟩

end TransactionRequest

namespace Sender

open Delivery

/-- The nonce under which a request is sent, with the session in which it is known: that of the
    request, or else what the node counts. -/
inductive Numbered (s : Sender) (token : CancelToken) (r : TransactionRequest) (x : Session σ) :
    Nat → Session σ → Prop
  | own {nonce : Nat} : r.nonce = some nonce → Numbered s token r x nonce x
  | counted {nonce : Nat} {x₁ : Session σ} : r.nonce = none →
    (Node.reply (.pendingNonce s.account.address) x.peers).1 = .ok nonce →
    run (query token (.pendingNonce s.account.address) : Run σ DeliveryError Nat) x =
      (.ok nonce, x₁) →
    Numbered s token r x nonce x₁

/-- A price has been computed for a nonce, and the transaction that it has been computed to replace
    is the first one with that nonce among those the node reports for the account. -/
structure Priced (s : Sender) (token : CancelToken) (nonce : Nat) (x : Session σ) (price : Pricing)
    (x' : Session σ) : Prop where
  computed : run (s.gasPricing token (some nonce)) x = (.ok price, x')
  chosen : ∃ pending, price.Chosen s.settings pending ∧
    (s.settings.priceBump = none → pending = none) ∧
    (s.settings.priceBump ≠ none → ∃ reported,
      (Node.reply (.pendingTransactions s.account.address) x.peers).1 = .ok reported ∧
      pending = reported.find? fun t => t.nonce == nonce)

/-- The request that is signed for a request: with its own nonce or the one that the node counts, with
    its own gas limit or the one that is set, and with the price computed for that nonce. -/
inductive Prepares (s : Sender) (token : CancelToken) (r : TransactionRequest) (x : Session σ) :
    TransactionRequest → Session σ → Prop
  | intro {q : TransactionRequest} {nonce gas : Nat} {price : Pricing} {x₁ x₂ : Session σ} :
    s.Numbered token r x nonce x₁ → r.gas.or s.settings.gasLimit = some gas →
    s.Priced token nonce x₁ price x₂ → r.Completes q nonce gas price →
    Prepares s token r x q x₂

/-- What can come of sending a request: the raw transactions that are sent, the result, and the
    session after it. -/
inductive Submits (s : Sender) (token : CancelToken) (r : TransactionRequest) (x : Session σ) :
    List Bytes → Except DeliveryError Receipt × Session σ → Prop
  | unnumbered {e : DeliveryError} {x₁ : Session σ} : r.nonce = none →
    run (query token (.pendingNonce s.account.address) : Run σ DeliveryError Nat) x =
      (.error e, x₁) →
    Submits s token r x [] (.error e, x₁)
  | unlimited {nonce : Nat} {x₁ : Session σ} : s.Numbered token r x nonce x₁ →
    r.gas.or s.settings.gasLimit = none →
    Submits s token r x [] (.error (.configuration .noGasLimit), x₁)
  | unpriced {nonce : Nat} {e : DeliveryError} {x₁ x₂ : Session σ} :
    s.Numbered token r x nonce x₁ → run (s.gasPricing token (some nonce)) x₁ = (.error e, x₂) →
    Submits s token r x [] (.error e, x₂)
  | posted {q : TransactionRequest} {x₂ : Session σ} {raws : List Bytes}
    {out : Except DeliveryError Receipt × Session σ} : s.Prepares token r x q x₂ →
    s.Posts token q x₂ raws out → Submits s token r x raws out

variable {s : Sender} {token : CancelToken} {r : TransactionRequest} {x x₁ x₂ : Session σ}

theorem numbered_of_nonceFor {nonce : Nat} (h : run (s.nonceFor token r) x = (.ok nonce, x₁)) :
    s.Numbered token r x nonce x₁ := by
  cases hr : r.nonce with
  | some own =>
    rw [nonceFor, hr] at h
    cases h
    exact .own hr
  | none =>
    rw [nonceFor, hr] at h
    exact .counted hr (ask_ok (run_adapt_ok h)) h

theorem nonceFor_error {e : DeliveryError} (h : run (s.nonceFor token r) x = (.error e, x₁)) :
    r.nonce = none ∧
      run (query token (.pendingNonce s.account.address) : Run σ DeliveryError Nat) x =
        (.error e, x₁) := by
  cases hr : r.nonce with
  | some own =>
    rw [nonceFor, hr] at h
    cases h
  | none =>
    rw [nonceFor, hr] at h
    exact ⟨rfl, h⟩

theorem priced_of_gasPricing {nonce : Nat} {price : Pricing}
    (h : run (s.gasPricing token (some nonce)) x = (.ok price, x₁)) :
    s.Priced token nonce x price x₁ := by
  obtain ⟨pending, x', hpending, hchosen⟩ := run_gasPricing_chosen h
  refine ⟨h, pending, hchosen, fun hnone => pendingAt_eq_none hnone hpending, fun hsome => ?_⟩
  obtain ⟨bump, hbump⟩ := Option.ne_none_iff_exists'.1 hsome
  exact pendingAt_reported hbump hpending

/-- What comes of a request whose nonce is known. -/
theorem submits_of_nonceFor {nonce : Nat} (hnumber : run (s.nonceFor token r) x = (.ok nonce, x₁)) :
    ∃ raws, Sends x (run (s.sendTransaction token r) x).2 raws ∧
      s.Submits token r x raws (run (s.sendTransaction token r) x) := by
  have hquiet := (s.guarded_nonceFor r).sends_nothing hnumber
  have hnumbered := numbered_of_nonceFor hnumber
  rw [sendTransaction, run_bind_of_ok hnumber]
  cases hgas : r.gas.or s.settings.gasLimit with
  | none =>
    have hlimit : run (lift (s.gasFor r)) x₁ = (.error (.configuration .noGasLimit), x₁) := by
      rw [gasFor, hgas]
      rfl
    rw [run_bind_of_error hlimit]
    exact ⟨[], hquiet, .unlimited hnumbered hgas⟩
  | some gas =>
    have hlimit : run (lift (s.gasFor r)) x₁ = (.ok gas, x₁) := by
      rw [gasFor, hgas]
      rfl
    rw [run_bind_of_ok hlimit]
    rcases hprice : run (s.gasPricing token (some nonce)) x₁ with ⟨answer, x₂⟩
    have hquiet₂ := hquiet.trans ((guarded_gasPricing _ _ _).sends_nothing hprice)
    cases answer with
    | error e =>
      rw [run_bind_of_error hprice]
      exact ⟨[], hquiet₂, .unpriced hnumbered hprice⟩
    | ok price =>
      rw [run_bind_of_ok hprice]
      obtain ⟨raws, hposts⟩ := s.posts_sign token (r.completed nonce gas price) x₂
      exact ⟨raws, hquiet₂.trans hposts.sendsAtOnce.sends, .posted (.intro hnumbered hgas
        (priced_of_gasPricing hprice) (r.completes_completed ..)) hposts⟩

theorem Submits.length_le_one {raws : List Bytes} {out : Except DeliveryError Receipt × Session σ}
    (h : s.Submits token r x raws out) : raws.length ≤ 1 := by
  cases h with
  | unnumbered => simp
  | unlimited => simp
  | unpriced => simp
  | posted _ hposts => exact hposts.length_le_one

/-- **A request is sent at most once**, and only when its nonce, its gas limit, its price and its
    signature have all been obtained.  What is signed is the request with these filled in. -/
theorem sendTransaction_submits (s : Sender) (token : CancelToken) (r : TransactionRequest)
    (x : Session σ) :
    ∃ raws, raws.length ≤ 1 ∧ Sends x (run (s.sendTransaction token r) x).2 raws ∧
      s.Submits token r x raws (run (s.sendTransaction token r) x) := by
  suffices h : ∃ raws, Sends x (run (s.sendTransaction token r) x).2 raws ∧
      s.Submits token r x raws (run (s.sendTransaction token r) x) from
    h.imp fun _ ⟨hsends, hsubmits⟩ => ⟨hsubmits.length_le_one, hsends, hsubmits⟩
  rcases hnumber : run (s.nonceFor token r) x with ⟨e | nonce, x₁⟩
  · obtain ⟨hnone, hquery⟩ := nonceFor_error hnumber
    rw [sendTransaction, run_bind_of_error hnumber]
    exact ⟨[], (s.guarded_nonceFor r).sends_nothing hnumber, .unnumbered hnone hquery⟩
  · exact submits_of_nonceFor hnumber

end Sender

end PacketRelay
