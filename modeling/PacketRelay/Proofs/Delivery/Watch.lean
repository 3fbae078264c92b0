/-
  Watching a transaction.

  A watch looks at a transaction in intervals.  Which looks it takes, and when, is settled by what the
  node answers and by how long the answers take.

  * `looking k` is the session in which look `k` is taken and `finding k` is what it finds;
  * `Replaces` says what can come of replacing a transaction, and `Ends` how a finding ends a watch;
  * `run_watch`: a watch goes on as long as the transaction is found waiting, and ends with the first
    other finding, unless the token fires before;
  * `replaceStuck_watch`: with a token that does not fire, the whole run of a watch.
-/
import PacketRelay.Proofs.Delivery.Sending
import PacketRelay.Scripted

namespace PacketRelay

open Session

variable {σ : Type}

/-! ## Replacements -/

/-- A request agrees with another one in all but the fees. -/
def TransactionRequest.SameButFees (q r : TransactionRequest) : Prop :=
  { q with gasPrice := r.gasPrice, tipCap := r.tipCap, feeCap := r.feeCap } = r

/-- Only the fees of a request are raised. -/
theorem bumpFees_sameButFees {t : Transaction} {b : FeeBounds} {q : TransactionRequest}
    (h : bumpFees t b = .ok q) : q.SameButFees t.request := by
  unfold bumpFees at h
  split at h
  · cases hprice : raised .gasPrice (t.request.gasPrice.getD 0) b.gasPriceIncrement b.maxGasPrice <;>
      rw [hprice] at h <;> cases h
    rfl
  · split at h
    · cases htip : raised .tipCap (t.request.tipCap.getD 0) b.tipCapIncrement b.maxTipCap <;>
        rw [htip] at h
      · cases h
      · cases hfee : raised .feeCap (t.request.feeCap.getD 0) b.feeCapIncrement b.maxFeeCap <;>
          rw [hfee] at h <;> cases h
        rfl
    · cases h

/-! ## Looks -/

/-- The session when an instant has come, or has long passed. -/
def Session.waited (instant : Instant) (x : Session σ) : Session σ :=
  { x with now := max instant x.now }

/-- What is found in a look at a transaction. -/
inductive Finding where
  | failed (e : NodeError)
  | missing
  | mined
  /-- The transaction is pending, for no longer than the threshold. -/
  | waiting
  | stuck (t : Transaction)

/-- What an answer amounts to when the transaction has been pending for some time. -/
def Finding.of (threshold age : Nat) : Except NodeError (Option Transaction) → Finding
  | .error e => failed e
  | .ok none => missing
  | .ok (some t) => if t.block.isSome then mined else if age ≤ threshold then waiting else stuck t

/-- A transaction is found waiting only up to the threshold. -/
theorem Finding.age_le_of_waiting {threshold age : Nat}
    {answer : Except NodeError (Option Transaction)} (h : of threshold age answer = waiting) :
    age ≤ threshold := by
  rcases answer with e | _ | t
  · cases h
  · cases h
  · by_cases hblock : t.block.isSome
    · rw [of, if_pos hblock] at h
      cases h
    · by_cases hage : age ≤ threshold
      · exact hage
      · rw [of, if_neg hblock, if_neg hage] at h
        cases h

namespace Sender

open Delivery

section
variable [Node σ]

/-- The session after a look at a transaction. -/
def looked (hash : Hash) (y : Session σ) : Session σ :=
  y.answered (.node (.transaction hash)) (Node.delay · (.transaction hash))
    (Node.reply (.transaction hash))

/-- The session in which look `k` is taken, when the first one is due at an instant and the others
    follow it in intervals. -/
def looking (hash : Hash) (interval : Nat) : Instant → Session σ → (k : Nat) → Session σ
  | instant, x, 0 => x.waited instant
  | instant, x, k + 1 =>
    looking hash interval (instant + interval) (looked hash (x.waited instant)) k

/-- What look `k` finds. -/
def finding (r : ReplaceSettings) (hash : Hash) (since instant : Instant) (x : Session σ) (k : Nat) :
    Finding :=
  let y := looking hash (seconds r.checkSecs) instant x k
  .of (seconds r.pendingSecs) ((looked hash y).now - since) (Node.reply (.transaction hash) y.peers).1

/-- The calls made by the looks before look `k`. -/
def lookups (hash : Hash) (interval : Nat) (instant : Instant) (x : Session σ) (k : Nat) :
    List (Instant × Call) :=
  (List.range k).map fun j =>
    ((looking hash interval instant x j).now, .node (.transaction hash))

variable {hash : Hash} {interval : Nat} {instant : Instant} {x : Session σ}

theorem lookups_succ (hash : Hash) (interval : Nat) (instant : Instant) (x : Session σ) (k : Nat) :
    lookups hash interval instant x (k + 1) =
      ((x.waited instant).now, .node (.transaction hash)) ::
        lookups hash interval (instant + interval) (looked hash (x.waited instant)) k := by
  simp only [lookups, List.range_succ_eq_map, List.map_cons, List.map_map]
  rfl

/-- All that has been called when a look has been taken is what the looks have asked. -/
theorem calls_looked_looking (k : Nat) :
    (looked hash (looking hash interval instant x k)).calls =
      x.calls ++ lookups hash interval instant x (k + 1) := by
  induction k generalizing instant x with
  | zero => rfl
  | succ k ih =>
    rw [lookups_succ, ← List.singleton_append, ← List.append_assoc]
    exact ih

/-- Looks send nothing. -/
theorem sends_looked_looking (k : Nat) :
    Sends x (looked hash (looking hash interval instant x k)) [] := by
  refine ⟨_, calls_looked_looking k, sentBy_eq_nil fun c hc => ?_⟩
  obtain ⟨j, -, rfl⟩ := List.mem_map.1 hc
  rfl

/-- When look `k` is due, seen from the first look and from the second. -/
theorem due_succ (instant k interval : Nat) :
    instant + (k + 1) * interval = instant + interval + k * interval := by
  rw [Nat.succ_mul, Nat.add_assoc, Nat.add_comm interval]

/-- What has been due for no longer than a threshold takes no longer than the threshold. -/
theorem le_of_age {since now k interval threshold time : Nat} (hsince : since ≤ now)
    (hdue : now + (k + 1) * seconds interval ≤ time) (hage : time - since ≤ seconds threshold) :
    (k + 1) * interval ≤ threshold := by
  simp only [seconds, ← Nat.mul_assoc] at hdue hage
  omega

/-- No look is taken before it is due. -/
theorem le_now_looking (k : Nat) :
    instant + k * interval ≤ (looking hash interval instant x k).now := by
  induction k generalizing instant x with
  | zero =>
    rw [Nat.zero_mul]
    exact Nat.le_max_left instant x.now
  | succ k ih =>
    rw [due_succ]
    exact ih

/-- When the answers take no time, every look is taken when it is due. -/
theorem now_looking (hlate : x.now ≤ instant) {k : Nat}
    (h : ∀ j < k, Node.delay (looking hash interval instant x j).peers (.transaction hash) = 0) :
    (looking hash interval instant x k).now = instant + k * interval := by
  induction k generalizing instant x with
  | zero =>
    rw [Nat.zero_mul]
    exact Nat.max_eq_left hlate
  | succ k ih =>
    have hdelay : Node.delay (x.waited instant).peers (.transaction hash) = 0 := h 0 (Nat.succ_pos k)
    have hnow : (looked hash (x.waited instant)).now = instant := by
      change max instant x.now + Node.delay (x.waited instant).peers (.transaction hash) = instant
      rw [hdelay]
      exact Nat.max_eq_left hlate
    have hlate' : (looked hash (x.waited instant)).now ≤ instant + interval :=
      Nat.le_trans (Nat.le_of_eq hnow) (Nat.le_add_right instant interval)
    rw [due_succ]
    exact ih hlate' fun j hj => h (j + 1) (Nat.succ_lt_succ hj)

/-! ## One look -/

/-- What a look is taken for: the transaction, if it is still pending. -/
def seen (hash : Hash) : Except DeliveryError (Option Transaction) →
    Except DeliveryError (Option Transaction)
  | .error e => .error e
  | .ok none => .error (.notFound (.transaction hash))
  | .ok (some t) => .ok (if t.block.isSome then none else some t)

omit [Node σ] in
theorem seen_mined (hash : Hash) {t : Transaction} (h : t.block.isSome) :
    seen hash (.ok (some t)) = .ok none := by
  rw [seen, if_pos h]

omit [Node σ] in
theorem seen_pending (hash : Hash) {t : Transaction} (h : ¬ t.block.isSome) :
    seen hash (.ok (some t)) = .ok (some t) := by
  rw [seen, if_neg h]

/-- A look waits, asks, and sees what is answered. -/
theorem run_lookAt_of_query {token : CancelToken} {y y' : Session σ}
    {answer : Except DeliveryError (Option Transaction)}
    (hwait : run (waitUntil token instant) x = (.ok (), y))
    (hquery : run (query token (.transaction hash)) y = (answer, y')) :
    run (lookAt token hash instant) x = (seen hash answer, y') := by
  refine (run_bind_of_ok hwait).trans ?_
  rcases answer with e | _ | t
  · exact run_bind_of_error hquery
  · exact run_bind_of_ok hquery
  · exact run_bind_of_ok hquery

omit [Node σ] in
/-- A wait is over in the end, unless a token fires. -/
theorem run_waitUntil_cases (token : CancelToken) (instant : Instant) (x : Session σ) :
    run (waitUntil token instant) x = (.ok (), x.waited instant) ∨
    (token ≠ .never ∧ ∃ reason x',
      run (waitUntil token instant) x = (.error (.cancelled reason), x')) := by
  have hrun : run (waitUntil token instant) x =
      ((run (pause token (instant - x.now)) x).1.mapError .cancelled,
        (run (pause token (instant - x.now)) x).2) := rfl
  rcases run_pause_over_or_stopped token (instant - x.now) x with hr | ⟨hfires, reason, x', hr⟩
  · have hmax : x.now + (instant - x.now) = max instant x.now := by
      rw [Nat.add_comm, Nat.sub_add_eq_max]
    rw [hrun, hr, hmax]
    exact .inl rfl
  · rw [hrun, hr]
    exact .inr ⟨hfires, reason, x', rfl⟩

/-- A look is answered, unless a token fires. -/
theorem run_lookAt_cases (token : CancelToken) (hash : Hash) (instant : Instant) (x : Session σ) :
    run (lookAt token hash instant) x =
      (seen hash ((Node.reply (.transaction hash) (x.waited instant).peers).1.mapError .ofNode),
        looked hash (x.waited instant)) ∨
    (token ≠ .never ∧ ∃ reason x',
      run (lookAt token hash instant) x = (.error (.cancelled reason), x')) := by
  rcases run_waitUntil_cases token instant x with hwait | ⟨hfires, reason, x', hr⟩
  · have hquery : run (query token (.transaction hash)) (x.waited instant) =
        ((run (ask token (.transaction hash)) (x.waited instant)).1.mapError .ofNode,
          (run (ask token (.transaction hash)) (x.waited instant)).2) := run_adapt _ _ _
    rw [ask_eq_call] at hquery
    rcases run_call_answered_or_stopped token NodeError.cancelled (.node (.transaction hash))
      (Node.delay · (.transaction hash)) (Node.reply (.transaction hash)) (x.waited instant) with
      hr | ⟨hfires, reason, x', hr⟩
    · rw [hr] at hquery
      exact .inl (run_lookAt_of_query hwait hquery)
    · rw [hr] at hquery
      exact .inr ⟨hfires, reason, x', run_lookAt_of_query hwait hquery⟩
  · exact .inr ⟨hfires, reason, x', run_bind_of_error hr⟩

/-! ## Ends -/

/-- What can come of replacing a transaction: the raw transactions that are sent, the result, and the
    session after it. -/
inductive Replaces (s : Sender) (b : FeeBounds) (token : CancelToken) (t : Transaction)
    (y : Session σ) : List Bytes → Except DeliveryError ReplacementOutcome × Session σ → Prop
  | refused {e : DeliveryError} : bumpFees t b = .error e → Replaces s b token t y [] (.error e, y)
  | posted {q : TransactionRequest} {raws : List Bytes}
    {out : Except DeliveryError Receipt × Session σ} : bumpFees t b = .ok q →
    q.SameButFees t.request → s.Posts token q y raws out →
    Replaces s b token t y raws (out.1.map .replaced, out.2)

/-- What comes of a finding that ends a watch. -/
inductive Ends (s : Sender) (b : FeeBounds) (token : CancelToken) (hash : Hash) (y : Session σ) :
    Finding → List Bytes → Except DeliveryError ReplacementOutcome × Session σ → Prop
  | failed {e : NodeError} : Ends s b token hash y (.failed e) [] (.error (.ofNode e), y)
  | missing : Ends s b token hash y .missing [] (.error (.notFound (.transaction hash)), y)
  | mined : Ends s b token hash y .mined [] (.ok .mined, y)
  | stuck {t : Transaction} {raws : List Bytes}
    {out : Except DeliveryError ReplacementOutcome × Session σ} :
    s.Replaces b token t y raws out → Ends s b token hash y (.stuck t) raws out

variable {s : Sender} {b : FeeBounds} {token : CancelToken} {t : Transaction} {y : Session σ}
  {raws : List Bytes} {out : Except DeliveryError ReplacementOutcome × Session σ}

theorem replaces_finish (s : Sender) (b : FeeBounds) (token : CancelToken) (t : Transaction)
    (y : Session σ) : ∃ raws, s.Replaces b token t y raws (run (s.finish token t b) y) := by
  cases hbump : bumpFees t b with
  | error e =>
    have hreplace : run (s.replace token t b) y = (.error e, y) :=
      run_bind_of_error (by rw [hbump]; rfl)
    rw [finish, run_bind_of_error hreplace]
    exact ⟨[], .refused hbump⟩
  | ok q =>
    have hreplace : run (s.replace token t b) y = run (s.sign q >>= s.sendAndWait token) y :=
      run_bind_of_ok (by rw [hbump]; rfl)
    have hfinish : run (s.finish token t b) y =
        ((run (s.sign q >>= s.sendAndWait token) y).1.map .replaced,
          (run (s.sign q >>= s.sendAndWait token) y).2) := by
      rw [finish, run_bind, hreplace]
      rcases run (s.sign q >>= s.sendAndWait token) y with ⟨_ | _, _⟩ <;> rfl
    obtain ⟨raws, hposts⟩ := s.posts_sign token q y
    rw [hfinish]
    exact ⟨raws, .posted hbump (bumpFees_sameButFees hbump) hposts⟩

theorem Replaces.sendsAtOnce (h : s.Replaces b token t y raws out) : SendsAtOnce y out.2 raws := by
  cases h with
  | refused => exact .refl y
  | posted _ _ hposts => exact hposts.sendsAtOnce

theorem Ends.sendsAtOnce {found : Finding} (h : s.Ends b token hash y found raws out) :
    SendsAtOnce y out.2 raws := by
  cases h with
  | failed => exact .refl y
  | missing => exact .refl y
  | mined => exact .refl y
  | stuck h => exact h.sendsAtOnce

/-- A watch ends with at most one broadcast. -/
theorem Ends.length_le_one {found : Finding} (h : s.Ends b token hash y found raws out) :
    raws.length ≤ 1 := by
  cases h with
  | failed => simp
  | missing => simp
  | mined => simp
  | stuck h => cases h with
    | refused => simp
    | posted _ _ hposts => exact hposts.length_le_one

/-- Only a transaction that is found stuck is replaced. -/
theorem Ends.stuck_of_mem {found : Finding} (h : s.Ends b token hash y found raws out) {raw : Bytes}
    (hraw : raw ∈ raws) : ∃ t, found = .stuck t ∧ s.Replaces b token t y raws out := by
  cases h with
  | failed => cases hraw
  | missing => cases hraw
  | mined => cases hraw
  | stuck h => exact ⟨_, rfl, h⟩

theorem Ends.replaces {found : Finding} (h : s.Ends b token hash y found raws out)
    (hfound : found = .stuck t) : s.Replaces b token t y raws out := by
  cases h with
  | stuck h =>
    cases hfound
    exact h
  | _ => cases hfound

/-! ## Watches -/

variable {r : ReplaceSettings} {since : Instant}

omit [Node σ] in
theorem run_nowFrom (h : instant ≤ y.now) : run (nowFrom instant) y = (.ok ⟨y.now, h⟩, y) := by
  simp only [nowFrom, run_step, Nat.max_eq_right h]

theorem le_now_looked : instant ≤ (looked hash (x.waited instant)).now :=
  Nat.le_trans (Nat.le_max_left instant x.now) (Nat.le_add_right _ _)

/-- As long as the transaction is found waiting, all intervals so far fit into the threshold. -/
theorem le_div_of_waiting (hsince : since ≤ x.now) (hpositive : 0 < r.checkSecs) {k : Nat}
    (h : finding r hash since (x.now + seconds r.checkSecs) x k = .waiting) :
    k + 1 ≤ r.pendingSecs / r.checkSecs := by
  have hage := Finding.age_le_of_waiting h
  have hdue : x.now + (k + 1) * seconds r.checkSecs ≤ (looked hash
      (looking hash (seconds r.checkSecs) (x.now + seconds r.checkSecs) x k)).now := by
    rw [due_succ]
    exact Nat.le_trans (le_now_looking k) (Nat.le_add_right _ _)
  rw [Nat.le_div_iff_mul_le hpositive]
  exact le_of_age hsince hdue hage

/-- An answered look ends the watch, or the watch goes on from the next one. -/
theorem run_watch_of_looked (s : Sender) (r : ReplaceSettings) (positive : r.checkSecs ≠ 0)
    (since : Instant) {answer : Except NodeError (Option Transaction)}
    (hreply : (Node.reply (.transaction hash) (x.waited instant).peers).1 = answer)
    (h : run (lookAt token hash instant) x =
      (seen hash (answer.mapError .ofNode), looked hash (x.waited instant))) :
    (∃ raws, s.Ends r.bounds token hash (looked hash (x.waited instant))
      (finding r hash since instant x 0) raws
      (run (s.watch r positive token hash since instant) x)) ∨
    (finding r hash since instant x 0 = .waiting ∧
      run (s.watch r positive token hash since instant) x =
        run (s.watch r positive token hash since (instant + seconds r.checkSecs))
          (looked hash (x.waited instant))) := by
  have hfinding : finding r hash since instant x 0 =
      .of (seconds r.pendingSecs) ((looked hash (x.waited instant)).now - since) answer := by
    rw [← hreply]
    rfl
  rw [hfinding, watch]
  rcases answer with e | _ | t
  · rw [run_bind_of_error h]
    exact .inl ⟨[], .failed⟩
  · rw [run_bind_of_error h]
    exact .inl ⟨[], .missing⟩
  · by_cases hblock : t.block.isSome
    · have hlook : run (lookAt token hash instant) x = (.ok none, looked hash (x.waited instant)) :=
        h.trans (Prod.ext (seen_mined hash hblock) rfl)
      rw [run_bind_of_ok hlook, Finding.of, if_pos hblock]
      exact .inl ⟨[], .mined⟩
    · have hlook : run (lookAt token hash instant) x =
          (.ok (some t), looked hash (x.waited instant)) :=
        h.trans (Prod.ext (seen_pending hash hblock) rfl)
      rw [run_bind_of_ok hlook, Finding.of, if_neg hblock]
      simp only [run_bind_of_ok (run_nowFrom le_now_looked)]
      by_cases hwaiting : (looked hash (x.waited instant)).now - since ≤ seconds r.pendingSecs
      · rw [if_pos hwaiting, dif_pos hwaiting]
        exact .inr ⟨rfl, rfl⟩
      · rw [if_neg hwaiting, dif_neg hwaiting]
        obtain ⟨raws, hreplaces⟩ := s.replaces_finish r.bounds token t (looked hash (x.waited instant))
        exact .inl ⟨raws, .stuck hreplaces⟩

/-- **A watch** goes on as long as the transaction is found waiting, and ends with the first other
    finding, unless a token fires. -/
theorem run_watch (s : Sender) (r : ReplaceSettings) (positive : r.checkSecs ≠ 0)
    (token : CancelToken) (hash : Hash) (since instant : Instant) (x : Session σ) :
    ∃ n, (∀ k < n, finding r hash since instant x k = .waiting) ∧
      ((∃ raws, s.Ends r.bounds token hash
          (looked hash (looking hash (seconds r.checkSecs) instant x n))
          (finding r hash since instant x n) raws
          (run (s.watch r positive token hash since instant) x)) ∨
        (token ≠ .never ∧ ∃ reason x', Sends x x' [] ∧
          run (s.watch r positive token hash since instant) x = (.error (.cancelled reason), x'))) := by
  induction instant using watch_induction positive since generalizing x with
  | look instant ih =>
    rcases run_lookAt_cases token hash instant x with hlook | ⟨hfires, reason, x', hlook⟩
    · rcases run_watch_of_looked s r positive since rfl hlook with hends | ⟨hwaiting, hnext⟩
      · exact ⟨0, by simp, .inl hends⟩
      · obtain ⟨n, hbefore, hrest⟩ := ih _ le_now_looked (Finding.age_le_of_waiting hwaiting)
          (looked hash (x.waited instant))
        refine ⟨n + 1, fun k hk => ?_, ?_⟩
        · cases k with
          | zero => exact hwaiting
          | succ k => exact hbefore k (Nat.lt_of_succ_lt_succ hk)
        · rw [hnext]
          refine hrest.imp_right fun ⟨hfires, reason, x', hsends, hr⟩ => ⟨hfires, reason, x', ?_, hr⟩
          exact ((guarded_lookAt hash instant).sends_nothing hlook).trans hsends
    · refine ⟨0, by simp, .inr ⟨hfires, reason, x', ?_, ?_⟩⟩
      · exact (guarded_lookAt hash instant).sends_nothing hlook
      · rw [watch, run_bind_of_error hlook]

/-- With a token that does not fire, one of the first findings ends the watch. -/
theorem ends_replaceStuck {s : Sender} {r : ReplaceSettings} (hash : Hash) {since : Instant}
    {x : Session σ} (hreplace : s.settings.replace = some r) (hpositive : 0 < r.checkSecs)
    (hclock : r.checkSecs < clockLimit) (hsince : since ≤ x.now) :
    ∃ n ≤ r.pendingSecs / r.checkSecs, ∃ raws,
      (∀ k < n, finding r hash since (x.now + seconds r.checkSecs) x k = .waiting) ∧
      s.Ends r.bounds .never hash
        (looked hash (looking hash (seconds r.checkSecs) (x.now + seconds r.checkSecs) x n))
        (finding r hash since (x.now + seconds r.checkSecs) x n) raws
        (run (s.replaceStuck .never hash since) x) := by
  have hzero : r.checkSecs ≠ 0 := Nat.pos_iff_ne_zero.1 hpositive
  have hwatch : run (s.replaceStuck .never hash since) x =
      run (s.watch r hzero .never hash since (x.now + seconds r.checkSecs)) x := by
    simp only [replaceStuck, hreplace, hzero, ↓reduceDIte, Nat.not_le.2 hclock, ↓reduceIte]
    rfl
  obtain ⟨n, hbefore, ⟨raws, hends⟩ | ⟨hfires, -⟩⟩ :=
    run_watch s r hzero .never hash since (x.now + seconds r.checkSecs) x
  · refine ⟨n, ?_, raws, hbefore, by rwa [hwatch]⟩
    cases n with
    | zero => exact Nat.zero_le _
    | succ k => exact le_div_of_waiting hsince hpositive (hbefore k (Nat.lt_succ_self k))
  · exact absurd rfl hfires

/-- **The watch of a stuck transaction**, with a token that does not fire.  The transaction is looked
    up at most once more than the interval fits into the threshold, and the first look that does not
    find it waiting ends the watch.  If that look finds it stuck, its replacement may be sent, once,
    and is then followed; otherwise nothing is sent.  The looks are taken when they are due, as long as
    the answers take no time. -/
theorem replaceStuck_watch {s : Sender} {r : ReplaceSettings} (hash : Hash) {since : Instant}
    {x : Session σ} (hreplace : s.settings.replace = some r) (hpositive : 0 < r.checkSecs)
    (hclock : r.checkSecs < clockLimit) (hsince : since ≤ x.now) :
    let first := x.now + seconds r.checkSecs
    let look := looking hash (seconds r.checkSecs) first x
    let out := run (s.replaceStuck .never hash since) x
    ∃ n ≤ r.pendingSecs / r.checkSecs, ∃ raws later, raws.length ≤ 1 ∧
      (∀ k < n, finding r hash since first x k = .waiting) ∧
      s.Ends r.bounds .never hash (looked hash (look n)) (finding r hash since first x n) raws out ∧
      out.2.calls = x.calls ++
        (List.range (n + 1)).map (fun k => ((look k).now, .node (.transaction hash))) ++
        raws.map (fun raw => ((looked hash (look n)).now, .node (.send raw))) ++ later ∧
      (∀ c ∈ later, c.2.FollowsUp) ∧
      ∀ k, (∀ j < k, Node.delay (look j).peers (.transaction hash) = 0) →
        (look k).now = x.now + (k + 1) * seconds r.checkSecs := by
  intro first look out
  obtain ⟨n, hn, raws, hbefore, hends⟩ := ends_replaceStuck hash hreplace hpositive hclock hsince
  obtain ⟨later, hcalls, hfollows⟩ := hends.sendsAtOnce
  refine ⟨n, hn, raws, later, hends.length_le_one, hbefore, hends, ?_, hfollows, fun k hk => ?_⟩
  · rw [hcalls, calls_looked_looking]
    rfl
  · rw [due_succ]
    exact now_looking (Nat.le_add_right _ _) hk

end

/-! ### A replacement after fifteen seconds -/

namespace Sample

/-- Looks every five seconds, and replaces after ten. -/
def replacing : ReplaceSettings := ⟨5, 10, ⟨1, 20000, 1, 20000, 1, 20000⟩⟩

/-- A sender that replaces what is stuck. -/
def watcher : Sender :=
  ⟨.readable ⟨List.replicate 20 17, rfl⟩ 1 none, ⟨[]⟩,
    { TransactionSettings.default with replace := some replacing }⟩

/-- A transaction that stays pending. -/
def pending (sender : Option Address) : Transaction where
  hash := .zero 32
  type := legacyType
  block := none
  request := {
    sender
    recipient := some (.call (.zero 20))
    nonce := some 4
    gas := some 21000
    gasPrice := some 19800 }

/-- A session with a node on which the transaction stays pending. -/
def watched (sender : Option Address) : Session ScriptedPeers :=
  ⟨{ node := { transactions := [(.zero 32, [.ok (some (pending sender))])], autoMine := some true } },
    0, [], ⟨.memory [], 1, 1⟩, false⟩

/-- The transaction with a higher price. -/
def dearer (sender : Option Address) : TransactionRequest :=
  { (pending sender).request with gasPrice := some 19801 }

/-- What is sent for it. -/
def raw (sender : Option Address) : Bytes := utf8 (dearer sender).readable

/-- A look at the transaction. -/
def lookup : Call := .node (.transaction (.zero 32))

variable (sender : Option Address)

/-- What look `k` finds. -/
abbrev found (k : Nat) : Finding :=
  finding replacing (.zero 32) 0 5000 (watched sender) k

theorem found_first : found sender 0 = .waiting := by
  unfold found finding
  rfl

theorem found_second : found sender 1 = .waiting := by
  unfold found finding
  rfl

theorem found_third : found sender 2 = .stuck (pending sender) := by
  unfold found finding
  rfl

/-- The node answers at once. -/
theorem delay_look {instant : Instant} : ∀ k ≤ 2,
    Node.delay (looking (.zero 32) 5000 instant (watched sender) k).peers (.transaction (.zero 32)) = 0
  | 0, _ => rfl
  | 1, _ => rfl
  | 2, _ => rfl

/-- A watch with a replacement that can be signed ends with it, at its third look. -/
theorem sent_of_ends {s : Sender} {b : FeeBounds} {q : TransactionRequest} {signed : Bytes}
    (hbump : bumpFees (pending sender) b = .ok q) (hsign : s.account.sign q = .ok signed) {n : Nat}
    (hn : n ≤ 2) {y : Session ScriptedPeers} {raws : List Bytes}
    {out : Except DeliveryError ReplacementOutcome × Session ScriptedPeers}
    (h : s.Ends b .never (.zero 32) y (found sender n) raws out) : n = 2 ∧ raws = [signed] := by
  obtain rfl | rfl | rfl : n = 0 ∨ n = 1 ∨ n = 2 := by omega
  · rw [found_first] at h
    cases h
  · rw [found_second] at h
    cases h
  · cases h.replaces (found_third sender) with
    | refused hrefused => cases hbump.symm.trans hrefused
    | posted hbump' _ hposts =>
      obtain rfl := Except.ok.inj (hbump.symm.trans hbump')
      cases hposts with
      | unsigned hsign' => cases hsign.symm.trans hsign'
      | stopped _ hcheck => cases hcheck
      | sent hsign' _ =>
        rw [Except.ok.inj (hsign.symm.trans hsign')]
        exact ⟨rfl, rfl⟩

/-- The watch can end in no other way than with the dearer transaction. -/
theorem replaces_of_ends {n : Nat} (hn : n ≤ 2) {y : Session ScriptedPeers} {raws : List Bytes}
    {out : Except DeliveryError ReplacementOutcome × Session ScriptedPeers}
    (h : watcher.Ends replacing.bounds .never (.zero 32) y (found sender n) raws out) :
    n = 2 ∧ raws = [raw sender] :=
  sent_of_ends sender rfl rfl hn h

end Sample

/-- A transaction that stays pending is looked up three times and replaced after fifteen seconds. -/
theorem replaceStuck_watch_fifteen :
    Sample.watcher.settings.replace = some Sample.replacing ∧ ∃ later,
      (run (Sample.watcher.replaceStuck .never (.zero 32) 0) (Sample.watched none)).2.calls =
        [(5000, Sample.lookup), (10000, Sample.lookup), (15000, Sample.lookup),
          (15000, .node (.send (Sample.raw none)))] ++ later ∧
      ∀ c ∈ later, c.2.FollowsUp := by
  have hwatch := replaceStuck_watch (s := Sample.watcher) (r := Sample.replacing) (.zero 32) rfl
    (by decide) (by decide) (Nat.zero_le (Sample.watched none).now)
  obtain ⟨n, hn, raws, later, -, -, hends, hcalls, hfollows, hdue⟩ := hwatch
  obtain ⟨rfl, rfl⟩ := Sample.replaces_of_ends none hn hends
  have hdue : ∀ k ≤ 2, (looking (.zero 32) 5000 5000 (Sample.watched none) k).now =
      0 + (k + 1) * 5000 :=
    fun k hk => hdue k fun j hj => Sample.delay_look none j (Nat.le_trans (Nat.le_of_lt hj) hk)
  have hcalls : _ = [] ++ (List.range 3).map (fun k =>
      ((looking (.zero 32) 5000 5000 (Sample.watched none) k).now, Sample.lookup)) ++
    [((looking (.zero 32) 5000 5000 (Sample.watched none) 2).now +
      Node.delay (looking (.zero 32) 5000 5000 (Sample.watched none) 2).peers
        (.transaction (.zero 32)), .node (.send (Sample.raw none)))] ++ later := hcalls
  rw [Sample.delay_look none 2 (Nat.le_refl 2)] at hcalls
  exact ⟨rfl, later, by simpa [List.range_succ, hdue] using hcalls, hfollows⟩

end Sender

end PacketRelay
