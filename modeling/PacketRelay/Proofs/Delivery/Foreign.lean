/-
  Watching a transaction of another account.

  What the node reports about a transaction includes its sender.  A watch does not look at it, and an
  account of a secret key signs everything in its own name.

  * `Account.signsAsItself_ofKey`: what such an account signs does not depend on the sender;
  * `replaceStuck_relabelled`: a watch does the same, whoever the node says has sent the transaction;
  * `replaceStuck_foreign`: a transaction of another account is signed and sent like one of its own.
-/
import PacketRelay.Proofs.Delivery.Watch

namespace PacketRelay

open Session

variable {σ : Type}

/-! ## Other senders -/

/-- The transaction as one of another sender. -/
def Transaction.withSender (t : Transaction) (sender : Option Address) : Transaction :=
  { t with request := { t.request with sender } }

/-- The node reports other senders of the transactions that are looked up. -/
@[reducible] def Node.relabelled [Node σ] (sender : Transaction → Option Address) : Node σ where
  delay := Node.delay
  reply
    | .transaction hash, p =>
      ((Node.reply (.transaction hash) p).1.map fun found : Option Transaction =>
        found.map fun t => t.withSender (sender t), (Node.reply (.transaction hash) p).2)
    | q, p => Node.reply q p

/-- An account that signs requests in its own name, whoever they are said to come from. -/
def Account.SignsAsItself (a : Account) : Prop :=
  ∀ (q : TransactionRequest) (sender : Option Address), a.sign { q with sender } = a.sign q

theorem Account.ofKey_of_key? {secret : Secret} {key : Nat} (h : key? secret = some key)
    (chainId : Nat) : ofKey secret chainId =
      .ok ⟨addressOfKey key, chainId, signWith key (addressOfKey key) chainId⟩ := by
  unfold ofKey
  rw [h]

/-- The account of a secret key does. -/
theorem Account.signsAsItself_ofKey {secret : Secret} {chainId : Nat} {a : Account}
    (h : ofKey secret chainId = .ok a) : a.SignsAsItself := by
  unfold ofKey at h
  split at h
  · cases h
  · obtain rfl := Except.ok.inj h
    exact fun q sender => rfl

/-- The fees of a transaction are raised without regard to its sender. -/
theorem bumpFees_withSender (t : Transaction) (sender : Option Address) (b : FeeBounds) :
    bumpFees (t.withSender sender) b = (bumpFees t b).map fun q => { q with sender } := by
  simp only [bumpFees, Transaction.withSender]
  by_cases hprice : t.type = legacyType ∨ t.type = accessListType
  · simp only [hprice, ↓reduceIte]
    cases raised .gasPrice (t.request.gasPrice.getD 0) b.gasPriceIncrement b.maxGasPrice <;> rfl
  · simp only [hprice, ↓reduceIte]
    by_cases hcaps : t.type = dynamicFeeType ∨ t.type = blobType
    · simp only [hcaps, ↓reduceIte]
      cases raised .tipCap (t.request.tipCap.getD 0) b.tipCapIncrement b.maxTipCap with
      | error e => rfl
      | ok tipCap =>
        cases raised .feeCap (t.request.feeCap.getD 0) b.feeCapIncrement b.maxFeeCap <;> rfl
    · simp only [hcaps, ↓reduceIte]
      rfl

namespace Sender

open Delivery

variable [Node σ] {s : Sender} {token : CancelToken} {hash : Hash}
  {sender : Transaction → Option Address}

theorem waitForReceipt_relabelled :
    @waitForReceipt σ (Node.relabelled sender) s token hash = s.waitForReceipt token hash := by
  have hpoll : ∀ left, @pollReceipt σ (Node.relabelled sender) s token hash left =
      s.pollReceipt token hash left := by
    intro left
    induction left with
    | zero => rfl
    | succ left ih =>
      unfold pollReceipt
      rw [ih]
      rfl
  exact hpoll _

theorem sendAndWait_relabelled (raw : Bytes) :
    @sendAndWait σ (Node.relabelled sender) s token raw = s.sendAndWait token raw := by
  have hsubmit : @submit σ (Node.relabelled sender) token raw = submit token raw := rfl
  unfold sendAndWait
  rw [hsubmit]
  simp only [waitForReceipt_relabelled]

theorem finish_relabelled (t : Transaction) (b : FeeBounds) :
    @finish σ (Node.relabelled sender) s token t b = s.finish token t b := by
  unfold finish replace
  simp only [sendAndWait_relabelled]

omit [Node σ] in
theorem lift_ok_bind {α β : Type} (a : α) (f : α → Run σ DeliveryError β) :
    lift (.ok a) >>= f = f a := rfl

theorem finish_withSender (hself : s.account.SignsAsItself) (t : Transaction) (other : Option Address)
    (b : FeeBounds) : s.finish (σ := σ) token (t.withSender other) b = s.finish token t b := by
  unfold finish replace
  rw [bumpFees_withSender]
  cases bumpFees t b with
  | error e => rfl
  | ok q =>
    have hsign : s.sign (σ := σ) { q with sender := other } = s.sign q := by
      rw [sign, sign, hself]
    simp only [Except.map, lift_ok_bind, hsign]

/-- The transaction that has been found, if any, reported with another sender. -/
abbrev relabel (sender : Transaction → Option Address) {ε : Type} :
    Except ε (Option Transaction) → Except ε (Option Transaction) :=
  Except.map (Option.map fun t => t.withSender (sender t))

omit [Node σ] in
theorem mapError_relabel {ε ε' : Type} (sender : Transaction → Option Address) (g : ε → ε')
    (answer : Except ε (Option Transaction)) :
    (relabel sender answer).mapError g = relabel sender (answer.mapError g) := by
  cases answer <;> rfl

/-- A lookup is answered with the same transaction, reported with another sender. -/
theorem run_query_relabelled (sender : Transaction → Option Address) (token : CancelToken)
    (hash : Hash) (x : Session σ) : ∃ (answer : Except DeliveryError (Option Transaction)) (x' : _),
      run (query token (.transaction hash)) x = (answer, x') ∧
      run (@query σ (Node.relabelled sender) token (.transaction hash)) x =
        (relabel sender answer, x') := by
  have hquery (N : Node σ) : run (@query σ N token (.transaction hash)) x =
      ((run (@ask σ N token (.transaction hash)) x).1.mapError .ofNode,
        (run (@ask σ N token (.transaction hash)) x).2) := run_adapt _ _ _
  have hask (N : Node σ) : @ask σ N token (.transaction hash) = call token .cancelled
      (.node (.transaction hash)) (@Node.delay σ N · (.transaction hash))
      (@Node.reply σ N (.transaction hash)) := rfl
  rw [hquery, hquery, hask, hask]
  cases hc : token.check x.now with
  | some reason =>
    rw [run_call_refused hc, run_call_refused hc]
    exact ⟨_, _, rfl, rfl⟩
  | none =>
    cases hi : token.interruption? x.now (Node.delay x.peers (.transaction hash)) with
    | some stop =>
      rw [run_call_stopped hc hi, run_call_stopped hc hi]
      exact ⟨_, _, rfl, rfl⟩
    | none =>
      rw [run_call_answered hc hi, run_call_answered hc hi]
      exact ⟨_, _, rfl, Prod.ext (mapError_relabel sender DeliveryError.ofNode _) rfl⟩

theorem seen_relabel (sender : Transaction → Option Address) (hash : Hash)
    (answer : Except DeliveryError (Option Transaction)) :
    seen hash (relabel sender answer) = relabel sender (seen hash answer) := by
  rcases answer with e | _ | t
  · rfl
  · rfl
  · cases hblock : t.block <;> simp [hblock, seen, Transaction.withSender, Except.map]

/-- A look finds the same transaction, reported with another sender. -/
theorem run_lookAt_relabelled (sender : Transaction → Option Address) (token : CancelToken)
    (hash : Hash) (instant : Instant) (x : Session σ) :
    run (@lookAt σ (Node.relabelled sender) token hash instant) x =
      (relabel sender (run (lookAt token hash instant) x).1,
        (run (lookAt token hash instant) x).2) := by
  rcases hwait : run (waitUntil token instant) x with ⟨e | _, y⟩
  · have hstopped (N : Node σ) : run (@lookAt σ N token hash instant) x = (.error e, y) :=
      run_bind_of_error hwait
    rw [hstopped, hstopped]
    rfl
  · obtain ⟨answer, y', hquery, hquery'⟩ := run_query_relabelled sender token hash y
    have hlook := @run_lookAt_of_query σ (Node.relabelled sender) hash instant x token y y' _ hwait
      hquery'
    rw [hlook, run_lookAt_of_query hwait hquery, seen_relabel]

theorem run_watch_relabelled (hself : s.account.SignsAsItself) (r : ReplaceSettings)
    (positive : r.checkSecs ≠ 0) (since instant : Instant) (x : Session σ) :
    run (@watch σ (Node.relabelled sender) s r positive token hash since instant) x =
      run (s.watch r positive token hash since instant) x := by
  induction instant using watch_induction positive since generalizing x with
  | look instant ih =>
    unfold watch
    have hlook' := run_lookAt_relabelled sender token hash instant x
    rcases hlook : run (lookAt token hash instant) x with ⟨e | _ | t, y⟩
    all_goals rw [hlook] at hlook'
    · rw [run_bind_of_error hlook]
      exact run_bind_of_error hlook'
    · rw [run_bind_of_ok hlook]
      exact run_bind_of_ok hlook'
    · rw [run_bind_of_ok hlook]
      refine (run_bind_of_ok hlook').trans ?_
      change run (if _ : max instant y.now - since ≤ seconds r.pendingSecs then _ else _) y =
        run (if _ : max instant y.now - since ≤ seconds r.pendingSecs then _ else _) y
      by_cases hwaiting : max instant y.now - since ≤ seconds r.pendingSecs
      · rw [dif_pos hwaiting, dif_pos hwaiting]
        exact ih _ (Nat.le_max_left instant y.now) hwaiting y
      · rw [dif_neg hwaiting, dif_neg hwaiting, finish_relabelled, finish_withSender hself]

/-- **A watch never looks at the sender** of the transaction.  Whoever the node says has sent it, the
    account of a secret key signs its replacement in its own name, and the whole run is the same. -/
theorem replaceStuck_relabelled {secret : Secret} {chainId : Nat}
    (hkey : Account.ofKey secret chainId = .ok s.account) (since : Instant) :
    @replaceStuck σ (Node.relabelled sender) s token hash since =
      s.replaceStuck token hash since := by
  have hself := Account.signsAsItself_ofKey hkey
  unfold replaceStuck
  cases s.settings.replace with
  | none => rfl
  | some r =>
    by_cases hzero : r.checkSecs = 0
    · simp only [hzero, ↓reduceDIte]
    · simp only [hzero, ↓reduceDIte]
      split
      · rfl
      · funext x
        exact run_watch_relabelled hself r hzero since _ x

namespace Sample

/-- The text of the secret key one. -/
def secret : Secret := ⟨"0x0000000000000000000000000000000000000000000000000000000000000001"⟩

/-- The account of the key. -/
def owner : Sender :=
  ⟨⟨Account.addressOfKey 1, 1, Account.signWith 1 (Account.addressOfKey 1) 1⟩, ⟨[]⟩,
    watcher.settings⟩

theorem ofKey_secret : Account.ofKey secret 1 = .ok owner.account :=
  Account.ofKey_of_key? (by decide +kernel) 1

/-- Someone else. -/
def stranger : Address := ⟨List.replicate 20 34, rfl⟩

end Sample

/-- The replacement of a stranger's transaction. -/
theorem replaceStuck_relabelled_stranger :
    Account.ofKey Sample.secret 1 = .ok Sample.owner.account ∧
    run (@replaceStuck ScriptedPeers (Node.relabelled fun _ => some Sample.stranger) Sample.owner
        .never (.zero 32) 0) (Sample.watched none) =
      run (Sample.owner.replaceStuck .never (.zero 32) 0) (Sample.watched none) :=
  ⟨Sample.ofKey_secret, congrArg (run · _) (replaceStuck_relabelled Sample.ofKey_secret 0)⟩

/-- **A stranger's transaction** is signed and sent like one of the account's own. -/
theorem replaceStuck_foreign :
    (Sample.pending (some Sample.stranger)).request.sender = some Sample.stranger ∧
    Sample.stranger ≠ Sample.watcher.account.address ∧
    sentBy (run (Sample.watcher.replaceStuck .never (.zero 32) 0)
      (Sample.watched (some Sample.stranger))).2.calls = [Sample.raw (some Sample.stranger)] := by
  refine ⟨rfl, by decide, ?_⟩
  obtain ⟨n, hn, raws, -, hends⟩ := ends_replaceStuck (s := Sample.watcher) (r := Sample.replacing)
    (.zero 32) rfl (by decide) (by decide)
    (Nat.zero_le (Sample.watched (some Sample.stranger)).now)
  obtain ⟨rfl, rfl⟩ := Sample.replaces_of_ends _ hn hends
  obtain ⟨new, hnew, hsent⟩ := (sends_looked_looking 2).trans hends.sendsAtOnce.sends
  rw [hnew]
  exact hsent

end Sender

end PacketRelay
