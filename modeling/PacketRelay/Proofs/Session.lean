/-
  What operations do to a session.

  * `run_bind_ok` and `run_adapt` take apart an operation that has succeeded;
  * `After p p'` says that the peers can get from `p` to `p'` by answering queries;
  * `OnlyAsks x`: all that `x` does to a session is to ask the peers, so it keeps the checkpoints and
    leaves the peers in a state after the one it started in;
  * `call` is what both kinds of queries do, and `call_ok` that an answer is the peer's reply.
-/
import PacketRelay.Session

namespace PacketRelay.Session

variable {σ ε ε' α β : Type}

/-! ## Results -/

@[simp] theorem run_pure (a : α) (s : Session σ) : run (pure a : Run σ ε α) s = (.ok a, s) := rfl

@[simp] theorem run_step (f : Session σ → Except ε α × Session σ) (s : Session σ) :
    run (step f) s = f s := rfl

/-- What comes after a result: the next operation, unless there has been an error. -/
def continued (f : α → Run σ ε β) : Except ε α × Session σ → Except ε β × Session σ
  | (.ok a, s) => run (f a) s
  | (.error e, s) => (.error e, s)

@[simp] theorem continued_ok (f : α → Run σ ε β) (a : α) (s : Session σ) :
    continued f (.ok a, s) = run (f a) s := rfl

@[simp] theorem continued_error (f : α → Run σ ε β) (e : ε) (s : Session σ) :
    continued f (.error e, s) = (.error e, s) := rfl

theorem run_bind (x : Run σ ε α) (f : α → Run σ ε β) (s : Session σ) :
    run (x >>= f) s = continued f (run x s) := by
  change (ExceptT.bindCont f (run x s).1) (run x s).2 = _
  rcases run x s with ⟨_ | _, s'⟩ <;> rfl

theorem run_bind_of_ok {x : Run σ ε α} {f : α → Run σ ε β} {s s' : Session σ} {a : α}
    (h : run x s = (.ok a, s')) : run (x >>= f) s = run (f a) s' := by
  rw [run_bind, h, continued_ok]

theorem run_bind_of_error {x : Run σ ε α} {f : α → Run σ ε β} {s s' : Session σ} {e : ε}
    (h : run x s = (.error e, s')) : run (x >>= f) s = (.error e, s') := by
  rw [run_bind, h, continued_error]

theorem run_bind_ok {x : Run σ ε α} {f : α → Run σ ε β} {s s'' : Session σ} {b : β}
    (h : run (x >>= f) s = (.ok b, s'')) :
    ∃ a s', run x s = (.ok a, s') ∧ run (f a) s' = (.ok b, s'') := by
  rw [run_bind] at h
  rcases hx : run x s with ⟨e | a, s'⟩ <;> rw [hx] at h
  · cases h
  · exact ⟨a, s', rfl, h⟩

/-- What two operations in a row fail with, the first or the second one fails with. -/
theorem run_bind_error {x : Run σ ε α} {f : α → Run σ ε β} {s s'' : Session σ} {e : ε}
    (h : run (x >>= f) s = (.error e, s'')) :
    run x s = (.error e, s'') ∨ ∃ a s', run x s = (.ok a, s') ∧ run (f a) s' = (.error e, s'') := by
  rw [run_bind] at h
  rcases hx : run x s with ⟨e' | a, s'⟩ <;> rw [hx] at h
  · cases h
    exact .inl rfl
  · exact .inr ⟨a, s', rfl, h⟩

theorem run_adapt (g : ε → ε') (x : Run σ ε α) (s : Session σ) :
    run (ExceptT.adapt g x : Run σ ε' α) s = ((run x s).1.mapError g, (run x s).2) := by
  rfl

theorem run_adapt_ok {g : ε → ε'} {x : Run σ ε α} {s s' : Session σ} {a : α}
    (h : run (ExceptT.adapt g x : Run σ ε' α) s = (.ok a, s')) : run x s = (.ok a, s') := by
  rw [run_adapt] at h
  rcases hx : run x s with ⟨e | a', s''⟩ <;> rw [hx] at h <;> cases h
  rfl

/-! ## Asking -/

section
variable [Node σ] [Counterparty σ]

/-- The states the peers can come to by answering queries. -/
inductive After (p : σ) : σ → Prop
  | refl : After p p
  | node {p' : σ} (q : Query) : After p p' → After p (Node.reply q p').2
  | counterparty {p' : σ} (q : CounterpartyQuery) : After p p' → After p (Counterparty.reply q p').2

theorem After.trans {p p' p'' : σ} (h : After p p') (h' : After p' p'') : After p p'' := by
  induction h' with
  | refl => exact h
  | node q _ ih => exact .node q ih
  | counterparty q _ ih => exact .counterparty q ih

/-- All that an operation does is to ask the peers. -/
structure OnlyAsks (x : Run σ ε α) : Prop where
  checkpoints (s : Session σ) : (run x s).2.checkpoints = s.checkpoints
  peers (s : Session σ) : After s.peers (run x s).2.peers

theorem OnlyAsks.after {x : Run σ ε α} (hx : OnlyAsks x) {s s' : Session σ} {r : Except ε α}
    (h : run x s = (r, s')) {p : σ} (hp : After p s.peers) : After p s'.peers := by
  have := hx.peers s
  rw [h] at this
  exact hp.trans this

end

/-! ## Calls and answers -/

/-- Looking at a token leaves the session alone. -/
theorem check_ok {g : CancelReason → ε} {token : CancelToken} {s s' : Session σ} {u : Unit}
    (h : run (ExceptT.adapt g (check token)) s = (.ok u, s')) : s' = s := by
  have := run_adapt_ok h
  simp only [check, run_step] at this
  split at this
  · cases this
  · exact (congrArg Prod.snd this).symm

/-- Calls a peer, unless the token fires first. -/
def call (token : CancelToken) (cancelled : CancelReason → ε) (c : Call) (delay : σ → Nat)
    (reply : σ → Except ε α × σ) : Run σ ε α := do
  ExceptT.adapt cancelled (check token)
  step fun s =>
    let s := s.record c
    match token.interruption? s.now (delay s.peers) with
    | some (instant, reason) => (.error (cancelled reason), { s with now := instant })
    | none =>
      let (answer, peers) := reply s.peers
      (answer, { s with peers, now := s.now + delay s.peers })

theorem ask_eq_call [Node σ] (token : CancelToken) (q : Query) :
    ask token q = call (σ := σ) token .cancelled (.node q) (Node.delay · q) (Node.reply q) := rfl

theorem askCounterparty_eq_call [Counterparty σ] (token : CancelToken) (q : CounterpartyQuery) :
    askCounterparty token q = call (σ := σ) token .cancelled (.counterparty q)
      (Counterparty.delay · q) (Counterparty.reply q) := rfl

/-- An answer is the reply of the peer that is called. -/
theorem call_ok {token : CancelToken} {cancelled : CancelReason → ε} {c : Call} {delay : σ → Nat}
    {reply : σ → Except ε α × σ} {s s' : Session σ} {a : α}
    (h : run (call token cancelled c delay reply) s = (.ok a, s')) :
    (reply s.peers).1 = .ok a := by
  obtain ⟨_, s₁, hc, ha⟩ := run_bind_ok h
  obtain rfl := check_ok hc
  simp only [run_step] at ha
  split at ha
  · cases ha
  · exact congrArg Prod.fst ha

theorem ask_ok [Node σ] {token : CancelToken} {q : Query} {s s' : Session σ} {a : q.Answer}
    (h : run (ask token q) s = (.ok a, s')) : (Node.reply q s.peers).1 = .ok a := by
  rw [ask_eq_call] at h
  exact call_ok h

theorem askCounterparty_ok [Counterparty σ] {token : CancelToken} {q : CounterpartyQuery}
    {s s' : Session σ} {a : q.Answer} (h : run (askCounterparty token q) s = (.ok a, s')) :
    (Counterparty.reply q s.peers).1 = .ok a := by
  rw [askCounterparty_eq_call] at h
  exact call_ok h

end PacketRelay.Session
