/-
  Operations that a token guards.

  Where an operation waits, it waits for an answer or for a pause to end, and the token can end both.
  `Guarded token allowed x` says that `x` is built in this way and that the calls it makes, with what
  they do to the peers, are `allowed`.  What holds of every such operation is proved here once:

  * `Guarded.checkpoints`: the checkpoints are left alone;
  * `Guarded.calls`: the calls are appended to those made before; all are allowed, and none is made
    when the token has fired.
-/
import PacketRelay.Proofs.Session

namespace PacketRelay.Session

variable {σ ε ε' α β : Type}

/-- A token that never fires cuts no wait short. -/
theorem interruption?_never (now : Instant) (length : Nat) :
    CancelToken.never.interruption? now length = none := by
  rw [CancelToken.interruption?]
  split <;> rfl

/-- A token that has fired is not the one that never fires. -/
theorem ne_never_of_check {token : CancelToken} {now : Instant} {reason : CancelReason}
    (h : token.check now = some reason) : token ≠ .never := by
  rintro rfl
  cases h

theorem ne_never_of_interruption {token : CancelToken} {now : Instant} {length : Nat}
    {firing : Instant × CancelReason} (h : token.interruption? now length = some firing) :
    token ≠ .never := by
  rintro rfl
  rw [interruption?_never] at h
  cases h

/-! ## Calls -/

/-- The session after a call that has been answered. -/
def answered (c : Call) (delay : σ → Nat) (reply : σ → Except ε α × σ) (s : Session σ) : Session σ :=
  { s.record c with peers := (reply s.peers).2, now := s.now + delay s.peers }

theorem run_check_some {g : CancelReason → ε} {token : CancelToken} {s : Session σ}
    {reason : CancelReason} (h : token.check s.now = some reason) :
    run (ExceptT.adapt g (check token)) s = (.error (g reason), s) := by
  rw [run_adapt, check, run_step, h]
  rfl

theorem run_check_none {g : CancelReason → ε} {token : CancelToken} {s : Session σ}
    (h : token.check s.now = none) : run (ExceptT.adapt g (check token)) s = (.ok (), s) := by
  rw [run_adapt, check, run_step, h]
  rfl

section
variable {token : CancelToken} {cancelled : CancelReason → ε} {c : Call} {delay : σ → Nat}
  {reply : σ → Except ε α × σ} {s : Session σ}

/-- A token that has fired refuses a call. -/
theorem run_call_refused {reason : CancelReason} (h : token.check s.now = some reason) :
    run (call token cancelled c delay reply) s = (.error (cancelled reason), s) := by
  rw [call, run_bind, run_check_some h, continued_error]

/-- A call is given up when the token fires before the answer. -/
theorem run_call_stopped {instant : Instant} {reason : CancelReason}
    (h : token.check s.now = none)
    (hi : token.interruption? s.now (delay s.peers) = some (instant, reason)) :
    run (call token cancelled c delay reply) s =
      (.error (cancelled reason), { s.record c with now := instant }) := by
  rw [call, run_bind, run_check_none h, continued_ok, run_step]
  simp only [record, hi]

theorem run_call_answered (h : token.check s.now = none)
    (hi : token.interruption? s.now (delay s.peers) = none) :
    run (call token cancelled c delay reply) s =
      ((reply s.peers).1, s.answered c delay reply) := by
  rw [call, run_bind, run_check_none h, continued_ok, run_step]
  simp only [record, hi, answered]

/-- A call is refused, given up, or answered. -/
theorem run_call_cases (token : CancelToken) (cancelled : CancelReason → ε) (c : Call)
    (delay : σ → Nat) (reply : σ → Except ε α × σ) (s : Session σ) :
    (∃ reason, token.check s.now = some reason ∧
      run (call token cancelled c delay reply) s = (.error (cancelled reason), s)) ∨
    (∃ instant reason, token.check s.now = none ∧
      token.interruption? s.now (delay s.peers) = some (instant, reason) ∧
      run (call token cancelled c delay reply) s =
        (.error (cancelled reason), { s.record c with now := instant })) ∨
    (token.check s.now = none ∧ token.interruption? s.now (delay s.peers) = none ∧
      run (call token cancelled c delay reply) s =
        ((reply s.peers).1, s.answered c delay reply)) := by
  cases hc : token.check s.now with
  | some reason => exact .inl ⟨reason, rfl, run_call_refused hc⟩
  | none =>
    cases hi : token.interruption? s.now (delay s.peers) with
    | some at' => exact .inr (.inl ⟨at'.1, at'.2, rfl, rfl, run_call_stopped hc hi⟩)
    | none => exact .inr (.inr ⟨rfl, rfl, run_call_answered hc hi⟩)

/-- A call is answered, unless a token fires. -/
theorem run_call_answered_or_stopped (token : CancelToken) (cancelled : CancelReason → ε) (c : Call)
    (delay : σ → Nat) (reply : σ → Except ε α × σ) (s : Session σ) :
    run (call token cancelled c delay reply) s = ((reply s.peers).1, s.answered c delay reply) ∨
    (token ≠ .never ∧ ∃ reason s',
      run (call token cancelled c delay reply) s = (.error (cancelled reason), s')) := by
  rcases run_call_cases token cancelled c delay reply s with
    ⟨reason, hc, hr⟩ | ⟨_, reason, _, hi, hr⟩ | ⟨_, _, hr⟩
  · exact .inr ⟨ne_never_of_check hc, reason, _, hr⟩
  · exact .inr ⟨ne_never_of_interruption hi, reason, _, hr⟩
  · exact .inl hr

end

/-- The session after the node has answered a query. -/
def asked [Node σ] (q : Query) (s : Session σ) : Session σ :=
  s.answered (.node q) (Node.delay · q) (Node.reply q)

/-- What is asked is answered, when no token fires. -/
theorem run_ask_never [Node σ] (q : Query) (s : Session σ) :
    run (ask .never q) s = ((Node.reply q s.peers).1, s.asked q) := by
  rw [ask_eq_call]
  exact run_call_answered rfl (interruption?_never _ _)

/-! ## Pauses -/

section
variable {token : CancelToken} {length : Nat} {s : Session σ}

theorem run_pause_over (h : token.check s.now = none)
    (hi : token.interruption? s.now length = none) :
    run (pause token length) s = (.ok (), { s with now := s.now + length }) := by
  have hcheck : run (check token) s = (.ok (), s) := by rw [check, run_step, h]
  rw [pause, run_bind, hcheck, continued_ok, run_step, hi]

/-- A pause is refused, cut short, or over. -/
theorem run_pause_cases (token : CancelToken) (length : Nat) (s : Session σ) :
    (∃ reason, token.check s.now = some reason ∧
      run (pause token length) s = (.error reason, s)) ∨
    (∃ instant reason, token.check s.now = none ∧
      token.interruption? s.now length = some (instant, reason) ∧
      run (pause token length) s = (.error reason, { s with now := instant })) ∨
    (token.check s.now = none ∧ token.interruption? s.now length = none ∧
      run (pause token length) s = (.ok (), { s with now := s.now + length })) := by
  cases hc : token.check s.now with
  | some reason =>
    have hcheck : run (check token) s = (.error reason, s) := by rw [check, run_step, hc]
    exact .inl ⟨reason, rfl, by rw [pause, run_bind, hcheck, continued_error]⟩
  | none =>
    cases hi : token.interruption? s.now length with
    | none => exact .inr (.inr ⟨rfl, rfl, run_pause_over hc hi⟩)
    | some at' =>
      have hcheck : run (check token) s = (.ok (), s) := by rw [check, run_step, hc]
      refine .inr (.inl ⟨at'.1, at'.2, rfl, rfl, ?_⟩)
      rw [pause, run_bind, hcheck, continued_ok, run_step, hi]

/-- A pause is over in the end, unless a token fires. -/
theorem run_pause_over_or_stopped (token : CancelToken) (length : Nat) (s : Session σ) :
    run (pause token length) s = (.ok (), { s with now := s.now + length }) ∨
    (token ≠ .never ∧ ∃ reason s', run (pause token length) s = (.error reason, s')) := by
  rcases run_pause_cases token length s with
    ⟨reason, hc, hr⟩ | ⟨_, reason, _, hi, hr⟩ | ⟨_, _, hr⟩
  · exact .inr ⟨ne_never_of_check hc, reason, _, hr⟩
  · exact .inr ⟨ne_never_of_interruption hi, reason, _, hr⟩
  · exact .inl hr

end

/-! ## Guarded operations -/

/-- The operation waits for nothing that the token does not guard, and makes no calls but those that
    are allowed.  The token ends it with the error that stands for the reason. -/
inductive Guarded (token : CancelToken) (allowed : Call → σ → σ → Prop) :
    {ε α : Type} → (CancelReason → ε) → Run σ ε α → Prop
  /-- A result that is read off the session. -/
  | view {ε α : Type} {cancelled : CancelReason → ε} (f : Session σ → Except ε α) :
    Guarded token allowed cancelled (step fun s => (f s, s))
  | remember {ε : Type} {cancelled : CancelReason → ε} (isOpen : Bool) :
    Guarded token allowed cancelled
      (step fun s => (.ok (), { s with channelOpen := isOpen }) : Run σ ε Unit)
  | pause (length : Nat) : Guarded token allowed id (pause token length)
  | call {ε α : Type} {cancelled : CancelReason → ε} {c : Call} {delay : σ → Nat}
    {reply : σ → Except ε α × σ} : (∀ p, allowed c p (reply p).2) →
    Guarded token allowed cancelled (call token cancelled c delay reply)
  | adapt {ε ε' α : Type} {cancelled : CancelReason → ε} {cancelled' : CancelReason → ε'}
    {x : Run σ ε α} {g : ε → ε'} : (∀ reason, g (cancelled reason) = cancelled' reason) →
    Guarded token allowed cancelled x →
    Guarded token allowed cancelled' (ExceptT.adapt g x : Run σ ε' α)
  /-- The outcome of an operation is looked at, and a cancellation is passed on. -/
  | handle {ε ε' α β : Type} {cancelled : CancelReason → ε} {cancelled' : CancelReason → ε'}
    {x : Run σ ε α} {f : Except ε α → Run σ ε' β} {y : Run σ ε' β} :
    Guarded token allowed cancelled x → (∀ r, Guarded token allowed cancelled' (f r)) →
    (∀ reason s, run (f (.error (cancelled reason))) s = (.error (cancelled' reason), s)) →
    (∀ s, run y s = run (f (run x s).1) (run x s).2) → Guarded token allowed cancelled' y

/-- What comes after an outcome: the next operation, unless there has been an error. -/
def onward (f : α → Run σ ε β) : Except ε α → Run σ ε β
  | .ok a => f a
  | .error e => throw e

namespace Guarded

variable {token : CancelToken} {allowed allowed' : Call → σ → σ → Prop}
  {cancelled : CancelReason → ε} {cancelled' : CancelReason → ε'} {x : Run σ ε α}

/-! ### Building operations -/

theorem pure (a : α) : Guarded token allowed cancelled (pure a : Run σ ε α) := view fun _ => .ok a

/-- A result that needs no call. -/
theorem result (r : Except ε α) :
    Guarded token allowed cancelled (step fun s => (r, s) : Run σ ε α) := view fun _ => r

theorem fail (e : ε) : Guarded token allowed cancelled (throw e : Run σ ε α) := result (.error e)

theorem bind {f : α → Run σ ε β} (hx : Guarded token allowed cancelled x)
    (hf : ∀ a, Guarded token allowed cancelled (f a)) :
    Guarded token allowed cancelled (x >>= f) := by
  refine handle (f := onward f) hx (fun r => ?_) (fun _ _ => rfl) fun s => ?_
  · cases r with
    | ok a => exact hf a
    | error e => exact fail e
  · rw [run_bind]
    rcases run x s with ⟨_ | _, _⟩ <;> rfl

theorem check (cancelled : CancelReason → ε) :
    Guarded token allowed cancelled
      (ExceptT.adapt cancelled (check token) : Run σ ε Unit) := by
  have hview : Session.check (σ := σ) token =
      step fun s => ((token.check s.now).elim (.ok ()) .error, s) := by
    funext s
    simp only [Session.check, step, ExceptT.mk]
    cases token.check s.now <;> rfl
  have hcheck : Guarded token allowed id (Session.check (σ := σ) token) := by
    rw [hview]
    exact view _
  exact adapt (fun _ => rfl) hcheck

theorem ask [Node σ] (q : Query) (h : ∀ p : σ, allowed (.node q) p (Node.reply q p).2) :
    Guarded token allowed .cancelled (ask token q) := by
  rw [ask_eq_call]
  exact call h

theorem askCounterparty [Counterparty σ] (q : CounterpartyQuery)
    (h : ∀ p : σ, allowed (.counterparty q) p (Counterparty.reply q p).2) :
    Guarded token allowed .cancelled (askCounterparty token q) := by
  rw [askCounterparty_eq_call]
  exact call h

theorem mono (h : ∀ c p p', allowed c p p' → allowed' c p p')
    (hx : Guarded token allowed cancelled x) : Guarded token allowed' cancelled x := by
  induction hx with
  | view f => exact view f
  | remember isOpen => exact remember isOpen
  | pause length => exact .pause length
  | call hc => exact .call fun p => h _ _ _ (hc p)
  | adapt hg _ ih => exact adapt hg ih
  | handle _ _ hthrow hrun ihx ihf => exact handle ihx ihf hthrow hrun

/-! ### What holds of them -/

theorem checkpoints (hx : Guarded token allowed cancelled x) (s : Session σ) :
    (run x s).2.checkpoints = s.checkpoints := by
  induction hx generalizing s with
  | view f => rfl
  | remember isOpen => rfl
  | pause length =>
    rcases run_pause_cases token length s with ⟨_, _, h⟩ | ⟨_, _, _, _, h⟩ | ⟨_, _, h⟩ <;> rw [h]
  | call _ =>
    rcases run_call_cases token _ _ _ _ s with ⟨_, _, h⟩ | ⟨_, _, _, _, h⟩ | ⟨_, _, h⟩ <;>
      rw [h] <;> rfl
  | adapt _ _ ih =>
    rw [run_adapt]
    exact ih s
  | handle _ _ _ hrun ihx ihf =>
    rw [hrun]
    exact (ihf _ _).trans (ihx s)

/-- The calls are appended to those made before; all are allowed and made before the token has
    fired. -/
theorem calls (hx : Guarded token allowed cancelled x) (s : Session σ) :
    ∃ new, (run x s).2.calls = s.calls ++ new ∧
      ∀ c ∈ new, token.check c.1 = none ∧ ∃ p p', allowed c.2 p p' := by
  induction hx generalizing s with
  | view f => exact ⟨[], (List.append_nil _).symm, by simp⟩
  | remember isOpen => exact ⟨[], (List.append_nil _).symm, by simp⟩
  | pause length =>
    refine ⟨[], ?_, by simp⟩
    rcases run_pause_cases token length s with ⟨_, _, h⟩ | ⟨_, _, _, _, h⟩ | ⟨_, _, h⟩ <;>
      rw [h, List.append_nil]
  | @call _ _ _ c _ reply hc =>
    have hmade : ∀ c' ∈ [(s.now, c)], token.check s.now = none →
        token.check c'.1 = none ∧ ∃ p p', allowed c'.2 p p' := by
      intro c' hc' hcheck
      rw [List.mem_singleton.1 hc']
      exact ⟨hcheck, _, _, hc s.peers⟩
    rcases run_call_cases token _ _ _ _ s with ⟨_, _, h⟩ | ⟨_, _, hn, _, h⟩ | ⟨hn, _, h⟩ <;> rw [h]
    · exact ⟨[], (List.append_nil _).symm, by simp⟩
    · exact ⟨[(s.now, c)], rfl, fun c' hc' => hmade c' hc' hn⟩
    · exact ⟨[(s.now, c)], rfl, fun c' hc' => hmade c' hc' hn⟩
  | adapt _ _ ih =>
    rw [run_adapt]
    exact ih s
  | handle _ _ _ hrun ihx ihf =>
    obtain ⟨new, hnew, hp⟩ := ihx s
    obtain ⟨new', hnew', hp'⟩ := ihf (run _ s).1 (run _ s).2
    refine ⟨new ++ new', ?_, ?_⟩
    · rw [hrun, hnew', hnew, List.append_assoc]
    · intro c hc
      rcases List.mem_append.1 hc with hc | hc
      · exact hp c hc
      · exact hp' c hc

/-- What all calls do to the peers, the whole operation does. -/
theorem relates {rel : σ → σ → Prop} (hrefl : ∀ p, rel p p)
    (htrans : ∀ {p p' p''}, rel p p' → rel p' p'' → rel p p'')
    (hx : Guarded token (fun _ => rel) cancelled x) (s : Session σ) :
    rel s.peers (run x s).2.peers := by
  generalize hallowed : (fun _ => rel : Call → σ → σ → Prop) = allowed at hx
  induction hx generalizing s with
  | view f => exact hrefl _
  | remember isOpen => exact hrefl _
  | pause length =>
    rcases run_pause_cases token length s with ⟨_, _, h⟩ | ⟨_, _, _, _, h⟩ | ⟨_, _, h⟩ <;>
      rw [h] <;> exact hrefl _
  | call hc =>
    subst hallowed
    rcases run_call_cases token _ _ _ _ s with ⟨_, _, h⟩ | ⟨_, _, _, _, h⟩ | ⟨_, _, h⟩ <;> rw [h]
    · exact hrefl _
    · exact hrefl _
    · exact hc s.peers
  | adapt _ _ ih =>
    rw [run_adapt]
    exact ih s
  | handle _ _ _ hrun ihx ihf =>
    rw [hrun]
    exact htrans (ihx s) (ihf _ _)

/-- Where the calls do no more to the peers than to ask them, all that the operation does is to ask
    the peers. -/
theorem onlyAsks [Node σ] [Counterparty σ] (hx : Guarded token (fun _ => After) cancelled x) :
    OnlyAsks x := ⟨hx.checkpoints, hx.relates (fun _ => .refl) After.trans⟩

end Guarded

end PacketRelay.Session
