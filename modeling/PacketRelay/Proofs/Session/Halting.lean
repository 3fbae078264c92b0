/-
  What a token that fires does to the operations it guards.

  * `CancelToken.check_eq_none_iff`: a token has fired from its first instant on;
    `CancelToken.eq_of_interruption`, `CancelToken.lt_of_no_interruption`: a wait is cut short there,
    or ends before it;
  * `Halts t e x`: the operation `x` makes no call at the instant `t` or later, and when it is still
    running at `t` it ends there with the error `e`, both records being what they were;
  * `Guarded.halts`: a guarded operation halts when its token fires.
-/
import PacketRelay.Proofs.Session.Guarded
import PacketRelay.Proofs.Storage.Record

namespace PacketRelay

/-! ## Tokens -/

namespace CancelToken

/-- A token has fired from its first instant on. -/
theorem check_eq_none_iff {token : CancelToken} {now : Instant} :
    token.check now = none ↔ ∀ t reason, token.firing? = some (t, reason) → now < t := by
  obtain ⟨signal, deadline⟩ := token
  cases signal with
  | none => cases deadline <;> simp [check, firing?]
  | some s =>
    cases deadline with
    | none => simp [check, firing?]
    | some d =>
      have hcheck : check ⟨some s, some d⟩ now = none ↔ now < s ∧ now < d := by
        by_cases hs : s ≤ now
        · simp [check, hs, Nat.not_lt.2 hs]
        · simp [check, hs, Nat.lt_of_not_le hs]
      rw [hcheck]
      by_cases h : s ≤ d
      · have hfiring : firing? ⟨some s, some d⟩ = some (s, .cancelled) := if_pos h
        rw [hfiring]
        grind
      · have hfiring : firing? ⟨some s, some d⟩ = some (d, .deadlineExceeded) := if_neg h
        rw [hfiring]
        grind

theorem check_of_lt {token : CancelToken} {t now : Instant} {reason : CancelReason}
    (h : token.firing? = some (t, reason)) (hlt : now < t) : token.check now = none := by
  refine check_eq_none_iff.2 fun t' reason' h' => ?_
  rw [h] at h'
  cases h'
  exact hlt

theorem exists_check_of_le {token : CancelToken} {t now : Instant} {reason : CancelReason}
    (h : token.firing? = some (t, reason)) (hle : t ≤ now) :
    ∃ reason', token.check now = some reason' := by
  refine Option.ne_none_iff_exists'.1 fun hnone => ?_
  exact absurd (check_eq_none_iff.1 hnone t reason h) (Nat.not_lt.2 hle)

/-- A wait is cut short where the token fires. -/
theorem eq_of_interruption {token : CancelToken} {t t' now : Instant} {reason reason' : CancelReason}
    {length : Nat} (h : token.firing? = some (t, reason))
    (hi : token.interruption? now length = some (t', reason')) : t' = t ∧ reason' = reason := by
  unfold interruption? at hi
  split at hi
  · cases hi
  · obtain ⟨hfiring, -⟩ := Option.filter_eq_some_iff.1 hi
    exact Prod.mk.inj (Option.some.inj (hfiring.symm.trans h))

/-- A wait that is not cut short ends before the firing. -/
theorem lt_of_no_interruption {token : CancelToken} {t now : Instant} {reason : CancelReason}
    {length : Nat} (h : token.firing? = some (t, reason)) (hlt : now < t)
    (hi : token.interruption? now length = none) : now + length < t := by
  unfold interruption? at hi
  split at hi
  · next hzero => rwa [hzero, Nat.add_zero]
  · rw [h, Option.filter_some] at hi
    refine Nat.lt_of_not_le fun hle => ?_
    rw [if_pos (decide_eq_true hle)] at hi
    cases hi

end CancelToken

/-! ## Halting -/

namespace Session

variable {σ ε α : Type}

/-- An operation that is stopped at an instant, with an error. -/
structure Halts (t : Instant) (e : ε) (x : Run σ ε α) : Prop where
  /-- No call is made at the instant or later. -/
  calls (s : Session σ) : ∃ new, (run x s).2.calls = s.calls ++ new ∧ ∀ c ∈ new, c.1 < t
  /-- An operation that is still running at the instant ends there, and the records are what they
      were when it began. -/
  ends (s : Session σ) : s.now < t → (run x s).2.now < t ∨
    ((run x s).2.now = t ∧ (run x s).1 = .error e ∧
      ∀ d, (run x s).2.checkpoints.storage.record d = s.checkpoints.storage.record d)
  /-- An operation that begins at the instant or later ends at once, having made no call and written
      no record. -/
  late (s : Session σ) : t ≤ s.now → (run x s).2.now = s.now ∧ (run x s).2.calls = s.calls ∧
    ∀ d, (run x s).2.checkpoints.storage.record d = s.checkpoints.storage.record d

namespace Guarded

variable {token : CancelToken} {allowed : Call → σ → σ → Prop} {cancelled : CancelReason → ε}
  {x : Run σ ε α} {t : Instant} {reason : CancelReason}

theorem ends (h : token.firing? = some (t, reason)) (hx : Guarded token allowed cancelled x)
    {s : Session σ} (hs : s.now < t) :
    (run x s).2.now < t ∨ ((run x s).2.now = t ∧ (run x s).1 = .error (cancelled reason)) := by
  induction hx generalizing s with
  | view f => exact .inl hs
  | remember isOpen => exact .inl hs
  | pause length =>
    have hn := CancelToken.check_of_lt h hs
    rcases run_pause_cases token length s with ⟨_, hc, _⟩ | ⟨_, _, _, hi, hr⟩ | ⟨_, hi, hr⟩
    · cases hn.symm.trans hc
    · obtain ⟨ht, hreason⟩ := CancelToken.eq_of_interruption h hi
      rw [hr, ht, hreason]
      exact .inr ⟨rfl, rfl⟩
    · rw [hr]
      exact .inl (CancelToken.lt_of_no_interruption h hs hi)
  | call _ =>
    have hn := CancelToken.check_of_lt h hs
    rcases run_call_cases token _ _ _ _ s with ⟨_, hc, _⟩ | ⟨_, _, _, hi, hr⟩ | ⟨_, hi, hr⟩
    · cases hn.symm.trans hc
    · obtain ⟨ht, hreason⟩ := CancelToken.eq_of_interruption h hi
      rw [hr, ht, hreason]
      exact .inr ⟨rfl, rfl⟩
    · rw [hr]
      exact .inl (CancelToken.lt_of_no_interruption h hs hi)
  | adapt hg _ ih =>
    rw [run_adapt]
    rcases ih hs with hlt | ⟨hnow, hr⟩
    · exact .inl hlt
    · exact .inr ⟨hnow, by rw [hr, ← hg reason]; rfl⟩
  | handle _ _ hthrow hrun ihx ihf =>
    rw [hrun]
    rcases ihx hs with hlt | ⟨hnow, hr⟩
    · exact ihf _ hlt
    · rw [hr, hthrow]
      exact .inr ⟨hnow, rfl⟩

theorem late (h : token.firing? = some (t, reason)) (hx : Guarded token allowed cancelled x)
    {s : Session σ} (hs : t ≤ s.now) :
    (run x s).2.now = s.now ∧ (run x s).2.calls = s.calls := by
  induction hx generalizing s with
  | view f => exact ⟨rfl, rfl⟩
  | remember isOpen => exact ⟨rfl, rfl⟩
  | pause length =>
    obtain ⟨_, hc⟩ := CancelToken.exists_check_of_le h hs
    rcases run_pause_cases token length s with ⟨_, _, hr⟩ | ⟨_, _, hn, _⟩ | ⟨hn, _⟩
    · rw [hr]
      exact ⟨rfl, rfl⟩
    · cases hn.symm.trans hc
    · cases hn.symm.trans hc
  | call _ =>
    obtain ⟨_, hc⟩ := CancelToken.exists_check_of_le h hs
    rw [run_call_refused hc]
    exact ⟨rfl, rfl⟩
  | adapt _ _ ih =>
    rw [run_adapt]
    exact ih hs
  | handle _ _ _ hrun ihx ihf =>
    obtain ⟨hnow, hcalls⟩ := ihx hs
    obtain ⟨hnow', hcalls'⟩ := ihf (run _ s).1 (s := (run _ s).2) (hnow ▸ hs)
    rw [hrun]
    exact ⟨hnow'.trans hnow, hcalls'.trans hcalls⟩

/-- A guarded operation halts when its token fires. -/
theorem halts (h : token.firing? = some (t, reason)) (hx : Guarded token allowed cancelled x) :
    Halts t (cancelled reason) x where
  calls s := by
    obtain ⟨new, hnew, hc⟩ := hx.calls s
    exact ⟨new, hnew, fun c hmem => CancelToken.check_eq_none_iff.1 (hc c hmem).1 t reason h⟩
  ends s hs := by
    rw [hx.checkpoints]
    exact (hx.ends h hs).imp_right fun ⟨hnow, hr⟩ => ⟨hnow, hr, fun _ => rfl⟩
  late s hs := by
    obtain ⟨hnow, hcalls⟩ := hx.late h hs
    rw [hx.checkpoints]
    exact ⟨hnow, hcalls, fun _ => rfl⟩

end Guarded

end Session

end PacketRelay
