/-
  The logs of a chain and the windows in which they are read.

  * `Log.within` says that a log lies in a range of blocks, `Ordered` that logs are in the order of
    their blocks;
  * `flatMap_scanWindows`: the logs of all windows of a range, one after the other, are the logs of
    the range;
  * `Exact`: wherever the peers get to, the node answers queries for an event up to a target, if it
    answers them, with exactly the logs of the range;
  * `scanLogs_ok`: what is then read are the logs of the range.
-/
import PacketRelay.Proofs.Discovery.Call
import PacketRelay.Proofs.Discovery.Window

namespace PacketRelay

/-! ## Ranges -/

/-- Whether a log lies in a range of blocks, both ends included. -/
def Log.within (first last : Nat) (log : Log) : Bool :=
  match log.block with
  | none => false
  | some b => first ≤ b && b ≤ last

/-- Logs in the order of their blocks. -/
def Ordered (logs : List Log) : Prop :=
  logs.Pairwise fun l l' => ∀ b ∈ l.block, ∀ b' ∈ l'.block, b ≤ b'

namespace Log

theorem within_iff {first last : Nat} {log : Log} :
    log.within first last = true ↔ ∃ b, log.block = some b ∧ first ≤ b ∧ b ≤ last := by
  cases h : log.block <;> simp [within, h]

/-- The logs of two adjacent ranges, one after the other. -/
theorem filter_within_append {logs : List Log} (h : Ordered logs) {first middle last : Nat}
    (hfirst : first ≤ middle + 1) (hlast : middle ≤ last) :
    logs.filter (within first middle) ++ logs.filter (within (middle + 1) last) =
      logs.filter (within first last) := by
  induction logs with
  | nil => rfl
  | cons l logs ih =>
    obtain ⟨hl, hrest⟩ := List.pairwise_cons.1 h
    have ih := ih hrest
    by_cases hm : l.within first middle = true
    · obtain ⟨b, hb, hb₁, hb₂⟩ := within_iff.1 hm
      have ho : ¬ l.within (middle + 1) last = true := by simp [within, hb]; omega
      have ha : l.within first last = true := within_iff.2 ⟨b, hb, hb₁, by omega⟩
      rw [List.filter_cons_of_pos hm, List.filter_cons_of_neg ho, List.filter_cons_of_pos ha, ← ih]
      rfl
    · rw [List.filter_cons_of_neg hm]
      by_cases ho : l.within (middle + 1) last = true
      · obtain ⟨b, hb, hb₁, hb₂⟩ := within_iff.1 ho
        have ha : l.within first last = true := within_iff.2 ⟨b, hb, by omega, hb₂⟩
        -- all later logs lie beyond the middle
        have hnone : logs.filter (within first middle) = [] := by
          refine List.filter_eq_nil_iff.2 fun l' hl' hw => ?_
          obtain ⟨b', hb', -, hb'₂⟩ := within_iff.1 hw
          have := hl l' hl' b hb b' hb'
          omega
        rw [hnone] at ih ⊢
        rw [List.filter_cons_of_pos ho, List.filter_cons_of_pos ha, ← ih]
        rfl
      · have ha : ¬ l.within first last = true := by
          intro hw
          obtain ⟨b, hb, hb₁, hb₂⟩ := within_iff.1 hw
          rcases Nat.lt_or_ge middle b with hlt | hge
          · exact ho (within_iff.2 ⟨b, hb, hlt, hb₂⟩)
          · exact hm (within_iff.2 ⟨b, hb, hb₁, hge⟩)
        rw [List.filter_cons_of_neg ho, List.filter_cons_of_neg ha, ih]

/-- Windows that tile a range are read one after the other. -/
theorem flatMap_tiles {logs : List Log} (h : Ordered logs) {first last size : Nat}
    {ws : List (Nat × Nat)} (ht : Tiles last size first ws) :
    ws.flatMap (fun w => logs.filter (within w.1 w.2)) = logs.filter (within first last) := by
  induction ht with
  | final => rw [List.flatMap_singleton]
  | @more start ws hmore hrest ih =>
    have hpos := hrest.pos
    have happend := @filter_within_append _ h start (start + size - 1) last (by omega) (by omega)
    rw [Nat.sub_add_cancel (by omega)] at happend
    rw [List.flatMap_cons, ih, happend]

/-- **The windows of a range are read one after the other.** -/
theorem flatMap_scanWindows {logs : List Log} (h : Ordered logs) (first last size : Nat) :
    (scanWindows first last size).flatMap (fun w => logs.filter (within w.1 w.2)) =
      logs.filter (within first last) := by
  rcases Nat.lt_or_ge last first with hlt | hle
  · rw [scanWindows_of_lt hlt]
    refine (List.filter_eq_nil_iff.2 fun l _ hw => ?_).symm
    obtain ⟨b, -, h₁, h₂⟩ := within_iff.1 hw
    omega
  · exact flatMap_tiles h (tiles_scanWindows hle size)

end Log

/-- The windows of a range lie in it. -/
theorem le_of_mem_scanWindows {first last size : Nat} {w : Nat × Nat}
    (h : w ∈ scanWindows first last size) : first ≤ w.1 ∧ w.2 ≤ last := by
  rcases Nat.lt_or_ge last first with hlt | hle
  · rw [scanWindows_of_lt hlt] at h
    cases h
  · obtain ⟨hfirst, -, hlast, -⟩ := (tiles_scanWindows hle size).of_mem h
    exact ⟨hfirst, hlast⟩

/-! ## Reading logs -/

open Session

section
variable {σ : Type} [Node σ]

theorem Scanner.query_ok {token : CancelToken} {q : Query} {s s' : Session σ} {a : q.Answer}
    (h : run (query token q) s = (.ok a, s')) : (Node.reply q s.peers).1 = .ok a :=
  ask_ok (run_adapt_ok h)

variable [Counterparty σ]

/-- From `p` on the node answers queries for an event up to a target, if it answers them, with
    exactly the logs of the range. -/
def Exact (contract : Address) (topic : Hash) (logs : List Log) (target : Nat) (p : σ) : Prop :=
  ∀ p', After p p' → ∀ first last, last ≤ target → ∀ answer : List Log,
    (Node.reply (.logs ⟨contract, topic, first, last⟩) p').1 = .ok answer →
      answer = logs.filter (Log.within first last)

namespace Scanner

variable {k : Scanner} {token : CancelToken} {logs : List Log} {target : Nat} {p : σ}

theorem windowLogs_ok {topic : Hash} (hx : Exact k.contract topic logs target p)
    {ws : List (Nat × Nat)} (hws : ∀ w ∈ ws, w.2 ≤ target) {s s' : Session σ}
    (hs : After p s.peers) {answer : List Log}
    (h : run (k.windowLogs token topic ws) s = (.ok answer, s')) :
    answer = ws.flatMap fun w => logs.filter (Log.within w.1 w.2) := by
  induction ws generalizing s s' answer with
  | nil => exact (Except.ok.inj (congrArg Prod.fst h)).symm
  | cons w ws ih =>
    obtain ⟨hw, hws⟩ := List.forall_mem_cons.1 hws
    obtain ⟨first, s₁, hq, h⟩ := run_bind_ok h
    obtain ⟨more, s₂, hr, h⟩ := run_bind_ok h
    obtain rfl := Except.ok.inj (congrArg Prod.fst h)
    have hs₁ := (guarded_query token (.logs ⟨k.contract, topic, w.1, w.2⟩)).onlyAsks.after hq hs
    rw [List.flatMap_cons, hx _ hs _ _ hw _ (query_ok hq), ih hws hs₁ hr]

/-- **Reading the logs of a range.** -/
theorem scanLogs_ok {event : Contract.Event} (ho : Ordered logs)
    (hx : Exact k.contract event.topic logs target p) {first last : Nat} (hl : last ≤ target)
    {s s' : Session σ} (hs : After p s.peers) {answer : List Log}
    (h : run (k.scanLogs token event first last) s = (.ok answer, s')) :
    answer = logs.filter (Log.within first last) := by
  have hws : ∀ w ∈ scanWindows first last k.blocksPerQuery, w.2 ≤ target := fun w hw =>
    Nat.le_trans (le_of_mem_scanWindows hw).2 hl
  rw [windowLogs_ok hx hws hs h, Log.flatMap_scanWindows ho]

end Scanner

end

end PacketRelay
