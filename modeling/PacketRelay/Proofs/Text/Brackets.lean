/-
  Texts with brackets.

  * `level` counts the open brackets; it fails at a closing one that has not been opened, and with
    `commas` at a comma outside of all brackets;
  * `Closed`: no bracket is left open, no comma stands outside of brackets.  In front of a comma or
    a closing bracket a closed text is determined: `closed_unique`;
  * `joined` puts commas between texts; closed texts can be told apart then: `joined_unique`.
-/
import Mathlib.Tactic.Tauto

namespace PacketRelay.Brackets

/-- The number of open brackets after a text, when there are `n` before it. -/
def level (commas : Bool) : (n : Nat) → List Char → Option Nat
  | n, [] => some n
  | n, '(' :: rest => level commas (n + 1) rest
  | 0, ')' :: _ => none
  | n + 1, ')' :: rest => level commas n rest
  | 0, ',' :: rest => if commas then none else level commas 0 rest
  | n, _ :: rest => level commas n rest

/-- No bracket is left open. -/
def Balanced (s : List Char) : Prop := level false 0 s = some 0

/-- No bracket is left open, and commas stand inside of brackets. -/
def Closed (s : List Char) : Prop := level true 0 s = some 0

variable {commas : Bool} {s t u v r r' : List Char} {n m : Nat}

/-- A character that is neither a bracket nor a comma. -/
def IsPlain (c : Char) : Prop := c ≠ '(' ∧ c ≠ ')' ∧ c ≠ ','

theorem level_plain {c : Char} (h : IsPlain c) (n : Nat) (s : List Char) :
    level commas n (c :: s) = level commas n s := by
  obtain ⟨hopen, hclose, hcomma⟩ := h
  rw [level.eq_def]
  split <;> simp_all

theorem char_cases (c : Char) : c = '(' ∨ c = ')' ∨ c = ',' ∨ IsPlain c := by
  unfold IsPlain
  tauto

theorem level_append (s t : List Char) (n : Nat) :
    level commas n (s ++ t) = (level commas n s).bind fun m => level commas m t := by
  induction s generalizing n with
  | nil => rfl
  | cons c s ih =>
    rcases char_cases c with rfl | rfl | rfl | hplain
    · exact ih (n + 1)
    · cases n with
      | zero => rfl
      | succ n => exact ih n
    · cases n with
      | zero =>
        cases commas
        · exact ih 0
        · rfl
      | succ n => exact ih (n + 1)
    · rw [List.cons_append, level_plain hplain, level_plain hplain, ih]

theorem level_all_plain (h : ∀ c ∈ s, IsPlain c) (n : Nat) : level commas n s = some n := by
  induction s with
  | nil => rfl
  | cons c s ih =>
    rw [level_plain (h c List.mem_cons_self)]
    exact ih fun c hc => h c (List.mem_cons_of_mem _ hc)

/-- Inside of `k` further brackets there are as many more open.  Commas do not count there. -/
theorem level_add (commas' : Bool) (k : Nat) (hk : commas' = true → 0 < k)
    (h : level commas n s = some m) : level commas' (n + k) s = some (m + k) := by
  induction s generalizing n with
  | nil =>
    obtain rfl := Option.some.inj h
    rfl
  | cons c s ih =>
    rcases char_cases c with rfl | rfl | rfl | hplain
    · have hrest := ih h
      rwa [Nat.add_right_comm] at hrest
    · cases n with
      | zero => cases h
      | succ n =>
        rw [Nat.add_right_comm]
        exact ih h
    · have hrest : level commas' (n + k) s = some (m + k) := by
        cases n with
        | zero =>
          cases commas
          · exact ih h
          · cases h
        | succ n => exact ih h
      cases hn : n + k with
      | zero =>
        cases commas'
        · rwa [hn] at hrest
        · have := hk rfl
          omega
      | succ l => rwa [hn] at hrest
    · rw [level_plain hplain] at h ⊢
      exact ih h

theorem Closed.balanced (h : Closed s) : Balanced s :=
  level_add false 0 (fun hfalse => by cases hfalse) h

theorem Balanced.append (hs : Balanced s) (ht : Balanced t) : Balanced (s ++ t) := by
  rw [Balanced, level_append, hs]
  exact ht

theorem Closed.append (hs : Closed s) (ht : Closed t) : Closed (s ++ t) := by
  rw [Closed, level_append, hs]
  exact ht

theorem balanced_of_plain (h : ∀ c ∈ s, IsPlain c) : Balanced s := level_all_plain h 0

theorem closed_of_plain (h : ∀ c ∈ s, IsPlain c) : Closed s := level_all_plain h 0

theorem balanced_comma : Balanced [','] := rfl

/-- Brackets close what is balanced. -/
theorem Balanced.closed_brackets (hs : Balanced s) (ht : Closed t) :
    Closed ('(' :: (s ++ ')' :: t)) := by
  have hinside : level true 1 s = some 1 := level_add true 1 (fun _ => Nat.one_pos) hs
  change level true 1 (s ++ ')' :: t) = some 0
  rw [level_append, hinside]
  exact ht

/-! ## Unique texts -/

/-- A text is determined by what follows it, if this cannot be part of it. -/
theorem level_unique (hu : level commas 0 u = some 0) (hv : level commas 0 v = some 0)
    (hr : ∀ c ∈ r.head?, ∀ s, level commas 0 (c :: s) = none)
    (hr' : ∀ c ∈ r'.head?, ∀ s, level commas 0 (c :: s) = none) (h : u ++ r = v ++ r') :
    u = v ∧ r = r' := by
  rcases List.append_eq_append_iff.1 h with ⟨w, rfl, rfl⟩ | ⟨w, rfl, rfl⟩
  · cases w with
    | nil => exact ⟨(List.append_nil u).symm, rfl⟩
    | cons c w =>
      rw [level_append, hu, Option.bind_some, hr c rfl w] at hv
      cases hv
  · cases w with
    | nil => exact ⟨List.append_nil v, rfl⟩
    | cons c w =>
      rw [level_append, hv, Option.bind_some, hr' c rfl w] at hu
      cases hu

/-- What may follow a closed text. -/
def Stops (r : List Char) : Prop := ∀ c ∈ r.head?, c = ',' ∨ c = ')'

/-- **A closed text is determined by what follows.** -/
theorem closed_unique (hu : Closed u) (hv : Closed v) (hr : Stops r) (hr' : Stops r')
    (h : u ++ r = v ++ r') : u = v ∧ r = r' := by
  refine level_unique hu hv ?_ ?_ h
  · intro c hc s
    rcases hr c hc with rfl | rfl <;> rfl
  · intro c hc s
    rcases hr' c hc with rfl | rfl <;> rfl

/-- What is between brackets is determined. -/
theorem balanced_unique (hu : Balanced u) (hv : Balanced v) (h : u ++ ')' :: r = v ++ ')' :: r') :
    u = v ∧ r = r' := by
  have hstop : ∀ (r : List Char), ∀ c ∈ (')' :: r).head?, ∀ s, level false 0 (c :: s) = none := by
    intro r c hc s
    obtain rfl : ')' = c := Option.some.inj hc
    rfl
  obtain ⟨hsame, hrest⟩ := level_unique hu hv (hstop r) (hstop r') h
  exact ⟨hsame, (List.cons.inj hrest).2⟩

/-! ## Lists of texts -/

/-- Texts with commas between them. -/
def joined (ts : List (List Char)) : List Char := [','].intercalate ts

theorem joined_cons_cons (t t' : List Char) (ts : List (List Char)) :
    joined (t :: t' :: ts) = t ++ ',' :: joined (t' :: ts) := by
  rw [joined, List.intercalate_cons_cons]
  exact List.append_assoc _ _ _

theorem joined_cons (t : List Char) (ts : List (List Char)) :
    ∃ r, joined (t :: ts) = t ++ r ∧ Stops r := by
  cases ts with
  | nil => exact ⟨[], by simp [joined], by intro c hc; cases hc⟩
  | cons t' ts =>
    refine ⟨_, joined_cons_cons t t' ts, ?_⟩
    intro c hc
    exact .inl (Option.some.inj hc).symm

theorem balanced_joined {ts : List (List Char)} (h : ∀ t ∈ ts, Closed t) :
    Balanced (joined ts) := by
  induction ts with
  | nil => rfl
  | cons t ts ih =>
    have ht := (h t List.mem_cons_self).balanced
    cases ts with
    | nil => simpa [joined] using ht
    | cons t' ts =>
      rw [joined_cons_cons]
      exact ht.append (balanced_comma.append (ih fun u hu => h u (List.mem_cons_of_mem _ hu)))

/-- **Closed texts between commas can be told apart**, if none of them is empty. -/
theorem joined_unique {ts ts' : List (List Char)} (h : ∀ t ∈ ts, Closed t ∧ t ≠ [])
    (h' : ∀ t ∈ ts', Closed t ∧ t ≠ []) (heq : joined ts = joined ts') : ts = ts' := by
  have hempty : ∀ (t : List Char) (ts : List (List Char)), t ≠ [] → joined (t :: ts) ≠ [] := by
    intro t ts ht hnil
    obtain ⟨r, hjoined, -⟩ := joined_cons t ts
    rw [hjoined] at hnil
    exact ht (List.append_eq_nil_iff.1 hnil).1
  induction ts generalizing ts' with
  | nil =>
    cases ts' with
    | nil => rfl
    | cons t' ts' => exact absurd heq.symm (hempty t' ts' (h' t' List.mem_cons_self).2)
  | cons t ts ih =>
    cases ts' with
    | nil => exact absurd heq (hempty t ts (h t List.mem_cons_self).2)
    | cons t' ts' =>
      obtain ⟨r, hr, hstops⟩ := joined_cons t ts
      obtain ⟨r', hr', hstops'⟩ := joined_cons t' ts'
      have hfirst := heq
      rw [hr, hr'] at hfirst
      obtain ⟨rfl, rfl⟩ := closed_unique (h t List.mem_cons_self).1 (h' t' List.mem_cons_self).1
        hstops hstops' hfirst
      have hmem := fun u hu => h u (List.mem_cons_of_mem _ hu)
      have hmem' := fun u hu => h' u (List.mem_cons_of_mem _ hu)
      cases ts with
      | nil =>
        cases ts' with
        | nil => rfl
        | cons u' ts' =>
          rw [joined_cons_cons] at heq
          simp [joined] at heq
      | cons u ts =>
        cases ts' with
        | nil =>
          rw [joined_cons_cons] at heq
          simp [joined] at heq
        | cons u' ts' =>
          rw [joined_cons_cons, joined_cons_cons] at heq
          have hrest := (List.cons.inj (List.append_cancel_left heq)).2
          rw [ih hmem hmem' hrest]

end PacketRelay.Brackets
