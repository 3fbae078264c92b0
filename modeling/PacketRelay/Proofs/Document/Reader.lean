/-
  Structures are read field by field.

  * `Reader.Yields`, `Fields.Yields`: a property of all that is read, which is put together from
    the fields;
  * `Fields.Answers`: what the fields found give, if anything; a table is read accordingly:
    `reader_table`.
-/
import PacketRelay.Document.Reader

namespace PacketRelay

variable {α β : Type}

/-! ## What has been read -/

/-- All that is read has a property. -/
def Reader.Yields (r : Reader α) (P : α → Prop) : Prop := ∀ d a, r d = .ok a → P a

namespace Reader

theorem natural_yields (limit : Nat) : (natural limit).Yields (· ≤ limit) := by
  intro d a h
  unfold natural at h
  split at h
  · next n =>
    split at h
    · next hn =>
      obtain rfl := Except.ok.inj h
      exact hn.2
    · cases h
  · cases h

theorem Yields.optional {r : Reader α} {P : α → Prop} (hr : r.Yields P) :
    r.optional.Yields fun a => ∀ b ∈ a, P b := by
  intro d a h b hb
  obtain rfl := hb
  unfold Reader.optional at h
  split at h
  · cases h
  · cases hread : r d with
    | error e =>
      rw [hread] at h
      cases h
    | ok c =>
      rw [hread] at h
      obtain rfl : c = b := Option.some.inj (Except.ok.inj h)
      exact hr d c hread

/-- All that is read one after the other has a property. -/
theorem Yields.mapM {r : Reader α} {P : α → Prop} (hr : r.Yields P) {ds : List Document}
    {as : List α} (h : ds.mapM r = .ok as) : ∀ a ∈ as, P a := by
  induction ds generalizing as with
  | nil =>
    obtain rfl := Except.ok.inj h
    exact List.forall_mem_nil P
  | cons d ds ih =>
    rw [List.mapM_cons] at h
    cases hd : r d with
    | error e =>
      rw [hd] at h
      cases h
    | ok a =>
      cases hds : ds.mapM r with
      | error e =>
        rw [hd, hds] at h
        cases h
      | ok as' =>
        rw [hd, hds] at h
        obtain rfl := Except.ok.inj h
        exact List.forall_mem_cons.2 ⟨hr d a hd, ih hds⟩

theorem Yields.list {r : Reader α} {P : α → Prop} (hr : r.Yields P) :
    (Reader.list r).Yields fun as => ∀ a ∈ as, P a := by
  intro d as h
  unfold Reader.list at h
  split at h
  · exact hr.mapM h
  · cases h

theorem yields_trivial (r : Reader α) : r.Yields fun _ => True := fun _ _ _ => trivial

theorem Yields.map {r : Reader α} {f : α → β} {P : β → Prop} {Q : α → Prop} (hr : r.Yields Q)
    (hf : ∀ a, Q a → P (f a)) : Reader.Yields (fun d => (r d).map f) P := by
  intro d b h
  dsimp only at h
  cases hread : r d with
  | error e =>
    rw [hread] at h
    cases h
  | ok a =>
    rw [hread] at h
    obtain rfl : f a = b := Except.ok.inj h
    exact hf a (hr d a hread)

end Reader

namespace Fields

/-- All that is built from fields has a property. -/
def Yields (fs : Fields α) (P : α → Prop) : Prop :=
  ∀ listed find a, fs.build listed find = .ok a → P a

theorem Yields.seq {f : Fields (α → β)} {x : Fields α} {P : β → Prop} {Q : α → Prop}
    (hf : f.Yields fun g => ∀ a, Q a → P (g a)) (hx : x.Yields Q) : (f <*> x).Yields P := by
  intro listed find b h
  change (f.build listed find >>= fun g => x.build listed find >>= fun a => pure (g a)) = _ at h
  cases hg : f.build listed find with
  | error e =>
    rw [hg] at h
    cases h
  | ok g =>
    cases ha : x.build listed find with
    | error e =>
      rw [hg, ha] at h
      cases h
    | ok a =>
      rw [hg, ha] at h
      obtain rfl : g a = b := Except.ok.inj h
      exact hf listed find g hg a (hx listed find a ha)

theorem Yields.map {f : α → β} {x : Fields α} {P : β → Prop} {Q : α → Prop}
    (hf : ∀ a, Q a → P (f a)) (hx : x.Yields Q) : (f <$> x).Yields P := by
  refine Yields.seq (f := pure f) ?_ hx
  intro listed find g hg
  obtain rfl : f = g := Except.ok.inj hg
  exact hf

theorem yields_field {name : String} {r : Reader α} {absent : Bool → Except DocumentError α}
    {P : α → Prop} (hr : r.Yields P) (habsent : ∀ listed a, absent listed = .ok a → P a) :
    (field name r absent).Yields P := by
  intro listed find a h
  unfold field at h
  dsimp only at h
  split at h
  · exact hr _ a h
  · exact habsent listed a h

theorem yields_required {name : String} {r : Reader α} {P : α → Prop} (hr : r.Yields P) :
    (required name r).Yields P :=
  yields_field hr fun _ _ h => by cases h

theorem yields_optional {name : String} {r : Reader α} {P : α → Prop} (hr : r.Yields P) :
    (optional name r).Yields fun a => ∀ b ∈ a, P b := by
  refine yields_field hr.optional ?_
  intro listed a h b hb
  cases listed
  · obtain rfl := Except.ok.inj h
    cases hb
  · cases h

theorem yields_defaulted {name : String} {default : α} {r : Reader α} {P : α → Prop}
    (hr : r.Yields P) (hdefault : P default) : (defaulted name default r).Yields P := by
  refine yields_field hr ?_
  intro listed a h
  obtain rfl := Except.ok.inj h
  exact hdefault

theorem Yields.reader {fs : Fields α} {P : α → Prop} (h : fs.Yields P) (form : Notation) :
    (fs.reader form).Yields P := by
  intro d a hread
  unfold Fields.reader at hread
  split at hread
  · next members =>
    cases hcheck : checkMembers form fs.checks [] members with
    | error e =>
      rw [hcheck] at hread
      cases hread
    | ok u =>
      rw [hcheck] at hread
      exact h _ _ a hread
  · split at hread
    · cases hread
    · exact h _ _ a hread
  · exact h _ _ a hread
  · cases hread

end Fields

/-! ## What is read -/

/-- The answer of a reader that finds no other fault than a mismatch. -/
def orMismatch : Option α → Except DocumentError α
  | some a => .ok a
  | none => .error .mismatch

theorem map_orMismatch (f : α → β) (a : Option α) :
    (orMismatch a).map f = orMismatch (a.map f) := by
  cases a <;> rfl

theorem Reader.optional_of_ne (r : Reader α) {d : Document} (h : d ≠ .null) :
    r.optional d = (r d).map some := by
  unfold Reader.optional
  split
  · exact absurd rfl h
  · rfl

namespace Fields

/-- What the fields found give: a value, or none if what is found for one of them is refused. -/
inductive Answers (fs : Fields α) (find : String → Option Document) : Option α → Prop
  | accepted {a : α}
      (checked : ∀ c ∈ fs.checks, ∃ d, find c.1 = some d ∧ c.2 d = .ok ())
      (built : fs.build false find = .ok a) : Answers fs find (some a)
  | refused
      (checked : ∀ c ∈ fs.checks, ∃ d, find c.1 = some d ∧
        (c.2 d = .ok () ∨ c.2 d = .error .mismatch))
      (refused : ∃ c ∈ fs.checks, ∃ d, find c.1 = some d ∧ c.2 d = .error .mismatch) :
      Answers fs find none

section
variable {find : String → Option Document}

theorem Answers.checked {fs : Fields α} {a : Option α} (h : fs.Answers find a) :
    ∀ c ∈ fs.checks, ∃ d, find c.1 = some d ∧ (c.2 d = .ok () ∨ c.2 d = .error .mismatch) := by
  cases h with
  | refused hchecked _ => exact hchecked
  | accepted hchecked _ =>
    intro c hc
    obtain ⟨d, hfind, hok⟩ := hchecked c hc
    exact ⟨d, hfind, .inl hok⟩

theorem answers_field {name : String} {r : Reader α} (absent : Bool → Except DocumentError α)
    {d : Document} {a : Option α} (hfind : find name = some d) (hr : r d = orMismatch a) :
    (field name r absent).Answers find a := by
  cases a with
  | some a =>
    refine .accepted ?_ ?_
    · intro c hc
      obtain rfl := List.mem_singleton.1 hc
      have haccepted : (r d).map (fun _ => ()) = .ok () := by rw [hr]; rfl
      exact ⟨d, hfind, haccepted⟩
    · simp only [field, hfind]
      exact hr
  | none =>
    have hrefused : (r d).map (fun _ => ()) = .error .mismatch := by rw [hr]; rfl
    refine .refused ?_ ⟨_, List.mem_singleton.2 rfl, d, hfind, hrefused⟩
    intro c hc
    obtain rfl := List.mem_singleton.1 hc
    exact ⟨d, hfind, .inr hrefused⟩

theorem Answers.seq {f : Fields (α → β)} {x : Fields α} {g : Option (α → β)} {a : Option α}
    (hf : f.Answers find g) (hx : x.Answers find a) : (f <*> x).Answers find (g <*> a) := by
  have hchecked : ∀ c ∈ f.checks ++ x.checks, ∃ d, find c.1 = some d ∧
      (c.2 d = .ok () ∨ c.2 d = .error .mismatch) :=
    fun c hc => (List.mem_append.1 hc).elim (hf.checked c) (hx.checked c)
  cases hf with
  | refused _ hrefused =>
    obtain ⟨c, hc, hd⟩ := hrefused
    exact .refused hchecked ⟨c, List.mem_append_left _ hc, hd⟩
  | accepted hf hg =>
    cases hx with
    | refused _ hrefused =>
      obtain ⟨c, hc, hd⟩ := hrefused
      exact .refused hchecked ⟨c, List.mem_append_right _ hc, hd⟩
    | accepted hx ha =>
      refine .accepted (fun c hc => (List.mem_append.1 hc).elim (hf c) (hx c)) ?_
      change (f.build false find >>= fun g => x.build false find >>= fun a => pure (g a)) = _
      rw [hg, ha]
      rfl

theorem Answers.map (f : α → β) {x : Fields α} {a : Option α} (hx : x.Answers find a) :
    (f <$> x).Answers find (f <$> a) := by
  have hf : (pure f : Fields (α → β)).Answers find (some f) :=
    .accepted (fun c hc => by cases hc) rfl
  cases a <;> exact hf.seq hx

end

/-! ## Tables -/

theorem lookup_of_mem {l : List (String × α)} (hnodup : (l.map (·.1)).Nodup) {m : String × α}
    (hm : m ∈ l) : l.lookup m.1 = some m.2 := by
  induction l with
  | nil => cases hm
  | cons m' l ih =>
    obtain ⟨hnot, hnodup⟩ := List.nodup_cons.1 hnodup
    rcases List.mem_cons.1 hm with rfl | hm
    · exact List.lookup_cons_self
    · have hne : (m.1 == m'.1) = false := by
        rw [beq_eq_false_iff_ne]
        intro heq
        exact hnot (List.mem_map.2 ⟨m, hm, heq⟩)
      rw [List.lookup_cons, hne]
      exact ih hnodup hm

section
variable {checks : List (String × (Document → Except DocumentError Unit))} {seen : List String}
  {members : List (String × Document)}

theorem unseen_cons {k : String} {d : Document} (hnot : k ∉ members.map (·.1))
    (hseen : ∀ m ∈ (k, d) :: members, m.1 ∉ seen) : ∀ m ∈ members, m.1 ∉ k :: seen := by
  intro m hm hmem
  rcases List.mem_cons.1 hmem with hk | hmem
  · exact hnot (List.mem_map.2 ⟨m, hm, hk⟩)
  · exact hseen m (List.mem_cons_of_mem _ hm) hmem

theorem checkMembers_ok (hnodup : (members.map (·.1)).Nodup) (hseen : ∀ m ∈ members, m.1 ∉ seen)
    (h : ∀ m ∈ members, ∀ check, checks.lookup m.1 = some check → check m.2 = .ok ()) :
    checkMembers .json checks seen members = .ok () := by
  induction members generalizing seen with
  | nil => rfl
  | cons m members ih =>
    obtain ⟨k, d⟩ := m
    obtain ⟨hnot, hnodup⟩ := List.nodup_cons.1 hnodup
    have hrest := fun m hm => h m (List.mem_cons_of_mem _ hm)
    rw [checkMembers]
    cases hlookup : checks.lookup k with
    | none => exact ih hnodup (fun m hm => hseen m (List.mem_cons_of_mem _ hm)) hrest
    | some check =>
      have hk : seen.contains k = false := by simpa using hseen (k, d) List.mem_cons_self
      have hcheck : check d = .ok () := h (k, d) List.mem_cons_self check hlookup
      simp only [hk, hcheck]
      exact ih hnodup (unseen_cons hnot hseen) hrest

theorem checkMembers_mismatch (hnodup : (members.map (·.1)).Nodup)
    (hseen : ∀ m ∈ members, m.1 ∉ seen)
    (h : ∀ m ∈ members, ∀ check, checks.lookup m.1 = some check →
      check m.2 = .ok () ∨ check m.2 = .error .mismatch)
    (hrefused : ∃ m ∈ members, ∃ check, checks.lookup m.1 = some check ∧
      check m.2 = .error .mismatch) :
    checkMembers .json checks seen members = .error .mismatch := by
  induction members generalizing seen with
  | nil =>
    obtain ⟨m, hm, -⟩ := hrefused
    cases hm
  | cons m members ih =>
    obtain ⟨k, d⟩ := m
    obtain ⟨hnot, hnodup⟩ := List.nodup_cons.1 hnodup
    have hrest := fun m hm => h m (List.mem_cons_of_mem _ hm)
    have hlater : (∀ check, checks.lookup k = some check → check d = .ok ()) →
        ∃ m ∈ members, ∃ check, checks.lookup m.1 = some check ∧
          check m.2 = .error .mismatch := by
      intro hok
      obtain ⟨m, hm, check, hlookup, hcheck⟩ := hrefused
      rcases List.mem_cons.1 hm with rfl | hm
      · rw [hok check hlookup] at hcheck
        cases hcheck
      · exact ⟨m, hm, check, hlookup, hcheck⟩
    rw [checkMembers]
    cases hlookup : checks.lookup k with
    | none =>
      exact ih hnodup (fun m hm => hseen m (List.mem_cons_of_mem _ hm)) hrest
        (hlater (by rw [hlookup]; intro check hcheck; cases hcheck))
    | some check =>
      have hk : seen.contains k = false := by simpa using hseen (k, d) List.mem_cons_self
      rcases h (k, d) List.mem_cons_self check hlookup with hcheck | hcheck
      · simp only [hk, hcheck]
        refine ih hnodup (unseen_cons hnot hseen) hrest (hlater ?_)
        intro check' hcheck'
        obtain rfl := Option.some.inj (hlookup.symm.trans hcheck')
        exact hcheck
      · simp only [hk, hcheck]
        rfl

/-- **A table that gives the fields in order is read as they are.** -/
theorem reader_table {fs : Fields α} {a : Option α} (hnames : (fs.checks.map (·.1)).Nodup)
    (hmembers : members.map (·.1) = fs.checks.map (·.1))
    (h : fs.Answers (fun name => members.lookup name) a) :
    fs.reader .json (.table members) = orMismatch a := by
  have hnodup : (members.map (·.1)).Nodup := hmembers ▸ hnames
  have hfound : ∀ {m check}, m ∈ members → fs.checks.lookup m.1 = some check →
      (m.1, check) ∈ fs.checks ∧ ∀ d, members.lookup m.1 = some d → d = m.2 := by
    intro m check hm hlookup
    obtain ⟨before, after, hchecks, -⟩ := List.lookup_eq_some_iff.1 hlookup
    refine ⟨by simp [hchecks], fun d hd => ?_⟩
    exact Option.some.inj (hd.symm.trans (lookup_of_mem hnodup hm))
  unfold Fields.reader
  cases h with
  | accepted hchecked hbuilt =>
    have hok : checkMembers .json fs.checks [] members = .ok () := by
      refine checkMembers_ok hnodup (by simp) ?_
      intro m hm check hlookup
      obtain ⟨hmem, huniq⟩ := hfound hm hlookup
      obtain ⟨d, hd, hcheck⟩ := hchecked _ hmem
      rwa [huniq d hd] at hcheck
    simp only [hok]
    exact hbuilt
  | refused hchecked hrefused =>
    have herror : checkMembers .json fs.checks [] members = .error .mismatch := by
      refine checkMembers_mismatch hnodup (by simp) ?_ ?_
      · intro m hm check hlookup
        obtain ⟨hmem, huniq⟩ := hfound hm hlookup
        obtain ⟨d, hd, hcheck⟩ := hchecked _ hmem
        rwa [huniq d hd] at hcheck
      · obtain ⟨c, hc, d, hd, hcheck⟩ := hrefused
        obtain ⟨before, after, hsplit, -⟩ := List.lookup_eq_some_iff.1 hd
        exact ⟨(c.1, d), by simp [hsplit], c.2, lookup_of_mem hnames hc, hcheck⟩
    simp only [herror]
    rfl

end

end Fields

end PacketRelay
