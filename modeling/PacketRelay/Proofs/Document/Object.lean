/-
  Tables that are kept sorted.

  * `sortMembers_perm`: members with keys of their own are only brought into another order.  Of
    members that share a key one stays, so that there are fewer of them then:
    `length_sortMembers_lt`;
  * `lookup_sortMembers`: it is the last one that counts;
  * `sortMembers_of_sorted`: what is sorted stays as it is;
  * `object_injective`: a table determines the values under given keys.
-/
import PacketRelay.Document
import Mathlib.Data.List.Dedup
import Mathlib.Data.List.Induction

namespace PacketRelay.Document

variable {k k' : String} {v : Document} {m : String × Document} {ms ms' : List (String × Document)}

/-- In the order of their keys, each key once. -/
def Sorted (ms : List (String × Document)) : Prop := ms.Pairwise fun a b => a.1 < b.1

theorem Sorted.nodup (h : Sorted ms) : (ms.map Prod.fst).Nodup := by
  rw [List.Nodup, List.pairwise_map]
  refine h.imp ?_
  intro a b hlt heq
  rw [heq] at hlt
  exact String.lt_irrefl _ hlt

/-! ## One member -/

theorem insertMember_cons (k : String) (v : Document) (m : String × Document)
    (ms : List (String × Document)) : insertMember k v (m :: ms) =
      if k < m.1 then (k, v) :: m :: ms
      else if k = m.1 then (k, v) :: ms
      else m :: insertMember k v ms := rfl

theorem lt_of_not_lt (hlt : ¬ k < k') (hne : k ≠ k') : k' < k :=
  Classical.byContradiction fun h =>
    hne (String.le_antisymm (String.not_lt.1 h) (String.not_lt.1 hlt))

theorem mem_of_mem_insertMember (h : m ∈ insertMember k v ms) : m = (k, v) ∨ m ∈ ms := by
  induction ms with
  | nil => exact .inl (List.mem_singleton.1 h)
  | cons m' ms ih =>
    rw [insertMember_cons] at h
    split at h
    · exact List.mem_cons.1 h
    split at h
    · exact (List.mem_cons.1 h).imp_right (List.mem_cons_of_mem m')
    · rcases List.mem_cons.1 h with rfl | h
      · exact .inr List.mem_cons_self
      · exact (ih h).imp_right (List.mem_cons_of_mem m')

theorem lookup_member (k : String) (m : String × Document) (ms : List (String × Document)) :
    (m :: ms).lookup k = if k = m.1 then some m.2 else ms.lookup k := by
  rw [List.lookup_cons]
  by_cases h : k = m.1
  · rw [if_pos h, beq_iff_eq.2 h]
  · rw [if_neg h, beq_eq_false_iff_ne.2 h]

theorem lookup_insertMember : (insertMember k v ms).lookup k' =
    if k' = k then some v else ms.lookup k' := by
  induction ms with
  | nil => exact lookup_member k' (k, v) []
  | cons m ms ih =>
    rw [insertMember_cons]
    split
    · exact lookup_member k' (k, v) (m :: ms)
    split
    · next _ heq =>
      rw [lookup_member, lookup_member, heq]
      by_cases h : k' = m.1 <;> simp only [h, if_true, if_false]
    · next _ hne =>
      rw [lookup_member, lookup_member, ih]
      by_cases h : k' = m.1
      · have hne' : k' ≠ k := fun h' => hne (h'.symm.trans h)
        rw [if_pos h, if_neg hne', if_pos h]
      · rw [if_neg h, if_neg h]

theorem sorted_insertMember (h : Sorted ms) : Sorted (insertMember k v ms) := by
  induction ms with
  | nil => exact List.pairwise_singleton _ _
  | cons m ms ih =>
    obtain ⟨hfirst, hrest⟩ := List.pairwise_cons.1 h
    rw [insertMember_cons]
    split
    · next hlt =>
      refine List.pairwise_cons.2 ⟨?_, h⟩
      intro a ha
      rcases List.mem_cons.1 ha with rfl | ha
      · exact hlt
      · exact String.lt_trans hlt (hfirst a ha)
    split
    · next _ heq =>
      subst heq
      exact List.pairwise_cons.2 ⟨hfirst, hrest⟩
    · next hlt hne =>
      refine List.pairwise_cons.2 ⟨?_, ih hrest⟩
      intro a ha
      rcases mem_of_mem_insertMember ha with rfl | ha
      · exact lt_of_not_lt hlt hne
      · exact hfirst a ha

/-- A member with a key of its own is added to the others. -/
theorem insertMember_perm (h : k ∉ ms.map Prod.fst) : (insertMember k v ms).Perm ((k, v) :: ms) := by
  induction ms with
  | nil => exact .refl _
  | cons m ms ih =>
    rw [List.map_cons, List.mem_cons, not_or] at h
    rw [insertMember_cons]
    split
    · exact .refl _
    · rw [if_neg h.1]
      exact ((ih h.2).cons m).trans (.swap (k, v) m ms)

/-- A member behind the others is put there. -/
theorem insertMember_last (h : ∀ m ∈ ms, m.1 < k) : insertMember k v ms = ms ++ [(k, v)] := by
  induction ms with
  | nil => rfl
  | cons m ms ih =>
    obtain ⟨hfirst, hrest⟩ := List.forall_mem_cons.1 h
    have hne : k ≠ m.1 := fun heq => String.lt_irrefl _ (heq ▸ hfirst)
    rw [insertMember_cons, if_neg (String.lt_asymm hfirst), if_neg hne, ih hrest]
    rfl

/-! ## All members -/

theorem sortMembers_concat (ms : List (String × Document)) (m : String × Document) :
    sortMembers (ms ++ [m]) = insertMember m.1 m.2 (sortMembers ms) :=
  List.foldl_concat ..

theorem sorted_sortMembers (ms : List (String × Document)) : Sorted (sortMembers ms) := by
  induction ms using List.reverseRecOn with
  | nil => exact .nil
  | append_singleton ms m ih =>
    rw [sortMembers_concat]
    exact sorted_insertMember ih

theorem mem_of_mem_sortMembers (h : m ∈ sortMembers ms) : m ∈ ms := by
  induction ms using List.reverseRecOn with
  | nil => exact h
  | append_singleton ms m' ih =>
    rw [sortMembers_concat] at h
    rw [List.mem_append, List.mem_singleton]
    exact (mem_of_mem_insertMember h).symm.imp_left ih

/-- **Of members with one key the last counts.** -/
theorem lookup_sortMembers (ms : List (String × Document)) (k : String) :
    (sortMembers ms).lookup k = ms.reverse.lookup k := by
  induction ms using List.reverseRecOn with
  | nil => rfl
  | append_singleton ms m ih =>
    rw [sortMembers_concat, lookup_insertMember, ih, List.reverse_append, List.reverse_singleton,
      List.singleton_append, lookup_member]

theorem mem_keys_iff : k ∈ ms.map Prod.fst ↔ ms.lookup k ≠ none := by
  induction ms with
  | nil => simp
  | cons m ms ih =>
    rw [lookup_member, List.map_cons, List.mem_cons, ih]
    by_cases h : k = m.1 <;> simp [h]

theorem mem_keys_sortMembers : k ∈ (sortMembers ms).map Prod.fst ↔ k ∈ ms.map Prod.fst := by
  rw [mem_keys_iff, lookup_sortMembers, ← mem_keys_iff, List.map_reverse, List.mem_reverse]

/-- **Members with keys of their own** are only brought into another order. -/
theorem sortMembers_perm (h : (ms.map Prod.fst).Nodup) : (sortMembers ms).Perm ms := by
  induction ms using List.reverseRecOn with
  | nil => exact .nil
  | append_singleton ms m ih =>
    rw [List.map_append, List.nodup_append] at h
    obtain ⟨hrest, -, hnew⟩ := h
    have hfree : m.1 ∉ (sortMembers ms).map Prod.fst := by
      rw [mem_keys_sortMembers]
      intro hmem
      exact hnew _ hmem m.1 (by simp) rfl
    rw [sortMembers_concat]
    exact (insertMember_perm hfree).trans (((ih hrest).cons m).trans
      (List.perm_append_singleton m ms).symm)

/-- There are as many members as different keys. -/
theorem length_sortMembers (ms : List (String × Document)) :
    (sortMembers ms).length = (ms.map Prod.fst).dedup.length := by
  have hperm : ((sortMembers ms).map Prod.fst).Perm (ms.map Prod.fst).dedup := by
    rw [List.perm_ext_iff_of_nodup (sorted_sortMembers ms).nodup (List.nodup_dedup _)]
    intro k
    rw [mem_keys_sortMembers, List.mem_dedup]
  rw [← hperm.length_eq, List.length_map]

/-- **Where members share a key**, one of them is lost. -/
theorem length_sortMembers_lt (h : ¬ (ms.map Prod.fst).Nodup) :
    (sortMembers ms).length < ms.length := by
  have hsub := List.dedup_sublist (ms.map Prod.fst)
  rw [length_sortMembers, ← List.length_map Prod.fst]
  refine Nat.lt_of_le_of_ne hsub.length_le ?_
  intro hlength
  exact h (List.dedup_eq_self.1 (hsub.eq_of_length hlength))

theorem sortMembers_of_sorted (h : Sorted ms) : sortMembers ms = ms := by
  induction ms using List.reverseRecOn with
  | nil => rfl
  | append_singleton ms m ih =>
    obtain ⟨hrest, -, hlast⟩ := List.pairwise_append.1 h
    rw [sortMembers_concat, ih hrest]
    exact insertMember_last fun a ha => hlast a ha m (List.mem_singleton.2 rfl)

/-! ## Tables under given keys -/

/-- Values are put in their order by keys that differ. -/
theorem eq_of_zip_perm {keys : List String} (hkeys : keys.Nodup) {ds ds' : List Document}
    (hlength : keys.length = ds.length) (hlength' : keys.length = ds'.length)
    (h : (keys.zip ds).Perm (keys.zip ds')) : ds = ds' := by
  induction keys generalizing ds ds' with
  | nil =>
    rw [List.eq_nil_of_length_eq_zero hlength.symm, List.eq_nil_of_length_eq_zero hlength'.symm]
  | cons k keys ih =>
    obtain ⟨hfresh, hkeys⟩ := List.nodup_cons.1 hkeys
    cases ds with
    | nil => cases hlength
    | cons d ds =>
      cases ds' with
      | nil => cases hlength'
      | cons d' ds' =>
        rw [List.zip_cons_cons, List.zip_cons_cons] at h
        have hfirst : (k, d) ∈ (k, d') :: keys.zip ds' := h.subset List.mem_cons_self
        rcases List.mem_cons.1 hfirst with heq | hmem
        · obtain rfl : d = d' := (Prod.mk.inj heq).2
          rw [ih hkeys (Nat.succ.inj hlength) (Nat.succ.inj hlength') h.cons_inv]
        · exact absurd (List.of_mem_zip hmem).1 hfresh

/-- **A table determines the values under given keys.** -/
theorem object_injective {keys : List String} (hkeys : keys.Nodup) {ds ds' : List Document}
    (hlength : keys.length = ds.length) (hlength' : keys.length = ds'.length)
    (h : object (keys.zip ds) = object (keys.zip ds')) : ds = ds' := by
  have hperm : (sortMembers (keys.zip ds)).Perm (keys.zip ds) :=
    sortMembers_perm (by rwa [List.map_fst_zip (Nat.le_of_eq hlength)])
  have hperm' : (sortMembers (keys.zip ds')).Perm (keys.zip ds') :=
    sortMembers_perm (by rwa [List.map_fst_zip (Nat.le_of_eq hlength')])
  rw [← table.inj h] at hperm'
  exact eq_of_zip_perm hkeys hlength hlength' (hperm.symm.trans hperm')

end PacketRelay.Document
