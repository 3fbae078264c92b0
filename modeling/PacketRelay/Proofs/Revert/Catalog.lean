/-
  Catalogs that grow.

  `ErrorCatalog.keepAll` adds the definitions whose selectors are free and passes over the others.

  * `add_cases`: adding a definition makes it known (`Knows`), or it is refused because another
    signature holds its selector (`Holds`);
  * `Extends`: definitions have been added behind the others.  What is found under a selector, and
    what is decoded, stays (`Extends.find?`, `Extends.decodeText`);
  * `Consistent`: every definition is under its own selector, and no selector occurs twice.
-/
import PacketRelay.Revert.Catalog
import PacketRelay.Proofs.Files.Tree
import Mathlib.Data.List.Nodup

namespace PacketRelay.ErrorCatalog

variable (hash : String → Selector)

/-! ## Keeping definitions -/

/-- Keeps a definition if its selector is free. -/
def keep (c : ErrorCatalog) (e : ErrorDefinition) : ErrorCatalog :=
  match c.find? (hash e.signature) with
  | none => ⟨c.entries ++ [(hash e.signature, e)]⟩
  | some _ => c

/-- Keeps definitions one after the other. -/
def keepAll (c : ErrorCatalog) (es : List ErrorDefinition) : ErrorCatalog := es.foldl (keep hash) c

/-- A definition with another signature holds the selector of `e`. -/
def Holds (c : ErrorCatalog) (kept e : ErrorDefinition) : Prop :=
  c.find? (hash e.signature) = some kept ∧ kept.signature ≠ e.signature

/-- All definitions are known: under the selector of each is one with its signature. -/
def Knows (c : ErrorCatalog) (es : List ErrorDefinition) : Prop :=
  ∀ e ∈ es, ∃ kept, c.find? (hash e.signature) = some kept ∧ kept.signature = e.signature

variable {hash} {c c' c'' : ErrorCatalog} {e kept : ErrorDefinition} {es es' : List ErrorDefinition}
  {s : Selector}

theorem keep_free (h : c.find? (hash e.signature) = none) :
    c.keep hash e = ⟨c.entries ++ [(hash e.signature, e)]⟩ := by
  rw [keep, h]

theorem keep_found (h : c.find? (hash e.signature) = some kept) : c.keep hash e = c := by
  rw [keep, h]

theorem keepAll_append : c.keepAll hash (es ++ es') = (c.keepAll hash es).keepAll hash es' :=
  List.foldl_append

theorem Holds.add (h : c.Holds hash kept e) :
    c.add hash e = .error (.collision (hash e.signature) kept.signature e.signature) := by
  simp only [ErrorCatalog.add, insert, h.1, if_neg h.2]

theorem find?_keep_free (h : c.find? (hash e.signature) = none) :
    (c.keep hash e).find? (hash e.signature) = some e := by
  rw [find?] at h
  simp [keep_free h, find?, List.lookup_append, h]

/-- **Adding a definition** makes it known, if it was not, or another signature holds its
    selector. -/
theorem add_cases (hash : String → Selector) (c : ErrorCatalog) (e : ErrorDefinition) :
    (∃ isNew, c.add hash e = .ok (isNew, c.keep hash e) ∧
      (c.keep hash e).size = c.size + (if isNew then 1 else 0) ∧ (c.keep hash e).Knows hash [e]) ∨
    ∃ kept, c.Holds hash kept e := by
  cases hf : c.find? (hash e.signature) with
  | none =>
    refine .inl ⟨true, ?_, ?_, ?_⟩
    · simp only [add, insert, hf, keep_free hf]
    · rw [keep_free hf]
      exact List.length_append
    · exact List.forall_mem_singleton.2 ⟨e, find?_keep_free hf, rfl⟩
  | some kept =>
    by_cases hsame : kept.signature = e.signature
    · rw [keep_found hf]
      refine .inl ⟨false, ?_, rfl, List.forall_mem_singleton.2 ⟨kept, hf, hsame⟩⟩
      simp only [add, insert, hf, if_pos hsame]
    · exact .inr ⟨kept, hf, hsame⟩

/-- A definition is refused exactly if another signature holds its selector. -/
theorem add_error_iff : (∃ err, c.add hash e = .error err) ↔ ∃ kept, c.Holds hash kept e := by
  constructor
  · rintro ⟨err, herr⟩
    rcases add_cases hash c e with ⟨isNew, hadd, -⟩ | hholds
    · rw [hadd] at herr
      cases herr
    · exact hholds
  · rintro ⟨kept, hholds⟩
    exact ⟨_, hholds.add⟩

/-! ## Catalogs that extend others -/

/-- Definitions have been added behind the others. -/
def Extends (c c' : ErrorCatalog) : Prop := c.entries <+: c'.entries

theorem Extends.refl (c : ErrorCatalog) : c.Extends c := List.prefix_refl _

theorem Extends.trans (h : c.Extends c') (h' : c'.Extends c'') : c.Extends c'' :=
  List.IsPrefix.trans h h'

theorem extends_keep (hash : String → Selector) (c : ErrorCatalog) (e : ErrorDefinition) :
    c.Extends (c.keep hash e) := by
  unfold keep
  split
  · exact List.prefix_append _ _
  · exact .refl c

theorem extends_keepAll (hash : String → Selector) (c : ErrorCatalog) (es : List ErrorDefinition) :
    c.Extends (c.keepAll hash es) := by
  induction es generalizing c with
  | nil => exact .refl c
  | cons e es ih => exact (extends_keep hash c e).trans (ih _)

namespace Extends

theorem mem (h : c.Extends c') {entry : Selector × ErrorDefinition} (he : entry ∈ c.entries) :
    entry ∈ c'.entries :=
  h.subset he

/-- What is found under a selector stays. -/
theorem find? (h : c.Extends c') (hf : c.find? s = some e) : c'.find? s = some e := by
  obtain ⟨more, hmore⟩ := h
  rw [ErrorCatalog.find?, ← hmore, List.lookup_append, Option.or_eq_some_iff]
  exact .inl hf

theorem knows (h : c.Extends c') (hk : c.Knows hash es) : c'.Knows hash es := by
  intro e he
  obtain ⟨kept, hf, hsame⟩ := hk e he
  exact ⟨kept, h.find? hf, hsame⟩

/-- What is decoded stays. -/
theorem decode (h : c.Extends c') {data : Bytes} {decoded : DecodedError}
    (hd : c.decode data = .ok decoded) : c'.decode data = .ok decoded := by
  unfold ErrorCatalog.decode at hd ⊢
  cases hs : FixedBytes.ofBytes? 4 (data.take 4) with
  | none =>
    rw [hs] at hd
    cases hd
  | some s =>
    simp only [hs] at hd ⊢
    cases hf : c.find? s with
    | none =>
      rw [hf] at hd
      cases hd
    | some e =>
      rw [hf] at hd
      rw [h.find? hf]
      exact hd

theorem decodeText (h : c.Extends c') {data : Bytes} {text : String}
    (hd : c.decodeText data = .ok text) : c'.decodeText data = .ok text := by
  unfold ErrorCatalog.decodeText at hd ⊢
  cases hdecode : c.decode data with
  | error err =>
    rw [hdecode] at hd
    cases hd
  | ok decoded =>
    rw [hdecode] at hd
    rw [h.decode hdecode]
    exact hd

end Extends

/-- Every entry of the grown catalog was there or is one of the definitions. -/
theorem mem_keepAll {entry : Selector × ErrorDefinition} (h : entry ∈ (c.keepAll hash es).entries) :
    entry ∈ c.entries ∨ entry.2 ∈ es := by
  induction es generalizing c with
  | nil => exact .inl h
  | cons e es ih =>
    rcases ih h with h | h
    · cases hf : c.find? (hash e.signature) with
      | some kept =>
        rw [keep_found hf] at h
        exact .inl h
      | none =>
        rw [keep_free hf] at h
        rcases List.mem_append.1 h with h | h
        · exact .inl h
        · obtain rfl := List.mem_singleton.1 h
          exact .inr List.mem_cons_self
    · exact .inr (List.mem_cons_of_mem _ h)

/-! ## Consistent catalogs -/

/-- Every definition is under its own selector, and no selector occurs twice. -/
structure Consistent (hash : String → Selector) (c : ErrorCatalog) : Prop where
  own : ∀ entry ∈ c.entries, entry.1 = hash entry.2.signature
  distinct : (c.entries.map Prod.fst).Nodup

theorem mem_of_find? (h : c.find? s = some e) : (s, e) ∈ c.entries := mem_of_lookup h

theorem find?_eq_none : c.find? s = none ↔ s ∉ c.entries.map Prod.fst := by
  rw [find?, List.lookup_eq_none_iff]
  simp only [List.mem_map, not_exists, not_and, bne_iff_ne, ne_eq]
  exact forall₂_congr fun entry _ => not_congr eq_comm

namespace Consistent

variable (h : Consistent hash c)
include h

/-- An entry is what is found under its selector. -/
theorem find?_of_mem (he : (s, e) ∈ c.entries) : c.find? s = some e :=
  lookup_of_mem h.distinct he

/-- Two definitions under one selector have one signature. -/
theorem selector_ne {s' : Selector} {e' : ErrorDefinition} (he : (s, e) ∈ c.entries)
    (he' : (s', e') ∈ c.entries) (hne : e.signature ≠ e'.signature) : s ≠ s' := by
  rintro rfl
  have hf := h.find?_of_mem he
  rw [h.find?_of_mem he'] at hf
  exact hne (congrArg ErrorDefinition.signature (Option.some.inj hf)).symm

theorem keep (e : ErrorDefinition) : Consistent hash (c.keep hash e) := by
  cases hf : c.find? (hash e.signature) with
  | some kept => rwa [keep_found hf]
  | none =>
    rw [keep_free hf]
    constructor
    · intro entry he
      rcases List.mem_append.1 he with he | he
      · exact h.own entry he
      · obtain rfl := List.mem_singleton.1 he
        rfl
    · rw [List.map_append]
      refine h.distinct.append (List.nodup_singleton _) ?_
      simpa using find?_eq_none.1 hf

theorem keepAll (es : List ErrorDefinition) : Consistent hash (c.keepAll hash es) := by
  induction es generalizing c with
  | nil => exact h
  | cons e es ih => exact ih (h.keep e)

end Consistent

/-- The catalog that everything starts with is consistent if its two definitions have selectors of
    their own. -/
theorem consistent_initial
    (hsep : hash ErrorDefinition.message.signature ≠ hash ErrorDefinition.panic.signature) :
    Consistent hash (initial hash) := by
  constructor
  · simp [initial]
  · simpa [initial] using hsep

theorem length_leading (signature : String) :
    ((utf8 signature ++ [0, 0, 0, 0]).take 4).length = 4 := by
  simp

/-- The first four bytes of a signature: selectors that tell the two definitions apart. -/
def leading (signature : String) : Selector :=
  ⟨(utf8 signature ++ [0, 0, 0, 0]).take 4, length_leading signature⟩

theorem leading_separates :
    leading ErrorDefinition.message.signature ≠ leading ErrorDefinition.panic.signature := by
  decide

end PacketRelay.ErrorCatalog
