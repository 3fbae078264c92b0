/-
  Histories of a catalog.

  `Change` is what a catalog can be asked for: to add a definition, or to load an artifact or all
  that are below a folder.  `Reaches` are the catalogs that come about by changes, be they successful
  or not.

  * `Reaches.extends`, `Reaches.consistent`: what every history keeps;
  * `grows`: the catalog only grows, and what is decoded stays.
-/
import PacketRelay.Proofs.Revert.Loading

namespace PacketRelay.ErrorCatalog

/-- A change of a catalog. -/
inductive Change where
  | definition (e : ErrorDefinition)
  | artifact (files : FileTree) (path : Path)
  | folder (files : FileTree) (root : Path)

namespace Change

/-- Makes a change and gives how many definitions are new. -/
def perform (hash : String → Selector) : Change → Loading Nat
  | definition e => addOne hash e
  | artifact files path => loadArtifact hash files path
  | folder files root => loadFolder hash files root

/-- The definitions that a change reads. -/
def declared : Change → Declared
  | definition e => ⟨[e], none⟩
  | artifact files path => declaredAt files path
  | folder files root => declaredBelow files root

/-- A change adds what it reads. -/
theorem loads (hash : String → Selector) (change : Change) :
    Loads hash (change.perform hash) change.declared := by
  cases change with
  | definition e => exact loads_addOne e
  | artifact files path => exact loads_artifact files path
  | folder files root => exact loads_folder files root

end Change

/-- The catalogs that come about by changes, whether these succeed or fail. -/
inductive Reaches (hash : String → Selector) (c : ErrorCatalog) : ErrorCatalog → Prop
  | start : Reaches hash c c
  | change {c' : ErrorCatalog} (change : Change) : Reaches hash c c' →
      Reaches hash c (change.perform hash c').2

variable {hash : String → Selector} {c c' : ErrorCatalog}

/-! ## One change -/

/-- A change keeps definitions. -/
theorem perform_kept (hash : String → Selector) (c : ErrorCatalog) (change : Change) :
    ∃ es, (change.perform hash c).2 = c.keepAll hash es := by
  obtain ⟨r, c', hrun, hadded⟩ := change.loads hash c
  obtain ⟨es, rfl⟩ := hadded.kept
  exact ⟨es, congrArg Prod.snd hrun⟩

/-- A successful change gives how much the catalog has grown. -/
theorem size_perform {change : Change} {n : Nat} (h : change.perform hash c = (.ok n, c')) :
    c'.size = c.size + n := by
  obtain ⟨r, c₁, hrun, hadded⟩ := change.loads hash c
  obtain ⟨rfl, rfl⟩ := Prod.mk.inj (hrun.symm.trans h)
  exact hadded.size

/-! ## Histories -/

namespace Reaches

/-- No change takes anything away. -/
theorem extended (h : Reaches hash c c') : c.Extends c' := by
  induction h with
  | start => exact .refl c
  | @change c' change _ ih =>
    obtain ⟨es, hes⟩ := perform_kept hash c' change
    rw [hes]
    exact ih.trans (extends_keepAll hash c' es)

theorem consistent (h : Reaches hash c c') (hc : Consistent hash c) : Consistent hash c' := by
  induction h with
  | start => exact hc
  | @change c' change _ ih =>
    obtain ⟨es, hes⟩ := perform_kept hash c' change
    rw [hes]
    exact ih.keepAll es

end Reaches

/-- **The catalog only grows, and what is decoded stays.** In every catalog `c` that comes about by
    changes, whether these succeed or fail:

    * every definition is under its own selector, and two signatures never share one;
    * the two definitions of the beginning are there;
    * whatever is done then, nothing is removed or replaced, and data that report an error report the
      same one afterwards;
    * a definition is refused exactly if another signature holds its selector, and then nothing
      changes;
    * a change that succeeds gives how much the catalog has grown. -/
theorem grows
    (hsep : hash ErrorDefinition.message.signature ≠ hash ErrorDefinition.panic.signature)
    (h : Reaches hash (initial hash) c) :
    ((∀ entry ∈ c.entries, entry.1 = hash entry.2.signature) ∧
      ∀ s e s' e', (s, e) ∈ c.entries → (s', e') ∈ c.entries → e.signature ≠ e'.signature →
        s ≠ s') ∧
    (c.find? (hash ErrorDefinition.message.signature) = some ErrorDefinition.message ∧
      c.find? (hash ErrorDefinition.panic.signature) = some ErrorDefinition.panic) ∧
    (∀ c', Reaches hash c c' → (∀ entry ∈ c.entries, entry ∈ c'.entries) ∧
      (∀ s e, c.find? s = some e → c'.find? s = some e) ∧
      ∀ data text, c.decodeText data = .ok text → c'.decodeText data = .ok text) ∧
    (∀ e, ((∃ err, c.add hash e = .error err) ↔ ∃ kept, c.Holds hash kept e) ∧
      ∀ kept, c.Holds hash kept e → addOne hash e c =
        (.error (.collision (hash e.signature) kept.signature e.signature), c)) ∧
    ∀ (change : Change) n c', change.perform hash c = (.ok n, c') → c'.size = c.size + n := by
  have hinitial := consistent_initial hsep
  have hc := h.consistent hinitial
  have hmessage : (hash ErrorDefinition.message.signature, ErrorDefinition.message) ∈
      (initial hash).entries := List.mem_cons_self
  have hpanic : (hash ErrorDefinition.panic.signature, ErrorDefinition.panic) ∈
      (initial hash).entries := List.mem_cons_of_mem _ List.mem_cons_self
  refine ⟨⟨hc.own, ?_⟩, ⟨?_, ?_⟩, ?_, ?_, ?_⟩
  · intro s e s' e' he he' hne
    exact hc.selector_ne he he' hne
  · exact h.extended.find? (hinitial.find?_of_mem hmessage)
  · exact h.extended.find? (hinitial.find?_of_mem hpanic)
  · intro c' hlater
    have hext := hlater.extended
    refine ⟨?_, ?_, ?_⟩
    · intro entry he
      exact hext.mem he
    · intro s e hf
      exact hext.find? hf
    · intro data text hd
      exact hext.decodeText hd
  · intro e
    refine ⟨add_error_iff, ?_⟩
    intro kept hholds
    exact addOne_error hholds.add
  · intro change n c' hperform
    exact size_perform hperform

/-! ## A history -/

/-- Under its first four bytes its selector is that of `ErrorDefinition.message`. -/
def rival : ErrorDefinition := ⟨"ErrorWithCode", []⟩

/-- A definition has been added, another one refused, and a file not found. -/
def afterRefusal : ErrorCatalog :=
  ((Change.artifact .empty ⟨"Vault.json"⟩).perform leading
    ((Change.definition rival).perform leading
      ((Change.definition ⟨"Paused", []⟩).perform leading (initial leading)).2).2).2

theorem reaches_afterRefusal : Reaches leading (initial leading) afterRefusal :=
  .change _ (.change _ (.change _ .start))

theorem grows_after_refusal :
    leading ErrorDefinition.message.signature ≠ leading ErrorDefinition.panic.signature ∧
      Reaches leading (initial leading) afterRefusal ∧ afterRefusal.size = 3 ∧
      afterRefusal.Holds leading ErrorDefinition.message rival ∧
      addOne leading rival afterRefusal =
        (.error (.collision (leading rival.signature) "Error(string)" "ErrorWithCode()"),
          afterRefusal) := by
  obtain ⟨-, ⟨hmessage, -⟩, -, hrefused, -⟩ := grows leading_separates reaches_afterRefusal
  have hholds : afterRefusal.Holds leading ErrorDefinition.message rival := ⟨hmessage, by decide⟩
  exact ⟨leading_separates, reaches_afterRefusal, by decide, hholds, (hrefused rival).2 _ hholds⟩

end PacketRelay.ErrorCatalog
