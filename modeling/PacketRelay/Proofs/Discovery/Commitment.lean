/-
  The places of commitments.

  * `sequence_of_commitmentPath` and `identifiers_of_commitmentPath` read a path from its two ends:
    the sequence stands behind the last slash, and the port ends where the next slash follows;
  * `calls_commitment`: a scanner asks for the commitment of a packet under the hash of its path;
  * `commitments_told_apart`: so the commitments of different packets of a channel are looked up
    under the hashes of different texts.
-/
import Mathlib.Data.Set.Function
import PacketRelay.Proofs.Discovery.Sent
import PacketRelay.Proofs.Text.Numeral
import PacketRelay.Proofs.Text.Utf8

namespace PacketRelay

section
variable {α : Type} {x : α} {before before' after after' : List α}

/-- The first one of equal elements stands at one place only. -/
theorem Text.split_unique (h : before ++ x :: after = before' ++ x :: after') (hbefore : x ∉ before)
    (hbefore' : x ∉ before') : before = before' ∧ after = after' := by
  have hne : ∀ {l : List α}, x ∉ l → ∀ y ∈ l, y ≠ x := fun hl y hy heq => hl (heq ▸ hy)
  obtain ⟨rfl, -⟩ := first_unique h (hne hbefore) (not_not_intro rfl) (hne hbefore')
    (not_not_intro rfl)
  exact ⟨rfl, (List.cons.inj (List.append_cancel_left h)).2⟩

/-- The last one of equal elements stands at one place only. -/
theorem Text.split_last_unique (h : before ++ x :: after = before' ++ x :: after')
    (hafter : x ∉ after) (hafter' : x ∉ after') : after = after' := by
  have hreverse : after.reverse ++ x :: before.reverse =
      after'.reverse ++ x :: before'.reverse := by
    simpa using congrArg List.reverse h
  obtain ⟨hsame, -⟩ := split_unique hreverse (mt List.mem_reverse.1 hafter)
    (mt List.mem_reverse.1 hafter')
  exact List.reverse_injective hsame

end

theorem Decimal.slash_notMem_digits (n : Nat) : '/' ∉ digits n := by
  intro h
  obtain ⟨d, hd, hc⟩ := mem_digits h
  have hdigit := (digitChar_spec hd).1
  rw [← hc] at hdigit
  cases hdigit

namespace Contract

/-! ## Paths -/

variable {port port' channel channel' : String} {sequence sequence' : Nat}

theorem toList_commitmentPath (port channel : String) (sequence : Nat) :
    (commitmentPath port channel sequence).toList =
      "commitments/ports/".toList ++ port.toList ++ "/channels/".toList ++ channel.toList ++
        "/sequences/".toList ++ Decimal.digits sequence := by
  unfold commitmentPath
  simp only [String.toList_append]
  exact congrArg _ String.toList_ofList

/-- A path tells the sequence, which stands behind the last slash. -/
theorem sequence_of_commitmentPath
    (h : commitmentPath port channel sequence = commitmentPath port' channel' sequence') :
    sequence = sequence' := by
  have hslash : "/sequences/".toList = "/sequences".toList ++ ['/'] := rfl
  have hchars := congrArg String.toList h
  rw [toList_commitmentPath, toList_commitmentPath, hslash] at hchars
  generalize "commitments/ports/".toList = start, "/channels/".toList = middle,
    "/sequences".toList = finish at hchars
  rw [← List.append_assoc, ← List.append_assoc, List.append_assoc _ ['/'],
    List.append_assoc _ ['/']] at hchars
  have hdigits := Text.split_last_unique hchars (Decimal.slash_notMem_digits _)
    (Decimal.slash_notMem_digits _)
  exact Decimal.text_injective (congrArg String.ofList hdigits)

/-- A path tells the port and the channel, if no port has a slash. -/
theorem identifiers_of_commitmentPath
    (h : commitmentPath port channel sequence = commitmentPath port' channel' sequence')
    (hport : '/' ∉ port.toList) (hport' : '/' ∉ port'.toList) : port = port' ∧ channel = channel' := by
  obtain rfl := sequence_of_commitmentPath h
  have hslash : "/channels/".toList = '/' :: "channels/".toList := rfl
  have hchars := congrArg String.toList h
  rw [toList_commitmentPath, toList_commitmentPath, hslash] at hchars
  generalize "commitments/ports/".toList = start, "channels/".toList = middle,
    "/sequences/".toList = finish at hchars
  simp only [List.append_assoc, List.append_cancel_left_eq, List.cons_append] at hchars
  obtain ⟨hports, hbehind⟩ := Text.split_unique hchars hport hport'
  have hchannels := List.append_cancel_right (List.append_cancel_left hbehind)
  exact ⟨String.toList_injective hports, String.toList_injective hchannels⟩

/-- With slashes in them a path can be read in two ways. -/
example : commitmentPath "transfer/channels/a" "b" 1 = commitmentPath "transfer" "a/channels/b" 1 := by
  decide

/-! ## Calls -/

/-- The input of the call is a selector and the key. -/
theorem commitmentInput_eq (key : Hash) : commitmentInput key =
    (Abi.selector (Abi.signatureText "getCommitment" (AbiType.texts [.fixedBytes 32]))).bytes ++
      key.bytes := by
  have hpadded : Abi.padded key.bytes = key.bytes := by simp [Abi.padded, key.size]
  show _ ++ (Abi.padded key.bytes ++ [] ++ []) = _
  rw [hpadded, List.append_nil, List.append_nil]

theorem commitmentInput_injective : Function.Injective commitmentInput := by
  intro key key' h
  rw [commitmentInput_eq, commitmentInput_eq, List.append_cancel_left_eq] at h
  cases key
  cases key'
  cases h
  rfl

end Contract

namespace Scanner

open Session

variable {σ : Type} [Node σ] (k : Scanner)

/-- What a scanner hashes to find the commitment of a packet. -/
def preimage (sequence : Nat) : Bytes :=
  utf8 (Contract.commitmentPath k.path.own.port k.path.own.channel sequence)

/-- The query for the commitment that is stored under the hash of a text. -/
def commitmentQuery (preimage : Bytes) (height : Nat) : Query :=
  .call k.contract (Contract.commitmentInput (keccak256 preimage)) (some height)

theorem preimage_injective : Function.Injective k.preimage := fun _ _ h =>
  Contract.sequence_of_commitmentPath (Utf8.utf8_injective h)

/-- A query is called as long as the token has not fired. -/
theorem calls_query {token : CancelToken} {s : Session σ} (h : token.check s.now = none) (q : Query) :
    (run (query token q) s).2.calls = s.calls ++ [(s.now, .node q)] := by
  rw [query, run_adapt, ask_eq_call]
  rcases run_call_cases token NodeError.cancelled (.node q) (Node.delay · q) (Node.reply q) s with
    ⟨_, hfired, -⟩ | ⟨_, _, _, _, hr⟩ | ⟨_, _, hr⟩
  · rw [h] at hfired
    cases hfired
  · rw [hr]
    rfl
  · rw [hr]
    rfl

/-- A scanner looks a commitment up under the hash of the packet's path. -/
theorem calls_commitment {token : CancelToken} {s : Session σ} (h : token.check s.now = none)
    (sequence height : Nat) : (run (k.commitment token sequence height) s).2.calls =
      s.calls ++ [(s.now, .node (k.commitmentQuery (k.preimage sequence) height))] := by
  have hread : k.commitment token sequence height =
      (query token (k.commitmentQuery (k.preimage sequence) height) : Run σ DiscoveryError _) >>=
        fun answer => lift (Contract.commitmentOf answer) := rfl
  rw [← calls_query h, hread, run_bind]
  rcases run (query token (k.commitmentQuery (k.preimage sequence) height)) s with
    ⟨_ | _, _⟩ <;> rfl

/-- Where the hash has no collision, different texts are looked up by different queries. -/
theorem commitmentQuery_injOn {texts : Set Bytes} (h : texts.InjOn keccak256) {b b' : Bytes}
    (hb : b ∈ texts) (hb' : b' ∈ texts) {height height' : Nat}
    (hsame : k.commitmentQuery b height = k.commitmentQuery b' height') : b = b' := by
  injection hsame with _ hinput
  exact h hb hb' (Contract.commitmentInput_injective hinput)

/-- **Commitments are told apart.**  The path of a commitment tells the sequence of the packet, and the
    port and the channel as well unless a port has a slash.  So a scanner looks the commitments of
    different packets up under the hashes of different texts, and by different queries as far as the
    hash has no collision among these. -/
theorem commitments_told_apart :
    (∀ (port channel port' channel' : String) (sequence sequence' : Nat),
      Contract.commitmentPath port channel sequence =
          Contract.commitmentPath port' channel' sequence' →
        sequence = sequence' ∧
          ('/' ∉ port.toList → '/' ∉ port'.toList → port = port' ∧ channel = channel')) ∧
    ∀ k : Scanner, Function.Injective k.preimage ∧
      (∀ (token : CancelToken) (s : Session σ) (sequence height : Nat), token.check s.now = none →
        (run (k.commitment token sequence height) s).2.calls =
          s.calls ++ [(s.now, .node (k.commitmentQuery (k.preimage sequence) height))]) ∧
      ∀ sequences : Set Nat, (k.preimage '' sequences).InjOn keccak256 →
        ∀ sequence ∈ sequences, ∀ sequence' ∈ sequences, ∀ height height' : Nat,
          k.commitmentQuery (k.preimage sequence) height =
            k.commitmentQuery (k.preimage sequence') height' → sequence = sequence' := by
  refine ⟨fun _ _ _ _ _ _ h => ⟨Contract.sequence_of_commitmentPath h,
    Contract.identifiers_of_commitmentPath h⟩, fun k => ⟨k.preimage_injective,
    fun _ _ sequence height h => k.calls_commitment h sequence height, ?_⟩⟩
  intro sequences hfree sequence hs sequence' hs' height height' hsame
  exact k.preimage_injective (k.commitmentQuery_injOn hfree (Set.mem_image_of_mem _ hs)
    (Set.mem_image_of_mem _ hs') hsame)

namespace Sample

theorem head_keccak256_one : (keccak256 (scanner.preimage 1)).bytes.head? = some 28 := by
  decide +kernel

theorem head_keccak256_two : (keccak256 (scanner.preimage 2)).bytes.head? = some 253 := by
  decide +kernel

end Sample

/-- The first two packets of a channel are looked up by different queries. -/
theorem commitments_told_apart_first_two :
    (Sample.scanner.preimage '' {1, 2}).InjOn keccak256 ∧
    ∀ height, Sample.scanner.commitmentQuery (Sample.scanner.preimage 1) height ≠
      Sample.scanner.commitmentQuery (Sample.scanner.preimage 2) height := by
  have hfree : (Sample.scanner.preimage '' {1, 2}).InjOn keccak256 := by
    rw [Set.image_pair, Set.injOn_pair]
    intro h
    have hhead := Sample.head_keccak256_one
    rw [h, Sample.head_keccak256_two] at hhead
    exact absurd hhead (by decide)
  refine ⟨hfree, fun height hsame => ?_⟩
  obtain ⟨-, htold⟩ := commitments_told_apart (σ := ScriptedPeers)
  obtain ⟨-, -, hqueries⟩ := htold Sample.scanner
  exact absurd (hqueries {1, 2} hfree 1 (by simp) 2 (by simp) height height hsame) (by decide)

end Scanner

end PacketRelay
